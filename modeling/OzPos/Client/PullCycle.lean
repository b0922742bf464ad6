import OzPos.Client.Rebuild
import OzPos.Client.StockOrder

namespace OzPos

/-- The two pull loops: `run_sync_cycle` of the library and a tick of the daemon. -/
inductive PullMode where
  | engine
  | daemon
  deriving DecidableEq

/-- A pull in flight, with the anchor it read. `rewound` only records that the operator rewound
the anchor since. -/
structure PullTick where
  mode : PullMode
  (since cursor : Option String)
  rewound : Bool
  deriving DecidableEq

def PullTick.captured (t : PullTick) : PullState := ⟨t.since, t.cursor⟩

/-- What one application draws, and a refusal by the database before anything is written. -/
structure ItemDraw where
  apply : ApplyDraw
  fault : Option CoreError

/-- A page and what is met while it is applied; `saves` is false where the anchor's own write
fails or the process ends before it. -/
structure PulledPage where
  items : List OfflineQueueItem
  nextCursor : Option String
  draws : Nat → ItemDraw
  bindings : StockBindings
  now : String
  saves : Bool

variable {κ : Type}

variable (crm : Crm κ)

def deliverOne (draw : ItemDraw) (item : OfflineQueueItem) (db : ClientDb κ) :
    ClientDb κ × Except CoreError ApplyOutcome :=
  match draw.fault with
  | some e => (db, .error e)
  | none => applyRemoteAtomicFull crm draw.apply item db

def itemDone (item : OfflineQueueItem) (result : ClientDb κ × Except CoreError ApplyOutcome) :
    Bool :=
  match result.2 with
  | .ok _ => true
  | .error _ => result.1.isRemoteFailureDeadLettered item.id

/-- The items one after the other; whether all of them are done with. -/
def applyItems (crm : Crm κ) :
    (Nat → ItemDraw) → List OfflineQueueItem → ClientDb κ → ClientDb κ × Bool
  | _, [], db => (db, true)
  | draws, item :: rest, db =>
    let result := deliverOne crm (draws 0) item db
    let (db, clean) := applyItems crm (fun n => draws (n + 1)) rest result.1
    (db, itemDone item result && clean)

def pageMax (items : List OfflineQueueItem) : Option String :=
  (items.map OfflineQueueItem.createdAt).max?

/-- `std::cmp::max` on options. -/
def laterSince : Option String → Option String → Option String
  | none, b => b
  | some a, none => some a
  | some a, some b => some (max a b)

namespace ClientDb

def setSyncPullState (since cursor : Option String) (db : ClientDb κ) : ClientDb κ :=
  { db with pullState := ⟨since, cursor⟩ }

/-- The operator's rewind: a quarantined item is released and everything is pulled again. -/
def requeueRemoteFailure (itemId : String) (db : ClientDb κ) : Except CoreError (ClientDb κ) :=
  if db.isRemoteFailureDeadLettered itemId then
    .ok { db with
      failures := db.failures.retain (fun row => row.itemId ≠ itemId)
      pullState := ⟨none, none⟩ }
  else .error (.notFound "sync_remote_failures" itemId)

def rebuildAfterPull (page : PulledPage) (db : ClientDb κ) : ClientDb κ × Bool :=
  if page.items.any (fun item => item.action = "stock.movement") then
    match db.domain.rebuildStockSummary page.bindings page.now with
    | .ok (_, domain) => ({ db with domain }, true)
    | .error _ => (db, false)
  else (db, true)

end ClientDb

variable (tick : PullTick) (page : PulledPage) (db : ClientDb κ)

/-- One page of the library's loop, and the tick that goes on with the next one. -/
def enginePage : ClientDb κ × Option PullTick :=
  let (db, clean) := applyItems crm page.draws page.items db
  if clean && page.saves then
    let since := laterSince tick.since (pageMax page.items)
    (db.setSyncPullState since page.nextCursor,
      if page.nextCursor.isSome then some { tick with since, cursor := page.nextCursor } else none)
  else (db, none)

def applyPulledPage : ClientDb κ :=
  let (db, clean) := applyItems crm page.draws page.items db
  let (db, rebuilt) := db.rebuildAfterPull page
  if clean && rebuilt && page.saves then
    if db.pullState = tick.captured then
      db.setSyncPullState ((pageMax page.items).or tick.since) page.nextCursor
    else db
  else db

def daemonPage : ClientDb κ × Option PullTick :=
  (if page.items = [] then db else applyPulledPage crm tick page db, none)

def savedSince (items : List OfflineQueueItem) : Option String :=
  match tick.mode with
  | .engine => laterSince tick.since (pageMax items)
  | .daemon => (pageMax items).or tick.since

def pageSaves : Bool :=
  let (applied, clean) := applyItems crm page.draws page.items db
  match tick.mode with
  | .engine => clean && page.saves
  | .daemon =>
    decide (page.items ≠ []) && (clean && (applied.rebuildAfterPull page).2 && page.saves) &&
      decide (db.pullState = tick.captured)

def pullPage : ClientDb κ × Option PullTick :=
  match tick.mode with
  | .engine => enginePage crm tick page db
  | .daemon => daemonPage crm tick page db

/-- The snapshot of a server whose window has left the anchor behind. -/
def recoverExpiredAnchor (oldestAvailable : Option String)
    (importSnapshot : DomainTables κ → DomainTables κ) (db : ClientDb κ) : ClientDb κ :=
  ({ db with domain := importSnapshot db.domain }).setSyncPullState oldestAvailable none

/-- A terminal and its pulls in flight; `received` only records what pages have brought. -/
structure PullSide (κ : Type) where
  db : ClientDb κ
  received : List OfflineQueueItem
  ticks : Nat → Option PullTick

inductive PullAct (κ : Type) where
  | begin (tick : Nat) (mode : PullMode)
  | page (tick : Nat) (page : PulledPage)
  | expired (tick : Nat) (oldestAvailable : Option String)
      (importSnapshot : DomainTables κ → DomainTables κ)
  | abandon (tick : Nat)
  | requeue (itemId : String)
  | localWrite (write : DomainTables κ → DomainTables κ)

namespace PullSide

def setTick (n : Nat) (tick : Option PullTick) (s : PullSide κ) : PullSide κ :=
  { s with ticks := Function.update s.ticks n tick }

def rewindTicks (s : PullSide κ) : PullSide κ :=
  { s with ticks := fun n => (s.ticks n).map (fun tick => { tick with rewound := true }) }

def act (s : PullSide κ) : PullAct κ → PullSide κ
  | .begin n mode =>
    match s.ticks n with
    | some _ => s
    | none => s.setTick n (some ⟨mode, s.db.pullState.since, s.db.pullState.cursor, false⟩)
  | .page n page =>
    match s.ticks n with
    | none => s
    | some tick =>
      let (db, next) := pullPage crm tick page s.db
      { (s.setTick n next) with db, received := s.received ++ page.items }
  | .expired n oldestAvailable importSnapshot =>
    match s.ticks n with
    | none => s
    | some _ =>
      { (s.setTick n none) with
        db := recoverExpiredAnchor oldestAvailable importSnapshot s.db }
  | .abandon n => s.setTick n none
  | .requeue itemId =>
    match s.db.requeueRemoteFailure itemId with
    | .error _ => s
    | .ok db => { s.rewindTicks with db }
  | .localWrite write => { s with db := { s.db with domain := write s.db.domain } }

end PullSide

def pullSideMachine : Machine (PullSide κ) (PullAct κ) Unit where
  step s a := (s.act crm a, ())

section Apply

variable {crm : Crm κ}

variable {db : ClientDb κ} {other : OfflineQueueItem}

theorem isSettled_settle_mono {item : OfflineQueueItem} (d : DomainTables κ)
    (hdead : db.isRemoteFailureDeadLettered item.id = false) (h : isSettled db other = true) :
    isSettled (ClientDb.settle item { db with domain := d }) other = true := by
  rw [isSettled, Bool.or_eq_true] at h ⊢
  rcases h with h | h
  · have hid : other.id ≠ item.id := by
      intro hid
      rw [hid, hdead] at h
      cases h
    rw [isDeadLettered_settle d hid]
    exact .inl h
  · exact .inr (alreadyApplied_mono (rows_settle db item d) h)

variable (draw : ItemDraw) (item : OfflineQueueItem)

theorem deliverOne_settled (h : isSettled db other = true) :
    isSettled (deliverOne crm draw item db).1 other = true := by
  unfold deliverOne
  cases draw.fault with
  | some e => exact h
  | none =>
    simp only
    rcases applyRemoteAtomicFull_cases crm draw.apply item db with
      ⟨_, heq⟩ | ⟨hdead, ⟨_, heq⟩ | ⟨_, ⟨_, heq⟩ | ⟨_, ⟨d, _, heq⟩ | ⟨e, _, heq⟩⟩⟩⟩
    · rw [heq]
      exact h
    · rw [heq]
      exact isSettled_settle_mono db.domain hdead h
    · rw [heq]
      exact h
    · rw [heq]
      exact isSettled_settle_mono d hdead h
    · rw [heq]
      by_cases hid : other.id = item.id
      · rw [isSettled, hid, hdead, Bool.false_or] at h
        have hsame : (db.recordRemoteFailure item e).alreadyApplied other =
            db.alreadyApplied other := rfl
        rw [isSettled, hsame, h, Bool.or_true]
      · rw [isSettled_refused e hid]
        exact h

theorem deliverOne_done (db : ClientDb κ) (h : itemDone item (deliverOne crm draw item db) = true) :
    isSettled (deliverOne crm draw item db).1 item = true := by
  have hquarantined : ∀ (db' : ClientDb κ) (e : CoreError), itemDone item (db', .error e) = true →
      isSettled db' item = true := by
    intro db' e hdead
    exact Bool.or_eq_true _ _ ▸ .inl hdead
  unfold deliverOne at h ⊢
  cases hfault : draw.fault with
  | some e =>
    rw [hfault] at h
    exact hquarantined db e h
  | none =>
    rw [hfault] at h
    simp only at h ⊢
    rcases applyRemoteAtomicFull_cases crm draw.apply item db with
      ⟨hdead, heq⟩ | ⟨_, ⟨_, heq⟩ | ⟨_, ⟨hold, heq⟩ | ⟨_, ⟨d, _, heq⟩ | ⟨e, _, heq⟩⟩⟩⟩
    · rw [heq, isSettled, hdead, Bool.true_or]
    · have hsettled := alreadyApplied_settle db item db.domain
      rw [heq, isSettled, Bool.or_eq_true]
      exact .inr hsettled
    · rw [heq, isSettled, hold, Bool.or_true]
    · have hsettled := alreadyApplied_settle db item d
      rw [heq, isSettled, hsettled, Bool.or_true]
    · rw [heq] at h ⊢
      exact hquarantined _ e h

theorem deliverOne_pullState (db : ClientDb κ) :
    (deliverOne crm draw item db).1.pullState = db.pullState := by
  have hsettle : ∀ d : DomainTables κ,
      (ClientDb.settle item { db with domain := d }).pullState = db.pullState := by
    intro d
    unfold ClientDb.settle ClientDb.markRemoteItemApplied ClientDb.clearRemoteFailure
    split <;> rfl
  unfold deliverOne
  cases draw.fault with
  | some e => rfl
  | none =>
    simp only
    rcases applyRemoteAtomicFull_cases crm draw.apply item db with
      ⟨_, heq⟩ | ⟨_, ⟨_, heq⟩ | ⟨_, ⟨_, heq⟩ | ⟨_, ⟨d, _, heq⟩ | ⟨e, _, heq⟩⟩⟩⟩
    · rw [heq]
    · rw [heq]
      exact hsettle db.domain
    · rw [heq]
    · rw [heq]
      exact hsettle d
    · rw [heq]
      rfl

variable (draws : Nat → ItemDraw) (items : List OfflineQueueItem)

theorem applyItems_pullState (db : ClientDb κ) :
    (applyItems crm draws items db).1.pullState = db.pullState := by
  induction items generalizing draws db with
  | nil => rfl
  | cons item rest ih => exact (ih _ _).trans (deliverOne_pullState _ _ _)

theorem applyItems_settled (h : isSettled db other = true) :
    isSettled (applyItems crm draws items db).1 other = true := by
  induction items generalizing draws db with
  | nil => exact h
  | cons item rest ih => exact ih _ (deliverOne_settled _ _ h)

theorem applyItems_clean (db : ClientDb κ) (h : (applyItems crm draws items db).2 = true) :
    ∀ item ∈ items, isSettled (applyItems crm draws items db).1 item = true := by
  induction items generalizing draws db with
  | nil => simp
  | cons item rest ih =>
    unfold applyItems at h
    simp only [Bool.and_eq_true] at h
    refine List.forall_mem_cons.mpr ⟨?_, ih _ _ h.2⟩
    exact applyItems_settled _ rest (deliverOne_done _ item db h.1)

theorem rebuildAfterPull_keeps (page : PulledPage) (db : ClientDb κ) :
    (db.rebuildAfterPull page).1.pullState = db.pullState ∧
      ∀ item, isSettled (db.rebuildAfterPull page).1 item = isSettled db item := by
  unfold ClientDb.rebuildAfterPull
  split
  · split
    · exact ⟨rfl, fun _ => rfl⟩
    · exact ⟨rfl, fun _ => rfl⟩
  · exact ⟨rfl, fun _ => rfl⟩

structure Saved (tick : PullTick) (page : PulledPage) (db' : ClientDb κ)
    (next : Option PullTick) : Prop where
  state : db'.pullState = ⟨savedSince tick page.items, page.nextCursor⟩
  done : ∀ item ∈ page.items, isSettled db' item = true
  next : next = none ∨
    next = some { tick with since := savedSince tick page.items, cursor := page.nextCursor }

/-- What a page does to the anchor and to its pull. -/
def PageOutcome (crm : Crm κ) (tick : PullTick) (page : PulledPage) (db : ClientDb κ)
    (result : ClientDb κ × Option PullTick) : Prop :=
  (pageSaves crm tick page db = false ∧ result.1.pullState = db.pullState ∧ result.2 = none) ∨
    (pageSaves crm tick page db = true ∧ Saved tick page result.1 result.2)

theorem enginePage_outcome (tick : PullTick) (page : PulledPage) (db : ClientDb κ)
    (hmode : tick.mode = .engine) : PageOutcome crm tick page db (enginePage crm tick page db) := by
  have hstate : (applyItems crm page.draws page.items db).1.pullState = db.pullState :=
    applyItems_pullState page.draws page.items db
  have hsaves : pageSaves crm tick page db =
      ((applyItems crm page.draws page.items db).2 && page.saves) := by
    unfold pageSaves
    rw [hmode]
  unfold PageOutcome
  rw [hsaves]
  unfold enginePage
  cases hclean : (applyItems crm page.draws page.items db).2 && page.saves with
  | false =>
    left
    simp only [hclean, Bool.false_eq_true, if_false]
    exact ⟨trivial, hstate, trivial⟩
  | true =>
    right
    have hsince : savedSince tick page.items = laterSince tick.since (pageMax page.items) := by
      rw [savedSince, hmode]
    simp only [hclean, if_true]
    refine ⟨trivial, by rw [hsince]; rfl, ?_, ?_⟩
    · intro item hitem
      exact applyItems_clean page.draws page.items db (Bool.and_eq_true _ _ ▸ hclean).1 item hitem
    · rw [hsince]
      split
      · exact .inr rfl
      · exact .inl rfl

theorem daemonPage_outcome (tick : PullTick) (page : PulledPage) (db : ClientDb κ)
    (hmode : tick.mode = .daemon) : PageOutcome crm tick page db (daemonPage crm tick page db) := by
  have hstate : (applyItems crm page.draws page.items db).1.pullState = db.pullState :=
    applyItems_pullState page.draws page.items db
  obtain ⟨hrebuilt, hsettled⟩ :=
    rebuildAfterPull_keeps page (applyItems crm page.draws page.items db).1
  have hsaves : pageSaves crm tick page db = (decide (page.items ≠ []) &&
      ((applyItems crm page.draws page.items db).2 &&
        ((applyItems crm page.draws page.items db).1.rebuildAfterPull page).2 && page.saves) &&
      decide (db.pullState = tick.captured)) := by
    unfold pageSaves
    rw [hmode]
  unfold PageOutcome
  rw [hsaves]
  unfold daemonPage
  by_cases hempty : page.items = []
  · simp [hempty]
  · simp only [hempty, if_false, ne_eq, not_false_eq_true, decide_true, Bool.true_and]
    unfold applyPulledPage
    cases hclean : (applyItems crm page.draws page.items db).2 &&
        ((applyItems crm page.draws page.items db).1.rebuildAfterPull page).2 && page.saves with
    | false =>
      left
      simp only [hclean, Bool.false_eq_true, if_false]
      exact ⟨rfl, hrebuilt.trans hstate, trivial⟩
    | true =>
      simp only [hclean, if_true, Bool.true_and, hrebuilt, hstate]
      by_cases hsame : db.pullState = tick.captured
      · right
        rw [Bool.and_eq_true, Bool.and_eq_true] at hclean
        have hsince : savedSince tick page.items = (pageMax page.items).or tick.since := by
          rw [savedSince, hmode]
        simp only [hsame, if_true]
        refine ⟨decide_eq_true trivial, by rw [hsince]; rfl, ?_, .inl rfl⟩
        intro item hitem
        exact (hsettled item).trans (applyItems_clean page.draws page.items db hclean.1.1 item hitem)
      · left
        simp only [hsame, if_false]
        exact ⟨decide_eq_false not_false, hrebuilt.trans hstate, trivial⟩

theorem pullPage_outcome (tick : PullTick) (page : PulledPage) (db : ClientDb κ) :
    PageOutcome crm tick page db (pullPage crm tick page db) := by
  unfold pullPage
  cases hmode : tick.mode with
  | engine => exact enginePage_outcome tick page db hmode
  | daemon => exact daemonPage_outcome tick page db hmode

theorem pullPage_isSettled (tick : PullTick) (page : PulledPage) (db : ClientDb κ)
    (item : OfflineQueueItem) :
    isSettled (pullPage crm tick page db).1 item =
      isSettled (applyItems crm page.draws page.items db).1 item := by
  unfold pullPage
  cases tick.mode with
  | engine =>
    simp only
    unfold enginePage
    simp only
    split
    · rfl
    · rfl
  | daemon =>
    simp only
    unfold daemonPage
    by_cases hempty : page.items = []
    · simp only [hempty, if_true]
      rfl
    · have hrebuilt :=
        (rebuildAfterPull_keeps page (applyItems crm page.draws page.items db).1).2 item
      simp only [hempty, if_false]
      unfold applyPulledPage
      simp only
      split
      · split
        · exact hrebuilt
        · exact hrebuilt
      · exact hrebuilt

theorem pullPage_settled (tick : PullTick) (page : PulledPage) {item : OfflineQueueItem}
    (h : isSettled db item = true) : isSettled (pullPage crm tick page db).1 item = true := by
  rw [pullPage_isSettled]
  exact applyItems_settled page.draws page.items h

end Apply

end OzPos
