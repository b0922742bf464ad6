import OzPos.Client.PullCycle
import OzPos.Server.PullPaging

namespace OzPos

variable {κ : Type}

variable (a b : Option String)

def SinceLe : Prop := a.getD "" ≤ b.getD ""

instance : Decidable (SinceLe a b) := inferInstanceAs (Decidable (_ ≤ _))

/-- A pull from the saved anchor still has the item ahead of it. -/
def Ahead (db : ClientDb κ) (item : OfflineQueueItem) : Prop :=
  beyondAnchor db.pullState.since db.pullState.cursor item

def Held (db : ClientDb κ) (item : OfflineQueueItem) : Prop :=
  isSettled db item = true ∨ Ahead db item

def PullAct.isRequeue : PullAct κ → Bool
  | .requeue _ => true
  | _ => false

def PullAct.tick? : PullAct κ → Option Nat
  | .page n _ => some n
  | .expired n _ _ => some n
  | _ => none

/-- From one state of a run to a later one: the anchor goes back by a rewind only, and passes
no item that has arrived and is not done with. -/
structure AnchorKept (s s' : PullSide κ) (acts : List (PullAct κ)) : Prop where
  monotone : (∀ a ∈ acts, a.isRequeue = false) →
    SinceLe s.db.pullState.since s'.db.pullState.since
  held : ∀ item ∈ s.received, Held s.db item → Held s'.db item

variable (crm : Crm κ) (s : PullSide κ)

/-- A pull that was rewound in flight leaves the anchor alone. -/
def RewindKept (a : PullAct κ) : Prop :=
  ∀ n tick, a.tick? = some n → s.ticks n = some tick → tick.rewound = true →
    (s.act crm a).db.pullState = s.db.pullState

/-- A page that moves the anchor is done with all of its items. -/
def PageDone (a : PullAct κ) : Prop :=
  ∀ n page, a = .page n page → (s.act crm a).db.pullState ≠ s.db.pullState →
    ∀ item ∈ page.items, isSettled (s.act crm a).db item = true

structure AnchorSafe (crm : Crm κ) (s : PullSide κ) (acts : List (PullAct κ)) : Prop where
  kept : ∀ l r t, acts = l ++ (r ++ t) →
    AnchorKept ((pullSideMachine crm).run s l) ((pullSideMachine crm).run s (l ++ r)) r
  steps : (pullSideMachine crm).Along (fun s a => RewindKept crm s a ∧ PageDone crm s a) s acts

/-- The item stands after what a page and its cursor cover. -/
def ComesAfter (tick : PullTick) (page : PulledPage) (item : OfflineQueueItem) : Prop :=
  SinceLe tick.since (some item.createdAt) ∧
    (∀ p ∈ page.items, p.createdAt ≤ item.createdAt) ∧
    ∀ ts cid, page.nextCursor.bind decodeCursor = some (ts, cid) → toLex (ts, cid) < item.position

/-- A page that saves: not for a rewound pull, with an item as new as the anchor, and around no
open item. -/
structure PageOrderly (s : PullSide κ) (tick : PullTick) (page : PulledPage) : Prop where
  rewound : tick.rewound = false
  newer : (tick.mode = .engine ∧ SinceLe s.db.pullState.since tick.since) ∨
    SinceLe s.db.pullState.since (pageMax page.items)
  covers : ∀ item ∈ s.received, isSettled s.db item = false → Ahead s.db item →
    item ∈ page.items ∨ ComesAfter tick page item

structure ResetOrderly (s : PullSide κ) (tick : PullTick) (oldestAvailable : Option String) :
    Prop where
  rewound : tick.rewound = false
  newer : SinceLe s.db.pullState.since oldestAvailable
  covers : ∀ item ∈ s.received, isSettled s.db item = false → Ahead s.db item →
    SinceLe oldestAvailable (some item.createdAt)

def Orderly : PullAct κ → Prop
  | .page n page => ∀ tick, s.ticks n = some tick → pageSaves crm tick page s.db = true →
    PageOrderly s tick page
  | .expired n oldestAvailable _ => ∀ tick, s.ticks n = some tick →
    ResetOrderly s tick oldestAvailable
  | _ => True

theorem SinceLe.refl (a : Option String) : SinceLe a a := le_refl _

theorem SinceLe.trans {a b c : Option String} (hab : SinceLe a b) (hbc : SinceLe b c) :
    SinceLe a c := le_trans hab hbc

theorem laterSince_getD : (laterSince a b).getD "" = max (a.getD "") (b.getD "") := by
  cases a with
  | none => exact (max_eq_right (empty_le_string _)).symm
  | some a =>
    cases b with
    | none => exact (max_eq_left (empty_le_string _)).symm
    | some b => rfl

variable {items : List OfflineQueueItem}

theorem pageMax_mem {newest : String}
    (h : pageMax items = some newest) : ∃ item ∈ items, item.createdAt = newest :=
  List.mem_map.mp (List.max?_mem h)

theorem savedSince_le {tick : PullTick} {bound : String}
    (hsince : SinceLe tick.since (some bound)) (hitems : ∀ p ∈ items, p.createdAt ≤ bound) :
    SinceLe (savedSince tick items) (some bound) := by
  have hmax : (pageMax items).getD "" ≤ bound := by
    cases hmax : pageMax items with
    | none => exact empty_le_string _
    | some newest =>
      obtain ⟨p, hp, rfl⟩ := pageMax_mem hmax
      exact hitems p hp
  unfold SinceLe savedSince at *
  cases tick.mode with
  | engine =>
    rw [laterSince_getD]
    exact max_le hsince hmax
  | daemon =>
    cases hnewest : pageMax items with
    | none => exact hsince
    | some newest =>
      rw [hnewest] at hmax
      exact hmax

theorem le_savedSince {tick : PullTick} {anchor : Option String}
    (h : (tick.mode = .engine ∧ SinceLe anchor tick.since) ∨ SinceLe anchor (pageMax items)) :
    SinceLe anchor (savedSince tick items) := by
  unfold SinceLe savedSince at *
  cases hmode : tick.mode with
  | engine =>
    rw [laterSince_getD]
    rcases h with ⟨_, h⟩ | h
    · exact h.trans (le_max_left _ _)
    · exact h.trans (le_max_right _ _)
  | daemon =>
    rcases h with ⟨hengine, _⟩ | h
    · rw [hmode] at hengine
      cases hengine
    · cases hnewest : pageMax items with
      | none =>
        rw [hnewest] at h
        exact h.trans (empty_le_string _)
      | some newest =>
        rw [hnewest] at h
        exact h

theorem ahead_start {db : ClientDb κ} (h : db.pullState = ⟨none, none⟩)
    (item : OfflineQueueItem) : Ahead db item := by
  unfold Ahead beyondAnchor
  rw [h]
  exact ⟨empty_le_string _, fun _ _ hcursor => by cases hcursor⟩

section Step

variable {crm : Crm κ} {s : PullSide κ}

structure PageKept (crm : Crm κ) (s : PullSide κ) (tick : PullTick) (page : PulledPage) : Prop where
  monotone : SinceLe s.db.pullState.since (pullPage crm tick page s.db).1.pullState.since
  held : ∀ item ∈ s.received, Held s.db item → Held (pullPage crm tick page s.db).1 item
  rewound : tick.rewound = true → (pullPage crm tick page s.db).1.pullState = s.db.pullState

theorem pageKept_of_orderly {tick : PullTick} {page : PulledPage}
    (h : pageSaves crm tick page s.db = true → PageOrderly s tick page) :
    PageKept crm s tick page := by
  have hsettled : ∀ item, isSettled s.db item = true →
      isSettled (pullPage crm tick page s.db).1 item = true :=
    fun item hitem => pullPage_settled tick page hitem
  rcases (pullPage_outcome tick page s.db : PageOutcome crm tick page s.db _) with ⟨_, hstate, _⟩ | ⟨hsaves, hsaved⟩
  · refine ⟨by rw [hstate]; exact SinceLe.refl _, ?_, fun _ => hstate⟩
    intro item _ hheld
    unfold Held Ahead at *
    rw [hstate]
    exact hheld.imp_left (hsettled item)
  · obtain ⟨hrewound, hnewer, hcovers⟩ := h hsaves
    refine ⟨?_, ?_, ?_⟩
    · rw [hsaved.state]
      exact le_savedSince hnewer
    · intro item hitem hheld
      cases hopen : isSettled s.db item with
      | true => exact .inl (hsettled item hopen)
      | false =>
        have hahead := hheld.resolve_left (by simp [hopen])
        rcases hcovers item hitem hopen hahead with hmem | ⟨hsince, hpage, hcursor⟩
        · exact .inl (hsaved.done item hmem)
        · right
          unfold Ahead
          rw [hsaved.state]
          exact ⟨savedSince_le hsince hpage, hcursor⟩
    · intro hyes
      rw [hrewound] at hyes
      cases hyes

structure StepKept (crm : Crm κ) (s : PullSide κ) (a : PullAct κ) : Prop where
  monotone : a.isRequeue = false → SinceLe s.db.pullState.since (s.act crm a).db.pullState.since
  held : ∀ item ∈ s.received, Held s.db item → Held (s.act crm a).db item
  received : ∀ item ∈ s.received, item ∈ (s.act crm a).received
  rewind : RewindKept crm s a
  done : PageDone crm s a

variable {a : PullAct κ}

theorem stepKept_of_anchor (hstate : (s.act crm a).db.pullState = s.db.pullState)
    (hsettled : ∀ item, isSettled s.db item = true → isSettled (s.act crm a).db item = true)
    (hreceived : (s.act crm a).received = s.received) : StepKept crm s a := by
  refine ⟨?_, ?_, ?_, fun _ _ _ _ _ => hstate, fun _ _ _ hmoved => absurd hstate hmoved⟩
  · intro _
    rw [hstate]
    exact SinceLe.refl _
  · intro item _ hheld
    unfold Held Ahead at *
    rw [hstate]
    exact hheld.imp_left (hsettled item)
  · rw [hreceived]
    exact fun _ hitem => hitem

theorem stepKept_of_same (h : s.act crm a = s) : StepKept crm s a := by
  refine stepKept_of_anchor ?_ ?_ ?_ <;> rw [h]
  exact fun _ hdone => hdone

theorem page_kept {n : Nat} {page : PulledPage} (h : Orderly crm s (.page n page)) :
    StepKept crm s (.page n page) := by
  cases htick : s.ticks n with
  | none =>
    apply stepKept_of_same
    unfold PullSide.act
    simp only [htick]
  | some tick =>
    have hkept := pageKept_of_orderly (h tick htick)
    have hdb : (s.act crm (.page n page)).db = (pullPage crm tick page s.db).1 := by
      unfold PullSide.act
      simp only [htick]
    have hreceived : (s.act crm (.page n page)).received = s.received ++ page.items := by
      unfold PullSide.act
      simp only [htick]
    refine ⟨?_, ?_, ?_, ?_, ?_⟩
    · intro _
      rw [hdb]
      exact hkept.monotone
    · rw [hdb]
      exact hkept.held
    · rw [hreceived]
      exact fun _ hitem => List.mem_append_left _ hitem
    · intro m other hm hother hrewound
      obtain rfl : n = m := Option.some.inj hm
      obtain rfl := Option.some.inj (htick.symm.trans hother)
      rw [hdb]
      exact hkept.rewound hrewound
    · intro m other hpage hmoved
      cases hpage
      rw [hdb] at hmoved ⊢
      rcases (pullPage_outcome tick page s.db : PageOutcome crm tick page s.db _) with
        ⟨_, hstate, _⟩ | ⟨_, hsaved⟩
      · exact absurd hstate hmoved
      · exact hsaved.done

theorem expired_kept {n : Nat} {oldestAvailable : Option String}
    {importSnapshot : DomainTables κ → DomainTables κ}
    (h : Orderly crm s (.expired n oldestAvailable importSnapshot)) :
    StepKept crm s (.expired n oldestAvailable importSnapshot) := by
  cases htick : s.ticks n with
  | none =>
    apply stepKept_of_same
    unfold PullSide.act
    simp only [htick]
  | some tick =>
    obtain ⟨hrewound, hnewer, hcovers⟩ := h tick htick
    have hdb : (s.act crm (.expired n oldestAvailable importSnapshot)).db =
        recoverExpiredAnchor oldestAvailable importSnapshot s.db := by
      unfold PullSide.act
      simp only [htick]
    refine ⟨?_, ?_, ?_, ?_, fun _ _ hpage => by cases hpage⟩
    · intro _
      rw [hdb]
      exact hnewer
    · intro item hitem hheld
      rw [hdb]
      cases hopen : isSettled s.db item with
      | true => exact .inl hopen
      | false =>
        right
        have hahead := hheld.resolve_left (by simp [hopen])
        exact ⟨hcovers item hitem hopen hahead, fun _ _ hcursor => by cases hcursor⟩
    · unfold PullSide.act PullSide.setTick
      simp only [htick]
      exact fun _ hitem => hitem
    · intro m other hm hother hyes
      obtain rfl : n = m := Option.some.inj hm
      obtain rfl := Option.some.inj (htick.symm.trans hother)
      rw [hrewound] at hyes
      cases hyes

theorem requeue_kept (itemId : String) : StepKept crm s (.requeue itemId) := by
  cases hrequeue : s.db.requeueRemoteFailure itemId with
  | error e =>
    apply stepKept_of_same
    unfold PullSide.act
    simp only [hrequeue]
  | ok db =>
    have hstart : db.pullState = ⟨none, none⟩ := by
      unfold ClientDb.requeueRemoteFailure at hrequeue
      split at hrequeue
      · cases hrequeue
        rfl
      · cases hrequeue
    refine ⟨?_, ?_, ?_, ?_, ?_⟩
    · intro hno
      cases hno
    · intro item _ _
      right
      unfold PullSide.act
      simp only [hrequeue]
      exact ahead_start hstart item
    · unfold PullSide.act
      simp only [hrequeue]
      exact fun _ hitem => hitem
    · intro m tick htick
      cases htick
    · intro m page hpage
      cases hpage

theorem act_kept (h : Orderly crm s a) : StepKept crm s a := by
  cases a with
  | begin n mode =>
    have hsame : (s.act crm (.begin n mode)).db = s.db ∧
        (s.act crm (.begin n mode)).received = s.received := by
      unfold PullSide.act
      simp only
      split <;> exact ⟨rfl, rfl⟩
    apply stepKept_of_anchor
    · rw [hsame.1]
    · rw [hsame.1]
      exact fun _ hdone => hdone
    · exact hsame.2
  | page n page => exact page_kept h
  | expired n oldestAvailable importSnapshot => exact expired_kept h
  | abandon n => exact stepKept_of_anchor rfl (fun _ hdone => hdone) rfl
  | requeue itemId => exact requeue_kept itemId
  | localWrite write => exact stepKept_of_anchor rfl (fun _ hdone => hdone) rfl

end Step

theorem anchorKept_run (crm : Crm κ) (s : PullSide κ) (acts : List (PullAct κ))
    (h : (pullSideMachine crm).Along (Orderly crm) s acts) :
    AnchorKept s ((pullSideMachine crm).run s acts) acts ∧
      ∀ item ∈ s.received, item ∈ ((pullSideMachine crm).run s acts).received := by
  induction acts generalizing s with
  | nil => exact ⟨⟨fun _ => SinceLe.refl _, fun _ _ hheld => hheld⟩, fun _ hitem => hitem⟩
  | cons a acts ih =>
    have hstep := act_kept h.1
    obtain ⟨hrest, hlater⟩ := ih _ h.2
    refine ⟨⟨?_, ?_⟩, ?_⟩
    · intro hno
      obtain ⟨hhere, hothers⟩ := List.forall_mem_cons.mp hno
      exact (hstep.monotone hhere).trans (hrest.monotone hothers)
    · intro item hitem hkept
      exact hrest.held item (hstep.received item hitem) (hstep.held item hitem hkept)
    · intro item hitem
      exact hlater item (hstep.received item hitem)

/-- Whatever pages arrive: while every page that saves is in order, the anchor is monotone
between rewinds, passes nothing that has arrived and is not done with, and is left alone by the
pulls that a rewind overtakes. -/
theorem pull_anchor_safe (crm : Crm κ) (s : PullSide κ) (acts : List (PullAct κ))
    (h : (pullSideMachine crm).Along (Orderly crm) s acts) : AnchorSafe crm s acts := by
  refine ⟨?_, Machine.along_mono _ ?_ s acts h⟩
  · intro l r t hsplit
    rw [hsplit, Machine.along_append, Machine.along_append] at h
    rw [Machine.run_append]
    exact (anchorKept_run crm _ r h.2.1).1
  · intro s a hok
    have hstep := act_kept hok
    exact ⟨hstep.rewind, hstep.done⟩

def anchoredSide : PullSide Unit where
  db :=
    { domain := DomainTables.empty ()
      applied := Table.empty
      failures := Table.empty.insertNew
        ⟨"item-9", "complete_sale", .text "", 3, .malformed "invalid sale payload", true⟩
      pullState := ⟨some "2026-03", none⟩ }
  received := []
  ticks := fun _ => none

def pulledPage (items : List OfflineQueueItem) (nextCursor : Option String) : PulledPage :=
  ⟨items, nextCursor, fun _ => ⟨⟨"2026-04", ""⟩, none⟩, ⟨[], Table.empty, []⟩, "2026-04", true⟩

def finalizeItem (id createdAt : String) : OfflineQueueItem :=
  queued id "finalize_sale" (.obj [("sale_id", .str id)]) createdAt none

def orderlyActs : List (PullAct Unit) :=
  [.begin 0 .engine, .page 0 (pulledPage [finalizeItem "a" "2026-03"] (some "2026-03|a")),
    .page 0 (pulledPage [finalizeItem "b" "2026-05"] none), .requeue "item-9"]

theorem orderly_acts_safe : AnchorSafe plainCrm anchoredSide orderlyActs := by
  refine pull_anchor_safe plainCrm anchoredSide orderlyActs ⟨trivial, ?_, ?_, trivial, trivial⟩
  · intro tick htick _
    obtain rfl := Option.some.inj htick
    refine ⟨rfl, .inl ⟨rfl, ?_⟩, ?_⟩
    · exact SinceLe.refl _
    · intro item hitem
      cases hitem
  · intro tick htick _
    have hnext : ((pullSideMachine plainCrm).run anchoredSide (orderlyActs.take 2)).ticks 0 =
        some ⟨.engine, some "2026-03", some "2026-03|a", false⟩ := by decide +kernel
    have hdone : ∀ item ∈ ((pullSideMachine plainCrm).run anchoredSide (orderlyActs.take 2)).received,
        isSettled ((pullSideMachine plainCrm).run anchoredSide (orderlyActs.take 2)).db item =
          true := by decide +kernel
    obtain rfl := Option.some.inj (hnext.symm.trans htick)
    refine ⟨rfl, .inr (by decide +kernel), ?_⟩
    intro item hitem hopen
    exact absurd (hopen.symm.trans (hdone item hitem)) Bool.false_ne_true

/-- An older page moves the daemon's anchor back, and the library's loop writes its anchor over
a rewind. -/
theorem anchor_unsafe :
    ¬ AnchorSafe plainCrm anchoredSide
      [.begin 0 .daemon, .page 0 (pulledPage [finalizeItem "a" "2026-01"] none)] ∧
    ¬ AnchorSafe plainCrm anchoredSide
      [.begin 0 .engine, .requeue "item-9", .page 0 (pulledPage [] none)] := by
  constructor
  · intro h
    have hkept := (h.kept [] [.begin 0 .daemon,
      .page 0 (pulledPage [finalizeItem "a" "2026-01"] none)] [] rfl).monotone (by simp [PullAct.isRequeue])
    revert hkept
    decide +kernel
  · intro h
    have hrewind := (((Machine.along_iff_splits _ _ _ _).mp h.steps) [.begin 0 .engine,
      .requeue "item-9"] (.page 0 (pulledPage [] none)) [] rfl).1 0
      ⟨.engine, some "2026-03", none, true⟩ rfl (by decide +kernel) rfl
    revert hrewind
    decide +kernel

end OzPos
