import OzPos.Client.Queue
import Mathlib.Data.Int.ConditionallyCompleteOrder
import OzPos.Library.Newest

namespace OzPos

def extractVersion (payload : Payload) : Option Int :=
  (payload.value?.bind (·.get? "version")).bind Json.asI64?

def extractStatus (payload : Payload) : Option String :=
  (payload.value?.bind (·.get? "status")).bind Json.asStr?

def saleStatusOrder : List String := ["active", "pending", "completed", "voided", "refunded"]

def saleStatusRank (status : String) : Nat := (saleStatusOrder.findIdx? (· = status)).getD 0

structure ResolvedItem where
  (localItem remoteItem : Option OfflineQueueItem)
  winner : OfflineQueueItem

variable (localItem remote : OfflineQueueItem)

def resolveLww : ResolvedItem :=
  { localItem := some localItem
    remoteItem := some remote
    winner := if remote.createdAt < localItem.createdAt then localItem else remote }

def resolveVersionLww : ResolvedItem :=
  { localItem := some localItem
    remoteItem := some remote
    winner :=
      match extractVersion localItem.payload, extractVersion remote.payload with
      | some lv, some rv => if rv < lv then localItem else remote
      | some _, none => localItem
      | none, some _ => remote
      | none, none => if remote.createdAt < localItem.createdAt then localItem else remote }

def resolveSaleLww : ResolvedItem :=
  let localRank := saleStatusRank ((extractStatus localItem.payload).getD "")
  let remoteRank := saleStatusRank ((extractStatus remote.payload).getD "")
  if remoteRank < localRank then ⟨some localItem, some remote, localItem⟩
  else if localRank < remoteRank then ⟨some localItem, some remote, remote⟩
  else resolveVersionLww localItem remote

/-- The `json!` of a merge; its members stand in key order. -/
def mergedPayload (localPayload remotePayload : Payload) : Json :=
  .obj [("local", localPayload.value?.getD .null), ("merge_type", .str "crdt_delta"),
    ("remote", remotePayload.value?.getD .null)]

variable (draw : Draw)

def resolveStockCrdt (localItem remote : OfflineQueueItem) : ResolvedItem :=
  { localItem := some localItem
    remoteItem := some remote
    winner :=
      { id := draw.winnerId
        action := localItem.action
        payload := .json (mergedPayload localItem.payload remote.payload)
        status := localItem.status
        retryCount := max localItem.retryCount remote.retryCount
        lastError := localItem.lastError.or remote.lastError
        createdAt := localItem.createdAt
        syncedAt := none
        tenantId := localItem.tenantId
        priority := localItem.priority
        originTerminalId := localItem.originTerminalId } }

inductive Strategy where
  | saleStatus
  | stockMerge
  | version
  | createdAt
  deriving DecidableEq

def versionPrefixes : List String :=
  ["product.", "category.", "tax.", "user.", "staff.", "setting.", "settings.", "preference."]

/-- The dispatch of `resolve_conflict` on the local action. -/
def strategyOf (action : String) : Strategy :=
  if startsWith action "sale." || action = "complete_sale" || action = "void_sale" ||
      action = "refund_sale" then .saleStatus
  else if startsWith action "stock." then .stockMerge
  else if versionPrefixes.any (startsWith action ·) then .version
  else .createdAt

def resolveConflict (localItem remote : OfflineQueueItem) : ResolvedItem :=
  match strategyOf localItem.action with
  | .saleStatus => resolveSaleLww localItem remote
  | .stockMerge => resolveStockCrdt draw localItem remote
  | .version => resolveVersionLww localItem remote
  | .createdAt => resolveLww localItem remote

variable (l r : OfflineQueueItem)

@[simp] theorem resolveLww_localItem :
    (resolveLww l r).localItem = some l := rfl

@[simp] theorem resolveLww_remoteItem :
    (resolveLww l r).remoteItem = some r := rfl

@[simp] theorem resolveVersionLww_localItem :
    (resolveVersionLww l r).localItem = some l := rfl

@[simp] theorem resolveVersionLww_remoteItem :
    (resolveVersionLww l r).remoteItem = some r := rfl

/-- The comparison of the version strategy, creation times where no version decides. -/
def localVersionNewer : Bool :=
  match extractVersion localItem.payload, extractVersion remote.payload with
  | some lv, some rv => rv < lv
  | some _, none => true
  | none, some _ => false
  | none, none => remote.createdAt < localItem.createdAt

variable (item : OfflineQueueItem)

def saleRank : Nat :=
  saleStatusRank ((extractStatus item.payload).getD "")

def localWins : Bool :=
  match strategyOf localItem.action with
  | .saleStatus =>
    saleRank remote < saleRank localItem ||
      saleRank remote = saleRank localItem && localVersionNewer localItem remote
  | .stockMerge => false
  | .version => localVersionNewer localItem remote
  | .createdAt => remote.createdAt < localItem.createdAt

theorem resolveVersionLww_winner :
    (resolveVersionLww l r).winner = if localVersionNewer l r then l else r := by
  cases hl : extractVersion l.payload <;> cases hr : extractVersion r.payload <;>
    simp [resolveVersionLww, localVersionNewer, hl, hr]

theorem resolveSaleLww_winner :
    (resolveSaleLww l r).winner =
      if saleRank r < saleRank l || saleRank r = saleRank l && localVersionNewer l r then l
      else r := by
  change (if saleRank r < saleRank l then (⟨some l, some r, l⟩ : ResolvedItem)
    else if saleRank l < saleRank r then ⟨some l, some r, r⟩
    else resolveVersionLww l r).winner = _
  rcases Nat.lt_trichotomy (saleRank r) (saleRank l) with h | h | h
  · simp [h]
  · simp [h, resolveVersionLww_winner]
  · have hne : saleRank r ≠ saleRank l := by omega
    have hge : ¬ saleRank r < saleRank l := by omega
    simp [h, hne, hge]

theorem resolveSaleLww_sides :
    (resolveSaleLww l r).localItem = some l ∧ (resolveSaleLww l r).remoteItem = some r := by
  unfold resolveSaleLww
  dsimp only
  split
  · exact ⟨rfl, rfl⟩
  · split
    · exact ⟨rfl, rfl⟩
    · exact ⟨rfl, rfl⟩

theorem resolveConflict_cases (l r : OfflineQueueItem) :
    (resolveConflict draw l r).localItem = some l ∧
      (resolveConflict draw l r).remoteItem = some r ∧
      (strategyOf l.action = .stockMerge ∧
          resolveConflict draw l r = resolveStockCrdt draw l r ∨
        strategyOf l.action ≠ .stockMerge ∧
          (resolveConflict draw l r).winner = if localWins l r then l else r) := by
  cases h : strategyOf l.action with
  | saleStatus =>
    obtain ⟨hl, hr⟩ := resolveSaleLww_sides l r
    refine ⟨by simp [resolveConflict, h, hl], by simp [resolveConflict, h, hr], .inr ⟨by simp, ?_⟩⟩
    simp [resolveConflict, localWins, h, resolveSaleLww_winner]
  | stockMerge =>
    have heq : resolveConflict draw l r = resolveStockCrdt draw l r := by simp [resolveConflict, h]
    exact ⟨by rw [heq]; rfl, by rw [heq]; rfl, .inl ⟨rfl, heq⟩⟩
  | version =>
    refine ⟨by simp [resolveConflict, h], by simp [resolveConflict, h], .inr ⟨by simp, ?_⟩⟩
    simp [resolveConflict, localWins, h, resolveVersionLww_winner]
  | createdAt =>
    refine ⟨by simp [resolveConflict, h], by simp [resolveConflict, h], .inr ⟨by simp, ?_⟩⟩
    simp [resolveConflict, localWins, h, resolveLww]

/-- What a strategy compares: the rank, the version with none below any, the creation time. -/
abbrev ConflictKey := ℕ ×ₗ WithBot ℤ ×ₗ String

/-- The version decides; the creation times only where neither item has one. -/
def versionOrder : WithBot ℤ ×ₗ String :=
  match extractVersion item.payload with
  | some version => toLex ((version : WithBot ℤ), "")
  | none => toLex (⊥, item.createdAt)

variable (strategy : Strategy)

def conflictKey (item : OfflineQueueItem) : ConflictKey :=
  match strategy with
  | .saleStatus => toLex (saleRank item, versionOrder item)
  | .version => toLex (0, versionOrder item)
  | .stockMerge | .createdAt => toLex (0, toLex (⊥, item.createdAt))

def resolveBy (draw : Draw) (localItem remote : OfflineQueueItem) : ResolvedItem :=
  match strategy with
  | .saleStatus => resolveSaleLww localItem remote
  | .stockMerge => resolveStockCrdt draw localItem remote
  | .version => resolveVersionLww localItem remote
  | .createdAt => resolveLww localItem remote

/-- The winner of a list, each item taken as the remote side of the one that won before it. -/
def foldConflicts (first : OfflineQueueItem) (rest : List OfflineQueueItem) : OfflineQueueItem :=
  rest.foldl (fun winner item => (resolveConflict draw winner item).winner) first

theorem versionOrder_lt_iff : versionOrder r < versionOrder l ↔ localVersionNewer l r = true := by
  unfold versionOrder localVersionNewer
  cases hl : extractVersion l.payload <;> cases hr : extractVersion r.payload <;>
    simp [Prod.Lex.toLex_lt_toLex]

theorem resolveBy_winner {strategy : Strategy} (l r : OfflineQueueItem)
    (h : strategy ≠ .stockMerge) :
    (resolveBy strategy draw l r).winner = newest (conflictKey strategy) l r := by
  unfold newest
  cases strategy with
  | stockMerge => exact absurd rfl h
  | saleStatus =>
    have hkey : conflictKey .saleStatus r < conflictKey .saleStatus l ↔
        (saleRank r < saleRank l || saleRank r = saleRank l && localVersionNewer l r) = true := by
      simp [conflictKey, Prod.Lex.toLex_lt_toLex, versionOrder_lt_iff]
    exact (resolveSaleLww_winner l r).trans (if_congr hkey.symm rfl rfl)
  | version =>
    have hkey : conflictKey .version r < conflictKey .version l ↔
        localVersionNewer l r = true := by
      simp [conflictKey, Prod.Lex.toLex_lt_toLex, versionOrder_lt_iff]
    exact (resolveVersionLww_winner l r).trans (if_congr hkey.symm rfl rfl)
  | createdAt =>
    have hkey : conflictKey .createdAt r < conflictKey .createdAt l ↔
        r.createdAt < l.createdAt := by
      simp [conflictKey, Prod.Lex.toLex_lt_toLex]
    exact if_congr hkey.symm rfl rfl

theorem resolveConflict_eq_by (l r : OfflineQueueItem) :
    resolveConflict draw l r = resolveBy (strategyOf l.action) draw l r := rfl

theorem foldConflicts_eq {strategy : Strategy} {draw : Draw} {first : OfflineQueueItem}
    {rest : List OfflineQueueItem} (h : strategy ≠ .stockMerge)
    (hall : ∀ item ∈ first :: rest, strategyOf item.action = strategy) :
    foldConflicts draw first rest = rest.foldl (newest (conflictKey strategy)) first := by
  unfold foldConflicts
  induction rest generalizing first with
  | nil => rfl
  | cons item rest ih =>
    have hfirst := hall first List.mem_cons_self
    have hwinner : (resolveConflict draw first item).winner =
        newest (conflictKey strategy) first item := by
      rw [resolveConflict_eq_by, hfirst]
      exact resolveBy_winner draw first item h
    rw [List.foldl_cons, List.foldl_cons, hwinner]
    apply ih
    intro other hother
    rcases List.mem_cons.mp hother with rfl | hother
    · rcases Newest.newest_mem (conflictKey strategy) first item with hx | hy
      · rw [hx]
        exact hfirst
      · rw [hy]
        exact hall item (by simp)
    · exact hall other (by simp [hother])

structure StrategyConverges (strategy : Strategy) (draw : Draw) : Prop where
  swapped : ∀ (draw' : Draw) (l r : OfflineQueueItem),
    conflictKey strategy l ≠ conflictKey strategy r →
      (resolveBy strategy draw l r).winner = (resolveBy strategy draw' r l).winner
  dispatched : ∀ l r : OfflineQueueItem, strategyOf l.action = strategy →
    resolveConflict draw l r = resolveBy strategy draw l r
  folded : ∀ (draw' : Draw) (x y : OfflineQueueItem) (xs ys : List OfflineQueueItem),
    (x :: xs).Perm (y :: ys) → (∀ item ∈ x :: xs, strategyOf item.action = strategy) →
      (x :: xs).Pairwise (fun a b => conflictKey strategy a ≠ conflictKey strategy b) →
        foldConflicts draw x xs = foldConflicts draw' y ys

/-- No resolution of sales leaves a lower rank than it found, in one step or in a fold. -/
structure RankKept (draw : Draw) : Prop where
  step : ∀ l r : OfflineQueueItem, strategyOf l.action = .saleStatus →
    saleRank l ≤ saleRank (resolveConflict draw l r).winner ∧
      saleRank r ≤ saleRank (resolveConflict draw l r).winner
  folded : ∀ (x : OfflineQueueItem) (xs : List OfflineQueueItem),
    (∀ item ∈ x :: xs, strategyOf item.action = .saleStatus) →
      ∀ item ∈ x :: xs, saleRank item ≤ saleRank (foldConflicts draw x xs)

theorem saleRank_le_of_key {a b : OfflineQueueItem}
    (h : conflictKey .saleStatus a ≤ conflictKey .saleStatus b) : saleRank a ≤ saleRank b := by
  rcases Prod.Lex.toLex_le_toLex.mp h with hlt | ⟨heq, -⟩
  · exact hlt.le
  · exact heq.le

theorem strategyConverges (draw : Draw) (h : strategy ≠ .stockMerge) :
    StrategyConverges strategy draw where
  swapped draw' l r hkeys := by
    rw [resolveBy_winner draw l r h, resolveBy_winner draw' r l h]
    exact Newest.newest_swap hkeys
  dispatched l r hl := by rw [resolveConflict_eq_by, hl]
  folded draw' x y xs ys hperm hall hkeys := by
    have hys : ∀ item ∈ y :: ys, strategyOf item.action = strategy :=
      fun item hitem => hall item (hperm.mem_iff.mpr hitem)
    rw [foldConflicts_eq h hall, foldConflicts_eq h hys]
    exact Newest.foldl_perm hperm hkeys

theorem rankKept : RankKept draw where
  step l r hl := by
    have hwinner : (resolveConflict draw l r).winner = newest (conflictKey .saleStatus) l r := by
      rw [resolveConflict_eq_by, hl]
      exact resolveBy_winner draw l r (by decide)
    have hkey := Newest.key_newest (conflictKey .saleStatus) l r
    rw [hwinner]
    constructor
    · exact saleRank_le_of_key ((le_max_left _ _).trans hkey.ge)
    · exact saleRank_le_of_key ((le_max_right _ _).trans hkey.ge)
  folded x xs hall item hitem := by
    rw [foldConflicts_eq (by decide) hall]
    exact saleRank_le_of_key (Newest.le_foldl _ x xs item hitem)

/-- Every strategy that picks a winner converges, and sales never lose rank. -/
theorem resolveConflict_converges :
    (∀ strategy ∈ [Strategy.saleStatus, .version, .createdAt], StrategyConverges strategy draw) ∧
      RankKept draw := by
  refine ⟨fun strategy hstrategy => ?_, rankKept draw⟩
  apply strategyConverges
  rintro rfl
  exact absurd hstrategy (by decide)

theorem resolveLww_of_same_time {l r : OfflineQueueItem} (h : l.createdAt = r.createdAt) :
    (resolveLww l r).winner = r := by
  unfold resolveLww
  rw [h]
  exact if_neg (String.lt_irrefl _)

def seenItem (id : String) : OfflineQueueItem :=
  queued id "device.seen" .null "2026-01-01T00:00:00.000Z" none

theorem seenItem_strategy (id : String) : strategyOf (seenItem id).action = .createdAt := by
  show strategyOf "device.seen" = .createdAt
  decide +kernel

/-- Of two items of one time, the one taken last wins. -/
theorem tied_winner :
    (∀ item ∈ [seenItem "item-1", seenItem "item-2"], strategyOf item.action = .createdAt) ∧
    [seenItem "item-1", seenItem "item-2"].Perm [seenItem "item-2", seenItem "item-1"] ∧
    ∀ draw : Draw, foldConflicts draw (seenItem "item-1") [seenItem "item-2"] ≠
      foldConflicts draw (seenItem "item-2") [seenItem "item-1"] := by
  refine ⟨?_, List.Perm.swap _ _ _, fun draw => ?_⟩
  · intro item hitem
    rcases List.mem_cons.mp hitem with rfl | hitem
    · exact seenItem_strategy _
    · rw [List.mem_singleton.mp hitem]
      exact seenItem_strategy _
  · have hfirst : foldConflicts draw (seenItem "item-1") [seenItem "item-2"] =
        seenItem "item-2" := by
      simp only [foldConflicts, List.foldl_cons, List.foldl_nil, resolveConflict_eq_by,
        seenItem_strategy]
      exact resolveLww_of_same_time rfl
    have hlast : foldConflicts draw (seenItem "item-2") [seenItem "item-1"] =
        seenItem "item-1" := by
      simp only [foldConflicts, List.foldl_cons, List.foldl_nil, resolveConflict_eq_by,
        seenItem_strategy]
      exact resolveLww_of_same_time rfl
    rw [hfirst, hlast]
    decide

end OzPos
