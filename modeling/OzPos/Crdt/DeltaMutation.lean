import Mathlib.Algebra.Order.Ring.Int
import Mathlib.Data.List.Dedup
import Mathlib.Data.List.Sort
import Mathlib.Algebra.BigOperators.Group.List.Basic
import Std.Data.ExtTreeMap

namespace OzPos

structure LamportClock where
  counter : Nat
  terminalId : String
  deriving DecidableEq

/-- `Ord`: the counter, then the terminal. -/
def LamportClock.cmp : LamportClock → LamportClock → Ordering :=
  compareLex (compareOn LamportClock.counter) (compareOn LamportClock.terminalId)

structure DeltaMutation where
  (movementId sku : String)
  quantity : Int
  terminalId : String
  clock : LamportClock
  deriving DecidableEq

/-- The comparison of `applied.sort_by`. -/
def DeltaMutation.cmp : DeltaMutation → DeltaMutation → Ordering :=
  compareLex (fun a b => a.clock.cmp b.clock) (compareOn DeltaMutation.movementId)

structure MergeOutcome where
  applied : List DeltaMutation
  duplicates : List String
  totalQuantity : Int

/-- `i64::saturating_add`. -/
def saturatingAdd (a b : Int) : Int := max (-2 ^ 63) (min (2 ^ 63 - 1) (a + b))

variable (deltas : List DeltaMutation)

def saturatingTotal : Int :=
  deltas.foldl (fun acc delta => saturatingAdd acc delta.quantity) 0

/-- The map `counts`. -/
def countsOf : Std.ExtTreeMap String Nat :=
  deltas.foldl (fun counts delta =>
    counts.insert delta.movementId (counts.getD delta.movementId 0 + 1)) ∅

/-- The map `first_seen`: the first delta of each movement. -/
def firstSeen : Std.ExtTreeMap String DeltaMutation :=
  deltas.foldl (fun seen delta => seen.insertIfNew delta.movementId delta) ∅

def appliedOf : List DeltaMutation :=
  ((firstSeen deltas).toList.map Prod.snd).insertionSort (fun a b => (a.cmp b).isLE = true)

def duplicatesOf : List String :=
  ((countsOf deltas).toList.filter (fun entry => 1 < entry.2)).map Prod.fst

def mergeDeltas (localDeltas remote : List DeltaMutation) : MergeOutcome where
  applied := appliedOf (localDeltas ++ remote)
  duplicates := duplicatesOf (localDeltas ++ remote)
  totalQuantity := saturatingTotal (appliedOf (localDeltas ++ remote))

instance : Std.TransCmp LamportClock.cmp :=
  inferInstanceAs (Std.TransCmp (compareLex _ _))

instance : Std.TransCmp DeltaMutation.cmp :=
  have : Std.TransCmp (fun a b : DeltaMutation => a.clock.cmp b.clock) :=
    { eq_swap := @fun a b => @Std.OrientedCmp.eq_swap _ LamportClock.cmp _ a.clock b.clock
      isLE_trans := @fun a b c =>
        @Std.TransCmp.isLE_trans _ LamportClock.cmp _ a.clock b.clock c.clock }
  inferInstanceAs (Std.TransCmp (compareLex _ _))

theorem DeltaMutation.movementId_of_cmp_eq {a b : DeltaMutation} (h : a.cmp b = .eq) :
    a.movementId = b.movementId := by
  simp only [DeltaMutation.cmp, compareLex, compareOn, Ordering.then_eq_eq] at h
  exact Std.LawfulEqCmp.eq_of_compare h.2

def MovementsAgree : Prop :=
  ∀ a ∈ deltas, ∀ b ∈ deltas, a.movementId = b.movementId → a = b

theorem firstSeen_from (seen : Std.ExtTreeMap String DeltaMutation) (id : String) :
    (deltas.foldl (fun seen delta => seen.insertIfNew delta.movementId delta) seen)[id]? =
      (seen[id]?).or (deltas.find? (fun delta => delta.movementId = id)) := by
  induction deltas generalizing seen with
  | nil => simp
  | cons delta rest ih =>
    rw [List.foldl_cons, ih, Std.ExtTreeMap.getElem?_insertIfNew, List.find?_cons]
    by_cases hid : delta.movementId = id
    · subst hid
      by_cases hmem : delta.movementId ∈ seen
      · rw [Std.ExtTreeMap.getElem?_eq_some_getElem hmem]
        simp [hmem]
      · rw [Std.ExtTreeMap.getElem?_eq_none hmem]
        simp [hmem]
    · simp [hid]

theorem getElem?_firstSeen (id : String) :
    (firstSeen deltas)[id]? = deltas.find? (fun delta => delta.movementId = id) := by
  rw [firstSeen, firstSeen_from]
  simp

variable {deltas : List DeltaMutation}

theorem mem_appliedOf (h : MovementsAgree deltas)
    (delta : DeltaMutation) : delta ∈ appliedOf deltas ↔ delta ∈ deltas := by
  have hfound : ∀ id, (id, delta) ∈ (firstSeen deltas).toList ↔
      deltas.find? (fun delta => delta.movementId = id) = some delta := by
    intro id
    rw [Std.ExtTreeMap.mem_toList_iff_getElem?_eq_some, getElem?_firstSeen]
  unfold appliedOf
  rw [List.mem_insertionSort, List.mem_map]
  constructor
  · rintro ⟨⟨id, other⟩, hmem, rfl⟩
    exact List.mem_of_find?_eq_some ((hfound id).mp hmem)
  · intro hmem
    refine ⟨(delta.movementId, delta), (hfound _).mpr ?_, rfl⟩
    cases hfind : deltas.find? (fun other => other.movementId = delta.movementId) with
    | none =>
      have hno := List.find?_eq_none.mp hfind delta hmem
      simp at hno
    | some other =>
      have hid : other.movementId = delta.movementId := by
        simpa using List.find?_some hfind
      rw [h other (List.mem_of_find?_eq_some hfind) delta hmem hid]

theorem appliedOf_ids_nodup (deltas : List DeltaMutation) :
    ((appliedOf deltas).map DeltaMutation.movementId).Nodup := by
  have hids : ∀ entry ∈ (firstSeen deltas).toList, entry.2.movementId = entry.1 := by
    intro entry hentry
    rw [Std.ExtTreeMap.mem_toList_iff_getElem?_eq_some, getElem?_firstSeen] at hentry
    simpa using List.find?_some hentry
  have hkeys : ((firstSeen deltas).toList.map Prod.snd).map DeltaMutation.movementId =
      (firstSeen deltas).keys := by
    rw [← Std.ExtTreeMap.map_fst_toList_eq_keys, List.map_map]
    exact List.map_congr_left hids
  have hperm := (List.perm_insertionSort (fun a b : DeltaMutation => (a.cmp b).isLE = true)
    ((firstSeen deltas).toList.map Prod.snd)).map DeltaMutation.movementId
  rw [appliedOf, hperm.nodup_iff, hkeys]
  exact Std.ExtTreeMap.nodup_keys

theorem appliedOf_sorted (deltas : List DeltaMutation) :
    (appliedOf deltas).Pairwise (fun a b => a.cmp b = .lt) := by
  have htotal : Std.Total (fun a b : DeltaMutation => (a.cmp b).isLE = true) := ⟨fun a b => by
    rw [@Std.OrientedCmp.eq_swap _ DeltaMutation.cmp _ b a]
    cases a.cmp b with
    | lt => exact .inl rfl
    | eq => exact .inl rfl
    | gt => exact .inr rfl⟩
  have htrans : IsTrans DeltaMutation (fun a b => (a.cmp b).isLE = true) :=
    ⟨fun _ _ _ hab hbc => Std.TransCmp.isLE_trans hab hbc⟩
  have hsorted : (appliedOf deltas).Pairwise (fun a b => (a.cmp b).isLE = true) :=
    List.pairwise_insertionSort _ _
  have hids : (appliedOf deltas).Pairwise (fun a b => a.movementId ≠ b.movementId) :=
    List.pairwise_map.mp (appliedOf_ids_nodup deltas)
  refine (hsorted.and hids).imp ?_
  intro a b hab
  obtain ⟨hle, hne⟩ := hab
  cases hcmp : a.cmp b with
  | lt => rfl
  | eq => exact absurd (DeltaMutation.movementId_of_cmp_eq hcmp) hne
  | gt =>
    rw [hcmp] at hle
    cases hle

theorem appliedOf_congr {others : List DeltaMutation} (h : MovementsAgree deltas)
    (hsame : ∀ delta, delta ∈ others ↔ delta ∈ deltas) : appliedOf others = appliedOf deltas := by
  have hothers : MovementsAgree others := by
    intro a ha b hb
    exact h a ((hsame a).mp ha) b ((hsame b).mp hb)
  have hperm : (appliedOf others).Perm (appliedOf deltas) := by
    rw [List.perm_ext_iff_of_nodup (List.Nodup.of_map _ (appliedOf_ids_nodup others))
      (List.Nodup.of_map _ (appliedOf_ids_nodup deltas))]
    intro delta
    rw [mem_appliedOf hothers, mem_appliedOf h, hsame]
  refine List.Perm.eq_of_pairwise (fun a b _ _ hab hba => ?_) (appliedOf_sorted others)
    (appliedOf_sorted deltas) hperm
  rw [@Std.OrientedCmp.eq_swap _ DeltaMutation.cmp _ b a, hab] at hba
  cases hba

theorem countsOf_from (deltas : List DeltaMutation) (counts : Std.ExtTreeMap String Nat)
    (id : String) :
    (deltas.foldl (fun counts delta =>
        counts.insert delta.movementId (counts.getD delta.movementId 0 + 1)) counts)[id]? =
      if id ∈ deltas.map DeltaMutation.movementId then
        some (counts.getD id 0 + (deltas.map DeltaMutation.movementId).count id)
      else counts[id]? := by
  induction deltas generalizing counts with
  | nil => simp
  | cons delta rest ih =>
    rw [List.foldl_cons, ih, Std.ExtTreeMap.getD_insert, Std.ExtTreeMap.getElem?_insert,
      List.map_cons, List.count_cons]
    by_cases hid : delta.movementId = id
    · subst hid
      by_cases hrest : delta.movementId ∈ rest.map DeltaMutation.movementId
      · simp [hrest]
        omega
      · simp [hrest, List.count_eq_zero_of_not_mem hrest]
    · simp [hid, Ne.symm hid]

theorem getElem?_countsOf (deltas : List DeltaMutation) (id : String) :
    (countsOf deltas)[id]? =
      if id ∈ deltas.map DeltaMutation.movementId then
        some ((deltas.map DeltaMutation.movementId).count id)
      else none := by
  rw [countsOf, countsOf_from]
  simp

theorem mem_duplicatesOf (deltas : List DeltaMutation) (id : String) :
    id ∈ duplicatesOf deltas ↔ 1 < (deltas.map DeltaMutation.movementId).count id := by
  unfold duplicatesOf
  rw [List.mem_map]
  constructor
  · rintro ⟨⟨other, count⟩, hmem, rfl⟩
    obtain ⟨hentry, hcount⟩ := List.mem_filter.mp hmem
    rw [Std.ExtTreeMap.mem_toList_iff_getElem?_eq_some, getElem?_countsOf] at hentry
    split at hentry
    · cases hentry
      simpa using hcount
    · cases hentry
  · intro hcount
    have hmem : id ∈ deltas.map DeltaMutation.movementId :=
      List.count_pos_iff.mp (by omega)
    refine ⟨(id, (deltas.map DeltaMutation.movementId).count id), ?_, rfl⟩
    rw [List.mem_filter, Std.ExtTreeMap.mem_toList_iff_getElem?_eq_some, getElem?_countsOf,
      if_pos hmem]
    exact ⟨rfl, by simpa using hcount⟩

theorem countsOf_perm {others : List DeltaMutation} (h : others.Perm deltas) :
    countsOf others = countsOf deltas := by
  have hids := h.map DeltaMutation.movementId
  apply Std.ExtTreeMap.ext_getElem?
  intro id
  rw [getElem?_countsOf, getElem?_countsOf, hids.count_eq]
  simp only [hids.mem_iff]

theorem saturatingAdd_of_fits {a b : Int} (h : -2 ^ 63 ≤ a + b ∧ a + b < 2 ^ 63) :
    saturatingAdd a b = a + b := by
  unfold saturatingAdd
  omega

theorem saturatingTotal_from {start : Int}
    (h : ∀ l, l <+: deltas → -2 ^ 63 ≤ start + (l.map DeltaMutation.quantity).sum ∧
      start + (l.map DeltaMutation.quantity).sum < 2 ^ 63) :
    deltas.foldl (fun acc delta => saturatingAdd acc delta.quantity) start =
      start + (deltas.map DeltaMutation.quantity).sum := by
  induction deltas generalizing start with
  | nil => simp
  | cons delta rest ih =>
    have hhere := h [delta] ⟨rest, rfl⟩
    rw [List.map_singleton, List.sum_singleton] at hhere
    rw [List.foldl_cons, saturatingAdd_of_fits hhere, ih, List.map_cons, List.sum_cons, add_assoc]
    intro l hl
    have hlater := h (delta :: l) (List.cons_prefix_cons.mpr ⟨rfl, hl⟩)
    rwa [List.map_cons, List.sum_cons, ← add_assoc] at hlater

/-- No partial sum in the order of application leaves the 64-bit integers. -/
def PartialSumsFit (deltas : List DeltaMutation) : Prop :=
  ∀ l, l <+: deltas → -2 ^ 63 ≤ (l.map DeltaMutation.quantity).sum ∧
    (l.map DeltaMutation.quantity).sum < 2 ^ 63

theorem saturatingTotal_of_fits (h : PartialSumsFit deltas) :
    saturatingTotal deltas = (deltas.map DeltaMutation.quantity).sum := by
  unfold saturatingTotal
  rw [saturatingTotal_from, zero_add]
  intro l hl
  rw [zero_add]
  exact h l hl

def SameMerge (m m' : MergeOutcome) : Prop :=
  m.applied = m'.applied ∧ m.totalQuantity = m'.totalQuantity

variable {l r : List DeltaMutation}

theorem sameMerge_of_mem {l' r' : List DeltaMutation} (h : MovementsAgree (l ++ r))
    (hsame : ∀ delta, delta ∈ l' ++ r' ↔ delta ∈ l ++ r) :
    SameMerge (mergeDeltas l' r') (mergeDeltas l r) := by
  have happlied : appliedOf (l' ++ r') = appliedOf (l ++ r) := appliedOf_congr h hsame
  exact ⟨happlied, congrArg saturatingTotal happlied⟩

theorem mergeDeltas_perm {l' r' : List DeltaMutation} (h : MovementsAgree (l ++ r))
    (hperm : (l' ++ r').Perm (l ++ r)) : mergeDeltas l' r' = mergeDeltas l r := by
  have happlied : appliedOf (l' ++ r') = appliedOf (l ++ r) :=
    appliedOf_congr h (fun _ => hperm.mem_iff)
  unfold mergeDeltas duplicatesOf
  rw [happlied, countsOf_perm hperm]

theorem mem_merged (h : MovementsAgree (l ++ r)) (delta : DeltaMutation) :
    delta ∈ (mergeDeltas l r).applied ↔ delta ∈ l ∨ delta ∈ r :=
  (mem_appliedOf h delta).trans List.mem_append

theorem merged_count (h : MovementsAgree (l ++ r)) (id : String) :
    ((mergeDeltas l r).applied.map DeltaMutation.movementId).count id =
      if id ∈ (l ++ r).map DeltaMutation.movementId then 1 else 0 := by
  have hids : id ∈ (mergeDeltas l r).applied.map DeltaMutation.movementId ↔
      id ∈ (l ++ r).map DeltaMutation.movementId := by
    rw [List.mem_map, List.mem_map]
    exact exists_congr (fun delta => and_congr_left (fun _ => mem_appliedOf h delta))
  calc ((appliedOf (l ++ r)).map DeltaMutation.movementId).count id
      = if id ∈ (appliedOf (l ++ r)).map DeltaMutation.movementId then 1 else 0 :=
        (appliedOf_ids_nodup (l ++ r)).count
    _ = if id ∈ (l ++ r).map DeltaMutation.movementId then 1 else 0 := if_congr hids rfl rfl

theorem merged_total (h : MovementsAgree (l ++ r))
    (hfits : PartialSumsFit (mergeDeltas l r).applied) :
    (mergeDeltas l r).totalQuantity = ((l ++ r).dedup.map DeltaMutation.quantity).sum := by
  have hperm : (appliedOf (l ++ r)).Perm (l ++ r).dedup := by
    rw [List.perm_ext_iff_of_nodup (List.Nodup.of_map _ (appliedOf_ids_nodup (l ++ r)))
      (List.nodup_dedup _)]
    intro delta
    rw [mem_appliedOf h, List.mem_dedup]
  calc (mergeDeltas l r).totalQuantity
      = ((appliedOf (l ++ r)).map DeltaMutation.quantity).sum := saturatingTotal_of_fits hfits
    _ = ((l ++ r).dedup.map DeltaMutation.quantity).sum := (hperm.map _).sum_eq

structure Joined (l r : List DeltaMutation) : Prop where
  once : ∀ id, ((mergeDeltas l r).applied.map DeltaMutation.movementId).count id =
    if id ∈ (l ++ r).map DeltaMutation.movementId then 1 else 0
  kept : ∀ delta, delta ∈ (mergeDeltas l r).applied ↔ delta ∈ l ∨ delta ∈ r
  sorted : (mergeDeltas l r).applied.Pairwise (fun a b => a.cmp b = .lt)
  saturates : (mergeDeltas l r).totalQuantity = saturatingTotal (mergeDeltas l r).applied
  total : PartialSumsFit (mergeDeltas l r).applied →
    (mergeDeltas l r).totalQuantity = ((l ++ r).dedup.map DeltaMutation.quantity).sum
  replays : ∀ id, id ∈ (mergeDeltas l r).duplicates ↔
    1 < ((l ++ r).map DeltaMutation.movementId).count id
  swapped : mergeDeltas r l = mergeDeltas l r
  permuted : ∀ l' r', l'.Perm l → r'.Perm r → mergeDeltas l' r' = mergeDeltas l r
  redelivered : ∀ l' r', (∀ delta, delta ∈ l' ++ r' ↔ delta ∈ l ++ r) →
    SameMerge (mergeDeltas l' r') (mergeDeltas l r)
  regrouped : ∀ third, MovementsAgree (l ++ r ++ third) →
    SameMerge (mergeDeltas (mergeDeltas l r).applied third)
      (mergeDeltas l (mergeDeltas r third).applied)
  again : SameMerge (mergeDeltas (mergeDeltas l r).applied l) (mergeDeltas l r) ∧
    SameMerge (mergeDeltas (mergeDeltas l r).applied r) (mergeDeltas l r)

theorem merge_regrouped {third : List DeltaMutation} (h : MovementsAgree (l ++ r ++ third)) :
    SameMerge (mergeDeltas (mergeDeltas l r).applied third)
      (mergeDeltas l (mergeDeltas r third).applied) := by
  have hleft : MovementsAgree (l ++ r) := fun a ha b hb =>
    h a (List.mem_append_left _ ha) b (List.mem_append_left _ hb)
  have hright : MovementsAgree (r ++ third) := fun a ha b hb =>
    h a (by grind) b (by grind)
  have hwhole : ∀ delta, delta ∈ l ++ (mergeDeltas r third).applied ↔ delta ∈ l ++ r ++ third := by
    intro delta
    simp only [List.mem_append, mem_merged hright, or_assoc]
  refine sameMerge_of_mem (fun a ha b hb => ?_) (fun delta => ?_)
  · exact h a ((hwhole a).mp ha) b ((hwhole b).mp hb)
  · rw [hwhole]
    simp only [List.mem_append, mem_merged hleft]

/-- Merging joins: the lists agree on what is applied however they were delivered. -/
theorem mergeDeltas_join (l r : List DeltaMutation) (h : MovementsAgree (l ++ r)) : Joined l r where
  once := merged_count h
  kept := mem_merged h
  sorted := appliedOf_sorted (l ++ r)
  saturates := rfl
  total := merged_total h
  replays := mem_duplicatesOf (l ++ r)
  swapped := mergeDeltas_perm h List.perm_append_comm
  permuted _ _ hl hr := mergeDeltas_perm h (hl.append hr)
  redelivered _ _ hsame := sameMerge_of_mem h hsame
  regrouped _ hthird := merge_regrouped hthird
  again := by
    constructor
    · refine sameMerge_of_mem h (fun delta => ?_)
      rw [List.mem_append, List.mem_append, mem_merged h]
      tauto
    · refine sameMerge_of_mem h (fun delta => ?_)
      rw [List.mem_append, List.mem_append, mem_merged h]
      tauto

def movementDelta (id : String) (quantity : Int) (counter : Nat) : DeltaMutation :=
  ⟨id, "SKU-1", quantity, "terminal-1", ⟨counter, "terminal-1"⟩⟩

theorem movements_joined : Joined [movementDelta "m-1" 5 1, movementDelta "m-2" (-2) 2]
    [movementDelta "m-2" (-2) 2, movementDelta "m-3" 4 2] :=
  mergeDeltas_join _ _ (by unfold MovementsAgree; decide)

/-- The total stands still where the sum passes the largest integer. -/
theorem total_saturates :
    MovementsAgree ([movementDelta "m-1" (2 ^ 63 - 1) 1] ++ [movementDelta "m-2" 1 2]) ∧
    (mergeDeltas [movementDelta "m-1" (2 ^ 63 - 1) 1] [movementDelta "m-2" 1 2]).totalQuantity ≠
      (([movementDelta "m-1" (2 ^ 63 - 1) 1] ++ [movementDelta "m-2" 1 2]).dedup.map
        DeltaMutation.quantity).sum := by
  constructor
  · unfold MovementsAgree
    decide
  · decide +kernel

end OzPos
