import Mathlib.Order.Lattice.Nat
import Std.Data.ExtTreeMap
import OzPos.Json

namespace OzPos

inductive CausalOrder where
  | before
  | after
  | equal
  | concurrent
  deriving DecidableEq

/-- `Counter::MAX`. -/
def counterMax : Nat := 2^64 - 1

theorem counterMax_lt : counterMax < 2^64 := by decide

/-- One counter per terminal; the wire decodes only counters below `2^64`. -/
structure VersionVector where
  counters : Std.ExtTreeMap String Nat

namespace VersionVector

def new : VersionVector := ⟨∅⟩

variable (v : VersionVector) (terminalId : String)

/-- The counter recorded for a terminal, `0` if it was never observed. -/
def get : Nat := v.counters.getD terminalId 0

def entries : List (String × Nat) := v.counters.toList

def record (counter : Nat) : VersionVector :=
  ⟨v.counters.insert terminalId
    (if v.get terminalId < counter then counter else v.get terminalId)⟩

def observe (v other : VersionVector) : VersionVector :=
  other.entries.foldl (fun acc entry => acc.record entry.1 entry.2) v

/-- Whether some terminal among `keys` is further on in `v` than in `other`. -/
def greaterOn (keys : List String) (v other : VersionVector) : Bool :=
  keys.any (fun key => other.get key < v.get key)

protected def compare (v other : VersionVector) : CausalOrder :=
  let keys := v.counters.keys ++ other.counters.keys
  match greaterOn keys v other, greaterOn keys other v with
  | true, false => .after
  | false, true => .before
  | false, false => .equal
  | true, true => .concurrent

def readCounters : List (String × Json) → Option (List (String × Nat))
  | [] => some []
  | (terminal, j) :: rest =>
    match j.asU64?, readCounters rest with
    | some counter, some counters => some ((terminal, counter) :: counters)
    | _, _ => none

/-- `Deserialize`: a bare `{terminal: counter}` object. -/
def fromValue? : Json → Option VersionVector
  | .obj members => (readCounters members).map (fun counters => ⟨.ofList counters⟩)
  | _ => none

@[simp] theorem get_new (terminal : String) : new.get terminal = 0 := by
  simp [new, get]

theorem get_record (terminal : String) (counter : Nat) (t : String) :
    (v.record terminal counter).get t =
      if terminal = t then max (v.get t) counter else v.get t := by
  by_cases h : terminal = t
  · subst h
    by_cases hlt : v.counters.getD terminal 0 < counter <;>
      simp [get, record, Std.ExtTreeMap.getD_insert_self, hlt] <;> omega
  · simp [get, record, Std.ExtTreeMap.getD_insert, h]

variable (t : String)

theorem mem_entries (counter : Nat) : (t, counter) ∈ v.entries ↔ v.counters[t]? = some counter := by
  simp [entries]

theorem le_get_iff (n : Nat) :
    n ≤ v.get t ↔ n = 0 ∨ ∃ counter, (t, counter) ∈ v.entries ∧ n ≤ counter := by
  simp only [mem_entries, get, Std.ExtTreeMap.getD_eq_getD_getElem?]
  cases v.counters[t]? <;> simp
  omega

variable (l : List (String × Nat))

theorem le_get_foldl (v : VersionVector) (t : String) (n : Nat) :
    n ≤ (l.foldl (fun acc entry => acc.record entry.1 entry.2) v).get t ↔
      n ≤ v.get t ∨ ∃ counter, (t, counter) ∈ l ∧ n ≤ counter := by
  induction l generalizing v with
  | nil => simp
  | cons entry l ih =>
    obtain ⟨k, c⟩ := entry
    rw [List.foldl_cons, ih, get_record]
    by_cases h : k = t
    · subst h; simp [or_assoc, or_and_right, exists_or]
    · simp [h, Ne.symm h]

theorem get_observe (v other : VersionVector) : (v.observe other).get = v.get ⊔ other.get := by
  funext t
  apply eq_of_forall_le_iff
  intro n
  rw [observe, le_get_foldl, Pi.sup_apply, le_sup_iff, le_get_iff other]
  constructor
  · rintro (h | h)
    · exact .inl h
    · exact .inr (.inr h)
  · rintro (h | h | h)
    · exact .inl h
    · exact .inl (by omega)
    · exact .inr h

theorem mem_keys_of_pos (h : 0 < v.get t) : t ∈ v.counters.keys := by
  rw [Std.ExtTreeMap.mem_keys]
  by_contra hnot
  simp [get, Std.ExtTreeMap.getD_eq_fallback hnot] at h

theorem greaterOn_iff (keys : List String) (v w : VersionVector)
    (hkeys : ∀ t, t ∈ v.counters.keys → t ∈ keys) :
    greaterOn keys v w = true ↔ ¬ v.get ≤ w.get := by
  simp only [greaterOn, List.any_eq_true, decide_eq_true_eq, Pi.le_def, not_forall, not_le]
  constructor
  · rintro ⟨t, -, ht⟩
    exact ⟨t, ht⟩
  · rintro ⟨t, ht⟩
    exact ⟨t, hkeys t (mem_keys_of_pos v t (by omega)), ht⟩

theorem compare_spec (v w : VersionVector) :
    ∃ vAhead wAhead : Bool, (vAhead = true ↔ ¬ v.get ≤ w.get) ∧
      (wAhead = true ↔ ¬ w.get ≤ v.get) ∧
      v.compare w = match vAhead, wAhead with
        | true, false => .after
        | false, true => .before
        | false, false => .equal
        | true, true => .concurrent := by
  refine ⟨_, _, greaterOn_iff _ v w ?_, greaterOn_iff _ w v ?_, rfl⟩
  · intro t ht
    exact List.mem_append_left _ ht
  · intro t ht
    exact List.mem_append_right _ ht

theorem compare_eq_after_iff (v w : VersionVector) :
    v.compare w = .after ↔ w.get ≤ v.get ∧ ¬ v.get ≤ w.get := by
  obtain ⟨a, b, ha, hb, h⟩ := compare_spec v w
  cases a <;> cases b <;> simp_all

theorem compare_eq_before_iff (v w : VersionVector) :
    v.compare w = .before ↔ v.get ≤ w.get ∧ ¬ w.get ≤ v.get := by
  obtain ⟨a, b, ha, hb, h⟩ := compare_spec v w
  cases a <;> cases b <;> simp_all

theorem compare_eq_concurrent_iff (v w : VersionVector) :
    v.compare w = .concurrent ↔ ¬ v.get ≤ w.get ∧ ¬ w.get ≤ v.get := by
  obtain ⟨a, b, ha, hb, h⟩ := compare_spec v w
  cases a <;> cases b <;> simp_all

theorem compare_eq_equal_iff (v w : VersionVector) : v.compare w = .equal ↔ v.get = w.get := by
  obtain ⟨a, b, ha, hb, h⟩ := compare_spec v w
  rw [@le_antisymm_iff _ _ v.get]
  cases a <;> cases b <;> simp_all

theorem mem_foldl_record (v : VersionVector) (t : String) :
    t ∈ (l.foldl (fun acc entry => acc.record entry.1 entry.2) v).counters ↔
      t ∈ v.counters ∨ t ∈ l.map Prod.fst := by
  induction l generalizing v with
  | nil => simp
  | cons entry l ih =>
    rw [List.foldl_cons, ih]
    simp only [record, Std.ExtTreeMap.mem_insert, Std.LawfulEqCmp.compare_eq_iff_eq,
      List.map_cons, List.mem_cons]
    tauto

theorem mem_observe (v other : VersionVector) (t : String) :
    t ∈ (v.observe other).counters ↔ t ∈ v.counters ∨ t ∈ other.counters := by
  rw [observe, mem_foldl_record, entries, Std.ExtTreeMap.map_fst_toList_eq_keys,
    Std.ExtTreeMap.mem_keys]

theorem ext_get {v w : VersionVector} (hget : v.get = w.get)
    (hmem : ∀ t, t ∈ v.counters ↔ t ∈ w.counters) : v = w := by
  obtain ⟨v⟩ := v
  obtain ⟨w⟩ := w
  congr 1
  apply Std.ExtTreeMap.ext_getElem?
  intro t
  have hget' : v.getD t 0 = w.getD t 0 := congrFun hget t
  have hmem' : t ∈ v ↔ t ∈ w := hmem t
  rw [Std.ExtTreeMap.getD_eq_getD_getElem?, Std.ExtTreeMap.getD_eq_getD_getElem?] at hget'
  rw [Std.ExtTreeMap.mem_iff_isSome_getElem?, Std.ExtTreeMap.mem_iff_isSome_getElem?] at hmem'
  cases hv : v[t]? with
  | none => cases hw : w[t]? with
    | none => rfl
    | some n => simp [hv, hw] at hmem'
  | some m => cases hw : w[t]? with
    | none => simp [hv, hw] at hmem'
    | some n => simpa [hv, hw] using hget'

theorem observe_comm (a b : VersionVector) : a.observe b = b.observe a := by
  apply ext_get
  · rw [get_observe, get_observe, sup_comm]
  · intro t
    rw [mem_observe, mem_observe, or_comm]

theorem observe_assoc (a b c : VersionVector) :
    (a.observe b).observe c = a.observe (b.observe c) := by
  apply ext_get
  · simp only [get_observe, sup_assoc]
  · intro t
    simp only [mem_observe, or_assoc]

theorem observe_self (a : VersionVector) : a.observe a = a := by
  apply ext_get
  · rw [get_observe, sup_idem]
  · intro t
    rw [mem_observe, or_self]

end VersionVector

def CausalOrder.dual : CausalOrder → CausalOrder
  | .before => .after
  | .after => .before
  | .equal => .equal
  | .concurrent => .concurrent

namespace VersionVector

theorem compare_dual (v w : VersionVector) : w.compare v = (v.compare w).dual := by
  cases h : v.compare w with
  | before => exact (compare_eq_after_iff w v).mpr ((compare_eq_before_iff v w).mp h)
  | after => exact (compare_eq_before_iff w v).mpr ((compare_eq_after_iff v w).mp h)
  | equal => exact (compare_eq_equal_iff w v).mpr ((compare_eq_equal_iff v w).mp h).symm
  | concurrent =>
    exact (compare_eq_concurrent_iff w v).mpr ((compare_eq_concurrent_iff v w).mp h).symm

/-- Vectors form a join semilattice under `observe`, and `compare` is its order read
pointwise, whichever terminals the two maps track. -/
theorem vectors_semilattice (a b c : VersionVector) :
    a.observe b = b.observe a ∧
    (a.observe b).observe c = a.observe (b.observe c) ∧
    a.observe a = a ∧
    a.get ≤ (a.observe b).get ∧ b.get ≤ (a.observe b).get ∧
    ((a.observe b).get ≤ c.get ↔ a.get ≤ c.get ∧ b.get ≤ c.get) ∧
    (a.compare b = .equal ↔ a.get = b.get) ∧
    (a.compare b = .before ↔ a.get < b.get) ∧
    (a.compare b = .after ↔ b.get < a.get) ∧
    (a.compare b = .concurrent ↔ ¬ a.get ≤ b.get ∧ ¬ b.get ≤ a.get) ∧
    b.compare a = (a.compare b).dual := by
  refine ⟨observe_comm a b, observe_assoc a b c, observe_self a, ?_, ?_, ?_,
    compare_eq_equal_iff a b, ?_, ?_, compare_eq_concurrent_iff a b, compare_dual a b⟩
  · rw [get_observe]
    exact le_sup_left
  · rw [get_observe]
    exact le_sup_right
  · rw [get_observe, sup_le_iff]
  · rw [compare_eq_before_iff, lt_iff_le_not_ge]
  · rw [compare_eq_after_iff, lt_iff_le_not_ge]

end VersionVector
end OzPos
