import Mathlib.Data.List.Dedup
import Mathlib.Data.List.Induction

/-- Members in the order they joined, each once. The place of a member is its number. -/
structure Roster (α : Type) where
  ids : List α
  distinct : ids.Nodup

namespace Roster

variable {α : Type}

def empty : Roster α := ⟨[], List.nodup_nil⟩

def Holds (r : Roster α) (a : α) (n : Nat) : Prop := r.ids[n]? = some a

variable {r : Roster α} {a : α} {n : Nat}

theorem Holds.mem (h : r.Holds a n) : a ∈ r.ids :=
  List.mem_of_getElem? h

theorem Holds.lt (h : r.Holds a n) : n < r.ids.length :=
  (List.getElem?_eq_some_iff.mp h).1

theorem Holds.same_iff {b : α} {m : Nat} (ha : r.Holds a n) (hb : r.Holds b m) : a = b ↔ n = m := by
  constructor
  · rintro rfl
    exact (List.getElem?_inj ha.lt r.distinct).mp (ha.trans hb.symm)
  · rintro rfl
    exact Option.some.inj (ha.symm.trans hb)

variable [DecidableEq α]

def enrol (r : Roster α) (a : α) : Roster α :=
  if h : a ∈ r.ids then r
  else ⟨r.ids ++ [a], by
    rw [List.nodup_append]
    refine ⟨r.distinct, List.nodup_singleton a, ?_⟩
    intro b hb c hc hbc
    rw [List.mem_singleton.mp hc] at hbc
    rw [hbc] at hb
    exact h hb⟩

theorem enrol_member (h : a ∈ r.ids) : r.enrol a = r := dif_pos h

theorem ids_enrol_new (h : a ∉ r.ids) : (r.enrol a).ids = r.ids ++ [a] := by
  rw [enrol, dif_neg h]

theorem mem_enrol (r : Roster α) (a b : α) : b ∈ (r.enrol a).ids ↔ b ∈ r.ids ∨ b = a := by
  by_cases h : a ∈ r.ids
  · rw [enrol_member h]
    constructor
    · exact .inl
    · rintro (hb | rfl)
      · exact hb
      · exact h
  · rw [ids_enrol_new h, List.mem_append, List.mem_singleton]

theorem Holds.enrol (h : r.Holds a n) (b : α) : (r.enrol b).Holds a n := by
  by_cases hb : b ∈ r.ids
  · rw [enrol_member hb]
    exact h
  · rw [Holds, ids_enrol_new hb, List.getElem?_append_left h.lt]
    exact h

theorem holds_enrol_new (h : a ∉ r.ids) : (r.enrol a).Holds a r.ids.length := by
  rw [Holds, ids_enrol_new h]
  simp

variable (asks : List α)

def of : Roster α := asks.foldl enrol empty

theorem of_append (a : α) : of (asks ++ [a]) = (of asks).enrol a := by
  rw [of, List.foldl_append]
  rfl

theorem mem_of (a : α) : a ∈ (of asks).ids ↔ a ∈ asks := by
  induction asks using List.reverseRecOn with
  | nil => rfl
  | append_singleton asks b ih =>
    rw [of_append, mem_enrol, ih, List.mem_append, List.mem_singleton]

theorem length_of : (of asks).ids.length = asks.dedup.length := by
  apply List.Perm.length_eq
  rw [List.perm_ext_iff_of_nodup (of asks).distinct (List.nodup_dedup asks)]
  intro a
  rw [mem_of, List.mem_dedup]

end Roster
