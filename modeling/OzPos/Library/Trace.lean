import Mathlib.Data.List.Basic

/-! Logs of what was called, the newest entry first. -/

namespace Trace

variable {ε : Type}

def Guarded (Allowed : List ε → ε → Prop) : List ε → Prop
  | [] => True
  | e :: past => Allowed past e ∧ Guarded Allowed past

theorem Guarded.of_append {Allowed : List ε → ε → Prop} {l past : List ε}
    (h : Guarded Allowed (l ++ past)) : Guarded Allowed past := by
  induction l with
  | nil => exact h
  | cons e l ih => exact ih h.2

theorem Guarded.append {Allowed : List ε → ε → Prop} {l past : List ε}
    (hfree : ∀ e ∈ l, ∀ past, Allowed past e) (h : Guarded Allowed past) :
    Guarded Allowed (l ++ past) := by
  induction l with
  | nil => exact h
  | cons e l ih =>
    exact ⟨hfree e List.mem_cons_self _, ih (fun d hd => hfree d (List.mem_cons_of_mem e hd))⟩

/-- `a` and later `b`. -/
def Then (a b : ε) (log : List ε) : Prop := ∃ l m r, log = l ++ b :: (m ++ a :: r)

theorem Then.cons {a b : ε} {log : List ε} (c : ε) (h : Then a b log) : Then a b (c :: log) := by
  obtain ⟨l, m, r, rfl⟩ := h
  exact ⟨c :: l, m, r, rfl⟩

theorem then_cons_self {a : ε} (b : ε) {log : List ε} (h : a ∈ log) : Then a b (b :: log) := by
  obtain ⟨m, r, rfl⟩ := List.append_of_mem h
  exact ⟨[], m, r, rfl⟩

theorem Then.left_mem {a b : ε} {log : List ε} (h : Then a b log) : a ∈ log := by
  obtain ⟨l, m, r, rfl⟩ := h
  simp

variable [DecidableEq ε]

variable (reset : ε) (log : List ε)

/-- What was called since the last `reset`. -/
def since : List ε := log.takeWhile (fun e => e ≠ reset)

@[simp] theorem since_nil : since reset [] = [] := rfl

@[simp] theorem since_cons_self : since reset (reset :: log) = [] := by
  simp [since]

theorem since_cons_of_ne {reset e : ε} (h : e ≠ reset) (log : List ε) :
    since reset (e :: log) = e :: since reset log := by
  simp [since, h]

end Trace
