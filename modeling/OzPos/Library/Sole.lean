import Mathlib.Logic.Function.Basic

/-- Of a family of lists one at most is not empty, and it is `held`. -/
def Sole {ι α : Type} (f : ι → List α) (held : List α) : Prop :=
  ∃ i, f i = held ∧ ∀ j, j ≠ i → f j = []

namespace Sole

variable {ι α : Type} {f : ι → List α} {held : List α} {i j : ι}

theorem of_nil (i : ι) (h : ∀ j, f j = []) : Sole f [] := ⟨i, h i, fun j _ => h j⟩

theorem eq_nil (h : Sole f []) (j : ι) : f j = [] := by
  obtain ⟨i, hi, hothers⟩ := h
  by_cases hj : j = i
  · rw [hj]
    exact hi
  · exact hothers j hj

theorem others (h : Sole f held) (hj : f j ≠ [] ∨ held = []) : ∀ i, i ≠ j → f i = [] := by
  intro i hi
  rcases hj with hj | rfl
  · obtain ⟨k, -, hothers⟩ := h
    have hk : j = k := by
      by_contra hne
      exact hj (hothers j hne)
    exact hothers i (hk ▸ hi)
  · exact h.eq_nil i

theorem eq_held (h : Sole f held) (hothers : ∀ i, i ≠ j → f i = []) : f j = held := by
  obtain ⟨i, hi, hrest⟩ := h
  by_cases hij : j = i
  · rw [hij]
    exact hi
  · rw [hrest j hij, ← hi, hothers i (Ne.symm hij)]

theorem eq_of_ne_nil (h : Sole f held) (hj : f j ≠ []) : f j = held :=
  h.eq_held (h.others (.inl hj))

variable [DecidableEq ι]

theorem update (hothers : ∀ i, i ≠ j → f i = []) (held' : List α) :
    Sole (Function.update f j held') held' :=
  ⟨j, Function.update_self j held' f, fun i hi => by
    rw [Function.update_of_ne hi]
    exact hothers i hi⟩

theorem update_same {kept : List α} (h : Sole f held) (hj : f j = kept) :
    Sole (Function.update f j kept) held := by
  rw [← hj, Function.update_eq_self]
  exact h

end Sole
