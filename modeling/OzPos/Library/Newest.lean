import Mathlib.Order.Lattice
import Mathlib.Data.List.Perm.Basic
import Mathlib.Data.List.Pairwise

def newest {α κ : Type} [LinearOrder κ] (key : α → κ) (l r : α) : α :=
  if key r < key l then l else r

namespace Newest

variable {α κ : Type} [LinearOrder κ] {key : α → κ}

theorem key_newest (key : α → κ) (l r : α) : key (newest key l r) = max (key l) (key r) := by
  unfold newest
  split
  · rename_i hlt
    exact (max_eq_left hlt.le).symm
  · rename_i hle
    exact (max_eq_right (not_lt.mp hle)).symm

theorem newest_swap {l r : α} (h : key l ≠ key r) : newest key l r = newest key r l := by
  unfold newest
  rcases lt_or_gt_of_ne h with hlt | hgt
  · rw [if_neg (not_lt.mpr hlt.le), if_pos hlt]
  · rw [if_pos hgt, if_neg (not_lt.mpr hgt.le)]

theorem newest_mem (key : α → κ) (l r : α) : newest key l r = l ∨ newest key l r = r := by
  unfold newest
  split
  · exact .inl rfl
  · exact .inr rfl

theorem foldl_mem (key : α → κ) (x : α) (xs : List α) : xs.foldl (newest key) x ∈ x :: xs := by
  induction xs generalizing x with
  | nil => exact List.mem_cons_self
  | cons y rest ih =>
    rw [List.foldl_cons]
    rcases List.mem_cons.mp (ih (newest key x y)) with hhere | hlater
    · rw [hhere]
      rcases newest_mem key x y with hx | hy
      · rw [hx]
        exact List.mem_cons_self
      · rw [hy]
        exact List.mem_cons_of_mem _ List.mem_cons_self
    · exact List.mem_cons_of_mem _ (List.mem_cons_of_mem _ hlater)

theorem le_foldl (key : α → κ) (x : α) (xs : List α) :
    ∀ y ∈ x :: xs, key y ≤ key (xs.foldl (newest key) x) := by
  induction xs generalizing x with
  | nil =>
    intro y hy
    rw [List.mem_singleton.mp hy]
    exact le_refl _
  | cons z rest ih =>
    have hbest := ih (newest key x z) (newest key x z) List.mem_cons_self
    rw [key_newest key] at hbest
    intro y hy
    rw [List.foldl_cons]
    rcases List.mem_cons.mp hy with rfl | hy
    · exact (le_max_left _ _).trans hbest
    · rcases List.mem_cons.mp hy with rfl | hy
      · exact (le_max_right _ _).trans hbest
      · exact ih (newest key x z) y (List.mem_cons_of_mem _ hy)

variable {xs : List α}

theorem foldl_perm {x y : α} {ys : List α} (hperm : (x :: xs).Perm (y :: ys))
    (hkeys : (x :: xs).Pairwise (fun a b => key a ≠ key b)) :
    xs.foldl (newest key) x = ys.foldl (newest key) y := by
  have hx := foldl_mem key x xs
  have hy := hperm.mem_iff.mpr (foldl_mem key y ys)
  have hle := le_foldl key x xs _ hy
  have hge := le_foldl key y ys _ (hperm.mem_iff.mp hx)
  by_contra hne
  have hsymm : Std.Symm (fun a b : α => key a ≠ key b) := ⟨fun _ _ h => h.symm⟩
  exact List.Pairwise.forall hkeys hx hy hne (le_antisymm hge hle)

/-- A scan that keeps the first item of the greatest key so far. -/
def scan (key : α → κ) (best : Option α) (item : α) : Option α :=
  match best with
  | none => some item
  | some b => if key b < key item then some item else some b

theorem foldl_scan_some {best : Option α} {w : α} (h : xs.foldl (scan key) best = some w) :
    (w ∈ best ∨ w ∈ xs) ∧ (∀ b ∈ best, key b ≤ key w) ∧ ∀ x ∈ xs, key x ≤ key w := by
  induction xs generalizing best with
  | nil =>
    obtain rfl : best = some w := h
    exact ⟨.inl rfl, fun b hb => by rw [Option.mem_some_iff.mp hb], List.forall_mem_nil _⟩
  | cons x rest ih =>
    obtain ⟨hfrom, hbest, hrest⟩ := ih h
    rw [List.forall_mem_cons]
    cases best with
    | none =>
      refine ⟨.inr ?_, ?_, hbest x rfl, hrest⟩
      · rcases hfrom with hx | hlater
        · exact List.mem_cons.mpr (.inl (Option.mem_some_iff.mp hx).symm)
        · exact List.mem_cons_of_mem _ hlater
      · intro b hb
        cases hb
    | some b =>
      simp only [scan] at hfrom hbest
      split at hbest
      · rename_i hlt
        rw [if_pos hlt] at hfrom
        have hx := hbest x rfl
        refine ⟨.inr ?_, fun c hc => ?_, hx, hrest⟩
        · rcases hfrom with hx | hlater
          · exact List.mem_cons.mpr (.inl (Option.mem_some_iff.mp hx).symm)
          · exact List.mem_cons_of_mem _ hlater
        · rw [← Option.mem_some_iff.mp hc]
          exact hlt.le.trans hx
      · rename_i hle
        rw [if_neg hle] at hfrom
        have hb := hbest b rfl
        refine ⟨?_, hbest, (not_lt.mp hle).trans hb, hrest⟩
        rcases hfrom with hb | hlater
        · exact .inl hb
        · exact .inr (List.mem_cons_of_mem _ hlater)

theorem foldl_scan_none (h : xs.foldl (scan key) none = none) : xs = [] := by
  have hkept : ∀ (ys : List α) (b : α), (ys.foldl (scan key) (some b)).isSome := by
    intro ys
    induction ys with
    | nil => exact fun _ => rfl
    | cons y rest ih =>
      intro b
      simp only [List.foldl_cons, scan]
      split
      · exact ih y
      · exact ih b
  cases xs with
  | nil => rfl
  | cons x rest =>
    have hsome := hkept rest x
    rw [List.foldl_cons, scan] at h
    rw [h] at hsome
    cases hsome

end Newest
