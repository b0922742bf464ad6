import Mathlib.Algebra.Order.Ring.Int
import Mathlib.Algebra.BigOperators.Group.List.Basic
import Mathlib.Data.List.Dedup

namespace Grouping

variable {ρ κ M : Type} [DecidableEq κ] [AddCommMonoid M]

theorem sum_filter (c : ρ → Prop) [DecidablePred c] (f : ρ → M) (rows : List ρ) :
    ((rows.filter (fun r => c r)).map f).sum = (rows.map (fun r => if c r then f r else 0)).sum := by
  induction rows with
  | nil => rfl
  | cons r rows ih =>
    by_cases h : c r
    · simp [h, ih]
    · simp [h, ih]

theorem sum_single_key {keys : List κ} (hn : keys.Nodup) {k : κ} (hk : k ∈ keys) (x : M) :
    (keys.map (fun j => if k = j then x else 0)).sum = x := by
  induction keys with
  | nil => cases hk
  | cons j keys ih =>
    obtain ⟨hj, hn⟩ := List.nodup_cons.mp hn
    rw [List.map_cons, List.sum_cons]
    by_cases heq : k = j
    · have hzero : ∀ y ∈ keys.map (fun i => if k = i then x else 0), y = 0 := by
        intro y hy
        obtain ⟨i, hi, rfl⟩ := List.mem_map.mp hy
        rw [if_neg]
        intro hki
        exact hj (heq ▸ hki ▸ hi)
      rw [if_pos heq, List.sum_eq_zero hzero, add_zero]
    · rw [if_neg heq, ih hn ((List.mem_cons.mp hk).resolve_left heq), zero_add]

theorem sum_by_key (key : ρ → κ) (f : ρ → M) {keys : List κ} (hn : keys.Nodup) {rows : List ρ}
    (h : ∀ r ∈ rows, key r ∈ keys) :
    (keys.map (fun k => (rows.map (fun r => if key r = k then f r else 0)).sum)).sum =
      (rows.map f).sum := by
  induction rows with
  | nil => simp
  | cons r rows ih =>
    have hr := sum_single_key hn (h r (List.mem_cons_self ..)) (f r)
    simp only [List.map_cons, List.sum_cons, List.sum_map_add]
    rw [hr, ih (fun s hs => h s (List.mem_cons_of_mem _ hs))]

theorem groups_perm (key : ρ → κ) {keys : List κ} (hn : keys.Nodup) {rows : List ρ}
    (h : ∀ r ∈ rows, key r ∈ keys) :
    (keys.flatMap (fun k => rows.filter (fun r => key r = k))).Perm rows := by
  induction keys generalizing rows with
  | nil =>
    cases rows with
    | nil => exact .refl _
    | cons r rows => exact absurd (h r List.mem_cons_self) (List.not_mem_nil)
  | cons k keys ih =>
    obtain ⟨hk, hn⟩ := List.nodup_cons.mp hn
    have hrest : ∀ r ∈ rows.filter (fun r => !decide (key r = k)), key r ∈ keys := by
      intro r hr
      obtain ⟨hmem, hne⟩ := List.mem_filter.mp hr
      exact (List.mem_cons.mp (h r hmem)).resolve_left (by simpa using hne)
    have hsame : keys.flatMap (fun j => rows.filter (fun r => key r = j)) =
        keys.flatMap (fun j => (rows.filter (fun r => !decide (key r = k))).filter
          (fun r => key r = j)) := by
      apply List.flatMap_congr
      intro j hj
      rw [List.filter_filter]
      apply List.filter_congr
      intro r _
      by_cases hr : key r = j
      · have hne : ¬ key r = k := fun hkey => hk (hkey ▸ hr ▸ hj)
        simp [hr, hr ▸ hne]
      · simp [hr]
    rw [List.flatMap_cons, hsame]
    exact ((ih hn hrest).append_left _).trans (List.filter_append_perm _ _)

end Grouping
