import OzPos.Library.Grouping
import Mathlib.Algebra.Order.BigOperators.Group.List

/-! Drawing a quantity from amounts kept under keys, the first ones first. -/

namespace Drawdown

variable {κ : Type}

def drawn : Int → List (κ × Int) → List (κ × Int)
  | _, [] => []
  | n, e :: rest =>
    if n ≤ 0 then [] else (e.1, min e.2 n) :: drawn (n - min e.2 n) rest

variable (l : List (κ × Int))

def total : Int := (l.map Prod.snd).sum

def amountAt [DecidableEq κ] (key : κ) (l : List (κ × Int)) : Int :=
  (l.map (fun e => if e.1 = key then e.2 else 0)).sum

@[simp] theorem total_nil : total ([] : List (κ × Int)) = 0 := rfl

@[simp] theorem total_cons (e : κ × Int) (l : List (κ × Int)) :
    total (e :: l) = e.2 + total l := by simp [total]

@[simp] theorem total_reverse : total l.reverse = total l := by
  simp [total]

theorem total_nonneg {l : List (κ × Int)} (h : ∀ e ∈ l, 0 < e.2) : 0 ≤ total l := by
  induction l with
  | nil => simp
  | cons e rest ih =>
    obtain ⟨he, hrest⟩ := List.forall_mem_cons.mp h
    have hlater := ih hrest
    rw [total_cons]
    omega

variable {n : Int}

theorem drawn_of_nonpos (h : n ≤ 0) (l : List (κ × Int)) : drawn n l = [] := by
  cases l with
  | nil => rfl
  | cons e rest => rw [drawn, if_pos h]

theorem drawn_of_total_le {l : List (κ × Int)} (h : ∀ e ∈ l, 0 < e.2)
    (hn : total l ≤ n) : drawn n l = l := by
  induction l generalizing n with
  | nil => rfl
  | cons e rest ih =>
    obtain ⟨he, hrest⟩ := List.forall_mem_cons.mp h
    have hnonneg := total_nonneg hrest
    rw [total_cons] at hn
    rw [drawn, if_neg (by omega), Int.min_eq_left (by omega), ih hrest (by omega)]

theorem total_drawn {l : List (κ × Int)} (h : ∀ e ∈ l, 0 < e.2) (h0 : 0 ≤ n)
    (hn : n ≤ total l) : total (drawn n l) = n := by
  induction l generalizing n with
  | nil =>
    rw [total_nil] at hn
    simp [drawn]
    omega
  | cons e rest ih =>
    obtain ⟨he, hrest⟩ := List.forall_mem_cons.mp h
    have hnonneg := total_nonneg hrest
    rw [total_cons] at hn
    by_cases hzero : n ≤ 0
    · rw [drawn_of_nonpos hzero, total_nil]
      omega
    · rw [drawn, if_neg hzero, total_cons, ih hrest (by omega) (by omega)]
      omega

theorem pos_of_mem_drawn {l : List (κ × Int)} (h : ∀ e ∈ l, 0 < e.2) :
    ∀ e ∈ drawn n l, 0 < e.2 := by
  induction l generalizing n with
  | nil =>
    intro e he
    cases he
  | cons d rest ih =>
    obtain ⟨hd, hrest⟩ := List.forall_mem_cons.mp h
    intro e he
    rw [drawn] at he
    split at he
    · cases he
    · rcases List.mem_cons.mp he with rfl | he
      · simp only
        omega
      · exact ih hrest e he

def given (ns : List Int) (l : List (κ × Int)) : List (κ × Int) :=
  ns.flatMap (fun n => drawn n l)

theorem given_append (ns ms : List Int) (l : List (κ × Int)) :
    given (ns ++ ms) l = given ns l ++ given ms l := List.flatMap_append

theorem total_given {ns : List Int} {l : List (κ × Int)} (h : ∀ e ∈ l, 0 < e.2)
    (hns : ∀ n ∈ ns, 0 ≤ n ∧ n ≤ total l) : total (given ns l) = ns.sum := by
  induction ns with
  | nil => rfl
  | cons n ns ih =>
    obtain ⟨⟨h0, hn⟩, hrest⟩ := List.forall_mem_cons.mp hns
    have hlater := ih hrest
    have hhere := total_drawn h h0 hn
    unfold given total at hlater ⊢
    unfold total at hhere
    rw [List.flatMap_cons, List.map_append, List.sum_append, hhere, hlater, List.sum_cons]

theorem fst_of_mem_drawn {l : List (κ × Int)} {e : κ × Int} (h : e ∈ drawn n l) :
    e.1 ∈ l.map Prod.fst := by
  induction l generalizing n with
  | nil => cases h
  | cons d rest ih =>
    rw [drawn] at h
    split at h
    · cases h
    · rcases List.mem_cons.mp h with rfl | hrest
      · exact List.mem_cons_self
      · exact List.mem_cons_of_mem _ (ih hrest)

theorem eq_of_sum_eq {ι : Type} {f g : ι → Int} {keys : List ι} (hle : ∀ k ∈ keys, f k ≤ g k)
    (hsum : (keys.map f).sum = (keys.map g).sum) : ∀ k ∈ keys, f k = g k := by
  induction keys with
  | nil => simp
  | cons k keys ih =>
    obtain ⟨hk, hkeys⟩ := List.forall_mem_cons.mp hle
    have hrest : (keys.map f).sum ≤ (keys.map g).sum := List.sum_le_sum hkeys
    rw [List.map_cons, List.map_cons, List.sum_cons, List.sum_cons] at hsum
    refine List.forall_mem_cons.mpr ⟨by omega, ih hkeys (by omega)⟩

section Keys

variable [DecidableEq κ] (key : κ)

@[simp] theorem amountAt_nil : amountAt key [] = 0 := rfl

@[simp] theorem amountAt_cons (e : κ × Int) (l : List (κ × Int)) :
    amountAt key (e :: l) = (if e.1 = key then e.2 else 0) + amountAt key l := by
  simp [amountAt]

@[simp] theorem amountAt_append (l r : List (κ × Int)) :
    amountAt key (l ++ r) = amountAt key l + amountAt key r := by
  simp [amountAt]

@[simp] theorem amountAt_reverse (l : List (κ × Int)) :
    amountAt key l.reverse = amountAt key l := by
  simp [amountAt]

variable {l : List (κ × Int)}

theorem amountAt_nonneg (h : ∀ e ∈ l, 0 < e.2) : 0 ≤ amountAt key l := by
  apply List.sum_nonneg
  intro x hx
  obtain ⟨e, he, rfl⟩ := List.mem_map.mp hx
  have hpos := h e he
  split <;> omega

theorem amountAt_of_absent (h : ∀ e ∈ l, e.1 ≠ key) : amountAt key l = 0 := by
  apply List.sum_eq_zero
  intro x hx
  obtain ⟨e, he, rfl⟩ := List.mem_map.mp hx
  rw [if_neg (h e he)]

theorem amountAt_drawn_append (h : ∀ e ∈ l, 0 < e.2) (r : List (κ × Int))
    (n : Int) : amountAt key (drawn n (l ++ r)) =
      amountAt key (drawn n l) + amountAt key (drawn (n - total l) r) := by
  induction l generalizing n with
  | nil => simp [drawn]
  | cons e rest ih =>
    obtain ⟨he, hrest⟩ := List.forall_mem_cons.mp h
    have hnonneg := total_nonneg hrest
    rw [List.cons_append, total_cons]
    by_cases hzero : n ≤ 0
    · rw [drawn_of_nonpos hzero, drawn_of_nonpos hzero, drawn_of_nonpos (by omega)]
      rfl
    · rw [drawn, drawn, if_neg hzero, if_neg hzero, amountAt_cons, amountAt_cons, ih hrest]
      by_cases hall : e.2 ≤ n
      · rw [Int.min_eq_left hall, Int.sub_sub]
        omega
      · rw [Int.min_eq_right (by omega), drawn_of_nonpos (by omega : n - n - total rest ≤ 0),
          drawn_of_nonpos (by omega : n - (e.2 + total rest) ≤ 0)]
        omega

theorem drawn_reverse_add_drawn (h : ∀ e ∈ l, 0 < e.2) (hn : n ≤ total l) :
    amountAt key (drawn n l.reverse) + amountAt key (drawn (total l - n) l) = amountAt key l := by
  induction l with
  | nil => simp [drawn]
  | cons e rest ih =>
    obtain ⟨he, hrest⟩ := List.forall_mem_cons.mp h
    have hreversed : ∀ e ∈ rest.reverse, 0 < e.2 := by
      intro e he
      exact hrest e (List.mem_reverse.mp he)
    have hnonneg := total_nonneg hrest
    rw [total_cons] at hn ⊢
    rw [List.reverse_cons, amountAt_drawn_append key hreversed, total_reverse, amountAt_cons]
    by_cases hpart : n ≤ total rest
    · -- the first entry is not reached from the end
      rw [drawn_of_nonpos (by omega : n - total rest ≤ 0), drawn, if_neg (by omega),
        Int.min_eq_left (by omega), amountAt_cons,
        show e.2 + total rest - n - e.2 = total rest - n by omega]
      have hlater := ih hrest hpart
      simp only [amountAt_nil]
      omega
    · rw [drawn_of_total_le hreversed (by rw [total_reverse]; omega), amountAt_reverse, drawn,
        if_neg (by omega), Int.min_eq_right (by omega), drawn]
      by_cases hfull : e.2 + total rest - n ≤ 0
      · rw [drawn_of_nonpos hfull, amountAt_cons]
        rw [amountAt_nil]
        split <;> omega
      · rw [drawn, if_neg hfull, Int.min_eq_right (by omega), drawn_of_nonpos (by omega)]
        simp only [amountAt_cons, amountAt_nil]
        split <;> omega

theorem amountAt_given (ns : List Int) (l : List (κ × Int)) :
    amountAt key (given ns l) = (ns.map (fun n => amountAt key (drawn n l))).sum := by
  induction ns with
  | nil => rfl
  | cons n ns ih =>
    rw [given, List.flatMap_cons, amountAt_append, List.map_cons, List.sum_cons, ← ih]
    rfl

theorem amountAt_given_le_append (h : ∀ e ∈ l, 0 < e.2) (ns ms : List Int) :
    amountAt key (given ns l) ≤ amountAt key (given (ns ++ ms) l) := by
  have hlater : 0 ≤ amountAt key (given ms l) := by
    apply amountAt_nonneg
    intro e he
    obtain ⟨n, _, hdrawn⟩ := List.mem_flatMap.mp he
    exact pos_of_mem_drawn h e hdrawn
  rw [given_append, amountAt_append]
  omega

/-- Drawn anew from the end each time, no key gives more than it held just when, beside any one of
the quantities, the others find what that one left. -/
theorem given_within_iff {ns : List Int} (h : ∀ e ∈ l, 0 < e.2) (hns : ∀ n ∈ ns, n ≤ total l) :
    (∀ key, amountAt key (given ns l.reverse) ≤ amountAt key l) ↔
      ∀ n ∈ ns, ∀ key, amountAt key (given (ns.erase n) l.reverse) ≤
        amountAt key (drawn (total l - n) l) := by
  have hsplit : ∀ n ∈ ns, ∀ key, amountAt key (given ns l.reverse) =
      amountAt key (drawn n l.reverse) + amountAt key (given (ns.erase n) l.reverse) := by
    intro n hn key
    rw [amountAt_given, amountAt_given,
      ((List.perm_cons_erase hn).map (fun n => amountAt key (drawn n l.reverse))).sum_eq,
      List.map_cons, List.sum_cons]
  constructor
  · intro hwithin n hn key
    have hkey := hwithin key
    have hall := drawn_reverse_add_drawn key h (hns n hn)
    rw [hsplit n hn] at hkey
    omega
  · intro hothers key
    cases hlist : ns with
    | nil => exact amountAt_nonneg key h
    | cons n rest =>
      have hn : n ∈ ns := hlist ▸ List.mem_cons_self
      have hkey := hothers n hn key
      have hall := drawn_reverse_add_drawn key h (hns n hn)
      rw [← hlist, hsplit n hn]
      omega

theorem given_exact {ns : List Int} (h : ∀ e ∈ l, 0 < e.2)
    (hns : ∀ n ∈ ns, 0 ≤ n ∧ n ≤ total l) (hsum : ns.sum = total l)
    (hwithin : ∀ key, amountAt key (given ns l.reverse) ≤ amountAt key l) (key : κ) :
    amountAt key (given ns l.reverse) = amountAt key l := by
  have hreversed : ∀ e ∈ l.reverse, 0 < e.2 := by
    intro e he
    exact h e (List.mem_reverse.mp he)
  have hkeys : ∀ e ∈ given ns l.reverse, e.1 ∈ (l.map Prod.fst).dedup := by
    intro e he
    obtain ⟨n, _, hdrawn⟩ := List.mem_flatMap.mp he
    have hfst := fst_of_mem_drawn hdrawn
    rw [List.map_reverse, List.mem_reverse] at hfst
    exact List.mem_dedup.mpr hfst
  have hheld : ∀ e ∈ l, e.1 ∈ (l.map Prod.fst).dedup := by
    intro e he
    exact List.mem_dedup.mpr (List.mem_map.mpr ⟨e, he, rfl⟩)
  have hgiven := Grouping.sum_by_key Prod.fst Prod.snd (List.nodup_dedup _) hkeys
  have hall := Grouping.sum_by_key Prod.fst Prod.snd (List.nodup_dedup _) hheld
  have htotal := total_given hreversed (by simpa using hns)
  by_cases hkey : key ∈ (l.map Prod.fst).dedup
  · apply eq_of_sum_eq (fun k _ => hwithin k) ?_ key hkey
    unfold amountAt
    rw [hgiven, hall]
    unfold total at htotal hsum
    rw [htotal, hsum]
  · rw [amountAt_of_absent key (fun e he heq => hkey (heq ▸ hkeys e he)),
      amountAt_of_absent key (fun e he heq => hkey (heq ▸ hheld e he))]

end Keys

end Drawdown
