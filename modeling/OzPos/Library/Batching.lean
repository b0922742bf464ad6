import Mathlib.Algebra.Order.Ring.Int

namespace Batching

variable {α : Type} (size : α → Nat) (budget : Nat)

/-- Greedy batching under a budget: the loop over the items, with the batch under way and
the size it has so far. -/
def loop : List α → List (List α) → List α → Nat → List (List α)
  | [], batches, current, _ => if current.isEmpty then batches else batches ++ [current]
  | item :: rest, batches, current, bytes =>
    if !current.isEmpty && budget < bytes + size item then
      loop rest (batches ++ [current]) [item] (size item)
    else loop rest batches (current ++ [item]) (bytes + size item)

def batches (items : List α) : List (List α) := loop size budget items [] [] 0

def total (items : List α) : Nat := (items.map size).sum

/-- `run` is what the front of the list fills a batch with: it fits, unless it is one item
that is too large, and the item after it does not. -/
structure Fills (items run rest : List α) : Prop where
  split : items = run ++ rest
  nonempty : run ≠ []
  fits : 2 ≤ run.length → total size run ≤ budget
  full : ∀ next ∈ rest.head?, budget < total size run + size next

/-- A run of the list: it fills a batch at the front, or after runs that do. -/
inductive Run : List α → List α → Prop where
  | front {items run rest : List α} (h : Fills size budget items run rest) : Run items run
  | after {items first rest run : List α} (h : Fills size budget items first rest)
      (hrun : Run rest run) : Run items run

@[simp] theorem total_nil : total size [] = 0 := rfl

@[simp] theorem total_cons (item : α) (items : List α) :
    total size (item :: items) = size item + total size items := rfl

@[simp] theorem total_append (l r : List α) :
    total size (l ++ r) = total size l + total size r := by
  simp [total]

variable {size budget}

variable {items run rest : List α}

theorem Fills.not_longer {run' rest' : List α}
    (h : Fills size budget items run rest) (h' : Fills size budget items run' rest')
    (more : List α) (hrun : run' = run ++ more) (hrest : rest = more ++ rest') : more = [] := by
  cases more with
  | nil => rfl
  | cons next more =>
    have hfull := h.full next (by rw [hrest]; rfl)
    have hlen : 2 ≤ run'.length := by
      have hpos := List.length_pos_iff.mpr h.nonempty
      rw [hrun, List.length_append, List.length_cons]
      omega
    have hfits := h'.fits hlen
    rw [hrun, total_append, total_cons] at hfits
    omega

theorem Fills.unique {run' rest' : List α} (h : Fills size budget items run rest)
    (h' : Fills size budget items run' rest') : run = run' ∧ rest = rest' := by
  have hsplit : run ++ rest = run' ++ rest' := h.split.symm.trans h'.split
  rcases List.append_eq_append_iff.mp hsplit with ⟨more, hrun, hrest⟩ | ⟨more, hrun, hrest⟩
  · have hnil := h.not_longer h' more hrun hrest
    subst hnil
    simp_all
  · have hnil := h'.not_longer h more hrun hrest
    subst hnil
    simp_all

theorem Fills.run_iff {first : List α} (h : Fills size budget items first rest)
    (run : List α) : Run size budget items run ↔ run = first ∨ Run size budget rest run := by
  constructor
  · intro hrun
    cases hrun with
    | front h' => exact .inl (h.unique h').1.symm
    | after h' hrun =>
      obtain ⟨-, rfl⟩ := h.unique h'
      exact .inr hrun
  · rintro (rfl | hrun)
    · exact .front h
    · exact .after h hrun

theorem not_run_nil (run : List α) : ¬ Run size budget [] run := by
  intro h
  have hnot : ∀ {run rest : List α}, ¬ Fills size budget [] run rest := by
    intro run rest hfills
    exact hfills.nonempty (List.append_eq_nil_iff.mp hfills.split.symm).1
  cases h with
  | front h => exact hnot h
  | after h _ => exact hnot h

theorem loop_append (items : List α) (done : List (List α)) (current : List α) (bytes : Nat) :
    loop size budget items done current bytes =
      done ++ loop size budget items [] current bytes := by
  induction items generalizing done current bytes with
  | nil => cases current <;> simp [loop]
  | cons item rest ih =>
    simp only [loop]
    split
    · rw [ih (done ++ [current]), ih ([] ++ [current])]
      simp
    · rw [ih done]

theorem loop_fits {current : List α} {bytes : Nat}
    (h : bytes + total size items ≤ budget) (hne : current ++ items ≠ []) :
    loop size budget items [] current bytes = [current ++ items] := by
  induction items generalizing current bytes with
  | nil =>
    rw [List.append_nil] at hne ⊢
    simp [loop, hne]
  | cons item rest ih =>
    rw [total_cons] at h
    have hrest := @ih (current ++ [item]) (bytes + size item) (by omega) (by simp)
    rw [List.append_assoc, List.singleton_append] at hrest
    rw [loop, if_neg (by simp; omega), hrest]

theorem batches_of_fits (h : total size items ≤ budget) (hne : items ≠ []) :
    batches size budget items = [items] :=
  loop_fits (by omega) hne

theorem mem_loop_iff (items current : List α) (hcurrent : current ≠ [])
    (hfits : 2 ≤ current.length → total size current ≤ budget) (run : List α) :
    run ∈ loop size budget items [] current (total size current) ↔
      Run size budget (current ++ items) run := by
  induction items generalizing current with
  | nil =>
    have hfills : Fills size budget (current ++ []) current [] :=
      ⟨rfl, hcurrent, hfits, by simp⟩
    rw [hfills.run_iff]
    simp [loop, hcurrent, not_run_nil]
  | cons item rest ih =>
    by_cases hfull : budget < total size current + size item
    · have hfills : Fills size budget (current ++ item :: rest) current (item :: rest) :=
        ⟨rfl, hcurrent, hfits, by simpa using hfull⟩
      have hnext := ih [item] (by simp) (by simp)
      simp only [total_cons, total_nil, Nat.add_zero, List.singleton_append] at hnext
      rw [hfills.run_iff, ← hnext]
      simp [loop, hcurrent, hfull, loop_append rest [current]]
    · have hnext := ih (current ++ [item]) (by simp) (by
        intro _
        rw [total_append, total_cons, total_nil]
        omega)
      rw [total_append, total_cons, total_nil, Nat.add_zero, List.append_assoc,
        List.singleton_append] at hnext
      rw [← hnext]
      simp [loop, hfull]

theorem mem_batches_iff (items run : List α) :
    run ∈ batches size budget items ↔ Run size budget items run := by
  cases items with
  | nil => simp [batches, loop, not_run_nil]
  | cons item rest =>
    have h := @mem_loop_iff α size budget rest [item] (by simp) (by simp) run
    simpa [batches, loop] using h

theorem Run.ne_nil (h : Run size budget items run) : run ≠ [] := by
  induction h with
  | front h => exact h.nonempty
  | after _ _ ih => exact ih

theorem flatten_loop (items : List α) (done : List (List α)) (current : List α) (bytes : Nat) :
    (loop size budget items done current bytes).flatten = done.flatten ++ current ++ items := by
  induction items generalizing done current bytes with
  | nil => cases current <;> simp [loop]
  | cons item rest ih =>
    simp only [loop]
    split
    · simp [ih]
    · simp [ih]

theorem flatten_batches (items : List α) : (batches size budget items).flatten = items := by
  simp [batches, flatten_loop]

end Batching
