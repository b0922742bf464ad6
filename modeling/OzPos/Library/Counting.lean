import OzPos.Library.Table

namespace Table

variable {κ ρ : Type} {key : ρ → κ}

variable (t : Table κ ρ key) (p : ρ → Bool)

/-- `SELECT COUNT(*) … WHERE p`. -/
def count : Int := t.rows.countP p

theorem count_eq_sum : t.count p = (t.rows.map (fun r => if p r then (1 : Int) else 0)).sum := by
  unfold count
  induction t.rows with
  | nil => rfl
  | cons r rows ih =>
    rw [List.countP_cons, List.map_cons, List.sum_cons, ← ih]
    by_cases h : p r = true
    · simp [h]
      omega
    · simp [h]

theorem count_congr {t u : Table κ ρ key} (h : t.rows = u.rows) (p : ρ → Bool) :
    t.count p = u.count p := by
  rw [count, h, count]

theorem count_mono {p q : ρ → Bool} (h : ∀ r ∈ t.rows, p r = true → q r = true) :
    t.count p ≤ t.count q := by
  have hle := List.countP_mono_left h
  unfold count
  omega

theorem count_insert? [DecidableEq κ] {t u : Table κ ρ key} {r : ρ} (h : t.insert? r = some u)
    (p : ρ → Bool) : u.count p = t.count p + if p r then 1 else 0 := by
  rw [count_eq_sum, count_eq_sum, sum_insert? h]

theorem count_update [DecidableEq κ] (t : Table κ ρ key) (p : ρ → Bool) (f : ρ → ρ)
    (hf : ∀ r, key (f r) = key r) {k : κ} {old : ρ} (h : t.find? k = some old) :
    (t.update k f hf).count p =
      t.count p - (if p old then 1 else 0) + if p (f old) then 1 else 0 := by
  rw [count_eq_sum, count_eq_sum, sum_update t _ f hf h]

/-- `UPDATE … WHERE p`, on columns other than the key. -/
def updateWhere (f : ρ → ρ) (hf : ∀ r, key (f r) = key r) : Table κ ρ key :=
  ⟨t.rows.map (fun r => if p r then f r else r), by
    have hsame : (t.rows.map (fun r => if p r then f r else r)).map key = t.rows.map key := by
      rw [List.map_map]
      apply List.map_congr_left
      intro r hr
      by_cases h : p r = true
      · simp [h, hf]
      · simp [h]
    rw [hsame]
    exact t.unique⟩

theorem count_updateWhere (p q : ρ → Bool) (f : ρ → ρ) (hf : ∀ r, key (f r) = key r) :
    (t.updateWhere p f hf).count q = t.count (fun r => q (if p r then f r else r)) := by
  simp [updateWhere, count, List.countP_map, Function.comp_def]

theorem find?_updateWhere [DecidableEq κ] (t : Table κ ρ key) (p : ρ → Bool) (f : ρ → ρ)
    (hf : ∀ r, key (f r) = key r) (k : κ) :
    (t.updateWhere p f hf).find? k = (t.find? k).map (fun r => if p r then f r else r) := by
  have hkey : ∀ r, key (if p r then f r else r) = key r := by
    intro r
    by_cases h : p r = true
    · simp [h, hf]
    · simp [h]
  simp [find?, updateWhere, List.find?_map, Function.comp_def, hkey]

theorem count_split (p q : ρ → Bool) :
    t.count p = t.count (fun r => p r && q r) + t.count (fun r => p r && !q r) := by
  unfold count
  induction t.rows with
  | nil => rfl
  | cons r rows ih =>
    rw [List.countP_cons, List.countP_cons, List.countP_cons]
    cases hp : p r with
    | false => simpa using ih
    | true =>
      cases hq : q r with
      | false =>
        simp only [Bool.and_self, Bool.and_false, Bool.not_false, if_true, Bool.false_eq_true,
          if_false]
        omega
      | true =>
        simp only [Bool.and_self, Bool.and_false, Bool.not_true, if_true, Bool.false_eq_true,
          if_false]
        omega

theorem count_chosen [DecidableEq κ] (t : Table κ ρ key) (p : ρ → Bool) {chosen : List ρ}
    (hnodup : chosen.Nodup) (hmem : ∀ r ∈ chosen, r ∈ t.rows) :
    t.count (fun r => p r && (chosen.map key).contains (key r)) = chosen.countP p := by
  have hperm : (t.rows.filter (fun r => (chosen.map key).contains (key r))).Perm chosen := by
    rw [List.perm_ext_iff_of_nodup ((List.Nodup.of_map key t.unique).filter _) hnodup]
    intro r
    simp only [List.mem_filter, List.contains_iff_mem, List.mem_map]
    constructor
    · rintro ⟨hr, other, hother, hkey⟩
      have hsame : other = r := List.inj_on_of_nodup_map t.unique (hmem other hother) hr hkey
      rwa [← hsame]
    · intro hr
      exact ⟨hmem r hr, r, hr, rfl⟩
  rw [count, ← hperm.countP_eq p, List.countP_filter]

theorem count_updateChosen [DecidableEq κ] (t : Table κ ρ key) (f : ρ → ρ)
    (hf : ∀ r, key (f r) = key r) (q : ρ → Bool) {chosen : List ρ} (hnodup : chosen.Nodup)
    (hmem : ∀ r ∈ chosen, r ∈ t.rows) :
    (t.updateWhere (fun r => (chosen.map key).contains (key r)) f hf).count q =
      t.count q - chosen.countP q + chosen.countP (fun r => q (f r)) := by
  rw [count_updateWhere, count_split t _ (fun r => (chosen.map key).contains (key r)),
    count_split t q (fun r => (chosen.map key).contains (key r)), count_chosen t q hnodup hmem,
    ← count_chosen t (fun r => q (f r)) hnodup hmem]
  have hin : ∀ r, (q (if (chosen.map key).contains (key r) then f r else r) &&
      (chosen.map key).contains (key r)) = (q (f r) && (chosen.map key).contains (key r)) := by
    intro r
    cases (chosen.map key).contains (key r) <;> simp
  have hout : ∀ r, (q (if (chosen.map key).contains (key r) then f r else r) &&
      !(chosen.map key).contains (key r)) = (q r && !(chosen.map key).contains (key r)) := by
    intro r
    cases (chosen.map key).contains (key r) <;> simp
  simp only [hin, hout]
  omega

end Table
