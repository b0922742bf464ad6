import Mathlib.Data.List.Nodup
import Mathlib.Algebra.BigOperators.Group.List.Basic
import Mathlib.Algebra.Order.Ring.Int

structure Table (κ ρ : Type) (key : ρ → κ) where
  rows : List ρ
  unique : (rows.map key).Nodup

namespace Table

variable {κ ρ : Type} [DecidableEq κ] {key : ρ → κ}

def empty : Table κ ρ key := ⟨[], List.nodup_nil⟩

def single (r : ρ) : Table κ ρ key := ⟨[r], List.nodup_singleton _⟩

variable (t : Table κ ρ key)

def find? (t : Table κ ρ key) (k : κ) : Option ρ := t.rows.find? (fun r => key r = k)

theorem find?_eq_some_iff (k : κ) (r : ρ) : t.find? k = some r ↔ r ∈ t.rows ∧ key r = k := by
  constructor
  · intro h
    have hkey := List.find?_some h
    exact ⟨List.mem_of_find?_eq_some h, by simpa using hkey⟩
  · rintro ⟨hmem, hkey⟩
    have hsome : (t.find? k).isSome := by
      rw [find?, List.find?_isSome]
      exact ⟨r, hmem, by simpa using hkey⟩
    obtain ⟨s, hs⟩ := Option.isSome_iff_exists.mp hsome
    have hsmem := List.mem_of_find?_eq_some hs
    have hskey : key s = k := by simpa using List.find?_some hs
    have heq := List.inj_on_of_nodup_map t.unique hsmem hmem (by rw [hskey, hkey])
    rw [hs, heq]

theorem find?_eq_none_iff (k : κ) : t.find? k = none ↔ ∀ r ∈ t.rows, key r ≠ k := by
  simp [find?]

theorem isSome_find?_iff (k : κ) : (t.find? k).isSome ↔ ∃ r ∈ t.rows, key r = k := by
  simp [find?]

variable {t : Table κ ρ key} {r : ρ}

theorem find?_key {k : κ} (h : t.find? k = some r) : key r = k :=
  ((find?_eq_some_iff t k r).mp h).2

theorem mem_rows_iff (t : Table κ ρ key) (r : ρ) : r ∈ t.rows ↔ t.find? (key r) = some r := by
  rw [find?_eq_some_iff]; simp

def rewriteRows (key : ρ → κ) (k : κ) (f : ρ → ρ) (rows : List ρ) : List ρ :=
  rows.map (fun r => if key r = k then f r else r)

theorem map_key_rewriteRows (key : ρ → κ) (k : κ) (f : ρ → ρ)
    (hf : ∀ r, key r = k → key (f r) = k) (rows : List ρ) :
    (rewriteRows key k f rows).map key = rows.map key := by
  rw [rewriteRows, List.map_map]
  apply List.map_congr_left
  intro r _
  by_cases h : key r = k
  · simp [h, hf r h]
  · simp [h]

theorem find?_rewriteRows (key : ρ → κ) (k : κ) (f : ρ → ρ)
    (hf : ∀ r, key r = k → key (f r) = k) (rows : List ρ) (j : κ) :
    (rewriteRows key k f rows).find? (fun r => key r = j) =
      (rows.find? (fun r => key r = j)).map (fun r => if j = k then f r else r) := by
  induction rows with
  | nil => rfl
  | cons r rest ih =>
    have ih' : (rest.map (fun r => if key r = k then f r else r)).find? (fun r => key r = j) =
      (rest.find? (fun r => key r = j)).map (fun r => if j = k then f r else r) := ih
    rw [rewriteRows, List.map_cons, List.find?_cons, List.find?_cons]
    by_cases hk : key r = k
    · have hfk := hf r hk
      by_cases hj : k = j
      · subst hj; simp [hk, hfk]
      · simp [hk, hfk, hj, ih']
    · by_cases hj : key r = j
      · subst hj; simp [hk]
      · simp [hk, hj, ih']

/-- `INSERT`; `none` is the key violation. -/
def insert? (t : Table κ ρ key) (r : ρ) : Option (Table κ ρ key) :=
  if h : ∀ s ∈ t.rows, key s ≠ key r then
    some ⟨t.rows ++ [r], by
      rw [List.map_append, List.nodup_append]
      refine ⟨t.unique, by simp, ?_⟩
      intro a ha b hb
      obtain ⟨s, hs, rfl⟩ := List.mem_map.mp ha
      have hb' : b = key r := by simpa using hb
      rw [hb']
      exact h s hs⟩
  else none

/-- `INSERT … ON CONFLICT DO NOTHING`. -/
def insertNew (t : Table κ ρ key) (r : ρ) : Table κ ρ key := (t.insert? r).getD t

/-- `UPDATE … WHERE key = k`, on columns other than the key. -/
def update (t : Table κ ρ key) (k : κ) (f : ρ → ρ) (hf : ∀ r, key (f r) = key r) : Table κ ρ key :=
  ⟨rewriteRows key k f t.rows, by
    rw [map_key_rewriteRows key k f (fun r hr => by rw [hf, hr])]
    exact t.unique⟩

/-- `UPDATE` over every row, on columns other than the key. -/
def mapRows (t : Table κ ρ key) (f : ρ → ρ) (hf : ∀ r, key (f r) = key r) : Table κ ρ key :=
  ⟨t.rows.map f, by
    have hkeys : key ∘ f = key := funext hf
    rw [List.map_map, hkeys]
    exact t.unique⟩

/-- `INSERT … ON CONFLICT DO UPDATE` of every column. -/
def upsert (t : Table κ ρ key) (r : ρ) : Table κ ρ key :=
  (t.insert? r).getD
    ⟨rewriteRows key (key r) (fun _ => r) t.rows, by
      rw [map_key_rewriteRows key (key r) (fun _ => r) (fun _ _ => rfl)]
      exact t.unique⟩

/-- `DELETE` of the rows that do not satisfy `p`. -/
def retain (t : Table κ ρ key) (p : ρ → Bool) : Table κ ρ key :=
  ⟨t.rows.filter p, t.unique.sublist (List.filter_sublist.map key)⟩

theorem mem_update (t : Table κ ρ key) (k : κ) (f : ρ → ρ) (hf : ∀ r, key (f r) = key r) (s : ρ) :
    s ∈ (t.update k f hf).rows ↔ ∃ r ∈ t.rows, s = if key r = k then f r else r := by
  simp [update, rewriteRows, eq_comm]

theorem find?_mapRows (t : Table κ ρ key) (f : ρ → ρ) (hf : ∀ r, key (f r) = key r) (k : κ) :
    (t.mapRows f hf).find? k = (t.find? k).map f := by
  simp [find?, mapRows, List.find?_map, Function.comp_def, hf]

theorem insert?_isSome_iff (t : Table κ ρ key) (r : ρ) :
    (t.insert? r).isSome ↔ t.find? (key r) = none := by
  rw [find?_eq_none_iff, insert?]
  split <;> simp_all

theorem insert?_eq_none_iff (t : Table κ ρ key) (r : ρ) :
    t.insert? r = none ↔ ∃ s, t.find? (key r) = some s := by
  have h := insert?_isSome_iff t r
  rw [← Option.isSome_iff_exists]
  cases ht : t.insert? r <;> cases hf : t.find? (key r) <;> simp_all

variable {u : Table κ ρ key}

theorem insert?_rows (h : t.insert? r = some u) : u.rows = t.rows ++ [r] := by
  unfold insert? at h
  split at h
  · simp only [Option.some.injEq] at h
    rw [← h]
  · simp at h

theorem find?_insert? (h : t.insert? r = some u) (k : κ) :
    u.find? k = if key r = k then some r else t.find? k := by
  have hnew : t.find? (key r) = none := by
    rw [← insert?_isSome_iff, h]; rfl
  rw [find?, insert?_rows h, List.find?_append]
  by_cases hk : key r = k
  · subst hk
    change (t.find? (key r)).or _ = _
    simp [hnew]
  · change (t.find? k).or _ = _
    simp [hk]

theorem find?_insertNew (t : Table κ ρ key) (r : ρ) (k : κ) :
    (t.insertNew r).find? k = (t.find? k).or (if key r = k then some r else none) := by
  unfold insertNew
  cases h : t.insert? r with
  | none =>
    obtain ⟨s, hs⟩ := (insert?_eq_none_iff t r).mp h
    by_cases hk : key r = k
    · subst hk; simp [hs]
    · simp [hk]
  | some u =>
    have hnew : t.find? (key r) = none := by rw [← insert?_isSome_iff, h]; rfl
    rw [Option.getD_some, find?_insert? h]
    by_cases hk : key r = k
    · subst hk; simp [hnew]
    · simp [hk]

theorem rows_insertNew (t : Table κ ρ key) (r : ρ) :
    (t.insertNew r).rows = if (t.find? (key r)).isSome then t.rows else t.rows ++ [r] := by
  unfold insertNew
  cases h : t.insert? r with
  | none =>
    obtain ⟨s, hs⟩ := (insert?_eq_none_iff t r).mp h
    simp [hs]
  | some u =>
    have hnew : t.find? (key r) = none := by rw [← insert?_isSome_iff, h]; rfl
    simp [hnew, insert?_rows h]

theorem find?_retain (t : Table κ ρ key) (p : ρ → Bool) (k : κ)
    (h : ∀ r, key r = k → p r = true) : (t.retain p).find? k = t.find? k := by
  unfold find? retain
  rw [List.find?_filter]
  congr 1
  funext r
  by_cases hr : key r = k
  · simp [hr, h r hr]
  · simp [hr]

theorem find?_delete (t : Table κ ρ key) (k j : κ) :
    (t.retain (fun r => key r ≠ k)).find? j = if j = k then none else t.find? j := by
  by_cases hj : j = k
  · subst hj
    rw [if_pos rfl, find?_eq_none_iff]
    intro r hr
    simpa using (List.mem_filter.mp hr).2
  · rw [if_neg hj]
    apply find?_retain
    intro r hr
    simpa [hr] using hj

theorem find?_update (t : Table κ ρ key) (k : κ) (f : ρ → ρ) (hf : ∀ r, key (f r) = key r) (j : κ) :
    (t.update k f hf).find? j = (t.find? j).map (fun r => if j = k then f r else r) :=
  find?_rewriteRows key k f (fun r hr => by rw [hf, hr]) t.rows j

theorem find?_upsert (t : Table κ ρ key) (r : ρ) (k : κ) :
    (t.upsert r).find? k = if key r = k then some r else t.find? k := by
  unfold upsert
  cases h : t.insert? r with
  | some u => exact find?_insert? h k
  | none =>
    obtain ⟨s, hs⟩ := (insert?_eq_none_iff t r).mp h
    have hfind := find?_rewriteRows key (key r) (fun _ => r) (fun _ _ => rfl) t.rows k
    rw [Option.getD_none, find?, hfind]
    change (t.find? k).map _ = _
    by_cases hk : key r = k
    · subst hk; simp [hs]
    · simp [hk, Ne.symm hk]

theorem sum_rewriteRows (g : ρ → ℤ) (k : κ) (f : ρ → ρ) (rows : List ρ)
    (hn : (rows.map key).Nodup) {old : ρ} (hold : rows.find? (fun s => key s = k) = some old) :
    ((rewriteRows key k f rows).map g).sum = (rows.map g).sum - g old + g (f old) := by
  induction rows with
  | nil => simp at hold
  | cons s rest ih =>
    obtain ⟨hs, hrest⟩ := List.nodup_cons.mp hn
    rw [rewriteRows, List.map_cons, List.map_cons, List.sum_cons, List.map_cons, List.sum_cons]
    by_cases hk : key s = k
    · have heq : s = old := by simpa [List.find?_cons, hk] using hold
      have hsame : rest.map (fun t => if key t = k then f t else t) = rest := by
        conv_rhs => rw [← List.map_id rest]
        apply List.map_congr_left
        intro t ht
        have hne : key t ≠ k := fun h => hs (List.mem_map.mpr ⟨t, ht, h.trans hk.symm⟩)
        simp [hne]
      rw [if_pos hk, hsame, heq]
      omega
    · have hfind : rest.find? (fun t => key t = k) = some old := by
        simpa [List.find?_cons, hk] using hold
      have hsum := ih hrest hfind
      rw [rewriteRows] at hsum
      rw [if_neg hk, hsum]
      omega

theorem sum_insert? (h : t.insert? r = some u) (g : ρ → ℤ) :
    (u.rows.map g).sum = (t.rows.map g).sum + g r := by
  simp [insert?_rows h]

theorem sum_update (t : Table κ ρ key) (g : ρ → ℤ) (f : ρ → ρ) (hf : ∀ r, key (f r) = key r)
    {k : κ} {old : ρ} (h : t.find? k = some old) :
    ((t.update k f hf).rows.map g).sum = (t.rows.map g).sum - g old + g (f old) :=
  sum_rewriteRows g k f t.rows t.unique h

theorem sum_upsert (t : Table κ ρ key) (f : ρ → ℤ) (r : ρ) :
    ((t.upsert r).rows.map f).sum =
      (t.rows.map f).sum - ((t.find? (key r)).map f).getD 0 + f r := by
  unfold upsert
  cases h : t.insert? r with
  | some u =>
    have hnew : t.find? (key r) = none := by rw [← insert?_isSome_iff, h]; rfl
    simp [insert?_rows h, hnew]
  | none =>
    obtain ⟨old, hold⟩ := (insert?_eq_none_iff t r).mp h
    rw [Option.getD_none, sum_rewriteRows f (key r) (fun _ => r) t.rows t.unique hold, hold]
    rfl

theorem sum_delete (t : Table κ ρ key) (f : ρ → ℤ) (k : κ) :
    ((t.retain (fun r => key r ≠ k)).rows.map f).sum =
      (t.rows.map f).sum - ((t.find? k).map f).getD 0 := by
  obtain ⟨rows, hn⟩ := t
  unfold retain find?
  induction rows with
  | nil => rfl
  | cons s rest ih =>
    obtain ⟨hs, hrest⟩ := List.nodup_cons.mp hn
    by_cases hk : key s = k
    · have hall : rest.filter (fun r => decide (key r ≠ k)) = rest := by
        rw [List.filter_eq_self]
        intro r hr
        have hne : key r ≠ k := fun h => hs (List.mem_map.mpr ⟨r, hr, h.trans hk.symm⟩)
        simp [hne]
      simp only [ne_eq, decide_not] at hall
      simp [hk, hall]
    · have hsum := ih hrest
      simp only [ne_eq, decide_not] at hsum
      simp [hk, hsum]
      omega

theorem mem_upsert (t : Table κ ρ key) (r s : ρ) :
    s ∈ (t.upsert r).rows ↔ s = r ∨ (s ∈ t.rows ∧ key s ≠ key r) := by
  rw [mem_rows_iff, find?_upsert, mem_rows_iff]
  by_cases hk : key r = key s
  · rw [if_pos hk]
    constructor
    · intro h
      exact .inl (Option.some.inj h).symm
    · rintro (rfl | ⟨_, hne⟩)
      · rfl
      · exact absurd hk.symm hne
  · rw [if_neg hk]
    constructor
    · intro h
      exact .inr ⟨h, Ne.symm hk⟩
    · rintro (rfl | ⟨h, _⟩)
      · exact absurd rfl hk
      · exact h

end Table
