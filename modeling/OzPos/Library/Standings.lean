import Mathlib.Data.List.Nodup

/-- Entries in their order of arrival, each of which may stand for one group. -/
abbrev Standings (κ τ : Type) := List (κ × Option τ)

namespace Standings

variable {κ τ : Type}

variable (t : τ) (l : Standings κ τ)

/-- No other group's entry stands before the first of `t`. -/
def Leads : Prop := ∀ u ∈ l.findSome? Prod.snd, u = t

@[simp] theorem leads_nil : Leads t ([] : Standings κ τ) := by simp [Leads]

@[simp] theorem leads_cons_none (i : κ) (l : Standings κ τ) :
    Leads t ((i, none) :: l) ↔ Leads t l := by simp [Leads]

@[simp] theorem leads_cons_some (t u : τ) (i : κ) (l : Standings κ τ) :
    Leads t ((i, some u) :: l) ↔ u = t := by simp [Leads]

theorem leads_of_no_holder {t : τ} {l : Standings κ τ} (h : ∀ e ∈ l, e.2 ≠ some t) :
    Leads t l ↔ ∀ e ∈ l, e.2 = none := by
  induction l with
  | nil => simp
  | cons e l ih =>
    obtain ⟨i, st⟩ := e
    obtain ⟨he, hrest⟩ := List.forall_mem_cons.mp h
    cases st with
    | none => simp [ih hrest]
    | some u =>
      have hu : u ≠ t := fun heq => he (congrArg some heq)
      simp [hu]

section Earlier

variable [DecidableEq κ]

def earlier (k : κ) (l : Standings κ τ) : Standings κ τ := l.takeWhile (fun e => e.1 ≠ k)

@[simp] theorem earlier_cons (k i : κ) (st : Option τ) (l : Standings κ τ) :
    earlier k ((i, st) :: l) = if i = k then [] else (i, st) :: earlier k l := by
  by_cases h : i = k <;> simp [earlier, h]

end Earlier

variable [DecidableEq τ]

def holders : List κ := (l.filter (fun e => e.2 = some t)).map Prod.fst

def vacate (c : Option τ) (e : κ × Option τ) : κ × Option τ := if e.2 = c then (e.1, none) else e

theorem filter_vacate {c : Option τ} {t : τ} (hc : c ≠ some t) (l : Standings κ τ) :
    (l.map (vacate c)).filter (fun e => e.2 = some t) = l.filter (fun e => e.2 = some t) := by
  induction l with
  | nil => rfl
  | cons e l ih =>
    obtain ⟨i, st⟩ := e
    by_cases hst : st = c
    · subst hst
      simp [vacate, hc, ih]
    · simp [vacate, hst, List.filter_cons, ih]

theorem map_vacate_none : l.map (vacate none) = l := by
  induction l with
  | nil => rfl
  | cons e l ih =>
    obtain ⟨i, st⟩ := e
    cases st with
    | none => simp [vacate, ih]
    | some u => simp [vacate, ih]

variable [DecidableEq κ]

variable (k : κ)

/-- The entry of `k` comes to stand for `new`, at its place or at the end; the entries that stand
for `c` give way. -/
def place (k : κ) (c new : Option τ) : Standings κ τ → Standings κ τ
  | [] => [(k, new)]
  | e :: l => if e.1 = k then (k, new) :: l.map (vacate c) else vacate c e :: place k c new l

variable (c new : Option τ) (l : Standings κ τ)

theorem place_of_notMem (h : k ∉ l.map Prod.fst) : place k c new l = l.map (vacate c) ++
    [(k, new)] := by
  induction l with
  | nil => rfl
  | cons e l ih =>
    obtain ⟨hne, hrest⟩ := not_or.mp (fun hor => h (List.mem_cons.mpr hor))
    rw [place, if_neg (fun heq => hne heq.symm), ih hrest]
    rfl

theorem place_of_mem (hnodup : (l.map Prod.fst).Nodup) (h : k ∈ l.map Prod.fst) :
    place k c new l = l.map (fun e => if e.1 = k then (k, new) else vacate c e) := by
  induction l with
  | nil => cases h
  | cons e l ih =>
    obtain ⟨he, hrest⟩ := List.nodup_cons.mp hnodup
    by_cases hk : e.1 = k
    · rw [place, if_pos hk, List.map_cons, if_pos hk]
      congr 1
      apply List.map_congr_left
      intro x hx
      rw [if_neg]
      intro hxk
      exact he (hk ▸ hxk ▸ List.mem_map_of_mem hx)
    · have hmem : k ∈ l.map Prod.fst := by
        rcases List.mem_cons.mp h with rfl | hmem
        · exact absurd rfl hk
        · exact hmem
      rw [place, if_neg hk, List.map_cons, if_neg hk, ih hrest hmem]

theorem mem_place : (k, new) ∈ place k c new l := by
  induction l with
  | nil => simp [place]
  | cons e l ih =>
    by_cases hk : e.1 = k
    · simp [place, hk]
    · simp [place, hk, ih]

theorem holders_place {k : κ} {c new : Option τ} {t : τ} (hc : c ≠ some t) (hnew : new ≠ some t)
    (l : Standings κ τ) (hold : (k, some t) ∉ l) : holders t (place k c new l) = holders t l := by
  unfold holders
  congr 1
  induction l with
  | nil => simp [place, hnew]
  | cons e l ih =>
    obtain ⟨i, st⟩ := e
    obtain ⟨hne, hrest⟩ := not_or.mp (fun hor => hold (List.mem_cons.mpr hor))
    by_cases hk : i = k
    · subst hk
      have hst : st ≠ some t := by
        rintro rfl
        exact hne rfl
      simp [place, hnew, hst, filter_vacate hc]
    · by_cases hst : st = c
      · subst hst
        simp [place, hk, vacate, hc, ih hrest]
      · simp [place, hk, vacate, hst, List.filter_cons, ih hrest]

theorem leads_place_same (t : τ) (l : Standings κ τ) :
    Leads t (place k (some t) (some t) l) ↔ ∀ e ∈ earlier k l, ∀ u ∈ e.2, u = t := by
  induction l with
  | nil => simp [place, earlier]
  | cons e l ih =>
    obtain ⟨i, st⟩ := e
    by_cases hk : i = k
    · simp [place, hk]
    · cases st with
      | none => simp [place, hk, vacate, ih]
      | some u =>
        by_cases hu : u = t
        · simp [place, hk, vacate, hu, ih]
        · simp [place, hk, vacate, hu]

theorem leads_place_other {k : κ} {t u : τ} (hu : u ≠ t) (l : Standings κ τ) (hl : Leads t l) :
    Leads t (place k (some u) (some u) l) ↔ ∃ e ∈ earlier k l, e.2 = some t := by
  induction l with
  | nil => simp [place, earlier, hu]
  | cons e l ih =>
    obtain ⟨i, st⟩ := e
    by_cases hk : i = k
    · simp [place, hk, hu]
    · cases st with
      | none =>
        have hrest : Leads t l := by simpa using hl
        simp [place, hk, vacate, ih hrest]
      | some v =>
        have hv : v = t := by simpa using hl
        subst hv
        simp [place, hk, vacate, Ne.symm hu]

theorem not_leads_place {k : κ} {t u : τ} (hu : u ≠ t) (l : Standings κ τ) :
    ¬ Leads t (place k (some t) (some u) l) := by
  induction l with
  | nil => simp [place, hu]
  | cons e l ih =>
    obtain ⟨i, st⟩ := e
    by_cases hk : i = k
    · simp [place, hk, hu]
    · cases st with
      | none => simpa [place, hk, vacate] using ih
      | some v =>
        by_cases hv : v = t
        · simpa [place, hk, vacate, hv] using ih
        · simp [place, hk, vacate, hv]

theorem leads_place_none {t : τ} (hl : Leads t l)
    (hkeys : (l.map Prod.fst).Nodup) (hone : (holders t l).length ≤ 1) :
    Leads t (place k none none l) ↔ ((k, some t) ∈ l → ∀ e ∈ l, ∀ u ∈ e.2, u = t) := by
  induction l with
  | nil => simp [place]
  | cons e l ih =>
    obtain ⟨i, st⟩ := e
    obtain ⟨hi, hrestKeys⟩ := List.nodup_cons.mp hkeys
    cases st with
    | none =>
      have hrest : Leads t l := by simpa using hl
      have hone' : (holders t l).length ≤ 1 := by simpa [holders] using hone
      by_cases hk : i = k
      · subst hk
        have hnot : (i, some t) ∉ l := fun hmem => hi (List.mem_map.mpr ⟨_, hmem, rfl⟩)
        simp [place, map_vacate_none, hrest, hnot]
      · have hne : k ≠ i := Ne.symm hk
        simpa [place, hk, hne, vacate] using ih hrest hrestKeys hone'
    | some u =>
      have hu : u = t := by simpa using hl
      subst hu
      have hno : ∀ e ∈ l, e.2 ≠ some u := by
        intro e he heq
        simp only [holders, List.filter_cons, decide_true, if_true, List.map_cons,
          List.length_cons, List.length_map] at hone
        have hmem : e ∈ l.filter (fun e => e.2 = some u) := by simp [he, heq]
        have hpos := List.length_pos_of_mem hmem
        omega
      by_cases hk : i = k
      · subst hk
        have hothers : Leads u l ↔ ∀ e ∈ l, ∀ v ∈ e.2, v = u := by
          rw [leads_of_no_holder hno]
          constructor
          · intro hnone e he v hv
            rw [hnone e he] at hv
            cases hv
          · intro hall e he
            cases hst : e.2 with
            | none => rfl
            | some v => exact absurd (hst.trans (congrArg some (hall e he v hst))) (hno e he)
        simpa [place, map_vacate_none] using hothers
      · have hnot : (k, some u) ∉ l := fun hmem => hno _ hmem rfl
        simp [place, hk, vacate, hnot, Ne.symm hk]

end Standings
