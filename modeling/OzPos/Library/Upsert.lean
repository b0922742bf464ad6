import OzPos.Library.Table

/-! Upserts into a table with further uniqueness rules: an incoming row resolves on the table's
key, and the row then stored may not clash with another. -/

structure Upsert (κ ρ ν : Type) (key : ρ → κ) where
  keyOf : ν → κ
  stored : Option ρ → ν → ρ
  clash : ρ → ρ → Bool
  allowed : ν → Bool
  key_stored : ∀ o n, key (stored o n) = keyOf n
  clash_symm : ∀ a b, clash a b = clash b a

namespace Upsert

variable {κ ρ ν : Type} [DecidableEq κ] {key : ρ → κ} (u : Upsert κ ρ ν key)

variable (t : Table κ ρ key)

def row (n : ν) : ρ := u.stored (t.find? (u.keyOf n)) n

/-- `none` is a violated constraint. -/
def put (n : ν) : Option (Table κ ρ key) :=
  if u.allowed n && !t.rows.any (fun s => key s ≠ u.keyOf n && u.clash s (u.row t n)) then
    some (t.upsert (u.row t n))
  else none

def putAll (t : Table κ ρ key) : List ν → Option (Table κ ρ key)
  | [] => some t
  | n :: ns =>
    match u.put t n with
    | none => none
    | some t' => putAll t' ns

def Apart : Prop :=
  ∀ a ∈ t.rows, ∀ b ∈ t.rows, key a ≠ key b → u.clash a b = false

/-- What a table has to let through for one incoming row. -/
def Free (n : ν) : Prop :=
  u.allowed n = true ∧
    ∀ s ∈ t.rows, key s ≠ u.keyOf n → u.clash s (u.row t n) = false

theorem put_eq_some_iff (t t' : Table κ ρ key) (n : ν) :
    u.put t n = some t' ↔ u.Free t n ∧ t' = t.upsert (u.row t n) := by
  unfold put Free
  by_cases h : (u.allowed n && !t.rows.any (fun s => key s ≠ u.keyOf n && u.clash s (u.row t n))) = true
  · rw [if_pos h]
    simp at h
    simp only [Option.some.injEq, h.1, true_and]
    constructor
    · rintro rfl
      exact ⟨h.2, rfl⟩
    · rintro ⟨_, rfl⟩
      rfl
  · rw [if_neg h]
    simp only [reduceCtorEq, false_iff]
    rintro ⟨⟨hallowed, hfree⟩, _⟩
    apply h
    simp only [hallowed, Bool.true_and, Bool.not_eq_true', List.any_eq_false]
    intro s hs hclash
    simp only [Bool.and_eq_true, decide_eq_true_eq] at hclash
    rw [hfree s hs hclash.1] at hclash
    exact absurd hclash.2 (by simp)

variable {t t' : Table κ ρ key} {n : ν}

theorem find?_put (h : u.put t n = some t') (k : κ) :
    t'.find? k = if u.keyOf n = k then some (u.row t n) else t.find? k := by
  obtain ⟨_, rfl⟩ := (u.put_eq_some_iff t t' n).mp h
  rw [Table.find?_upsert, row, u.key_stored]

theorem mem_put (h : u.put t n = some t') (s : ρ) :
    s ∈ t'.rows ↔ s = u.row t n ∨ s ∈ t.rows ∧ key s ≠ u.keyOf n := by
  obtain ⟨_, rfl⟩ := (u.put_eq_some_iff t t' n).mp h
  rw [Table.mem_upsert, row, u.key_stored]

theorem apart_put (hapart : u.Apart t) (h : u.put t n = some t') : u.Apart t' := by
  have hfree := ((u.put_eq_some_iff t t' n).mp h).1.2
  have hkey : key (u.row t n) = u.keyOf n := u.key_stored _ _
  intro a ha b hb hne
  rcases (u.mem_put h a).mp ha with rfl | ⟨ha', hka⟩
  · rcases (u.mem_put h b).mp hb with rfl | ⟨hb', hkb⟩
    · exact absurd rfl hne
    · rw [u.clash_symm]
      exact hfree b hb' hkb
  · rcases (u.mem_put h b).mp hb with rfl | ⟨hb', hkb⟩
    · exact hfree a ha' hka
    · exact hapart a ha' b hb' hne

variable {ns : List ν}

theorem apart_putAll (hapart : u.Apart t) (h : u.putAll t ns = some t') : u.Apart t' := by
  induction ns generalizing t with
  | nil =>
    cases h
    exact hapart
  | cons n ns ih =>
    rw [putAll] at h
    cases hput : u.put t n with
    | none =>
      rw [hput] at h
      cases h
    | some t1 =>
      rw [hput] at h
      exact ih (u.apart_put hapart hput) h

theorem rows_putAll {P : ρ → Prop} (hns : ∀ n ∈ ns, ∀ o, P (u.stored o n))
    (ht : ∀ r ∈ t.rows, P r) (h : u.putAll t ns = some t') : ∀ r ∈ t'.rows, P r := by
  induction ns generalizing t with
  | nil =>
    cases h
    exact ht
  | cons n ns ih =>
    rw [putAll] at h
    cases hput : u.put t n with
    | none =>
      rw [hput] at h
      cases h
    | some t1 =>
      rw [hput] at h
      apply ih (fun m hm => hns m (List.mem_cons_of_mem n hm)) _ h
      intro r hr
      rcases (u.mem_put hput r).mp hr with rfl | ⟨hr', _⟩
      · exact hns n List.mem_cons_self _
      · exact ht r hr'

theorem found_putAll {P : ρ → Prop} {k : κ}
    (hstored : ∀ o n, u.keyOf n = k → P o → P (u.stored (some o) n)) (ht : ∃ r, t.find? k = some r ∧ P r) (h : u.putAll t ns = some t') :
    ∃ r, t'.find? k = some r ∧ P r := by
  induction ns generalizing t with
  | nil =>
    cases h
    exact ht
  | cons n ns ih =>
    rw [putAll] at h
    cases hput : u.put t n with
    | none =>
      rw [hput] at h
      cases h
    | some t1 =>
      rw [hput] at h
      apply ih _ h
      obtain ⟨r, hr, hP⟩ := ht
      rw [u.find?_put hput]
      by_cases hk : u.keyOf n = k
      · rw [if_pos hk]
        refine ⟨_, rfl, ?_⟩
        rw [row, hk, hr]
        exact hstored r n hk hP
      · rw [if_neg hk]
        exact ⟨r, hr, hP⟩

theorem row_put {m : ν} (h : u.put t n = some t')
    (hne : u.keyOf n ≠ u.keyOf m) : u.row t' m = u.row t m := by
  unfold row
  rw [u.find?_put h, if_neg hne]

theorem find?_putAll (hns : (ns.map u.keyOf).Nodup) (h : u.putAll t ns = some t') :
    (∀ n ∈ ns, t'.find? (u.keyOf n) = some (u.row t n)) ∧
      ∀ k, k ∉ ns.map u.keyOf → t'.find? k = t.find? k := by
  induction ns generalizing t with
  | nil =>
    cases h
    exact ⟨by simp, fun _ _ => rfl⟩
  | cons n ns ih =>
    obtain ⟨hn, hrest⟩ := List.nodup_cons.mp hns
    rw [putAll] at h
    cases hput : u.put t n with
    | none =>
      rw [hput] at h
      cases h
    | some t1 =>
      rw [hput] at h
      obtain ⟨hlisted, hother⟩ := ih hrest h
      constructor
      · intro m hm
        rcases List.mem_cons.mp hm with rfl | hm
        · rw [hother _ hn, u.find?_put hput, if_pos rfl]
        · have hne : u.keyOf n ≠ u.keyOf m := by
            intro heq
            exact hn (heq ▸ List.mem_map.mpr ⟨m, hm, rfl⟩)
          rw [hlisted m hm, u.row_put hput hne]
      · intro k hk
        simp only [List.map_cons, List.mem_cons, not_or] at hk
        rw [hother k hk.2, u.find?_put hput, if_neg (Ne.symm hk.1)]

/-- A row, when its turn comes, clashes neither with a row of the table that was not listed
before it nor with one listed before it. -/
def ClearOf (t : Table κ ρ key) (earlier : List ν) (n : ν) : Prop :=
  u.allowed n = true ∧
    (∀ s ∈ t.rows, key s ∉ earlier.map u.keyOf → key s ≠ u.keyOf n →
      u.clash s (u.row t n) = false) ∧
    ∀ m ∈ earlier, u.clash (u.row t m) (u.row t n) = false

/-- A condition on each entry of a list and those before it. -/
def InTurn (Fits : List ν → ν → Prop) (ns : List ν) : Prop :=
  ∀ earlier n later, ns = earlier ++ n :: later → Fits earlier n

def Clear (t : Table κ ρ key) (ns : List ν) : Prop := InTurn (u.ClearOf t) ns

theorem clear_cons_iff (hns : ((n :: ns).map u.keyOf).Nodup) (h : u.put t n = some t') :
    u.Clear t (n :: ns) ↔ u.Clear t' ns := by
  obtain ⟨hn, hrest⟩ := List.nodup_cons.mp hns
  have hfirst := ((u.put_eq_some_iff t t' n).mp h).1
  have hkey : key (u.row t n) = u.keyOf n := u.key_stored _ _
  have hrow : ∀ m ∈ ns, u.row t' m = u.row t m := by
    intro m hm
    apply u.row_put h
    intro heq
    exact hn (heq ▸ List.mem_map.mpr ⟨m, hm, rfl⟩)
  constructor
  · intro hclear earlier m later hsplit
    have hm : m ∈ ns := by simp [hsplit]
    obtain ⟨hallowed, hold, hearlier⟩ := hclear (n :: earlier) m later (by rw [hsplit]; rfl)
    unfold ClearOf
    rw [hrow m hm]
    refine ⟨hallowed, ?_, ?_⟩
    · intro s hs hout hne
      rcases (u.mem_put h s).mp hs with rfl | ⟨hs', hks⟩
      · exact hearlier n List.mem_cons_self
      · exact hold s hs' (by simp [hks, hout]) hne
    · intro d hd
      rw [hrow d (by simp [hsplit, hd])]
      exact hearlier d (List.mem_cons_of_mem n hd)
  · intro hclear earlier m later hsplit
    cases earlier with
    | nil =>
      cases hsplit
      exact ⟨hfirst.1, fun s hs _ hne => hfirst.2 s hs hne, by simp⟩
    | cons d earlier =>
      cases hsplit
      obtain ⟨hallowed, hold, hearlier⟩ := hclear earlier m later rfl
      have hm : m ∈ earlier ++ m :: later := by simp
      rw [hrow m hm] at hold hearlier
      unfold ClearOf
      have hnm : u.keyOf n ≠ u.keyOf m := by
        intro heq
        exact hn (heq ▸ List.mem_map.mpr ⟨m, hm, rfl⟩)
      refine ⟨hallowed, ?_, ?_⟩
      · intro s hs hout hne
        simp only [List.map_cons, List.mem_cons, not_or] at hout
        exact hold s ((u.mem_put h s).mpr (.inr ⟨hs, hout.1⟩)) hout.2 hne
      · intro d hd
        rcases List.mem_cons.mp hd with rfl | hd
        · apply hold _ ((u.mem_put h _).mpr (.inl rfl))
          · rw [hkey]
            intro hmem
            apply hn
            obtain ⟨c, hc, heq⟩ := List.mem_map.mp hmem
            exact List.mem_map.mpr ⟨c, by simp [hc], heq⟩
          · rw [hkey]
            exact hnm
        · have hd' : d ∈ earlier ++ m :: later := by simp [hd]
          rw [← hrow d hd']
          exact hearlier d hd

theorem putAll_isSome_iff (hns : (ns.map u.keyOf).Nodup) (t : Table κ ρ key) :
    (∃ t', u.putAll t ns = some t') ↔ u.Clear t ns := by
  induction ns generalizing t with
  | nil =>
    constructor
    · intro _ earlier n later hsplit
      cases earlier <;> cases hsplit
    · intro _
      exact ⟨t, rfl⟩
  | cons n ns ih =>
    have hrest := (List.nodup_cons.mp hns).2
    rw [putAll]
    cases hput : u.put t n with
    | none =>
      constructor
      · rintro ⟨t', h⟩
        cases h
      · intro hclear
        obtain ⟨hallowed, hold, _⟩ := hclear [] n ns rfl
        have hfree : u.Free t n := ⟨hallowed, fun s hs hne => hold s hs (by simp) hne⟩
        have hsome := (u.put_eq_some_iff t _ n).mpr ⟨hfree, rfl⟩
        rw [hput] at hsome
        cases hsome
    | some t1 => exact (ih hrest t1).trans (u.clear_cons_iff hns hput).symm

theorem putAll_again {v : Upsert κ ρ ν key} (hkey : v.keyOf = u.keyOf) (hclash : v.clash = u.clash)
    (hallowed : v.allowed = u.allowed)
    (halike : ∀ o n s, u.clash s (v.stored (some (u.stored o n)) n) = u.clash s (u.stored o n)) (hns : (ns.map u.keyOf).Nodup) (hapart : u.Apart t)
    (h : u.putAll t ns = some t') : ∃ t'', v.putAll t' ns = some t'' := by
  have hclear := (u.putAll_isSome_iff hns t).mp ⟨t', h⟩
  obtain ⟨hlisted, _⟩ := u.find?_putAll hns h
  have hend := u.apart_putAll hapart h
  have hrow : ∀ n ∈ ns, v.row t' n = v.stored (some (u.row t n)) n := by
    intro n hn
    unfold row
    rw [hkey, hlisted n hn]
    rfl
  have hmem : ∀ n ∈ ns, u.row t n ∈ t'.rows := by
    intro n hn
    exact ((t'.find?_eq_some_iff _ _).mp (hlisted n hn)).1
  have hkeyrow : ∀ n, key (u.row t n) = u.keyOf n := fun n => u.key_stored _ n
  have hsame : ∀ n ∈ ns, ∀ s, u.clash s (v.row t' n) = u.clash s (u.row t n) := by
    intro n hn s
    rw [hrow n hn]
    exact halike _ n s
  rw [v.putAll_isSome_iff (hkey ▸ hns)]
  intro earlier n later hsplit
  have hn : n ∈ ns := by simp [hsplit]
  unfold ClearOf
  rw [hkey, hclash, hallowed]
  refine ⟨(hclear earlier n later hsplit).1, ?_, ?_⟩
  · intro s hs _ hne
    rw [hsame n hn]
    exact hend s hs _ (hmem n hn) (by rw [hkeyrow]; exact hne)
  · intro m hm
    have hm' : m ∈ ns := by simp [hsplit, hm]
    have hne : u.keyOf n ≠ u.keyOf m := by
      rw [hsplit, List.map_append, List.map_cons, List.nodup_append] at hns
      intro heq
      exact hns.2.2 (u.keyOf m) (List.mem_map.mpr ⟨m, hm, rfl⟩) (u.keyOf n) List.mem_cons_self
        heq.symm
    rw [hsame n hn, u.clash_symm, hsame m hm']
    exact hend _ (hmem n hn) _ (hmem m hm') (by rw [hkeyrow, hkeyrow]; exact hne)

end Upsert
