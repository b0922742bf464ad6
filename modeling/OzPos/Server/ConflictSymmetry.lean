import OzPos.Server.Conflicts

namespace OzPos

/-- One of the two mutations `classify` compares: its vector and its parsed payload. -/
structure MutationSide where
  vector : VersionVector
  payload : Option Json

variable (stored incoming : MutationSide) (entityType : String)

def MutationSide.against : ConflictCandidate :=
  { entityType, stored := stored.vector, incoming := incoming.vector,
    storedPayload := stored.payload, incomingPayload := incoming.payload }

/-- The same verdict on the two mutations, for a server that met them the other way round. -/
def Decision.swapped : Decision → Decision
  | .apply => .stale
  | .stale => .apply
  | .identical => .identical
  | .flag severity => .flag severity
  | .autoMerge severity => .autoMerge severity
  | .lastWriterWins winnerIsRemote => .lastWriterWins (!winnerIsRemote)

def Decision.kept : Decision → Option MutationSide
  | .lastWriterWins winnerIsRemote => some (if winnerIsRemote then incoming else stored)
  | _ => none

theorem Decision.kept_swapped (d : Decision) :
    d.swapped.kept incoming stored = d.kept stored incoming := by
  cases d with
  | lastWriterWins winnerIsRemote => cases winnerIsRemote <;> rfl
  | _ => rfl

theorem sumCounters_isSome_iff (v : VersionVector) :
    (sumCounters v).isSome ↔ (v.entries.map Prod.snd).sum < 2^64 := by
  simp only [sumCounters]
  split
  · simp_all
  · simp_all

/-- What `tieBreak` compares, in the order it compares it. -/
def tieCompare : VersionVector → VersionVector → Ordering :=
  compareLex (compareOn fun v => (v.entries.map Prod.snd).sum)
    (compareLex (compareOn fun v => v.entries.map Prod.fst)
      (compareOn fun v => v.entries.map Prod.snd))

instance : Std.TransCmp tieCompare :=
  inferInstanceAs (Std.TransCmp (compareLex _ (compareLex _ _)))

theorem eq_of_sumCounters {v : VersionVector} {total : Nat} (h : sumCounters v = some total) :
    total = (v.entries.map Prod.snd).sum := by
  simp only [sumCounters] at h
  split at h
  · exact (Option.some.inj h).symm
  · cases h

theorem tieBreak_eq_some_iff (a b : VersionVector) (order : Ordering) :
    tieBreak a b = some order ↔
      (sumCounters a).isSome ∧ (sumCounters b).isSome ∧ tieCompare a b = order := by
  unfold tieBreak
  cases ha : sumCounters a with
  | none => simp
  | some sumA =>
    cases hb : sumCounters b with
    | none => simp
    | some sumB =>
      rw [eq_of_sumCounters ha, eq_of_sumCounters hb]
      simp [tieCompare, compareLex, compareOn]

theorem tieCompare_eq_iff (a b : VersionVector) : tieCompare a b = .eq ↔ a = b := by
  constructor
  · intro h
    simp only [tieCompare, compareLex_eq_eq, compareOn, Std.LawfulEqOrd.compare_eq_iff_eq] at h
    obtain ⟨-, hkeys, hvalues⟩ := h
    have hentries : a.entries = b.entries := by
      rw [← List.zip_unzip a.entries, ← List.zip_unzip b.entries, List.unzip_eq_map,
        List.unzip_eq_map, hkeys, hvalues]
    have hcounters : a.counters = b.counters := Std.ExtTreeMap.toList_inj.mp hentries
    cases a
    cases b
    simpa using hcounters
  · intro h
    rw [h]
    exact Std.ReflCmp.compare_self

theorem mem_overlappingFields (l r : Json) (name : String) :
    name ∈ overlappingFields l r ↔ name ∈ fieldsOf l ∧ name ∈ fieldsOf r := by
  simp [overlappingFields]

theorem fieldsAreDisjoint_comm (l r : Json) : fieldsAreDisjoint l r = fieldsAreDisjoint r l := by
  rw [Bool.eq_iff_iff]
  simp only [fieldsAreDisjoint, List.isEmpty_iff, List.eq_nil_iff_forall_not_mem,
    mem_overlappingFields]
  constructor
  · intro h name hname
    exact h name hname.symm
  · intro h name hname
    exact h name hname.symm

variable (a b : MutationSide)

theorem classifyConcurrent_swapped (ha : (sumCounters a.vector).isSome)
    (hb : (sumCounters b.vector).isSome) (hne : a.vector ≠ b.vector) :
    ∃ d, classifyConcurrent (a.against b entityType) = some d ∧
      classifyConcurrent (b.against a entityType) = some d.swapped := by
  simp only [classifyConcurrent, MutationSide.against]
  cases policyFor entityType with
  | neverAutoMerge => exact ⟨_, rfl, rfl⟩
  | autoMergeDeltas => exact ⟨_, rfl, rfl⟩
  | mergeDisjointFields =>
    cases hpa : a.payload with
    | none => cases hpb : b.payload <;> exact ⟨_, rfl, rfl⟩
    | some p =>
      cases hpb : b.payload with
      | none => exact ⟨_, rfl, rfl⟩
      | some q =>
        simp only [fieldsAreDisjoint_comm q p]
        cases fieldsAreDisjoint p q <;> exact ⟨_, rfl, rfl⟩
  | lastWriterWins =>
    have hab := (tieBreak_eq_some_iff a.vector b.vector _).mpr ⟨ha, hb, rfl⟩
    have hba := (tieBreak_eq_some_iff b.vector a.vector _).mpr ⟨hb, ha, rfl⟩
    have hswap : tieCompare b.vector a.vector = (tieCompare a.vector b.vector).swap :=
      Std.OrientedCmp.eq_swap
    simp only [hab, hba, hswap, Option.map_some]
    refine ⟨_, rfl, ?_⟩
    cases hc : tieCompare a.vector b.vector with
    | lt => rfl
    | gt => rfl
    | eq => exact absurd ((tieCompare_eq_iff _ _).mp hc) hne

theorem classify_swapped (ha : (sumCounters a.vector).isSome) (hb : (sumCounters b.vector).isSome) :
    ∃ d, classify (a.against b entityType) = some d ∧
      classify (b.against a entityType) = some d.swapped := by
  have hdual := VersionVector.compare_dual a.vector b.vector
  unfold classify
  cases h : a.vector.compare b.vector with
  | before => exact ⟨.apply, by simp [MutationSide.against, h],
      by simp [MutationSide.against, hdual, h, CausalOrder.dual, Decision.swapped]⟩
  | after => exact ⟨.stale, by simp [MutationSide.against, h],
      by simp [MutationSide.against, hdual, h, CausalOrder.dual, Decision.swapped]⟩
  | equal => exact ⟨.identical, by simp [MutationSide.against, h],
      by simp [MutationSide.against, hdual, h, CausalOrder.dual, Decision.swapped]⟩
  | concurrent =>
    have hne : a.vector ≠ b.vector := by
      intro heq
      rw [VersionVector.compare_eq_concurrent_iff, heq] at h
      exact h.1 le_rfl
    obtain ⟨d, hab, hba⟩ := classifyConcurrent_swapped entityType a b ha hb hne
    refine ⟨d, ?_, ?_⟩
    · simpa [MutationSide.against, h] using hab
    · simpa [MutationSide.against, hdual, h, CausalOrder.dual] using hba

theorem classify_money (hmoney : isMoneyEntity entityType = true) (a b : MutationSide) :
    classify (a.against b entityType) =
      some (match a.vector.compare b.vector with
        | .before => .apply
        | .after => .stale
        | .equal => .identical
        | .concurrent => .flag .high) := by
  unfold classify
  cases h : a.vector.compare b.vector <;>
    simp [MutationSide.against, h, classifyConcurrent, policyFor, severityFor, hmoney]

/-- `classify` and `tieBreak` treat the two mutations alike whichever is the stored one, and
`tieBreak` orders them; a money entity is flagged unless one mutation knew of the other. -/
structure ClassifiesAlike (entityType : String) (a b : MutationSide) : Prop where
  verdicts : ∃ d, classify (a.against b entityType) = some d ∧
    classify (b.against a entityType) = some d.swapped ∧
    d.swapped.kept b a = d.kept a b
  antisymmetric : ∃ order, tieBreak a.vector b.vector = some order ∧
    tieBreak b.vector a.vector = some order.swap ∧ (order = .eq ↔ a.vector = b.vector)
  transitive : ∀ (c : MutationSide) (order : Ordering), tieBreak a.vector b.vector = some order →
    tieBreak b.vector c.vector = some order → tieBreak a.vector c.vector = some order
  money : isMoneyEntity entityType = true →
    classify (a.against b entityType) =
      some (match a.vector.compare b.vector with
        | .before => .apply
        | .after => .stale
        | .equal => .identical
        | .concurrent => .flag .high)

theorem tieCompare_trans {a b c : VersionVector} {order : Ordering}
    (hab : tieCompare a b = order) (hbc : tieCompare b c = order) : tieCompare a c = order := by
  cases order with
  | lt => exact Std.TransCmp.lt_trans hab hbc
  | gt => exact Std.TransCmp.gt_trans hab hbc
  | eq => exact Std.TransCmp.eq_trans hab hbc

/-- Two mutations are classified alike in both roles exactly when the counters of neither
add up to `2^64`. -/
theorem classifiesAlike_iff :
    ClassifiesAlike entityType a b ↔
      (a.vector.entries.map Prod.snd).sum < 2^64 ∧
        (b.vector.entries.map Prod.snd).sum < 2^64 := by
  rw [← sumCounters_isSome_iff, ← sumCounters_isSome_iff]
  constructor
  · intro h
    obtain ⟨order, hab, -⟩ := h.antisymmetric
    obtain ⟨ha, hb, -⟩ := (tieBreak_eq_some_iff _ _ _).mp hab
    exact ⟨ha, hb⟩
  · rintro ⟨ha, hb⟩
    obtain ⟨d, hd, hd'⟩ := classify_swapped entityType a b ha hb
    have hswap : tieCompare b.vector a.vector = (tieCompare a.vector b.vector).swap :=
      Std.OrientedCmp.eq_swap
    refine ⟨⟨d, hd, hd', d.kept_swapped a b⟩, ⟨tieCompare a.vector b.vector, ?_, ?_, ?_⟩, ?_, ?_⟩
    · exact (tieBreak_eq_some_iff _ _ _).mpr ⟨ha, hb, rfl⟩
    · exact (tieBreak_eq_some_iff _ _ _).mpr ⟨hb, ha, hswap⟩
    · exact tieCompare_eq_iff a.vector b.vector
    · intro c order hab hbc
      obtain ⟨-, -, hab⟩ := (tieBreak_eq_some_iff _ _ _).mp hab
      obtain ⟨-, hc, hbc⟩ := (tieBreak_eq_some_iff _ _ _).mp hbc
      exact (tieBreak_eq_some_iff _ _ _).mpr ⟨ha, hc, tieCompare_trans hab hbc⟩
    · intro hmoney
      exact classify_money entityType hmoney a b

def counted (entries : List (String × Nat)) : MutationSide :=
  ⟨⟨.ofList entries⟩, some (.obj [("id", .str "p-1")])⟩

/-- A vector with one counter at its maximum and another one beside it: `tie_break` overflows
on the concurrent pair, and the product is classified in neither role. -/
theorem saturated_vector_unclassified :
    classify ((counted [("A", counterMax), ("B", 1)]).against (counted [("C", 1)])
        "product.update") = none ∧
      ¬ ClassifiesAlike "product.update" (counted [("A", counterMax), ("B", 1)])
        (counted [("C", 1)]) := by
  have hnone : classify ((counted [("A", counterMax), ("B", 1)]).against (counted [("C", 1)])
      "product.update") = none := by decide +kernel
  refine ⟨hnone, ?_⟩
  intro h
  obtain ⟨d, hd, -⟩ := h.verdicts
  rw [hnone] at hd
  cases hd

end OzPos
