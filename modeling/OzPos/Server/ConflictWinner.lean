import OzPos.Crdt.PushStamp

namespace OzPos

/-- A pushed mutation together with the vector its payload carries. -/
structure Mutation where
  payload : Payload
  vector : VersionVector
  stamped : extractVector payload = some vector

variable (stored incoming : VersionVector)

/-- The two counter sums `tieBreak` takes, when it is called, do not overflow. -/
def SumsFit : Prop :=
  stored.compare incoming = .concurrent →
    (sumCounters stored).isSome ∧ (sumCounters incoming).isSome

def Stale : Prop := stored.compare incoming = .after

instance : Decidable (SumsFit stored incoming) :=
  inferInstanceAs (Decidable (_ → _))

instance : Decidable (Stale stored incoming) :=
  inferInstanceAs (Decidable (_ = _))

namespace ConflictStore

def process (s : ConflictStore) (key : EntityKey) (m : Mutation) : Option ConflictStore :=
  (s.detectConflict key m.vector m.payload).map Prod.snd

def processBoth (s : ConflictStore) (key : EntityKey) (first second : Mutation) :
    Option ConflictStore :=
  (s.process key first).bind (fun t => t.process key second)

end ConflictStore

/-- `w` is the mutation `tieBreak` chooses: incoming against `l` it wins, stored it stays. -/
def Chosen (w l : Mutation) : Prop := tieBreak l.vector w.vector = some .lt

instance (w l : Mutation) : Decidable (Chosen w l) := inferInstanceAs (Decidable (_ = _))

variable (s : ConflictStore) (key : EntityKey)

/-- In either order of arrival the entity ends with the payload of `w`. -/
def EndsWith (w l : Mutation) : Prop :=
  (∃ t, s.processBoth key w l = some t ∧ t.loadEntityPayload key = some w.payload) ∧
    ∃ t, s.processBoth key l w = some t ∧ t.loadEntityPayload key = some w.payload

/-- In either order of arrival the entity ends with the payload of the chosen mutation. -/
def StoresWinner (m n : Mutation) : Prop :=
  (Chosen m n ∧ EndsWith s key m n) ∨ (Chosen n m ∧ EndsWith s key n m)

theorem tieBreak_isSome_iff (a b : VersionVector) :
    (tieBreak a b).isSome ↔ (sumCounters a).isSome ∧ (sumCounters b).isSome := by
  unfold tieBreak
  cases sumCounters a <;> cases sumCounters b <;> simp

namespace ConflictStore

theorem process_cases {key : EntityKey}
    (hpolicy : policyFor key.entityType = .lastWriterWins) (m : Mutation) :
    (¬ SumsFit (s.vectorOf key) m.vector ∧ s.process key m = none) ∨
    (SumsFit (s.vectorOf key) m.vector ∧ Stale (s.vectorOf key) m.vector ∧
      s.process key m = some s) ∨
    (SumsFit (s.vectorOf key) m.vector ∧ ¬ Stale (s.vectorOf key) m.vector ∧
      ∃ t, s.process key m = some t ∧ t.vectorOf key = (s.vectorOf key).observe m.vector ∧
        t.loadEntityPayload key = some m.payload) := by
  have hnone : s.detectConflict key m.vector m.payload = none ↔
      ¬ SumsFit (s.vectorOf key) m.vector := by
    rw [detectConflict_none_iff, SumsFit, Classical.not_imp, ← tieBreak_isSome_iff]
    cases hc : (s.vectorOf key).compare m.vector <;>
      simp [classify, classifyConcurrent, candidate, hc, hpolicy]
  unfold process
  cases hd : s.detectConflict key m.vector m.payload with
  | none => exact .inl ⟨hnone.mp hd, rfl⟩
  | some result =>
    obtain ⟨d, t⟩ := result
    have hfit : SumsFit (s.vectorOf key) m.vector := by
      by_contra hnot
      rw [hnone.mpr hnot] at hd
      simp at hd
    rcases detectConflict_cases hd with ⟨-, hstale, rfl⟩ | ⟨-, hstale, hfind⟩
    · exact .inr (.inl ⟨hfit, hstale, rfl⟩)
    · refine .inr (.inr ⟨hfit, hstale, t, rfl, ?_, ?_⟩)
      · simp [vectorOf, loadEntityVector, hfind]
      · simp [loadEntityPayload, hfind]

def vectorAfter (v : VersionVector) (m : Mutation) : VersionVector :=
  if Stale v m.vector then v else v.observe m.vector

theorem processBoth_payload {key : EntityKey}
    (hpolicy : policyFor key.entityType = .lastWriterWins) (x y : Mutation) (p : Payload) :
    (∃ t, s.processBoth key x y = some t ∧ t.loadEntityPayload key = some p) ↔
      SumsFit (s.vectorOf key) x.vector ∧
        SumsFit (vectorAfter (s.vectorOf key) x) y.vector ∧
        ((¬ Stale (vectorAfter (s.vectorOf key) x) y.vector ∧ y.payload = p) ∨
          (Stale (vectorAfter (s.vectorOf key) x) y.vector ∧ ¬ Stale (s.vectorOf key) x.vector ∧
            x.payload = p) ∨
          (Stale (vectorAfter (s.vectorOf key) x) y.vector ∧ Stale (s.vectorOf key) x.vector ∧
            s.loadEntityPayload key = some p)) := by
  unfold processBoth vectorAfter
  rcases s.process_cases hpolicy x with ⟨hfit, hx⟩ | ⟨hfit, hstale, hx⟩ | ⟨hfit, hstale, t, hx, hv, hp⟩
  · simp [hx, hfit]
  · rw [hx]
    rcases s.process_cases hpolicy y with
      ⟨hfit', hy⟩ | ⟨hfit', hstale', hy⟩ | ⟨hfit', hstale', u, hy, -, hp⟩
    · simp [hy, hstale, hfit']
    · simp [hy, hstale, hfit, hfit', hstale']
    · simp [hy, hstale, hfit, hfit', hstale', hp]
  · rw [hx]
    rcases t.process_cases hpolicy y with
      ⟨hfit', hy⟩ | ⟨hfit', hstale', hy⟩ | ⟨hfit', hstale', u, hy, -, hp'⟩
    · rw [hv] at hfit'
      simp [hy, hstale, hfit']
    · rw [hv] at hfit' hstale'
      simp [hy, hstale, hfit, hfit', hstale', hp]
    · rw [hv] at hfit' hstale'
      simp [hy, hstale, hfit, hfit', hstale', hp']

/-- When arrival order does not decide what is stored: the loser is stale once the winner
was seen, and the winner not stale because of the loser alone. -/
def KeepsWinner (w l : Mutation) : Prop :=
  let v := s.vectorOf key
  (SumsFit v w.vector ∧ SumsFit (vectorAfter v w) l.vector ∧
    SumsFit v l.vector ∧ SumsFit (vectorAfter v l) w.vector) ∧
  ((Stale v w.vector ∧ Stale v l.vector ∧ s.loadEntityPayload key = some w.payload) ∨
    (¬ Stale v w.vector ∧ l.vector.get ≤ v.get ⊔ w.vector.get ∧
      (Stale v l.vector ∨ ¬ w.vector.get ≤ v.get ⊔ l.vector.get)))

end ConflictStore

theorem stale_observe_iff (v : VersionVector) {m n : Mutation}
    (hc : m.vector.compare n.vector = .concurrent) :
    Stale (v.observe m.vector) n.vector ↔ n.vector.get ≤ v.get ⊔ m.vector.get := by
  rw [Stale, VersionVector.compare_eq_after_iff, VersionVector.get_observe]
  rw [VersionVector.compare_eq_concurrent_iff] at hc
  constructor
  · intro h
    exact h.1
  · intro h
    refine ⟨h, ?_⟩
    intro hle
    exact hc.1 (le_sup_right.trans hle)

theorem payload_ne_of_concurrent {m n : Mutation}
    (hc : m.vector.compare n.vector = .concurrent) : m.payload ≠ n.payload := by
  intro heq
  have hm := m.stamped
  rw [heq, n.stamped] at hm
  rw [VersionVector.compare_eq_concurrent_iff, Option.some.inj hm] at hc
  exact hc.1 le_rfl

theorem endsWith_iff {key : EntityKey} (hpolicy : policyFor key.entityType = .lastWriterWins)
    {w l : Mutation} (hc : w.vector.compare l.vector = .concurrent) :
    EndsWith s key w l ↔ s.KeepsWinner key w l := by
  have hne := payload_ne_of_concurrent hc
  have hc' : l.vector.compare w.vector = .concurrent := by
    rw [VersionVector.compare_eq_concurrent_iff] at hc ⊢
    exact ⟨hc.2, hc.1⟩
  have hwl := stale_observe_iff (s.vectorOf key) hc
  have hlw := stale_observe_iff (s.vectorOf key) hc'
  unfold EndsWith ConflictStore.KeepsWinner
  rw [s.processBoth_payload hpolicy, s.processBoth_payload hpolicy]
  unfold ConflictStore.vectorAfter
  by_cases ha : Stale (s.vectorOf key) w.vector <;>
    by_cases hb : Stale (s.vectorOf key) l.vector <;>
    simp only [ha, hb, if_true, if_false, hwl, hlw, Ne.symm hne] <;> grind

/-- `detect_conflict` stores the chosen mutation in both orders exactly when the stale
rule happens to drop the other one. -/
theorem storesWinner_iff (hpolicy : policyFor key.entityType = .lastWriterWins) (m n : Mutation)
    (hc : m.vector.compare n.vector = .concurrent) :
    StoresWinner s key m n ↔
      (Chosen m n ∧ s.KeepsWinner key m n) ∨ (Chosen n m ∧ s.KeepsWinner key n m) := by
  have hc' : n.vector.compare m.vector = .concurrent := by
    rw [VersionVector.compare_eq_concurrent_iff] at hc ⊢
    exact ⟨hc.2, hc.1⟩
  rw [StoresWinner, endsWith_iff s hpolicy hc, endsWith_iff s hpolicy hc']

theorem not_storesWinner_of_unseen (hpolicy : policyFor key.entityType = .lastWriterWins)
    (hunseen : s.vectorOf key = VersionVector.new) (m n : Mutation)
    (hc : m.vector.compare n.vector = .concurrent) : ¬ StoresWinner s key m n := by
  have hfresh : ∀ {w l : Mutation}, w.vector.compare l.vector = .concurrent →
      ¬ s.KeepsWinner key w l := by
    intro w l hwl
    rw [VersionVector.compare_eq_concurrent_iff] at hwl
    have hzero : VersionVector.new.get = fun _ => 0 := by
      funext t
      simp
    unfold ConflictStore.KeepsWinner
    rw [hunseen]
    rintro ⟨-, ⟨hstale, -, -⟩ | ⟨-, hcovered, -⟩⟩
    · rw [Stale, VersionVector.compare_eq_after_iff] at hstale
      refine hstale.2 ?_
      rw [hzero]
      intro t
      exact Nat.zero_le _
    · refine hwl.2 (hcovered.trans ?_)
      rw [hzero]
      intro t
      simp
  have hc' : n.vector.compare m.vector = .concurrent := by
    rw [VersionVector.compare_eq_concurrent_iff] at hc ⊢
    exact ⟨hc.2, hc.1⟩
  rw [storesWinner_iff s key hpolicy m n hc]
  rintro (⟨-, hm⟩ | ⟨-, hn⟩)
  · exact hfresh hc hm
  · exact hfresh hc' hn

def Mutation.pushed (members : List (String × Json)) (terminalId : String) (counter : Nat)
    (hcounter : counter ≤ counterMax) : Mutation where
  payload := stampPayload (.json (.obj members)) terminalId counter
  vector := VersionVector.single terminalId counter
  stamped := extractVector_stampPayload rfl terminalId hcounter

def renamed (name terminalId : String) : Mutation :=
  Mutation.pushed [("id", .str "p-1"), ("name", .str name)] terminalId 1 (by decide)

def productKey : EntityKey := ⟨"default", "product.update", "p-1"⟩

theorem storesWinner_iff_renamed :
    StoresWinner ⟨Table.empty, []⟩ productKey (renamed "Tea" "A") (renamed "Kopi" "B") ↔
      (Chosen (renamed "Tea" "A") (renamed "Kopi" "B") ∧
        ConflictStore.KeepsWinner ⟨Table.empty, []⟩ productKey (renamed "Tea" "A")
          (renamed "Kopi" "B")) ∨
      (Chosen (renamed "Kopi" "B") (renamed "Tea" "A") ∧
        ConflictStore.KeepsWinner ⟨Table.empty, []⟩ productKey (renamed "Kopi" "B")
          (renamed "Tea" "A")) :=
  storesWinner_iff ⟨Table.empty, []⟩ productKey (by decide) _ _ (by decide)

/-- `tie_break` chooses the rename of terminal `B`; arriving first, it is overwritten. -/
theorem chosen_rename_overwritten :
    (renamed "Tea" "A").vector.compare (renamed "Kopi" "B").vector = .concurrent ∧
      Chosen (renamed "Kopi" "B") (renamed "Tea" "A") ∧
      ((ConflictStore.processBoth ⟨Table.empty, []⟩ productKey (renamed "Tea" "A")
          (renamed "Kopi" "B")).map (fun t => t.loadEntityPayload productKey) =
        some (some (renamed "Kopi" "B").payload)) ∧
      (ConflictStore.processBoth ⟨Table.empty, []⟩ productKey (renamed "Kopi" "B")
          (renamed "Tea" "A")).map (fun t => t.loadEntityPayload productKey) =
        some (some (renamed "Tea" "A").payload) ∧
      ¬ StoresWinner ⟨Table.empty, []⟩ productKey (renamed "Tea" "A") (renamed "Kopi" "B") := by
  refine ⟨by decide, by decide, by decide, by decide, ?_⟩
  exact not_storesWinner_of_unseen _ productKey (by decide) rfl _ _ (by decide)

end OzPos
