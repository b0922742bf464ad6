import OzPos.Library.Run

/-! Properties of a run that look back: what once held, and what has been done before. -/

namespace Machine

variable {σ ε ο : Type} (m : Machine σ ε ο)

/-- From the first state of the run that meets `A` on, every step meets `Ok`. -/
def After (A : σ → Prop) (Ok : σ → ε → Prop) : σ → List ε → Prop
  | _, [] => True
  | s, e :: events => (A s → m.Along Ok s (e :: events)) ∧ After A Ok (m.step s e).1 events

/-- No two steps of the run meet `P`. -/
def AtMostOnce (P : σ → ε → Prop) : σ → List ε → Prop
  | _, [] => True
  | s, e :: events =>
    (P s e → m.Along (fun t d => ¬ P t d) (m.step s e).1 events) ∧
      AtMostOnce P (m.step s e).1 events

instance decidableAfter (A : σ → Prop) (Ok : σ → ε → Prop) [DecidablePred A]
    [∀ s e, Decidable (Ok s e)] (s : σ) : (events : List ε) → Decidable (m.After A Ok s events)
  | [] => isTrue trivial
  | e :: events =>
    have := decidableAfter A Ok (m.step s e).1 events
    inferInstanceAs (Decidable ((A s → m.Along Ok s (e :: events)) ∧
      m.After A Ok (m.step s e).1 events))

variable {m} {A B : σ → Prop} {P Ok : σ → ε → Prop}

variable {s : σ}

theorem along_away_iff (henters : ∀ s e, ¬ B s → (¬ B (m.step s e).1 ↔ Ok s e)) (hs : ¬ B s)
    (events : List ε) : m.Along (fun t d => ¬ B (m.step t d).1) s events ↔ m.Along Ok s events := by
  induction events generalizing s with
  | nil => simp [Along]
  | cons e events ih =>
    have hstep := henters s e hs
    simp only [Along]
    constructor
    · rintro ⟨haway, hrest⟩
      exact ⟨hstep.mp haway, (ih haway).mp hrest⟩
    · rintro ⟨hok, hrest⟩
      have haway := hstep.mpr hok
      exact ⟨haway, (ih haway).mpr hrest⟩

theorem after_away_iff (hdisjoint : ∀ s, A s → ¬ B s)
    (henters : ∀ s e, ¬ B s → (¬ B (m.step s e).1 ↔ Ok s e)) (s : σ) (events : List ε) :
    m.After A (fun t d => ¬ B (m.step t d).1) s events ↔ m.After A Ok s events := by
  induction events generalizing s with
  | nil => simp [After]
  | cons e events ih =>
    simp only [After, ih]
    constructor
    · rintro ⟨hnow, hrest⟩
      refine ⟨?_, hrest⟩
      intro hA
      exact (along_away_iff henters (hdisjoint s hA) _).mp (hnow hA)
    · rintro ⟨hnow, hrest⟩
      refine ⟨?_, hrest⟩
      intro hA
      exact (along_away_iff henters (hdisjoint s hA) _).mpr (hnow hA)

variable {events : List ε}

theorem along_not_of_away (hs : ¬ B s) (haway : m.Along (fun t d => ¬ B (m.step t d).1) s events)
    (hneeds : m.Along (fun t d => P t d → B t) s events) :
    m.Along (fun t d => ¬ P t d) s events := by
  induction events generalizing s with
  | nil => trivial
  | cons e events ih =>
    constructor
    · intro hP
      exact hs (hneeds.1 hP)
    · exact ih haway.1 haway.2 hneeds.2

theorem atMostOnce_of_closing (hdisjoint : ∀ s, A s → ¬ B s)
    (hcloses : ∀ s e, P s e → A (m.step s e).1)
    (hneeds : m.Along (fun t d => P t d → B t) s events)
    (hclosed : m.After A (fun t d => ¬ B (m.step t d).1) s events) : m.AtMostOnce P s events := by
  induction events generalizing s with
  | nil => trivial
  | cons e events ih =>
    refine ⟨?_, ih hneeds.2 hclosed.2⟩
    intro hP
    have hA := hcloses s e hP
    cases events with
    | nil => trivial
    | cons d events => exact along_not_of_away (hdisjoint _ hA) (hclosed.2.1 hA) hneeds.2

theorem along_latched (hs : A s) (hlatch : m.Along (fun t d => A t → A (m.step t d).1) s events) :
    m.Along (fun t _ => A t) s events := by
  induction events generalizing s with
  | nil => trivial
  | cons e events ih => exact ⟨hs, ih (hlatch.1 hs) hlatch.2⟩

theorem atMostOnce_of_latched (hP : ∀ s e, P s e → ¬ A s ∧ A (m.step s e).1)
    (hlatch : m.Along (fun t d => A t → A (m.step t d).1) s events) : m.AtMostOnce P s events := by
  induction events generalizing s with
  | nil => trivial
  | cons e events ih =>
    refine ⟨?_, ih hlatch.2⟩
    intro hnow
    have hlater := along_latched (hP s e hnow).2 hlatch.2
    exact m.along_mono (fun t d hA hagain => (hP t d hagain).1 hA) _ _ hlater

end Machine
