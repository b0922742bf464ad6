import Mathlib.Data.List.Basic

structure Machine (σ ε ο : Type) where
  step : σ → ε → σ × ο

namespace Machine

variable {σ ε ο : Type} (m : Machine σ ε ο)

def run : σ → List ε → σ
  | s, [] => s
  | s, e :: events => run (m.step s e).1 events

def Along (Ok : σ → ε → Prop) : σ → List ε → Prop
  | _, [] => True
  | s, e :: events => Ok s e ∧ Along Ok (m.step s e).1 events

/-- What an observer of the `visible` events is answered. -/
def outputs (visible : ε → Bool) : σ → List ε → List ο
  | _, [] => []
  | s, e :: events =>
    if visible e then (m.step s e).2 :: outputs visible (m.step s e).1 events
    else outputs visible (m.step s e).1 events

instance decidableAlong (Ok : σ → ε → Prop) [∀ s e, Decidable (Ok s e)] (s : σ) :
    (events : List ε) → Decidable (m.Along Ok s events)
  | [] => isTrue trivial
  | e :: events =>
    have := decidableAlong Ok (m.step s e).1 events
    inferInstanceAs (Decidable (Ok s e ∧ m.Along Ok (m.step s e).1 events))

@[simp] theorem run_nil (s : σ) : m.run s [] = s := rfl

@[simp] theorem run_cons (s : σ) (e : ε) (events : List ε) :
    m.run s (e :: events) = m.run (m.step s e).1 events := rfl

theorem run_append (s : σ) (l r : List ε) : m.run s (l ++ r) = m.run (m.run s l) r := by
  induction l generalizing s with
  | nil => rfl
  | cons e l ih => exact ih (m.step s e).1

theorem along_append (Ok : σ → ε → Prop) (s : σ) (l r : List ε) :
    m.Along Ok s (l ++ r) ↔ m.Along Ok s l ∧ m.Along Ok (m.run s l) r := by
  induction l generalizing s with
  | nil => simp [Along]
  | cons e l ih => simp [Along, ih, and_assoc]

theorem along_iff_splits (Ok : σ → ε → Prop) (s : σ) (events : List ε) :
    m.Along Ok s events ↔ ∀ l e r, events = l ++ e :: r → Ok (m.run s l) e := by
  constructor
  · intro h l e r hsplit
    rw [hsplit, along_append] at h
    exact h.2.1
  · intro h
    induction events generalizing s with
    | nil => trivial
    | cons e events ih =>
      refine ⟨h [] e events rfl, ?_⟩
      apply ih
      intro l d r hsplit
      exact h (e :: l) d r (by rw [hsplit]; rfl)

theorem reached_iff_along (P : σ → Prop) (s : σ) (events : List ε) :
    (∀ l r, events = l ++ r → P (m.run s l)) ↔
      P s ∧ m.Along (fun s e => P (m.step s e).1) s events := by
  constructor
  · intro h
    refine ⟨h [] events rfl, ?_⟩
    rw [along_iff_splits]
    intro l e r hsplit
    have hnext := h (l ++ [e]) r (by simp [hsplit])
    rwa [run_append] at hnext
  · rintro ⟨hs, halong⟩ l r hsplit
    rw [hsplit, along_append] at halong
    obtain ⟨halong, -⟩ := halong
    clear hsplit
    induction l generalizing s with
    | nil => exact hs
    | cons e l ih => exact ih _ halong.1 halong.2

variable {Ok : σ → ε → Prop}

theorem along_mono {Ok' : σ → ε → Prop} (h : ∀ s e, Ok s e → Ok' s e) (s : σ)
    (events : List ε) (halong : m.Along Ok s events) : m.Along Ok' s events := by
  induction events generalizing s with
  | nil => trivial
  | cons e events ih => exact ⟨h s e halong.1, ih _ halong.2⟩

variable {Inv : σ → Prop}

theorem run_invariant (hstep : ∀ s e, Inv s → Ok s e → Inv (m.step s e).1) (s : σ)
    (events : List ε) (hs : Inv s) (halong : m.Along Ok s events) : Inv (m.run s events) := by
  induction events generalizing s with
  | nil => exact hs
  | cons e events ih => exact ih _ (hstep s e hs halong.1) halong.2

theorem along_of_invariant {Post : σ → ε → Prop}
    (hstep : ∀ s e, Inv s → Ok s e → Inv (m.step s e).1)
    (hpost : ∀ s e, Inv s → Ok s e → Post s e) (s : σ) (events : List ε)
    (hs : Inv s) (halong : m.Along Ok s events) : m.Along Post s events := by
  induction events generalizing s with
  | nil => trivial
  | cons e events ih =>
    exact ⟨hpost s e hs halong.1, ih _ (hstep s e hs halong.1) halong.2⟩

theorem along_iff_of_invariant {Post : σ → ε → Prop}
    (hstep : ∀ s e, Inv s → Ok s e → Inv (m.step s e).1)
    (hiff : ∀ s e, Inv s → (Post s e ↔ Ok s e)) (s : σ) (events : List ε) (hs : Inv s) :
    m.Along Post s events ↔ m.Along Ok s events := by
  induction events generalizing s with
  | nil => rfl
  | cons e events ih =>
    constructor
    · rintro ⟨hpost, hrest⟩
      have hok := (hiff s e hs).mp hpost
      exact ⟨hok, (ih _ (hstep s e hs hok)).mp hrest⟩
    · rintro ⟨hok, hrest⟩
      exact ⟨(hiff s e hs).mpr hok, (ih _ (hstep s e hs hok)).mpr hrest⟩

/-- The unwinding conditions: a relation of states that hidden events keep on one
side and visible events keep on both, answering alike. -/
structure Unwinding (visible : ε → Bool) (Ok : σ → ε → Prop) (R : σ → σ → Prop) : Prop where
  hidden : ∀ s t e, R s t → visible e = false → Ok s e → R (m.step s e).1 t
  shown : ∀ s t e, R s t → visible e = true → Ok s e →
    (m.step s e).2 = (m.step t e).2 ∧ R (m.step s e).1 (m.step t e).1

variable {m}

theorem Unwinding.purge {visible : ε → Bool} {R : σ → σ → Prop} (h : m.Unwinding visible Ok R)
    (s t : σ) (events : List ε) (hR : R s t) (halong : m.Along Ok s events) :
    m.outputs visible s events = m.outputs visible t (events.filter visible) ∧
      R (m.run s events) (m.run t (events.filter visible)) := by
  induction events generalizing s t with
  | nil => exact ⟨rfl, hR⟩
  | cons e events ih =>
    cases hv : visible e with
    | false =>
      have hstep := h.hidden s t e hR hv halong.1
      simpa [outputs, hv] using ih _ _ hstep halong.2
    | true =>
      obtain ⟨hout, hstep⟩ := h.shown s t e hR hv halong.1
      obtain ⟨houts, hrun⟩ := ih _ _ hstep halong.2
      simp [outputs, hv, hout, houts, hrun]

theorem Unwinding.two_runs {visible : ε → Bool} {R : σ → σ → Prop}
    (h : m.Unwinding visible Ok R) (s t : σ) (l r : List ε) (hR : R s t)
    (hsame : l.filter visible = r.filter visible) (hl : m.Along Ok s l) (hr : m.Along Ok s r) :
    m.outputs visible s l = m.outputs visible s r ∧
      ∃ u, R (m.run s l) u ∧ R (m.run s r) u := by
  obtain ⟨houtl, hRl⟩ := h.purge s t l hR hl
  obtain ⟨houtr, hRr⟩ := h.purge s t r hR hr
  rw [hsame] at houtl hRl
  exact ⟨houtl.trans houtr.symm, _, hRl, hRr⟩

end Machine
