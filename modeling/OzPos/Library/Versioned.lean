import OzPos.Library.Run

namespace Machine

variable {σ ε ο γ : Type} (m : Machine σ ε ο)

/-- No step lowers the version, and one that leaves it leaves the content, unless it is silent. -/
structure Versioned (Inv : σ → Prop) (version : σ → Int) (content : σ → γ)
    (silent : σ → ε → Prop) : Prop where
  inv : ∀ s e, Inv s → Inv (m.step s e).1
  le : ∀ s e, Inv s → version s ≤ version (m.step s e).1
  kept : ∀ s e, Inv s → version (m.step s e).1 = version s → ¬ silent s e →
    content (m.step s e).1 = content s

def Leaves (content : σ → γ) (s : σ) (e : ε) : Prop := content (m.step s e).1 = content s

variable {m} {Inv : σ → Prop} {version : σ → Int} {content : σ → γ} {silent : σ → ε → Prop}

theorem Versioned.le_run (h : m.Versioned Inv version content silent) {s : σ} (hs : Inv s)
    (events : List ε) : version s ≤ version (m.run s events) := by
  induction events generalizing s with
  | nil => exact Int.le_refl _
  | cons e events ih => exact Int.le_trans (h.le s e hs) (ih (h.inv s e hs))

theorem Versioned.along_leaves_iff (h : m.Versioned Inv version content silent) {s : σ}
    (hs : Inv s) {events : List ε} (hend : version (m.run s events) = version s) :
    m.Along (m.Leaves content) s events ↔
      m.Along (fun s e => silent s e → m.Leaves content s e) s events := by
  constructor
  · intro hleaves
    exact m.along_mono (fun s e (h : m.Leaves content s e) (_ : silent s e) => h) s events hleaves
  · intro hsilent
    induction events generalizing s with
    | nil => trivial
    | cons e events ih =>
      have hnext := h.inv s e hs
      have hstep := h.le s e hs
      have hrest := h.le_run hnext events
      rw [run_cons] at hend
      have hsame : version (m.step s e).1 = version s := by omega
      refine ⟨?_, ih hnext (by omega) hsilent.2⟩
      by_cases hquiet : silent s e
      · exact hsilent.1 hquiet
      · exact h.kept s e hs hsame hquiet

end Machine
