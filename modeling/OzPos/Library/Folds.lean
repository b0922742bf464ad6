import OzPos.Library.Outcome
import Mathlib.Data.List.Perm.Basic

namespace Except

variable {σ α ε : Type}

/-- The steps of a fold that may fail commute on the states and entries it meets. -/
structure Commutes (step : σ → α → Except ε σ) (Inv : σ → Prop) (Ok : α → Prop) : Prop where
  kept : ∀ s a s', Inv s → Ok a → step s a = .ok s' → Inv s'
  swap : ∀ s a b, Inv s → Ok a → Ok b →
    (step s a).bind (fun s => step s b) = (step s b).bind (fun s => step s a)

def foldAll (step : σ → α → Except ε σ) : List α → σ → Except ε σ
  | [], s => .ok s
  | a :: rest, s => (step s a).bind (foldAll step rest)

theorem foldAll_invariant {step : σ → α → Except ε σ} {Inv : σ → Prop}
    (kept : ∀ s a s', Inv s → step s a = .ok s' → Inv s') (l : List α) {s s' : σ} (hs : Inv s)
    (h : foldAll step l s = .ok s') : Inv s' := by
  induction l generalizing s with
  | nil =>
    cases h
    exact hs
  | cons a rest ih =>
    obtain ⟨mid, hmid, hrest⟩ := bind_ok_iff.mp h
    exact ih (kept s a mid hs hmid) hrest

theorem Commutes.foldAll_perm {step : σ → α → Except ε σ} {Inv : σ → Prop} {Ok : α → Prop}
    (h : Commutes step Inv Ok) {l m : List α} (hp : l.Perm m) (hl : ∀ a ∈ l, Ok a) (s : σ)
    (hs : Inv s) : foldAll step l s = foldAll step m s := by
  induction hp generalizing s with
  | nil => rfl
  | cons a hp ih =>
    have hok : Ok a := hl a List.mem_cons_self
    simp only [foldAll]
    cases hstep : step s a with
    | error e => rfl
    | ok s' =>
      exact ih (fun b hb => hl b (List.mem_cons_of_mem a hb)) s' (h.kept s a s' hs hok hstep)
  | swap a b rest =>
    have hb : Ok b := hl b List.mem_cons_self
    have ha : Ok a := hl a (List.mem_cons_of_mem b List.mem_cons_self)
    have hswap := h.swap s a b hs ha hb
    simp only [foldAll]
    cases hsa : step s a with
    | error e =>
      cases hsb : step s b with
      | error e' => simpa [hsa, hsb, Except.bind] using hswap.symm
      | ok sb =>
        simp only [hsa, hsb, Except.bind] at hswap ⊢
        rw [← hswap]
    | ok sa =>
      cases hsb : step s b with
      | error e' =>
        simp only [hsa, hsb, Except.bind] at hswap ⊢
        rw [hswap]
      | ok sb =>
        simp only [hsa, hsb, Except.bind] at hswap ⊢
        rw [hswap]
  | trans hp hq ihp ihq =>
    have hm := fun a ha => hl a (hp.mem_iff.mpr ha)
    exact (ihp hl s hs).trans (ihq hm s hs)

end Except
