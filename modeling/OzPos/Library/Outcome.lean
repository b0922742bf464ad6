
namespace Except

variable {ε α β : Type}

variable {x : Except ε α} {f : α → Except ε β} {b : β}

theorem bind_ok_iff : x.bind f = .ok b ↔ ∃ a, x = .ok a ∧ f a = .ok b := by
  cases x with
  | error e => simp [Except.bind]
  | ok a => simp [Except.bind]

theorem do_ok_iff : (do let a ← x; f a) = .ok b ↔ ∃ a, x = .ok a ∧ f a = .ok b :=
  bind_ok_iff

theorem map_ok_iff {f : α → β} : x.map f = .ok b ↔ ∃ a, x = .ok a ∧ f a = b := by
  cases x with
  | error e => simp [Except.map]
  | ok a => simp [Except.map]

theorem of_bind : x.bind f = .ok b → ∃ a, x = .ok a ∧ f a = .ok b := bind_ok_iff.mp

theorem of_do : (do let a ← x; f a) = .ok b → ∃ a, x = .ok a ∧ f a = .ok b := bind_ok_iff.mp

theorem of_map {f : α → β} : x.map f = .ok b → ∃ a, x = .ok a ∧ f a = b := map_ok_iff.mp

theorem isOk_iff (x : Except ε α) : x.isOk = true ↔ ∃ a, x = .ok a := by
  cases x with
  | error e => simp [Except.isOk, Except.toBool]
  | ok a => simp [Except.isOk, Except.toBool]

@[simp] theorem isOk_map (x : Except ε α) (f : α → β) : (x.map f).isOk = x.isOk := by
  cases x <;> rfl

theorem isOk_bind_iff {p : Prop} (h : ∀ a, x = .ok a → ((f a).isOk = true ↔ p)) :
    (x.bind f).isOk = true ↔ x.isOk = true ∧ p := by
  cases x with
  | error e => simp [Except.bind, Except.isOk, Except.toBool]
  | ok a => simpa [Except.bind, Except.isOk, Except.toBool] using h a rfl

theorem bind_ne_error {e : ε} (hx : x ≠ .error e) (hf : ∀ a, x = .ok a → f a ≠ .error e) :
    x.bind f ≠ .error e := by
  cases x with
  | error e' =>
    intro h
    cases h
    exact hx rfl
  | ok a => exact hf a rfl

theorem map_ne_error {e : ε} {f : α → β} (hx : x ≠ .error e) : x.map f ≠ .error e := by
  cases x with
  | error e' =>
    intro h
    cases h
    exact hx rfl
  | ok a =>
    intro h
    cases h

end Except
