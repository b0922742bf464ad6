import OzPos.Library.Run

/-- Calls of two steps that others may come between: one reads, checks and may answer at
once; the other writes, on what the first has found. -/
structure Calls (σ κ ν δ ο : Type) where
  read : κ → σ → ο ⊕ ν
  write : δ → ν → σ → σ × ο

/-- What the sessions share, and what each holds between the steps of its call. -/
structure Sessions (σ ν : Type) where
  shared : σ
  held : Nat → Option ν

inductive CallEvent (κ δ : Type) where
  | read (session : Nat) (call : κ)
  | write (session : Nat) (draw : δ)

namespace Sessions

variable {σ ν : Type}

def start (s : σ) : Sessions σ ν := ⟨s, fun _ => none⟩

def hold (s : Sessions σ ν) (session : Nat) (view : Option ν) : Sessions σ ν :=
  { s with held := fun n => if n = session then view else s.held n }

@[simp] theorem shared_start (s : σ) : (start s : Sessions σ ν).shared = s := rfl

@[simp] theorem held_start (s : σ) (n : Nat) : (start s : Sessions σ ν).held n = none := rfl

@[simp] theorem shared_hold (s : Sessions σ ν) (session : Nat) (view : Option ν) :
    (s.hold session view).shared = s.shared := rfl

theorem held_hold {s : Sessions σ ν} {session n : Nat} {view : Option ν} {v : ν}
    (h : (s.hold session view).held n = some v) : view = some v ∨ s.held n = some v := by
  simp only [hold] at h
  by_cases hn : n = session
  · rw [if_pos hn] at h
    exact .inl h
  · rw [if_neg hn] at h
    exact .inr h

end Sessions

namespace Calls

variable {σ κ ν δ ο : Type} (c : Calls σ κ ν δ ο)

/-- One step of one session. A session that reads anew has given up the call it was in. -/
def machine : Machine (Sessions σ ν) (CallEvent κ δ) (Option ο) where
  step s
    | .read session call =>
      match c.read call s.shared with
      | .inl answer => (s.hold session none, some answer)
      | .inr view => (s.hold session (some view), none)
    | .write session draw =>
      match s.held session with
      | none => (s, none)
      | some view =>
        let done := c.write draw view s.shared
        (⟨done.1, (s.hold session none).held⟩, some done.2)

variable (Ok : σ → ν → δ → Prop) (s : Sessions σ ν)

/-- A condition on the writes alone: on what is shared, what the call found and what it draws. -/
def AtWrite : CallEvent κ δ → Prop
  | .read _ _ => True
  | .write session draw =>
    match s.held session with
    | none => True
    | some view => Ok s.shared view draw

instance decidableAtWrite [∀ s v d, Decidable (Ok s v d)]
    (s : Sessions σ ν) : (e : CallEvent κ δ) → Decidable (AtWrite Ok s e)
  | .read _ _ => isTrue trivial
  | .write session draw =>
    match h : s.held session with
    | none => isTrue (by simp [AtWrite, h])
    | some view => decidable_of_iff (Ok s.shared view draw) (by simp [AtWrite, h])

/-- A step keeps a relation of what is shared before and after it. -/
def Keeps (P : σ → σ → Prop) (s : Sessions σ ν) (e : CallEvent κ δ) : Prop :=
  P s.shared (c.machine.step s e).1.shared

@[simp] theorem shared_read (session : Nat) (call : κ) :
    (c.machine.step s (.read session call)).1.shared = s.shared := by
  cases h : c.read call s.shared with
  | inl answer => simp [machine, h]
  | inr view => simp [machine, h]

variable {session : Nat}

variable (draw : δ)

theorem shared_write_none {s : Sessions σ ν} (h : s.held session = none) :
    (c.machine.step s (.write session draw)).1 = s := by
  simp [machine, h]

theorem shared_write_some {s : Sessions σ ν} {view : ν} (h : s.held session = some view) :
    (c.machine.step s (.write session draw)).1 =
      ⟨(c.write draw view s.shared).1, (s.hold session none).held⟩ := by
  simp [machine, h]

theorem answer_write_some {s : Sessions σ ν} {view : ν} (h : s.held session = some view) :
    (c.machine.step s (.write session draw)).2 = some (c.write draw view s.shared).2 := by
  simp [machine, h]

/-- An invariant of what is shared, with what a call between its steps knows of it. -/
structure Holds (Inv : σ → Prop) (Knows : σ → ν → Prop) (s : Sessions σ ν) : Prop where
  shared : Inv s.shared
  known : ∀ n view, s.held n = some view → Knows s.shared view

/-- Rely and guarantee: what a read finds is known, and a write that meets its condition
keeps the invariant and whatever the others know. -/
structure Disciplined (Inv : σ → Prop) (Knows : σ → ν → Prop) (Ok : σ → ν → δ → Prop) : Prop where
  found : ∀ s call view, Inv s → c.read call s = .inr view → Knows s view
  kept : ∀ s view draw, Inv s → Knows s view → Ok s view draw → Inv (c.write draw view s).1
  stable : ∀ s view draw other, Inv s → Knows s view → Ok s view draw → Knows s other →
    Knows (c.write draw view s).1 other

variable {Inv : σ → Prop} {Knows : σ → ν → Prop} {Ok : σ → ν → δ → Prop}

variable {s : σ}

theorem holds_start (h : Inv s) : Holds Inv Knows (Sessions.start s : Sessions σ ν) where
  shared := h
  known := by
    intro n view hheld
    cases hheld

variable {c}

theorem Disciplined.step (h : c.Disciplined Inv Knows Ok) (s : Sessions σ ν) (e : CallEvent κ δ)
    (hs : Holds Inv Knows s) (hok : AtWrite Ok s e) : Holds Inv Knows (c.machine.step s e).1 := by
  cases e with
  | read session call =>
    constructor
    · rw [shared_read]
      exact hs.shared
    · intro n view hheld
      rw [shared_read]
      cases hread : c.read call s.shared with
      | inl answer =>
        simp only [machine, hread] at hheld
        rcases Sessions.held_hold hheld with hnone | hold
        · cases hnone
        · exact hs.known n view hold
      | inr found =>
        simp only [machine, hread] at hheld
        rcases Sessions.held_hold hheld with hsome | hold
        · rw [← Option.some.inj hsome]
          exact h.found s.shared call found hs.shared hread
        · exact hs.known n view hold
  | write session draw =>
    cases hheld : s.held session with
    | none =>
      rw [shared_write_none c draw hheld]
      exact hs
    | some view =>
      have hknows := hs.known session view hheld
      have hwrite : Ok s.shared view draw := by simpa [AtWrite, hheld] using hok
      rw [shared_write_some c draw hheld]
      constructor
      · exact h.kept s.shared view draw hs.shared hknows hwrite
      · intro n other hother
        rcases Sessions.held_hold hother with hnone | hold
        · cases hnone
        · exact h.stable s.shared view draw other hs.shared hknows hwrite (hs.known n other hold)

theorem atWrite_unconditional (s : Sessions σ ν) (e : CallEvent κ δ) :
    AtWrite (fun _ _ _ => True) s e := by
  cases e with
  | read session call => trivial
  | write session draw =>
    cases hheld : s.held session with
    | none => simp [AtWrite, hheld]
    | some view => simp [AtWrite, hheld]

theorem Disciplined.conditional (h : c.Disciplined Inv Knows (fun _ _ _ => True))
    (Ok : σ → ν → δ → Prop) : c.Disciplined Inv Knows Ok where
  found := h.found
  kept := fun s view draw hs hview _ => h.kept s view draw hs hview trivial
  stable := fun s view draw other hs hview _ hother => h.stable s view draw other hs hview trivial hother

theorem Disciplined.always_step (h : c.Disciplined Inv Knows (fun _ _ _ => True))
    (s : Sessions σ ν) (e : CallEvent κ δ) (hs : Holds Inv Knows s) :
    Holds Inv Knows (c.machine.step s e).1 :=
  h.step s e hs (atWrite_unconditional s e)

theorem Disciplined.always (h : c.Disciplined Inv Knows (fun _ _ _ => True)) (hs : Inv s)
    (events : List (CallEvent κ δ)) : Inv (c.machine.run (.start s) events).shared := by
  have hstart : Holds Inv Knows (Sessions.start s : Sessions σ ν) := holds_start hs
  generalize Sessions.start s = t at hstart ⊢
  induction events generalizing t with
  | nil => exact hstart.shared
  | cons e events ih => exact ih _ (h.always_step t e hstart)

theorem Disciplined.along_always (h : c.Disciplined Inv Knows (fun _ _ _ => True))
    {Post : σ → ν → δ → Prop} (hpost : ∀ s view draw, Inv s → Knows s view → Post s view draw) (hs : Inv s) (events : List (CallEvent κ δ)) :
    c.machine.Along (AtWrite Post) (.start s) events := by
  have hstart : Holds Inv Knows (Sessions.start s : Sessions σ ν) := holds_start hs
  generalize Sessions.start s = t at hstart ⊢
  induction events generalizing t with
  | nil => trivial
  | cons e events ih =>
    refine ⟨?_, ih _ (h.always_step t e hstart)⟩
    cases e with
    | read session call => trivial
    | write session draw =>
      cases hheld : t.held session with
      | none => simp [AtWrite, hheld]
      | some view =>
        have hwrite := hpost t.shared view draw hstart.shared (hstart.known session view hheld)
        simpa [AtWrite, hheld] using hwrite

theorem Disciplined.along_iff (h : c.Disciplined Inv Knows Ok)
    {Post : Sessions σ ν → CallEvent κ δ → Prop}
    (hread : ∀ s session call, Holds Inv Knows s → Post s (.read session call))
    (hidle : ∀ s session draw, Holds Inv Knows s → s.held session = none →
      Post s (.write session draw))
    (hwrite : ∀ s session view draw, Holds Inv Knows s → s.held session = some view →
      (Post s (.write session draw) ↔ Ok s.shared view draw)) (hs : Inv s) (events : List (CallEvent κ δ)) :
    c.machine.Along Post (.start s) events ↔ c.machine.Along (AtWrite Ok) (.start s) events := by
  apply c.machine.along_iff_of_invariant h.step
  · intro t e ht
    cases e with
    | read session call => exact iff_of_true (hread t session call ht) trivial
    | write session draw =>
      cases hheld : t.held session with
      | none => simpa [AtWrite, hheld] using hidle t session draw ht hheld
      | some view => simpa [AtWrite, hheld] using hwrite t session view draw ht hheld
  · exact holds_start hs

theorem Disciplined.along_keeps_iff (h : c.Disciplined Inv Knows Ok) {P : σ → σ → Prop}
    (hrefl : ∀ s, Inv s → P s s)
    (hexact : ∀ s view draw, Inv s → Knows s view → (P s (c.write draw view s).1 ↔ Ok s view draw))
    (hs : Inv s) (events : List (CallEvent κ δ)) :
    c.machine.Along (c.Keeps P) (.start s) events ↔
      c.machine.Along (AtWrite Ok) (.start s) events := by
  apply h.along_iff
  · intro t session call ht
    rw [Keeps, shared_read]
    exact hrefl t.shared ht.shared
  · intro t session draw ht hheld
    rw [Keeps, shared_write_none c draw hheld]
    exact hrefl t.shared ht.shared
  · intro t session view draw ht hheld
    rw [Keeps, shared_write_some c draw hheld]
    exact hexact t.shared view draw ht.shared (ht.known session view hheld)
  · exact hs

end Calls
