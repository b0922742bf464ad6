import OzPos.Library.Run

/-- A receiver of events that may come again. It records an event when it takes it up, answers
it as a duplicate while the record is younger than the window, and loses its records with a
restart. What a delivery draws is left to `process`, which also says whether it went through. -/
structure Receiver (ε ι κ δ σ : Type) where
  window : Int
  identity : ε → ι
  record? : ε → Option κ
  process : ε → δ → Int → σ → σ × Bool

inductive Delivery (ε δ : Type) where
  | deliver (e : ε) (d : δ)
  | wait (seconds : Nat)
  | restart

inductive Reply where
  | processed
  | failed
  | duplicate
  | quiet
  deriving DecidableEq

/-- `seen` holds the records with their ends. `processed` and `attempts` are history: the events
that went through, and what was taken up since the last restart. -/
structure ReceiverState (ι κ σ : Type) where
  clock : Int
  store : σ
  seen : List (κ × Int)
  processed : List ι
  attempts : List (κ × Int)

namespace Receiver

variable {ε ι κ δ σ : Type} [DecidableEq κ] (r : Receiver ε ι κ δ σ)

def fresh (store : σ) (clock : Int) : ReceiverState ι κ σ := ⟨clock, store, [], [], []⟩

variable (s : ReceiverState ι κ σ)

def live (k : κ) : Bool := (s.seen.lookup k).any (fun t => s.clock < t)

def isDuplicate (e : ε) : Bool := (r.record? e).any (live s)

def recordAs (k : κ) (s : ReceiverState ι κ σ) : ReceiverState ι κ σ :=
  { s with
    seen := (k, s.clock + r.window) :: s.seen.filter (fun p => p.1 ≠ k ∧ s.clock < p.2)
    attempts := (k, s.clock) :: s.attempts }

def record (e : ε) (s : ReceiverState ι κ σ) : ReceiverState ι κ σ :=
  match r.record? e with
  | none => s
  | some k => r.recordAs k s

def takeUp (e : ε) (d : δ) (s : ReceiverState ι κ σ) : ReceiverState ι κ σ × Reply :=
  match r.process e d s.clock s.store with
  | (store, true) =>
    ({ r.record e s with store := store, processed := r.identity e :: s.processed }, .processed)
  | (store, false) => ({ r.record e s with store := store }, .failed)

def machine : Machine (ReceiverState ι κ σ) (Delivery ε δ) Reply where
  step s
    | .deliver e d => if r.isDuplicate s e then (s, .duplicate) else r.takeUp e d s
    | .wait seconds => ({ s with clock := s.clock + seconds }, .quiet)
    | .restart => ({ s with seen := [], attempts := [] }, .quiet)

/-- The event was taken up within the window and since the last restart. -/
def Recent (e : ε) : Prop :=
  ∃ k t, r.record? e = some k ∧ (k, t) ∈ s.attempts ∧ s.clock < t + r.window

structure Recorded (s : ReceiverState ι κ σ) : Prop where
  attempted : ∀ k t, (k, t) ∈ s.seen → (k, t - r.window) ∈ s.attempts
  kept : ∀ k t, (k, t) ∈ s.attempts → s.clock < t + r.window →
    ∃ u, s.seen.lookup k = some u ∧ t + r.window ≤ u

theorem recorded_fresh (store : σ) (clock : Int) : r.Recorded (fresh store clock) :=
  ⟨by simp [fresh], by simp [fresh]⟩

variable {k : κ}

theorem mem_of_lookup {l : List (κ × Int)} {t : Int} (h : l.lookup k = some t) : (k, t) ∈ l := by
  obtain ⟨before, after, rfl, _⟩ := List.lookup_eq_some_iff.mp h
  simp

variable {s : ReceiverState ι κ σ}

theorem live_iff (h : r.Recorded s) (k : κ) :
    live s k = true ↔ ∃ t, (k, t) ∈ s.attempts ∧ s.clock < t + r.window := by
  unfold live
  constructor
  · intro hlive
    cases hlookup : s.seen.lookup k with
    | none => simp [hlookup] at hlive
    | some u =>
      have hlt : s.clock < u := by simpa [hlookup] using hlive
      refine ⟨u - r.window, h.attempted k u (mem_of_lookup hlookup), ?_⟩
      omega
  · rintro ⟨t, ht, hlt⟩
    obtain ⟨u, hu, hle⟩ := h.kept k t ht hlt
    have hlt' : s.clock < u := by omega
    simp [hu, hlt']

theorem isDuplicate_iff (h : r.Recorded s) (e : ε) : r.isDuplicate s e = true ↔ r.Recent s e := by
  unfold isDuplicate Recent
  cases hrecord : r.record? e with
  | none => simp
  | some k => simp [live_iff r h k]

theorem lookup_filter {l : List (κ × Int)} {p : κ × Int → Bool} {t : Int}
    (h : l.lookup k = some t) (hp : p (k, t) = true) : (l.filter p).lookup k = some t := by
  obtain ⟨before, after, rfl, hbefore⟩ := List.lookup_eq_some_iff.mp h
  refine List.lookup_eq_some_iff.mpr ⟨before.filter p, after.filter p, ?_, ?_⟩
  · rw [List.filter_append, List.filter_cons_of_pos hp]
  · exact fun q hq => hbefore q (List.mem_of_mem_filter hq)

theorem recorded_recordAs (h : r.Recorded s)
    (hnot : live s k = false) : r.Recorded (r.recordAs k s) := by
  constructor
  · intro k' t hmem
    rcases List.mem_cons.mp hmem with heq | hold
    · cases heq
      have hclock : s.clock + r.window - r.window = s.clock := by omega
      rw [hclock]
      exact List.mem_cons_self
    · exact List.mem_cons_of_mem _ (h.attempted k' t (List.mem_of_mem_filter hold))
  · intro k' t hmem hlt
    have hseen : (r.recordAs k s).seen =
        (k, s.clock + r.window) :: s.seen.filter (fun p => p.1 ≠ k ∧ s.clock < p.2) := rfl
    rw [hseen, List.lookup_cons]
    rcases List.mem_cons.mp hmem with heq | hold
    · cases heq
      exact ⟨s.clock + r.window, by simp, by omega⟩
    · have hlt' : s.clock < t + r.window := hlt
      have hne : k' ≠ k := by
        rintro rfl
        have hlive := (live_iff r h k').mpr ⟨t, hold, hlt'⟩
        rw [hlive] at hnot
        cases hnot
      obtain ⟨u, hu, hle⟩ := h.kept k' t hold hlt'
      have hkeep := lookup_filter (p := fun p => p.1 ≠ k ∧ s.clock < p.2) hu
        (by simp [hne]; omega)
      exact ⟨u, by simpa [beq_eq_false_iff_ne.mpr hne] using hkeep, hle⟩

theorem recorded_record (h : r.Recorded s) {e : ε}
    (hnot : r.isDuplicate s e = false) : r.Recorded (r.record e s) := by
  unfold record
  cases hrecord : r.record? e with
  | none => exact h
  | some k =>
    simp only [isDuplicate, hrecord, Option.any_some] at hnot
    exact recorded_recordAs r h hnot

theorem recorded_step (h : r.Recorded s) (step : Delivery ε δ) :
    r.Recorded (r.machine.step s step).1 := by
  cases step with
  | deliver e d =>
    simp only [machine]
    cases hdup : r.isDuplicate s e with
    | true => exact h
    | false =>
      have hrecord := recorded_record r h hdup
      simp only [Bool.false_eq_true, if_false, takeUp]
      cases hprocess : r.process e d s.clock s.store with
      | mk store done =>
        cases done with
        | true => exact ⟨hrecord.attempted, hrecord.kept⟩
        | false => exact ⟨hrecord.attempted, hrecord.kept⟩
  | wait seconds =>
    refine ⟨h.attempted, ?_⟩
    intro k t hmem hlt
    have hclock : s.clock + (seconds : Int) < t + r.window := hlt
    exact h.kept k t hmem (by omega)
  | restart => exact ⟨by simp [machine], by simp [machine]⟩

section

variable {ο : Type} (observe : σ → ο) (Few : σ → Prop)

/-- A duplicate went through before; an event that went through changes nothing that is observed
when it comes again; the store stays within its bound. -/
def Holds (s : ReceiverState ι κ σ) (step : Delivery ε δ) : Prop :=
  let next := r.machine.step s step
  (∀ e d, step = .deliver e d →
    (next.2 = .duplicate → r.identity e ∈ s.processed) ∧
      (r.identity e ∈ s.processed → observe next.1.store = observe s.store)) ∧
    Few next.1.store

/-- An event that did not go through comes again only when its attempt is no longer recent; one
that did comes again while it is recent, or where it leaves what is observed; and what is taken
up keeps the bound. -/
def Meets (Leaves Bounded : ε → δ → Int → σ → Prop) (s : ReceiverState ι κ σ) :
    Delivery ε δ → Prop
  | .deliver e d =>
    (r.Recent s e → r.identity e ∈ s.processed) ∧
      (¬ r.Recent s e →
        (r.identity e ∈ s.processed → Leaves e d s.clock s.store) ∧ Bounded e d s.clock s.store)
  | _ => True

variable {observe Few}

theorem holds_deliver (e : ε) (d : δ) :
    r.Holds observe Few s (.deliver e d) ↔
      ((r.machine.step s (.deliver e d)).2 = .duplicate → r.identity e ∈ s.processed) ∧
        (r.identity e ∈ s.processed →
          observe (r.machine.step s (.deliver e d)).1.store = observe s.store) ∧
        Few (r.machine.step s (.deliver e d)).1.store := by
  unfold Holds
  constructor
  · rintro ⟨h, hfew⟩
    obtain ⟨hanswer, hsame⟩ := h e d rfl
    exact ⟨hanswer, hsame, hfew⟩
  · rintro ⟨hanswer, hsame, hfew⟩
    refine ⟨?_, hfew⟩
    intro e' d' heq
    cases heq
    exact ⟨hanswer, hsame⟩

theorem takeUp_store (e : ε) (d : δ) (s : ReceiverState ι κ σ) :
    (r.takeUp e d s).1.store = (r.process e d s.clock s.store).1 ∧
      (r.takeUp e d s).2 ≠ .duplicate := by
  unfold takeUp
  cases hprocess : r.process e d s.clock s.store with
  | mk store done =>
    cases done with
    | true => exact ⟨rfl, by simp⟩
    | false => exact ⟨rfl, by simp⟩

theorem holds_iff_meets {Leaves Bounded : ε → δ → Int → σ → Prop}
    (hleaves : ∀ e d now store, Few store →
      (observe (r.process e d now store).1 = observe store ↔ Leaves e d now store))
    (hbounded : ∀ e d now store, Few store →
      (Few (r.process e d now store).1 ↔ Bounded e d now store)) (h : r.Recorded s) (hfew : Few s.store) (step : Delivery ε δ) :
    r.Holds observe Few s step ↔ r.Meets Leaves Bounded s step := by
  cases step with
  | deliver e d =>
    rw [holds_deliver]
    have hdup := isDuplicate_iff r h e
    unfold Meets
    cases hcase : r.isDuplicate s e with
    | true =>
      have hrecent := hdup.mp hcase
      have hstep : r.machine.step s (.deliver e d) = (s, .duplicate) := by simp [machine, hcase]
      rw [hstep]
      simp [hrecent, hfew]
    | false =>
      have hrecent : ¬ r.Recent s e := by
        rw [← hdup, hcase]
        simp
      have hstep : r.machine.step s (.deliver e d) = r.takeUp e d s := by simp [machine, hcase]
      obtain ⟨hstore, hanswer⟩ := takeUp_store r e d s
      rw [hstep, hstore, hleaves e d s.clock s.store hfew, hbounded e d s.clock s.store hfew]
      simp [hrecent, hanswer]
  | wait seconds =>
    have hstore : (r.machine.step s (.wait seconds)).1.store = s.store := rfl
    simp [Holds, Meets, hstore, hfew]
  | restart =>
    have hstore : (r.machine.step s .restart).1.store = s.store := rfl
    simp [Holds, Meets, hstore, hfew]

theorem along_holds_iff {Leaves Bounded : ε → δ → Int → σ → Prop}
    (hleaves : ∀ e d now store, Few store →
      (observe (r.process e d now store).1 = observe store ↔ Leaves e d now store))
    (hbounded : ∀ e d now store, Few store →
      (Few (r.process e d now store).1 ↔ Bounded e d now store))
    (store : σ) (hfew : Few store) (clock : Int) (steps : List (Delivery ε δ)) :
    r.machine.Along (r.Holds observe Few) (fresh store clock) steps ↔
      r.machine.Along (r.Meets Leaves Bounded) (fresh store clock) steps := by
  have hiff : ∀ s step, (r.Recorded s ∧ Few s.store) →
      (r.Holds observe Few s step ↔ r.Meets Leaves Bounded s step) :=
    fun s step hinv => holds_iff_meets r hleaves hbounded hinv.1 hinv.2 step
  have hstep : ∀ s step, (r.Recorded s ∧ Few s.store) → r.Meets Leaves Bounded s step →
      (r.Recorded (r.machine.step s step).1 ∧ Few (r.machine.step s step).1.store) := by
    intro s step hinv hmeets
    exact ⟨recorded_step r hinv.1 step, ((hiff s step hinv).mpr hmeets).2⟩
  exact r.machine.along_iff_of_invariant hstep hiff _ _ ⟨recorded_fresh r store clock, hfew⟩

end

end Receiver
