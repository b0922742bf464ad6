import OzPos.Lan.DeliveryRuns

namespace OzPos

def LanEvent.connection : LanEvent → Option Nat
  | .broadcast _ => none
  | .accept id _ _ _ | .greet id _ | .drainAddr id | .drainDevice id | .flush id _ | .rebuffer id
  | .receive id _ | .heartbeat id _ => some id

namespace LanForwarder

variable {probe : String → Option (List String)} {s : LanForwarder} {id : Nat}

theorem connections_atPhase {other : Nat} {phase : PeerPhase} {act : Connection → LanForwarder}
    (hact : ∀ c, (act c).connections id = s.connections id) :
    (s.atPhase other phase act).connections id = s.connections id :=
  step_atPhase (P := fun t => t.connections id = s.connections id) rfl (fun c _ _ => hact c)

theorem connections_put_ne {other : Nat} (h : id ≠ other) (c : Option Connection) :
    (s.put other c).connections id = s.connections id := by
  simp [put, h]

theorem connections_step_none {e : LanEvent} (h : e.connection ≠ some id)
    (hnone : s.connections id = none) : (s.step probe e).connections id = none := by
  have hne : ∀ {other : Nat}, e.connection = some other → id ≠ other :=
    fun hother heq => h (heq ▸ hother)
  cases e with
  | broadcast text =>
    change (s.connections id).map _ = none
    rw [hnone]
    rfl
  | accept other addr stationIds deviceId =>
    change LanForwarder.connections (if (s.connections other).isSome = true then s
      else s.accept other addr stationIds deviceId) id = none
    split
    · exact hnone
    · exact (connections_put_ne (hne rfl) _).trans hnone
  | greet other ok =>
    refine (connections_atPhase (fun c => ?_)).trans hnone
    unfold greet
    split
    · exact connections_put_ne (hne rfl) _
    · exact connections_put_ne (hne rfl) _
  | drainAddr other =>
    refine (connections_atPhase (fun c => ?_)).trans hnone
    rw [drainAddr_eq]
    exact connections_put_ne (hne rfl) _
  | drainDevice other =>
    refine (connections_atPhase (fun c => ?_)).trans hnone
    rw [drainDevice_eq]
    exact connections_put_ne (hne rfl) _
  | flush other ok =>
    refine (connections_atPhase (fun c => ?_)).trans hnone
    unfold flush
    split
    · exact connections_put_ne (hne rfl) _
    · split
      · exact connections_put_ne (hne rfl) _
      · split
        · exact connections_put_ne (hne rfl) _
        · exact connections_put_ne (hne rfl) _
  | rebuffer other =>
    refine (connections_atPhase (fun c => ?_)).trans hnone
    unfold rebuffer
    split
    · exact connections_put_ne (hne rfl) _
    · exact connections_put_ne (hne rfl) _
  | receive other ok =>
    refine (connections_atPhase (fun c => ?_)).trans hnone
    unfold receive
    split
    · rfl
    · split
      · exact connections_put_ne (hne rfl) _
      · split
        · exact connections_put_ne (hne rfl) _
        · exact connections_put_ne (hne rfl) _
  | heartbeat other ok =>
    refine (connections_atPhase (fun c => ?_)).trans hnone
    unfold heartbeat
    split
    · rfl
    · exact connections_put_ne (hne rfl) _

theorem connections_run_none (events : List LanEvent) (h : ∀ e ∈ events, e.connection ≠ some id)
    (hnone : s.connections id = none) : ((machine probe).run s events).connections id = none := by
  induction events generalizing s with
  | nil => exact hnone
  | cons e events ih =>
    apply ih (fun e' he => h e' (List.mem_cons_of_mem _ he))
    exact connections_step_none (h e List.mem_cons_self) hnone

end LanForwarder

def seesAll : String → Option (List String) := fun _ => none

def kitchenTablet : LanDevice := ⟨"tablet-1", []⟩

def connects (id : Nat) (addr : String) : List LanEvent :=
  [.accept id addr [] (some "tablet-1"), .greet id true, .drainAddr id, .drainDevice id,
    .flush id true]

/-- A tablet that hears a sale whose write fails, and then connects again. -/
def brokenWrite : List LanEvent :=
  connects 0 "10.0.0.5:40001" ++ [.broadcast "sale-1", .receive 0 false, .rebuffer 0, .rebuffer 0] ++
    connects 1 "10.0.0.5:40002" ++ [.flush 1 true]

def lostSale : List LanEvent :=
  connects 0 "10.0.0.5:40001" ++
    [.broadcast "sale-1", .broadcast "sale-2", .receive 0 false, .rebuffer 0, .rebuffer 0] ++
    connects 1 "10.0.0.5:40002" ++ [.flush 1 true]

variable (events : List LanEvent)

def LanForwarder.after : LanForwarder :=
  (LanForwarder.machine seesAll).run .new events

theorem after_none {events : List LanEvent} {id : Nat}
    (hevents : ∀ e ∈ events, e.connection = some 0 ∨ e.connection = some 1 ∨ e.connection = none)
    (hzero : id ≠ 0) (hone : id ≠ 1) : (LanForwarder.after events).connections id = none := by
  refine LanForwarder.connections_run_none events (fun e he => ?_) rfl
  intro heq
  rcases hevents e he with h | h | h
  · rw [h] at heq
    exact hzero (Option.some.inj heq).symm
  · rw [h] at heq
    exact hone (Option.some.inj heq).symm
  · rw [h] at heq
    cases heq

theorem after_alone {events : List LanEvent} {id : Nat} {c e : Connection}
    (hevents : ∀ e ∈ events, e.connection = some 0 ∨ e.connection = none)
    (hzero : (LanForwarder.after events).connections 0 = some e)
    (hc : (LanForwarder.after events).connections id = some c) : id = 0 ∧ c = e := by
  have hid : id = 0 := by
    by_contra hne
    have hnone : (LanForwarder.after events).connections id = none := by
      refine LanForwarder.connections_run_none events (fun e he => ?_) rfl
      rcases hevents e he with h | h
      · rw [h]
        simpa using Ne.symm hne
      · rw [h]
        simp
    rw [hnone] at hc
    cases hc
  subst hid
  rw [hzero] at hc
  exact ⟨rfl, (Option.some.inj hc).symm⟩

variable (rx : List Line)

def firstDial : Connection :=
  ⟨"10.0.0.5:40001", some ⟨some "tablet-1", []⟩, 0, rx, [], .live⟩

theorem withinLag (hevents : ∀ e ∈ events, e.connection = some 0 ∨ e.connection = none)
    (hzero : (LanForwarder.after events).connections 0 = some (firstDial rx))
    (hroom : rx.length < CHANNEL_CAPACITY) (text : String) :
    (LanForwarder.after events).WithinLimits kitchenTablet (.broadcast text) := by
  intro id c hc
  obtain ⟨-, rfl⟩ := after_alone hevents hzero hc
  exact hroom

theorem admits {id : Nat} (c : Connection)
    (hzero : (LanForwarder.after events).connections id = some c)
    (hroom : ∀ entry ∈ c.pending, (LanForwarder.after events).buffer.Admits entry.1) :
    (LanForwarder.after events).WithinLimits kitchenTablet (.rebuffer id) := by
  intro e key event pending he _ hpending
  rw [hzero] at he
  obtain rfl := Option.some.inj he
  exact hroom (key, event) (by rw [hpending]; exact List.mem_cons_self)

theorem heardOnce (hevents : ∀ e ∈ events, e.connection = some 0 ∨ e.connection = none)
    (hzero : (LanForwarder.after events).connections 0 = some (firstDial rx))
    (hparked : (LanForwarder.after events).parked seesAll kitchenTablet = []) (text : String) :
    (LanForwarder.after events).Safe seesAll kitchenTablet (.broadcast text) := by
  intro _
  exact
    { one := by
        intro i j c e hc he _ _
        rw [(after_alone hevents hzero hc).1, (after_alone hevents hzero he).1]
      heard := fun _ => ⟨0, firstDial rx, hzero, rfl, by simp [firstDial]⟩
      claimed := by
        intro id c hc _
        refine ⟨hparked, fun j => ?_⟩
        unfold LanForwarder.carry
        cases hj : (LanForwarder.after events).connections j with
        | none => rfl
        | some e =>
          obtain ⟨-, rfl⟩ := after_alone hevents hzero hj
          exact carryOf_serves ⟨rfl, by simp [firstDial]⟩ }

def Connection.fails (c : Connection) (rx : List Line) (pending : List (ReplayKey × Line)) :
    Connection :=
  { c with rx := rx, pending := pending, phase := .rebuffering }

theorem lostSale_withinLimits :
    (LanForwarder.machine seesAll).Along (LanForwarder.WithinLimits kitchenTablet) .new
      lostSale := by
  refine ⟨fun _ => rfl, trivial, trivial, trivial, trivial, ?_, ?_, trivial, ?_, ?_, fun _ => rfl,
    trivial, trivial, trivial, trivial, trivial, trivial⟩
  · exact withinLag (lostSale.take 5) [] (by decide) (by decide) (by decide) _
  · exact withinLag (lostSale.take 6) [⟨0, "sale-1"⟩] (by decide) (by decide) (by decide) _
  · exact admits (lostSale.take 8)
      ((firstDial []).fails [⟨1, "sale-2"⟩] [(.device "tablet-1", ⟨0, "sale-1"⟩)])
      (by decide) (by decide)
  · exact admits (lostSale.take 9) ((firstDial []).fails [⟨1, "sale-2"⟩] [])
      (by decide) (by decide)

/-- The failed write buffers its own sale; the one that waited behind it is gone, and the tablet is
connected again with nothing left to hear. -/
theorem lostSale_undelivered :
    (LanForwarder.machine seesAll).Along (LanForwarder.WithinLimits kitchenTablet) .new lostSale ∧
      (LanForwarder.after lostSale).Connected kitchenTablet ∧
      (LanForwarder.after lostSale).QueuesDrained kitchenTablet ∧
      ¬ (LanForwarder.after lostSale).DeliveredOnce seesAll kitchenTablet := by
  have hone : (LanForwarder.after lostSale).connections 1 =
      some { firstDial [] with addr := "10.0.0.5:40002", acceptedAt := 2 } := by decide
  have hzero : (LanForwarder.after lostSale).connections 0 = none := by decide
  have hconnected : (LanForwarder.after lostSale).Connected kitchenTablet := ⟨1, _, hone, rfl, rfl⟩
  have hdrained : (LanForwarder.after lostSale).QueuesDrained kitchenTablet := by
    refine ⟨by decide, ?_⟩
    intro id c hc _
    by_cases h : id = 1
    · subst h
      rw [hone] at hc
      obtain rfl := Option.some.inj hc
      exact ⟨rfl, rfl⟩
    · by_cases h' : id = 0
      · subst h'
        rw [hzero] at hc
        cases hc
      · have hnone : (LanForwarder.after lostSale).connections id = none :=
          after_none (by decide) h' h
        rw [hnone] at hc
        cases hc
  refine ⟨lostSale_withinLimits, hconnected, hdrained, ?_⟩
  intro h
  have hall := h.2 hconnected hdrained 0 (by decide)
  revert hall
  decide

theorem brokenWrite_withinLimits :
    (LanForwarder.machine seesAll).Along (LanForwarder.WithinLimits kitchenTablet) .new
      brokenWrite := by
  refine ⟨fun _ => rfl, trivial, trivial, trivial, trivial, ?_, trivial, ?_, ?_, fun _ => rfl,
    trivial, trivial, trivial, trivial, trivial, trivial⟩
  · exact withinLag (brokenWrite.take 5) [] (by decide) (by decide) (by decide) _
  · exact admits (brokenWrite.take 7)
      ((firstDial []).fails [] [(.device "tablet-1", ⟨0, "sale-1"⟩)]) (by decide) (by decide)
  · exact admits (brokenWrite.take 8) ((firstDial []).fails [] []) (by decide) (by decide)

theorem brokenWrite_safe :
    (LanForwarder.machine seesAll).Along (LanForwarder.Safe seesAll kitchenTablet) .new
      brokenWrite := by
  refine ⟨trivial, trivial, ?_, ?_, trivial, ?_, ?_, trivial, trivial, trivial, trivial, ?_, ?_,
    trivial, trivial, trivial⟩
  · intro c _ _ _
    rfl
  · intro c hc _ _
    have hzero : (LanForwarder.after (brokenWrite.take 3)).connections 0 =
        some { firstDial [] with phase := .claimDevice } := by decide
    obtain rfl := Option.some.inj (hzero.symm.trans hc)
    exact ⟨.inl rfl, .inr ⟨rfl, rfl⟩⟩
  · exact heardOnce (brokenWrite.take 5) [] (by decide) (by decide) (by decide) _
  · intro c msg rx hc _ _ hrx _
    have hzero : (LanForwarder.after (brokenWrite.take 6)).connections 0 =
        some (firstDial [⟨0, "sale-1"⟩]) := by decide
    obtain rfl := Option.some.inj (hzero.symm.trans hc)
    cases hrx
    intro first _ line hline
    cases hline
  · intro c hc _ _
    have hone : (LanForwarder.after (brokenWrite.take 11)).connections 1 =
        some { firstDial [] with
          addr := "10.0.0.5:40002", acceptedAt := 1, phase := .claimAddr } := by decide
    obtain rfl := Option.some.inj (hone.symm.trans hc)
    change kitchenTablet.scope seesAll
      ((LanForwarder.after (brokenWrite.take 11)).buffer.held (.addr "10.0.0.5:40002")) = []
    decide
  · intro c hc _ _
    have hgone : (LanForwarder.after (brokenWrite.take 12)).connections 0 = none := by decide
    have hone : (LanForwarder.after (brokenWrite.take 12)).connections 1 =
        some { firstDial [] with
          addr := "10.0.0.5:40002", acceptedAt := 1, phase := .claimDevice } := by decide
    have hothers : ∀ j, j ≠ 1 → (LanForwarder.after (brokenWrite.take 12)).connections j = none := by
      intro j hj
      by_cases hzero : j = 0
      · rw [hzero]
        exact hgone
      · exact after_none (by decide) hzero hj
    constructor
    · refine .inr (fun j hj => ?_)
      have hback := congrArg (backlogOf seesAll kitchenTablet) (hothers j hj)
      exact hback
    · refine .inl (fun j => ?_)
      by_cases hj : j = 1
      · have hcarry := congrArg (carryOf seesAll kitchenTablet) hone
        rw [hj]
        exact hcarry.trans (carryOf_serves ⟨rfl, by simp⟩)
      · have hcarry := congrArg (carryOf seesAll kitchenTablet) (hothers j hj)
        exact hcarry

/-- A failed write with nothing behind it is replayed when the tablet is back. -/
theorem brokenWrite_delivered :
    ((LanForwarder.machine seesAll).run .new brokenWrite).DeliveredOnce seesAll kitchenTablet :=
  deliveredOnce_run seesAll kitchenTablet brokenWrite brokenWrite_withinLimits brokenWrite_safe
    brokenWrite [] (List.append_nil _).symm

end OzPos
