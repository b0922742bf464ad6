import OzPos.Library.Run

namespace OzPos

/-- Limits of at least one attempt: the source divides by them. -/
structure LoginLimits where
  (maxAttempts windowSecs deviceMaxAttempts globalMaxAttempts maxBackoffSecs : Nat)
  pos : 0 < maxAttempts ∧ 0 < deviceMaxAttempts ∧ 0 < globalMaxAttempts

structure LoginAttempt where
  username : String
  deviceId : Option String
  attemptedAt : Int

inductive LoginCounter where
  | account (username : String)
  | device (id : String)
  | everyone

def LoginCounter.counts : LoginCounter → LoginAttempt → Bool
  | account username, a => a.username == username
  | device id, a => a.deviceId.filter (· != "") == some id
  | everyone, _ => true

/-- In the order of their checks; an empty device id has none. -/
def LoginAttempt.counters (a : LoginAttempt) : List LoginCounter :=
  .account a.username :: ((a.deviceId.filter (· != "")).map .device).toList ++ [.everyone]

theorem LoginAttempt.mem_counters_iff (a : LoginAttempt) (c : LoginCounter) :
    c ∈ a.counters ↔ c.counts a = true := by
  cases c with
  | account username => simp [counters, LoginCounter.counts, eq_comm (a := username)]
  | device id => simp [counters, LoginCounter.counts]
  | everyone => simp [counters, LoginCounter.counts]

namespace LoginLimits

variable (l : LoginLimits) (log : List LoginAttempt)

def limit : LoginCounter → Nat
  | .account _ => l.maxAttempts
  | .device _ => l.deviceMaxAttempts
  | .everyone => l.globalMaxAttempts

theorem limit_pos (c : LoginCounter) : 0 < l.limit c := by
  obtain ⟨haccount, hdevice, hall⟩ := l.pos
  cases c <;> assumption

-- under a cap that is itself a `u64`, the saturation of the product never shows
def loginBackoffSecs (strikes : Nat) : Nat :=
  max (min (l.windowSecs * (1 <<< min (strikes - 1) 16)) l.maxBackoffSecs) 1

def refusal (c : LoginCounter) : Nat :=
  l.loginBackoffSecs (max (log.countP c.counts / l.limit c) 1)

def pruned (now : Int) : List LoginAttempt :=
  log.filter (fun a => now - l.windowSecs ≤ a.attemptedAt)

def breached (a : LoginAttempt) : Option LoginCounter :=
  a.counters.find? (fun c => l.limit c ≤ log.countP c.counts)

/-- The rows after the call, with the attempts left or the seconds to wait. -/
def recordLoginAttemptScoped (a : LoginAttempt) : List LoginAttempt × Except Nat Nat :=
  let rows := l.pruned log a.attemptedAt
  match l.breached rows a with
  | some c => (rows, .error (l.refusal rows c))
  | none =>
    let rows := rows ++ [a]
    let own := LoginCounter.account a.username
    -- the attempt that reaches the limit is recorded and refused
    (rows, if l.maxAttempts ≤ rows.countP own.counts then .error (l.refusal rows own)
      else .ok (l.maxAttempts - rows.countP own.counts))

/-- How many attempts count in the window that opens at `t`. -/
def within (c : LoginCounter) (t : Int) : Nat :=
  log.countP (fun a => c.counts a && decide (t ≤ a.attemptedAt ∧ a.attemptedAt ≤ t + l.windowSecs))

end LoginLimits

/-- The table, and beside it every attempt recorded and not cleared since. -/
structure LoginLog where
  clock : Int
  (rows standing : List LoginAttempt)

inductive LoginCall where
  | record (username : String) (deviceId : Option String)
  | clear (username : String)
  | clearByDevice (deviceId : String)

namespace LoginLog

variable (l : LoginLimits) (s : LoginLog)

def cleared (now : Int) (gone : LoginAttempt → Bool) : LoginLog :=
  ⟨now, s.rows.filter (!gone ·), s.standing.filter (!gone ·)⟩

/-- A call, some seconds after the one before. -/
def step (e : Nat × LoginCall) : LoginLog × Option (Except Nat Nat) :=
  let now := s.clock + e.1
  match e.2 with
  | .record username deviceId =>
    let a : LoginAttempt := ⟨username, deviceId, now⟩
    let out := l.recordLoginAttemptScoped s.rows a
    let new := if (l.breached (l.pruned s.rows now) a).isNone then [a] else []
    (⟨now, out.1, s.standing ++ new⟩, some out.2)
  | .clear username => (s.cleared now (·.username == username), none)
  | .clearByDevice id => (s.cleared now (·.deviceId == some id), none)

def machine : Machine LoginLog (Nat × LoginCall) (Option (Except Nat Nat)) := ⟨fun s => s.step l⟩

structure Throttled : Prop where
  past : ∀ a ∈ s.standing, a.attemptedAt ≤ s.clock
  kept : ∀ now, s.clock ≤ now → l.pruned s.rows now = l.pruned s.standing now
  bounded : ∀ c t, l.within s.standing c t ≤ l.limit c

variable {l s}

theorem countP_pruned (h : s.Throttled l) {now : Int} (hnow : s.clock ≤ now) (c : LoginCounter) :
    (l.pruned s.rows now).countP c.counts = l.within s.standing c (now - l.windowSecs) := by
  rw [h.kept now hnow, LoginLimits.pruned, List.countP_filter, LoginLimits.within]
  apply List.countP_congr
  intro a ha
  have hpast := h.past a ha
  simp only [Bool.and_eq_true, decide_eq_true_eq, and_congr_right_iff]
  omega

theorem pruned_pruned (log : List LoginAttempt) {now later : Int} (h : now ≤ later) :
    l.pruned (l.pruned log now) later = l.pruned log later := by
  unfold LoginLimits.pruned
  rw [List.filter_filter]
  apply List.filter_congr
  intro a _
  simp only [← Bool.decide_and, decide_eq_decide]
  omega

theorem refusal_eq {log : List LoginAttempt} {c : LoginCounter}
    (h : log.countP c.counts ≤ l.limit c) :
    l.refusal log c = max (min l.windowSecs l.maxBackoffSecs) 1 := by
  have hpos := l.limit_pos c
  have hdiv : log.countP c.counts / l.limit c ≤ 1 := Nat.div_le_of_le_mul (by omega)
  unfold LoginLimits.refusal LoginLimits.loginBackoffSecs
  rw [Nat.max_eq_right hdiv]
  simp

theorem throttled_cleared (h : s.Throttled l) {now : Int} (hnow : s.clock ≤ now)
    (gone : LoginAttempt → Bool) : (s.cleared now gone).Throttled l where
  past a ha := Int.le_trans (h.past a (List.mem_filter.mp ha).1) hnow
  kept later hlater := by
    have hrows := h.kept later (Int.le_trans hnow hlater)
    simp only [LoginLimits.pruned, cleared] at hrows ⊢
    rw [List.filter_comm, hrows, List.filter_comm]
  bounded c t := Nat.le_trans (List.Sublist.countP_le List.filter_sublist) (h.bounded c t)

theorem throttled_recorded (h : s.Throttled l) {a : LoginAttempt} (hnow : s.clock ≤ a.attemptedAt)
    (hfree : l.breached (l.pruned s.rows a.attemptedAt) a = none) :
    Throttled l ⟨a.attemptedAt, l.pruned s.rows a.attemptedAt ++ [a], s.standing ++ [a]⟩ where
  past b hb := by
    rcases List.mem_append.mp hb with hold | hnew
    · exact Int.le_trans (h.past b hold) hnow
    · simp [List.mem_singleton.mp hnew]
  kept later hlater := by
    have hprune := pruned_pruned (l := l) s.rows hlater
    have hkept := h.kept later (Int.le_trans hnow hlater)
    simp only [LoginLimits.pruned, List.filter_append] at hprune hkept ⊢
    rw [hprune, hkept]
  bounded c t := by
    change l.within (s.standing ++ [a]) c t ≤ l.limit c
    have hsplit : l.within (s.standing ++ [a]) c t = l.within s.standing c t + l.within [a] c t :=
      List.countP_append
    have hone : l.within [a] c t ≤ 1 := List.countP_le_length
    have hold := h.bounded c t
    by_cases hin : l.within [a] c t = 0
    · omega
    · -- the counter was checked, over a window that covers what is left of this one
      have hcounts : c.counts a = true ∧ a.attemptedAt ≤ t + l.windowSecs := by
        simp [LoginLimits.within] at hin
        exact ⟨hin.1, hin.2.2⟩
      have hcount := List.find?_eq_none.mp hfree c ((a.mem_counters_iff c).mpr hcounts.1)
      rw [countP_pruned h hnow, decide_eq_true_eq, Nat.not_le] at hcount
      have hless : l.within s.standing c t ≤
          l.within s.standing c (a.attemptedAt - l.windowSecs) := by
        apply List.countP_mono_left
        intro b hb hwindow
        have hpast := h.past b hb
        simp only [Bool.and_eq_true, decide_eq_true_eq] at hwindow ⊢
        refine ⟨hwindow.1, ?_, ?_⟩ <;> omega
      omega

theorem throttled_step (h : s.Throttled l) (e : Nat × LoginCall) : (s.step l e).1.Throttled l := by
  have hnow : s.clock ≤ s.clock + e.1 := by omega
  unfold step
  cases e.2 with
  | clear username => exact throttled_cleared h hnow _
  | clearByDevice id => exact throttled_cleared h hnow _
  | record username deviceId =>
    simp only [LoginLimits.recordLoginAttemptScoped]
    cases hbreached : l.breached (l.pruned s.rows (s.clock + e.1))
        ⟨username, deviceId, s.clock + e.1⟩ with
    | none => exact throttled_recorded h hnow hbreached
    | some c =>
      simp only [Option.isNone_some, Bool.false_eq_true, if_false, List.append_nil]
      refine ⟨fun a ha => Int.le_trans (h.past a ha) hnow, ?_, h.bounded⟩
      intro later hlater
      rw [pruned_pruned _ hlater]
      exact h.kept later (Int.le_trans hnow hlater)

theorem throttled_run (l : LoginLimits) (clock : Int) (calls : List (Nat × LoginCall)) :
    ((machine l).run ⟨clock, [], []⟩ calls).Throttled l := by
  have hempty : Throttled l ⟨clock, [], []⟩ :=
    ⟨fun _ ha => absurd ha List.not_mem_nil, fun _ _ => rfl, fun _ _ => Nat.zero_le _⟩
  generalize LoginLog.mk clock [] [] = s at hempty ⊢
  induction calls generalizing s with
  | nil => exact hempty
  | cons e calls ih => exact ih _ (throttled_step hempty e)

theorem breached_isSome_iff (h : s.Throttled l) (a : LoginAttempt)
    (hnow : s.clock ≤ a.attemptedAt) :
    (l.breached (l.pruned s.rows a.attemptedAt) a).isSome = true ↔
      ∃ c ∈ a.counters, l.limit c ≤ l.within s.standing c (a.attemptedAt - l.windowSecs) := by
  simp [LoginLimits.breached, List.find?_isSome, countP_pruned h hnow]

end LoginLog

variable (clock : Int) (calls : List (Nat × LoginCall))

end OzPos
