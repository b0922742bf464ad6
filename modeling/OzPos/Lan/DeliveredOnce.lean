import OzPos.Lan.Forwarder

namespace OzPos

section

variable (probe : String → Option (List String)) (d : LanDevice)

def Numbered (log : List Line) : Prop :=
  log.Pairwise (fun l r => l.serial < r.serial) ∧ ∀ line ∈ log, line.serial < log.length

structure Connection.Tidy (log : List Line) (c : Connection) : Prop where
  mine : c.device = some d.deviceId → c.subscription = some d.subscription
  keyed : c.device = some d.deviceId → ∀ entry ∈ c.pending, d.inScope probe entry.2 = true →
    entry.1 = d.key
  foreign : c.device ≠ some d.deviceId → ∀ entry ∈ c.pending, entry.1 ≠ d.key
  unclaimed : c.device = some d.deviceId →
    c.phase = .greeting ∨ c.phase = .claimAddr ∨ c.phase = .claimDevice →
    d.scope probe (c.pending.map Prod.snd) = []
  live : c.phase = .live → c.pending = []
  accepted : c.acceptedAt ≤ log.length
  greeted : c.device = some d.deviceId → c.phase = .greeting →
    d.scope probe c.rx = d.since probe log c.acceptedAt

namespace LanForwarder

/-- The device's lines in the order in which they are to reach it. -/
def chain (s : LanForwarder) (carried held : List Line) : List Line :=
  s.deliveredTo d.key ++ s.parked probe d ++ carried ++ held

/-- One connection at most has lines to buffer again, and one has lines to write. -/
structure Balanced (s : LanForwarder) (carried held : List Line) : Prop where
  carrying : Sole (s.carry probe d) carried
  holding : Sole (s.backlog probe d) held
  ordered : (s.chain probe d carried held).Sublist s.broadcasts
  complete : ∀ first, s.firstSeen d.deviceId = some first → first ≤ s.broadcasts.length ∧
    (s.chain probe d carried held).filter (fun line => decide (first ≤ line.serial)) =
      d.since probe s.broadcasts first
  claimed : ∀ id c, s.connections id = some c → c.Claimed d →
    (s.parked probe d = [] ∧ carried = []) ∨ backlogOf probe d (some c) = []
  unseen : s.firstSeen d.deviceId = none →
    s.deliveredTo d.key = [] ∧ s.parked probe d = [] ∧ carried = [] ∧
      ∀ id c, s.connections id = some c → c.device = some d.deviceId → c.phase = .greeting

structure Accounts (s : LanForwarder) : Prop where
  numbered : Numbered s.broadcasts
  tidy : ∀ id c, s.connections id = some c → c.Tidy probe d s.broadcasts
  balanced : ∃ carried held, s.Balanced probe d carried held

end LanForwarder

end

variable {probe : String → Option (List String)} {d : LanDevice}

theorem scope_append (lines rest : List Line) :
    d.scope probe (lines ++ rest) = d.scope probe lines ++ d.scope probe rest :=
  List.filter_append lines rest

theorem scope_cons (line : Line) (lines : List Line) :
    d.scope probe (line :: lines) =
      if d.inScope probe line then line :: d.scope probe lines else d.scope probe lines :=
  List.filter_cons

section Shares

variable {c : Connection}

theorem backlogOf_foreign (h : c.device ≠ some d.deviceId) : backlogOf probe d (some c) = [] := by
  simp [backlogOf, Connection.Serves, h]

theorem carryOf_foreign (h : c.device ≠ some d.deviceId) : carryOf probe d (some c) = [] := by
  simp [carryOf, h]

theorem backlogOf_serves (h : c.Serves d) : backlogOf probe d (some c) =
    d.scope probe (c.pending.map Prod.snd) ++ d.scope probe c.rx := if_pos h

theorem carryOf_serves (h : c.Serves d) : carryOf probe d (some c) = [] := by
  simp [carryOf, h.2]

theorem backlogOf_rebuffering (h : c.phase = .rebuffering) : backlogOf probe d (some c) = [] := by
  simp [backlogOf, Connection.Serves, h]

theorem carryOf_rebuffering (hdev : c.device = some d.deviceId) (h : c.phase = .rebuffering) :
    carryOf probe d (some c) = d.scope probe (c.pending.map Prod.snd) := by
  simp [carryOf, hdev, h]

theorem Connection.Claimed.serves (h : c.Claimed d) : c.Serves d := by
  refine ⟨h.1, ?_⟩
  rcases h.2 with h | h
  · simp [h]
  · simp [h]

theorem Connection.Claimed.greeted (h : c.Claimed d) : c.phase ≠ .greeting := by
  rcases h.2 with h | h
  · simp [h]
  · simp [h]

end Shares

namespace LanForwarder

variable {s t : LanForwarder} {carried held : List Line} {id : Nat}

variable {oc : Option Connection}

theorem backlog_update (h : t.connections = Function.update s.connections id oc) :
    t.backlog probe d = Function.update (s.backlog probe d) id (backlogOf probe d oc) := by
  funext i
  by_cases hi : i = id
  · subst hi
    simp [backlog, h]
  · simp [backlog, h, hi]

theorem carry_update (h : t.connections = Function.update s.connections id oc) :
    t.carry probe d = Function.update (s.carry probe d) id (carryOf probe d oc) := by
  funext i
  by_cases hi : i = id
  · subst hi
    simp [carry, h]
  · simp [carry, h, hi]

theorem forall_update {P : Nat → Connection → Prop}
    (hconn : t.connections = Function.update s.connections id oc) (hnew : ∀ c, oc = some c → P id c)
    (hold : ∀ i, i ≠ id → ∀ c, s.connections i = some c → P i c) :
    ∀ i c, t.connections i = some c → P i c := by
  intro i c hc
  rw [hconn] at hc
  by_cases hi : i = id
  · subst hi
    rw [Function.update_self] at hc
    exact hnew c hc
  · rw [Function.update_of_ne hi] at hc
    exact hold i hi c hc

theorem Balanced.seen (h : s.Balanced probe d carried held) {c : Connection}
    (hc : s.connections id = some c) (hdev : c.device = some d.deviceId)
    (hphase : c.phase ≠ .greeting) : s.firstSeen d.deviceId ≠ none := fun hnone =>
  hphase ((h.unseen hnone).2.2.2 id c hc hdev)

theorem Balanced.put {carried' held' lost : List Line}
    (h : s.Balanced probe d carried held)
    (hconn : t.connections = Function.update s.connections id oc)
    (hlog : t.broadcasts = s.broadcasts)
    (hfirst : t.firstSeen d.deviceId = s.firstSeen d.deviceId)
    (hcarry : Sole (Function.update (s.carry probe d) id (carryOf probe d oc)) carried')
    (hheld : Sole (Function.update (s.backlog probe d) id (backlogOf probe d oc)) held')
    (hchain : s.chain probe d carried held = t.chain probe d carried' held' ++ lost)
    (hlost : ∀ first, s.firstSeen d.deviceId = some first → ∀ line ∈ lost, line.serial < first)
    (hclaimed : ∀ i c, t.connections i = some c → c.Claimed d →
      (t.parked probe d = [] ∧ carried' = []) ∨ backlogOf probe d (some c) = [])
    (hunseen : s.firstSeen d.deviceId = none → t.deliveredTo d.key = s.deliveredTo d.key ∧
      t.parked probe d = s.parked probe d ∧ carried' = carried ∧
      ∀ c, oc = some c → c.device = some d.deviceId → c.phase = .greeting) :
    t.Balanced probe d carried' held' where
  carrying := by
    rw [carry_update hconn]
    exact hcarry
  holding := by
    rw [backlog_update hconn]
    exact hheld
  ordered := by
    have hall := h.ordered
    rw [hchain] at hall
    rw [hlog]
    exact (List.sublist_append_left _ lost).trans hall
  complete := by
    intro first hsome
    rw [hfirst] at hsome
    obtain ⟨hle, hall⟩ := h.complete first hsome
    have hnone : lost.filter (fun line => decide (first ≤ line.serial)) = [] := by
      rw [List.filter_eq_nil_iff]
      intro line hline
      have hlt := hlost first hsome line hline
      simpa using hlt
    rw [hchain, List.filter_append, hnone, List.append_nil] at hall
    rw [hlog]
    exact ⟨hle, hall⟩
  claimed := hclaimed
  unseen := by
    intro hnone
    rw [hfirst] at hnone
    obtain ⟨hdel, hpark, hcar, hnew⟩ := hunseen hnone
    obtain ⟨hdel', hpark', hcar', hold⟩ := h.unseen hnone
    exact ⟨hdel.trans hdel', hpark.trans hpark', hcar.trans hcar',
      forall_update hconn hnew (fun i _ => hold i)⟩

theorem Balanced.frame (h : s.Balanced probe d carried held)
    (hconn : t.connections = Function.update s.connections id oc)
    (hlog : t.broadcasts = s.broadcasts)
    (hfirst : t.firstSeen d.deviceId = s.firstSeen d.deviceId)
    (hdel : t.deliveredTo d.key = s.deliveredTo d.key) (hpark : t.parked probe d = s.parked probe d)
    (hcarry : carryOf probe d oc = s.carry probe d id)
    (hback : backlogOf probe d oc = s.backlog probe d id)
    (hclaim : ∀ c, oc = some c → c.Claimed d →
      (s.parked probe d = [] ∧ carried = []) ∨ backlogOf probe d (some c) = [])
    (hgreet : s.firstSeen d.deviceId = none →
      ∀ c, oc = some c → c.device = some d.deviceId → c.phase = .greeting) :
    t.Balanced probe d carried held := by
  have hsame : s.chain probe d carried held = t.chain probe d carried held ++ [] := by
    simp [chain, hdel, hpark]
  apply h.put hconn hlog hfirst (h.carrying.update_same hcarry.symm)
    (h.holding.update_same hback.symm) hsame
  · simp
  · rw [hpark]
    exact forall_update hconn hclaim (fun i _ => h.claimed i)
  · intro hnone
    exact ⟨hdel, hpark, rfl, hgreet hnone⟩

theorem Accounts.of_put {carried' held' : List Line} (h : s.Accounts probe d)
    (hconn : t.connections = Function.update s.connections id oc)
    (hlog : t.broadcasts = s.broadcasts) (htidy : ∀ c, oc = some c → c.Tidy probe d s.broadcasts)
    (hbalanced : t.Balanced probe d carried' held') : t.Accounts probe d where
  numbered := by
    rw [hlog]
    exact h.numbered
  tidy := by
    rw [hlog]
    exact forall_update hconn htidy (fun i _ => h.tidy i)
  balanced := ⟨carried', held', hbalanced⟩

theorem Accounts.foreign {c : Connection} (h : s.Accounts probe d)
    (hc : s.connections id = some c) (hdev : c.device ≠ some d.deviceId)
    (hconn : t.connections = Function.update s.connections id oc)
    (hlog : t.broadcasts = s.broadcasts)
    (hfirst : t.firstSeen d.deviceId = s.firstSeen d.deviceId)
    (hdel : t.deliveredTo d.key = s.deliveredTo d.key) (hpark : t.parked probe d = s.parked probe d)
    (hdev' : ∀ c', oc = some c' → c'.device ≠ some d.deviceId)
    (htidy : ∀ c', oc = some c' → c'.Tidy probe d s.broadcasts) : t.Accounts probe d := by
  obtain ⟨carried, held, hbal⟩ := h.balanced
  have hshares : carryOf probe d oc = [] ∧ backlogOf probe d oc = [] := by
    cases oc with
    | none => exact ⟨rfl, rfl⟩
    | some c' => exact ⟨carryOf_foreign (hdev' c' rfl), backlogOf_foreign (hdev' c' rfl)⟩
  apply h.of_put hconn hlog htidy
  apply hbal.frame hconn hlog hfirst hdel hpark
  · rw [hshares.1, carry, hc, carryOf_foreign hdev]
  · rw [hshares.2, backlog, hc, backlogOf_foreign hdev]
  · intro c' hc' hclaimed
    exact absurd hclaimed.1 (hdev' c' hc')
  · intro _ c' hc' hmine
    exact absurd hmine (hdev' c' hc')

end LanForwarder

end OzPos

namespace OzPos

variable {probe : String → Option (List String)} {d : LanDevice}

theorem since_append (log : List Line) {line : Line} {first : Nat} (hfirst : first ≤ line.serial) :
    d.since probe (log ++ [line]) first = d.since probe log first ++ d.scope probe [line] := by
  unfold LanDevice.since
  rw [scope_append, List.filter_append]
  congr 1
  rw [List.filter_eq_self]
  intro l hl
  have hmem := List.mem_of_mem_filter hl
  rw [List.mem_singleton] at hmem
  simpa [hmem] using hfirst

variable {log : List Line}

theorem numbered_append (h : Numbered log) (text : String) :
    Numbered (log ++ [⟨log.length, text⟩]) := by
  obtain ⟨hsorted, hlt⟩ := h
  constructor
  · rw [List.pairwise_append]
    refine ⟨hsorted, List.pairwise_singleton _ _, ?_⟩
    intro l hl r hr
    rw [List.mem_singleton] at hr
    rw [hr]
    exact hlt l hl
  · intro line hline
    rw [List.length_append, List.length_singleton]
    rcases List.mem_append.mp hline with hold | hnew
    · have := hlt line hold
      omega
    · rw [List.mem_singleton] at hnew
      rw [hnew]
      exact Nat.lt_succ_self _

theorem since_length (h : Numbered log) : d.since probe log log.length = [] := by
  unfold LanDevice.since
  rw [List.filter_eq_nil_iff]
  intro line hline
  have hlt := h.2 line (List.mem_of_mem_filter hline)
  simpa using hlt

theorem backlogOf_hear {c : Connection} (hroom : c.rx.length < CHANNEL_CAPACITY) (line : Line) :
    backlogOf probe d (some (c.hear line)) =
      if c.Serves d then backlogOf probe d (some c) ++ d.scope probe [line] else [] := by
  rw [Connection.hear_within hroom]
  by_cases hserves : c.Serves d
  · have hserves' : ({ c with rx := c.rx ++ [line] } : Connection).Serves d := hserves
    rw [if_pos hserves, backlogOf_serves hserves, backlogOf_serves hserves', scope_append,
      List.append_assoc]
  · rw [if_neg hserves]
    exact if_neg hserves

theorem claimed_hear {c : Connection} (line : Line) : (c.hear line).Claimed d ↔ c.Claimed d := by
  simp only [Connection.Claimed, Connection.device_hear, Connection.phase_hear]

theorem tidy_hear {c : Connection} (h : c.Tidy probe d log)
    (hroom : c.rx.length < CHANNEL_CAPACITY) (text : String) :
    (c.hear ⟨log.length, text⟩).Tidy probe d (log ++ [⟨log.length, text⟩]) := by
  rw [Connection.hear_within hroom]
  exact
    { mine := h.mine
      keyed := h.keyed
      foreign := h.foreign
      unclaimed := h.unclaimed
      live := h.live
      accepted := by
        rw [List.length_append]
        exact Nat.le_add_right_of_le h.accepted
      greeted := by
        intro hdev hphase
        rw [since_append log h.accepted, ← h.greeted hdev hphase]
        exact scope_append c.rx [_] }

namespace LanForwarder

variable {s : LanForwarder} {carried held : List Line} {id : Nat} {c : Connection} {ok : Bool}

variable {text : String}

theorem holding_broadcast (h : s.Balanced probe d carried held)
    (hroom : ∀ id c, s.connections id = some c → c.rx.length < CHANNEL_CAPACITY)
    (hsafe : d.inScope probe ⟨s.broadcasts.length, text⟩ = true → s.HeardOnce probe d) :
    ∃ held', Sole ((s.broadcast text).backlog probe d) held' ∧
      (held' = held ++ d.scope probe [⟨s.broadcasts.length, text⟩] ∨
        held' = held ∧ s.firstSeen d.deviceId = none) := by
  have hback : ∀ i, (s.broadcast text).backlog probe d i =
      if ∃ c, s.connections i = some c ∧ c.Serves d then
        s.backlog probe d i ++ d.scope probe [⟨s.broadcasts.length, text⟩] else [] := by
    intro i
    cases hi : s.connections i with
    | none => simp [broadcast, backlog, backlogOf, hi]
    | some c =>
      have hhear := @backlogOf_hear probe d c (hroom i c hi) ⟨s.broadcasts.length, text⟩
      simp [broadcast, backlog, hi, hhear]
  have hidle : ∀ i, (¬ ∃ c, s.connections i = some c ∧ c.Serves d) → s.backlog probe d i = [] := by
    intro i hi
    cases hc : s.connections i with
    | none => simp [backlog, hc, backlogOf]
    | some c =>
      have hnot : ¬ c.Serves d := fun hserves => hi ⟨c, hc, hserves⟩
      simp [backlog, hc, backlogOf, hnot]
  by_cases hin : d.inScope probe ⟨s.broadcasts.length, text⟩ = true
  · have hheard := hsafe hin
    by_cases hsome : ∃ j c, s.connections j = some c ∧ c.Serves d
    · obtain ⟨j, c, hj, hserves⟩ := hsome
      have hothers : ∀ i, i ≠ j → ¬ ∃ c, s.connections i = some c ∧ c.Serves d := by
        intro i hi hother
        obtain ⟨e, he, heserves⟩ := hother
        exact hi (hheard.one i j e c he hj heserves hserves)
      have hheld := h.holding.eq_held (fun i hi => hidle i (hothers i hi))
      refine ⟨_, ⟨j, ?_, ?_⟩, .inl rfl⟩
      · rw [hback, if_pos ⟨c, hj, hserves⟩, hheld]
      · intro i hi
        rw [hback, if_neg (hothers i hi)]
    · have hnobody : ∀ i, ¬ ∃ c, s.connections i = some c ∧ c.Serves d :=
        fun i hi => hsome ⟨i, hi⟩
      have hheld := h.holding.eq_held (j := 0) (fun i _ => hidle i (hnobody i))
      have hunseen : s.firstSeen d.deviceId = none := by
        by_contra hseen
        exact hsome (hheard.heard hseen)
      refine ⟨held, ⟨0, ?_, ?_⟩, .inr ⟨rfl, hunseen⟩⟩
      · rw [hback, if_neg (hnobody 0), ← hheld, hidle 0 (hnobody 0)]
      · intro i _
        rw [hback, if_neg (hnobody i)]
  · have hout : d.scope probe [⟨s.broadcasts.length, text⟩] = [] := by
      simp [LanDevice.scope, hin]
    have hsame : (s.broadcast text).backlog probe d = s.backlog probe d := by
      funext i
      rw [hback, hout, List.append_nil]
      by_cases hi : ∃ c, s.connections i = some c ∧ c.Serves d
      · rw [if_pos hi]
      · rw [if_neg hi, hidle i hi]
    refine ⟨held, ?_, .inl ?_⟩
    · rw [hsame]
      exact h.holding
    · rw [hout, List.append_nil]

theorem carry_broadcast : (s.broadcast text).carry probe d = s.carry probe d := by
  funext i
  cases hi : s.connections i with
  | none => simp [broadcast, carry, hi]
  | some c =>
    simp only [broadcast, carry, hi, Option.map_some, carryOf, Connection.device_hear,
      Connection.phase_hear, Connection.pending_hear]

theorem balanced_broadcast (h : s.Balanced probe d carried held)
    (hroom : ∀ id c, s.connections id = some c → c.rx.length < CHANNEL_CAPACITY)
    (hsafe : d.inScope probe ⟨s.broadcasts.length, text⟩ = true → s.HeardOnce probe d) :
    ∃ held', (s.broadcast text).Balanced probe d carried held' := by
  obtain ⟨held', hholding, hheld'⟩ := holding_broadcast h hroom hsafe
  have hchain : s.chain probe d carried (held ++ d.scope probe [⟨s.broadcasts.length, text⟩]) =
      s.chain probe d carried held ++ d.scope probe [⟨s.broadcasts.length, text⟩] := by
    simp [chain]
  refine ⟨held', ?_⟩
  exact
    { carrying := by
        rw [carry_broadcast]
        exact h.carrying
      holding := hholding
      ordered := by
        change (s.chain probe d carried held').Sublist (s.broadcasts ++ [_])
        rcases hheld' with rfl | ⟨rfl, -⟩
        · rw [hchain]
          exact h.ordered.append List.filter_sublist
        · exact h.ordered.trans (List.sublist_append_left _ _)
      complete := by
        intro first hfirst
        obtain ⟨hle, hall⟩ := h.complete first hfirst
        have hlen : first ≤ (s.broadcast text).broadcasts.length := by
          have : (s.broadcast text).broadcasts.length = s.broadcasts.length + 1 := by
            simp [broadcast]
          omega
        refine ⟨hlen, ?_⟩
        change (s.chain probe d carried held').filter _ = d.since probe (s.broadcasts ++ [_]) first
        rcases hheld' with rfl | ⟨-, hnone⟩
        · rw [since_append _ hle, hchain, List.filter_append, hall]
          congr 1
          rw [List.filter_eq_self]
          intro l hl
          have hmem := List.mem_of_mem_filter hl
          rw [List.mem_singleton] at hmem
          simpa [hmem] using hle
        · rw [show s.firstSeen d.deviceId = some first from hfirst] at hnone
          cases hnone
      claimed := by
        intro i c' hc' hclaimed
        cases hi : s.connections i with
        | none => simp [broadcast, hi] at hc'
        | some c =>
          have heq : c.hear ⟨s.broadcasts.length, text⟩ = c' := by simpa [broadcast, hi] using hc'
          rw [← heq] at hclaimed ⊢
          have hcl := (claimed_hear _).mp hclaimed
          by_cases hin : d.inScope probe ⟨s.broadcasts.length, text⟩ = true
          · obtain ⟨hparked, hcarry⟩ := (hsafe hin).claimed i c hi hcl
            have hnil := h.carrying.eq_held (j := 0) (fun i _ => hcarry i)
            exact .inl ⟨hparked, hnil ▸ hcarry 0⟩
          · have hout : d.scope probe [⟨s.broadcasts.length, text⟩] = [] := by
              simp [LanDevice.scope, hin]
            rw [backlogOf_hear (hroom i c hi), if_pos hcl.serves, hout, List.append_nil]
            exact h.claimed i c hi hcl
      unseen := by
        intro hnone
        obtain ⟨hdel, hpark, hcar, hgreet⟩ := h.unseen hnone
        refine ⟨hdel, hpark, hcar, ?_⟩
        intro i c' hc' hdev
        cases hi : s.connections i with
        | none => simp [broadcast, hi] at hc'
        | some c =>
          have heq : c.hear ⟨s.broadcasts.length, text⟩ = c' := by simpa [broadcast, hi] using hc'
          rw [← heq, Connection.device_hear] at hdev
          rw [← heq, Connection.phase_hear]
          exact hgreet i c hi hdev }

theorem accounts_broadcast (h : s.Accounts probe d)
    (hroom : ∀ id c, s.connections id = some c → c.rx.length < CHANNEL_CAPACITY)
    (hsafe : d.inScope probe ⟨s.broadcasts.length, text⟩ = true → s.HeardOnce probe d) :
    (s.broadcast text).Accounts probe d where
  numbered := numbered_append h.numbered text
  tidy := by
    intro i c' hc'
    cases hi : s.connections i with
    | none => simp [broadcast, hi] at hc'
    | some c =>
      have heq : c.hear ⟨s.broadcasts.length, text⟩ = c' := by simpa [broadcast, hi] using hc'
      rw [← heq]
      exact tidy_hear (h.tidy i c hi) (hroom i c hi) text
  balanced := by
    obtain ⟨carried, held, hbal⟩ := h.balanced
    exact ⟨carried, balanced_broadcast hbal hroom hsafe⟩

end LanForwarder

end OzPos
