import OzPos.Lan.DeliveryHolds

namespace OzPos

variable {probe : String → Option (List String)} {d : LanDevice}

section Claims

variable {c : Connection} {key : ReplayKey} {events : List Line} {phase : PeerPhase}

theorem scope_claim : d.scope probe ((c.claim key events phase).pending.map Prod.snd) =
    d.scope probe (c.pending.map Prod.snd) ++ d.scope probe events := by
  unfold Connection.claim
  rw [List.map_append, scope_append, List.map_map]
  congr 2
  exact List.map_id' events

theorem mem_claim {entry : ReplayKey × Line} (h : entry ∈ (c.claim key events phase).pending) :
    entry ∈ c.pending ∨ (entry.1 = key ∧ entry.2 ∈ events) := by
  rcases List.mem_append.mp h with hold | hnew
  · exact .inl hold
  · obtain ⟨line, hline, heq⟩ := List.mem_map.mp hnew
    rw [← heq]
    exact .inr ⟨rfl, hline⟩

theorem Connection.Tidy.claimAddr {log : List Line} (h : c.Tidy probe d log)
    (hbefore : c.phase = .claimAddr) (hphase : phase = .claimDevice ∨ phase = .flushing)
    (hout : c.device = some d.deviceId → d.scope probe events = []) :
    (c.claim (.addr c.addr) events phase).Tidy probe d log where
  mine := h.mine
  keyed := by
    intro hdev entry hentry hin
    rcases mem_claim hentry with hold | hnew
    · exact h.keyed hdev entry hold hin
    · have hmem : entry.2 ∈ d.scope probe events := List.mem_filter.mpr ⟨hnew.2, hin⟩
      rw [hout hdev] at hmem
      cases hmem
  foreign := by
    intro hdev entry hentry
    rcases mem_claim hentry with hold | hnew
    · exact h.foreign hdev entry hold
    · rw [hnew.1]
      simp [LanDevice.key]
  unclaimed := by
    intro hdev _
    rw [scope_claim, hout hdev, List.append_nil]
    exact h.unclaimed hdev (.inr (.inl hbefore))
  live := by
    intro hlive
    change phase = .live at hlive
    rcases hphase with rfl | rfl
    · cases hlive
    · cases hlive
  accepted := h.accepted
  greeted := by
    intro _ hgreeting
    change phase = .greeting at hgreeting
    rcases hphase with rfl | rfl
    · cases hgreeting
    · cases hgreeting

end Claims

namespace LanForwarder

variable {s : LanForwarder} {id : Nat} {c : Connection} {ok : Bool}

theorem accounts_drainAddr (h : s.Accounts probe d) (hc : s.connections id = some c)
    (hphase : c.phase = .claimAddr)
    (hsafe : c.device = some d.deviceId → d.scope probe (s.buffer.held (.addr c.addr)) = []) :
    (s.drainAddr id c).Accounts probe d := by
  rw [drainAddr_eq]
  generalize hnext : (if c.device.isSome then PeerPhase.claimDevice else PeerPhase.flushing) = phase
  have hcases : phase = .claimDevice ∨ phase = .flushing := by
    rw [← hnext]
    split
    · exact .inl rfl
    · exact .inr rfl
  have hpark : d.scope probe ((s.buffer.drain (.addr c.addr)).2.held d.key) = s.parked probe d := by
    rw [OfflineReplayBuffer.held_drain, if_neg]
    · rfl
    · simp [LanDevice.key]
  refine accounts_kept h hc (by simp [hphase]) (by rfl)
    ((h.tidy id c hc).claimAddr hphase hcases hsafe) rfl rfl rfl rfl hpark ?_ ?_
  · intro hdev
    have hserves : c.Serves d := ⟨hdev, by simp [hphase]⟩
    have hserves' : (c.claim (.addr c.addr) (s.buffer.held (.addr c.addr)) phase).Serves d := by
      refine ⟨hdev, ?_⟩
      change phase ≠ _
      rcases hcases with rfl | rfl
      · simp
      · simp
    rw [carryOf_serves hserves, carryOf_serves hserves', backlogOf_serves hserves,
      backlogOf_serves hserves', scope_claim, hsafe hdev, List.append_nil]
    exact ⟨rfl, rfl⟩
  · intro hclaimed
    have hdev : c.device = some d.deviceId := hclaimed.1
    have hlate : phase = .flushing ∨ phase = .live := hclaimed.2
    rw [← hnext] at hlate
    simp [hdev] at hlate

theorem accounts_drainDevice (h : s.Accounts probe d) (hc : s.connections id = some c)
    (hphase : c.phase = .claimDevice)
    (hsafe : c.device = some d.deviceId →
      (s.parked probe d = [] ∨ ∀ j, j ≠ id → s.backlog probe d j = []) ∧
        ((∀ j, s.carry probe d j = []) ∨ (s.parked probe d = [] ∧ d.scope probe c.rx = []))) :
    (s.drainDevice id c).Accounts probe d := by
  rw [drainDevice_eq]
  generalize hnext : c.claim c.replayKey (s.buffer.held c.replayKey) .flushing = c'
  have hdevice : c'.device = c.device := by
    rw [← hnext]
    rfl
  have hflushing : c'.phase = .flushing := by
    rw [← hnext]
    rfl
  have htidy : c'.Tidy probe d s.broadcasts := by
    rw [← hnext]
    refine (h.tidy id c hc).moved rfl rfl ?_ (.inl rfl)
    intro entry hentry
    rcases mem_claim hentry with hold | hnew
    · exact .inl hold
    · exact .inr hnew.1
  by_cases hdev : c.device = some d.deviceId
  · obtain ⟨carried, held, hbal⟩ := h.balanced
    obtain ⟨hothers, hcarries⟩ := hsafe hdev
    have hkey : c.replayKey = d.key := Connection.replayKey_of_device hdev
    have hserves : c.Serves d := ⟨hdev, by simp [hphase]⟩
    have hserves' : c'.Serves d := ⟨hdevice.trans hdev, by simp [hflushing]⟩
    have hempty := (h.tidy id c hc).unclaimed hdev (.inr (.inr hphase))
    have hbefore : s.backlog probe d id = d.scope probe c.rx := by
      rw [backlog, hc, backlogOf_serves hserves, hempty]
      rfl
    have hafter : backlogOf probe d (some c') = s.parked probe d ++ d.scope probe c.rx := by
      rw [backlogOf_serves hserves', ← hnext, scope_claim, hempty, hkey]
      rfl
    have hcarry : s.carry probe d id = carryOf probe d (some c') := by
      rw [carry, hc, carryOf_serves hserves, carryOf_serves hserves']
    have hpark : d.scope probe ((s.buffer.drain c.replayKey).2.held d.key) = [] := by
      rw [OfflineReplayBuffer.held_drain, if_pos hkey.symm]
      rfl
    have hcarried : carried = [] ∨ (s.parked probe d = [] ∧ d.scope probe c.rx = []) := by
      rcases hcarries with hnil | hnil
      · exact .inl ((hbal.carrying.eq_held (j := 0) (fun i _ => hnil i)) ▸ hnil 0)
      · exact .inr hnil
    have hheld : ∃ held', Sole (Function.update (s.backlog probe d) id
          (backlogOf probe d (some c'))) held' ∧
        s.parked probe d ++ carried ++ held = carried ++ held' := by
      rw [hafter]
      by_cases hnil : s.parked probe d = []
      · rw [hnil]
        exact ⟨held, hbal.holding.update_same hbefore, rfl⟩
      · have halone := hothers.resolve_left hnil
        have hcar : carried = [] := hcarried.resolve_right (fun hpair => hnil hpair.1)
        refine ⟨_, Sole.update halone _, ?_⟩
        rw [hcar, ← hbal.holding.eq_held halone, hbefore]
        simp
    obtain ⟨held', hsole, hchain⟩ := hheld
    generalize hstate : (s.put id (some c')).withBuffer (s.buffer.drain c.replayKey).2 = t
    have hconn : t.connections = Function.update s.connections id (some c') := by
      rw [← hstate]
      rfl
    have hlog : t.broadcasts = s.broadcasts := by
      rw [← hstate]
      rfl
    have hdel : t.deliveredTo d.key = s.deliveredTo d.key := by
      rw [← hstate]
      rfl
    have hparked : t.parked probe d = [] := by
      rw [← hstate]
      exact hpark
    have hmoved : s.chain probe d carried held = t.chain probe d carried held' ++ [] := by
      unfold chain
      rw [hdel, hparked, List.append_nil, List.append_nil, List.append_assoc, List.append_assoc,
        List.append_assoc, ← hchain, List.append_assoc]
    have hclaimed : ∀ i e, t.connections i = some e → e.Claimed d →
        (t.parked probe d = [] ∧ carried = []) ∨ backlogOf probe d (some e) = [] := by
      refine forall_update hconn ?_ ?_
      · intro e he _
        cases he
        rcases hcarried with hcar | hnil
        · exact .inl ⟨hparked, hcar⟩
        · rw [hafter, hnil.1, hnil.2]
          exact .inr rfl
      · intro i _ e he hclaimed
        exact (hbal.claimed i e he hclaimed).imp_left (fun hclear => ⟨hparked, hclear.2⟩)
    apply h.of_put hconn hlog (by simpa using htidy)
    · refine hbal.put hconn hlog (by rw [← hstate]; rfl) (hbal.carrying.update_same hcarry) hsole
        hmoved (by simp) hclaimed ?_
      intro hnone
      exact absurd hnone (hbal.seen hc hdev (by simp [hphase]))
  · have hother : ¬ d.key = c.replayKey := fun heq => Connection.replayKey_ne hdev heq.symm
    have hpark : d.scope probe ((s.buffer.drain c.replayKey).2.held d.key) = s.parked probe d := by
      rw [OfflineReplayBuffer.held_drain, if_neg hother]
      rfl
    exact h.foreign hc hdev rfl rfl rfl rfl hpark (by simpa using hdevice ▸ hdev)
      (by simpa using htidy)

theorem accounts_same {c' : Connection} (h : s.Accounts probe d)
    (hc : s.connections id = some c) (hphase : c.phase = .flushing ∨ c.phase = .live)
    (hdevice : c'.device = c.device) (hphase' : c'.phase = .flushing ∨ c'.phase = .live)
    (htidy : c'.Tidy probe d s.broadcasts)
    (hback : c.device = some d.deviceId →
      d.scope probe (c'.pending.map Prod.snd) ++ d.scope probe c'.rx =
        d.scope probe (c.pending.map Prod.snd) ++ d.scope probe c.rx) :
    (s.put id (some c')).Accounts probe d := by
  have hgreeted : c.phase ≠ .greeting := by
    rcases hphase with h | h
    · simp [h]
    · simp [h]
  refine accounts_kept (t := s.put id (some c')) h hc hgreeted hdevice htidy rfl rfl rfl rfl rfl
    ?_ ?_
  · intro hdev
    have hclaimed : c.Claimed d := ⟨hdev, hphase⟩
    have hclaimed' : c'.Claimed d := ⟨hdevice.trans hdev, hphase'⟩
    rw [carryOf_serves hclaimed.serves, carryOf_serves hclaimed'.serves,
      backlogOf_serves hclaimed.serves, backlogOf_serves hclaimed'.serves]
    exact ⟨rfl, hback hdev⟩
  · intro hclaimed
    exact ⟨hdevice.symm.trans hclaimed.1, hphase⟩

theorem accounts_write {c' failed : Connection} {line : Line} (lost : List Line)
    (h : s.Accounts probe d) (hc : s.connections id = some c)
    (hphase : c.phase = .flushing ∨ c.phase = .live)
    (hdevice : c'.device = c.device) (hphase' : c'.phase = c.phase)
    (htidy : c'.Tidy probe d s.broadcasts)
    (hdevice' : failed.device = c.device) (hfailed : failed.phase = .rebuffering)
    (htidy' : failed.Tidy probe d s.broadcasts)
    (hback : d.scope probe (c.pending.map Prod.snd) ++ d.scope probe c.rx = d.scope probe [line] ++
      (d.scope probe (c'.pending.map Prod.snd) ++ d.scope probe c'.rx))
    (hlost : d.scope probe (c.pending.map Prod.snd) ++ d.scope probe c.rx =
      d.scope probe (failed.pending.map Prod.snd) ++ d.scope probe lost)
    (hsafe : ok = false → c.device = some d.deviceId → d.inScope probe line = true →
      s.NoneDue probe d lost) :
    (s.write probe id c ok line c' failed).Accounts probe d := by
  have hwants : c.device = some d.deviceId →
      shouldDeliver probe c.subscription line.text = d.inScope probe line := by
    intro hdev
    rw [(h.tidy id c hc).mine hdev]
    rfl
  have hserved : c.device = some d.deviceId → backlogOf probe d (some c) =
      d.scope probe [line] ++ backlogOf probe d (some c') := by
    intro hdev
    have hclaimed : c.Claimed d := ⟨hdev, hphase⟩
    have hclaimed' : c'.Claimed d := ⟨hdevice.trans hdev, hphase' ▸ hphase⟩
    rw [backlogOf_serves hclaimed.serves, backlogOf_serves hclaimed'.serves]
    exact hback
  unfold write
  by_cases hdeliver : shouldDeliver probe c.subscription line.text = true
  · have hfirst : c.device = some d.deviceId →
        backlogOf probe d (some c) = line :: backlogOf probe d (some c') := by
      intro hdev
      rw [hserved hdev, scope_cons, if_pos (hwants hdev ▸ hdeliver)]
      rfl
    rw [hdeliver]
    cases ok with
    | true => exact accounts_delivers h hc hphase hdevice hphase' htidy hfirst
    | false =>
      refine accounts_fails h hc hphase hdevice' hfailed htidy'
        (fun hdev => ⟨?_, ?_, hsafe rfl hdev (hwants hdev ▸ hdeliver)⟩)
      · simp [hfirst hdev]
      · have hclaimed : c.Claimed d := ⟨hdev, hphase⟩
        rw [backlogOf_serves hclaimed.serves, hlost,
          carryOf_rebuffering (hdevice'.trans hdev) hfailed]
  · rw [Bool.eq_false_of_not_eq_true hdeliver]
    refine accounts_same h hc hphase hdevice (hphase' ▸ hphase) htidy ?_
    intro hdev
    have hout : ¬ d.inScope probe line = true := hwants hdev ▸ hdeliver
    rw [hback, scope_cons, if_neg hout]
    rfl

theorem accounts_flush (h : s.Accounts probe d) (hc : s.connections id = some c)
    (hphase : c.phase = .flushing)
    (hsafe : ok = false → c.device = some d.deviceId → ∀ key event pending,
      c.pending = (key, event) :: pending → d.inScope probe event = true →
        s.NoneDue probe d c.rx) :
    (s.flush probe id c ok).Accounts probe d := by
  have htidy := h.tidy id c hc
  cases hpending : c.pending with
  | nil =>
    rw [flush_nil hpending]
    have hmoved : ({ c with phase := .live } : Connection).Tidy probe d s.broadcasts :=
      htidy.moved rfl rfl (fun entry hentry => .inl hentry) (.inr (.inr ⟨rfl, hpending⟩))
    exact accounts_same h hc (.inl hphase) rfl (.inr rfl) hmoved (fun _ => rfl)
  | cons entry pending =>
    obtain ⟨key, event⟩ := entry
    have hmoved : ({ c with pending := pending } : Connection).Tidy probe d s.broadcasts := by
      refine htidy.moved rfl rfl ?_ (.inl hphase)
      intro entry hentry
      rw [hpending]
      exact .inl (List.mem_cons_of_mem _ hentry)
    have hmoved' : ({ c with phase := .rebuffering } : Connection).Tidy probe d s.broadcasts :=
      htidy.moved rfl rfl (fun entry hentry => .inl hentry) (.inr (.inl rfl))
    rw [flush_cons hpending]
    refine accounts_write c.rx h hc (.inl hphase) rfl rfl hmoved rfl rfl hmoved' ?_ rfl
      (fun hok hdev => hsafe hok hdev key event pending hpending)
    rw [hpending, ← List.append_assoc]
    exact congrArg (· ++ d.scope probe c.rx) (scope_append [event] (pending.map Prod.snd))

theorem accounts_receive (h : s.Accounts probe d) (hc : s.connections id = some c)
    (hphase : c.phase = .live)
    (hsafe : ok = false → c.device = some d.deviceId → ∀ msg rx,
      c.rx = msg :: rx → d.inScope probe msg = true → s.NoneDue probe d rx) :
    (s.receive probe id c ok).Accounts probe d := by
  have htidy := h.tidy id c hc
  have hpending := htidy.live hphase
  cases hrx : c.rx with
  | nil =>
    rw [receive_nil hrx]
    exact h
  | cons msg rx =>
    have hmoved : ({ c with rx := rx } : Connection).Tidy probe d s.broadcasts :=
      htidy.moved rfl rfl (fun entry hentry => .inl hentry) (.inr (.inr ⟨hphase, hpending⟩))
    have hmoved' : ({ c with
        rx := rx, pending := [(c.replayKey, msg)], phase := .rebuffering } : Connection).Tidy
          probe d s.broadcasts := by
      refine htidy.moved rfl rfl ?_ (.inr (.inl rfl))
      intro entry hentry
      rw [List.mem_singleton.mp hentry]
      exact .inr rfl
    have hscope : d.scope probe c.rx = d.scope probe [msg] ++ d.scope probe rx := by
      rw [← scope_append, hrx]
      rfl
    rw [receive_cons hrx]
    refine accounts_write rx h hc (.inr hphase) rfl rfl hmoved rfl rfl hmoved' ?_ ?_
      (fun hok hdev => hsafe hok hdev msg rx hrx)
    · rw [hscope, hpending]
      rfl
    · rw [hscope, hpending]
      rfl

theorem accounts_rebuffer (h : s.Accounts probe d) (hc : s.connections id = some c)
    (hphase : c.phase = .rebuffering)
    (hroom : ∀ key event pending, c.pending = (key, event) :: pending → s.buffer.Admits key) :
    (s.rebuffer id c).Accounts probe d := by
  have htidy := h.tidy id c hc
  cases hpending : c.pending with
  | nil =>
    rw [rebuffer_nil hpending]
    refine accounts_closed h hc (fun hdev => ⟨?_, backlogOf_rebuffering hphase⟩)
    rw [carryOf_rebuffering hdev hphase, hpending]
    rfl
  | cons entry pending =>
    obtain ⟨key, event⟩ := entry
    rw [rebuffer_cons hpending]
    have hheld := OfflineReplayBuffer.held_push (hroom key event pending hpending) c.addr event d.key
    have hmoved : ({ c with pending := pending } : Connection).Tidy probe d s.broadcasts := by
      refine htidy.moved rfl rfl ?_ (.inr (.inl hphase))
      intro entry hentry
      rw [hpending]
      exact .inl (List.mem_cons_of_mem _ hentry)
    have hmem : (key, event) ∈ c.pending := by
      rw [hpending]
      exact List.mem_cons_self
    generalize hstate : (s.put id (some { c with pending := pending })).withBuffer
      (s.buffer.push key c.addr event) = t
    have hconn : t.connections =
        Function.update s.connections id (some { c with pending := pending }) := by
      rw [← hstate]
      rfl
    have hlog : t.broadcasts = s.broadcasts := by
      rw [← hstate]
      rfl
    have hfirst : t.firstSeen = s.firstSeen := by
      rw [← hstate]
      rfl
    have hdel : t.deliveredTo d.key = s.deliveredTo d.key := by
      rw [← hstate]
      rfl
    have hparked : t.parked probe d = d.scope probe
        (if d.key = key then s.buffer.held key ++ [event] else s.buffer.held d.key) := by
      rw [← hstate, ← hheld]
      rfl
    by_cases hdue : c.device = some d.deviceId ∧ d.inScope probe event = true
    · obtain ⟨hdev, hin⟩ := hdue
      have hkey : d.key = key := (htidy.keyed hdev _ hmem hin).symm
      obtain ⟨carried, held, hbal⟩ := h.balanced
      have hcarry : s.carry probe d id = event :: d.scope probe (pending.map Prod.snd) := by
        rw [carry, hc, carryOf_rebuffering hdev hphase, hpending]
        change d.scope probe (event :: pending.map Prod.snd) = _
        rw [scope_cons, if_pos hin]
      have hcarry' : carryOf probe d (some { c with pending := pending }) =
          d.scope probe (pending.map Prod.snd) := carryOf_rebuffering hdev hphase
      have hne : s.carry probe d id ≠ [] := by
        rw [hcarry]
        simp
      have hcarried : carried = event :: d.scope probe (pending.map Prod.snd) := by
        rw [← hbal.carrying.eq_of_ne_nil hne, hcarry]
      have hpark : t.parked probe d = s.parked probe d ++ [event] := by
        rw [hparked, if_pos hkey, scope_append, scope_cons, if_pos hin, ← hkey]
        rfl
      have hback : s.backlog probe d id = backlogOf probe d (some { c with pending := pending }) := by
        have hback' : backlogOf probe d (some { c with pending := pending }) = [] :=
          backlogOf_rebuffering hphase
        rw [backlog, hc, backlogOf_rebuffering hphase, hback']
      have hmoves : s.chain probe d carried held =
          t.chain probe d (carryOf probe d (some { c with pending := pending })) held ++ [] := by
        unfold chain
        rw [hdel, hpark, hcarried, hcarry']
        simp
      have hclaimed : ∀ i e, t.connections i = some e → e.Claimed d →
          (t.parked probe d = [] ∧ carryOf probe d (some { c with pending := pending }) = []) ∨
            backlogOf probe d (some e) = [] := by
        refine forall_update hconn ?_ ?_
        · intro e he _
          cases he
          exact .inr (backlogOf_rebuffering hphase)
        · intro i _ e he hclaimed
          rcases hbal.claimed i e he hclaimed with hclear | hquiet
          · rw [hcarried] at hclear
            cases hclear.2
          · exact .inr hquiet
      apply h.of_put hconn hlog (by simpa using hmoved)
      · refine hbal.put hconn hlog (by rw [hfirst])
          (Sole.update (hbal.carrying.others (.inl hne)) _) (hbal.holding.update_same hback) hmoves
          (by simp) hclaimed ?_
        intro hnone
        exact absurd hnone (hbal.seen hc hdev (by simp [hphase]))
    · have hpark : t.parked probe d = s.parked probe d := by
        rw [hparked]
        by_cases hkey : d.key = key
        · have hdev : c.device = some d.deviceId := by
            by_contra hdev
            exact htidy.foreign hdev _ hmem hkey.symm
          have hout : ¬ d.inScope probe event = true := fun hin => hdue ⟨hdev, hin⟩
          rw [if_pos hkey, scope_append, scope_cons, if_neg hout, ← hkey]
          exact List.append_nil _
        · rw [if_neg hkey]
          rfl
      refine accounts_kept h hc (by simp [hphase]) (by rfl) hmoved hconn hlog hfirst hdel hpark
        (fun hdev => ⟨?_, ?_⟩) (fun hclaimed => hclaimed)
      · have hout : ¬ d.inScope probe event = true := fun hin => hdue ⟨hdev, hin⟩
        have hcarry' : carryOf probe d (some { c with pending := pending }) =
            d.scope probe (pending.map Prod.snd) := carryOf_rebuffering hdev hphase
        rw [hcarry', carryOf_rebuffering hdev hphase, hpending]
        change _ = d.scope probe (event :: pending.map Prod.snd)
        rw [scope_cons, if_neg hout]
      · rw [backlogOf_rebuffering hphase]
        exact backlogOf_rebuffering hphase

theorem accounts_heartbeat (h : s.Accounts probe d) (hc : s.connections id = some c)
    (hphase : c.phase = .live) : (s.heartbeat id c ok).Accounts probe d := by
  unfold heartbeat
  split
  · exact h
  · rename_i hidle
    have hrx : c.rx = [] := by
      by_contra hne
      exact hidle (by simp [hne])
    refine accounts_closed h hc (fun hdev => ?_)
    have hserves : c.Serves d := ⟨hdev, by simp [hphase]⟩
    rw [carryOf_serves hserves, backlogOf_serves hserves, hrx, (h.tidy id c hc).live hphase]
    exact ⟨rfl, rfl⟩

theorem accounts_new : LanForwarder.new.Accounts probe d where
  numbered := ⟨List.Pairwise.nil, by simp [new]⟩
  tidy := by simp [new]
  balanced := ⟨[], [],
    { carrying := Sole.of_nil 0 (fun _ => rfl)
      holding := Sole.of_nil 0 (fun _ => rfl)
      ordered := by
        unfold chain
        exact List.Sublist.slnil
      complete := by simp [new]
      claimed := by simp [new]
      unseen := fun _ => ⟨rfl, rfl, rfl, by simp [new]⟩ }⟩

theorem accounts_step (e : LanEvent) (h : s.Accounts probe d) (hlimits : s.WithinLimits d e)
    (hsafe : s.Safe probe d e) : (s.step probe e).Accounts probe d := by
  cases e with
  | broadcast text => exact accounts_broadcast h hlimits hsafe
  | accept id addr stationIds deviceId =>
    change (if (s.connections id).isSome = true then s
      else s.accept id addr stationIds deviceId).Accounts probe d
    by_cases htaken : (s.connections id).isSome = true
    · rw [if_pos htaken]
      exact h
    · rw [if_neg htaken]
      exact accounts_accept h (by simpa using htaken) addr hlimits
  | greet id ok =>
    refine step_atPhase h (fun c hc hphase => ?_)
    cases ok with
    | true => exact accounts_greet_true h hc hphase
    | false => exact accounts_greet_false h hc hphase (hsafe c hc hphase)
  | drainAddr id =>
    exact step_atPhase h (fun c hc hphase => accounts_drainAddr h hc hphase (hsafe c hc hphase))
  | drainDevice id =>
    exact step_atPhase h (fun c hc hphase => accounts_drainDevice h hc hphase (hsafe c hc hphase))
  | flush id ok =>
    refine step_atPhase h (fun c hc hphase => accounts_flush h hc hphase ?_)
    rintro rfl hdev key event pending
    exact hsafe c key event pending hc hphase hdev
  | rebuffer id =>
    refine step_atPhase h (fun c hc hphase => accounts_rebuffer h hc hphase ?_)
    intro key event pending
    exact hlimits c key event pending hc hphase
  | receive id ok =>
    refine step_atPhase h (fun c hc hphase => accounts_receive h hc hphase ?_)
    rintro rfl hdev msg rx
    exact hsafe c msg rx hc hphase hdev
  | heartbeat id ok =>
    exact step_atPhase h (fun c hc hphase => accounts_heartbeat h hc hphase)

theorem Accounts.deliveredOnce (h : s.Accounts probe d) : s.DeliveredOnce probe d := by
  obtain ⟨carried, held, hbal⟩ := h.balanced
  refine ⟨?_, ?_⟩
  · have hsub : (s.deliveredTo d.key).Sublist s.broadcasts := by
      refine List.Sublist.trans ?_ hbal.ordered
      unfold chain
      rw [List.append_assoc, List.append_assoc]
      exact List.sublist_append_left _ _
    exact h.numbered.1.sublist hsub
  · intro _ hdrained first hfirst
    obtain ⟨hqueue, hconns⟩ := hdrained
    have hcarries : ∀ id, s.carry probe d id = [] := by
      intro id
      unfold carry carryOf
      split
      · rename_i c hc
        split
        · rename_i hfailed
          rw [(hconns id c hc hfailed.1).1]
          rfl
        · rfl
      · rfl
    have hbacklogs : ∀ id, s.backlog probe d id = [] := by
      intro id
      unfold backlog backlogOf
      split
      · rename_i c hc
        split
        · rename_i hserves
          obtain ⟨hpending, hrx⟩ := hconns id c hc hserves.1
          rw [hpending, hrx]
          rfl
        · rfl
      · rfl
    have hcarried : carried = [] :=
      (hbal.carrying.eq_held (j := 0) (fun i _ => hcarries i)).symm.trans (hcarries 0)
    have hheld : held = [] :=
      (hbal.holding.eq_held (j := 0) (fun i _ => hbacklogs i)).symm.trans (hbacklogs 0)
    have hparked : s.parked probe d = [] := by
      unfold parked
      rw [hqueue]
      rfl
    have hall := (hbal.complete first hfirst).2
    unfold chain at hall
    rw [hparked, hcarried, hheld, List.append_nil, List.append_nil, List.append_nil] at hall
    exact hall

end LanForwarder

/-- Where no step of a run finds a line to lose, double or overtake, the device is brought every line
of its scope once and in order, in every state of the run. -/
theorem deliveredOnce_run (probe : String → Option (List String)) (d : LanDevice)
    (events : List LanEvent)
    (hlimits : (LanForwarder.machine probe).Along (LanForwarder.WithinLimits d) .new events)
    (hsafe : (LanForwarder.machine probe).Along (LanForwarder.Safe probe d) .new events) :
    ∀ l r, events = l ++ r →
      ((LanForwarder.machine probe).run .new l).DeliveredOnce probe d := by
  intro l r hsplit
  rw [hsplit, Machine.along_append] at hlimits hsafe
  have hboth : (LanForwarder.machine probe).Along
      (fun s e => s.WithinLimits d e ∧ s.Safe probe d e) .new l := by
    rw [Machine.along_iff_splits]
    intro before e after hl
    exact ⟨(Machine.along_iff_splits _ _ _ _).mp hlimits.1 before e after hl,
      (Machine.along_iff_splits _ _ _ _).mp hsafe.1 before e after hl⟩
  have hstep : ∀ (s : LanForwarder) (e : LanEvent), s.Accounts probe d →
      s.WithinLimits d e ∧ s.Safe probe d e →
        ((LanForwarder.machine probe).step s e).1.Accounts probe d :=
    fun _ e h hok => LanForwarder.accounts_step e h hok.1 hok.2
  exact ((LanForwarder.machine probe).run_invariant hstep .new l LanForwarder.accounts_new
    hboth).deliveredOnce

end OzPos
