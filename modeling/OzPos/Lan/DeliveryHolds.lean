import OzPos.Lan.DeliveredOnce

namespace OzPos

variable {probe : String → Option (List String)} {d : LanDevice}

theorem Connection.Tidy.moved {log : List Line} {c c' : Connection} (h : c.Tidy probe d log)
    (hsub : c'.subscription = c.subscription) (haccepted : c'.acceptedAt = c.acceptedAt)
    (hpending : ∀ entry ∈ c'.pending, entry ∈ c.pending ∨ entry.1 = c.replayKey)
    (hphase : c'.phase = .flushing ∨ c'.phase = .rebuffering ∨
      (c'.phase = .live ∧ c'.pending = [])) : c'.Tidy probe d log := by
  have hdevice : c'.device = c.device := by rw [device, device, hsub]
  have hlate : c'.phase ≠ .greeting ∧ c'.phase ≠ .claimAddr ∧ c'.phase ≠ .claimDevice := by
    rcases hphase with h | h | h
    · simp [h]
    · simp [h]
    · simp [h.1]
  exact
    { mine := by
        rw [hdevice, hsub]
        exact h.mine
      keyed := by
        intro hdev entry hentry hin
        rw [hdevice] at hdev
        rcases hpending entry hentry with hold | hkey
        · exact h.keyed hdev entry hold hin
        · rw [hkey, replayKey_of_device hdev]
          rfl
      foreign := by
        intro hdev entry hentry
        rw [hdevice] at hdev
        rcases hpending entry hentry with hold | hkey
        · exact h.foreign hdev entry hold
        · rw [hkey]
          exact replayKey_ne hdev
      unclaimed := by
        intro _ hearly
        rcases hearly with h | h | h
        · exact absurd h hlate.1
        · exact absurd h hlate.2.1
        · exact absurd h hlate.2.2
      live := by
        intro hlive
        rcases hphase with h | h | h
        · rw [h] at hlive
          cases hlive
        · rw [h] at hlive
          cases hlive
        · exact h.2
      accepted := by
        rw [haccepted]
        exact h.accepted
      greeted := fun _ hgreeting => absurd hgreeting hlate.1 }

namespace LanForwarder

variable {s t : LanForwarder} {carried held : List Line} {id : Nat} {c : Connection} {ok : Bool}

theorem accounts_accept (h : s.Accounts probe d) (hfree : s.connections id = none) (addr : String)
    {stationIds : List String} {deviceId : Option String}
    (hscope : deviceId = some d.deviceId → stationIds = d.stationIds) :
    (s.accept id addr stationIds deviceId).Accounts probe d := by
  obtain ⟨carried, held, hbal⟩ := h.balanced
  have hdevice : (subscriptionFromWire stationIds deviceId).bind PeerSubscription.deviceId =
      deviceId := by
    unfold subscriptionFromWire
    cases deviceId with
    | none =>
      cases stationIds with
      | nil => rfl
      | cons station rest => rfl
    | some deviceId => simp
  apply h.of_put (t := s.accept id addr stationIds deviceId) rfl rfl
  · intro c hc
    cases hc
    exact
      { mine := by
          intro hdev
          have hid : deviceId = some d.deviceId := hdevice.symm.trans hdev
          simp [subscriptionFromWire, hid, hscope hid, LanDevice.subscription]
        keyed := by simp
        foreign := by simp
        unclaimed := fun _ _ => rfl
        live := fun _ => rfl
        accepted := Nat.le_refl _
        greeted := fun _ _ => (since_length h.numbered).symm }
  · apply hbal.frame (t := s.accept id addr stationIds deviceId) rfl rfl rfl rfl rfl
    · simp [carry, carryOf, hfree]
    · simp [backlog, backlogOf, hfree, LanDevice.scope]
    · intro c hc hclaimed
      cases hc
      rcases hclaimed.2 with h | h
      · cases h
      · cases h
    · intro _ c hc _
      cases hc
      rfl

theorem complete_of_unseen (h : s.Accounts probe d) (hbal : s.Balanced probe d carried held)
    (hnone : s.firstSeen d.deviceId = none) (hc : s.connections id = some c)
    (hdev : c.device = some d.deviceId) (hphase : c.phase = .greeting) :
    (s.chain probe d carried held).filter (fun line => decide (c.acceptedAt ≤ line.serial)) =
      d.since probe s.broadcasts c.acceptedAt := by
  obtain ⟨hdel, hpark, hcar, hgreeting⟩ := hbal.unseen hnone
  have hserves : c.Serves d := ⟨hdev, by simp [hphase]⟩
  have hback : s.backlog probe d id = d.since probe s.broadcasts c.acceptedAt := by
    rw [backlog, hc, backlogOf_serves hserves,
      (h.tidy id c hc).unclaimed hdev (.inl hphase), (h.tidy id c hc).greeted hdev hphase]
    rfl
  have hchain : s.chain probe d carried held = held := by
    simp [chain, hdel, hpark, hcar]
  rw [hchain]
  by_cases hnil : s.backlog probe d id = []
  · rw [← hback, hnil, List.filter_eq_nil_iff]
    intro line hline hlt
    have hmem : line ∈ d.since probe s.broadcasts c.acceptedAt := by
      have hlog := hbal.ordered.subset (hchain ▸ hline)
      have hin : d.inScope probe line = true := by
        obtain ⟨i, hi, -⟩ := hbal.holding
        rw [← hi] at hline
        unfold backlog backlogOf at hline
        split at hline
        · split at hline
          · rcases List.mem_append.mp hline with hp | hr
            · exact (List.mem_filter.mp hp).2
            · exact (List.mem_filter.mp hr).2
          · simp at hline
        · simp at hline
      exact List.mem_filter.mpr ⟨List.mem_filter.mpr ⟨hlog, hin⟩, hlt⟩
    rw [← hback, hnil] at hmem
    simp at hmem
  · rw [← hbal.holding.eq_of_ne_nil hnil, hback]
    simp [LanDevice.since]

theorem tidy_greeted {log : List Line} (h : c.Tidy probe d log) (hphase : c.phase = .greeting) :
    ({ c with phase := .claimAddr } : Connection).Tidy probe d log where
  mine := h.mine
  keyed := h.keyed
  foreign := h.foreign
  unclaimed := fun hdev _ => h.unclaimed hdev (.inl hphase)
  live := by simp
  accepted := h.accepted
  greeted := by simp

theorem accounts_greet_true (h : s.Accounts probe d) (hc : s.connections id = some c)
    (hphase : c.phase = .greeting) : (s.greet id c true).Accounts probe d := by
  have htidy : ∀ c', some ({ c with phase := .claimAddr } : Connection) = some c' →
      c'.Tidy probe d s.broadcasts := by
    intro c' hc'
    cases hc'
    exact tidy_greeted (h.tidy id c hc) hphase
  by_cases hdev : c.device = some d.deviceId
  · obtain ⟨carried, held, hbal⟩ := h.balanced
    have hserves : c.Serves d := ⟨hdev, by simp [hphase]⟩
    have hserves' : ({ c with phase := .claimAddr } : Connection).Serves d := ⟨hdev, by simp⟩
    have hput : (s.greet id c true).connections =
        Function.update s.connections id (some { c with phase := .claimAddr }) := rfl
    have hcarry : s.carry probe d = (s.greet id c true).carry probe d := by
      rw [carry_update hput, carryOf_serves hserves', Function.update_eq_self_iff.mpr]
      rw [carry, hc, carryOf_serves hserves]
    have hback : s.backlog probe d = (s.greet id c true).backlog probe d := by
      rw [backlog_update hput, backlogOf_serves hserves', Function.update_eq_self_iff.mpr]
      rw [backlog, hc, backlogOf_serves hserves]
    apply h.of_put (t := s.greet id c true) rfl rfl htidy
    exact
      { carrying := hcarry ▸ hbal.carrying
        holding := hback ▸ hbal.holding
        ordered := hbal.ordered
        complete := by
          intro first hfirst
          change s.seen c d.deviceId = some first at hfirst
          unfold seen at hfirst
          cases hold : s.firstSeen d.deviceId with
          | some earlier =>
            rw [hold] at hfirst
            cases hfirst
            exact hbal.complete first hold
          | none =>
            rw [hold] at hfirst
            simp only [hdev, if_true, Option.some.injEq] at hfirst
            have hdone := complete_of_unseen h hbal hold hc hdev hphase
            rw [← hfirst]
            exact ⟨(h.tidy id c hc).accepted, hdone⟩
        claimed := by
          refine forall_update hput ?_ (fun i _ => hbal.claimed i)
          intro e he hclaimed
          cases he
          rcases hclaimed.2 with h | h
          · cases h
          · cases h
        unseen := by
          intro hnone
          change s.seen c d.deviceId = none at hnone
          unfold seen at hnone
          cases hold : s.firstSeen d.deviceId with
          | some earlier =>
            rw [hold] at hnone
            cases hnone
          | none =>
            rw [hold] at hnone
            simp [hdev] at hnone }
  · have hfirst : (s.greet id c true).firstSeen d.deviceId = s.firstSeen d.deviceId := by
      change s.seen c d.deviceId = _
      unfold seen
      cases hold : s.firstSeen d.deviceId with
      | some earlier => rfl
      | none => simp [hdev]
    apply h.foreign (t := s.greet id c true) hc hdev rfl rfl hfirst rfl rfl _ htidy
    intro c' hc'
    cases hc'
    exact hdev

theorem accounts_greet_false (h : s.Accounts probe d) (hc : s.connections id = some c)
    (hphase : c.phase = .greeting) (hlost : c.device = some d.deviceId → s.NoneDue probe d c.rx) :
    (s.greet id c false).Accounts probe d := by
  by_cases hdev : c.device = some d.deviceId
  · obtain ⟨carried, held, hbal⟩ := h.balanced
    have hserves : c.Serves d := ⟨hdev, by simp [hphase]⟩
    have hback : s.backlog probe d id = d.scope probe c.rx := by
      rw [backlog, hc, backlogOf_serves hserves, (h.tidy id c hc).unclaimed hdev (.inl hphase)]
      rfl
    have hcarry : carryOf probe d none = s.carry probe d id := by
      rw [carry, hc, carryOf_serves hserves]
      rfl
    by_cases hnil : s.backlog probe d id = []
    · apply h.of_put (t := s.greet id c false) rfl rfl (by simp)
      apply hbal.frame (t := s.greet id c false) rfl rfl rfl rfl rfl hcarry hnil.symm
      · simp
      · simp
    · have hheld := hbal.holding.eq_of_ne_nil hnil
      apply h.of_put (t := s.greet id c false) rfl rfl (by simp)
      apply hbal.put (t := s.greet id c false) rfl rfl rfl
        (hbal.carrying.update_same hcarry.symm)
        (Sole.update (hbal.holding.others (.inl hnil)) [])
      · change s.chain probe d carried held = s.chain probe d carried [] ++ d.scope probe c.rx
        rw [← hheld, hback]
        simp [chain]
      · exact hlost hdev
      · exact forall_update (t := s.greet id c false) rfl (by simp) (fun i _ => hbal.claimed i)
      · intro _
        exact ⟨rfl, rfl, rfl, by simp⟩
  · exact h.foreign (t := s.greet id c false) hc hdev rfl rfl rfl rfl rfl (by simp) (by simp)

theorem accounts_kept {c' : Connection} (h : s.Accounts probe d) (hc : s.connections id = some c)
    (hphase : c.phase ≠ .greeting) (hdevice : c'.device = c.device)
    (htidy : c'.Tidy probe d s.broadcasts)
    (hconn : t.connections = Function.update s.connections id (some c'))
    (hlog : t.broadcasts = s.broadcasts) (hfirst : t.firstSeen = s.firstSeen)
    (hdel : t.deliveredTo d.key = s.deliveredTo d.key) (hpark : t.parked probe d = s.parked probe d)
    (hshares : c.device = some d.deviceId →
      carryOf probe d (some c') = carryOf probe d (some c) ∧
        backlogOf probe d (some c') = backlogOf probe d (some c))
    (hclaim : c'.Claimed d → c.Claimed d) : t.Accounts probe d := by
  by_cases hdev : c.device = some d.deviceId
  · obtain ⟨hcarry, hback⟩ := hshares hdev
    obtain ⟨carried, held, hbal⟩ := h.balanced
    apply h.of_put hconn hlog (by simpa using htidy)
    apply hbal.frame hconn hlog (by rw [hfirst]) hdel hpark
    · rw [hcarry, carry, hc]
    · rw [hback, backlog, hc]
    · intro e he hclaimed
      cases he
      rw [hback]
      exact hbal.claimed id c hc (hclaim hclaimed)
    · intro hnone
      exact absurd hnone (hbal.seen hc hdev hphase)
  · exact h.foreign hc hdev hconn hlog (by rw [hfirst]) hdel hpark
      (by simpa using hdevice ▸ hdev) (by simpa using htidy)

theorem accounts_closed (h : s.Accounts probe d) (hc : s.connections id = some c)
    (hshares : c.device = some d.deviceId →
      carryOf probe d (some c) = [] ∧ backlogOf probe d (some c) = []) :
    (s.put id none).Accounts probe d := by
  by_cases hdev : c.device = some d.deviceId
  swap
  · exact h.foreign (t := s.put id none) hc hdev rfl rfl rfl rfl rfl (by simp) (by simp)
  obtain ⟨hcarry, hback⟩ := hshares hdev
  obtain ⟨carried, held, hbal⟩ := h.balanced
  apply h.of_put (t := s.put id none) rfl rfl (by simp)
  apply hbal.frame (t := s.put id none) rfl rfl rfl rfl rfl
  · rw [carry, hc, hcarry]
    rfl
  · rw [backlog, hc, hback]
    rfl
  · simp
  · simp

theorem accounts_delivers {c' : Connection} {line : Line} (h : s.Accounts probe d)
    (hc : s.connections id = some c) (hphase : c.phase = .flushing ∨ c.phase = .live)
    (hdevice : c'.device = c.device) (hphase' : c'.phase = c.phase)
    (htidy : c'.Tidy probe d s.broadcasts)
    (hback : c.device = some d.deviceId →
      backlogOf probe d (some c) = line :: backlogOf probe d (some c')) :
    ((s.put id (some c')).deliver c.replayKey line).Accounts probe d := by
  by_cases hdev : c.device = some d.deviceId
  swap
  · have hkey : c.replayKey ≠ d.key := Connection.replayKey_ne hdev
    exact h.foreign hc hdev rfl rfl rfl (by rw [deliveredTo_deliver, if_neg hkey, deliveredTo_put])
      rfl (by simpa using hdevice ▸ hdev) (by simpa using htidy)
  have hclaimed : c.Claimed d := ⟨hdev, hphase⟩
  have hclaimed' : c'.Claimed d := ⟨hdevice.trans hdev, hphase'.symm ▸ hphase⟩
  replace hback := hback hdev
  obtain ⟨carried, held, hbal⟩ := h.balanced
  have hne : s.backlog probe d id ≠ [] := by
    rw [backlog, hc, hback]
    simp
  have hheld : held = line :: backlogOf probe d (some c') := by
    rw [← hbal.holding.eq_of_ne_nil hne, backlog, hc, hback]
  have hclear : s.parked probe d = [] ∧ carried = [] := by
    rcases hbal.claimed id c hc hclaimed with hclear | hnil
    · exact hclear
    · rw [hback] at hnil
      cases hnil
  have hkey : c.replayKey = d.key := Connection.replayKey_of_device hclaimed.1
  have hcarry : s.carry probe d id = carryOf probe d (some c') := by
    rw [carry, hc, carryOf_serves hclaimed.serves, carryOf_serves hclaimed'.serves]
  have hchain : s.chain probe d carried held =
      ((s.put id (some c')).deliver c.replayKey line).chain probe d carried
        (backlogOf probe d (some c')) ++ [] := by
    have hpark : ((s.put id (some c')).deliver c.replayKey line).parked probe d = [] := hclear.1
    unfold chain
    rw [hpark, hclear.1, hclear.2, hheld, deliveredTo_deliver, if_pos hkey, deliveredTo_put]
    simp
  apply h.of_put (t := (s.put id (some c')).deliver c.replayKey line) rfl rfl (by simpa using htidy)
  · apply hbal.put (t := (s.put id (some c')).deliver c.replayKey line) rfl rfl rfl
      (hbal.carrying.update_same hcarry)
      (Sole.update (hbal.holding.others (.inl hne)) (backlogOf probe d (some c')))
    · exact hchain
    · simp
    · intro i e he _
      exact .inl hclear
    · intro hnone
      exact absurd hnone (hbal.seen hc hclaimed.1 hclaimed.greeted)

theorem accounts_fails {c' : Connection} {lost : List Line} (h : s.Accounts probe d)
    (hc : s.connections id = some c) (hlive : c.phase = .flushing ∨ c.phase = .live)
    (hdevice : c'.device = c.device) (hphase : c'.phase = .rebuffering)
    (htidy : c'.Tidy probe d s.broadcasts)
    (hback : c.device = some d.deviceId → backlogOf probe d (some c) ≠ [] ∧
      backlogOf probe d (some c) = carryOf probe d (some c') ++ d.scope probe lost ∧
        s.NoneDue probe d lost) : (s.put id (some c')).Accounts probe d := by
  by_cases hdev : c.device = some d.deviceId
  swap
  · exact h.foreign (t := s.put id (some c')) hc hdev rfl rfl rfl rfl rfl
      (by simpa using hdevice ▸ hdev) (by simpa using htidy)
  have hclaimed : c.Claimed d := ⟨hdev, hlive⟩
  obtain ⟨hne, hback, hlost⟩ := hback hdev
  obtain ⟨carried, held, hbal⟩ := h.balanced
  have hne' : s.backlog probe d id ≠ [] := by
    rw [backlog, hc]
    exact hne
  have hothers := hbal.holding.others (.inl hne')
  have hheld : held = carryOf probe d (some c') ++ d.scope probe lost := by
    rw [← hbal.holding.eq_of_ne_nil hne', backlog, hc, hback]
  have hclear : s.parked probe d = [] ∧ carried = [] := by
    rcases hbal.claimed id c hc hclaimed with hclear | hnil
    · exact hclear
    · exact absurd hnil hne
  apply h.of_put (t := s.put id (some c')) rfl rfl (by simpa using htidy)
  · have hquiet : Sole (Function.update (s.backlog probe d) id (backlogOf probe d (some c'))) [] := by
      rw [backlogOf_rebuffering hphase]
      exact Sole.update hothers []
    apply hbal.put (t := s.put id (some c')) rfl rfl rfl
      (Sole.update (hbal.carrying.others (.inr hclear.2)) (carryOf probe d (some c')))
      hquiet
    · change s.chain probe d carried held =
        s.chain probe d (carryOf probe d (some c')) [] ++ d.scope probe lost
      simp [chain, hclear.2, hheld]
    · exact hlost
    · refine forall_update (t := s.put id (some c')) rfl ?_ ?_
      · intro e he _
        cases he
        exact .inr (backlogOf_rebuffering hphase)
      · intro i hi e he _
        have hi' := hothers i hi
        rw [backlog, he] at hi'
        exact .inr hi'
    · intro hnone
      exact absurd hnone (hbal.seen hc hclaimed.1 hclaimed.greeted)

end LanForwarder

end OzPos
