import OzPos.LicenseServer.MachineRows
import Mathlib.Data.List.Dedup
import Mathlib.Data.List.Perm.Subperm

namespace OzPos

inductive MachineEvent where
  | activate (req : ActivateRequest) (d : ActivateDraw)
  | wait (seconds : Nat)

/-- `used` are the tenants with the machine ids that a subscription of theirs was returned to. -/
structure MachineState where
  clock : Int
  db : ServerDb
  used : List (String × String)

/-- The machines that are registered at first were used before. -/
def MachineState.start (db : ServerDb) (clock : Int) : MachineState :=
  ⟨clock, db, db.machines.rows.map (fun m => (m.tenantId, m.id))⟩

def activations (lower : String → String) :
    Machine MachineState MachineEvent (Except Refusal ActivateAnswer) where
  step s
    | .activate req d =>
      match handleActivate lower req d s.clock s.db with
      | (db, .ok answer) =>
        ({ s with db := db, used := (answer.tenantId, req.machineId) :: s.used }, .ok answer)
      | (db, .error refusal) => ({ s with db := db }, .error refusal)
    | .wait seconds => ({ s with clock := s.clock + seconds }, .error ⟨204, ""⟩)

namespace MachineState

variable (s : MachineState)

def machinesUsed (tenantId : String) : List String :=
  ((s.used.filter (fun p => p.1 = tenantId)).map Prod.snd).dedup

variable (lower : String → String)

/-- A subscription is returned to a new machine id only below the limit of the tier that the tenant's
active subscription has then; `0` is no limit. -/
def WithinLimit (e : MachineEvent) : Prop :=
  ∀ req d answer, e = .activate req d → ((activations lower).step s e).2 = .ok answer →
    (answer.tenantId, req.machineId) ∉ s.used →
      ∃ active, ((activations lower).step s e).1.db.licenses.latestActive answer.tenantId =
          some active ∧
        (maxMachinesForTier active.tierKey = 0 ∨
          (s.machinesUsed answer.tenantId).length < maxMachinesForTier active.tierKey)

/-- The machine that an activation comes from is its tenant's afterwards, where that is not tested
it was not another's before; and where it is new, it and its count are read, and no more machines
are registered than allowed. -/
def Registers (req : ActivateRequest) (d : ActivateDraw) (tenantId : String) (checkOwnership : Bool)
    (limit : Nat) : Prop :=
  (checkOwnership = false → ∀ r, s.db.machines.find? req.machineId = some r →
    r.tenantId = tenantId) ∧
    (s.db.machines.find? req.machineId = none → d.machineSaveFails = false) ∧
    ((tenantId, req.machineId) ∈ s.used ∨ limit = 0 ∨ (s.db.machinesOf tenantId).length < limit ∨
      (d.machineQueryFails = false ∧ (s.db.machines.find? req.machineId = none ∨
        (s.db.machinesOf tenantId).length ≤ limit)))

/-- A key that the tenant activated before registers the machine under the tier of its newest
subscription; an unused key does so under its own, which is that of the newest subscription then. -/
def Meets : MachineEvent → Prop
  | .activate req d =>
    ∀ k, s.db.licenses.keys.find? req.key = some k →
      (k.status = .activated → ∀ t active,
        s.db.tenants.find? (lower (trim req.email)) = some t →
        s.db.licenses.latestActive t.id = some active →
        s.Registers req d t.id false (maxMachinesForTier active.tierKey)) ∧
      (k.status = .unused → ¬ k.expiresAt < s.clock →
        let tenantId := req.tenantOf lower d s.db
        s.Registers req d tenantId true (maxMachinesForTier (mintedTier lower req k)) ∧
          ∀ active, s.db.licenses.latestActive tenantId = some active →
            ((reusedSubscription d ⟨tenantId, k⟩ s.db.licenses).isSome ∨
              s.clock ≤ active.startsAt) →
            maxMachinesForTier active.tierKey = maxMachinesForTier (mintedTier lower req k))
  | .wait _ => True

/-- Every machine that was returned to is registered for its tenant. -/
def Registered : Prop :=
  ∀ t m, (t, m) ∈ s.used → ∃ r, s.db.machines.find? m = some r ∧ r.tenantId = t

variable {s}

theorem machinesUsed_subset (h : s.Registered) (tenantId : String) :
    s.machinesUsed tenantId ⊆ (s.db.machinesOf tenantId).map MachineRecord.id := by
  intro m hm
  have hmem : (tenantId, m) ∈ s.used := by
    obtain ⟨p, hp, hpm⟩ := List.mem_map.mp (List.mem_dedup.mp hm)
    obtain ⟨hused, htenant⟩ := List.mem_filter.mp hp
    obtain ⟨t, m'⟩ := p
    simp only [decide_eq_true_eq] at htenant
    rw [← htenant, ← hpm]
    exact hused
  obtain ⟨r, hr, htenant⟩ := h tenantId m hmem
  obtain ⟨hrow, hid⟩ := (Table.find?_eq_some_iff _ _ _).mp hr
  apply List.mem_map.mpr
  exact ⟨r, List.mem_filter.mpr ⟨hrow, by simpa using htenant⟩, hid⟩

theorem length_machinesUsed (h : s.Registered) (tenantId : String) :
    (s.machinesUsed tenantId).length ≤ (s.db.machinesOf tenantId).length := by
  have hnodup : (s.machinesUsed tenantId).Nodup := List.nodup_dedup _
  have hperm := hnodup.subperm (machinesUsed_subset h tenantId)
  simpa using hperm.length_le

theorem length_machinesUsed_of_unused (h : s.Registered) {tenantId m : String}
    (hunused : (tenantId, m) ∉ s.used)
    (hmem : m ∈ (s.db.machinesOf tenantId).map MachineRecord.id) :
    (s.machinesUsed tenantId).length + 1 ≤ (s.db.machinesOf tenantId).length := by
  have hnot : m ∉ s.machinesUsed tenantId := by
    intro hm
    obtain ⟨p, hp, hpm⟩ := List.mem_map.mp (List.mem_dedup.mp hm)
    obtain ⟨hused, htenant⟩ := List.mem_filter.mp hp
    obtain ⟨t, m'⟩ := p
    simp only [decide_eq_true_eq] at htenant
    apply hunused
    rw [← htenant, ← hpm]
    exact hused
  have hnodup : (m :: s.machinesUsed tenantId).Nodup :=
    List.nodup_cons.mpr ⟨hnot, List.nodup_dedup _⟩
  have hsubset : m :: s.machinesUsed tenantId ⊆ (s.db.machinesOf tenantId).map MachineRecord.id :=
    List.cons_subset.mpr ⟨hmem, machinesUsed_subset h tenantId⟩
  simpa using (hnodup.subperm hsubset).length_le

variable {req : ActivateRequest} {d : ActivateDraw} {db : ServerDb}

theorem below_of_registers (h : s.Registered) {tenantId : String} {checkOwnership : Bool}
    {limit : Nat} (hmachines : db.machines = s.db.machines)
    (hregisters : s.Registers req d tenantId checkOwnership limit)
    (hallowed : machineLimitExceeded db tenantId req.machineId limit d.machineQueryFails = false)
    (hnew : (tenantId, req.machineId) ∉ s.used) :
    limit = 0 ∨ (s.machinesUsed tenantId).length < limit := by
  have hlength := length_machinesUsed h tenantId
  obtain ⟨-, -, hused | hzero | hbelow | ⟨hquery, hrow⟩⟩ := hregisters
  · exact absurd hused hnew
  · exact .inl hzero
  · exact .inr (by omega)
  · have hsame : db.machinesOf tenantId = s.db.machinesOf tenantId := by
      unfold ServerDb.machinesOf
      rw [hmachines]
    unfold machineLimitExceeded at hallowed
    simp only [hquery, Bool.false_eq_true, if_false, hsame, Bool.and_eq_false_iff,
      decide_eq_false_iff_not, Bool.not_eq_false'] at hallowed
    rcases hallowed with (hzero | hbelow) | hany
    · exact .inl (by omega)
    · exact .inr (by omega)
    · obtain ⟨r, hr, hid⟩ := List.any_eq_true.mp hany
      have hid' : r.id = req.machineId := by simpa using hid
      have hmem : req.machineId ∈ (s.db.machinesOf tenantId).map MachineRecord.id :=
        List.mem_map.mpr ⟨r, hr, hid'⟩
      have hless := length_machinesUsed_of_unused h hnew hmem
      rcases hrow with hnone | hle
      · have hfound := (Table.find?_eq_none_iff _ _).mp hnone r (List.mem_filter.mp hr).1
        exact absurd hid' hfound
      · exact .inr (by omega)

variable {db' : LicenseDb}

theorem latestActive_insert {db : LicenseDb} {r : SubscriptionRecord}
    (hinsert : db.insertSubscription r = some db') (hactive : r.status = .active) :
    db'.latestActive r.tenantId =
      match db.latestActive r.tenantId with
      | none => some r
      | some old => if old.startsAt < r.startsAt then some r else some old := by
  unfold LicenseDb.latestActive
  rw [mem_insertSubscription hinsert, List.filter_append]
  have hkept : [r].filter (fun s => s.tenantId = r.tenantId ∧ s.status = .active) = [r] := by
    simp [hactive]
  rw [hkept, List.argmax_concat]
  cases List.argmax SubscriptionRecord.startsAt
      (db.subscriptions.rows.filter (fun s => s.tenantId = r.tenantId ∧ s.status = .active)) with
  | none => rfl
  | some old => rfl

theorem latestActive_congr {db : LicenseDb} (h : db'.subscriptions = db.subscriptions)
    (tenantId : String) : db'.latestActive tenantId = db.latestActive tenantId := by
  unfold LicenseDb.latestActive
  rw [h]

variable {lower : String → String}

theorem latest_of_granted
    {a : Admission} {now : Int} {db : LicenseDb} {answer : ActivateAnswer}
    (hgranted : grantLicense lower req d a now db = (db', .ok answer))
    (hsame : ∀ active, db.latestActive a.tenantId = some active →
      ((reusedSubscription d a db).isSome ∨ now ≤ active.startsAt) →
      maxMachinesForTier active.tierKey = maxMachinesForTier (mintedTier lower req a.key)) :
    answer.tenantId = a.tenantId ∧ ∃ active, db'.latestActive a.tenantId = some active ∧
      maxMachinesForTier active.tierKey = maxMachinesForTier (mintedTier lower req a.key) := by
  rcases grantLicense_cases hgranted with ⟨refusal, hrefused, -⟩ | ⟨s, hreused, rfl, hanswer⟩ |
    ⟨db1, hreused, hinsert, rfl, hanswer⟩
  · cases hrefused
  · cases hanswer
    refine ⟨rfl, s, ?_, ?_⟩
    · rw [latestActive_congr (subscriptions_markActivated _ _ _)]
      unfold reusedSubscription at hreused
      split at hreused
      · cases hreused
      · exact hreused
    · have hlatest : db.latestActive a.tenantId = some s := by
        unfold reusedSubscription at hreused
        split at hreused
        · cases hreused
        · exact hreused
      exact hsame s hlatest (.inl (by rw [hreused]; rfl))
  · cases hanswer
    have hlatest : db1.latestActive a.tenantId = _ := latestActive_insert hinsert rfl
    refine ⟨rfl, ?_⟩
    rw [latestActive_congr (subscriptions_markActivated _ _ _), hlatest]
    have htenant : (minted lower req d a now).tenantId = a.tenantId := rfl
    have hstarts : (minted lower req d a now).startsAt = now := rfl
    have htier : (minted lower req d a now).tierKey = mintedTier lower req a.key := rfl
    rw [htenant, hstarts]
    cases hold : db.latestActive a.tenantId with
    | none => exact ⟨_, rfl, by rw [htier]⟩
    | some old =>
      dsimp only
      split
      · exact ⟨_, rfl, by rw [htier]⟩
      · rename_i hnewer
        exact ⟨old, rfl, hsame old hold (.inr (by omega))⟩

theorem Registered.of_keeps (h : s.Registered) (hkeeps : s.db.KeepsMachines db) :
    ∀ t m, (t, m) ∈ s.used → ∃ r, db.machines.find? m = some r ∧ r.tenantId = t := by
  intro t m hmem
  obtain ⟨r, hr, htenant⟩ := h t m hmem
  obtain ⟨r', hr', hsame, -, -⟩ := hkeeps m r hr
  exact ⟨r', hr', hsame.trans htenant⟩

/-- What an activation that goes through leaves: the machine is the tenant's, and a new one was below
the limit of the tenant's newest subscription. -/
theorem activated_within (h : s.Registered) (hmeets : s.Meets lower (.activate req d))
    {answer : ActivateAnswer} (hok : handleActivate lower req d s.clock s.db = (db, .ok answer)) :
    (∃ r, db.machines.find? req.machineId = some r ∧ r.tenantId = answer.tenantId) ∧
      ((answer.tenantId, req.machineId) ∉ s.used → ∃ active,
        db.licenses.latestActive answer.tenantId = some active ∧
          (maxMachinesForTier active.tierKey = 0 ∨
            (s.machinesUsed answer.tenantId).length < maxMachinesForTier active.tierKey)) := by
  rcases handleActivate_ok hok with ⟨t, active, k, hkey, hactivated, ht, hre⟩ |
    ⟨a, db1, db2, hfirst⟩
  · obtain ⟨hlatest, hallowed, hdb, rfl⟩ := hre
    have hregisters := (hmeets k hkey).1 hactivated t active ht hlatest
    have hchecked := hregisters.1 rfl
    constructor
    · cases hregistered : registerMachine req.machineId t.id false d.machineSaveFails s.clock
          s.db with
      | none => simp [registerMachine] at hregistered; split at hregistered <;> simp at hregistered
      | some dbR =>
        rw [hdb, hregistered]
        exact registerMachine_owned hregistered hchecked hregisters.2.1
    · intro hnew
      refine ⟨active, ?_, below_of_registers h rfl hregisters hallowed hnew⟩
      have hlicenses : db.licenses = s.db.licenses := by
        rw [hdb]
        cases hregistered : registerMachine req.machineId t.id false d.machineSaveFails s.clock
            s.db with
        | none => rfl
        | some dbR => exact (registerMachine_kept hregistered).1
      rw [hlicenses]
      exact hlatest
  · have hauthorized := hfirst.authorized
    have ha : a = ⟨req.tenantOf lower d s.db, a.key⟩ := by
      rw [← hauthorized.tenant]
    obtain ⟨hregisters, hsame⟩ :=
      (hmeets a.key hauthorized.found).2 hauthorized.unused hfirst.unexpired
    rw [← hauthorized.tenant] at hregisters hsame
    obtain ⟨htenant, active, hlatest, hlimit⟩ := latest_of_granted hfirst.granted hsame
    rw [htenant]
    constructor
    · rw [hfirst.kept.1]
      have howned := registerMachine_checked hfirst.registered
      apply registerMachine_owned hfirst.registered howned
      rw [hfirst.machines]
      exact hregisters.2.1
    · intro hnew
      refine ⟨active, hlatest, ?_⟩
      rw [hlimit]
      exact below_of_registers h hfirst.machines hregisters hfirst.allowed hnew

theorem registered_step (h : s.Registered) {e : MachineEvent}
    (hmeets : s.Meets lower e) : ((activations lower).step s e).1.Registered := by
  cases e with
  | wait seconds => exact h
  | activate req d =>
    have hkeeps : s.db.KeepsMachines (handleActivate lower req d s.clock s.db).1 :=
      keepsMachines_handleActivate
    cases hcase : handleActivate lower req d s.clock s.db with
    | mk db answer =>
      rw [hcase] at hkeeps
      cases answer with
      | error refusal =>
        simp only [activations, hcase]
        exact h.of_keeps hkeeps
      | ok answer =>
        simp only [activations, hcase]
        intro t m hmem
        rcases List.mem_cons.mp hmem with heq | hold
        · cases heq
          exact (activated_within h hmeets hcase).1
        · exact h.of_keeps hkeeps t m hold

theorem withinLimit_step (h : s.Registered) {e : MachineEvent}
    (hmeets : s.Meets lower e) : s.WithinLimit lower e := by
  intro req d answer heq hok hnew
  subst heq
  cases hcase : handleActivate lower req d s.clock s.db with
  | mk db answer' =>
    cases answer' with
    | error refusal =>
      simp only [activations, hcase] at hok
      cases hok
    | ok answer' =>
      simp only [activations, hcase, Except.ok.injEq] at hok
      subst hok
      simp only [activations, hcase]
      exact (activated_within h hmeets hcase).2 hnew

theorem registered_start (db : ServerDb) (clock : Int) : (start db clock).Registered := by
  intro t m hmem
  obtain ⟨r, hr, heq⟩ := List.mem_map.mp hmem
  cases heq
  exact ⟨r, (Table.mem_rows_iff _ _).mp hr, rfl⟩

end MachineState

/-- In every run whose activations meet the condition, the limit of the tier bounds where a
subscription is returned to. -/
theorem machineLimit_run (lower : String → String) (db : ServerDb) (clock : Int)
    (events : List MachineEvent)
    (h : (activations lower).Along (fun s e => s.Meets lower e) (.start db clock) events) :
    (activations lower).Along (fun s e => s.WithinLimit lower e) (.start db clock) events := by
  have hstep : ∀ (s : MachineState) (e : MachineEvent), s.Registered → s.Meets lower e →
      ((activations lower).step s e).1.Registered :=
    fun s e hs hmeets => MachineState.registered_step hs hmeets
  have hpost : ∀ (s : MachineState) (e : MachineEvent), s.Registered → s.Meets lower e →
      s.WithinLimit lower e :=
    fun s e hs hmeets => MachineState.withinLimit_step hs hmeets
  exact (activations lower).along_of_invariant hstep hpost _ events
    (MachineState.registered_start db clock) h

def tillKeys : Table String LicenseKeyRecord LicenseKeyRecord.key where
  rows := [⟨"OZ-PLUS-0001", "plus", .activated, 86400, false, "", "T-1", ⟨"", "", ""⟩⟩]
  unique := by decide

def tillSubscriptions : Table String SubscriptionRecord SubscriptionRecord.id where
  rows :=
    [⟨"S-1", "T-1", "plus", .active, 0, 31536000, 32745600, "", none, none, ⟨"", "", ""⟩,
      ⟨"T-1", "plus", .active, 0, 31536000, 32745600, 0⟩⟩]
  unique := by decide

def tillTenants : Table String TenantRecord TenantRecord.email where
  rows := [⟨"T-1", "ani@example.com", .active⟩, ⟨"T-2", "budi@example.com", .active⟩]
  unique := by decide

def tillMachines : Table String MachineRecord MachineRecord.id where
  rows :=
    [⟨"till-1", "T-1", "", 0, 0, none, ""⟩, ⟨"till-7", "T-2", "", 0, 0, none, ""⟩,
      ⟨"till-8", "T-2", "", 0, 0, none, ""⟩]
  unique := by decide

def tillDb : ServerDb := ⟨⟨tillKeys, tillSubscriptions⟩, tillTenants, tillMachines, Table.empty⟩

def reactivation (machineId : String) : MachineEvent :=
  .activate ⟨"OZ-PLUS-0001", "ani@example.com", machineId, "", ""⟩
    ⟨none, true, none, "T-9", "S-9", false, false, false, false, false, false, false, false⟩

/-- The second machine of a tier with two goes through. -/
theorem machineLimit_secondTill :
    (activations id).Along (fun s e => s.WithinLimit id e) (.start tillDb 0)
      [reactivation "till-2"] := by
  apply machineLimit_run id tillDb 0
  refine ⟨?_, trivial⟩
  intro k hkey
  have hheld : k = ⟨"OZ-PLUS-0001", "plus", .activated, 86400, false, "", "T-1", ⟨"", "", ""⟩⟩ :=
    (Option.some.inj hkey).symm
  subst hheld
  constructor
  · intro _ t active ht hactive
    cases ht
    cases hactive
    refine ⟨fun _ r hr => ?_, fun _ => rfl, .inr (.inr (.inl (by decide)))⟩
    cases hr
  · intro hunused
    cases hunused

/-- The key of one tenant, on two machines of another: neither is counted. -/
theorem foreignTills_beyondLimit :
    ¬ ∀ lower db clock events,
      (activations lower).Along (fun s e => s.WithinLimit lower e) (.start db clock) events := by
  intro h
  obtain ⟨-, hthird, -⟩ := h id tillDb 0 [reactivation "till-7", reactivation "till-8"]
  obtain ⟨active, hactive, hlimit⟩ := hthird _ _ _ rfl rfl (by decide)
  cases hactive
  exact absurd hlimit (by decide)

end OzPos
