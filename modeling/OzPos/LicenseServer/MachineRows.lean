import OzPos.LicenseServer.SubscriptionRows

namespace OzPos

variable {lower : String → String} {req : ActivateRequest} {d : ActivateDraw} {now : Int}

structure Reactivated (req : ActivateRequest) (d : ActivateDraw) (now : Int) (db : ServerDb)
    (t : TenantRecord) (s : SubscriptionRecord) (db' : ServerDb) (answer : ActivateAnswer) :
    Prop where
  latest : db.licenses.latestActive t.id = some s
  allowed : machineLimitExceeded db t.id req.machineId (maxMachinesForTier s.tierKey)
    d.machineQueryFails = false
  registered : db' = (registerMachine req.machineId t.id false d.machineSaveFails now db).getD db
  answered : answer = ⟨s.signedPayload, t.id⟩

structure FirstActivated (lower : String → String) (req : ActivateRequest) (d : ActivateDraw)
    (now : Int) (db : ServerDb) (a : Admission) (db1 db2 db' : ServerDb) (answer : ActivateAnswer) :
    Prop where
  authorized : Authorized lower req d db a
  unexpired : ¬ a.key.expiresAt < now
  machines : db1.machines = db.machines
  allowed : machineLimitExceeded db1 a.tenantId req.machineId
    (maxMachinesForTier (mintedTier lower req a.key)) d.machineQueryFails = false
  registered : registerMachine req.machineId a.tenantId true d.machineSaveFails now db1 = some db2
  granted : grantLicense lower req d a now db.licenses = (db'.licenses, .ok answer)
  kept : db'.machines = db2.machines ∧ db'.tenants = db2.tenants

variable {db db' : ServerDb} {answer : ActivateAnswer}

variable {tenantId : String} {saveFails : Bool} {a : Admission}

theorem handleActivate_ok (h : handleActivate lower req d now db = (db', .ok answer)) :
    (∃ t s k, db.licenses.keys.find? req.key = some k ∧ k.status = .activated ∧
      db.tenants.find? (lower (trim req.email)) = some t ∧
      Reactivated req d now db t s db' answer) ∨
    (∃ a db1 db2, FirstActivated lower req d now db a db1 db2 db' answer) := by
  rcases handleActivate_cases h with ⟨refusal, hrefused, -⟩ | ⟨k, t, hagain, hre⟩ |
    ⟨a, dbA, hlet, hadmitted⟩
  · cases hrefused
  · rcases reactivate_cases hre with ⟨refusal, hrefused, -⟩ | ⟨s, hlatest, hallowed, hdb, hanswer⟩
    · cases hrefused
    · rcases hanswer with ⟨refusal, hrefused⟩ | hok
      · cases hrefused
      · exact .inl ⟨t, s, k, hagain.found, hagain.activated.1, hagain.tenant, hlatest, hallowed,
          hdb, Except.ok.inj hok⟩
  · obtain ⟨hlicenses, hmachines, -⟩ := hlet.kept
    rcases activateAdmitted_cases hadmitted with ⟨refusal, hrefused, -⟩ | ⟨db1, hlocked, hpast⟩
    · cases hrefused
    · obtain ⟨hlicenses1, -, hmachines1⟩ := lockedTrials_kept hlocked
      rcases hpast.ends with ⟨refusal, hrefused, -⟩ | ⟨db2, hallowed, hregistered, rfl, hok⟩
      · cases hrefused
      · rw [hlicenses1.trans hlicenses] at hok ⊢
        exact .inr ⟨a, db1, db2, hlet.authorized, hpast.unexpired, hmachines1.trans hmachines,
          hallowed, hregistered, Prod.ext rfl hok.symm, rfl, rfl⟩

def ServerDb.KeepsMachines (db db' : ServerDb) : Prop :=
  ∀ m r, db.machines.find? m = some r →
    ∃ r', db'.machines.find? m = some r' ∧ r'.tenantId = r.tenantId ∧ r'.machineId = r.machineId ∧
      r'.revokedAt = r.revokedAt

theorem keepsMachines_of_eq (h : db'.machines = db.machines) : db.KeepsMachines db' := by
  intro m r hr
  rw [h]
  exact ⟨r, hr, rfl, rfl, rfl⟩

variable {machineId : String} {checkOwnership : Bool}

theorem keepsMachines_register
    (h : registerMachine machineId tenantId checkOwnership saveFails now db = some db') :
    db.KeepsMachines db' := by
  unfold registerMachine at h
  cases hfound : db.machines.find? machineId with
  | none =>
    simp only [hfound] at h
    cases saveFails with
    | true =>
      cases h
      exact keepsMachines_of_eq rfl
    | false =>
      cases h
      intro m r hr
      refine ⟨r, ?_, rfl, rfl, rfl⟩
      show (db.machines.insertNew _).find? m = some r
      rw [Table.find?_insertNew, hr]
      rfl
  | some old =>
    simp only [hfound] at h
    split at h
    · cases h
    · cases saveFails with
      | true =>
        cases h
        exact keepsMachines_of_eq rfl
      | false =>
        cases h
        intro m r hr
        refine ⟨if m = machineId then { r with lastSeenAt := now } else r, ?_, ?_⟩
        · show (db.machines.update machineId (fun m => { m with lastSeenAt := now })
            (fun _ => rfl)).find? m = _
          rw [Table.find?_update, hr]
          rfl
        · split
          · exact ⟨rfl, rfl, rfl⟩
          · exact ⟨rfl, rfl, rfl⟩

theorem registerMachine_owned
    (h : registerMachine machineId tenantId checkOwnership saveFails now db = some db')
    (hother : ∀ r, db.machines.find? machineId = some r → r.tenantId = tenantId)
    (hsaves : db.machines.find? machineId = none → saveFails = false) :
    ∃ r, db'.machines.find? machineId = some r ∧ r.tenantId = tenantId := by
  cases hfound : db.machines.find? machineId with
  | some r =>
    obtain ⟨r', hr', htenant, -, -⟩ := keepsMachines_register h machineId r hfound
    exact ⟨r', hr', htenant.trans (hother r hfound)⟩
  | none =>
    unfold registerMachine at h
    simp only [hfound, hsaves hfound, Bool.false_eq_true, if_false, Option.some.injEq] at h
    rw [← h]
    refine ⟨⟨machineId, tenantId, "", now, now, none, ""⟩, ?_, rfl⟩
    show (db.machines.insertNew _).find? machineId = some _
    rw [Table.find?_insertNew, hfound]
    simp

theorem registerMachine_checked
    (h : registerMachine machineId tenantId true saveFails now db = some db') :
    ∀ r, db.machines.find? machineId = some r → r.tenantId = tenantId := by
  intro r hr
  unfold registerMachine at h
  simp only [hr] at h
  split at h
  · cases h
  · rename_i howner
    simpa using howner

/-- The machines are as before, but for the registration of one. -/
def ServerDb.Registered (machineId : String) (saveFails : Bool) (now : Int) (db db' : ServerDb) :
    Prop :=
  db'.machines = db.machines ∨ ∃ tenantId checkOwnership db1 db2, db1.machines = db.machines ∧
    registerMachine machineId tenantId checkOwnership saveFails now db1 = some db2 ∧
    db'.machines = db2.machines

theorem registered_handleActivate {db : ServerDb} :
    db.Registered req.machineId d.machineSaveFails now (handleActivate lower req d now db).1 := by
  cases hactivate : handleActivate lower req d now db with
  | mk db' r =>
    rcases handleActivate_cases hactivate with ⟨refusal, -, rfl⟩ | ⟨k, t, -, hre⟩ |
      ⟨a, dbA, hlet, hadmitted⟩
    · exact .inl rfl
    · rcases reactivate_cases hre with ⟨refusal, -, rfl⟩ | ⟨s, -, -, rfl, -⟩
      · exact .inl rfl
      · cases hregistered : registerMachine req.machineId t.id false d.machineSaveFails now db with
        | none => exact .inl rfl
        | some db1 => exact .inr ⟨t.id, false, db, db1, rfl, hregistered, rfl⟩
    · have hmachines := hlet.kept.2.1
      rcases activateAdmitted_cases hadmitted with ⟨refusal, -, rfl, -⟩ | ⟨db1, hlocked, hpast⟩
      · exact .inl hmachines
      · have hsame := (lockedTrials_kept hlocked).2.2.trans hmachines
        rcases hpast.ends with ⟨refusal, -, rfl, -⟩ | ⟨db2, -, hregistered, rfl, -⟩
        · exact .inl hsame
        · exact .inr ⟨a.tenantId, true, db1, db2, hsame, hregistered, rfl⟩

theorem keepsMachines_handleActivate {db : ServerDb} :
    db.KeepsMachines (handleActivate lower req d now db).1 := by
  rcases @registered_handleActivate lower req d now db with hsame |
    ⟨tenantId, checkOwnership, db1, db2, hmachines, hregistered, hsame⟩
  · exact keepsMachines_of_eq hsame
  · intro m r hr
    rw [← hmachines] at hr
    rw [hsame]
    exact keepsMachines_register hregistered m r hr

theorem tenants_handleActivate {db : ServerDb} :
    (handleActivate lower req d now db).1.tenants = db.tenants ∨
      ∃ db1, db.openTenant d.newTenantId (lower (trim req.email)) = some db1 ∧
        (handleActivate lower req d now db).1.tenants = db1.tenants := by
  cases hactivate : handleActivate lower req d now db with
  | mk db' r =>
    rcases handleActivate_cases hactivate with ⟨refusal, -, rfl⟩ | ⟨k, t, -, hre⟩ |
      ⟨a, dbA, hlet, hadmitted⟩
    · exact .inl rfl
    · exact .inl (reactivate_kept hre).2.1
    · have hsame : db'.tenants = dbA.tenants := by
        rcases activateAdmitted_cases hadmitted with ⟨refusal, -, rfl, -⟩ | ⟨db1, hlocked, hpast⟩
        · rfl
        · have htenants := (lockedTrials_kept hlocked).2.1
          rcases hpast.ends with ⟨refusal, -, rfl, -⟩ | ⟨db2, -, hregistered, rfl, -⟩
          · exact htenants
          · exact (registerMachine_kept hregistered).2.1.trans htenants
      rcases hlet.opened with rfl | hopen
      · exact .inl hsame
      · exact .inr ⟨dbA, hopen, hsame⟩

end OzPos
