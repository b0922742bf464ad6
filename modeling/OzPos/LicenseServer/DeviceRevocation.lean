import OzPos.LicenseServer.Activate

namespace OzPos

structure StatusRequest where
  (machineId hardwareFingerprint : String)
  revoke : Bool

/-- What is outside the tables: whether the gates before the handler let the call pass, the tenant
whose api_key it presents, and which queries and saves fail. -/
structure StatusDraw where
  refused : Option Refusal
  keyTenant : Option String
  (machineQueryFails revokeSaveFails machineSaveFails subQueryFails : Bool)

/-- What `mintHardwareToken` signs. -/
structure HardwareToken where
  (tenantId machineId hardwareFingerprint : String)
  timestamp : Int

structure DeviceReport where
  (deviceRevoked revokePerformed hardwareVerified : Bool)
  hardwareToken : Option HardwareToken
  lastSeenAt : Option Int

structure StatusAnswer where
  (tenantId tier : String)
  active : Bool
  (expiresAt graceUntil : Option Int)
  device : DeviceReport

def ServerDb.tenantById (db : ServerDb) (id : String) : Option TenantRecord :=
  db.tenants.rows.find? (fun t => t.id = id)

def MachineRecord.resaved (m r : MachineRecord) : MachineRecord :=
  { r with
    lastSeenAt := m.lastSeenAt
    revokedAt := m.revokedAt
    hardwareFingerprint := m.hardwareFingerprint }

def ServerDb.saveMachine (db : ServerDb) (m : MachineRecord) : ServerDb :=
  { db with machines := db.machines.update m.id m.resaved (fun _ => rfl) }

variable (tenantId : String)

/-- What a status call does with the machine that it found. A revocation that cannot be saved stays
on the record, and is saved with what is seen of the machine. -/
def attendMachine (req : StatusRequest) (d : StatusDraw) (now : Int)
    (machine : MachineRecord) (db : ServerDb) : ServerDb × DeviceReport :=
  let wasRevoked := machine.revokedAt.isSome
  let revokes := req.revoke && !wasRevoked
  let machine := if revokes then { machine with revokedAt := some now } else machine
  let revokePerformed := revokes && !d.revokeSaveFails
  let db := if revokePerformed then db.saveMachine machine else db
  let mismatch := req.hardwareFingerprint ≠ "" && machine.hardwareFingerprint ≠ "" &&
    machine.hardwareFingerprint ≠ req.hardwareFingerprint
  let machine := { machine with
    lastSeenAt := now
    hardwareFingerprint :=
      if machine.hardwareFingerprint = "" then req.hardwareFingerprint
      else machine.hardwareFingerprint }
  let db := if d.machineSaveFails then db else db.saveMachine machine
  let deviceRevoked := wasRevoked || revokePerformed || mismatch
  let token : HardwareToken := ⟨tenantId, req.machineId, req.hardwareFingerprint, now⟩
  (db, ⟨deviceRevoked, revokePerformed, !mismatch, if deviceRevoked then none else some token,
    some now⟩)

variable (body : Option StatusRequest) (d : StatusDraw)

/-- A machine is looked up by its column `machine_id`. A body that cannot be read names none. -/
def reportDevice (now : Int) (db : ServerDb) : ServerDb × DeviceReport :=
  match body with
  | none => (db, ⟨false, false, true, none, none⟩)
  | some req =>
    if req.machineId = "" then (db, ⟨false, false, true, none, none⟩)
    else
      let machines := db.machines.rows.filter
        (fun m => m.machineId = req.machineId ∧ m.tenantId = tenantId)
      match if d.machineQueryFails then none else machines.head? with
      | none => (db, ⟨false, false, false, none, none⟩)
      | some machine => attendMachine tenantId req d now machine db

def unknownApiKey : Refusal := ⟨401, "invalid api_key or tenant is not active"⟩

def handleStatus (now : Int) (db : ServerDb) : ServerDb × Except Refusal StatusAnswer :=
  match d.refused with
  | some refusal => (db, .error refusal)
  | none =>
    match d.keyTenant.bind db.tenantById with
    | none => (db, .error unknownApiKey)
    | some t =>
      if t.status ≠ .active then (db, .error unknownApiKey)
      else
        let (db, device) := reportDevice t.id body d now db
        match if d.subQueryFails then none else db.licenses.latestActive t.id with
        | none => (db, .ok ⟨t.id, "free", false, none, none, device⟩)
        | some s => (db, .ok ⟨t.id, s.tierKey, true, some s.expiresAt, some s.graceUntil, device⟩)

/-- The dashboards look a device up by its id; `session` is the tenant, or what the gates
answered. The answer is when it was revoked. -/
def handleWebRevokeDevice (session : Except Refusal String) (deviceId : String) (saveFails : Bool)
    (now : Int) (db : ServerDb) : ServerDb × Except Refusal Int :=
  match session with
  | .error refusal => (db, .error refusal)
  | .ok tenantId =>
    if deviceId = "" then (db, .error ⟨400, "device id is required"⟩)
    else
      match db.machines.find? deviceId with
      | none => (db, .error ⟨404, "device not found"⟩)
      | some machine =>
        if machine.tenantId ≠ tenantId then
          (db, .error ⟨403, "device does not belong to this account"⟩)
        else
          match machine.revokedAt with
          | some revokedAt => (db, .ok revokedAt)
          | none =>
            if saveFails then (db, .error ⟨500, "revoke failed"⟩)
            else (db.saveMachine { machine with revokedAt := some now }, .ok now)

/-- The admin's differs in that it tells a device of another tenant from none by nothing. -/
def handleAdminRevokeDevice (admin : Except Refusal Unit) (tenantId deviceId : String)
    (saveFails : Bool) (now : Int) (db : ServerDb) : ServerDb × Except Refusal Int :=
  match admin with
  | .error refusal => (db, .error refusal)
  | .ok () =>
    if deviceId = "" then (db, .error ⟨400, "device id is required"⟩)
    else
      match db.machines.find? deviceId with
      | none => (db, .error ⟨404, "device not found"⟩)
      | some machine =>
        if machine.tenantId ≠ tenantId then (db, .error ⟨404, "device not found"⟩)
        else
          match machine.revokedAt with
          | some revokedAt => (db, .ok revokedAt)
          | none =>
            if saveFails then (db, .error ⟨500, "revoke failed"⟩)
            else (db.saveMachine { machine with revokedAt := some now }, .ok now)

/-- Rows are cleared one by one; one that cannot be saved stays revoked. -/
def clearTenantDeviceRevocations (saveFails : String → Bool) (db : ServerDb) : ServerDb :=
  (db.machinesOf tenantId).foldl (fun db m =>
    if m.revokedAt.isSome && !saveFails m.id then db.saveMachine { m with revokedAt := none }
    else db) db

/-- The columns of `license_keys` about its revocation. -/
structure KeyRevocation where
  revokedAt : Option Int
  notes : String

structure RevokedKey where
  (key keyHash tenantId : String)
  revokedAt : Int
  reason : String

structure RevocationList where
  issuedAt : Int
  entries : List RevokedKey
  (revokedTenants revokedDevices : List String)

/-- The columns `updated` of the tenants, and which queries fail. -/
structure CrlDraw where
  updated : String → Int
  (keyQueryFails tenantQueryFails machineQueryFails : Bool)

/-- `FindRecordsByFilter` with the latest first, at most 5000. A query that fails is only
logged. -/
def newestRecords {ρ : Type} (time : ρ → Int) (fails : Bool) (records : List ρ) : List ρ :=
  if fails then [] else (records.mergeSort (fun a b => time b ≤ time a)).take 5000

def LicenseDb.revokedKeys (db : LicenseDb) (revocation : String → KeyRevocation) :
    List LicenseKeyRecord :=
  db.keys.rows.filter (fun k => (revocation k.key).revokedAt.isSome)

def ServerDb.revokedTenants (db : ServerDb) : List TenantRecord :=
  db.tenants.rows.filter (fun t => t.status = .revoked)

def ServerDb.revokedMachines (db : ServerDb) : List MachineRecord :=
  db.machines.rows.filter (fun m => m.revokedAt.isSome)

/-- `sha256Hex` is the hex digest of a licence key. -/
def buildCrlPayload (sha256Hex : String → String) (revocation : String → KeyRevocation)
    (d : CrlDraw) (now : Int) (db : ServerDb) : RevocationList :=
  let revokedAt := fun key => ((revocation key).revokedAt).getD now
  let keyRecords := newestRecords (fun k => revokedAt k.key) d.keyQueryFails
    (db.licenses.revokedKeys revocation)
  let tenantRecords := newestRecords (fun t => d.updated t.id) d.tenantQueryFails db.revokedTenants
  let machineRecords := newestRecords (fun m => m.revokedAt.getD now) d.machineQueryFails
    db.revokedMachines
  { issuedAt := now
    entries := (keyRecords.filter (fun k => k.key ≠ "")).map (fun k =>
      ⟨k.key, sha256Hex k.key, k.activatedBy, revokedAt k.key, (revocation k.key).notes⟩)
    revokedTenants := tenantRecords.map TenantRecord.id
    revokedDevices := (machineRecords.map MachineRecord.machineId).filter (fun id => id ≠ "") }

end OzPos
