import OzPos.Library.Calendar
import OzPos.Client.Settings
import Mathlib.Data.List.MinMax

namespace OzPos

inductive KeyStatus where
  | unused
  | activated
  | expired
  | revoked
  deriving DecidableEq

inductive SubscriptionStatus where
  | active
  | expired
  | gracePeriod
  | revoked
  | paused
  deriving DecidableEq

/-- The columns that tie a record to what a billing provider calls it; `""` is none. -/
structure ProviderIds where
  (paddleSubId midtransSubId midtransOrderId : String)

/-- A row of `license_keys`. -/
structure LicenseKeyRecord where
  (key tierKey : String)
  status : KeyStatus
  expiresAt : Int
  isTrial : Bool
  (bundleId activatedBy : String)
  ids : ProviderIds

structure SubscriptionPayload where
  (tenantId tierKey : String)
  status : SubscriptionStatus
  (startsAt expiresAt graceUntil issuedAt : Int)
  deriving DecidableEq

/-- A row of `subscriptions`, with the payload that was last signed for it. -/
structure SubscriptionRecord where
  (id tenantId tierKey : String)
  status : SubscriptionStatus
  (startsAt expiresAt graceUntil : Int)
  bundleId : String
  (pausedAt pausedUntil : Option Int)
  ids : ProviderIds
  signedPayload : SubscriptionPayload

structure LicenseDb where
  keys : Table String LicenseKeyRecord LicenseKeyRecord.key
  subscriptions : Table String SubscriptionRecord SubscriptionRecord.id

namespace ProviderIds

def ofPaddle (subId : String) (ids : ProviderIds) : Bool := ids.paddleSubId = subId

def ofSubscription (subId : String) (ids : ProviderIds) : Bool := ids.midtransSubId = subId

def ofOrder (orderId : String) (ids : ProviderIds) : Bool := ids.midtransOrderId = orderId

end ProviderIds

/-- The unique indexes on the ids of the providers, of those that are not empty. -/
def ProviderIds.clashes (a b : ProviderIds) : Bool :=
  (a.paddleSubId ≠ "" && a.paddleSubId = b.paddleSubId) ||
    (a.midtransSubId ≠ "" && a.midtransSubId = b.midtransSubId)

abbrev Lookup : Type := List (ProviderIds → Bool)

def Lookup.first {ρ : Type} (lookup : Lookup) (ids : ρ → ProviderIds) (rows : List ρ) : Option ρ :=
  lookup.findSome? (fun p => rows.find? (fun r => p (ids r)))

variable (tier : String)

def calculateExpiry (now : Int) : Int :=
  if tier = "free" then Calendar.addDate 100 0 0 now
  else if tier = "enterprise" then Calendar.addDate 3 0 0 now
  else Calendar.addDate 1 0 0 now

def offlineGraceDays : Int :=
  if tier = "premium" then 30
  else if tier = "enterprise" then 60
  else if tier = "free" then 7
  else 14

def calculateGraceUntil (expiresAt : Int) : Int :=
  Calendar.addDate 0 0 (offlineGraceDays tier) expiresAt

namespace SubscriptionRecord

variable (r : SubscriptionRecord)

/-- `signSubscription`, of what the record says now. -/
def resigned (now : Int) : SubscriptionRecord :=
  { r with signedPayload :=
      ⟨r.tenantId, r.tierKey, r.status, r.startsAt, r.expiresAt, r.graceUntil, now⟩ }

def blank (id : String) (ids : ProviderIds) : SubscriptionRecord :=
  ⟨id, "", "", .active, 0, 0, 0, "", none, none, ids, ⟨"", "", .active, 0, 0, 0, 0⟩⟩

end SubscriptionRecord

namespace LicenseDb

def empty : LicenseDb := ⟨Table.empty, Table.empty⟩

variable (db : LicenseDb)

def insertKey (k : LicenseKeyRecord) : Option LicenseDb :=
  if db.keys.rows.any (fun r => r.ids.clashes k.ids) then none
  else (db.keys.insert? k).map (fun keys => { db with keys := keys })

def insertSubscription (s : SubscriptionRecord) : Option LicenseDb :=
  if db.subscriptions.rows.any (fun r => r.ids.clashes s.ids) then none
  else (db.subscriptions.insert? s).map (fun subscriptions =>
    { db with subscriptions := subscriptions })

def updateKey (key : String) (f : LicenseKeyRecord → LicenseKeyRecord)
    (hf : ∀ k, (f k).key = k.key) : LicenseDb :=
  { db with keys := db.keys.update key f hf }

def updateSubscription (id : String) (f : SubscriptionRecord → SubscriptionRecord)
    (hf : ∀ s, (f s).id = s.id) : LicenseDb :=
  { db with subscriptions := db.subscriptions.update id f hf }

end LicenseDb

inductive TenantStatus where
  | active
  | suspended
  | revoked
  deriving DecidableEq

/-- A row of `tenants`. -/
structure TenantRecord where
  (id email : String)
  status : TenantStatus

/-- A row of `tenant_machines`. Its id is the machine id that a client sends; `machineId` is the
column of that name. -/
structure MachineRecord where
  (id tenantId machineId : String)
  (firstSeenAt lastSeenAt : Int)
  revokedAt : Option Int
  hardwareFingerprint : String

/-- A row of `trial_registrations`; a claim that names no account has the tenant `""`. -/
structure TrialRegistration where
  (hardwareFingerprint tenantId : String)
  trialExpiresAt : Int

structure ServerDb where
  licenses : LicenseDb
  tenants : Table String TenantRecord TenantRecord.email
  machines : Table String MachineRecord MachineRecord.id
  trials : Table String TrialRegistration TrialRegistration.hardwareFingerprint

structure Refusal where
  status : Nat
  error : String

structure ActivateRequest where
  (key email machineId trialVertical hardwareFingerprint : String)

/-- What is outside the tables: whether the gates before the handler let the request pass, whether
its api_key is the tenant's, whether an api_key rotation is refused, new ids, and which queries and
saves fail. -/
structure ActivateDraw where
  refused : Option Refusal
  apiKeyMatches : Bool
  rotation : Option Refusal
  (newTenantId newId : String)
  (tenantSaveFails subQueryFails machineQueryFails machineSaveFails registrationSaveFails : Bool)
  (signFails subSaveFails keySaveFails : Bool)

structure ActivateAnswer where
  signedPayload : SubscriptionPayload
  tenantId : String

variable (lower : String → String)

def trialSegmentation (vertical : String) : String × Int :=
  let v := lower (trim vertical)
  if v = "restaurant" ∨ v = "cafe" then ("pro", 14)
  else if v = "enterprise_referral" then ("pro", 30)
  else if v = "enterprise_self_serve" then ("enterprise", 30)
  else ("plus", 14)

def isLowerHexDigit (c : Char) : Bool := ('a' ≤ c && c ≤ 'f') || ('0' ≤ c && c ≤ '9')

/-- The 15 digits of a machine id or `hw_` and 64 digits, else `""`. -/
def normalizeHardwareFingerprint (fp : String) : String :=
  let fp := lower (trim fp)
  if fp.length = 15 then if fp.toList.all isLowerHexDigit then fp else ""
  else if fp.startsWith "hw_" && fp.length = 67 && (fp.toList.drop 3).all isLowerHexDigit then fp
  else ""

namespace ActivateRequest

variable (lower : String → String) (req : ActivateRequest)

/-- The fingerprint of the device, else its machine id, where one of them has the form. -/
def fingerprint : String :=
  let fp := normalizeHardwareFingerprint lower req.hardwareFingerprint
  if fp = "" then normalizeHardwareFingerprint lower req.machineId else fp

end ActivateRequest

def trialAlreadyClaimed : Refusal :=
  ⟨403, "A trial has already been claimed for this device. Purchase a license to continue."⟩

/-- What `enforceTrialLock` does with the registration that it found: `none` refuses. A
registration that cannot be saved is not fatal. -/
def enforceTrialLock (found : Option TrialRegistration) (fp tenantId : String) (trialDays : Int)
    (saveFails : Bool) (now : Int) (db : ServerDb) : Option ServerDb :=
  if fp = "" then some db
  else
    match found with
    | none =>
      let claim := ⟨fp, tenantId, Calendar.addDate 0 0 trialDays now⟩
      some (if saveFails then db else { db with trials := db.trials.insertNew claim })
    | some r => if r.tenantId ≠ "" && r.tenantId ≠ tenantId then none else some db

/-- `0` is no limit. -/
def maxMachinesForTier (tier : String) : Nat :=
  if tier = "free" then 1
  else if tier = "plus" then 2
  else if tier = "pro" then 3
  else if tier = "premium" then 10
  else if tier = "enterprise" then 0
  else 1

variable (db : ServerDb)

def ServerDb.machinesOf (tenantId : String) : List MachineRecord :=
  db.machines.rows.filter (fun m => m.tenantId = tenantId)

variable (tenantId machineId : String) (limit : Nat)

def machineLimitExceeded (queryFails : Bool) : Bool :=
  let machines := if queryFails then [] else db.machinesOf tenantId
  0 < limit && limit ≤ machines.length && !machines.any (fun m => m.id = machineId)

/-- `none` is a machine of another tenant. A save that fails is only logged. -/
def registerMachine (machineId tenantId : String) (checkOwnership saveFails : Bool) (now : Int)
    (db : ServerDb) : Option ServerDb :=
  match db.machines.find? machineId with
  | none =>
    some (if saveFails then db
      else { db with machines :=
        db.machines.insertNew ⟨machineId, tenantId, "", now, now, none, ""⟩ })
  | some m =>
    if checkOwnership && m.tenantId ≠ tenantId then none
    else
      some (if saveFails then db
        else { db with machines :=
          db.machines.update machineId (fun m => { m with lastSeenAt := now }) (fun _ => rfl) })

def machineLimitReached (tier : String) : Refusal :=
  ⟨409, "machine limit reached (" ++ toString limit ++ " machines allowed on " ++ tier ++
    " tier). Upgrade to add more."⟩

def LicenseDb.latestActive (db : LicenseDb) (tenantId : String) : Option SubscriptionRecord :=
  @List.argmax _ Int Int.instLinearOrder.toPreorder inferInstance SubscriptionRecord.startsAt
    (db.subscriptions.rows.filter (fun s => s.tenantId = tenantId ∧ s.status = .active))

def invalidKey : Refusal := ⟨401, "invalid license key"⟩

def invalidOrUsedKey : Refusal := ⟨401, "invalid or already used license key"⟩

def ProviderIds.issued (ids : ProviderIds) : Bool :=
  ids.paddleSubId ≠ "" || ids.midtransSubId ≠ ""

/-- `handleReactivation` of a key that the tenant activated before. -/
def reactivate (d : ActivateDraw) (now : Int) (db : ServerDb) :
    ServerDb × Except Refusal ActivateAnswer :=
  match if d.subQueryFails then none else db.licenses.latestActive tenantId with
  | none => (db, .error ⟨500, "failed to find active subscription for reused key"⟩)
  | some s =>
    let limit := maxMachinesForTier s.tierKey
    if machineLimitExceeded db tenantId machineId limit d.machineQueryFails then
      (db, .error (machineLimitReached limit s.tierKey))
    else
      let db := (registerMachine machineId tenantId false d.machineSaveFails now db).getD db
      match if d.apiKeyMatches then none else d.rotation with
      | some refusal => (db, .error refusal)
      | none => (db, .ok ⟨s.signedPayload, tenantId⟩)

structure Admission where
  tenantId : String
  key : LicenseKeyRecord

/-- `none` is an id that is taken. -/
def ServerDb.openTenant (id email : String) : Option ServerDb :=
  if db.tenants.rows.any (fun t => t.id = id) then none
  else some { db with tenants := db.tenants.insertNew ⟨id, email, .active⟩ }

variable (lower : String → String) (req : ActivateRequest) (d : ActivateDraw)

/-- `handleActivate` up to the expiry of the key: its lookup, the tenant of the email, which is
opened where there is none, and the proof that the caller is the tenant's. `inl` is an answer. -/
def authorize (now : Int)
    (db : ServerDb) : ServerDb × (Except Refusal ActivateAnswer ⊕ Admission) :=
  let email := lower (trim req.email)
  if req.key = "" ∨ email = "" ∨ req.machineId = "" then
    (db, .inl (.error ⟨400, "key, email, and machine_id are required"⟩))
  else
    match d.refused with
    | some refusal => (db, .inl (.error refusal))
    | none =>
      match db.licenses.keys.find? req.key with
      | none => (db, .inl (.error invalidKey))
      | some k =>
        match db.tenants.find? email with
        | none =>
          if k.status ≠ .unused then (db, .inl (.error invalidOrUsedKey))
          else
            match if d.tenantSaveFails then none else db.openTenant d.newTenantId email with
            | none => (db, .inl (.error ⟨500, "failed to create tenant"⟩))
            | some db => (db, .inr ⟨d.newTenantId, k⟩)
        | some t =>
          if t.status ≠ .active then
            (db, .inl (.error ⟨403, "tenant account is suspended or revoked"⟩))
          else if k.status = .activated ∧ k.activatedBy = t.id then
            let (db, answer) := reactivate t.id req.machineId d now db
            (db, .inl answer)
          else if k.status ≠ .unused then (db, .inl (.error invalidOrUsedKey))
          else if k.ids.issued then
            if d.tenantSaveFails then (db, .inl (.error ⟨500, "failed to create api_key"⟩))
            else (db, .inr ⟨t.id, k⟩)
          else if d.apiKeyMatches then (db, .inr ⟨t.id, k⟩)
          else
            (db, .inl (.error ⟨401, "api_key required (or mismatched) — caller is not " ++
              "the registered administrator of this tenant"⟩))

variable (k : LicenseKeyRecord)

/-- The tier that the machine limit is read from, and that of what is minted: a trial's is that of
its vertical. -/
def mintedTier : String :=
  if k.isTrial then (trialSegmentation lower req.trialVertical).1 else k.tierKey

def mintedExpiry (now : Int) : Int :=
  if k.isTrial then Calendar.addDate 0 0 (trialSegmentation lower req.trialVertical).2 now
  else calculateExpiry k.tierKey now

def markActivated (tenantId : String) (k : LicenseKeyRecord) (saveFails : Bool) (db : LicenseDb) :
    LicenseDb :=
  if saveFails then db
  else
    db.updateKey k.key (fun k => { k with status := .activated, activatedBy := tenantId })
      (fun _ => rfl)

def mintedRecord (id tenantId tier : String) (expiresAt now : Int) : SubscriptionRecord :=
  SubscriptionRecord.resigned
    { SubscriptionRecord.blank id ⟨"", "", ""⟩ with
      tenantId := tenantId
      tierKey := tier
      status := .active
      startsAt := now
      expiresAt := expiresAt
      graceUntil := calculateGraceUntil tier expiresAt } now

/-- A key of Paddle answers with the subscription that its webhook made, where one is active; else
a subscription is minted. -/
def grantLicense (a : Admission)
    (now : Int) (db : LicenseDb) : LicenseDb × Except Refusal ActivateAnswer :=
  let reused :=
    if a.key.ids.paddleSubId = "" ∨ d.subQueryFails = true then none
    else db.latestActive a.tenantId
  match reused with
  | some s => (markActivated a.tenantId a.key d.keySaveFails db, .ok ⟨s.signedPayload, a.tenantId⟩)
  | none =>
    if d.signFails then (db, .error ⟨500, "signing failed"⟩)
    else
      let record := mintedRecord d.newId a.tenantId (mintedTier lower req a.key)
        (mintedExpiry lower req a.key now) now
      match if d.subSaveFails then none else db.insertSubscription record with
      | none => (db, .error ⟨500, "failed to save subscription"⟩)
      | some db =>
        (markActivated a.tenantId a.key d.keySaveFails db,
          .ok ⟨record.signedPayload, a.tenantId⟩)

/-- `handleActivate` from the expiry of the key on, with the registration of the device as the
trial lock found it. -/
def activateAdmitted (a : Admission) (found : Option TrialRegistration) (now : Int)
    (db : ServerDb) : ServerDb × Except Refusal ActivateAnswer :=
  if a.key.expiresAt < now then (db, .error ⟨410, "license key has expired"⟩)
  else
    let locked :=
      if a.key.isTrial then
        enforceTrialLock found (req.fingerprint lower) a.tenantId
          (trialSegmentation lower req.trialVertical).2 d.registrationSaveFails now db
      else some db
    match locked with
    | none => (db, .error trialAlreadyClaimed)
    | some db =>
      let tier := mintedTier lower req a.key
      let limit := maxMachinesForTier tier
      if machineLimitExceeded db a.tenantId req.machineId limit d.machineQueryFails then
        (db, .error (machineLimitReached limit tier))
      else
        match registerMachine req.machineId a.tenantId true d.machineSaveFails now db with
        | none => (db, .error ⟨409, "machine already registered to a different tenant"⟩)
        | some db =>
          let (licenses, answer) := grantLicense lower req d a now db.licenses
          ({ db with licenses := licenses }, answer)

def handleActivate (now : Int) (db : ServerDb) : ServerDb × Except Refusal ActivateAnswer :=
  match authorize lower req d now db with
  | (db, .inl answer) => (db, answer)
  | (db, .inr a) =>
    activateAdmitted lower req d a (db.trials.find? (req.fingerprint lower)) now db

/-- `refused` is what the gates before the handlers answer: rate limits and the tenant's api_key. -/
structure RenewDraw where
  refused : Option Refusal
  (subQueryFails signFails : Bool)
  newId : String
  (subSaveFails oldSaveFails keySaveFails : Bool)

/-- Its switch over the tier is that of `calculateExpiry`, from the end of the subscription where
that is still to come. -/
def handleRenew (tenantId key : String) (d : RenewDraw) (now : Int) (db : LicenseDb) :
    LicenseDb × Except Refusal SubscriptionPayload :=
  match d.refused with
  | some refusal => (db, .error refusal)
  | none =>
    match db.keys.find? key with
    | none => (db, .error invalidOrUsedKey)
    | some k =>
      if k.status ≠ .unused then (db, .error invalidOrUsedKey)
      else if k.expiresAt < now then (db, .error ⟨410, "license key has expired"⟩)
      else
        match if d.subQueryFails then none else db.latestActive tenantId with
        | none => (db, .error ⟨404, "no active subscription found to renew"⟩)
        | some current =>
          if d.signFails then (db, .error ⟨500, "signing failed"⟩)
          else
            let base := if current.expiresAt < now then now else current.expiresAt
            let record := mintedRecord d.newId tenantId k.tierKey (calculateExpiry k.tierKey base) now
            match if d.subSaveFails then none else db.insertSubscription record with
            | none => (db, .error ⟨500, "failed to save subscription"⟩)
            | some db =>
              let db :=
                if d.oldSaveFails then db
                else
                  db.updateSubscription current.id (fun s => { s with status := .expired })
                    (fun _ => rfl)
              (markActivated tenantId k d.keySaveFails db, .ok record.signedPayload)

structure PauseDraw where
  refused : Option Refusal
  (signFails saveFails : Bool)

def LicenseDb.firstWith (db : LicenseDb) (tenantId : String) (status : SubscriptionStatus) :
    Option SubscriptionRecord :=
  db.subscriptions.rows.find? (fun s => s.tenantId = tenantId ∧ s.status = status)

def handlePause (tenantId : String) (pauseMonths : Int) (d : PauseDraw) (now : Int)
    (db : LicenseDb) : LicenseDb × Except Refusal Int :=
  if pauseMonths < 1 ∨ 3 < pauseMonths then
    (db, .error ⟨400, "pause_months must be 1, 2, or 3"⟩)
  else
    match d.refused with
    | some refusal => (db, .error refusal)
    | none =>
      match db.firstWith tenantId .active with
      | none => (db, .error ⟨404, "no active subscription found"⟩)
      | some s =>
        let pausedUntil := Calendar.addDate 0 pauseMonths 0 now
        if d.saveFails then (db, .error ⟨500, "failed to pause subscription"⟩)
        else
          (db.updateSubscription s.id
            (fun s => { s with
              status := .paused, pausedAt := some now, pausedUntil := some pausedUntil })
            (fun _ => rfl), .ok pausedUntil)

namespace SubscriptionRecord

variable (s : SubscriptionRecord)

def extension (now : Int) : Int :=
  match s.pausedAt with
  | none => 0
  | some pausedAt =>
    let ends := (s.pausedUntil.filter (fun t => t < now)).getD now
    if pausedAt < ends then ends - pausedAt else 0

/-- `resumeSubscription`, with the record that it saves. -/
def resumedFrom (now : Int) : SubscriptionRecord :=
  SubscriptionRecord.resigned
    { s with
      status := .active
      pausedAt := none
      pausedUntil := none
      expiresAt := s.expiresAt + s.extension now
      graceUntil := calculateGraceUntil s.tierKey (s.expiresAt + s.extension now) } now

end SubscriptionRecord

def handleResume (tenantId : String) (d : PauseDraw) (now : Int) (db : LicenseDb) :
    LicenseDb × Except Refusal SubscriptionPayload :=
  match d.refused with
  | some refusal => (db, .error refusal)
  | none =>
    match db.firstWith tenantId .paused with
    | none => (db, .error ⟨404, "no paused subscription found"⟩)
    | some s =>
      if d.signFails || d.saveFails then (db, .error ⟨500, "failed to resume subscription"⟩)
      else
        (db.updateSubscription s.id (fun s => s.resumedFrom now) (fun _ => rfl),
          .ok (s.resumedFrom now).signedPayload)

/-- The records that `runAutoResumeScanner` resumes. -/
def dueForResume (s : SubscriptionRecord) (now : Int) : Bool :=
  s.status = .paused && s.pausedUntil.any (fun t => t < now)

/-- It resumes record by record; one that cannot be signed or saved stays for the next scan. -/
def runAutoResumeScanner (fails : String → Bool) (now : Int) (db : LicenseDb) : LicenseDb :=
  ((db.subscriptions.rows.filter (fun s => dueForResume s now)).filter
    (fun s => !fails s.id)).foldl
      (fun db s => db.updateSubscription s.id (fun s => s.resumedFrom now) (fun _ => rfl)) db

end OzPos
