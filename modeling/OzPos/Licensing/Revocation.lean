import OzPos.Licensing.SignedGrants
import OzPos.Library.Run

namespace OzPos

structure CrlEntry where
  (key keyHash : String)

structure CrlPayload where
  issuedAt : String
  entries : List CrlEntry
  (revokedTenants revokedDevices : List String)

/-- `sha256Hex` is the hex digest of a licence key. -/
def isRevokedInCrlPayload (sha256Hex : String → String) (crl : CrlPayload)
    (licenseKey tenantId machineId : Option String) : Bool :=
  tenantId.any (fun tid => crl.revokedTenants.contains tid) ||
    machineId.any (fun mid => crl.revokedDevices.contains mid) ||
    licenseKey.any (fun key =>
      crl.entries.any (fun e => e.key = key || e.keyHash = sha256Hex key))

structure LicenseStatusResponse where
  (tenantId status : String)
  deviceRevoked : Bool
  hardwareVerified : Option Bool
  expiresAt : Option String

/-- `applied` is history: the lists that were applied, the first first. -/
structure LicenseStore where
  subscriptions : SubscriptionTable
  crlCache : Option CrlPayload
  deviceRevoked : Bool
  machineId : Option String
  applied : List CrlPayload

def withStatus (status : String) (expiresAt : Option String) (row : SubscriptionColumns) :
    SubscriptionColumns :=
  { row with status := status, expiresAt := expiresAt }

namespace LicenseStore

variable (sha256Hex : String → String) (s : LicenseStore)

def refreshSubscriptionStatusFromServer (tenantId status : String) (expiresAt : Option String) :
    LicenseStore :=
  { s with
    subscriptions := s.subscriptions.update tenantId (withStatus status expiresAt) (fun _ => rfl) }

def isRevokedInCachedCrl (licenseKey tenantId machineId : Option String) : Bool :=
  match s.crlCache with
  | none => false
  | some crl => isRevokedInCrlPayload sha256Hex crl licenseKey tenantId machineId

def applyCrlToCache (crl : CrlPayload) (tenantId licenseKey machineId : Option String) :
    LicenseStore × Bool :=
  let s := { s with crlCache := some crl, applied := s.applied ++ [crl] }
  if isRevokedInCrlPayload sha256Hex crl licenseKey tenantId machineId then
    let s := s.refreshSubscriptionStatusFromServer (tenantId.getD "default") "revoked" none
    if machineId.any (fun mid => crl.revokedDevices.contains mid) then
      ({ s with deviceRevoked := true }, true)
    else (s, true)
  else (s, false)

variable (resp : LicenseStatusResponse)

def applyLicenseVerdictToCache : LicenseStore × Bool :=
  let s := s.refreshSubscriptionStatusFromServer "default" resp.status resp.expiresAt
  ({ s with deviceRevoked := resp.deviceRevoked || resp.hardwareVerified = some false },
    ignoreCaseEq resp.status "revoked")

/-- `MACHINE_ID`, empty where it is not set. -/
def thisMachine : String := s.machineId.getD ""

/-- `check_license_status` of an activated installation; `crl` is the list fetched with it, if one
was and it verified. -/
def checkLicenseStatus (crl : Option CrlPayload) : LicenseStore :=
  let judged := (s.applyLicenseVerdictToCache resp).1
  match crl with
  | none => judged
  | some crl => (judged.applyCrlToCache sha256Hex crl (some resp.tenantId) none (some s.thisMachine)).1

def refreshLicenseCrl (crl : CrlPayload) : LicenseStore × Bool :=
  let tenantId := (TenantSubscription.load s.subscriptions "default").map TenantSubscription.tenantId
  s.applyCrlToCache sha256Hex crl tenantId none (some s.thisMachine)

def verifySignatureWithCrl (rsa : RsaVerifier) (sub : TenantSubscription)
    (machineId : Option String) : Except LicenseError Unit :=
  if ignoreCaseEq sub.status "revoked" then
    .error (.licenseRevoked s!"Tenant {sub.tenantId} is marked revoked")
  else if s.isRevokedInCachedCrl sha256Hex none (some sub.tenantId) machineId then
    .error (.licenseRevoked s!"Tenant {sub.tenantId} or device is present in revoked list (CRL)")
  else sub.verifySignature rsa

end LicenseStore

inductive LicenseEvent where
  | checkLicenseStatus (resp : LicenseStatusResponse) (crl : Option CrlPayload)
  | refreshLicenseCrl (crl : CrlPayload)

namespace LicenseEvent

def crl : LicenseEvent → Option CrlPayload
  | .checkLicenseStatus _ crl => crl
  | .refreshLicenseCrl crl => some crl

def status : LicenseEvent → Option String
  | .checkLicenseStatus resp _ => some resp.status
  | .refreshLicenseCrl _ => none

end LicenseEvent

variable (sha256Hex : String → String)

def licenseMachine : Machine LicenseStore LicenseEvent Unit where
  step s
    | .checkLicenseStatus resp crl => (s.checkLicenseStatus sha256Hex resp crl, ())
    | .refreshLicenseCrl crl => ((s.refreshLicenseCrl sha256Hex crl).1, ())

def installed (subscriptions : SubscriptionTable) (machineId : Option String) : LicenseStore :=
  ⟨subscriptions, none, false, machineId, []⟩

/-- What the licence server knows of the installation, besides its machine. -/
structure Installation where
  (tenantId licenseKey : String)

def Installation.named (at_ : Installation) (machineId : String) (crl : CrlPayload) : Bool :=
  isRevokedInCrlPayload sha256Hex crl (some at_.licenseKey) (some at_.tenantId) (some machineId)

variable (r : Readers)

def issuedLater (crl later : CrlPayload) : Bool :=
  match r.rfc3339 crl.issuedAt, r.rfc3339 later.issuedAt with
  | some t, some t' => t < t'
  | _, _ => false

/-- Some list named the installation, and none applied after it that no longer does was issued
later. -/
def standing (r : Readers) (named : CrlPayload → Bool) : List CrlPayload → Bool
  | [] => false
  | crl :: rest =>
    (named crl && rest.all (fun c => named c || !issuedLater r crl c)) || standing r named rest

/-- While a revocation stands, the stored row is refused as revoked. -/
def RevocationHolds (rsa : RsaVerifier) (at_ : Installation) (s : LicenseStore) : Prop :=
  ∀ sub ∈ TenantSubscription.load s.subscriptions "default",
    standing r (at_.named sha256Hex s.thisMachine) s.applied = true →
      ∃ message, s.verifySignatureWithCrl sha256Hex rsa sub (some s.thisMachine) =
        .error (.licenseRevoked message)

def RevocationSticks (rsa : RsaVerifier)
    (at_ : Installation) (start : LicenseStore) (events : List LicenseEvent) : Prop :=
  ∀ l rest, events = l ++ rest →
    RevocationHolds sha256Hex r rsa at_ ((licenseMachine sha256Hex).run start l)

/-- The list has what the check of the stored row looks for: its machine or the local tenant id. -/
def listsLocally (machineId : String) (crl : CrlPayload) : Bool :=
  crl.revokedTenants.contains "default" || crl.revokedDevices.contains machineId

/-- While a revocation stands after an event, the list applied last is one that the check looks
into, or the status is revoked by the response or since before. -/
def Barred (at_ : Installation) (s : LicenseStore) (e : LicenseEvent) : Prop :=
  ∀ sub ∈ TenantSubscription.load s.subscriptions "default",
    standing r (at_.named sha256Hex s.thisMachine) (s.applied ++ e.crl.toList) = true →
      (∃ crl ∈ e.crl.orElse (fun _ => s.crlCache), listsLocally s.thisMachine crl = true) ∨
        ignoreCaseEq (e.status.getD sub.status) "revoked" = true

variable {sha256Hex : String → String} {r : Readers} {rsa : RsaVerifier} {at_ : Installation}

theorem isRevokedInCrlPayload_local (machineId : String) (crl : CrlPayload) :
    isRevokedInCrlPayload sha256Hex crl none (some "default") (some machineId) =
      listsLocally machineId crl := by
  simp [isRevokedInCrlPayload, listsLocally]

theorem load_tenantId {table : SubscriptionTable} {tenantId : String} {sub : TenantSubscription}
    (h : TenantSubscription.load table tenantId = some sub) : sub.tenantId = tenantId := by
  simp only [TenantSubscription.load, Option.map_eq_some_iff] at h
  obtain ⟨row, hrow, rfl⟩ := h
  have hkey := Table.find?_key hrow
  exact hkey

namespace TenantSubscription

def withStatus (status : String) (expiresAt : Option String) (sub : TenantSubscription) :
    TenantSubscription :=
  { sub with status := status, expiresAt := expiresAt }

end TenantSubscription

namespace LicenseStore

variable {s : LicenseStore}

theorem verify_revoked_iff {sub : TenantSubscription} (htenant : sub.tenantId = "default")
    (machineId : String) :
    (∃ message, s.verifySignatureWithCrl sha256Hex rsa sub (some machineId) =
      .error (.licenseRevoked message)) ↔
      ignoreCaseEq sub.status "revoked" = true ∨
        ∃ crl ∈ s.crlCache, listsLocally machineId crl = true := by
  unfold verifySignatureWithCrl isRevokedInCachedCrl
  cases hstatus : ignoreCaseEq sub.status "revoked" with
  | true => simp
  | false =>
    cases s.crlCache with
    | none =>
      simp only [Bool.false_eq_true, if_false, TenantSubscription.verifySignature]
      split
      · simp
      · split <;> simp
    | some crl =>
      simp only [htenant, isRevokedInCrlPayload_local, Bool.false_eq_true, if_false]
      cases hlists : listsLocally machineId crl with
      | true => simp [hlists]
      | false =>
        simp only [Bool.false_eq_true, if_false, TenantSubscription.verifySignature]
        split
        · simp [hlists]
        · split <;> simp [hlists]

theorem load_refresh (tenantId status : String) (expiresAt : Option String) :
    TenantSubscription.load
        (s.refreshSubscriptionStatusFromServer tenantId status expiresAt).subscriptions "default" =
      (TenantSubscription.load s.subscriptions "default").map (fun sub =>
        if "default" = tenantId then sub.withStatus status expiresAt else sub) := by
  have hfind := Table.find?_update s.subscriptions tenantId (OzPos.withStatus status expiresAt)
    (fun _ => rfl) "default"
  have hload := congrArg (Option.map TenantSubscription.fromColumns) hfind
  refine hload.trans ?_
  rw [TenantSubscription.load, Option.map_map, Option.map_map]
  congr 1
  funext row
  simp only [Function.comp_apply]
  split <;> rfl

theorem load_verdict (resp : LicenseStatusResponse) :
    TenantSubscription.load (s.applyLicenseVerdictToCache resp).1.subscriptions "default" =
      (TenantSubscription.load s.subscriptions "default").map
        (fun sub => sub.withStatus resp.status resp.expiresAt) := by
  have hload := load_refresh (s := s) "default" resp.status resp.expiresAt
  simp only [if_true] at hload
  exact hload

theorem applyCrl_kept (sha256Hex : String → String) (s : LicenseStore) (crl : CrlPayload)
    (tenantId licenseKey machineId : Option String) :
    (s.applyCrlToCache sha256Hex crl tenantId licenseKey machineId).1.crlCache = some crl ∧
      (s.applyCrlToCache sha256Hex crl tenantId licenseKey machineId).1.applied =
        s.applied ++ [crl] ∧
      (s.applyCrlToCache sha256Hex crl tenantId licenseKey machineId).1.machineId = s.machineId := by
  unfold applyCrlToCache refreshSubscriptionStatusFromServer
  simp only
  split
  · split <;> exact ⟨rfl, rfl, rfl⟩
  · exact ⟨rfl, rfl, rfl⟩

theorem load_applyCrl (crl : CrlPayload) (tenantId licenseKey machineId : Option String) :
    TenantSubscription.load
        (s.applyCrlToCache sha256Hex crl tenantId licenseKey machineId).1.subscriptions "default" =
      (TenantSubscription.load s.subscriptions "default").map (fun sub =>
        if isRevokedInCrlPayload sha256Hex crl licenseKey tenantId machineId = true ∧
            "default" = tenantId.getD "default"
        then sub.withStatus "revoked" none else sub) := by
  unfold applyCrlToCache
  cases hrevoked : isRevokedInCrlPayload sha256Hex crl licenseKey tenantId machineId with
  | false => simp
  | true =>
    simp only [if_true, true_and]
    rw [← load_refresh]
    split <;> rfl

theorem load_step (sha256Hex : String → String) (s : LicenseStore) (e : LicenseEvent) :
    ∃ next : TenantSubscription → TenantSubscription,
      TenantSubscription.load ((licenseMachine sha256Hex).step s e).1.subscriptions "default" =
        (TenantSubscription.load s.subscriptions "default").map next ∧
      ∀ sub ∈ TenantSubscription.load s.subscriptions "default",
        (∃ crl ∈ e.crl, listsLocally s.thisMachine crl = true) ∨
          (next sub).status = e.status.getD sub.status := by
  cases e with
  | checkLicenseStatus resp crl =>
    cases crl with
    | none =>
      refine ⟨fun sub => sub.withStatus resp.status resp.expiresAt, load_verdict resp, ?_⟩
      intro sub _
      exact .inr rfl
    | some crl =>
      have hload : TenantSubscription.load ((licenseMachine sha256Hex).step s
          (.checkLicenseStatus resp (some crl))).1.subscriptions "default" = _ :=
        load_applyCrl (s := (s.applyLicenseVerdictToCache resp).1) crl (some resp.tenantId) none
          (some s.thisMachine)
      rw [load_verdict, Option.map_map] at hload
      refine ⟨_, hload, ?_⟩
      intro sub _
      by_cases hlists : listsLocally s.thisMachine crl = true
      · exact .inl ⟨crl, rfl, hlists⟩
      · right
        have hnot : ¬(isRevokedInCrlPayload sha256Hex crl none (some resp.tenantId)
            (some s.thisMachine) = true ∧ "default" = resp.tenantId) := by
          rintro ⟨hrevoked, htenant⟩
          rw [← htenant, isRevokedInCrlPayload_local] at hrevoked
          exact hlists hrevoked
        simp only [Function.comp_apply, Option.getD_some, if_neg hnot]
        rfl
  | refreshLicenseCrl crl =>
    have hload : TenantSubscription.load ((licenseMachine sha256Hex).step s
        (.refreshLicenseCrl crl)).1.subscriptions "default" = _ :=
      load_applyCrl crl ((TenantSubscription.load s.subscriptions "default").map
        TenantSubscription.tenantId) none (some s.thisMachine)
    refine ⟨_, hload, ?_⟩
    intro sub hsub
    have htenant := load_tenantId hsub
    simp only [Option.mem_def] at hsub
    simp only [hsub, Option.map_some, htenant, isRevokedInCrlPayload_local]
    by_cases hlists : listsLocally s.thisMachine crl = true
    · exact .inl ⟨crl, rfl, hlists⟩
    · right
      simp only [hlists, Bool.false_eq_true, false_and, if_false]
      rfl

theorem step_kept (sha256Hex : String → String) (s : LicenseStore) (e : LicenseEvent) :
    ((licenseMachine sha256Hex).step s e).1.crlCache = e.crl.orElse (fun _ => s.crlCache) ∧
      ((licenseMachine sha256Hex).step s e).1.applied = s.applied ++ e.crl.toList ∧
      ((licenseMachine sha256Hex).step s e).1.thisMachine = s.thisMachine := by
  cases e with
  | checkLicenseStatus resp crl =>
    cases crl with
    | none => exact ⟨rfl, by simp [licenseMachine, checkLicenseStatus, LicenseEvent.crl,
        applyLicenseVerdictToCache, refreshSubscriptionStatusFromServer], rfl⟩
    | some crl =>
      obtain ⟨hcache, happlied, hmachine⟩ := applyCrl_kept sha256Hex
        (s.applyLicenseVerdictToCache resp).1 crl (some resp.tenantId) none
          (some s.thisMachine)
      exact ⟨hcache, happlied, congrArg (Option.getD · "") hmachine⟩
  | refreshLicenseCrl crl =>
    obtain ⟨hcache, happlied, hmachine⟩ := applyCrl_kept sha256Hex s crl
      ((TenantSubscription.load s.subscriptions "default").map TenantSubscription.tenantId) none
        (some s.thisMachine)
    exact ⟨hcache, happlied, congrArg (Option.getD · "") hmachine⟩

end LicenseStore

open LicenseStore

theorem revocationHolds_step (sha256Hex : String → String) (r : Readers) (rsa : RsaVerifier)
    (at_ : Installation) (s : LicenseStore) (e : LicenseEvent) :
    RevocationHolds sha256Hex r rsa at_ ((licenseMachine sha256Hex).step s e).1 ↔
      Barred sha256Hex r at_ s e := by
  obtain ⟨next, hload, hstatus⟩ := load_step sha256Hex s e
  obtain ⟨hcache, happlied, hmachine⟩ := step_kept sha256Hex s e
  have hverify : ∀ sub ∈ TenantSubscription.load s.subscriptions "default",
      ((∃ message, ((licenseMachine sha256Hex).step s e).1.verifySignatureWithCrl sha256Hex rsa
          (next sub) (some s.thisMachine) = .error (.licenseRevoked message)) ↔
        (∃ crl ∈ e.crl.orElse (fun _ => s.crlCache), listsLocally s.thisMachine crl = true) ∨
          ignoreCaseEq (e.status.getD sub.status) "revoked" = true) := by
    intro sub hsub
    have htenant : (next sub).tenantId = "default" :=
      load_tenantId (by rw [hload, show TenantSubscription.load s.subscriptions "default" =
        some sub from hsub]; rfl)
    rw [verify_revoked_iff htenant, hcache, or_comm]
    rcases hstatus sub hsub with ⟨crl, hcrl, hlists⟩ | hsame
    · have hin : ∃ crl ∈ e.crl.orElse (fun _ => s.crlCache),
          listsLocally s.thisMachine crl = true := by
        simp only [Option.mem_def] at hcrl
        exact ⟨crl, by simp [hcrl], hlists⟩
      simp only [hin, true_or]
    · rw [hsame]
  unfold RevocationHolds Barred
  rw [hload, happlied, hmachine]
  constructor
  · intro h sub hsub hstanding
    exact (hverify sub hsub).mp (h (next sub) (Option.mem_map_of_mem next hsub) hstanding)
  · intro h after hafter hstanding
    obtain ⟨sub, hsub, rfl⟩ := Option.map_eq_some_iff.mp hafter
    exact (hverify sub hsub).mpr (h sub hsub hstanding)

/-- A revocation sticks in a run just when every event of it is barred. -/
theorem revocation_sticks_iff (sha256Hex : String → String) (r : Readers) (rsa : RsaVerifier)
    (at_ : Installation) (subscriptions : SubscriptionTable) (machineId : Option String)
    (events : List LicenseEvent) :
    RevocationSticks sha256Hex r rsa at_ (installed subscriptions machineId) events ↔
      (licenseMachine sha256Hex).Along (Barred sha256Hex r at_)
        (installed subscriptions machineId) events := by
  have hstart : RevocationHolds sha256Hex r rsa at_ (installed subscriptions machineId) := by
    intro sub _ hstanding
    simp [installed, standing] at hstanding
  unfold RevocationSticks
  rw [Machine.reached_iff_along]
  simp only [hstart, true_and, revocationHolds_step]

def revokedTenantCrl : CrlPayload := ⟨"2026-02-01T00:00:00Z", [], ["t-1"], []⟩

def activeRow : SubscriptionColumns :=
  ⟨"default", "plus", "active", some "2027-01-01T00:00:00Z", 1, 2, "[]", "c2ln", some "plus payload"⟩

/-- A status check that answers for the tenant, and the list that names it. -/
def revokedTenantRun : List LicenseEvent :=
  [.checkLicenseStatus ⟨"t-1", "active", false, none, some "2027-01-01T00:00:00Z"⟩
    (some revokedTenantCrl)]

theorem revokedTenantRun_verifies :
    ¬RevocationSticks id plusReaders plusVerifier ⟨"t-1", "KEY-1"⟩
      (installed (Table.empty.insertNew activeRow) (some "m-1")) revokedTenantRun := by
  intro h
  obtain ⟨message, hmessage⟩ := h revokedTenantRun [] (by simp) (.fromColumns activeRow)
    (by decide) (by decide)
  have hverified : ((licenseMachine id).run (installed (Table.empty.insertNew activeRow)
      (some "m-1")) revokedTenantRun).verifySignatureWithCrl id plusVerifier
        (.fromColumns activeRow) (some "m-1") = .ok () := by decide
  rw [show LicenseStore.thisMachine _ = "m-1" from rfl, hverified] at hmessage
  cases hmessage

end OzPos
