import OzPos.Licensing.Subscription

namespace OzPos

/-- A `tenant_subscription` row as it is stored. -/
structure SubscriptionColumns where
  (tenantId tierKey status : String)
  expiresAt : Option String
  (maxLocations maxPosInstances : Int)
  (allowedTypesJson signature : String)
  signedPayload : Option String

abbrev SubscriptionTable : Type := Table String SubscriptionColumns SubscriptionColumns.tenantId

inductive LicenseError where
  | licenseRevoked (message : String)
  | invalidSubscriptionSignature
  | internal (message : String)
  deriving DecidableEq

/-- The RSA verification under the licence server's public key: payload, then signature. -/
abbrev RsaVerifier : Type := String → String → Bool

def bootstrapFreeSignature : String := "BOOTSTRAP_FREE"

structure SignedSubscriptionPayload where
  (tenantId tierKey status : String)
  (maxLocations maxStores : Option Int)
  maxPosInstances : Int
  (allowedTypes addons : List String)
  (startsAt expiresAt graceUntil issuedAt : String)
  isTrial : Bool
  trialEndsAt : Option String
  features : List (String × Bool)

namespace SignedSubscriptionPayload

def features? : Json → Option (List (String × Bool))
  | .obj members => members.mapM (fun m => m.2.asBool?.map (fun b => (m.1, b)))
  | _ => none

def parse (doc : Json) : Option SignedSubscriptionPayload := do
  let body ← Json.body? 15 doc
  return {
    tenantId := ← body.required 0 "tenant_id" Json.asStr?
    tierKey := ← body.required 1 "tier_key" Json.asStr?
    status := ← body.required 2 "status" Json.asStr?
    maxLocations := ← body.defaulted 3 "max_locations" (Json.orNull Json.asI64?) none
    maxStores := ← body.defaulted 4 "max_stores" (Json.orNull Json.asI64?) none
    maxPosInstances := ← body.defaulted 5 "max_pos_instances" Json.asI64? 0
    allowedTypes := ← body.defaulted 6 "allowed_types" (Json.list? Json.asStr?) []
    addons := ← body.defaulted 7 "addons" (Json.list? Json.asStr?) []
    startsAt := ← body.required 8 "starts_at" Json.asStr?
    expiresAt := ← body.required 9 "expires_at" Json.asStr?
    graceUntil := ← body.required 10 "grace_until" Json.asStr?
    issuedAt := ← body.required 11 "issued_at" Json.asStr?
    isTrial := ← body.defaulted 12 "is_trial" Json.asBool? false
    trialEndsAt := ← body.defaulted 13 "trial_ends_at" (Json.orNull Json.asStr?) none
    features := ← body.defaulted 14 "features" features? [] }

end SignedSubscriptionPayload

def Readers.signedPayload (r : Readers) (text : String) : Option SignedSubscriptionPayload :=
  (r.json text).bind SignedSubscriptionPayload.parse

namespace TenantSubscription

def fromColumns (row : SubscriptionColumns) : TenantSubscription :=
  ⟨row.tenantId, .fromDb row.tierKey, row.status, row.expiresAt, row.allowedTypesJson,
    row.signature, row.signedPayload.getD ""⟩

def load (table : SubscriptionTable) (tenantId : String) : Option TenantSubscription :=
  (table.find? tenantId).map fromColumns

variable (r : Readers) (rsa : RsaVerifier) (sub : TenantSubscription)

/-- The row that the schema seeds: a marker in place of a signature, on the free tier. -/
def isBootstrap : Bool := sub.signature = bootstrapFreeSignature && sub.tier.tierKey = "free"

/-- `verify_signature` of a release build. -/
def verifySignature : Except LicenseError Unit :=
  if sub.isBootstrap then .ok ()
  else if rsa sub.signedPayload sub.signature then .ok ()
  else .error .invalidSubscriptionSignature

def allowedTypes : Option (List String) :=
  (r.json sub.allowedTypesJson).bind (Json.list? Json.asStr?)

/-- A list of types as it stands; an empty or unreadable one leaves the tier's own. -/
def typesAllowed (tier : SubscriptionTier) (types : Option (List String)) (typeKey : String) :
    Bool :=
  match types with
  | some types => if types.isEmpty then tier.allowsWorkspaceType typeKey else types.contains typeKey
  | none => tier.allowsWorkspaceType typeKey

def allowsWorkspaceTypeAt (now : Int) (typeKey : String) : Bool :=
  if sub.isWithinGracePeriodAt r now then typesAllowed sub.tier (sub.allowedTypes r) typeKey
  else SubscriptionTier.free.allowsWorkspaceType typeKey

def addons : List String :=
  if sub.signedPayload.isEmpty then []
  else
    ((((r.json sub.signedPayload).map Json.value).bind (Json.get? "addons")).bind
      (Json.list? Json.asStr?)).getD []

end TenantSubscription

structure Entitlements where
  tier : SubscriptionTier
  state : SubscriptionLifecycleState
  loaded : Bool
  addons : List String
  isTrial : Bool
  trialEndsAt : Option String

namespace Entitlements

def fromSubscription (r : Readers) (sub : TenantSubscription) (now : Int) : Entitlements :=
  ⟨sub.effectiveTierAt r now, sub.lifecycleStateAt r now, true, sub.addons r,
    (sub.parsedTrial r).1, (sub.parsedTrial r).2⟩

def failClosed : Entitlements := ⟨.free, .unavailable, false, [], false, none⟩

end Entitlements

def loadVerifiedSubscription (rsa : RsaVerifier) (table : SubscriptionTable) :
    Option TenantSubscription :=
  match TenantSubscription.load table "default" with
  | none => none
  | some sub =>
    match sub.verifySignature rsa with
    | .ok () => some sub
    | .error _ => none

variable (r : Readers)

def buildEntitlements (rsa : RsaVerifier) (table : SubscriptionTable) (now : Int) : Entitlements :=
  match loadVerifiedSubscription rsa table with
  | none => .failClosed
  | some sub => .fromSubscription r sub now

namespace TenantSubscription

variable (sub : TenantSubscription) (payload : SignedSubscriptionPayload)

def onTierOf : TenantSubscription :=
  { sub with tier := .fromDb payload.tierKey }

def signedTypesAt (now : Int) (typeKey : String) : Bool :=
  if (sub.onTierOf payload).isWithinGracePeriodAt r now then
    typesAllowed (.fromDb payload.tierKey) (some payload.allowedTypes) typeKey
  else SubscriptionTier.free.allowsWorkspaceType typeKey

/-- Tier and types are those of the payload, in the row and in the entitlements. -/
structure GrantedBy (r : Readers) (sub : TenantSubscription) (payload : SignedSubscriptionPayload)
    (entitlements : Int → Entitlements) : Prop where
  tier : sub.tier = .fromDb payload.tierKey
  entitled : ∀ now, (entitlements now).tier = (sub.onTierOf payload).effectiveTierAt r now
  types : ∀ now typeKey, sub.allowsWorkspaceTypeAt r now typeKey = sub.signedTypesAt r payload now typeKey

structure GrantsFree (r : Readers) (sub : TenantSubscription) (entitlements : Int → Entitlements) :
    Prop where
  tier : sub.tier.tierKey = "free"
  entitled : ∀ now, (entitlements now).tier.tierKey = "free"
  types : ∀ now typeKey, sub.allowsWorkspaceTypeAt r now typeKey =
    SubscriptionTier.free.allowsWorkspaceType typeKey

/-- The row of the tenant, once accepted, entitles to what was signed, and the seeded one to the
free tier. -/
structure EntitledAsSigned (r : Readers) (rsa : RsaVerifier) (table : SubscriptionTable)
    (sub : TenantSubscription) : Prop where
  bootstrap : sub.isBootstrap = true → sub.GrantsFree r (buildEntitlements r rsa table)
  signed : sub.isBootstrap = false → sub.verifySignature rsa = .ok () →
    ∃ payload ∈ r.signedPayload sub.signedPayload,
      sub.GrantedBy r payload (buildEntitlements r rsa table)

def NeverWithin : Prop :=
  sub.status = "canceled" ∨ sub.status = "revoked" ∨
    (sub.tier ≠ .free ∧ ∃ expiresAt ∈ sub.expiresAt, r.rfc3339 expiresAt = none)

/-- The columns of an accepted row say what was signed. -/
structure ColumnsAgree (r : Readers) (rsa : RsaVerifier) (sub : TenantSubscription) : Prop where
  bootstrap : sub.isBootstrap = true → sub.NeverWithin r ∨
    ∀ typeKey, typesAllowed sub.tier (sub.allowedTypes r) typeKey =
      SubscriptionTier.free.allowsWorkspaceType typeKey
  signed : sub.isBootstrap = false → rsa sub.signedPayload sub.signature = true →
    ∃ payload ∈ r.signedPayload sub.signedPayload, sub.tier = .fromDb payload.tierKey ∧
      (sub.NeverWithin r ∨ ∀ typeKey, typesAllowed sub.tier (sub.allowedTypes r) typeKey =
        typesAllowed sub.tier (some payload.allowedTypes) typeKey)

variable {r : Readers} {rsa : RsaVerifier} {sub : TenantSubscription}

theorem within_of_neverWithin (h : sub.NeverWithin r) (now : Int) :
    sub.isWithinGracePeriodAt r now = false := by
  rcases h with hcanceled | hrevoked | ⟨hpaid, expiresAt, hexpires, hread⟩
  · exact within_of_ended (.inl hcanceled)
  · exact within_of_ended (.inr hrevoked)
  · by_cases hended : sub.status = "canceled" ∨ sub.status = "revoked"
    · exact within_of_ended hended
    · obtain ⟨hcanceled, hrevoked⟩ := not_or.mp hended
      rw [within_eq_datesHold hpaid hcanceled hrevoked]
      simp only [Option.mem_def] at hexpires
      simp [datesHold, hexpires, hread]

theorem exists_within (h : ¬sub.NeverWithin r) : ∃ now, sub.isWithinGracePeriodAt r now = true := by
  simp only [NeverWithin, not_or, not_and, not_exists] at h
  obtain ⟨hcanceled, hrevoked, hreadable⟩ := h
  by_cases hfree : sub.tier = .free
  · exact ⟨0, by simp [isWithinGracePeriodAt, hcanceled, hrevoked, hfree]⟩
  · have hwithin : ∀ now, sub.isWithinGracePeriodAt r now = sub.datesHold r now :=
      fun now => within_eq_datesHold hfree hcanceled hrevoked
    simp only [hwithin, datesHold]
    cases hexpires : sub.expiresAt with
    | none => exact ⟨0, rfl⟩
    | some expiresAt =>
      cases hread : r.rfc3339 expiresAt with
      | none => exact absurd hread (hreadable hfree expiresAt hexpires)
      | some expiry =>
        cases hend : sub.trialEndsAtDatetime r with
        | none => exact ⟨expiry + sub.graceSpan, by simp [hread, trialOver, hend]⟩
        | some trialEnd =>
          refine ⟨min trialEnd (expiry + sub.graceSpan), ?_⟩
          simp [hread, trialOver, hend]

theorem types_agree_iff (allowed : String → Bool) :
    (∀ now typeKey, sub.allowsWorkspaceTypeAt r now typeKey =
      if sub.isWithinGracePeriodAt r now then allowed typeKey
      else SubscriptionTier.free.allowsWorkspaceType typeKey) ↔
      sub.NeverWithin r ∨ ∀ typeKey, typesAllowed sub.tier (sub.allowedTypes r) typeKey =
        allowed typeKey := by
  constructor
  · intro h
    by_cases hnever : sub.NeverWithin r
    · exact .inl hnever
    · right
      intro typeKey
      obtain ⟨now, hnow⟩ := exists_within hnever
      have hsame := h now typeKey
      simpa [allowsWorkspaceTypeAt, hnow] using hsame
  · rintro (hnever | hsame) now typeKey
    · simp [allowsWorkspaceTypeAt, within_of_neverWithin hnever now]
    · simp [allowsWorkspaceTypeAt, hsame typeKey]

theorem grantsFree_iff (hfree : sub.tier.tierKey = "free") :
    sub.GrantsFree r (Entitlements.fromSubscription r sub) ↔ sub.NeverWithin r ∨
      ∀ typeKey, typesAllowed sub.tier (sub.allowedTypes r) typeKey =
        SubscriptionTier.free.allowsWorkspaceType typeKey := by
  rw [← types_agree_iff]
  simp only [ite_self]
  constructor
  · exact fun h => h.types
  · intro htypes
    refine ⟨hfree, ?_, htypes⟩
    intro now
    simp only [Entitlements.fromSubscription, effectiveTierAt]
    split
    · exact hfree
    · rfl

theorem grantedBy_iff :
    sub.GrantedBy r payload (Entitlements.fromSubscription r sub) ↔ sub.tier = .fromDb payload.tierKey ∧
      (sub.NeverWithin r ∨ ∀ typeKey, typesAllowed sub.tier (sub.allowedTypes r) typeKey =
        typesAllowed sub.tier (some payload.allowedTypes) typeKey) := by
  by_cases htier : sub.tier = .fromDb payload.tierKey
  · have hsame : sub.onTierOf payload = sub := by
      rw [onTierOf, ← htier]
    rw [← types_agree_iff]
    constructor
    · intro h
      refine ⟨htier, ?_⟩
      intro now typeKey
      rw [h.types, signedTypesAt, hsame, ← htier]
    · rintro ⟨-, htypes⟩
      refine ⟨htier, ?_, ?_⟩
      · intro now
        rw [hsame]
        rfl
      · intro now typeKey
        rw [htypes, signedTypesAt, hsame, ← htier]
  · constructor
    · exact fun h => absurd h.tier htier
    · exact fun h => absurd h.1 htier

theorem verifySignature_ok_iff (h : sub.isBootstrap = false) :
    sub.verifySignature rsa = .ok () ↔ rsa sub.signedPayload sub.signature = true := by
  unfold verifySignature
  cases rsa sub.signedPayload sub.signature <;> simp [h]

theorem verifySignature_bootstrap (h : sub.isBootstrap = true) :
    sub.verifySignature rsa = .ok () := by
  simp [verifySignature, h]

theorem buildEntitlements_eq {table : SubscriptionTable} (hload : load table "default" = some sub)
    (hverified : sub.verifySignature rsa = .ok ()) :
    buildEntitlements r rsa table = Entitlements.fromSubscription r sub := by
  funext now
  simp [buildEntitlements, loadVerifiedSubscription, hload, hverified]

/-- The tenant's row entitles to what was signed just when its columns say what was signed. -/
theorem entitled_as_signed_iff (r : Readers) (rsa : RsaVerifier) (table : SubscriptionTable) :
    (∀ sub ∈ load table "default", sub.EntitledAsSigned r rsa table) ↔
      ∀ sub ∈ load table "default", sub.ColumnsAgree r rsa := by
  refine forall₂_congr ?_
  intro sub hload
  have hbootstrap : ∀ h : sub.isBootstrap = true, sub.GrantsFree r (buildEntitlements r rsa table) ↔
      sub.NeverWithin r ∨ ∀ typeKey, typesAllowed sub.tier (sub.allowedTypes r) typeKey =
        SubscriptionTier.free.allowsWorkspaceType typeKey := by
    intro h
    rw [buildEntitlements_eq hload (verifySignature_bootstrap h)]
    simp only [isBootstrap, Bool.and_eq_true, decide_eq_true_eq] at h
    exact grantsFree_iff h.2
  constructor
  · intro h
    refine ⟨fun hseeded => (hbootstrap hseeded).mp (h.bootstrap hseeded), ?_⟩
    intro hseeded hrsa
    have hverified := (verifySignature_ok_iff hseeded).mpr hrsa
    obtain ⟨payload, hpayload, hgranted⟩ := h.signed hseeded hverified
    rw [buildEntitlements_eq hload hverified] at hgranted
    exact ⟨payload, hpayload, (grantedBy_iff payload).mp hgranted⟩
  · intro h
    refine ⟨fun hseeded => (hbootstrap hseeded).mpr (h.bootstrap hseeded), ?_⟩
    intro hseeded hverified
    obtain ⟨payload, hpayload, hagree⟩ :=
      h.signed hseeded ((verifySignature_ok_iff hseeded).mp hverified)
    rw [buildEntitlements_eq hload hverified]
    exact ⟨payload, hpayload, (grantedBy_iff payload).mpr hagree⟩

end TenantSubscription

def plusDoc : Json :=
  .obj [("tenant_id", .str "t-1"), ("tier_key", .str "plus"), ("status", .str "active"),
    ("allowed_types", .arr []), ("starts_at", .str "2026-01-01T00:00:00Z"),
    ("expires_at", .str "2027-01-01T00:00:00Z"), ("grace_until", .str "2027-01-15T00:00:00Z"),
    ("issued_at", .str "2026-01-01T00:00:00Z")]

def plusReaders : Readers where
  rfc3339 text := if text = "2027-01-01T00:00:00Z" then some 1798761600000000000 else none
  json text := if text = "plus payload" then some plusDoc else if text = "[]" then some (.arr []) else none

/-- The Plus payload with its signature, and `enterprise` written over the tier. -/
def retouchedRow : SubscriptionColumns :=
  ⟨"default", "enterprise", "active", some "2027-01-01T00:00:00Z", 1, 2, "[]", "c2ln",
    some "plus payload"⟩

def retouchedTable : SubscriptionTable := Table.empty.insertNew retouchedRow

def plusVerifier : RsaVerifier := fun payload signature =>
  payload = "plus payload" && signature = "c2ln"

theorem retouchedRow_entitles_to_enterprise :
    ¬∀ sub ∈ TenantSubscription.load retouchedTable "default",
      sub.EntitledAsSigned plusReaders plusVerifier retouchedTable := by
  intro h
  have hrow := h (.fromColumns retouchedRow) (by decide)
  obtain ⟨payload, hpayload, hgranted⟩ := hrow.signed (by decide) (by decide)
  have hplus : payload.tierKey = "plus" := by
    have hparsed : (plusReaders.signedPayload "plus payload").map
        SignedSubscriptionPayload.tierKey = some "plus" := by decide
    rw [show plusReaders.signedPayload "plus payload" = some payload from hpayload] at hparsed
    exact Option.some.inj hparsed
  have htier := hgranted.tier
  rw [hplus] at htier
  exact absurd htier (by decide)

end OzPos
