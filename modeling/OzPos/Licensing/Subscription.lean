import OzPos.Client.Settings

namespace OzPos

def storePos : String := "store-pos"
def restaurantPos : String := "restaurant-pos"
def kdsType : String := "kds"
def warehouseType : String := "warehouse"
def inventoryType : String := "inventory"
def adminType : String := "admin"

def isPosType (typeKey : String) : Bool := [storePos, restaurantPos].contains typeKey

inductive SubscriptionTier where
  | free
  | oneTime
  | plus
  | pro
  | premium
  | enterprise
  deriving DecidableEq

namespace SubscriptionTier

def fromDb (s : String) : SubscriptionTier :=
  match asciiLowercase s with
  | "free" | "trial" => .free
  | "one_time" | "perpetual" | "one-time" | "onetime" => .oneTime
  | "plus" | "standard" => .plus
  | "pro" => .pro
  | "premium" => .premium
  | "enterprise" => .enterprise
  | _ => .free

def name : SubscriptionTier → String
  | .free => "Free"
  | .oneTime => "1-Time Perpetual"
  | .plus => "Plus"
  | .pro => "Pro"
  | .premium => "Premium"
  | .enterprise => "Enterprise"

def tierKey : SubscriptionTier → String
  | .free | .oneTime => "free"
  | .plus => "plus"
  | .pro => "pro"
  | .premium => "premium"
  | .enterprise => "enterprise"

/-! The caps: `none` is no limit. -/

def maxPosInstances : SubscriptionTier → Option Int
  | .free | .oneTime => some 1
  | .plus => some 2
  | .pro => some 5
  | .premium | .enterprise => none

def maxWarehouses : SubscriptionTier → Option Int
  | .free | .oneTime => some 1
  | .plus => some 2
  | .pro => some 3
  | .premium | .enterprise => none

def maxStaffUsers : SubscriptionTier → Option Int
  | .free | .oneTime => some 1
  | .plus => some 5
  | .pro => some 20
  | .premium => some 50
  | .enterprise => none

def maxProducts : SubscriptionTier → Option Int
  | .free | .oneTime => some 200
  | .plus => some 500
  | .pro => some 1000
  | .premium => some 10000
  | .enterprise => none

def maxKdsScreens : SubscriptionTier → Option Int
  | .free | .oneTime | .plus => some 0
  | .pro => some 2
  | .premium | .enterprise => none

def offlineGraceDays : SubscriptionTier → Nat
  | .free | .oneTime => 7
  | .plus | .pro => 14
  | .premium => 30
  | .enterprise => 60

def allowsWorkspaceType : SubscriptionTier → String → Bool
  | .free, typeKey | .oneTime, typeKey => [storePos, restaurantPos, adminType].contains typeKey
  | .plus, typeKey =>
    [storePos, restaurantPos, adminType, warehouseType, inventoryType].contains typeKey
  | .pro, _ | .premium, _ | .enterprise, _ => true

end SubscriptionTier

/-- The readers that a subscription is read with: RFC 3339 texts as nanoseconds, and JSON texts. -/
structure Readers where
  rfc3339 : String → Option Int
  json : String → Option Json

def nanosPerDay : Int := 86400000000000

/-- The columns of a `tenant_subscription` row that a check reads, as `load` types them. -/
structure TenantSubscription where
  tenantId : String
  tier : SubscriptionTier
  status : String
  expiresAt : Option String
  (allowedTypesJson signature signedPayload : String)
  deriving DecidableEq

inductive SubscriptionLifecycleState where
  | active
  | grace
  | expired
  | canceled
  | revoked
  | paused
  | unavailable
  deriving DecidableEq

def Json.asBool? : Json → Option Bool
  | .bool b => some b
  | _ => none

namespace TenantSubscription

variable (r : Readers) (sub : TenantSubscription)

/-- The trial flag and a readable end of the trial, from the signed payload. -/
def parsedTrial : Bool × Option String :=
  if sub.signedPayload.isEmpty then (false, none)
  else
    match (r.json sub.signedPayload).map Json.value with
    | none => (false, none)
    | some value =>
      (((value.get? "is_trial").bind Json.asBool?).getD false,
        (((value.get? "trial_ends_at").bind Json.asStr?).filter (fun s => !s.isEmpty)).filter
          (fun s => (r.rfc3339 s).isSome))

def trialEndsAtDatetime : Option Int :=
  if (sub.parsedTrial r).1 then (sub.parsedTrial r).2.bind r.rfc3339 else none

variable (now : Int)

/-- `trial_ends_at_datetime().is_some_and(|trial_end| now > trial_end)`. -/
def trialOver : Bool := (sub.trialEndsAtDatetime r).any (fun trialEnd => trialEnd < now)

def graceSpan : Int := sub.tier.offlineGraceDays * nanosPerDay

def isWithinGracePeriodAt : Bool :=
  if sub.status = "canceled" || sub.status = "revoked" then false
  else if sub.tier = .free then true
  else
    match sub.expiresAt with
    | none => true
    | some expiresAt =>
      match r.rfc3339 expiresAt with
      | none => false
      | some expiry =>
        if sub.trialOver r now then false
        else now ≤ expiry + sub.graceSpan

def effectiveTierAt : SubscriptionTier :=
  if sub.isWithinGracePeriodAt r now then sub.tier else .free

def lifecycleStateAt : SubscriptionLifecycleState :=
  match sub.status with
  | "canceled" => .canceled
  | "revoked" => .revoked
  | "paused" => .paused
  | "expired" => .expired
  | "grace_period" => .grace
  | "active" =>
    if sub.tier = .free then .active
    else
      match sub.expiresAt with
      | none => .active
      | some expiresAt =>
        match r.rfc3339 expiresAt with
        | none => .expired
        | some expiry =>
          if sub.trialOver r now then .expired
          else if now ≤ expiry then .active
          else if now ≤ expiry + sub.graceSpan then .grace
          else .expired
  | _ => .unavailable

def posReadOnlyAt : Bool := sub.lifecycleStateAt r now = .expired

end TenantSubscription

namespace TenantSubscription

variable (r : Readers) (sub : TenantSubscription) (now : Int)

/-- The reported state is one that trades on the subscription. -/
def Trades : Prop := sub.lifecycleStateAt r now = .active ∨ sub.lifecycleStateAt r now = .grace

/-- The reported state and the effective tier tell the same. -/
structure LifecycleAgrees : Prop where
  kept : sub.tier ≠ .free → (sub.Trades r now ↔ sub.effectiveTierAt r now = sub.tier)
  fallen : sub.tier ≠ .free → (¬sub.Trades r now ↔ sub.effectiveTierAt r now = .free)
  readOnly : sub.posReadOnlyAt r now = true → sub.effectiveTierAt r now = .free

def datesHold : Bool :=
  match sub.expiresAt with
  | none => true
  | some expiresAt =>
    match r.rfc3339 expiresAt with
    | none => false
    | some expiry => !sub.trialOver r now && now ≤ expiry + sub.graceSpan

/-- A status that the dates do not refine has to go with them. -/
def StatusFits : Prop :=
  match sub.status with
  | "active" | "canceled" | "revoked" => True
  | "grace_period" => sub.datesHold r now = true
  | _ => sub.datesHold r now = false

variable {r sub now}

theorem graceSpan_nonneg : 0 ≤ sub.graceSpan := by
  unfold graceSpan nanosPerDay
  omega

theorem within_of_ended (h : sub.status = "canceled" ∨ sub.status = "revoked") :
    sub.isWithinGracePeriodAt r now = false := by
  rcases h with h | h <;> simp [isWithinGracePeriodAt, h]

theorem within_eq_datesHold (hpaid : sub.tier ≠ .free) (hcanceled : sub.status ≠ "canceled")
    (hrevoked : sub.status ≠ "revoked") : sub.isWithinGracePeriodAt r now = sub.datesHold r now := by
  unfold isWithinGracePeriodAt datesHold
  simp only [hcanceled, hrevoked, hpaid, decide_false, Bool.or_self, Bool.false_eq_true, if_false]
  cases sub.expiresAt with
  | none => rfl
  | some expiresAt =>
    simp only
    cases r.rfc3339 expiresAt with
    | none => rfl
    | some expiry => cases h : sub.trialOver r now <;> simp

theorem trades_active (hpaid : sub.tier ≠ .free) (hactive : sub.status = "active") :
    sub.Trades r now ↔ sub.datesHold r now = true := by
  unfold Trades lifecycleStateAt datesHold
  simp only [hactive, hpaid, if_false]
  cases sub.expiresAt with
  | none => simp
  | some expiresAt =>
    simp only
    cases r.rfc3339 expiresAt with
    | none => simp
    | some expiry =>
      have hspan : 0 ≤ sub.graceSpan := graceSpan_nonneg
      cases hover : sub.trialOver r now with
      | true => simp
      | false =>
        by_cases hpaidup : now ≤ expiry
        · have hgrace : now ≤ expiry + sub.graceSpan := by omega
          simp [hpaidup, hgrace]
        · by_cases hgrace : now ≤ expiry + sub.graceSpan <;> simp [hpaidup, hgrace]

theorem trades_status (hactive : sub.status ≠ "active") :
    sub.Trades r now ↔ sub.status = "grace_period" := by
  unfold Trades lifecycleStateAt
  split <;> simp_all

theorem effectiveTier_eq_tier_iff (hpaid : sub.tier ≠ .free) :
    sub.effectiveTierAt r now = sub.tier ↔ sub.isWithinGracePeriodAt r now = true := by
  unfold effectiveTierAt
  cases sub.isWithinGracePeriodAt r now with
  | true => simp
  | false => simpa using hpaid.symm

theorem effectiveTier_eq_free_iff (hpaid : sub.tier ≠ .free) :
    sub.effectiveTierAt r now = .free ↔ sub.isWithinGracePeriodAt r now = false := by
  unfold effectiveTierAt
  cases sub.isWithinGracePeriodAt r now with
  | true => simpa using hpaid
  | false => simp

theorem effectiveTier_free (hfree : sub.tier = .free) : sub.effectiveTierAt r now = .free := by
  unfold effectiveTierAt
  split
  · exact hfree
  · rfl

theorem agrees_iff_within (hpaid : sub.tier ≠ .free) :
    sub.LifecycleAgrees r now ↔
      (sub.Trades r now ↔ sub.isWithinGracePeriodAt r now = true) := by
  constructor
  · intro h
    exact (h.kept hpaid).trans (effectiveTier_eq_tier_iff hpaid)
  · intro h
    have hnot : ¬sub.Trades r now ↔ sub.isWithinGracePeriodAt r now = false := by
      rw [h, Bool.not_eq_true]
    refine ⟨fun _ => h.trans (effectiveTier_eq_tier_iff hpaid).symm,
      fun _ => hnot.trans (effectiveTier_eq_free_iff hpaid).symm, ?_⟩
    intro hreadOnly
    have hexpired : sub.lifecycleStateAt r now = .expired := by simpa [posReadOnlyAt] using hreadOnly
    refine (effectiveTier_eq_free_iff hpaid).mpr (hnot.mp ?_)
    simp [Trades, hexpired]

theorem statusFits_iff (hpaid : sub.tier ≠ .free) :
    sub.StatusFits r now ↔ (sub.Trades r now ↔ sub.isWithinGracePeriodAt r now = true) := by
  by_cases hactive : sub.status = "active"
  · have hwithin : sub.isWithinGracePeriodAt r now = sub.datesHold r now :=
      within_eq_datesHold hpaid (by simp [hactive]) (by simp [hactive])
    rw [trades_active hpaid hactive, hwithin]
    simp [StatusFits, hactive]
  · rw [trades_status hactive]
    by_cases hended : sub.status = "canceled" ∨ sub.status = "revoked"
    · rw [within_of_ended hended]
      rcases hended with h | h <;> simp [StatusFits, h]
    · obtain ⟨hcanceled, hrevoked⟩ := not_or.mp hended
      rw [within_eq_datesHold hpaid hcanceled hrevoked]
      unfold StatusFits
      split <;> simp_all

/-- When the reported state and the effective tier of a row agree. -/
theorem lifecycle_agrees_iff (r : Readers) (sub : TenantSubscription) (now : Int) :
    sub.LifecycleAgrees r now ↔ sub.tier = .free ∨ sub.StatusFits r now := by
  by_cases hfree : sub.tier = .free
  · have hagrees : sub.LifecycleAgrees r now :=
      ⟨fun hpaid => absurd hfree hpaid, fun hpaid => absurd hfree hpaid,
        fun _ => effectiveTier_free hfree⟩
    simp [hagrees, hfree]
  · rw [agrees_iff_within hfree, statusFits_iff hfree]
    simp [hfree]

end TenantSubscription

def pausedPlus : TenantSubscription :=
  ⟨"default", .plus, "paused", some "2027-01-01T00:00:00Z", "[]", "c2ln", ""⟩

def pausedReaders : Readers where
  rfc3339 text := if text = "2027-01-01T00:00:00Z" then some 1798761600000000000 else none
  json _ := none

/-- Reported as paused, and yet on its own tier. -/
theorem pausedPlus_keeps_its_tier :
    ¬pausedPlus.LifecycleAgrees pausedReaders 1767225600000000000 := by
  intro h
  have hkept : pausedPlus.effectiveTierAt pausedReaders 1767225600000000000 = .plus := by decide
  rcases (h.kept (by decide)).mpr hkept with hstate | hstate
  · exact absurd hstate (by decide)
  · exact absurd hstate (by decide)

end OzPos
