import OzPos.Library.Receiver
import OzPos.LicenseServer.Activate

namespace OzPos

/-- An entry of `PADDLE_PRICE_TIERS` or `MIDTRANS_PRICE_TIERS`. -/
structure MappedPrice where
  (tier period bundle : String)

/-- What a delivery draws: the price map as it reads it, the answer of the customer API, the tenant
of the email (`none` where it cannot be saved), new ids, and which of its steps fail. A failed
lookup answers as if nothing were found. -/
structure WebhookDraw where
  prices : String → Option MappedPrice
  fetchedEmail : String
  tenantId : Option String
  (newKey newId : String)
  (keyLookupFails keySaveFails tierSyncFails expirySyncFails signFails subLookupFails : Bool)
  subSaveFails : Bool

/-- What a paid period comes to: the record that it is entered in says so afterwards. -/
structure WebhookGrant where
  (tenantId tierKey bundle : String)
  (startsAt expiresAt : Int)

namespace WebhookGrant

variable (g : WebhookGrant)

def enter (now : Int) (s : SubscriptionRecord) : SubscriptionRecord :=
  SubscriptionRecord.resigned
    { s with
      bundleId := g.bundle
      tenantId := g.tenantId
      tierKey := g.tierKey
      status := .active
      startsAt := g.startsAt
      expiresAt := g.expiresAt
      graceUntil := calculateGraceUntil g.tierKey g.expiresAt } now

def mint (key : String) (ids : ProviderIds) : LicenseKeyRecord :=
  ⟨key, g.tierKey, .unused, g.expiresAt, false, g.bundle, "", ids⟩

def refresh (relink : ProviderIds → ProviderIds) (k : LicenseKeyRecord) : LicenseKeyRecord :=
  { k with tierKey := g.tierKey, expiresAt := g.expiresAt, ids := relink k.ids }

end WebhookGrant

def foundKey (lookup : Lookup) (d : WebhookDraw) (db : LicenseDb) : Option LicenseKeyRecord :=
  if d.keyLookupFails then none else lookup.first LicenseKeyRecord.ids db.keys.rows

def foundSubscription (lookup : Lookup) (d : WebhookDraw) (db : LicenseDb) :
    Option SubscriptionRecord :=
  if d.subLookupFails then none
  else lookup.first SubscriptionRecord.ids db.subscriptions.rows

variable (mintIds : ProviderIds)

/-- Mint or refresh the license key; the bundle is then that of the price, else the key's own. -/
def saveKey (relink : ProviderIds → ProviderIds) (lookup : Lookup)
    (g : WebhookGrant) (d : WebhookDraw) (db : LicenseDb) : Option (LicenseDb × String) :=
  if d.keySaveFails then none
  else
    match foundKey lookup d db with
    | none => (db.insertKey (g.mint d.newKey mintIds)).map (fun db => (db, g.bundle))
    | some k =>
      some (db.updateKey k.key (g.refresh relink) (fun _ => rfl),
        if g.bundle = "" then k.bundleId else g.bundle)

def saveSubscription (lookup : Lookup) (g : WebhookGrant) (d : WebhookDraw)
    (now : Int) (db : LicenseDb) : Option LicenseDb :=
  if d.signFails || d.subSaveFails then none
  else
    match foundSubscription lookup d db with
    | none => db.insertSubscription (g.enter now (.blank d.newId mintIds))
    | some s => some (db.updateSubscription s.id (g.enter now) (fun _ => rfl))

/-- The second half of `paddleProvision` and of `midtransProvision`. What was saved before a failure
stays. -/
def provision (relink : ProviderIds → ProviderIds) (lookup : Lookup)
    (g : WebhookGrant) (d : WebhookDraw) (now : Int) (db : LicenseDb) : LicenseDb × Bool :=
  match saveKey mintIds relink lookup g d db with
  | none => (db, false)
  | some (db, bundle) =>
    match saveSubscription mintIds lookup { g with bundle := bundle } d now db with
    | none => (db, false)
    | some db => (db, true)

/-- A change of the subscription that is there; one that is not known is acknowledged. The key is
synced before. -/
def amend (lookup : Lookup) (sync : SubscriptionRecord → LicenseKeyRecord → LicenseKeyRecord)
    (hsync : ∀ s k, (sync s k).key = k.key) (change : SubscriptionRecord → SubscriptionRecord)
    (hchange : ∀ s, (change s).id = s.id) (d : WebhookDraw) (db : LicenseDb) : LicenseDb × Bool :=
  match foundSubscription lookup d db with
  | none => (db, true)
  | some s =>
    let synced :=
      match foundKey lookup d db with
      | none => db
      | some k => db.updateKey k.key (sync s) (hsync s)
    if d.signFails || d.subSaveFails then (synced, false)
    else (synced.updateSubscription s.id change hchange, true)

structure BillingPeriod where
  (startsAt endsAt : Option Int)

structure BillingCycle where
  interval : String
  frequency : Int

/-- A subscription entity of Paddle; a time that does not parse is `none`. -/
structure PaddleSubscription where
  (status customEmail customBundle : String)
  customerEmail : Option String
  priceId : String
  currentBillingPeriod : Option BillingPeriod
  billingCycle : Option BillingCycle
  scheduledChange : Option Int

structure PaddleEvent where
  (eventId eventType : String)
  data : PaddleSubscription

def mapPaddleStatus (paddle : String) : Option SubscriptionStatus :=
  if paddle = "active" ∨ paddle = "trialing" ∨ paddle = "past_due" then some .active
  else if paddle = "paused" ∨ paddle = "canceled" then some .gracePeriod
  else none

def BillingCycle.after (c : BillingCycle) (now : Int) : Int :=
  let frequency := if c.frequency ≤ 0 then 1 else c.frequency
  if c.interval = "day" then Calendar.addDate 0 0 frequency now
  else if c.interval = "week" then Calendar.addDate 0 0 (7 * frequency) now
  else if c.interval = "year" then Calendar.addDate frequency 0 0 now
  else Calendar.addDate 0 frequency 0 now

namespace PaddleSubscription

variable (lower : String → String) (sub : PaddleSubscription)

def startsAt (now : Int) : Int := (sub.currentBillingPeriod.bind BillingPeriod.startsAt).getD now

/-- `subscriptionTimes`: the end of the period that is named, else that of a cycle from now, else
that of the tier. -/
def expiresAt (tier : String) (now : Int) : Int :=
  match sub.currentBillingPeriod, sub.billingCycle with
  | some period, _ => period.endsAt.getD (calculateExpiry tier now)
  | none, some cycle => cycle.after now
  | none, none => calculateExpiry tier now

variable (d : WebhookDraw)

def resolvePaddleEmail : String :=
  let custom := trim (lower sub.customEmail)
  let embedded := trim (lower (sub.customerEmail.getD ""))
  if custom ≠ "" then custom
  else if embedded ≠ "" then embedded
  else trim (lower d.fetchedEmail)

def disagrees (price : MappedPrice) : Bool :=
  (trim sub.customBundle ≠ "" && trim sub.customBundle ≠ price.bundle) ||
    sub.billingCycle.any (fun c => c.interval ≠ "" && lower (trim c.interval) ≠ price.period)

variable (now : Int)

/-- The first half of `paddleProvision`: `none` is an error. -/
def grant : Option WebhookGrant :=
  if sub.priceId = "" then none
  else
    match d.prices sub.priceId with
    | none => none
    | some price =>
      if sub.disagrees lower price then none
      else if sub.resolvePaddleEmail lower d = "" then none
      else d.tenantId.map (fun tenant =>
        ⟨tenant, price.tier, price.bundle, sub.startsAt now, sub.expiresAt price.tier now⟩)

def newPrice : Option MappedPrice :=
  if sub.priceId = "" then none else d.prices sub.priceId

variable (s : SubscriptionRecord)

def updatedTier : String :=
  ((sub.newPrice d).map MappedPrice.tier).getD s.tierKey

def updatedBundle : String :=
  match sub.newPrice d with
  | none => s.bundleId
  | some price => if price.bundle = "" then s.bundleId else price.bundle

def updated : SubscriptionRecord :=
  let tier := sub.updatedTier d s
  SubscriptionRecord.resigned
    { s with
      tierKey := tier
      bundleId := sub.updatedBundle d s
      status := (mapPaddleStatus sub.status).getD s.status
      startsAt := sub.startsAt now
      expiresAt := sub.expiresAt tier now
      graceUntil := calculateGraceUntil tier (sub.expiresAt tier now) } now

variable (k : LicenseKeyRecord)

/-- What an update syncs to the key, in two saves: the price's tier and bundle, where there is a
price, and the expiry. -/
def syncedUpdate : LicenseKeyRecord :=
  let tier := sub.updatedTier d s
  let k :=
    if (sub.newPrice d).isNone || d.tierSyncFails then k
    else { k with tierKey := tier, bundleId := sub.updatedBundle d s }
  if d.expirySyncFails then k else { k with expiresAt := sub.expiresAt tier now }

def canceled : SubscriptionRecord :=
  SubscriptionRecord.resigned
    { s with
      status := .gracePeriod
      graceUntil := (sub.scheduledChange.or
        (sub.currentBillingPeriod.bind BillingPeriod.endsAt)).getD s.expiresAt } now

def resumed : SubscriptionRecord :=
  SubscriptionRecord.resigned
    { s with
      status := .active
      startsAt := sub.startsAt now
      expiresAt := sub.expiresAt s.tierKey now
      graceUntil := calculateGraceUntil s.tierKey (sub.expiresAt s.tierKey now) } now

def syncedResume : LicenseKeyRecord :=
  if d.expirySyncFails then k else { k with expiresAt := sub.expiresAt s.tierKey now }

theorem key_syncedUpdate :
    (sub.syncedUpdate d now s k).key = k.key ∧ (sub.syncedUpdate d now s k).ids = k.ids := by
  unfold syncedUpdate
  dsimp only
  split <;> split <;> exact ⟨rfl, rfl⟩

theorem key_syncedResume :
    (sub.syncedResume d now s k).key = k.key ∧ (sub.syncedResume d now s k).ids = k.ids := by
  unfold syncedResume
  split <;> exact ⟨rfl, rfl⟩

end PaddleSubscription

inductive PaddleKind where
  | provision
  | update
  | setGrace
  | resume
  | acknowledged

def paddleKind (eventType : String) : PaddleKind :=
  if eventType = "subscription.created" ∨ eventType = "subscription.activated" ∨
      eventType = "subscription.trialing" then .provision
  else if eventType = "subscription.updated" then .update
  else if eventType = "subscription.canceled" ∨ eventType = "subscription.paused" then .setGrace
  else if eventType = "subscription.resumed" then .resume
  else .acknowledged

section

variable (lower : String → String) (subId : String)

def paddleLookup : Lookup := [ProviderIds.ofPaddle subId]

variable (ev : PaddleEvent) (d : WebhookDraw) (now : Int) (db : LicenseDb)

def paddleProvision : LicenseDb × Bool :=
  match ev.data.grant lower d now with
  | none => (db, false)
  | some g => provision ⟨subId, "", ""⟩ (fun ids => ids) (paddleLookup subId) g d now db

def paddleUpdate : LicenseDb × Bool :=
  amend (paddleLookup subId) (ev.data.syncedUpdate d now)
    (fun s k => (ev.data.key_syncedUpdate d now s k).1) (ev.data.updated d now) (fun _ => rfl) d db

def paddleSetGrace : LicenseDb × Bool :=
  amend (paddleLookup subId) (fun _ k => k) (fun _ _ => rfl) (ev.data.canceled now)
    (fun _ => rfl) d db

def paddleResume : LicenseDb × Bool :=
  amend (paddleLookup subId) (ev.data.syncedResume d now)
    (fun s k => (ev.data.key_syncedResume d now s k).1) (ev.data.resumed now) (fun _ => rfl) d db

/-- What `handlePaddleWebhook` does with an event of the subscription that is no duplicate. -/
def paddleProcess : LicenseDb × Bool :=
  if ev.eventId = "" ∨ subId = "" then (db, false)
  else
    match paddleKind ev.eventType with
    | .provision => paddleProvision lower subId ev d now db
    | .update => paddleUpdate subId ev d now db
    | .setGrace => paddleSetGrace subId ev d now db
    | .resume => paddleResume subId ev d now db
    | .acknowledged => (db, true)

/-- `paddleDedupTTL` and `midtransDedupTTL`: 24 hours. -/
def dedupTtl : Int := 86400

def paddleWebhook : Receiver PaddleEvent String String WebhookDraw LicenseDb where
  window := dedupTtl
  identity ev := ev.eventId
  record? ev := if ev.eventId = "" then none else some ev.eventId
  process := paddleProcess lower subId

end

structure MidtransNotification where
  (transactionId orderId subscriptionId transactionStatus statusCode fraudStatus grossAmount : String)
  (customField1 customField2 customField3 customField4 : String)

def normalizeBillingPeriod (lower : String → String) (p : String) : String :=
  let period := lower (trim p)
  if period = "monthly" then "month" else if period = "yearly" then "year" else period

def midtransChargeExpiry (period : String) (now : Int) : Int :=
  if period = "month" then Calendar.addDate 0 1 0 now else Calendar.addDate 1 0 0 now

namespace MidtransNotification

variable (lower : String → String) (n : MidtransNotification)

def midtransChargeSucceeded : Bool :=
  n.statusCode = "200" && (n.transactionStatus = "settlement" || n.transactionStatus = "capture") &&
    (n.fraudStatus = "" || ignoreCaseEq n.fraudStatus "accept")

def midtransChargeFailed : Bool :=
  ["cancel", "expire", "deny", "refund", "partial_refund"].contains n.transactionStatus

def disagrees (price : MappedPrice) : Bool :=
  (trim n.customField1 ≠ "" && trim n.customField1 ≠ price.tier) ||
    (trim n.customField3 ≠ "" &&
      normalizeBillingPeriod lower (trim n.customField3) ≠ price.period) ||
    (trim n.customField4 ≠ "" && trim n.customField4 ≠ price.bundle)

variable (d : WebhookDraw) (now : Int)

/-- The first half of `midtransProvision`: `none` is an error. -/
def grant : Option WebhookGrant :=
  if trim n.customField2 = "" then none
  else
    match d.prices n.grossAmount with
    | none => none
    | some price =>
      if n.disagrees lower price then none
      else d.tenantId.map (fun tenant =>
        ⟨tenant, price.tier, price.bundle, now, midtransChargeExpiry price.period now⟩)

/-- `findMidtransKey`, and `findMidtransSubscription` like it. -/
def lookup : Lookup :=
  (if n.subscriptionId = "" then []
    else [ProviderIds.ofSubscription n.subscriptionId]) ++
    (if n.orderId = "" then [] else [ProviderIds.ofOrder n.orderId])

variable (db : LicenseDb)

def midtransProvision : LicenseDb × Bool :=
  match n.grant lower d now with
  | none => (db, false)
  | some g =>
    provision ⟨"", n.subscriptionId, n.orderId⟩ (fun ids => { ids with midtransOrderId := n.orderId })
      n.lookup g d now db

def graced (s : SubscriptionRecord) : SubscriptionRecord :=
  SubscriptionRecord.resigned { s with status := .gracePeriod, graceUntil := s.expiresAt } now

def midtransSetGrace : LicenseDb × Bool :=
  amend n.lookup (fun _ k => k) (fun _ _ => rfl) (graced now) (fun _ => rfl) d db

def process : LicenseDb × Bool :=
  if n.transactionId = "" then (db, false)
  else if n.midtransChargeSucceeded then n.midtransProvision lower d now db
  else if n.midtransChargeFailed then n.midtransSetGrace d now db
  else (db, true)

end MidtransNotification

/-- A charge is known by its transaction, whatever notification says that it succeeded; the other
notifications of a transaction by their status too. -/
inductive MidtransIdentity where
  | charge (transactionId : String)
  | notice (transactionId transactionStatus : String)

def midtransWebhook (lower : String → String) :
    Receiver MidtransNotification MidtransIdentity String WebhookDraw LicenseDb where
  window := dedupTtl
  identity n :=
    if n.midtransChargeSucceeded then .charge n.transactionId
    else .notice n.transactionId n.transactionStatus
  record? n :=
    if n.transactionId ≠ "" && n.midtransChargeSucceeded then some n.transactionId else none
  process n := n.process lower

end OzPos
