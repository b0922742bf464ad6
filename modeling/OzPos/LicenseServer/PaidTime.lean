import OzPos.LicenseServer.SubscriptionRows

namespace OzPos

/-- What the customer of one account, its providers and the shop can do. -/
inductive LicensingEvent where
  | charge (n : MidtransNotification) (d : WebhookDraw)
  | paddle (subId : String) (ev : PaddleEvent) (d : WebhookDraw)
  | issueKey (key tier : String) (expiresAt : Int)
  | activate (req : ActivateRequest) (d : ActivateDraw)
  | renew (tenantId key : String) (d : RenewDraw)
  | pause (tenantId : String) (pauseMonths : Int) (d : PauseDraw)
  | resume (tenantId : String) (d : PauseDraw)
  | autoResume (fails : String → Bool)
  | wait (seconds : Nat)

/-- The server and what was paid: `covered` is the end of the bought periods, laid end to end,
`named` are the periods of Paddle among them, `unredeemed` the issued keys whose period is not yet
taken, `paused` is the time spent paused, and `issued` are the payloads that were signed. -/
structure PaidTime where
  clock : Int
  db : ServerDb
  covered : Int
  named : List (Int × Int)
  unredeemed : List String
  paused : Int
  issued : List SubscriptionPayload

/-- A period that is bought lies behind what is covered; counted from its purchase it is covered
too. -/
def laid (after : Int → Int) (now covered : Int) : Int :=
  max covered (max (after now) (after (max covered now)))

namespace PaddleSubscription

def namesPeriod (sub : PaddleSubscription) : Bool :=
  match sub.currentBillingPeriod, sub.billingCycle with
  | some period, _ => period.endsAt.isSome
  | none, cycle => cycle.isSome

end PaddleSubscription

namespace PaidTime

def fresh (clock : Int) : PaidTime :=
  ⟨clock, ⟨.empty, Table.empty, Table.empty, Table.empty⟩, clock, [], [], 0, []⟩

variable (s : PaidTime)

def buy (after : Int → Int) : PaidTime := { s with covered := laid after s.clock s.covered }

def buyNamed (sub : PaddleSubscription) : PaidTime :=
  match sub.currentBillingPeriod, sub.billingCycle with
  | some ⟨_, some ends⟩, _ =>
    let starts := sub.startsAt s.clock
    if (starts, ends) ∈ s.named then s
    else
      { s with
        covered := max s.covered (max s.covered starts + max 0 (ends - starts))
        named := (starts, ends) :: s.named }
  | some ⟨_, none⟩, _ => s
  | none, some cycle => s.buy cycle.after
  | none, none => s

/-- An issued key buys the period of its tier when it is redeemed, once. -/
def redeem (key : String) : PaidTime :=
  match s.db.licenses.keys.find? key with
  | some k =>
    if key ∈ s.unredeemed ∧ k.status = .unused then
      { s.buy (calculateExpiry k.tierKey) with unredeemed := s.unredeemed.filter (fun r => r ≠ key) }
    else s
  | none => s

/-- The state of the server after a step, with the payloads that it answered and that its records
hold. -/
def issue (answer : Option SubscriptionPayload) (db : ServerDb) : PaidTime :=
  { s with
    db := db
    issued := answer.toList ++
      (db.licenses.subscriptions.rows.map SubscriptionRecord.signedPayload ++ s.issued) }

/-- How long a subscription is in its planned pause from now on. -/
def pauseOverlap (now : Int) (seconds : Nat) (r : SubscriptionRecord) : Int :=
  if r.status = .paused then
    max 0 (((r.pausedUntil.filter (fun t => t < now + seconds)).getD (now + seconds)) - now)
  else 0

def pausedDuring (seconds : Nat) : Int :=
  (s.db.licenses.subscriptions.rows.map (pauseOverlap s.clock seconds)).foldr max 0

def afterCharge (n : MidtransNotification) (d : WebhookDraw) (done : Bool) : PaidTime :=
  match d.prices n.grossAmount with
  | some price =>
    if done && n.midtransChargeSucceeded then s.buy (midtransChargeExpiry price.period) else s
  | none => s

def afterPaddle (ev : PaddleEvent) (done : Bool) : PaidTime :=
  match paddleKind ev.eventType with
  | .provision | .update | .resume => if done then s.buyNamed ev.data else s
  | .setGrace | .acknowledged => s

def withLicenses (db : LicenseDb) : ServerDb := { s.db with licenses := db }

end PaidTime

variable (lower : String → String)

def licensing : Machine PaidTime LicensingEvent Unit where
  step s
    | .charge n d =>
      let (db, done) := n.process lower d s.clock s.db.licenses
      ((s.afterCharge n d done).issue none (s.withLicenses db), ())
    | .paddle subId ev d =>
      let (db, done) := paddleProcess lower subId ev d s.clock s.db.licenses
      ((s.afterPaddle ev done).issue none (s.withLicenses db), ())
    | .issueKey key tier expiresAt =>
      match s.db.licenses.insertKey ⟨key, tier, .unused, expiresAt, false, "", "", ⟨"", "", ""⟩⟩ with
      | none => (s, ())
      | some db => ({ s with db := s.withLicenses db, unredeemed := key :: s.unredeemed }, ())
    | .activate req d =>
      match handleActivate lower req d s.clock s.db with
      | (db, .ok answer) => ((s.redeem req.key).issue (some answer.signedPayload) db, ())
      | (db, .error _) => (s.issue none db, ())
    | .renew tenantId key d =>
      match handleRenew tenantId key d s.clock s.db.licenses with
      | (db, .ok payload) => ((s.redeem key).issue (some payload) (s.withLicenses db), ())
      | (db, .error _) => (s.issue none (s.withLicenses db), ())
    | .pause tenantId pauseMonths d =>
      (s.issue none (s.withLicenses (handlePause tenantId pauseMonths d s.clock s.db.licenses).1),
        ())
    | .resume tenantId d =>
      let (db, answer) := handleResume tenantId d s.clock s.db.licenses
      (s.issue answer.toOption (s.withLicenses db), ())
    | .autoResume fails =>
      (s.issue none (s.withLicenses (runAutoResumeScanner fails s.clock s.db.licenses)), ())
    | .wait seconds =>
      ({ s with clock := s.clock + seconds, paused := s.paused + s.pausedDuring seconds }, ())

/-- No payload that is active reaches beyond what was paid and the time spent paused. -/
def PaidTime.WithinPaid (s : PaidTime) : Prop :=
  ∀ p ∈ s.issued, p.status = .active → p.expiresAt ≤ s.covered + s.paused

/-- An event of Paddle that enters the end of a period, with nothing that stops it. -/
def entersPeriod (subId : String) (ev : PaddleEvent) (d : WebhookDraw)
    (now : Int) (db : LicenseDb) : Prop :=
  ev.eventId ≠ "" ∧ subId ≠ "" ∧
    match paddleKind ev.eventType with
    | .provision =>
      (ev.data.grant lower d now).isSome ∧ ¬ KeyStops ⟨subId, "", ""⟩ (paddleLookup subId) d db ∧
        ¬ SubscriptionStops ⟨subId, "", ""⟩ (paddleLookup subId) d db
    | .update | .resume =>
      foundSubscription (paddleLookup subId) d db ≠ none ∧ ¬ d.signFails = true ∧
        ¬ d.subSaveFails = true
    | .setGrace | .acknowledged => False

/-- How long the years of a tier are, counted from an instant. -/
def tierLength (tier : String) (t : Int) : Int := calculateExpiry tier t - t

namespace PaidTime

variable (s : PaidTime)

/-- An event of Paddle names the period that it enters; what a key mints on activation is that of an
issued key, for the first time; and so is what it renews, for no more days than the tier's years
have from the end of what is covered. -/
def Meets (lower : String → String) : LicensingEvent → Prop
  | .paddle subId ev d =>
    entersPeriod lower subId ev d s.clock s.db.licenses → ev.data.namesPeriod = true
  | .activate req d =>
    ∀ k, s.db.licenses.keys.find? req.key = some k → k.status = .unused → ¬ k.expiresAt < s.clock →
      (reusedSubscription d ⟨req.tenantOf lower d s.db, k⟩ s.db.licenses).isSome ∨
        (k.isTrial = false ∧ req.key ∈ s.unredeemed)
  | .renew tenantId key _ =>
    ∀ k current, s.db.licenses.keys.find? key = some k → k.status = .unused →
      ¬ k.expiresAt < s.clock → s.db.licenses.latestActive tenantId = some current →
      key ∈ s.unredeemed ∧
        tierLength k.tierKey (if current.expiresAt < s.clock then s.clock else current.expiresAt) ≤
          tierLength k.tierKey (max s.covered s.clock) +
            max 0 (max s.covered s.clock -
              (if current.expiresAt < s.clock then s.clock else current.expiresAt))
  | _ => True

end PaidTime

end OzPos
