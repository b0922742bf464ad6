import OzPos.LicenseServer.WebhooksHold

namespace OzPos

/-- The key or the subscription cannot be saved, or what is granted is what the subscription
says. -/
def provisionLeaves (mintIds : ProviderIds) (lookup : Lookup) (g : WebhookGrant) (d : WebhookDraw)
    (db : LicenseDb) : Prop :=
  KeyStops mintIds lookup d db ∨ SubscriptionStops mintIds lookup d db ∨
    ∃ s, foundSubscription lookup d db = some s ∧
      s.tierKey = g.tierKey ∧ s.status = .active ∧ s.expiresAt = g.expiresAt

/-- The subscription cannot be saved, or a found one says what it is to say. -/
def amendLeaves (Confirms : SubscriptionRecord → Prop) (lookup : Lookup) (d : WebhookDraw)
    (db : LicenseDb) : Prop :=
  d.signFails = true ∨ d.subSaveFails = true ∨
    ∀ s, foundSubscription lookup d db = some s → Confirms s

theorem provision_leaves_iff {mintIds : ProviderIds} {relink : ProviderIds → ProviderIds}
    {lookup : Lookup} {g : WebhookGrant} {d : WebhookDraw} {now : Int} {db : LicenseDb} :
    (provision mintIds relink lookup g d now db).1.billing = db.billing ↔
      provisionLeaves mintIds lookup g d db := by
  rw [billing_provision, provision_done_iff]
  unfold provisionLeaves
  tauto

theorem amend_leaves_iff {lookup : Lookup} {d : WebhookDraw} {db : LicenseDb}
    {sync : SubscriptionRecord → LicenseKeyRecord → LicenseKeyRecord}
    {hsync : ∀ s k, (sync s k).key = k.key} {change : SubscriptionRecord → SubscriptionRecord}
    {hchange : ∀ s, (change s).id = s.id}
    {Confirms : SubscriptionRecord → Prop} (hconfirms : ∀ s, (change s).Agrees s ↔ Confirms s) :
    (amend lookup sync hsync change hchange d db).1.billing = db.billing ↔
      amendLeaves Confirms lookup d db := by
  rw [billing_amend, amend_done_iff]
  unfold amendLeaves
  simp only [hconfirms]
  constructor
  · intro h
    by_cases hsign : d.signFails = true
    · exact .inl hsign
    · by_cases hsave : d.subSaveFails = true
      · exact .inr (.inl hsave)
      · exact .inr (.inr (h (.inr ⟨hsign, hsave⟩)))
  · rintro (hsign | hsave | hall) hdone s hfound
    · rcases hdone with hnone | ⟨hnot, -⟩
      · rw [hnone] at hfound
        cases hfound
      · exact absurd hsign hnot
    · rcases hdone with hnone | ⟨-, hnot⟩
      · rw [hnone] at hfound
        cases hfound
      · exact absurd hsave hnot
    · exact hall s hfound

namespace PaddleSubscription

variable (sub : PaddleSubscription) (d : WebhookDraw) (now : Int) (s : SubscriptionRecord)

/-- An update that names the tier, the status and the end that the subscription has. -/
def Confirms : Prop :=
  sub.updatedTier d s = s.tierKey ∧ (mapPaddleStatus sub.status).getD s.status = s.status ∧
    sub.expiresAt s.tierKey now = s.expiresAt

theorem updated_agrees_iff : (sub.updated d now s).Agrees s ↔ sub.Confirms d now s := by
  unfold SubscriptionRecord.Agrees Confirms updated
  constructor
  · rintro ⟨htier, hstatus, hexpires⟩
    have htier' : sub.updatedTier d s = s.tierKey := htier
    have hexpires' : sub.expiresAt (sub.updatedTier d s) now = s.expiresAt := hexpires
    rw [htier'] at hexpires'
    exact ⟨htier', hstatus, hexpires'⟩
  · rintro ⟨htier, hstatus, hexpires⟩
    refine ⟨htier, hstatus, ?_⟩
    rw [← htier] at hexpires
    exact hexpires

theorem canceled_agrees_iff : (sub.canceled now s).Agrees s ↔ s.status = .gracePeriod := by
  unfold SubscriptionRecord.Agrees canceled
  constructor
  · rintro ⟨-, hstatus, -⟩
    exact hstatus.symm
  · intro hstatus
    exact ⟨rfl, hstatus.symm, rfl⟩

theorem resumed_agrees_iff :
    (sub.resumed now s).Agrees s ↔
      s.status = .active ∧ sub.expiresAt s.tierKey now = s.expiresAt := by
  unfold SubscriptionRecord.Agrees resumed
  constructor
  · rintro ⟨-, hstatus, hexpires⟩
    exact ⟨hstatus.symm, hexpires⟩
  · rintro ⟨hstatus, hexpires⟩
    exact ⟨rfl, hstatus.symm, hexpires⟩

end PaddleSubscription

section

variable (lower : String → String) (subId : String)

variable (ev : PaddleEvent) (d : WebhookDraw) (now : Int) (db : LicenseDb)

/-- Where an event of the subscription changes neither its tier nor its status nor its expiry. -/
def paddleLeaves : Prop :=
  ev.eventId = "" ∨ subId = "" ∨
    match paddleKind ev.eventType with
    | .provision =>
      ∀ g, ev.data.grant lower d now = some g →
        provisionLeaves ⟨subId, "", ""⟩ (paddleLookup subId) g d db
    | .update => amendLeaves (ev.data.Confirms d now) (paddleLookup subId) d db
    | .setGrace => amendLeaves (fun s => s.status = .gracePeriod) (paddleLookup subId) d db
    | .resume =>
      amendLeaves (fun s => s.status = .active ∧ ev.data.expiresAt s.tierKey now = s.expiresAt)
        (paddleLookup subId) d db
    | .acknowledged => True

theorem paddle_leaves_iff :
    (paddleProcess lower subId ev d now db).1.billing = db.billing ↔
      paddleLeaves lower subId ev d now db := by
  unfold paddleProcess paddleLeaves
  by_cases hid : ev.eventId = "" ∨ subId = ""
  · rw [if_pos hid]
    simp only [true_iff]
    exact or_assoc.mp (.inl hid)
  · rw [if_neg hid]
    obtain ⟨hevent, hsub⟩ := not_or.mp hid
    simp only [hevent, hsub, false_or]
    cases paddleKind ev.eventType with
    | provision =>
      simp only [paddleProvision]
      cases hgrant : ev.data.grant lower d now with
      | none => simp
      | some g => simpa using provision_leaves_iff
    | update => exact amend_leaves_iff (ev.data.updated_agrees_iff d now)
    | setGrace => exact amend_leaves_iff (ev.data.canceled_agrees_iff now)
    | resume => exact amend_leaves_iff (ev.data.resumed_agrees_iff now)
    | acknowledged => simp

def LicenseDb.OneOfPaddle : Prop :=
  db.keyIds.countP (ProviderIds.ofPaddle subId) ≤ 1

theorem paddle_oneKey {db : LicenseDb}
    (h : db.OneOfPaddle subId) : (paddleProcess lower subId ev d now db).1.OneOfPaddle subId := by
  unfold paddleProcess
  by_cases hid : ev.eventId = "" ∨ subId = ""
  · rw [if_pos hid]
    exact h
  · rw [if_neg hid]
    unfold LicenseDb.OneOfPaddle at h ⊢
    cases paddleKind ev.eventType with
    | provision =>
      simp only [paddleProvision]
      cases hgrant : ev.data.grant lower d now with
      | none => exact h
      | some g =>
        dsimp only
        by_cases hkept : KeyStops ⟨subId, "", ""⟩ (paddleLookup subId) d db ∨
            (foundKey (paddleLookup subId) d db).isSome
        · rw [(keyIds_kept hkept).2 (fun _ => rfl)]
          exact h
        · obtain ⟨hsaves, hnone⟩ := not_or.mp hkept
          obtain ⟨hminted, hclear⟩ := keyIds_minted hsaves (Option.not_isSome_iff_eq_none.mp hnone)
          have hzero : db.keyIds.countP (ProviderIds.ofPaddle subId) = 0 := by
            rw [List.countP_eq_zero]
            intro ids hids hof
            have hof' : ids.paddleSubId = subId := by simpa [ProviderIds.ofPaddle] using hof
            have hnoclash := hclear ids hids
            simp only [ProviderIds.clashes, hof'] at hnoclash
            simp [not_or.mp hid] at hnoclash
          rw [hminted, List.countP_append, hzero]
          simp [List.countP_singleton]
          split <;> omega
    | update =>
      have hkeys : (paddleUpdate subId ev d now db).1.keyIds = db.keyIds :=
        keyIds_amend (fun s k => (ev.data.key_syncedUpdate d now s k).2)
      rw [hkeys]
      exact h
    | setGrace =>
      have hkeys : (paddleSetGrace subId ev d now db).1.keyIds = db.keyIds :=
        keyIds_amend (fun _ _ => rfl)
      rw [hkeys]
      exact h
    | resume =>
      have hkeys : (paddleResume subId ev d now db).1.keyIds = db.keyIds :=
        keyIds_amend (fun s k => (ev.data.key_syncedResume d now s k).2)
      rw [hkeys]
      exact h
    | acknowledged => exact h

end

namespace MidtransNotification

variable (lower : String → String) (n : MidtransNotification)

theorem graced_agrees_iff (now : Int) (s : SubscriptionRecord) :
    (graced now s).Agrees s ↔ s.status = .gracePeriod := by
  unfold SubscriptionRecord.Agrees graced
  constructor
  · rintro ⟨-, hstatus, -⟩
    exact hstatus.symm
  · intro hstatus
    exact ⟨rfl, hstatus.symm, rfl⟩

variable (d : WebhookDraw) (now : Int) (db : LicenseDb)

def leaves : Prop :=
  if n.transactionId = "" then True
  else if n.midtransChargeSucceeded then
    ∀ g, n.grant lower d now = some g →
      provisionLeaves ⟨"", n.subscriptionId, n.orderId⟩ n.lookup g d db
  else if n.midtransChargeFailed then amendLeaves (fun s => s.status = .gracePeriod) n.lookup d db
  else True

theorem leaves_iff :
    (n.process lower d now db).1.billing = db.billing ↔ n.leaves lower d now db := by
  unfold process leaves
  by_cases hid : n.transactionId = ""
  · simp [hid]
  · simp only [hid, if_false]
    cases n.midtransChargeSucceeded with
    | true =>
      simp only [if_true, midtransProvision]
      cases hgrant : n.grant lower d now with
      | none => simp
      | some g => simpa using provision_leaves_iff
    | false =>
      simp only [Bool.false_eq_true, if_false]
      cases n.midtransChargeFailed with
      | true => exact amend_leaves_iff (graced_agrees_iff now)
      | false => simp

/-- A charge that is paid finds the key of the subscription, by the subscription or by the order
that it names, unless it is the first or cannot save a key. -/
def NamesKey : Prop :=
  n.transactionId ≠ "" → n.midtransChargeSucceeded = true → (n.grant lower d now).isSome →
    db.keys.rows = [] ∨ KeyStops ⟨"", n.subscriptionId, n.orderId⟩ n.lookup d db ∨
      (foundKey n.lookup d db).isSome

end MidtransNotification

def LicenseDb.OneKey (db : LicenseDb) : Prop := db.keyIds.length ≤ 1

namespace MidtransNotification

variable (lower : String → String) (n : MidtransNotification)

theorem oneKey_iff (d : WebhookDraw) (now : Int) {db : LicenseDb} (h : db.OneKey) :
    (n.process lower d now db).1.OneKey ↔ n.NamesKey lower d now db := by
  unfold process NamesKey
  by_cases hid : n.transactionId = ""
  · simp [hid, h]
  · simp only [hid, if_false, ne_eq, not_false_eq_true, forall_const]
    cases n.midtransChargeSucceeded with
    | true =>
      simp only [if_true, midtransProvision, forall_const]
      cases hgrant : n.grant lower d now with
      | none => simp [h]
      | some g =>
        unfold LicenseDb.OneKey at h ⊢
        simp only [Option.isSome_some, forall_const]
        by_cases hkept : KeyStops ⟨"", n.subscriptionId, n.orderId⟩ n.lookup d db ∨
            (foundKey n.lookup d db).isSome
        · rw [(keyIds_kept hkept).1]
          simp [h, hkept]
        · obtain ⟨hsaves, hnone⟩ := not_or.mp hkept
          rw [(keyIds_minted hsaves (Option.not_isSome_iff_eq_none.mp hnone)).1]
          simp [hkept, LicenseDb.keyIds]
    | false =>
      simp only [Bool.false_eq_true, if_false, false_implies, iff_true]
      cases n.midtransChargeFailed with
      | true =>
        have hkeys : (n.midtransSetGrace d now db).1.keyIds = db.keyIds :=
          keyIds_amend (fun _ _ => rfl)
        simp only [if_true]
        unfold LicenseDb.OneKey at h ⊢
        rw [hkeys]
        exact h
      | false => exact h

end MidtransNotification

/-- The events of a subscription take effect at least once and replay safely in the runs whose
deliveries all meet the conditions, and in no others. -/
theorem webhookReplay_iff (lower : String → String) (subId : String) (clock : Int) :
    (∀ steps, (paddleWebhook lower subId).machine.Along
        ((paddleWebhook lower subId).Holds LicenseDb.billing (LicenseDb.OneOfPaddle subId))
        (Receiver.fresh .empty clock) steps ↔
      (paddleWebhook lower subId).machine.Along
        ((paddleWebhook lower subId).Meets (paddleLeaves lower subId) (fun _ _ _ _ => True))
        (Receiver.fresh .empty clock) steps) ∧
    (∀ steps, (midtransWebhook lower).machine.Along
        ((midtransWebhook lower).Holds LicenseDb.billing LicenseDb.OneKey)
        (Receiver.fresh .empty clock) steps ↔
      (midtransWebhook lower).machine.Along
        ((midtransWebhook lower).Meets (fun n => n.leaves lower) (fun n => n.NamesKey lower))
        (Receiver.fresh .empty clock) steps) := by
  constructor
  · apply (paddleWebhook lower subId).along_holds_iff
    · intro ev d now db _
      exact paddle_leaves_iff lower subId ev d now db
    · intro ev d now db hone
      simp only [iff_true]
      exact paddle_oneKey lower subId ev d now hone
    · show LicenseDb.OneOfPaddle subId .empty
      simp [LicenseDb.OneOfPaddle, LicenseDb.keyIds, LicenseDb.empty, Table.empty]
  · apply (midtransWebhook lower).along_holds_iff
    · intro n d now db _
      exact n.leaves_iff lower d now db
    · intro n d now db hone
      exact n.oneKey_iff lower d now hone
    · show LicenseDb.empty.OneKey
      simp [LicenseDb.OneKey, LicenseDb.keyIds, LicenseDb.empty, Table.empty]

/-- The customer cannot be saved, and the event is answered with 500; when Paddle sends it again it
is a duplicate. -/
def unsavedTenant : WebhookDraw :=
  ⟨fun _ => some ⟨"starter", "month", ""⟩, "", none, "K-1", "S-1", false, false, false, false,
    false, false, false⟩

def subscriptionCreated : PaddleEvent :=
  ⟨"evt_1", "subscription.created",
    ⟨"active", "ani@example.com", "", none, "pri_1", none, some ⟨"month", 1⟩, none⟩⟩

theorem failedEvent_isDuplicate :
    ¬ ∀ lower subId clock steps, (paddleWebhook lower subId).machine.Along
      ((paddleWebhook lower subId).Holds LicenseDb.billing (LicenseDb.OneOfPaddle subId))
      (Receiver.fresh .empty clock) steps := by
  intro h
  have hrun := h id "sub_1" 0 [.deliver subscriptionCreated unsavedTenant, .wait 60,
    .deliver subscriptionCreated { unsavedTenant with tenantId := some "T-1" }]
  have hheld := (hrun.2.2.1.1 _ _ rfl).1 (by decide)
  exact absurd hheld (by decide)

end OzPos
