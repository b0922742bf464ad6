import OzPos.LicenseServer.PaidTime

namespace OzPos

namespace SubscriptionRecord

variable (r : SubscriptionRecord)

variable (now : Int)

def credit : Int := if r.status = .paused then r.extension now else 0

theorem extension_nonneg : 0 ≤ r.extension now := by
  unfold extension
  cases r.pausedAt with
  | none => simp
  | some pausedAt =>
    dsimp only
    split
    · omega
    · omega

theorem credit_nonneg : 0 ≤ r.credit now := by
  unfold credit
  split
  · exact r.extension_nonneg now
  · omega

theorem credit_of_ne (h : r.status ≠ .paused) : r.credit now = 0 := if_neg h

theorem credit_wait (seconds : Nat) :
    r.credit (now + seconds) ≤ r.credit now + PaidTime.pauseOverlap now seconds r := by
  unfold credit PaidTime.pauseOverlap extension
  by_cases hpaused : r.status = .paused
  · simp only [hpaused, if_true]
    cases r.pausedAt with
    | none =>
      simp only [zero_add]
      exact le_max_left 0 _
    | some pausedAt =>
      cases r.pausedUntil with
      | none =>
        simp only [Option.filter_none, Option.getD_none]
        split
        · split
          · omega
          · omega
        · split
          · omega
          · omega
      | some ends =>
        by_cases hends : ends < now
        · have hlater : ends < now + seconds := by omega
          simp only [Option.filter_some, hends, hlater, decide_true, if_true, Option.getD_some]
          omega
        · by_cases hlater : ends < now + seconds
          · simp only [Option.filter_some, hends, hlater, decide_true, decide_false, if_true,
              Bool.false_eq_true, if_false, Option.getD_some, Option.getD_none]
            split
            · split
              · omega
              · omega
            · split
              · omega
              · omega
          · simp only [Option.filter_some, hends, hlater, decide_false, Bool.false_eq_true,
              if_false, Option.getD_none]
            split
            · split
              · omega
              · omega
            · split
              · omega
              · omega
  · simp [hpaused]

/-- Its expiry and that of its payload lie within what is covered and the time paused, with the
pause that is on. -/
structure Within (now covered paused : Int) : Prop where
  expires : r.expiresAt + r.credit now ≤ covered + paused
  credit : r.credit now ≤ paused
  payload : r.signedPayload.status = .active → r.signedPayload.expiresAt ≤ covered + paused

end SubscriptionRecord

namespace SubscriptionRecord

variable {r : SubscriptionRecord} {now covered paused : Int}

theorem Within.mono {covered' : Int} (h : r.Within now covered paused) (hle : covered ≤ covered') :
    r.Within now covered' paused := by
  refine ⟨?_, h.credit, ?_⟩
  · have hexpires := h.expires
    omega
  · intro hactive
    have hpayload := h.payload hactive
    omega

theorem Within.expiresAt_le (h : r.Within now covered paused) : r.expiresAt ≤ covered + paused := by
  have hexpires := h.expires
  have hcredit := r.credit_nonneg now
  omega

theorem within_resigned (hpaused : 0 ≤ paused) (hstatus : r.status ≠ .paused)
    (hexpires : r.expiresAt ≤ covered + paused) : (r.resigned now).Within now covered paused := by
  have hcredit : (r.resigned now).credit now = 0 := (r.resigned now).credit_of_ne now hstatus
  refine ⟨?_, ?_, ?_⟩
  · rw [hcredit]
    show r.expiresAt + 0 ≤ covered + paused
    omega
  · rw [hcredit]
    exact hpaused
  · intro _
    exact hexpires

theorem within_resigned_of_covered (hpaused : 0 ≤ paused) (hcredit : r.credit now ≤ paused)
    (hexpires : r.expiresAt ≤ covered) : (r.resigned now).Within now covered paused := by
  have hsame : (r.resigned now).credit now = r.credit now := rfl
  refine ⟨?_, ?_, ?_⟩
  · rw [hsame]
    show r.expiresAt + r.credit now ≤ covered + paused
    omega
  · rw [hsame]
    exact hcredit
  · intro _
    show r.expiresAt ≤ covered + paused
    omega

theorem within_expired (h : r.Within now covered paused) (hpaused : 0 ≤ paused) :
    ({ r with status := .expired } : SubscriptionRecord).Within now covered paused := by
  have hcredit : ({ r with status := .expired } : SubscriptionRecord).credit now = 0 :=
    SubscriptionRecord.credit_of_ne _ now (by simp)
  have hexpires := h.expiresAt_le
  refine ⟨?_, ?_, h.payload⟩
  · rw [hcredit]
    show r.expiresAt + 0 ≤ covered + paused
    omega
  · rw [hcredit]
    exact hpaused

theorem within_paused (h : r.Within now covered paused) (hpaused : 0 ≤ paused) (ends : Int) :
    ({ r with status := .paused, pausedAt := some now, pausedUntil := some ends } :
      SubscriptionRecord).Within now covered paused := by
  have hcredit : ({ r with status := .paused, pausedAt := some now, pausedUntil := some ends } :
      SubscriptionRecord).credit now = 0 := by
    unfold credit extension
    by_cases hends : ends < now
    · have hnot : ¬ now < ends := by omega
      simp only [Option.filter_some, hends, hnot, decide_true, if_true, if_false, Option.getD_some]
    · simp only [Option.filter_some, hends, decide_false, Bool.false_eq_true, if_true, if_false,
        Option.getD_none, lt_self_iff_false]
  have hexpires := h.expiresAt_le
  refine ⟨?_, ?_, h.payload⟩
  · rw [hcredit]
    show r.expiresAt + 0 ≤ covered + paused
    omega
  · rw [hcredit]
    exact hpaused

theorem within_resumed (h : r.Within now covered paused) (hpaused : 0 ≤ paused)
    (hstatus : r.status = .paused) : (r.resumedFrom now).Within now covered paused := by
  have hcredit : r.credit now = r.extension now := if_pos hstatus
  have hexpires := h.expires
  rw [hcredit] at hexpires
  unfold SubscriptionRecord.resumedFrom
  exact within_resigned hpaused (by simp) hexpires

end SubscriptionRecord

namespace PaidTime

/-- A purchase moves the end of what is covered, and nothing else that the bound is about. -/
structure Buys (s s' : PaidTime) : Prop where
  clock : s'.clock = s.clock
  paused : s'.paused = s.paused
  issued : s'.issued = s.issued
  covered : s.covered ≤ s'.covered
  named : (∀ p ∈ s.named, p.2 ≤ s.covered) → ∀ p ∈ s'.named, p.2 ≤ s'.covered

variable (s : PaidTime)

theorem buys_refl : s.Buys s := ⟨rfl, rfl, rfl, le_refl _, fun h => h⟩

variable (after : Int → Int)

theorem covered_le_laid (now covered : Int) : covered ≤ laid after now covered :=
  le_max_left _ _

theorem after_le_laid (now covered : Int) :
    after now ≤ laid after now covered ∧ after (max covered now) ≤ laid after now covered :=
  ⟨le_max_of_le_right (le_max_left _ _), le_max_of_le_right (le_max_right _ _)⟩

theorem buys_buy : s.Buys (s.buy after) := by
  have hle := covered_le_laid after s.clock s.covered
  refine ⟨rfl, rfl, rfl, hle, ?_⟩
  intro hnamed p hp
  exact (hnamed p hp).trans hle

theorem buys_buyNamed (sub : PaddleSubscription) (hnamed : ∀ p ∈ s.named, p.2 ≤ s.covered) :
    s.Buys (s.buyNamed sub) ∧
      (sub.namesPeriod = true → ∀ tier, sub.expiresAt tier s.clock ≤ (s.buyNamed sub).covered) := by
  unfold buyNamed PaddleSubscription.namesPeriod PaddleSubscription.expiresAt
  cases hperiod : sub.currentBillingPeriod with
  | none =>
    cases hcycle : sub.billingCycle with
    | none => exact ⟨s.buys_refl, by simp⟩
    | some cycle => exact ⟨s.buys_buy _, fun _ _ => (after_le_laid cycle.after s.clock s.covered).1⟩
  | some period =>
    obtain ⟨starts, ends⟩ := period
    cases ends with
    | none => exact ⟨s.buys_refl, by simp⟩
    | some ends =>
      dsimp only
      split
      · rename_i hmem
        refine ⟨s.buys_refl, ?_⟩
        intro _ _
        exact hnamed _ hmem
      · have hle : s.covered ≤ max s.covered (max s.covered (sub.startsAt s.clock) +
            max 0 (ends - sub.startsAt s.clock)) := le_max_left _ _
        have hends : ends ≤ max s.covered (max s.covered (sub.startsAt s.clock) +
            max 0 (ends - sub.startsAt s.clock)) := by omega
        refine ⟨⟨rfl, rfl, rfl, hle, ?_⟩, ?_⟩
        · intro _ p hp
          rcases List.mem_cons.mp hp with heq | hold
          · rw [heq]
            exact hends
          · exact (hnamed p hold).trans hle
        · intro _ _
          exact hends

theorem buys_redeem (key : String) : s.Buys (s.redeem key) := by
  unfold redeem
  cases s.db.licenses.keys.find? key with
  | none => exact s.buys_refl
  | some k =>
    dsimp only
    split
    · obtain ⟨hclock, hpaused, hissued, hcovered, hnamed⟩ := s.buys_buy (calculateExpiry k.tierKey)
      exact ⟨hclock, hpaused, hissued, hcovered, hnamed⟩
    · exact s.buys_refl

variable {key : String}

theorem covered_redeem {k : LicenseKeyRecord} (hkey : s.db.licenses.keys.find? key = some k)
    (hmem : key ∈ s.unredeemed) (hunused : k.status = .unused) :
    (s.redeem key).covered = laid (calculateExpiry k.tierKey) s.clock s.covered := by
  unfold redeem
  simp only [hkey, hmem, hunused, and_self, if_true]
  rfl

theorem buys_afterCharge (n : MidtransNotification) (d : WebhookDraw) (done : Bool) :
    s.Buys (s.afterCharge n d done) := by
  unfold afterCharge
  cases d.prices n.grossAmount with
  | none => exact s.buys_refl
  | some price =>
    dsimp only
    split
    · exact s.buys_buy _
    · exact s.buys_refl

/-- What the purchases, the pauses and the records come to. -/
structure Sound : Prop where
  paused : 0 ≤ s.paused
  rows : s.db.licenses.AllSubscriptions (fun r => r.Within s.clock s.covered s.paused)
  issued : s.WithinPaid
  named : ∀ p ∈ s.named, p.2 ≤ s.covered

variable {s}

theorem Sound.issue (h : s.Sound) {s' : PaidTime} (hbuys : s.Buys s') {db : ServerDb}
    {answer : Option SubscriptionPayload}
    (hrows : db.licenses.AllSubscriptions (fun r => r.Within s.clock s'.covered s.paused))
    (hanswer : ∀ p, answer = some p → p.status = .active → p.expiresAt ≤ s'.covered + s.paused) :
    (s'.issue answer db).Sound := by
  have hpaused : (s'.issue answer db).paused = s.paused := hbuys.paused
  have hclock : (s'.issue answer db).clock = s.clock := hbuys.clock
  have hcovered : (s'.issue answer db).covered = s'.covered := rfl
  refine ⟨?_, ?_, ?_, hbuys.named h.named⟩
  · rw [hpaused]
    exact h.paused
  · rw [hpaused, hclock, hcovered]
    exact hrows
  · intro p hp hactive
    rw [hpaused, hcovered]
    rcases List.mem_append.mp hp with hp | hp
    · exact hanswer p (Option.mem_toList.mp hp) hactive
    · rcases List.mem_append.mp hp with hp | hp
      · obtain ⟨r, hr, rfl⟩ := List.mem_map.mp hp
        exact (hrows r hr).payload hactive
      · rw [hbuys.issued] at hp
        have hle := h.issued p hp hactive
        have hcovers := hbuys.covered
        omega

theorem Sound.rows_mono (h : s.Sound) {s' : PaidTime} (hbuys : s.Buys s') :
    s.db.licenses.AllSubscriptions (fun r => r.Within s.clock s'.covered s.paused) := by
  intro r hr
  exact (h.rows r hr).mono hbuys.covered

variable {now covered paused : Int} {g : WebhookGrant}

theorem within_enter (hpaused : 0 ≤ paused) (hexpires : g.expiresAt ≤ covered)
    (r : SubscriptionRecord) : (g.enter now r).Within now covered paused := by
  unfold WebhookGrant.enter
  apply SubscriptionRecord.within_resigned hpaused
  · simp
  · show g.expiresAt ≤ covered + paused
    omega

variable {lower : String → String} {d : WebhookDraw}

theorem midtrans_grant_some {n : MidtransNotification} (h : n.grant lower d now = some g) :
    ∃ price, d.prices n.grossAmount = some price ∧
      g.expiresAt = midtransChargeExpiry price.period now := by
  unfold MidtransNotification.grant at h
  split at h
  · cases h
  · cases hprice : d.prices n.grossAmount with
    | none => simp [hprice] at h
    | some price =>
      simp only [hprice] at h
      split at h
      · cases h
      · obtain ⟨tenant, -, rfl⟩ := Option.map_eq_some_iff.mp h
        exact ⟨price, rfl, rfl⟩

theorem paddle_grant_some {sub : PaddleSubscription} (h : sub.grant lower d now = some g) :
    ∃ tier, g.expiresAt = sub.expiresAt tier now := by
  unfold PaddleSubscription.grant at h
  split at h
  · cases h
  · cases hprice : d.prices sub.priceId with
    | none => simp [hprice] at h
    | some price =>
      simp only [hprice] at h
      split at h
      · cases h
      · split at h
        · cases h
        · obtain ⟨tenant, -, rfl⟩ := Option.map_eq_some_iff.mp h
          exact ⟨price.tier, rfl⟩

theorem charge_rows {n : MidtransNotification} {db : LicenseDb} (hpaused : 0 ≤ paused)
    (h : db.AllSubscriptions (fun r => r.Within now covered paused))
    (hcharge : (n.process lower d now db).2 = true → n.midtransChargeSucceeded = true →
      ∀ price, d.prices n.grossAmount = some price →
        midtransChargeExpiry price.period now ≤ covered) :
    (n.process lower d now db).1.AllSubscriptions (fun r => r.Within now covered paused) := by
  unfold MidtransNotification.process at hcharge ⊢
  by_cases hid : n.transactionId = ""
  · rw [if_pos hid]
    exact h
  · simp only [hid, if_false] at hcharge ⊢
    cases hsucceeded : n.midtransChargeSucceeded with
    | true =>
      simp only [hsucceeded, if_true, MidtransNotification.midtransProvision, forall_const]
        at hcharge ⊢
      cases hgrant : n.grant lower d now with
      | none => exact h
      | some g =>
        simp only [hgrant] at hcharge
        apply all_provision h
        intro hdone bundle r
        obtain ⟨price, hprice, hexpires⟩ := midtrans_grant_some hgrant
        apply within_enter hpaused
        show g.expiresAt ≤ covered
        rw [hexpires]
        exact hcharge hdone price hprice
    | false =>
      simp only [Bool.false_eq_true, if_false]
      cases n.midtransChargeFailed with
      | true =>
        apply all_amend h
        intro _ _ r hr
        apply SubscriptionRecord.within_resigned hpaused
        · simp
        · exact (h r hr).expiresAt_le
      | false => exact h

theorem sound_charge (h : s.Sound) (lower : String → String) (n : MidtransNotification)
    (d : WebhookDraw) :
    ((s.afterCharge n d (n.process lower d s.clock s.db.licenses).2).issue none
      (s.withLicenses (n.process lower d s.clock s.db.licenses).1)).Sound := by
  have hbuys := s.buys_afterCharge n d (n.process lower d s.clock s.db.licenses).2
  apply h.issue hbuys
  · apply charge_rows h.paused (h.rows_mono hbuys)
    intro hdone hsucceeded price hprice
    simp only [afterCharge, hprice, hdone, hsucceeded, Bool.and_self, if_true]
    exact (after_le_laid _ s.clock s.covered).1
  · simp

theorem mapPaddleStatus_ne_paused (status : String) : mapPaddleStatus status ≠ some .paused := by
  unfold mapPaddleStatus
  split
  · simp
  · split
    · simp
    · simp

theorem credit_updated_le (sub : PaddleSubscription) (d : WebhookDraw) (now : Int)
    (r : SubscriptionRecord) : (sub.updated d now r).credit now ≤ r.credit now := by
  by_cases hpaused : (mapPaddleStatus sub.status).getD r.status = .paused
  · have hold : r.status = .paused := by
      cases hstatus : mapPaddleStatus sub.status with
      | none => simpa [hstatus] using hpaused
      | some status =>
        simp only [hstatus, Option.getD_some] at hpaused
        rw [hpaused] at hstatus
        exact absurd hstatus (mapPaddleStatus_ne_paused sub.status)
    have hcredit : (sub.updated d now r).credit now = r.extension now := if_pos hpaused
    rw [hcredit, SubscriptionRecord.credit, if_pos hold]
  · rw [SubscriptionRecord.credit_of_ne _ now hpaused]
    exact r.credit_nonneg now

variable {subId : String} {ev : PaddleEvent}

theorem paddle_rows {db : LicenseDb} (hpaused : 0 ≤ paused)
    (h : db.AllSubscriptions (fun r => r.Within now covered paused))
    (henters : entersPeriod lower subId ev d now db → ∀ tier, ev.data.expiresAt tier now ≤ covered) :
    (paddleProcess lower subId ev d now db).1.AllSubscriptions
      (fun r => r.Within now covered paused) := by
  unfold paddleProcess
  unfold entersPeriod at henters
  by_cases hid : ev.eventId = "" ∨ subId = ""
  · rw [if_pos hid]
    exact h
  · rw [if_neg hid]
    obtain ⟨hevent, hsub⟩ := not_or.mp hid
    simp only [ne_eq, hevent, hsub, not_false_eq_true, true_and] at henters
    cases hkind : paddleKind ev.eventType with
    | provision =>
      simp only [hkind] at henters
      simp only [paddleProvision]
      cases hgrant : ev.data.grant lower d now with
      | none => exact h
      | some g =>
        apply all_provision h
        intro hdone bundle r
        obtain ⟨tier, hexpires⟩ := paddle_grant_some hgrant
        apply within_enter hpaused
        show g.expiresAt ≤ covered
        rw [hexpires]
        apply henters
        rw [hgrant]
        exact ⟨rfl, provision_done_iff.mp hdone⟩
    | update =>
      simp only [hkind] at henters
      apply all_amend h
      intro hdone hfound r hr
      have hwrites := (amend_done_iff.mp hdone).resolve_left hfound
      apply SubscriptionRecord.within_resigned_of_covered hpaused
      · exact (credit_updated_le ev.data d now r).trans (h r hr).credit
      · exact henters ⟨hfound, hwrites⟩ _
    | setGrace =>
      apply all_amend h
      intro _ _ r hr
      apply SubscriptionRecord.within_resigned hpaused
      · simp
      · exact (h r hr).expiresAt_le
    | resume =>
      simp only [hkind] at henters
      apply all_amend h
      intro hdone hfound r hr
      have hwrites := (amend_done_iff.mp hdone).resolve_left hfound
      apply SubscriptionRecord.within_resigned hpaused
      · simp
      · show ev.data.expiresAt r.tierKey now ≤ covered + paused
        have hle := henters ⟨hfound, hwrites⟩ r.tierKey
        omega
    | acknowledged => exact h

theorem buys_afterPaddle (h : s.Sound) (ev : PaddleEvent) (done : Bool) :
    s.Buys (s.afterPaddle ev done) := by
  have hnamed := (s.buys_buyNamed ev.data h.named).1
  unfold afterPaddle
  cases paddleKind ev.eventType with
  | setGrace => exact s.buys_refl
  | acknowledged => exact s.buys_refl
  | provision =>
    cases done with
    | true => exact hnamed
    | false => exact s.buys_refl
  | update =>
    cases done with
    | true => exact hnamed
    | false => exact s.buys_refl
  | resume =>
    cases done with
    | true => exact hnamed
    | false => exact s.buys_refl

theorem afterPaddle_of_enters (h : entersPeriod lower subId ev d s.clock s.db.licenses) :
    s.afterPaddle ev (paddleProcess lower subId ev d s.clock s.db.licenses).2 =
      s.buyNamed ev.data := by
  obtain ⟨hevent, hsub, hkind⟩ := h
  have hdone : (paddleProcess lower subId ev d s.clock s.db.licenses).2 = true := by
    unfold paddleProcess
    rw [if_neg (not_or.mpr ⟨hevent, hsub⟩)]
    cases hcase : paddleKind ev.eventType with
    | provision =>
      simp only [hcase] at hkind
      obtain ⟨g, hgrant⟩ := Option.isSome_iff_exists.mp hkind.1
      simp only [paddleProvision, hgrant]
      exact provision_done_iff.mpr hkind.2
    | update =>
      simp only [hcase] at hkind
      exact amend_done_iff.mpr (.inr hkind.2)
    | resume =>
      simp only [hcase] at hkind
      exact amend_done_iff.mpr (.inr hkind.2)
    | setGrace => simp [hcase] at hkind
    | acknowledged => simp [hcase] at hkind
  unfold afterPaddle
  rw [hdone]
  cases hcase : paddleKind ev.eventType with
  | provision => rfl
  | update => rfl
  | resume => rfl
  | setGrace => simp [hcase] at hkind
  | acknowledged => simp [hcase] at hkind

theorem sound_paddle (h : s.Sound)
    (hmeets : entersPeriod lower subId ev d s.clock s.db.licenses → ev.data.namesPeriod = true) :
    ((s.afterPaddle ev (paddleProcess lower subId ev d s.clock s.db.licenses).2).issue none
      (s.withLicenses (paddleProcess lower subId ev d s.clock s.db.licenses).1)).Sound := by
  have hbuys := buys_afterPaddle h ev (paddleProcess lower subId ev d s.clock s.db.licenses).2
  apply h.issue hbuys
  · apply paddle_rows h.paused (h.rows_mono hbuys)
    intro henters tier
    rw [afterPaddle_of_enters henters]
    exact (s.buys_buyNamed ev.data h.named).2 (hmeets henters) tier
  · simp

theorem within_minted (h : s.Sound) {req : ActivateRequest}
    {d : ActivateDraw} (hmeets : s.Meets lower (.activate req d)) {a : Admission}
    (hauthorized : Authorized lower req d s.db a) (hexpiry : ¬ a.key.expiresAt < s.clock)
    (hreused : reusedSubscription d a s.db.licenses = none) :
    (minted lower req d a s.clock).Within s.clock (s.redeem req.key).covered s.paused := by
  have ha : a = ⟨req.tenantOf lower d s.db, a.key⟩ := by
    rw [← hauthorized.tenant]
  rcases hmeets a.key hauthorized.found hauthorized.unused hexpiry with hreuse | ⟨htrial, hmem⟩
  · rw [← ha, hreused] at hreuse
    cases hreuse
  · apply SubscriptionRecord.within_resigned h.paused
    · simp
    · show mintedExpiry lower req a.key s.clock ≤ (s.redeem req.key).covered + s.paused
      have hle := (after_le_laid (calculateExpiry a.key.tierKey) s.clock s.covered).1
      have hpaused := h.paused
      rw [covered_redeem s hauthorized.found hmem hauthorized.unused, mintedExpiry, htrial]
      simp only [Bool.false_eq_true, if_false]
      omega

theorem sound_activate (h : s.Sound) {req : ActivateRequest}
    {d : ActivateDraw} (hmeets : s.Meets lower (.activate req d)) :
    ((licensing lower).step s (.activate req d)).1.Sound := by
  cases hcase : handleActivate lower req d s.clock s.db with
  | mk db answer =>
    cases answer with
    | error refusal =>
      have hstep : ((licensing lower).step s (.activate req d)).1 = s.issue none db := by
        simp [licensing, hcase]
      have hrefused : ∀ a answer, Authorized lower req d s.db a → ¬ a.key.expiresAt < s.clock →
          reusedSubscription d a s.db.licenses = none →
          (handleActivate lower req d s.clock s.db).2 = .ok answer →
          (minted lower req d a s.clock).Within s.clock s.covered s.paused := by
        intro a answer _ _ _ hok
        rw [hcase] at hok
        cases hok
      have hrows := (handleActivate_rows h.rows hrefused).1
      rw [hcase] at hrows
      rw [hstep]
      exact h.issue s.buys_refl hrows (by simp)
    | ok answer =>
      have hstep : ((licensing lower).step s (.activate req d)).1 =
          (s.redeem req.key).issue (some answer.signedPayload) db := by
        simp [licensing, hcase]
      have hgranted := handleActivate_rows (h.rows_mono (s.buys_redeem req.key))
        (fun _ _ hauthorized hexpiry hreused _ =>
          within_minted h hmeets hauthorized hexpiry hreused)
      rw [hcase] at hgranted
      obtain ⟨hrows, hanswer⟩ := hgranted
      rw [hstep]
      apply h.issue (s.buys_redeem req.key) hrows
      intro p hp hactive
      cases hp
      obtain ⟨r, hr, hpayload⟩ := hanswer answer rfl
      rw [← hpayload] at hactive ⊢
      exact (hrows r hr).payload hactive

variable {tenantId : String}

theorem within_renewed (h : s.Sound)
    {d : RenewDraw} (hmeets : s.Meets lower (.renew tenantId key d)) {k : LicenseKeyRecord}
    {current : SubscriptionRecord} (hkey : s.db.licenses.keys.find? key = some k)
    (hunused : k.status = .unused) (hexpiry : ¬ k.expiresAt < s.clock)
    (hcurrent : s.db.licenses.latestActive tenantId = some current) :
    (renewed tenantId k current d.newId s.clock).Within s.clock (s.redeem key).covered s.paused := by
  obtain ⟨hmem, hlength⟩ := hmeets k current hkey hunused hexpiry hcurrent
  have hexpires := (h.rows current (latestActive_mem hcurrent).1).expiresAt_le
  have hlaid := (after_le_laid (calculateExpiry k.tierKey) s.clock s.covered).2
  have hpaused := h.paused
  have hcovered := covered_redeem s hkey hmem hunused
  apply SubscriptionRecord.within_resigned h.paused
  · simp
  · show calculateExpiry k.tierKey
      (if current.expiresAt < s.clock then s.clock else current.expiresAt) ≤
        (s.redeem key).covered + s.paused
    rw [hcovered]
    unfold tierLength at hlength
    split at hlength
    · rename_i hpast
      rw [if_pos hpast]
      omega
    · rename_i hfuture
      rw [if_neg hfuture]
      omega

theorem sound_renew (h : s.Sound) {d : RenewDraw} (hmeets : s.Meets lower (.renew tenantId key d)) :
    ((licensing lower).step s (.renew tenantId key d)).1.Sound := by
  have hexpired : ∀ covered (r : SubscriptionRecord), r.Within s.clock covered s.paused →
      ({ r with status := .expired } : SubscriptionRecord).Within s.clock covered s.paused :=
    fun covered r hr => SubscriptionRecord.within_expired hr h.paused
  cases hcase : handleRenew tenantId key d s.clock s.db.licenses with
  | mk db answer =>
    cases answer with
    | error refusal =>
      have hstep : ((licensing lower).step s (.renew tenantId key d)).1 =
          s.issue none (s.withLicenses db) := by
        simp [licensing, hcase]
      have hrefused : ∀ k current payload, s.db.licenses.keys.find? key = some k →
          k.status = .unused → ¬ k.expiresAt < s.clock →
          s.db.licenses.latestActive tenantId = some current →
          (handleRenew tenantId key d s.clock s.db.licenses).2 = .ok payload →
          (renewed tenantId k current d.newId s.clock).Within s.clock s.covered s.paused := by
        intro k current payload _ _ _ _ hok
        rw [hcase] at hok
        cases hok
      have hrows := (handleRenew_rows h.rows (hexpired s.covered) hrefused).1
      rw [hcase] at hrows
      rw [hstep]
      exact h.issue s.buys_refl hrows (by simp)
    | ok payload =>
      have hstep : ((licensing lower).step s (.renew tenantId key d)).1 =
          (s.redeem key).issue (some payload) (s.withLicenses db) := by
        simp [licensing, hcase]
      have hgranted := handleRenew_rows (h.rows_mono (s.buys_redeem key)) (hexpired _)
        (fun _ _ _ hkey hunused hexpiry hcurrent _ =>
          within_renewed h hmeets hkey hunused hexpiry hcurrent)
      rw [hcase] at hgranted
      obtain ⟨hrows, hanswer⟩ := hgranted
      rw [hstep]
      apply h.issue (s.buys_redeem key) hrows
      intro p hp hactive
      cases hp
      obtain ⟨r, hr, hpayload⟩ := hanswer payload rfl
      rw [← hpayload] at hactive ⊢
      exact hr.payload hactive

theorem sound_resume (h : s.Sound) {d : PauseDraw} :
    ((licensing lower).step s (.resume tenantId d)).1.Sound := by
  have hresumed : (handleResume tenantId d s.clock s.db.licenses).1.AllSubscriptions
        (fun r => r.Within s.clock s.covered s.paused) ∧
      ∀ payload, (handleResume tenantId d s.clock s.db.licenses).2 = .ok payload →
        ∃ r : SubscriptionRecord, r.Within s.clock s.covered s.paused ∧ r.signedPayload = payload :=
    handleResume_rows h.rows
      (fun r hr hpaused => SubscriptionRecord.within_resumed hr h.paused hpaused)
  cases hcase : handleResume tenantId d s.clock s.db.licenses with
  | mk db answer =>
    have hstep : ((licensing lower).step s (.resume tenantId d)).1 =
        s.issue answer.toOption (s.withLicenses db) := by
      simp [licensing, hcase]
    rw [hcase] at hresumed
    obtain ⟨hrows, hanswer⟩ := hresumed
    rw [hstep]
    apply h.issue s.buys_refl hrows
    intro p hp hactive
    cases answer with
    | error refusal => cases hp
    | ok payload =>
      cases hp
      obtain ⟨r, hr, hpayload⟩ := hanswer p rfl
      rw [← hpayload] at hactive ⊢
      exact hr.payload hactive

theorem le_foldr_max {l : List Int} {x : Int} (h : x ∈ l) : x ≤ l.foldr max 0 := by
  induction l with
  | nil => cases h
  | cons y l ih =>
    rw [List.foldr_cons]
    rcases List.mem_cons.mp h with rfl | hmem
    · exact le_max_left _ _
    · exact (ih hmem).trans (le_max_right _ _)

theorem foldr_max_nonneg (l : List Int) : 0 ≤ l.foldr max 0 := by
  induction l with
  | nil => exact le_refl _
  | cons x l ih =>
    rw [List.foldr_cons]
    exact le_max_of_le_right ih

theorem sound_wait (h : s.Sound) (seconds : Nat) :
    ((licensing lower).step s (.wait seconds)).1.Sound := by
  have hnonneg : 0 ≤ s.pausedDuring seconds := foldr_max_nonneg _
  have hpaused := h.paused
  refine ⟨?_, ?_, ?_, h.named⟩
  · show 0 ≤ s.paused + s.pausedDuring seconds
    omega
  · intro r hr
    have hwithin := h.rows r hr
    have hcredit := r.credit_wait s.clock seconds
    have hoverlap : pauseOverlap s.clock seconds r ≤ s.pausedDuring seconds :=
      le_foldr_max (List.mem_map_of_mem hr)
    refine ⟨?_, ?_, ?_⟩
    · show r.expiresAt + r.credit (s.clock + seconds) ≤
        s.covered + (s.paused + s.pausedDuring seconds)
      have hexpires := hwithin.expires
      omega
    · show r.credit (s.clock + seconds) ≤ s.paused + s.pausedDuring seconds
      have hcreditLe := hwithin.credit
      omega
    · intro hactive
      show r.signedPayload.expiresAt ≤ s.covered + (s.paused + s.pausedDuring seconds)
      have hpayload := hwithin.payload hactive
      omega
  · intro p hp hactive
    show p.expiresAt ≤ s.covered + (s.paused + s.pausedDuring seconds)
    have hissued := h.issued p hp hactive
    omega

theorem sound_step (h : s.Sound) {e : LicensingEvent}
    (hmeets : s.Meets lower e) : ((licensing lower).step s e).1.Sound := by
  cases e with
  | charge n d =>
    have hsound := sound_charge h lower n d
    cases hcase : n.process lower d s.clock s.db.licenses with
    | mk db done =>
      have hstep : ((licensing lower).step s (.charge n d)).1 =
          (s.afterCharge n d done).issue none (s.withLicenses db) := by
        simp [licensing, hcase]
      rw [hcase] at hsound
      rw [hstep]
      exact hsound
  | paddle subId ev d =>
    have hsound := sound_paddle h hmeets
    cases hcase : paddleProcess lower subId ev d s.clock s.db.licenses with
    | mk db done =>
      have hstep : ((licensing lower).step s (.paddle subId ev d)).1 =
          (s.afterPaddle ev done).issue none (s.withLicenses db) := by
        simp [licensing, hcase]
      rw [hcase] at hsound
      rw [hstep]
      exact hsound
  | issueKey key tier expiresAt =>
    cases hinsert : s.db.licenses.insertKey
        ⟨key, tier, .unused, expiresAt, false, "", "", ⟨"", "", ""⟩⟩ with
    | none =>
      simp only [licensing, hinsert]
      exact h
    | some db =>
      obtain ⟨-, keys, -, rfl⟩ := insertKey_some hinsert
      simp only [licensing, hinsert]
      exact ⟨h.paused, h.rows, h.issued, h.named⟩
  | activate req d => exact sound_activate h hmeets
  | renew tenantId key d => exact sound_renew h hmeets
  | pause tenantId pauseMonths d =>
    have hrows : (handlePause tenantId pauseMonths d s.clock s.db.licenses).1.AllSubscriptions
        (fun r => r.Within s.clock s.covered s.paused) :=
      handlePause_rows h.rows
        (fun r ends hr _ => SubscriptionRecord.within_paused hr h.paused ends)
    exact h.issue s.buys_refl hrows (by simp)
  | resume tenantId d => exact sound_resume h
  | autoResume fails =>
    have hrows : (runAutoResumeScanner fails s.clock s.db.licenses).AllSubscriptions
        (fun r => r.Within s.clock s.covered s.paused) :=
      runAutoResumeScanner_rows h.rows
        (fun r hr hpaused => SubscriptionRecord.within_resumed hr h.paused hpaused)
    exact h.issue s.buys_refl hrows (by simp)
  | wait seconds => exact sound_wait h seconds

theorem sound_fresh (clock : Int) : (fresh clock).Sound := by
  refine ⟨le_refl _, ?_, ?_, ?_⟩
  · intro r hr
    cases hr
  · intro p hp
    cases hp
  · intro p hp
    cases hp

end PaidTime

/-- In every run whose steps all grant what was paid, no active payload reaches beyond it. -/
theorem withinPaid_run (lower : String → String) (clock : Int) (events : List LicensingEvent)
    (h : (licensing lower).Along (fun s e => s.Meets lower e) (.fresh clock) events) :
    ∀ l r, events = l ++ r → ((licensing lower).run (.fresh clock) l).WithinPaid := by
  intro l r hsplit
  rw [hsplit, Machine.along_append] at h
  have hstep : ∀ (s : PaidTime) (e : LicensingEvent), s.Sound → s.Meets lower e →
      ((licensing lower).step s e).1.Sound :=
    fun s e hs hmeets => PaidTime.sound_step hs hmeets
  have hsound : ((licensing lower).run (.fresh clock) l).Sound :=
    (licensing lower).run_invariant hstep (.fresh clock) l (PaidTime.sound_fresh clock) h.1
  exact hsound.issued

def tillRequest : ActivateRequest := ⟨"OZ-PLUS-0001", "ani@example.com", "till-1", "", ""⟩

def tillDraw : ActivateDraw :=
  ⟨none, false, none, "T-1", "S-2", false, false, false, false, false, false, false, false⟩

/-- A key of the shop is issued and activated. -/
theorem withinPaid_shopKey :
    ((licensing id).run (.fresh 0) [.issueKey "OZ-PLUS-0001" "plus" 86400, .wait 60,
      .activate tillRequest tillDraw]).WithinPaid := by
  apply withinPaid_run id 0 [.issueKey "OZ-PLUS-0001" "plus" 86400, .wait 60,
    .activate tillRequest tillDraw] _ _ [] (List.append_nil _).symm
  refine ⟨trivial, trivial, ?_, trivial⟩
  intro k hkey _ _
  have hissued : k = ⟨"OZ-PLUS-0001", "plus", .unused, 86400, false, "", "", ⟨"", "", ""⟩⟩ :=
    (Option.some.inj hkey).symm
  refine .inr ⟨?_, ?_⟩
  · rw [hissued]
  · exact List.mem_cons_self

/-- A month is charged, and the key that its webhook issued is activated for a year. -/
theorem monthlyKey_grantsYear :
    ¬ ∀ lower clock events l r, events = l ++ r →
      ((licensing lower).run (.fresh clock) l).WithinPaid := by
  intro h
  have hpaid := h id 0
    [.charge ⟨"tx-1", "order-1", "", "settlement", "200", "", "149000.00", "", "ani@example.com", "",
        ""⟩
      ⟨fun _ => some ⟨"plus", "month", ""⟩, "", some "T-1", "OZ-PLUS-0001", "S-1", false, false, false,
        false, false, false, false⟩,
      .activate tillRequest tillDraw] _ [] (List.append_nil _).symm
    ⟨"T-1", "plus", .active, 0, 31536000, 32745600, 0⟩ (by decide) rfl
  exact absurd hpaid (by decide)

end OzPos
