import OzPos.Commerce.GiftCards
import OzPos.Library.Outcome

namespace OzPos

/-- A call, with what it draws and the dates that have passed when it is made. -/
structure GiftCardStep where
  expired : String → Bool
  draw : GiftCardDraw
  call : GiftCardCall

namespace GiftCardRecord

def after (r : GiftCardRecord) (steps : List GiftCardStep) : GiftCardRecord :=
  steps.foldl (fun r step => (step.call.perform step.expired step.draw r).1) r

/-- The same card, with rows added at the end of its ledger. -/
structure Grown (r next : GiftCardRecord) : Prop where
  id : next.card.id = r.card.id
  number : next.card.cardNumber = r.card.cardNumber
  ledger : r.transactions <+: next.transactions

variable {r next last : GiftCardRecord}

theorem Grown.refl (r : GiftCardRecord) : Grown r r := ⟨rfl, rfl, List.prefix_refl _⟩

theorem Grown.trans (h : Grown r next) (h' : Grown next last) : Grown r last :=
  ⟨h'.id.trans h.id, h'.number.trans h.number, h.ledger.trans h'.ledger⟩

end GiftCardRecord

open GiftCardRecord

variable {r next : GiftCardRecord} {draw : GiftCardDraw} {card : GiftCard} {amount : Int}
  {saleId : String} {row : GiftCardTransaction}

theorem writeRedeem_grown (h : writeRedeem draw amount saleId card r = .ok (next, row)) :
    Grown r next ∧ row.saleId = some saleId ∧ row.txnType = .redeem := by
  unfold writeRedeem at h
  split at h
  · simp only at h
    split at h
    · cases h
    · rename_i transactions hinsert
      obtain ⟨_, rfl⟩ := (insertTransaction_ok_iff _ _ _ _).mp hinsert
      cases h
      exact ⟨⟨rfl, rfl, List.prefix_append _ _⟩, rfl, rfl⟩
  · cases h

theorem writeTopUp_grown (h : writeTopUp draw amount card r = .ok (next, row)) : Grown r next := by
  unfold writeTopUp at h
  split at h
  · simp only at h
    split at h
    · cases h
    · rename_i transactions hinsert
      obtain ⟨_, rfl⟩ := (insertTransaction_ok_iff _ _ _ _).mp hinsert
      cases h
      exact ⟨rfl, rfl, List.prefix_append _ _⟩
  · cases h

theorem writeStatus_grown {source target : GiftCardStatus} {verb : String}
    (h : writeStatus source target verb draw r = .ok next) : Grown r next := by
  unfold writeStatus at h
  split at h
  · cases h
  · split at h
    · cases h
      exact ⟨rfl, rfl, List.prefix_refl _⟩
    · cases h

theorem write_grown {call : GiftCardCall} {done : GiftCardRecord × Option GiftCardTransaction}
    (h : call.write draw card r = .ok done) : Grown r done.1 := by
  cases call with
  | redeem key amount saleId =>
    obtain ⟨_, hwrite, rfl⟩ := Except.of_map h
    exact (writeRedeem_grown hwrite).1
  | topUp key amount =>
    obtain ⟨_, hwrite, rfl⟩ := Except.of_map h
    exact writeTopUp_grown hwrite
  | freeze key =>
    obtain ⟨_, hwrite, rfl⟩ := Except.of_map h
    exact writeStatus_grown hwrite
  | unfreeze key =>
    obtain ⟨_, hwrite, rfl⟩ := Except.of_map h
    exact writeStatus_grown hwrite

theorem perform_grown (step : GiftCardStep) (r : GiftCardRecord) :
    Grown r (step.call.perform step.expired step.draw r).1 := by
  unfold GiftCardCall.perform
  cases step.call.read r with
  | error e => exact .refl r
  | ok card =>
    dsimp only
    cases step.call.check step.expired card r with
    | error e => exact .refl r
    | ok found =>
      cases found with
      | some row => exact .refl r
      | none =>
        dsimp only
        cases hwrite : step.call.write step.draw card r with
        | error e => exact .refl r
        | ok done => exact write_grown hwrite

theorem after_grown (steps : List GiftCardStep) (r : GiftCardRecord) : Grown r (r.after steps) := by
  induction steps generalizing r with
  | nil => exact .refl r
  | cons step rest ih => exact (perform_grown step r).trans (ih _)

theorem redeemedFor_grown (h : Grown r next) (hrow : redeemedFor saleId r.transactions = some row) :
    redeemedFor saleId next.transactions = some row := by
  obtain ⟨added, hledger⟩ := h.ledger
  rw [← hledger, redeemedFor, List.find?_append]
  rw [redeemedFor] at hrow
  rw [hrow]
  rfl

variable {expired : String → Bool} {key : String} {reply : GiftCardReply}

theorem redeemed_after
    (h : (GiftCardCall.redeem key amount saleId).perform expired draw r =
      (next, .ok ⟨card, some row⟩)) :
    0 < amount ∧ getGiftCard key r = .ok r.card ∧ Grown r next ∧
      redeemedFor saleId next.transactions = some row := by
  have hgrown := perform_grown ⟨expired, draw, .redeem key amount saleId⟩ r
  simp only [h] at hgrown
  unfold GiftCardCall.perform at h
  cases hread : (GiftCardCall.redeem key amount saleId).read r with
  | error e =>
    simp only [hread] at h
    cases h
  | ok seen =>
    simp only [hread] at h
    obtain ⟨hamount, hget⟩ : 0 < amount ∧ getGiftCard key r = .ok seen := by
      unfold GiftCardCall.read at hread
      simp only at hread
      split at hread
      · cases hread
      · exact ⟨by omega, hread⟩
    have hseen : seen = r.card := by
      unfold getGiftCard at hget
      split at hget
      · exact (Except.ok.inj hget).symm
      · cases hget
    subst hseen
    refine ⟨hamount, hget, hgrown, ?_⟩
    cases hcheck : (GiftCardCall.redeem key amount saleId).check expired r.card r with
    | error e =>
      simp only [hcheck] at h
      cases h
    | ok found =>
      have hfound : found = redeemedFor saleId r.transactions := by
        unfold GiftCardCall.check at hcheck
        simp only at hcheck
        split at hcheck
        · cases hcheck
        · split at hcheck
          · cases hcheck
          · split at hcheck
            · cases hcheck
            · exact (Except.ok.inj hcheck).symm
      simp only [hcheck] at h
      cases found with
      | some earlier =>
        cases h
        exact hfound.symm
      | none =>
        simp only at h
        cases hwrite : (GiftCardCall.redeem key amount saleId).write draw r.card r with
        | error e =>
          simp only [hwrite] at h
          cases h
        | ok done =>
          simp only [hwrite] at h
          obtain ⟨⟨written, entry⟩, hredeem, rfl⟩ := Except.of_map hwrite
          cases h
          have hstored := (writeRedeem_ok hredeem).2.2.2.1
          obtain ⟨_, hsale, htype⟩ := writeRedeem_grown hredeem
          rw [hstored, redeemedFor, List.find?_append]
          rw [redeemedFor] at hfound
          rw [← hfound]
          simp [hsale, htype]

/-- A retry leaves the card and the ledger alone, and answers the recorded redemption just when
the card would bear the same redemption again. -/
theorem redeem_retry_iff
    (h : (GiftCardCall.redeem key amount saleId).perform expired draw r =
      (next, .ok ⟨card, some row⟩)) (steps : List GiftCardStep) (expired' : String → Bool)
    (draw' : GiftCardDraw) :
    ((GiftCardCall.redeem key amount saleId).perform expired' draw' (next.after steps)).1 =
        next.after steps ∧
      ((GiftCardCall.redeem key amount saleId).perform expired' draw' (next.after steps) =
          (next.after steps, .ok ⟨(next.after steps).card, some row⟩) ↔
        (next.after steps).card.status = .active ∧
          (next.after steps).card.expiryDate.any expired' = false ∧
          amount ≤ (next.after steps).card.currentBalanceMinor) := by
  obtain ⟨hamount, hget, hgrown, hrow⟩ := redeemed_after h
  have hlater := after_grown steps next
  have hfound := redeemedFor_grown hlater hrow
  generalize next.after steps = now at hlater hfound
  have hread : (GiftCardCall.redeem key amount saleId).read now = .ok now.card := by
    have hall := hgrown.trans hlater
    unfold getGiftCard at hget
    split at hget
    · rename_i hkey
      dsimp only [GiftCardCall.read, getGiftCard]
      rw [if_neg (by omega), hall.id, hall.number, if_pos hkey]
    · cases hget
  unfold GiftCardCall.perform
  rw [hread]
  dsimp only [GiftCardCall.check]
  by_cases hstatus : now.card.status = .active
  · by_cases hexpired : now.card.expiryDate.any expired' = true
    · simp [hstatus, hexpired]
    · by_cases hbalance : now.card.currentBalanceMinor < amount
      · simp [hstatus, hexpired, hbalance]
      · simp [hstatus, hexpired, hbalance, hfound]
        omega
  · simp [hstatus]

def tenCard : GiftCardRecord where
  card := ⟨"card-1", "4400", 1000, 1000, "EUR", .active, none, "2026-01-01"⟩
  transactions := [⟨"txn-0", none, .issue, 1000, 1000, "Issued", "2026-01-01"⟩]

def retryDraw (id : String) : GiftCardDraw := ⟨id, "2026-01-02", none⟩

def smallRedeem : GiftCardCall := .redeem "card-1" 200 "sale-1"

def paidCard : GiftCardRecord :=
  (smallRedeem.perform (fun _ => false) (retryDraw "txn-1") tenCard).1

def paidRow : GiftCardTransaction := redeemRow (retryDraw "txn-1") 200 "sale-1" tenCard.card 800

theorem small_redeem_answered_again :
    smallRedeem.perform (fun _ => false) (retryDraw "txn-2") (paidCard.after []) =
      (paidCard.after [], .ok ⟨(paidCard.after []).card, some paidRow⟩) := by
  have hfirst : (GiftCardCall.redeem "card-1" 200 "sale-1").perform (fun _ => false)
      (retryDraw "txn-1") tenCard = (paidCard, .ok ⟨paidCard.card, some paidRow⟩) := rfl
  have hretry := (redeem_retry_iff hfirst [] (fun _ => false) (retryDraw "txn-2")).2
  exact hretry.mpr ⟨rfl, rfl, by decide⟩

/-- Six euros for a sale, asked for once more with the four that are left. -/
theorem second_try_refused :
    let first := (GiftCardCall.redeem "card-1" 600 "sale-1").perform (fun _ => false)
      (retryDraw "txn-1") tenCard
    (∃ reply, first.2 = .ok reply ∧ reply.transaction.isSome) ∧
      (GiftCardCall.redeem "card-1" 600 "sale-1").perform (fun _ => false) (retryDraw "txn-2")
          first.1 =
        (first.1, .error (.validation "current_balance_minor"
          "insufficient balance: have 400, requested 600")) := by
  refine ⟨⟨_, rfl, rfl⟩, ?_⟩
  rfl

end OzPos
