import OzPos.Client.Catalog
import OzPos.Commerce.Money

namespace OzPos

inductive GiftCardStatus where
  | active
  | frozen
  | redeemed
  | expired
  deriving DecidableEq

def GiftCardStatus.text : GiftCardStatus → String
  | .active => "active"
  | .frozen => "frozen"
  | .redeemed => "redeemed"
  | .expired => "expired"

/-- `parse_currency` of the card's code, `USD` where it is none. -/
def giftCardCurrency (code : String) : String := (parseCurrency code).getD "USD"

structure GiftCard where
  (id cardNumber : String)
  (initialBalanceMinor currentBalanceMinor : Int)
  currency : String
  status : GiftCardStatus
  expiryDate : Option String
  updatedAt : String

inductive GiftCardTxnType where
  | issue
  | redeem
  | topup
  deriving DecidableEq

structure GiftCardTransaction where
  id : String
  saleId : Option String
  txnType : GiftCardTxnType
  (amountMinor balanceAfterMinor : Int)
  (notes createdAt : String)

structure GiftCardRecord where
  card : GiftCard
  transactions : List GiftCardTransaction

/-- What a call draws for its transaction: the row's id, the time, and whether
the database fails it. -/
structure GiftCardDraw where
  (txnId now : String)
  failure : Option String

def redeemedTwice (row : GiftCardTransaction) (rows : List GiftCardTransaction) : Bool :=
  row.txnType = .redeem && row.saleId.isSome &&
    rows.any (fun r => r.txnType = .redeem && r.saleId = row.saleId)

variable (draw : GiftCardDraw)

/-- `INSERT INTO gift_card_transactions`, under the primary key and the index of one
redemption for each sale. -/
def insertTransaction (row : GiftCardTransaction)
    (rows : List GiftCardTransaction) : Except CoreError (List GiftCardTransaction) :=
  match draw.failure with
  | some message => .error (.db message)
  | none =>
    if rows.any (fun r => r.id = row.id) then
      .error (.db "UNIQUE constraint failed: gift_card_transactions.id")
    else if redeemedTwice row rows then
      .error (.db ("UNIQUE constraint failed: gift_card_transactions.gift_card_id, " ++
        "gift_card_transactions.sale_id"))
    else .ok (rows ++ [row])

structure IssueGiftCardInput where
  cardNumber : String
  initialAmountMinor : Int
  currency : String
  expiryDate : Option String

def issueGiftCard (cardId : String) (draw : GiftCardDraw) (input : IssueGiftCardInput) :
    Except CoreError GiftCardRecord :=
  if input.initialAmountMinor ≤ 0 then
    .error (.validation "initial_amount_minor" "initial amount must be positive")
  else if (trim input.cardNumber).isEmpty then
    .error (.validation "card_number" "card number is required")
  else
    let amount := input.initialAmountMinor
    let number := trim input.cardNumber
    let row : GiftCardTransaction :=
      { id := draw.txnId, saleId := none, txnType := .issue, amountMinor := amount
        balanceAfterMinor := amount
        notes := "Issued gift card " ++ number ++ " with " ++
          formatMinor amount (giftCardCurrency input.currency)
        createdAt := draw.now }
    match insertTransaction draw row [] with
    | .error e => .error e
    | .ok transactions =>
      .ok
        { card :=
            { id := cardId, cardNumber := number, initialBalanceMinor := amount
              currentBalanceMinor := amount, currency := input.currency, status := .active
              expiryDate := input.expiryDate, updatedAt := draw.now }
          transactions }

def GiftCardRecord.ledgerTotal (r : GiftCardRecord) : Int :=
  (r.transactions.map GiftCardTransaction.amountMinor).sum

/-- `get_gift_card` by id or by number. -/
def getGiftCard (key : String) (r : GiftCardRecord) : Except CoreError GiftCard :=
  if key = r.card.id ∨ key = r.card.cardNumber then .ok r.card
  else .error (.notFound "gift_card" key)

inductive GiftCardCall where
  | redeem (cardNumberOrId : String) (amountMinor : Int) (saleId : String)
  | topUp (cardNumberOrId : String) (amountMinor : Int)
  | freeze (cardNumberOrId : String)
  | unfreeze (cardNumberOrId : String)

/-- The read a call begins with, after the checks of its arguments alone. -/
def GiftCardCall.read (r : GiftCardRecord) : GiftCardCall → Except CoreError GiftCard
  | .redeem key amount _ =>
    if amount ≤ 0 then
      .error (.validation "amount_minor" "redemption amount must be positive")
    else getGiftCard key r
  | .topUp key amount =>
    if amount ≤ 0 then .error (.validation "amount_minor" "top-up amount must be positive")
    else getGiftCard key r
  | .freeze key | .unfreeze key => getGiftCard key r

def redeemedFor (saleId : String) (rows : List GiftCardTransaction) : Option GiftCardTransaction :=
  rows.find? (fun row => row.saleId = some saleId ∧ row.txnType = .redeem)

/-- The checks on the card as it was read; a redemption then looks for one of the same sale. -/
def GiftCardCall.check (expired : String → Bool) (card : GiftCard) (r : GiftCardRecord) :
    GiftCardCall → Except CoreError (Option GiftCardTransaction)
  | .redeem _ amount saleId =>
    if card.status ≠ .active then
      .error (.validation "status" ("gift card is not active (status: " ++ card.status.text ++ ")"))
    else if card.expiryDate.any expired then
      .error (.validation "expiry_date" "gift card has expired")
    else if card.currentBalanceMinor < amount then
      .error (.validation "current_balance_minor" ("insufficient balance: have " ++
        toString card.currentBalanceMinor ++ ", requested " ++ toString amount))
    else .ok (redeemedFor saleId r.transactions)
  | .topUp _ _ =>
    if card.status ≠ .active ∧ card.status ≠ .frozen then
      .error (.validation "status" ("cannot top-up card with status: " ++ card.status.text))
    else .ok none
  | .freeze _ =>
    if card.status ≠ .active then
      .error (.validation "status" ("cannot freeze card with status: " ++ card.status.text))
    else .ok none
  | .unfreeze _ =>
    if card.status ≠ .frozen then
      .error (.validation "status" ("card is not frozen (status: " ++ card.status.text ++ ")"))
    else .ok none

variable (amount : Int)

def redeemRow (saleId : String) (card : GiftCard) (balanceAfter : Int) : GiftCardTransaction :=
  { id := draw.txnId, saleId := some saleId, txnType := .redeem, amountMinor := -amount
    balanceAfterMinor := balanceAfter
    notes := "Redeemed " ++ formatMinor amount (giftCardCurrency card.currency) ++ " on sale " ++ saleId
    createdAt := draw.now }

variable (card : GiftCard)

def topUpRow (balanceAfter : Int) : GiftCardTransaction :=
  { id := draw.txnId, saleId := none, txnType := .topup, amountMinor := amount
    balanceAfterMinor := balanceAfter
    notes := "Top-up of " ++ formatMinor amount (giftCardCurrency card.currency) ++ " on card " ++
      card.cardNumber
    createdAt := draw.now }

/-- The transaction of a redemption: guarded by the balance only. -/
def writeRedeem (saleId : String) (card : GiftCard)
    (r : GiftCardRecord) : Except CoreError (GiftCardRecord × GiftCardTransaction) :=
  if amount ≤ r.card.currentBalanceMinor then
    let balanceAfter := r.card.currentBalanceMinor - amount
    let row := redeemRow draw amount saleId card balanceAfter
    match insertTransaction draw row r.transactions with
    | .error e => .error e
    | .ok transactions =>
      .ok ({ card :=
              { r.card with
                currentBalanceMinor := balanceAfter
                status := if balanceAfter = 0 then .redeemed else r.card.status
                updatedAt := draw.now }
             transactions }, row)
  else
    .error (.validation "current_balance_minor"
      "gift card balance changed during redemption — try again")

/-- The transaction of a top-up: a card read as frozen is made active. -/
def writeTopUp (r : GiftCardRecord) : Except CoreError (GiftCardRecord × GiftCardTransaction) :=
  if r.card.currentBalanceMinor ≤ i64Max - amount then
    let balanceAfter := r.card.currentBalanceMinor + amount
    let row := topUpRow draw amount card balanceAfter
    match insertTransaction draw row r.transactions with
    | .error e => .error e
    | .ok transactions =>
      .ok ({ card :=
              { r.card with
                currentBalanceMinor := balanceAfter
                status := if card.status = .frozen then .active else r.card.status
                updatedAt := draw.now }
             transactions }, row)
  else
    .error (.validation "current_balance_minor" "gift card balance overflow on top-up — try again")

def writeStatus (source target : GiftCardStatus) (verb : String) (draw : GiftCardDraw)
    (r : GiftCardRecord) : Except CoreError GiftCardRecord :=
  match draw.failure with
  | some message => .error (.db message)
  | none =>
    if r.card.status = source then
      .ok { r with card := { r.card with status := target, updatedAt := draw.now } }
    else
      .error (.validation "status" ("gift card status changed during " ++ verb ++ " — try again"))

def writeFreeze : GiftCardDraw → GiftCardRecord → Except CoreError GiftCardRecord :=
  writeStatus .active .frozen "freeze"

def writeUnfreeze : GiftCardDraw → GiftCardRecord → Except CoreError GiftCardRecord :=
  writeStatus .frozen .active "unfreeze"

def GiftCardCall.write (r : GiftCardRecord) :
    GiftCardCall → Except CoreError (GiftCardRecord × Option GiftCardTransaction)
  | .redeem _ amount saleId =>
    (writeRedeem draw amount saleId card r).map (fun done => (done.1, some done.2))
  | .topUp _ amount => (writeTopUp draw amount card r).map (fun done => (done.1, some done.2))
  | .freeze _ => (writeFreeze draw r).map (fun done => (done, none))
  | .unfreeze _ => (writeUnfreeze draw r).map (fun done => (done, none))

/-- A successful call's answer: the card, and the ledger row a payment returns. -/
structure GiftCardReply where
  card : GiftCard
  transaction : Option GiftCardTransaction

def GiftCardCall.perform (expired : String → Bool) (draw : GiftCardDraw) (call : GiftCardCall)
    (r : GiftCardRecord) : GiftCardRecord × Except CoreError GiftCardReply :=
  match call.read r with
  | .error e => (r, .error e)
  | .ok card =>
    match call.check expired card r with
    | .error e => (r, .error e)
    | .ok (some row) => (r, .ok ⟨r.card, some row⟩)
    | .ok none =>
      match call.write draw card r with
      | .error e => (r, .error e)
      | .ok (next, row) => (next, .ok ⟨next.card, row⟩)

variable (row : GiftCardTransaction)

def ledgerAccepts (rows : List GiftCardTransaction) : Bool :=
  draw.failure.isNone && !rows.any (fun r => r.id = row.id) && !redeemedTwice row rows

theorem insertTransaction_ok_iff (rows stored : List GiftCardTransaction) :
    insertTransaction draw row rows = .ok stored ↔
      ledgerAccepts draw row rows = true ∧ stored = rows ++ [row] := by
  unfold insertTransaction ledgerAccepts
  cases draw.failure with
  | some message => simp
  | none =>
    cases rows.any (fun r => r.id = row.id) with
    | true => simp
    | false =>
      cases redeemedTwice row rows with
      | true => simp
      | false => simp [eq_comm]

variable {draw : GiftCardDraw} {r next : GiftCardRecord}

theorem writeRedeem_ok {amount : Int} {saleId : String} {card : GiftCard}
    {row : GiftCardTransaction} (h : writeRedeem draw amount saleId card r = .ok (next, row)) :
    amount ≤ r.card.currentBalanceMinor ∧
      next.card.currentBalanceMinor = r.card.currentBalanceMinor - amount ∧
      next.card.status = (if next.card.currentBalanceMinor = 0 then .redeemed else r.card.status) ∧
      next.transactions = r.transactions ++ [row] ∧ row.amountMinor = -amount ∧
      row.balanceAfterMinor = next.card.currentBalanceMinor := by
  unfold writeRedeem at h
  split at h
  · rename_i hguard
    simp only at h
    split at h
    · cases h
    · rename_i transactions hinsert
      have hstored := ((insertTransaction_ok_iff _ _ _ _).mp hinsert).2
      simp only [Except.ok.injEq, Prod.mk.injEq] at h
      obtain ⟨rfl, rfl⟩ := h
      exact ⟨hguard, rfl, rfl, hstored, rfl, rfl⟩
  · cases h

theorem exists_writeRedeem_iff (draw : GiftCardDraw) (amount : Int) (saleId : String)
    (card : GiftCard) (r : GiftCardRecord) :
    (∃ done, writeRedeem draw amount saleId card r = .ok done) ↔
      amount ≤ r.card.currentBalanceMinor ∧
        ledgerAccepts draw
          (redeemRow draw amount saleId card (r.card.currentBalanceMinor - amount))
          r.transactions = true := by
  have hinsert := insertTransaction_ok_iff draw
    (redeemRow draw amount saleId card (r.card.currentBalanceMinor - amount)) r.transactions
  unfold writeRedeem
  by_cases hguard : amount ≤ r.card.currentBalanceMinor
  · simp only [hguard, if_true, true_and]
    cases hresult : insertTransaction draw
        (redeemRow draw amount saleId card (r.card.currentBalanceMinor - amount)) r.transactions with
    | error e => simpa [hresult] using hinsert
    | ok rows => simpa using ((hinsert rows).mp hresult).1
  · simp [hguard]

theorem exists_writeTopUp_iff (draw : GiftCardDraw) (amount : Int) (card : GiftCard)
    (r : GiftCardRecord) :
    (∃ done, writeTopUp draw amount card r = .ok done) ↔
      r.card.currentBalanceMinor ≤ i64Max - amount ∧
        ledgerAccepts draw (topUpRow draw amount card (r.card.currentBalanceMinor + amount))
          r.transactions = true := by
  have hinsert := insertTransaction_ok_iff draw
    (topUpRow draw amount card (r.card.currentBalanceMinor + amount)) r.transactions
  unfold writeTopUp
  by_cases hguard : r.card.currentBalanceMinor ≤ i64Max - amount
  · simp only [hguard, if_true, true_and]
    cases hresult : insertTransaction draw
        (topUpRow draw amount card (r.card.currentBalanceMinor + amount)) r.transactions with
    | error e => simpa [hresult] using hinsert
    | ok rows => simpa using ((hinsert rows).mp hresult).1
  · simp [hguard]

theorem writeTopUp_ok {amount : Int} {card : GiftCard} {row : GiftCardTransaction}
    (h : writeTopUp draw amount card r = .ok (next, row)) :
    next.card.currentBalanceMinor = r.card.currentBalanceMinor + amount ∧
      next.card.status = (if card.status = .frozen then .active else r.card.status) ∧
      next.transactions = r.transactions ++ [row] ∧ row.amountMinor = amount ∧
      row.balanceAfterMinor = next.card.currentBalanceMinor := by
  unfold writeTopUp at h
  split at h
  · simp only at h
    split at h
    · cases h
    · rename_i transactions hinsert
      have hstored := ((insertTransaction_ok_iff _ _ _ _).mp hinsert).2
      simp only [Except.ok.injEq, Prod.mk.injEq] at h
      obtain ⟨rfl, rfl⟩ := h
      exact ⟨rfl, rfl, hstored, rfl, rfl⟩
  · cases h

theorem writeStatus_ok {source target : GiftCardStatus} {verb : String}
    (h : writeStatus source target verb draw r = .ok next) :
    r.card.status = source ∧ next.card.status = target ∧
      next.card.currentBalanceMinor = r.card.currentBalanceMinor ∧
      next.transactions = r.transactions := by
  unfold writeStatus at h
  split at h
  · cases h
  · split at h
    · rename_i hstatus
      rw [← Except.ok.inj h]
      exact ⟨hstatus, rfl, rfl, rfl⟩
    · cases h

end OzPos
