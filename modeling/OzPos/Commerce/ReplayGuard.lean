import OzPos.Client.Settings
import OzPos.Library.Outcome
import OzPos.Library.Run
import Mathlib.Data.List.Sort

namespace OzPos

inductive BridgeError where
  | invalid (message : String)
  | internal (message : String)

structure CartId where
  uuid : String
  colonFree : ':' ∉ uuid.toList
  deriving DecidableEq

structure AttemptId where
  text : String
  colonFree : ':' ∉ text.toList
  deriving DecidableEq

structure PaymentSplitArg where
  method : String
  amountMinor : Int
  idempotencyKey : Option String
  deriving DecidableEq

def splitKey (attempt : String) (n : Nat) : String := attempt ++ ":" ++ toString n

def stampAttemptSplitKeys (attempt : Option String) (splits : List PaymentSplitArg) :
    List PaymentSplitArg :=
  match attempt with
  | none => splits
  | some attempt =>
    splits.mapIdx (fun n split => { split with idempotencyKey := some (splitKey attempt n) })

structure BasketLine where
  sku : String
  (qty unitPriceMinor : Int)
  currency : String
  deriving DecidableEq

structure Basket where
  lines : List BasketLine
  totalMinor : Int
  currency : String
  discountPercent : Int
  deriving DecidableEq

def Basket.Same (b c : Basket) : Prop :=
  b.lines.Perm c.lines ∧ b.totalMinor = c.totalMinor ∧ b.currency = c.currency ∧
    b.discountPercent = c.discountPercent

instance (b c : Basket) : Decidable (b.Same c) :=
  inferInstanceAs (Decidable (_ ∧ _ ∧ _ ∧ _))

structure CartLineData where
  sku : String
  (qty unitPriceMinor : Int)
  unitPriceCurrency : Option String

/-- The arguments of `complete_sale_with_resolved_shortfalls` that its guard and its keys go by. -/
structure ShortfallArgs where
  cartId : CartId
  lines : List CartLineData
  totalMinor : Int
  currency : String
  discountPercent : Int
  paymentMethod : String
  paymentSplits : Option (List PaymentSplitArg)

/-- What the reconstructed cart holds; a line without a currency has the sale's. -/
def ShortfallArgs.basket (args : ShortfallArgs) : Basket where
  lines := args.lines.map (fun l =>
    ⟨l.sku, l.qty, l.unitPriceMinor, l.unitPriceCurrency.getD args.currency⟩)
  totalMinor := args.totalMinor
  currency := args.currency
  discountPercent := args.discountPercent

def CartLineData.le (a b : CartLineData) : Bool :=
  if a.sku ≠ b.sku then a.sku < b.sku
  else if a.qty ≠ b.qty then a.qty < b.qty
  else if a.unitPriceMinor ≠ b.unitPriceMinor then a.unitPriceMinor < b.unitPriceMinor
  else
    match a.unitPriceCurrency, b.unitPriceCurrency with
    | none, _ => true
    | some _, none => false
    | some c, some d => c ≤ d

def stringBytes (s : String) : List UInt8 := s.toUTF8.toList

/-- `i64::to_le_bytes`. -/
def leBytes (n : Int) : List UInt8 :=
  (List.range 8).map (fun i => UInt8.ofNat ((n % 2^64).toNat / 256 ^ i))

def CartLineData.bytes (l : CartLineData) : List UInt8 :=
  stringBytes l.sku ++ leBytes l.qty ++ leBytes l.unitPriceMinor ++
    stringBytes (l.unitPriceCurrency.getD "")

/-- What goes into the hash; nothing stands between the fields. -/
def ShortfallArgs.bytes (args : ShortfallArgs) : List UInt8 :=
  stringBytes args.currency ++ leBytes args.totalMinor ++ leBytes args.discountPercent ++
    (args.lines.insertionSort (fun a b => a.le b = true)).flatMap CartLineData.bytes

def hexByte (b : UInt8) : List Char := [Nat.digitChar (b.toNat / 16), Nat.digitChar (b.toNat % 16)]

/-- `sha256` of a byte string. -/
abbrev Digest : Type := List UInt8 → List UInt8

def itemsHash (sha256 : Digest) (args : ShortfallArgs) : String :=
  String.ofList (((sha256 args.bytes).take 12).flatMap hexByte)

def shortfallBasketKey (sha256 : Digest) (args : ShortfallArgs) : String :=
  "items:" ++ itemsHash sha256 args

def cartBasketKey (cart : CartId) : String := "cart:" ++ cart.uuid

/-- A sale with the keys of its payment rows, the attempt they were stamped for and the basket it
was settled for. -/
structure SettledSale where
  id : String
  attempt : AttemptId
  basket : Basket
  total : Int
  voided : Bool
  keys : List String
  deriving DecidableEq

structure CartRow where
  id : CartId
  basket : Basket

/-- `retired` is history: the carts that are gone, with what each held last. -/
structure ReplayStore where
  carts : Table CartId CartRow CartRow.id
  sales : List SettledSale
  retired : Table CartId CartRow CartRow.id

namespace ReplayStore

variable (s : ReplayStore)

def empty : ReplayStore := ⟨Table.empty, [], Table.empty⟩

def loadActiveCart (id : CartId) : Option Basket :=
  (s.carts.find? id).map CartRow.basket

def findSaleByIdempotencyKey (key : String) : Option SettledSale :=
  s.sales.find? (fun sale => key ∈ sale.keys)

def paymentKeys : List String := s.sales.flatMap SettledSale.keys

end ReplayStore

def rekeyStem (attempt basketKey : String) (epoch : Nat) : String :=
  attempt ++ ":rekey:" ++ basketKey ++ ":v" ++ toString epoch

def rekeyHead (attempt basketKey : String) : String := attempt ++ ":rekey:" ++ basketKey ++ ":v"

/-- `substr(key, 1, head.len()) = head AND substr(key, -2) = ':0'`; `len` counts bytes and
`substr` characters. -/
def countsAs (head key : String) : Bool :=
  key.toList.take head.utf8ByteSize = head.toList &&
    key.toList.drop (key.toList.length - 2) = [':', '0']

variable (s : ReplayStore)

def ReplayStore.countRekeySettlements (head : String) : Nat :=
  s.paymentKeys.countP (countsAs head)

/-- `CompleteSaleResult` of the bridge. -/
structure BridgeSaleResult where
  saleId : String
  total : Int
  lineCount : Nat

def replayReceipt (sale : SettledSale) : BridgeSaleResult :=
  ⟨sale.id, sale.total, sale.basket.lines.length⟩

inductive ReplayVerdict where
  | replayed (sale : SettledSale)
  | fresh
  | rekey (stem : String)

def baseVerdict (attempt : AttemptId) (basketKey : Option String)
    (requestCart : Option CartId) : Except BridgeError ReplayVerdict :=
  match s.findSaleByIdempotencyKey (splitKey attempt.text 0) with
  | none => .ok .fresh
  | some sale =>
    let rekeyed (refusal : String) : Except BridgeError ReplayVerdict :=
      match basketKey with
      | none => .error (.invalid refusal)
      | some basket =>
        .ok (.rekey (rekeyStem attempt.text basket
          (s.countRekeySettlements (rekeyHead attempt.text basket))))
    if sale.voided then
      rekeyed (s!"checkout attempt {attempt.text} was voided and no basket identity was " ++
        "supplied — start a new checkout")
    else if (requestCart.bind s.loadActiveCart).isSome then
      rekeyed (s!"checkout attempt {attempt.text} already completed a different basket " ++
        s!"(sale {sale.id})")
    else .ok (.replayed sale)

def replayVerdict (attempt : Option AttemptId) (basketKey : Option String)
    (requestCart : Option CartId) : Except BridgeError ReplayVerdict :=
  match attempt with
  | none => .ok .fresh
  | some attempt =>
    match basketKey with
    | none => baseVerdict s attempt none requestCart
    | some basket =>
      -- step 1: what was settled for this basket under a re-key
      let settled := s.countRekeySettlements (rekeyHead attempt.text basket)
      if 0 < settled then
        match s.findSaleByIdempotencyKey
            (splitKey (rekeyStem attempt.text basket (settled - 1)) 0) with
        | some sale =>
          if sale.voided then .ok (.rekey (rekeyStem attempt.text basket settled))
          else .ok (.replayed sale)
        | none => baseVerdict s attempt (some basket) requestCart
      else baseVerdict s attempt (some basket) requestCart

/-- The minted sale id, the total that tax and promotions come to, and whether a step after the
guard fails. -/
structure SettleDraw where
  saleId : String
  total : Int
  failure : Option BridgeError

inductive Submission where
  | completeSaleScoped (attempt : AttemptId) (cartId : CartId) (paymentMethod : String)
      (paymentSplits : Option (List PaymentSplitArg))
  | completeSaleWithResolvedShortfalls (attempt : AttemptId) (args : ShortfallArgs)

namespace Submission

def attempt : Submission → AttemptId
  | .completeSaleScoped attempt .. => attempt
  | .completeSaleWithResolvedShortfalls attempt _ => attempt

def cartId : Submission → CartId
  | .completeSaleScoped _ cartId .. => cartId
  | .completeSaleWithResolvedShortfalls _ args => args.cartId

def basketKey (sha256 : Digest) : Submission → String
  | .completeSaleScoped _ cartId .. => cartBasketKey cartId
  | .completeSaleWithResolvedShortfalls _ args => shortfallBasketKey sha256 args

def pays : Submission → Bool
  | .completeSaleScoped _ _ _ splits => splits ≠ some []
  | .completeSaleWithResolvedShortfalls _ args => args.paymentSplits ≠ some []

def rebuilds : Submission → Bool
  | .completeSaleScoped .. => false
  | .completeSaleWithResolvedShortfalls .. => true

def splits (total : Int) : Submission → List PaymentSplitArg
  | .completeSaleScoped _ _ method splits => splits.getD [⟨method, total, none⟩]
  | .completeSaleWithResolvedShortfalls _ args => args.paymentSplits.getD [⟨args.paymentMethod, total, none⟩]

def verdict (sha256 : Digest) (s : ReplayStore) (sub : Submission) :
    Except BridgeError ReplayVerdict :=
  replayVerdict s (some sub.attempt) (some (sub.basketKey sha256)) (some sub.cartId)

end Submission

structure CheckoutReceipt where
  result : BridgeSaleResult
  replayed : Bool

namespace ReplayStore

/-- `delete_active_cart`. -/
def deleteActiveCart (id : CartId) : ReplayStore :=
  match s.carts.find? id with
  | none => s
  | some row =>
    { s with
      carts := s.carts.retain (fun c => c.id ≠ id)
      retired := s.retired.insertNew row }

/-- `save_active_cart`: an edit loads its cart first, and a new cart has a new id. -/
def saveActiveCart (row : CartRow) : ReplayStore :=
  if (s.retired.find? row.id).isSome then s else { s with carts := s.carts.upsert row }

def voidSale (saleId : String) : ReplayStore :=
  { s with
    sales := s.sales.map (fun sale => if sale.id = saleId then { sale with voided := true } else sale) }

def stampedKeys (stem : String) (splits : List PaymentSplitArg) : List String :=
  (stampAttemptSplitKeys (some stem) splits).filterMap PaymentSplitArg.idempotencyKey

/-- The checkout transaction; a taken key or sale id rolls it back. -/
def settle (sub : Submission) (stem : String) (basket : Basket)
    (draw : SettleDraw) : ReplayStore × Except BridgeError CheckoutReceipt :=
  let keys := stampedKeys stem (sub.splits draw.total)
  match draw.failure with
  | some e => (s, .error e)
  | none =>
    if s.sales.any (fun sale => sale.id = draw.saleId) ||
        keys.any (fun key => key ∈ s.paymentKeys) then
      (s, .error (.internal "UNIQUE constraint failed"))
    else
      let sale : SettledSale := ⟨draw.saleId, sub.attempt, basket, draw.total, false, keys⟩
      ({ s with sales := s.sales ++ [sale] }, .ok ⟨replayReceipt sale, false⟩)

/-- The scoped command takes its cart away before it settles it; the other rebuilds its own. -/
def checkOut (sub : Submission) (stem : String) (draw : SettleDraw) :
    ReplayStore × Except BridgeError CheckoutReceipt :=
  match sub with
  | .completeSaleScoped _ cartId _ _ =>
    match s.loadActiveCart cartId with
    | none => (s, .error (.invalid s!"cart not found: {cartId.uuid}"))
    | some basket => (s.deleteActiveCart cartId).settle sub stem basket draw
  | .completeSaleWithResolvedShortfalls _ args => s.settle sub stem args.basket draw

def submit (sha256 : Digest) (s : ReplayStore) (sub : Submission) (draw : SettleDraw) :
    ReplayStore × Except BridgeError CheckoutReceipt :=
  match sub.verdict sha256 s with
  | .error e => (s, .error e)
  | .ok (.replayed sale) => (s, .ok ⟨replayReceipt sale, true⟩)
  | .ok .fresh => s.checkOut sub sub.attempt.text draw
  | .ok (.rekey stem) => s.checkOut sub stem draw

end ReplayStore

inductive ReplayEvent where
  | saveCart (row : CartRow)
  | dropCart (id : CartId)
  | submit (sub : Submission) (draw : SettleDraw)
  | voidSale (saleId : String)

variable (sha256 : Digest)

def replayMachine :
    Machine ReplayStore ReplayEvent (Option (Except BridgeError CheckoutReceipt)) where
  step s
    | .saveCart row => (s.saveActiveCart row, none)
    | .dropCart id => (s.deleteActiveCart id, none)
    | .submit sub draw =>
      let done := s.submit sha256 sub draw
      (done.1, some done.2)
    | .voidSale saleId => (s.voidSale saleId, none)

/-- The basket of a submission: what its cart holds, or held when it went. -/
def ReplayStore.basketOf : Submission → Option Basket
  | .completeSaleScoped _ cartId _ _ => (s.loadActiveCart cartId).orElse (fun _ =>
      (s.retired.find? cartId).map CartRow.basket)
  | .completeSaleWithResolvedShortfalls _ args => some args.basket

variable (sub : Submission) (sale : SettledSale)

/-- The sale was settled for the basket of the submission. -/
def ReplayStore.SettledFor : Prop :=
  ∃ basket ∈ s.basketOf sub, sale.basket.Same basket

instance : Decidable (s.SettledFor sub sale) :=
  match h : s.basketOf sub with
  | none => isFalse (by simp [ReplayStore.SettledFor, h])
  | some basket => decidable_of_iff (sale.basket.Same basket) (by simp [ReplayStore.SettledFor, h])

/-- Of an attempt and a basket at most one sale stands. -/
def ReplayStore.OneSaleEach : Prop :=
  s.sales.Pairwise (fun a b => a.voided = false → b.voided = false → a.attempt = b.attempt →
    ¬a.basket.Same b.basket)

def ReplaysOwn (s : ReplayStore) : ReplayEvent → Prop
  | .submit sub _ => ∀ sale, sub.verdict sha256 s = .ok (.replayed sale) → s.SettledFor sub sale
  | _ => True

def receiptOf (s : ReplayStore) : ReplayEvent → Option CheckoutReceipt
  | .submit sub draw => (s.submit sha256 sub draw).2.toOption
  | _ => none

def submittedBasket : ReplayEvent → Option Basket
  | .submit sub _ => s.basketOf sub
  | _ => none

structure SettlesOnce (sha256 : Digest) (events : List ReplayEvent) : Prop where
  once : ∀ l r, events = l ++ r → ((replayMachine sha256).run .empty l).OneSaleEach
  own : (replayMachine sha256).Along (ReplaysOwn sha256) .empty events
  apart : ∀ l e m e' r, events = l ++ e :: m ++ e' :: r → ∀ receipt receipt' basket basket',
    receiptOf sha256 ((replayMachine sha256).run .empty l) e = some receipt →
    receiptOf sha256 ((replayMachine sha256).run .empty (l ++ e :: m)) e' = some receipt' →
    submittedBasket ((replayMachine sha256).run .empty l) e = some basket →
    submittedBasket ((replayMachine sha256).run .empty (l ++ e :: m)) e' = some basket' →
    receipt.result.saleId = receipt'.result.saleId → basket.Same basket'

def underOwnKey : Bool :=
  sale.keys.any (fun key =>
    (rekeyHead sub.attempt.text (sub.basketKey sha256)).toList.isPrefixOf key.toList)

def nothingRekeyed (s : ReplayStore) (sub : Submission) : Bool :=
  s.countRekeySettlements (rekeyHead sub.attempt.text (sub.basketKey sha256)) = 0

def answersByAttempt (s : ReplayStore) (sub : Submission) (sale : SettledSale) : Bool :=
  s.findSaleByIdempotencyKey (splitKey sub.attempt.text 0) = some sale && !sale.voided &&
    (s.loadActiveCart sub.cartId).isNone && nothingRekeyed sha256 s sub

def answersByBasket (s : ReplayStore) (sub : Submission) (sale : SettledSale) : Bool :=
  underOwnKey sha256 sub sale && (!nothingRekeyed sha256 s sub || sub.pays)

/-- What the guard takes for granted of a submission. -/
structure Guarded (sha256 : Digest) (s : ReplayStore) (sub : Submission) : Prop where
  /-- Where the attempt's first key answers, the basket is the one settled under it. -/
  answered : ∀ sale ∈ s.sales, answersByAttempt sha256 s sub sale = true → s.SettledFor sub sale
  /-- Contents with one hash are one basket. -/
  hashed : sub.rebuilds = true → nothingRekeyed sha256 s sub = false → ∀ sale ∈ s.sales,
    underOwnKey sha256 sub sale = true → sale.voided = false → s.SettledFor sub sale
  /-- A standing sale of the attempt and the basket is one the guard looks for. -/
  known : ∀ sale ∈ s.sales, sale.attempt = sub.attempt → sale.voided = false →
    s.SettledFor sub sale →
    answersByBasket sha256 s sub sale = true ∨ answersByAttempt sha256 s sub sale = true

instance (s : ReplayStore) (sub : Submission) : Decidable (Guarded sha256 s sub) :=
  decidable_of_iff (_ ∧ _ ∧ _)
    ⟨fun h => ⟨h.1, h.2.1, h.2.2⟩, fun h => ⟨h.answered, h.hashed, h.known⟩⟩

def GuardedStep (s : ReplayStore) : ReplayEvent → Prop
  | .submit sub _ => Guarded sha256 s sub
  | _ => True

instance (s : ReplayStore) (e : ReplayEvent) : Decidable (GuardedStep sha256 s e) := by
  unfold GuardedStep
  split <;> infer_instance

end OzPos
