import OzPos.Client.Sales

namespace OzPos

structure ApplyDraw where
  (now productId : String)

/-- The `product.created` payload read field by field; the currency is parsed first. -/
def describedProduct (doc : Json) (currency : String) : ProductDescription :=
  { sku := (doc.strAt? "sku").getD ""
    name := (doc.strAt? "name").getD ""
    priceMinor := (doc.i64At? "price_minor").getD (-1)
    currency
    categoryId := doc.strAt? "category_id"
    barcode := doc.strAt? "barcode"
    initialStock := (doc.i64At? "initial_stock").getD 0
    productType := (doc.strAt? "product_type").getD "retail" }

namespace DomainTables

variable {κ : Type}

def deductLines (now : String) :
    List SaleLinePayload → DomainTables κ → Except CoreError (DomainTables κ)
  | [], d => .ok d
  | line :: rest, d =>
    match d.adjustStockInTx now line.sku (-line.qty) with
    | .error e => .error e
    | .ok (_, d) => deductLines now rest d

/-- A located delta, or one for a product with locations, goes through the canonical writer. -/
def applyStockAdjustmentDeltaInTx (now : String) (sub : StockAdjustmentPayload)
    (d : DomainTables κ) : Except CoreError (DomainTables κ) :=
  let hasRows := ((d.productIdBySku sub.sku).map d.hasLocationRows).getD false
  match sub.locationId with
  | some location =>
    (d.adjustStockAtLocationWithReason now sub.sku sub.delta location none).map Prod.snd
  | none =>
    if hasRows then
      (d.adjustStockAtLocationWithReason now sub.sku sub.delta canonicalDefaultLocation none).map
        Prod.snd
    else (d.adjustStockInTx now sub.sku sub.delta).map Prod.snd

def applyAdjustments (now : String) : List Json → DomainTables κ → Except CoreError (DomainTables κ)
  | [], d => .ok d
  | side :: rest, d =>
    match StockAdjustmentPayload.read side with
    | none => .error (.malformed "invalid stock payload")
    | some sub =>
      match d.applyStockAdjustmentDeltaInTx now sub with
      | .error e => .error e
      | .ok d => applyAdjustments now rest d

def applyMovements : List Json → DomainTables κ → Except CoreError (DomainTables κ)
  | [], d => .ok d
  | side :: rest, d =>
    match StockMovementPayload.read side with
    | none => .error (.malformed "invalid stock.movement payload")
    | some m =>
      match d.insertStockMovementInTx ⟨some m.id, m.itemId, canonicalDefaultLocation, m.delta,
          m.reason, m.sourceTerminalId, m.sourceUserId, m.storeId, m.createdAt⟩ with
      | .error e => .error e
      | .ok d => applyMovements rest d

def applyCompleteSale (now : String) (p : SalePayload) (d : DomainTables κ) :
    Except CoreError (DomainTables κ) :=
  if p.saleId.any d.saleCompletedHere then .ok d else d.deductLines now p.lineItems

def applyProductCreated (draw : ApplyDraw) (doc : Json) (d : DomainTables κ) :
    Except CoreError (DomainTables κ) :=
  match parseCurrency ((doc.strAt? "currency").getD "") with
  | none =>
    .error (.internal
      "invalid currency in sync payload: expected a 3-letter ISO-4217 currency code")
  | some currency =>
    (d.createProductIfAbsentInTx draw.now draw.productId (describedProduct doc currency)).map
      Prod.snd

def applyRefundSale (crm : Crm κ) (now : String) (p : RefundPayload) (d : DomainTables κ) :
    Except CoreError (DomainTables κ) :=
  if d.refundAlreadyApplied p.id then .ok d
  else
    match d.sales.find? p.saleId with
    | some sale => d.applyRefundWithSaleInTx crm now sale p
    | none => d.creditRefundEffectWithoutSale now p.lines

def applyPaymentRecorded (p : PaymentPayload) (d : DomainTables κ) :
    Except CoreError (DomainTables κ) :=
  if d.paymentAlreadyApplied p then .ok d
  else if (d.sales.find? p.saleId).isSome then d.insertPaymentInTx p
  else .ok d

end DomainTables

inductive RemoteAction where
  | completeSale
  | stockAdjusted
  | productCreated
  | stockMovement
  | settingsUpdate
  | finalizeSale
  | refundSale
  | voidSale
  | paymentRecorded
  | unsupported
  deriving DecidableEq

/-- The arms of the dispatch on `item.action`. -/
def remoteAction (action : String) : RemoteAction :=
  if action = "complete_sale" then .completeSale
  else if action = "stock.adjusted" then .stockAdjusted
  else if action = "product.created" then .productCreated
  else if action = "stock.movement" then .stockMovement
  else if action = "settings.update" ∨ action = "settings.change" then .settingsUpdate
  else if action = "finalize_sale" then .finalizeSale
  else if action = "refund_sale" then .refundSale
  else if action = "void_sale" then .voidSale
  else if action = "payment.recorded" then .paymentRecorded
  else .unsupported

/-- `serde_json::from_str` into a struct, or the arm's error. -/
def parsed {α : Type} (what : String) (read : Json → Option α) (payload : Payload) :
    Except CoreError α :=
  match payload.doc?.bind read with
  | some p => .ok p
  | none => .error (.malformed what)

/-- `serde_json::from_str::<Value>`, or the arm's error. -/
def parsedValue (what : String) (payload : Payload) : Except CoreError Json :=
  match payload.value? with
  | some doc => .ok doc
  | none => .error (.malformed what)

variable {κ : Type}

def applyRemoteInTx (crm : Crm κ) (draw : ApplyDraw) (item : OfflineQueueItem)
    (d : DomainTables κ) : Except CoreError (DomainTables κ) :=
  match remoteAction item.action with
  | .completeSale =>
    (parsed "invalid sale payload" SalePayload.read item.payload).bind
      (fun p => d.applyCompleteSale draw.now p)
  | .stockAdjusted =>
    (parsedValue "invalid stock payload" item.payload).bind
      (fun doc => d.applyAdjustments draw.now (envelopeSides doc))
  | .productCreated =>
    (parsedValue "invalid product payload" item.payload).bind (fun doc => d.applyProductCreated draw doc)
  | .stockMovement =>
    (parsedValue "invalid stock.movement payload" item.payload).bind
      (fun doc => d.applyMovements (envelopeSides doc))
  | .settingsUpdate =>
    (parsed "invalid settings payload" SettingsUpdatePayload.read item.payload).bind
      (fun p => .ok (d.applySettingsUpdate p.key p.value p.terminalId))
  | .finalizeSale =>
    (parsed "invalid finalize payload" readSaleId item.payload).bind
      (fun saleId => .ok (d.finalizeSaleInTx crm draw.now saleId))
  | .refundSale =>
    (parsed "invalid refund payload" RefundPayload.read item.payload).bind
      (fun p => d.applyRefundSale crm draw.now p)
  | .voidSale =>
    (parsed "invalid void payload" readSaleId item.payload).bind
      (fun saleId => d.applyVoidSaleInTx draw.now saleId)
  | .paymentRecorded =>
    (parsed "invalid payment payload" PaymentPayload.read item.payload).bind
      (fun p => d.applyPaymentRecorded p)
  | .unsupported => .error (.internal ("unsupported remote sync action: " ++ item.action))

/-- The identity of the mutation, where the originator minted one. -/
def remoteEffectKey (action : String) (payload : Payload) : Option String := do
  let doc ← payload.value?
  match remoteAction action with
  | .completeSale => (doc.strAt? "sale_id").map (fun id => "sale:" ++ id ++ ":deduct")
  | .finalizeSale => (doc.strAt? "sale_id").map (fun id => "sale:" ++ id ++ ":finalize")
  | .voidSale => (doc.strAt? "sale_id").map (fun id => "sale:" ++ id ++ ":void")
  | .refundSale => (doc.strAt? "id").map (fun id => "refund:" ++ id)
  | .paymentRecorded => (doc.strAt? "id").map (fun id => "payment:" ++ id)
  | .stockMovement =>
    if doc.strAt? "merge_type" = some "crdt_delta" then none
    else (doc.strAt? "id").map (fun id => "stock_movement:" ++ id)
  | .productCreated => (doc.strAt? "sku").map (fun sku => "product:" ++ sku ++ ":create")
  | .settingsUpdate => (doc.strAt? "key").map (fun key => "setting:" ++ key)
  | .stockAdjusted => none
  | .unsupported => none

structure AppliedItem where
  (itemId action : String)
  effectKey : Option String

structure RemoteFailure where
  (itemId action : String)
  payload : Payload
  attempts : Nat
  lastError : CoreError
  deadLettered : Bool

structure PullState where
  (since cursor : Option String)
  deriving DecidableEq

structure ClientDb (κ : Type) where
  domain : DomainTables κ
  applied : Table String AppliedItem AppliedItem.itemId
  failures : Table String RemoteFailure RemoteFailure.itemId
  pullState : PullState

def maxRemoteAttempts : Nat := 3

namespace ClientDb

variable (db : ClientDb κ) (itemId : String)

def isApplied : Bool := (db.applied.find? itemId).isSome

def hasEffect (key : String) : Bool :=
  db.applied.rows.any (fun row => row.effectKey = some key)

def isRemoteFailureDeadLettered : Bool :=
  (db.failures.find? itemId).any RemoteFailure.deadLettered

/-- `INSERT OR IGNORE` under the item key and the partial index on effects. -/
def markRemoteItemApplied (itemId action : String) (effectKey : Option String)
    (db : ClientDb κ) : ClientDb κ :=
  if effectKey.any db.hasEffect then db
  else { db with applied := db.applied.insertNew ⟨itemId, action, effectKey⟩ }

def clearRemoteFailure (db : ClientDb κ) : ClientDb κ :=
  { db with failures := db.failures.retain (fun row => row.itemId ≠ itemId) }

variable (item : OfflineQueueItem)

def recordRemoteFailure (error : CoreError) (db : ClientDb κ) : ClientDb κ :=
  let attempts := ((db.failures.find? item.id).map RemoteFailure.attempts).getD 0 + 1
  { db with
    failures := db.failures.upsert ⟨item.id, item.action, item.payload, attempts, error,
      maxRemoteAttempts ≤ attempts⟩ }

def isSelfOriginated : Bool :=
  item.originTerminalId.isSome && db.domain.getSyncTerminalId = item.originTerminalId

def alreadyApplied : Bool :=
  db.isApplied item.id || (remoteEffectKey item.action item.payload).any db.hasEffect

end ClientDb

structure ApplyOutcome where
  applied : Bool
  settingsChange : Option (String × String)

def ApplyOutcome.default : ApplyOutcome := ⟨false, none⟩

variable (item : OfflineQueueItem)

def settingsChangeOf : Option (String × String) :=
  if remoteAction item.action = .settingsUpdate then
    match item.payload.doc?.bind SettingsUpdatePayload.read with
    | some p => if remoteSyncAdmits p.key then some (p.key, p.terminalId) else none
    | none => none
  else none

def ClientDb.settle (db : ClientDb κ) : ClientDb κ :=
  (db.markRemoteItemApplied item.id item.action
    (remoteEffectKey item.action item.payload)).clearRemoteFailure item.id

def applyRemoteAtomicFull (crm : Crm κ) (draw : ApplyDraw) (item : OfflineQueueItem)
    (db : ClientDb κ) : ClientDb κ × Except CoreError ApplyOutcome :=
  if db.isRemoteFailureDeadLettered item.id then (db, .ok .default)
  else if db.isSelfOriginated item then (db.settle item, .ok .default)
  else if db.alreadyApplied item then (db, .ok .default)
  else
    match applyRemoteInTx crm draw item db.domain with
    | .ok domain => (({ db with domain }).settle item, .ok ⟨true, settingsChangeOf item⟩)
    | .error e => (db.recordRemoteFailure item e, .error e)

end OzPos
