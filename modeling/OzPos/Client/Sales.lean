import OzPos.Client.Catalog

namespace OzPos

structure SaleLinePayload where
  sku : String
  qty : Int

structure SalePayload where
  saleId : Option String
  lineItems : List SaleLinePayload

structure StockAdjustmentPayload where
  sku : String
  delta : Int
  locationId : Option String

structure StockMovementPayload where
  (id itemId : String)
  delta : Int
  (reason sourceTerminalId sourceUserId : Option String)
  (storeId createdAt : String)

structure SettingsUpdatePayload where
  (key value terminalId : String)
  deriving DecidableEq

structure RefundLinePayload where
  (id saleLineId sku : String)
  (qty unitMinor lineMinor : Int)
  (currency createdAt : String)
  locationId : Option String

structure RefundPayload where
  (id saleId : String)
  totalMinor : Int
  (currency reason note processedBy createdAt : String)
  lines : List RefundLinePayload

structure PaymentPayload where
  (id saleId method : String)
  amountMinor : Int
  (currency createdAt : String)
  (gatewayReference gatewayStatus gatewayResponse idempotencyKey : Option String)

open Json

variable (doc : Json)

def SaleLinePayload.read : Option SaleLinePayload := do
  let body ← doc.body? 2
  let sku ← body.required 0 "sku" asStr?
  let qty ← body.defaulted 1 "qty" asI64? 0
  some { sku, qty }

def SalePayload.read (doc : Json) : Option SalePayload := do
  let body ← doc.body? 2
  let saleId ← body.defaulted 0 "sale_id" (orNull asStr?) none
  let lineItems ← body.defaulted 1 "line_items" (list? SaleLinePayload.read) []
  some { saleId, lineItems }

def StockAdjustmentPayload.read : Option StockAdjustmentPayload := do
  let body ← doc.body? 3
  let sku ← body.required 0 "sku" asStr?
  let delta ← body.required 1 "delta" asI64?
  let locationId ← body.defaulted 2 "location_id" (orNull asStr?) none
  some { sku, delta, locationId }

def StockMovementPayload.read : Option StockMovementPayload := do
  let body ← doc.body? 8
  let id ← body.required 0 "id" asStr?
  let itemId ← body.required 1 "item_id" asStr?
  let delta ← body.required 2 "delta" asI64?
  let reason ← body.optional 3 "reason" asStr?
  let sourceTerminalId ← body.optional 4 "source_terminal_id" asStr?
  let sourceUserId ← body.optional 5 "source_user_id" asStr?
  let storeId ← body.required 6 "store_id" asStr?
  let createdAt ← body.required 7 "created_at" asStr?
  some { id, itemId, delta, reason, sourceTerminalId, sourceUserId, storeId, createdAt }

def defaultSyncTerminal : String := "sync"

def SettingsUpdatePayload.read : Option SettingsUpdatePayload := do
  let body ← doc.body? 3
  let key ← body.required 0 "key" asStr?
  let value ← body.required 1 "value" asStr?
  let terminalId ← body.defaulted 2 "terminal_id" asStr? defaultSyncTerminal
  some { key, value, terminalId }

/-- `FinalizeSalePayload` and `VoidSalePayload`: the sale is all they name. -/
def readSaleId : Option String := do
  let body ← doc.body? 1
  body.required 0 "sale_id" asStr?

def RefundLinePayload.read : Option RefundLinePayload := do
  let body ← doc.body? 9
  let id ← body.required 0 "id" asStr?
  let saleLineId ← body.defaulted 1 "sale_line_id" asStr? ""
  let sku ← body.defaulted 2 "sku" asStr? ""
  let qty ← body.defaulted 3 "qty" asI64? 0
  let unitMinor ← body.defaulted 4 "unit_minor" asI64? 0
  let lineMinor ← body.defaulted 5 "line_minor" asI64? 0
  let currency ← body.defaulted 6 "currency" asStr? ""
  let createdAt ← body.defaulted 7 "created_at" asStr? ""
  let locationId ← body.defaulted 8 "location_id" (orNull asStr?) none
  some { id, saleLineId, sku, qty, unitMinor, lineMinor, currency, createdAt, locationId }

def RefundPayload.read (doc : Json) : Option RefundPayload := do
  let body ← doc.body? 9
  let id ← body.required 0 "id" asStr?
  let saleId ← body.required 1 "sale_id" asStr?
  let totalMinor ← body.defaulted 2 "total_minor" asI64? 0
  let currency ← body.defaulted 3 "currency" asStr? ""
  let reason ← body.defaulted 4 "reason" asStr? ""
  let note ← body.defaulted 5 "note" asStr? ""
  let processedBy ← body.defaulted 6 "processed_by" asStr? ""
  let createdAt ← body.defaulted 7 "created_at" asStr? ""
  let lines ← body.defaulted 8 "lines" (list? RefundLinePayload.read) []
  some { id, saleId, totalMinor, currency, reason, note, processedBy, createdAt, lines }

def PaymentPayload.read : Option PaymentPayload := do
  let body ← doc.body? 10
  let id ← body.required 0 "id" asStr?
  let saleId ← body.required 1 "sale_id" asStr?
  let method ← body.defaulted 2 "method" asStr? ""
  let amountMinor ← body.defaulted 3 "amount_minor" asI64? 0
  let currency ← body.defaulted 4 "currency" asStr? ""
  let createdAt ← body.defaulted 5 "created_at" asStr? ""
  let gatewayReference ← body.defaulted 6 "gateway_reference" (orNull asStr?) none
  let gatewayStatus ← body.defaulted 7 "gateway_status" (orNull asStr?) none
  let gatewayResponse ← body.defaulted 8 "gateway_response" (orNull asStr?) none
  let idempotencyKey ← body.defaulted 9 "idempotency_key" (orNull asStr?) none
  some
    { id, saleId, method, amountMinor, currency, createdAt, gatewayReference, gatewayStatus
      gatewayResponse, idempotencyKey }

variable (name : String)

/-- `payload[name].as_str()`. -/
def Json.strAt? : Option String := (doc.get? name).bind asStr?

/-- `payload[name].as_i64()`. -/
def Json.i64At? : Option Int := (doc.get? name).bind asI64?

theorem lookup_reverse_eq (members : List (String × Json)) :
    lookup name members.reverse =
      (members.filter (fun m => m.1 = name)).getLast?.map Prod.snd := by
  induction members with
  | nil => rfl
  | cons m rest ih =>
    obtain ⟨k, j⟩ := m
    rw [List.reverse_cons, lookup_append, ih, List.filter_cons]
    by_cases hk : k = name
    · cases hrest : (rest.filter (fun m => m.1 = name)).getLast? <;>
        simp [lookup, hk, List.getLast?_cons, hrest]
    · simp [lookup, hk]

/-- A required text that a struct was read with is what the decoded object holds under the
name; a decoded array holds nothing under a name. -/
theorem strAt?_value_of_required {doc : Json} {body : Body} {fields index : Nat}
    {name text : String} (hbody : doc.body? fields = some body)
    (hread : body.required index name asStr? = some text) :
    doc.value.strAt? name = none ∨ doc.value.strAt? name = some text := by
  unfold Json.strAt?
  cases doc with
  | obj members =>
    simp only [body?, Option.some.injEq] at hbody
    subst hbody
    right
    rw [Json.value, Json.get?, lookup_memberValues, lookup_reverse_eq]
    simp only [Body.required, Body.field?] at hread
    cases hmembers : members.filter (fun m => m.1 = name) with
    | nil => simp [hmembers] at hread
    | cons m more =>
      cases more with
      | nil => simpa [hmembers, lookup] using hread
      | cons m' more => simp [hmembers] at hread
  | arr items => exact .inl rfl
  | null => simp [body?] at hbody
  | bool b => simp [body?] at hbody
  | int n => simp [body?] at hbody
  | float literal => simp [body?] at hbody
  | str s => simp [body?] at hbody

/-- The sides of a payload the stock arms apply: two under the merge envelope. -/
def envelopeSides : List Json :=
  if doc.strAt? "merge_type" = some "crdt_delta" then
    [(doc.get? "local").getD .null, (doc.get? "remote").getD .null]
  else [doc]

end OzPos

namespace OzPos

/-- The writers of customer spend and loyalty. Each is logged when it fails and never fails
the item, so all that is left of it is the customer tables after it. -/
structure Crm (κ : Type) where
  applyCustomerStatsOnCompletion : DomainTables κ → (saleId : String) → κ
  reverseLoyaltyOnRefund : DomainTables κ → (saleId refundId : String) →
    (refundTotal saleTotal : Int) → κ
  reverseCustomerSpendOnRefund : DomainTables κ → (customerId : String) →
    (refundTotal saleTotal : Int) → (saleBaseTotal : Option Int) → (createdAt : String) → κ

namespace DomainTables

variable {κ : Type}

def setSaleStatus (now saleId status : String) (d : DomainTables κ) : DomainTables κ :=
  { d with
    sales := d.sales.update saleId
      (fun sale => { sale with status, updatedAt := now, version := sale.version + 1 })
      (fun _ => rfl) }

def finalizeSaleInTx (crm : Crm κ) (now saleId : String) (d : DomainTables κ) : DomainTables κ :=
  match d.sales.find? saleId with
  | some sale =>
    if sale.status = "pending" then
      let d := d.setSaleStatus now saleId "completed"
      { d with crm := crm.applyCustomerStatsOnCompletion d saleId }
    else d
  | none => d

/-- A compare-and-set on `active`; a sale absent or voided already is a replay. -/
def applyVoidSaleInTx (now saleId : String) (d : DomainTables κ) :
    Except CoreError (DomainTables κ) :=
  match d.sales.find? saleId with
  | none => .ok d
  | some sale =>
    if sale.status = "active" then .ok (d.setSaleStatus now saleId "voided")
    else if sale.status = "voided" then .ok d
    else .error (.conflict "sale" "status")

variable (d : DomainTables κ)

def resolveTerminalRowId (tenantId identity : String) : Option String :=
  if trim identity = "" then none
  else
    let matching := d.terminals.filter
      (fun t => t.tenantId = tenantId && (t.id = identity || t.deviceId = identity))
    ((matching.find? (fun t => t.id = identity)).or matching.head?).map Terminal.id

/-- The sale's own row names this terminal, by its pairing id or through the terminals table. -/
def saleCompletedHere (saleId : String) : Bool :=
  match d.getSyncTerminalId, d.sales.find? saleId with
  | some thisTerminal, some sale =>
    match sale.terminalId with
    | none => false
    | some saleTerminal =>
      saleTerminal = thisTerminal ||
        match d.resolveTerminalRowId sale.tenantId thisTerminal,
            d.resolveTerminalRowId sale.tenantId saleTerminal with
        | some here, some there => here = there
        | _, _ => false
  | _, _ => false

def refundAlreadyApplied (refundId : String) : Bool :=
  (d.refunds.find? refundId).isSome

def paymentAlreadyApplied (p : PaymentPayload) : Bool :=
  match p.idempotencyKey with
  | some key => d.payments.rows.any (fun row => row.idempotencyKey = some key)
  | none => (d.payments.find? p.id).isSome

def insertPaymentInTx (p : PaymentPayload) (d : DomainTables κ) :
    Except CoreError (DomainTables κ) :=
  match d.payments.insert? ⟨p.id, p.saleId, p.method, p.amountMinor, p.currency, p.createdAt,
      p.gatewayReference, p.gatewayStatus, p.gatewayResponse, p.idempotencyKey⟩ with
  | none => .error (.db "UNIQUE constraint failed: payments.id")
  | some payments => .ok { d with payments }

/-- The lines of a refund put back into stock, those of no quantity left out. -/
def creditRefundEffectWithoutSale (now : String) :
    List RefundLinePayload → DomainTables κ → Except CoreError (DomainTables κ)
  | [], d => .ok d
  | line :: rest, d =>
    if line.qty ≤ 0 then creditRefundEffectWithoutSale now rest d
    else
      match d.adjustStockAtLocationWithReason now line.sku line.qty
          (line.locationId.getD canonicalDefaultLocation) (some "refund") with
      | .error e => .error e
      | .ok (_, d) => creditRefundEffectWithoutSale now rest d

def insertRefund (row : RefundRow) (d : DomainTables κ) : Except CoreError (DomainTables κ) :=
  if row.totalMinor < 0 then .error (.db "CHECK constraint failed: total_minor >= 0")
  else
    match d.refunds.insert? row with
    | none => .error (.db "UNIQUE constraint failed: refunds.id")
    | some refunds => .ok { d with refunds }

def insertRefundLines (refundId : String) :
    List RefundLinePayload → DomainTables κ → Except CoreError (DomainTables κ)
  | [], d => .ok d
  | line :: rest, d =>
    if line.qty ≤ 0 then .error (.db "CHECK constraint failed: qty > 0")
    else if line.unitMinor < 0 then .error (.db "CHECK constraint failed: unit_minor >= 0")
    else if line.lineMinor < 0 then .error (.db "CHECK constraint failed: line_minor >= 0")
    else
      match d.refundLines.insert? ⟨line.id, refundId, line.saleLineId, line.sku, line.qty,
          line.unitMinor, line.lineMinor, line.currency, line.createdAt⟩ with
      | none => .error (.db "UNIQUE constraint failed: refund_lines.id")
      | some refundLines => insertRefundLines refundId rest { d with refundLines }

def refundAuditDetails (p : RefundPayload) : Json :=
  .obj [("currency", .str p.currency), ("line_count", .int p.lines.length),
    ("origin", .str "sync"), ("reason", .str p.reason), ("refund_id", .str p.id),
    ("total_minor", .int p.totalMinor)]

def closeRefund (crm : Crm κ) (sale : SaleRow) (p : RefundPayload) (d : DomainTables κ) :
    DomainTables κ :=
  let d := { d with crm := crm.reverseLoyaltyOnRefund d p.saleId p.id p.totalMinor sale.totalMinor }
  let d :=
    match sale.customerId with
    | none => d
    | some customerId =>
      { d with
        crm := crm.reverseCustomerSpendOnRefund d customerId p.totalMinor sale.totalMinor
          sale.baseTotalMinor p.createdAt }
  { d with
    auditLog := d.auditLog ++ [⟨p.processedBy, "sale.refund", "sale", p.saleId,
      refundAuditDetails p, "success", p.createdAt⟩] }

def applyRefundWithSaleInTx (crm : Crm κ) (now : String) (sale : SaleRow) (p : RefundPayload)
    (d : DomainTables κ) : Except CoreError (DomainTables κ) :=
  match d.insertRefund ⟨p.id, p.saleId, p.totalMinor, p.currency, p.reason, p.note,
      p.processedBy, p.createdAt, sale.tenantId⟩ with
  | .error e => .error e
  | .ok d =>
    match d.insertRefundLines p.id p.lines with
    | .error e => .error e
    | .ok d =>
      match d.creditRefundEffectWithoutSale now p.lines with
      | .error e => .error e
      | .ok d => .ok (d.closeRefund crm sale p)

end DomainTables

end OzPos
