import OzPos.Client.Queue
import OzPos.Client.Sales

namespace OzPos

/-- A line of a refund; `Refund::new` gives it the refund's own id. -/
structure RefundLine where
  (id saleLineId sku : String)
  (qty unitMinor lineMinor : Int)
  (currency createdAt : String)

/-- What an `i64` field can hold. -/
def FitsI64 (n : Int) : Prop := -2^63 ≤ n ∧ n < 2^63

structure RefundLine.Fits (line : RefundLine) : Prop where
  qty : FitsI64 line.qty
  unitMinor : FitsI64 line.unitMinor
  lineMinor : FitsI64 line.lineMinor

structure Refund where
  (id saleId : String)
  totalMinor : Int
  (currency reason note processedBy createdAt : String)
  lines : List RefundLine
  total_fits : FitsI64 totalMinor
  lines_fit : ∀ line ∈ lines, line.Fits

structure SaleLineRow where
  (id saleId sku : String)
  (qty lineMinor : Int)

/-- The columns of `sales` that only refunds read; deduction locations that are NULL, empty or
the text `null` are `none`. -/
structure SaleTerms where
  currency : String
  deductionLocations : Option Payload

inductive KdsStatus where
  | pending
  | preparing
  | ready
  | served
  | cancelled
  deriving DecidableEq

structure KdsOrder where
  (id saleId : String)
  status : KdsStatus

structure KdsLineItem where
  (id kdsOrderId : String)
  itemStatus : KdsStatus

structure SalesDb (κ : Type) where
  domain : DomainTables κ
  terms : String → SaleTerms
  saleLines : Table String SaleLineRow SaleLineRow.id
  queue : OfflineQueue
  kdsOrders : List KdsOrder
  kdsLineItems : List KdsLineItem

inductive RefundError where
  | core (e : CoreError)
  | currencyMismatch (expected got : String)
  /-- The release build checks its arithmetic; the unwinding rolls the transaction back. -/
  | panicked

structure RefundDraw where
  (now rowId : String)

def invalidRefund {α : Type} (field message : String) : Except RefundError α :=
  .error (.core (.validation field message))

/-- `+` and `sum` on `i64`. -/
def addI64 (a b : Int) : Except RefundError Int :=
  match checkedI64 (a + b) with
  | some n => .ok n
  | none => .error .panicked

def sumI64 : Int → List Int → Except RefundError Int
  | total, [] => .ok total
  | total, n :: rest => (addI64 total n).bind (fun total => sumI64 total rest)

structure ClaimedLine where
  (saleLineId sku : String)
  (qty value : Int)

def skuDisagreement (saleLineId prior sku : String) : String :=
  s!"sale line {saleLineId} is claimed as both {prior} and {sku} in one refund"

def claimRefundLine (line : RefundLine) : List ClaimedLine → Except RefundError (List ClaimedLine)
  | [] => .ok [⟨line.saleLineId, line.sku, line.qty, line.lineMinor⟩]
  | c :: rest =>
    if c.saleLineId = line.saleLineId then
      if c.sku ≠ line.sku then
        invalidRefund "refund_line.sku" (skuDisagreement line.saleLineId c.sku line.sku)
      else
        (addI64 c.qty line.qty).bind (fun qty =>
          match checkedI64 (c.value + line.lineMinor) with
          | none => invalidRefund "refund_line.line_total" "refund line total overflow"
          | some value => .ok ({ c with qty, value } :: rest))
    else (claimRefundLine line rest).map (fun rest => c :: rest)

def claimRefundLines : List RefundLine → List ClaimedLine → Except RefundError (List ClaimedLine)
  | [], claims => .ok claims
  | line :: rest, claims =>
    if 0 < line.qty then (claimRefundLine line claims).bind (claimRefundLines rest)
    else claimRefundLines rest claims

namespace DomainTables

variable {κ : Type}

variable (d : DomainTables κ)

variable (saleId saleLineId excludeRefundId : String)

/-- `SUM(rl.qty)` of one sale line over the refunds of a sale but one. -/
def refundedQtyForSaleLineInTx : Int :=
  (d.refundLines.rows.map (fun row =>
    if row.saleLineId = saleLineId ∧ 0 < row.qty ∧ row.refundId ≠ excludeRefundId ∧
        (d.refunds.find? row.refundId).any (fun refund => refund.saleId = saleId) then row.qty
    else 0)).sum

/-- `SUM(total_minor)` of the refunds of a sale. -/
def refundedTotal (saleId currency : String) : Int :=
  (d.refunds.rows.map (fun row =>
    if row.saleId = saleId ∧ row.currency = currency then row.totalMinor else 0)).sum

def alreadyRefundedQty : Except RefundError Int :=
  match checkedI64 (d.refundedQtyForSaleLineInTx saleId saleLineId excludeRefundId) with
  | none => .error (.core (.db "integer overflow"))
  | some qty => .ok qty

end DomainTables

def soldLineForSaleLineInTx (saleLines : Table String SaleLineRow SaleLineRow.id)
    (saleId saleLineId : String) : Option SaleLineRow :=
  (saleLines.find? saleLineId).filter (fun line => line.saleId = saleId)

variable (saleLineId saleId : String)

def unknownSaleLine : String :=
  s!"sale_line_id {saleLineId} is not a line of sale {saleId}; refusing to credit stock or value against an unknown line"

def saleLineWithoutSku : String :=
  s!"sale line {saleLineId} of sale {saleId} records no sku, so no refund line can be identified against it"

def otherSku (saleLineId claimed saleId recorded : String) : String :=
  s!"refund line {saleLineId} claims sku {claimed} but sale line {saleLineId} of sale {saleId} sold {recorded}"

variable (qty left : Int)

def overRefundedQty (saleLineId saleId : String) (already sold : Int) : String :=
  s!"refund qty {qty} exceeds refundable quantity {left} for line {saleLineId} of sale {saleId} (already refunded {already} of {sold} units sold)"

def overRefundedValue (value ceiling : Int) (saleLineId saleId : String)
    (booked sold qty : Int) : String :=
  s!"refund line total {value} exceeds the {ceiling} minor units refundable for line {saleLineId} of sale {saleId} (line booked {booked}, {sold} units sold, {qty} refunded)"

/-- The pro-rata share of a line's booked total, and one minor unit for rounding. -/
def valueCeiling (line : SaleLineRow) (qty : Int) : Int :=
  max ((line.lineMinor * qty).tdiv (max line.qty 1)) 0 + 1

variable {κ : Type}

def checkClaim (db : SalesDb κ) (refund : Refund) (c : ClaimedLine) : Except RefundError Unit :=
  match soldLineForSaleLineInTx db.saleLines refund.saleId c.saleLineId with
  | none =>
    invalidRefund "refund_line.sale_line_id" (unknownSaleLine c.saleLineId refund.saleId)
  | some line =>
    if trim line.sku = "" then
      invalidRefund "refund_line.sku" (saleLineWithoutSku c.saleLineId refund.saleId)
    else if trim c.sku ≠ trim line.sku then
      invalidRefund "refund_line.sku" (otherSku c.saleLineId c.sku refund.saleId line.sku)
    else
      (db.domain.alreadyRefundedQty refund.saleId c.saleLineId refund.id).bind (fun already =>
        match checkedI64 (already + c.qty) with
        | none => invalidRefund "refund_line.qty" "refund quantity overflow"
        | some after =>
          if line.qty < after then
            invalidRefund "refund_line.qty" (overRefundedQty c.qty (line.qty - already)
              c.saleLineId refund.saleId already line.qty)
          else if valueCeiling line c.qty < c.value then
            invalidRefund "refund_line.line_total" (overRefundedValue c.value
              (valueCeiling line c.qty) c.saleLineId refund.saleId line.lineMinor line.qty c.qty)
          else .ok ())

/-- The order among the claims, a hash map's, only chooses which error is answered. -/
def checkClaims (db : SalesDb κ) (refund : Refund) : List ClaimedLine → Except RefundError Unit
  | [] => .ok ()
  | c :: rest => (checkClaim db refund c).bind (fun _ => checkClaims db refund rest)

def overRefundedTotal (total left : Int) (saleId : String) (already : Int) : String :=
  s!"refund total {total} exceeds refundable balance {left} for sale {saleId} (already refunded {already})"

def checkRefundTotal (db : SalesDb κ) (sale : SaleRow) (refund : Refund) : Except RefundError Int :=
  if refund.currency ≠ (db.terms refund.saleId).currency then
    .error (.currencyMismatch (db.terms refund.saleId).currency refund.currency)
  else
    match checkedI64 (db.domain.refundedTotal refund.saleId refund.currency) with
    | none => .error (.core (.db "integer overflow"))
    | some already =>
      match checkedI64 (already + refund.totalMinor) with
      | none => invalidRefund "total" "refund total overflow"
      | some after =>
        if sale.totalMinor < after then
          invalidRefund "total" (overRefundedTotal refund.totalMinor (sale.totalMinor - already)
            refund.saleId already)
        else .ok already

def RefundLine.payload (line : RefundLine) : RefundLinePayload :=
  ⟨line.id, line.saleLineId, line.sku, line.qty, line.unitMinor, line.lineMinor, line.currency,
    line.createdAt, none⟩

def Refund.payload (refund : Refund) : RefundPayload :=
  ⟨refund.id, refund.saleId, refund.totalMinor, refund.currency, refund.reason, refund.note,
    refund.processedBy, refund.createdAt, refund.lines.map RefundLine.payload⟩

def refundLineJson (line : RefundLine) : Json :=
  .obj [("created_at", .str line.createdAt), ("currency", .str line.currency),
    ("id", .str line.id), ("line_minor", .int line.lineMinor), ("qty", .int line.qty),
    ("sale_line_id", .str line.saleLineId), ("sku", .str line.sku),
    ("unit_minor", .int line.unitMinor)]

def refundJson (refund : Refund) : Json :=
  .obj [("created_at", .str refund.createdAt), ("currency", .str refund.currency),
    ("id", .str refund.id), ("lines", .arr (refund.lines.map refundLineJson)),
    ("note", .str refund.note), ("processed_by", .str refund.processedBy),
    ("reason", .str refund.reason), ("sale_id", .str refund.saleId),
    ("total_minor", .int refund.totalMinor)]

/-- `enqueue_offline_in_tx` does not ask the licence gate. -/
def enqueueRefundOutboxInTx (draw : RefundDraw) (sale : SaleRow) (refund : Refund)
    (db : SalesDb κ) : Except RefundError (SalesDb κ) :=
  match enqueueOfflineInner ⟨.ok (), db.domain.getSyncTerminalId⟩ ⟨draw.now, draw.rowId, ""⟩
      "refund_sale" (.json (refundJson refund)) sale.tenantId .critical db.queue with
  | .error e => .error (.core e)
  | .ok queue => .ok { db with queue }

def deductionEntry (entry : Json) : Except RefundError (String × Int) :=
  match entry.strAt? "location_id" with
  | none => invalidRefund "location_id" "missing location_id in deductions"
  | some location =>
    match entry.i64At? "qty" with
    | none => invalidRefund "qty" "missing qty in deductions"
    | some qty => .ok (location, qty)

variable (saleLineId : String)

def lineNotDeducted : String :=
  s!"sale_line_id {saleLineId} not found in deduction_locations"

def deductionWithoutSku : String :=
  s!"deduction_locations for sale line {saleLineId} records no sku, so its units cannot be credited to any product"

def overCredited (already total : Int) : String :=
  s!"refund qty {qty} exceeds remaining deductible qty {left} for line {saleLineId} ({already} of {total} already credited)"

def overCreditedDefault (saleLineId saleId : String) (already sold : Int) : String :=
  s!"refund qty {qty} exceeds refundable quantity {left} for line {saleLineId} of sale {saleId} ({already} of {sold} units already credited)"

namespace DomainTables

def creditAt (now sku : String) (qty : Int) (location : String) (d : DomainTables κ) :
    Except RefundError (DomainTables κ) :=
  match d.adjustStockAtLocationWithReason now sku qty location (some "refund") with
  | .error e => .error (.core e)
  | .ok (_, d) => .ok d

def creditForward (now sku : String) :
    List Json → DomainTables κ → Except RefundError (DomainTables κ)
  | [], d => .ok d
  | entry :: rest, d =>
    (deductionEntry entry).bind (fun e =>
      (d.creditAt now sku e.2 e.1).bind (creditForward now sku rest))

/-- A partial refund: the latest deductions until the quantity is used up. -/
def creditBackward (now sku : String) :
    Int → List Json → DomainTables κ → Except RefundError (DomainTables κ)
  | _, [], d => .ok d
  | remaining, entry :: rest, d =>
    if remaining ≤ 0 then .ok d
    else
      (deductionEntry entry).bind (fun e =>
        (d.creditAt now sku (min e.2 remaining) e.1).bind (fun d =>
          (addI64 remaining (-min e.2 remaining)).bind (fun remaining =>
            creditBackward now sku remaining rest d)))

def recordedLine (lines : List Json) (saleLineId : String) : Option Json :=
  lines.find? (fun line => line.strAt? "sale_line_id" = some saleLineId)

variable (now : String) (refund : Refund)

def creditLineFromDeductions (lines : List Json)
    (line : RefundLine) (d : DomainTables κ) : Except RefundError (DomainTables κ) :=
  match recordedLine lines line.saleLineId with
  | none => invalidRefund "deduction_locations" (lineNotDeducted line.saleLineId)
  | some recorded =>
    match recorded.get? "deductions" with
    | some (.arr deductions) =>
      (sumI64 0 (deductions.filterMap (fun e => e.i64At? "qty"))).bind (fun total =>
        if line.qty ≤ 0 then .ok d
        else
          (d.alreadyRefundedQty refund.saleId line.saleLineId refund.id).bind (fun already =>
            match checkedI64 (already + line.qty) with
            | none => invalidRefund "refund_line.qty" "refund quantity overflow"
            | some after =>
              if total < after then
                invalidRefund "refund_line.qty"
                  (overCredited line.qty (total - already) line.saleLineId already total)
              else
                match (recorded.strAt? "sku").filter (fun sku => trim sku ≠ "") with
                | none =>
                  invalidRefund "deduction_locations.sku" (deductionWithoutSku line.saleLineId)
                | some sku =>
                  if total ≤ line.qty then d.creditForward now sku deductions
                  else d.creditBackward now sku line.qty deductions.reverse))
    | _ => invalidRefund "deduction_locations.deductions" "expected an array"

def creditLinesFromDeductions (now : String) (refund : Refund) (lines : List Json) :
    List RefundLine → DomainTables κ → Except RefundError (DomainTables κ)
  | [], d => .ok d
  | line :: rest, d =>
    (d.creditLineFromDeductions now refund lines line).bind
      (creditLinesFromDeductions now refund lines rest)

def creditRefundFromDeductionLocations (column : Payload)
    (d : DomainTables κ) : Except RefundError (DomainTables κ) :=
  match column.value? with
  | none => .error (.core (.malformed "deduction_locations"))
  | some doc =>
    match doc.get? "lines" with
    | some (.arr lines) => d.creditLinesFromDeductions now refund lines refund.lines
    | _ => invalidRefund "deduction_locations.lines" "expected an array"

variable (saleLines : Table String SaleLineRow SaleLineRow.id)

def creditLineToDefault (line : RefundLine)
    (d : DomainTables κ) : Except RefundError (DomainTables κ) :=
  if line.qty ≤ 0 then .ok d
  else
    match soldLineForSaleLineInTx saleLines refund.saleId line.saleLineId with
    | none =>
      invalidRefund "refund_line.sale_line_id" (unknownSaleLine line.saleLineId refund.saleId)
    | some sold =>
      (d.alreadyRefundedQty refund.saleId line.saleLineId refund.id).bind (fun already =>
        match checkedI64 (already + line.qty) with
        | none => invalidRefund "refund_line.qty" "refund quantity overflow"
        | some after =>
          if sold.qty < after then
            invalidRefund "refund_line.qty" (overCreditedDefault line.qty (sold.qty - already)
              line.saleLineId refund.saleId already sold.qty)
          else d.creditAt now sold.sku line.qty canonicalDefaultLocation)

def creditLinesToDefault (now : String) (refund : Refund)
    (saleLines : Table String SaleLineRow SaleLineRow.id) :
    List RefundLine → DomainTables κ → Except RefundError (DomainTables κ)
  | [], d => .ok d
  | line :: rest, d =>
    (d.creditLineToDefault now refund saleLines line).bind
      (creditLinesToDefault now refund saleLines rest)

def legacyAuditDetails : Json :=
  .obj [("note", .str "deduction_locations was NULL; credited to default location"),
    ("refund_id", .str refund.id)]

def audit (row : AuditRow) (d : DomainTables κ) : DomainTables κ :=
  { d with auditLog := d.auditLog ++ [row] }

def creditRefundToDefaultLocation (d : DomainTables κ) : Except RefundError (DomainTables κ) :=
  (d.creditLinesToDefault now refund saleLines refund.lines).map
    (audit ⟨refund.processedBy, "sale.refund.legacy", "refund", refund.id,
      legacyAuditDetails refund, "warn", refund.createdAt⟩)

def originAuditDetails : Json :=
  .obj [("currency", .str refund.currency), ("line_count", .int refund.lines.length),
    ("reason", .str refund.reason), ("refund_id", .str refund.id),
    ("total_minor", .int refund.totalMinor)]

def closeOwnRefund (crm : Crm κ) (sale : SaleRow) (refund : Refund) (d : DomainTables κ) :
    DomainTables κ :=
  let d :=
    { d with
      crm := crm.reverseLoyaltyOnRefund d refund.saleId refund.id refund.totalMinor
        sale.totalMinor }
  let d :=
    match sale.customerId with
    | none => d
    | some customerId =>
      { d with
        crm := crm.reverseCustomerSpendOnRefund d customerId refund.totalMinor sale.totalMinor
          sale.baseTotalMinor refund.createdAt }
  d.audit ⟨refund.processedBy, "sale.refund", "sale", refund.saleId, originAuditDetails refund,
    "success", refund.createdAt⟩

def insertRefundRows (sale : SaleRow) (refund : Refund) (d : DomainTables κ) :
    Except CoreError (DomainTables κ) :=
  (d.insertRefund ⟨refund.id, refund.saleId, refund.totalMinor, refund.currency, refund.reason,
    refund.note, refund.processedBy, refund.createdAt, sale.tenantId⟩).bind
    (insertRefundLines refund.id (refund.lines.map RefundLine.payload))

end DomainTables

def KdsStatus.active : KdsStatus → Bool
  | .pending | .preparing | .ready => true
  | .served | .cancelled => false

def cancelKdsOrdersForSaleInTx (saleId : String) (db : SalesDb κ) : SalesDb κ :=
  if db.kdsOrders.any (fun order => order.saleId = saleId && order.status.active) then
    let tickets := (db.kdsOrders.filter (fun order => order.saleId = saleId)).map KdsOrder.id
    { db with
      kdsOrders := db.kdsOrders.map (fun order =>
        if order.saleId = saleId ∧ order.status.active then { order with status := .cancelled }
        else order)
      kdsLineItems := db.kdsLineItems.map (fun item =>
        if item.kdsOrderId ∈ tickets ∧ item.itemStatus.active then
          { item with itemStatus := .cancelled }
        else item) }
  else db

def coreStep (step : DomainTables κ → Except CoreError (DomainTables κ)) (db : SalesDb κ) :
    Except RefundError (SalesDb κ) :=
  match step db.domain with
  | .error e => .error (.core e)
  | .ok domain => .ok { db with domain }

/-- Step 2: back to where the units were taken from, else to the default location. -/
def creditRefund (now : String) (refund : Refund) (db : SalesDb κ) :
    Except RefundError (SalesDb κ) :=
  (match (db.terms refund.saleId).deductionLocations with
    | none => db.domain.creditRefundToDefaultLocation now refund db.saleLines
    | some column => db.domain.creditRefundFromDeductionLocations now refund column).map
    (fun domain => { db with domain })

variable (crm : Crm κ)

def closeRefundOf (sale : SaleRow) (refund : Refund) (already : Int) (db : SalesDb κ) : SalesDb κ :=
  let db := { db with domain := db.domain.closeOwnRefund crm sale refund }
  if sale.totalMinor ≤ already + refund.totalMinor then
    cancelKdsOrdersForSaleInTx refund.saleId db
  else db

/-- One immediate transaction; an error anywhere rolls all of it back. -/
def createRefund (draw : RefundDraw) (refund : Refund) (db : SalesDb κ) :
    Except RefundError (SalesDb κ) :=
  match db.domain.sales.find? refund.saleId with
  | none => .error (.core (.notFound "sale" refund.saleId))
  | some sale =>
    (checkRefundTotal db sale refund).bind (fun already =>
      (claimRefundLines refund.lines []).bind (fun claims =>
        (checkClaims db refund claims).bind (fun _ =>
          (coreStep (DomainTables.insertRefundRows sale refund) db).bind (fun db =>
            (enqueueRefundOutboxInTx draw sale refund db).bind (fun db =>
              (creditRefund draw.now refund db).map (closeRefundOf crm sale refund already))))))

def refundMachine : Machine (SalesDb κ) (RefundDraw × Refund) (Option RefundError) where
  step db call :=
    match createRefund crm call.1 call.2 db with
    | .ok db' => (db', none)
    | .error e => (db, some e)

end OzPos
