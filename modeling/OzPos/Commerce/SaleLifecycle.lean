import OzPos.Commerce.Checkout

namespace OzPos

inductive SaleStatus where
  | pending
  | active
  | completed
  | voided
  deriving DecidableEq

namespace SaleStatus

def asStoredStr : SaleStatus → String
  | .pending => "pending"
  | .active => "active"
  | .completed => "completed"
  | .voided => "voided"

def fromStoredStr : String → Option SaleStatus
  | "pending" => some .pending
  | "active" => some .active
  | "completed" => some .completed
  | "voided" => some .voided
  | _ => none

def canTransitionTo : SaleStatus → SaleStatus → Bool
  | .pending, .active | .active, .completed | .active, .voided => true
  | _, _ => false

def debugName : SaleStatus → String
  | .pending => "Pending"
  | .active => "Active"
  | .completed => "Completed"
  | .voided => "Voided"

theorem asStoredStr_of_fromStoredStr {stored : String} {s : SaleStatus}
    (h : fromStoredStr stored = some s) : stored = s.asStoredStr := by
  unfold fromStoredStr at h
  split at h
  · cases h; rfl
  · cases h; rfl
  · cases h; rfl
  · cases h; rfl
  · cases h

theorem asStoredStr_completed (s : SaleStatus) : s.asStoredStr = "completed" ↔ s = .completed := by
  cases s <;> decide

end SaleStatus

structure ImportedSale extends Sale where
  status : SaleStatus
  (lineCount subtotalMinor taxTotalMinor : Int)
  tenderedMinor : Option Int
  updatedAt : String

def refuseMoney (field message : String) : Except CoreError Unit :=
  .error (.validation field message)

def checkNonNegative (field what : String) (n : Int) : Except CoreError Unit :=
  if n < 0 then refuseMoney field s!"{what}, got {n}" else .ok ()

def validateSaleLine (line : SaleLine) : Except CoreError Unit :=
  (checkNonNegative "qty" "sale line quantity must be positive" line.qty).bind (fun _ =>
    (checkNonNegative "line_total" "sale line total must be non-negative" line.lineMinor).bind
      (fun _ => checkNonNegative "tax_amount" "sale line tax must be non-negative" line.taxMinor))

def validateSaleLines : List SaleLine → Except CoreError Unit
  | [] => .ok ()
  | line :: rest => (validateSaleLine line).bind (fun _ => validateSaleLines rest)

variable (sale : ImportedSale)

def validateSaleMoney : Except CoreError Unit :=
  (validateSaleLines sale.lines).bind (fun _ =>
    (checkNonNegative "total" "sale total must be non-negative" sale.totalMinor).bind (fun _ =>
      (checkNonNegative "subtotal" "sale subtotal must be non-negative" sale.subtotalMinor).bind
        (fun _ =>
          (checkNonNegative "tax_total" "sale tax total must be non-negative"
              sale.taxTotalMinor).bind (fun _ =>
            match sale.tenderedMinor with
            | none => .ok ()
            | some tendered =>
              checkNonNegative "tendered_minor" "tendered amount must be non-negative" tendered))))

variable {κ : Type}

def importedRow : SaleRow :=
  ⟨sale.id, "default", none, sale.status.asStoredStr, 1, sale.updatedAt, sale.customerId,
    sale.totalMinor, sale.baseTotalMinor⟩

variable (db : SalesDb κ)

/-- The row of an imported sale has no terminal, no receipt code and no deductions. -/
def insertImported : Except CoreError (SalesDb κ) :=
  if sale.lineCount < 0 then .error (.db "CHECK constraint failed: line_count >= 0")
  else
    match db.domain.sales.insert? (importedRow sale) with
    | none => .error (.db "UNIQUE constraint failed: sales.id")
    | some sales =>
      .ok { db with
        domain := { db.domain with sales }
        terms := Function.update db.terms sale.id ⟨sale.currency, none⟩ }

def insertSaleWithLines : Except CoreError (SalesDb κ) :=
  (insertImported sale db).bind (insertSaleLines sale.lines)

def createSale : Except CoreError (SalesDb κ) :=
  (validateSaleMoney sale).bind (fun _ => insertSaleWithLines sale db)

/-- `UPDATE sales SET status … WHERE id = ? AND status = ?`. -/
def DomainTables.casSaleStatus (now saleId observed status : String) (d : DomainTables κ) :
    Option (DomainTables κ) :=
  match d.sales.find? saleId with
  | none => none
  | some sale => if sale.status = observed then some (d.setSaleStatus now saleId status) else none

/-- `observed` is the row as the call read it, before its transaction. -/
def updateSaleStatus (now saleId : String) (observed : Option SaleRow) (to_ : SaleStatus)
    (db : SalesDb κ) : Except CoreError (SalesDb κ) :=
  match observed with
  | none => .error (.notFound "sale" saleId)
  | some row =>
    match SaleStatus.fromStoredStr row.status with
    | none => .error (.validation "status" s!"invalid stored status: {row.status}")
    | some current =>
      if current.canTransitionTo to_ then
        match db.domain.casSaleStatus now saleId row.status to_.asStoredStr with
        | none => .error (.conflict "sale" "version")
        | some domain => .ok { db with domain }
      else
        .error (.validation "status"
          s!"cannot transition from {current.debugName} to {to_.debugName}")

def enqueueVoidSaleOutboxInTx (draw : Draw) (saleId : String) (db : SalesDb κ) :
    Except CoreError (SalesDb κ) :=
  match db.domain.sales.find? saleId with
  | none => .error (.db "Query returned no rows")
  | some sale =>
    match enqueueOfflineInner ⟨.ok (), db.domain.getSyncTerminalId⟩ draw "void_sale"
        (.json (.obj [("sale_id", .str saleId)])) sale.tenantId .critical db.queue with
    | .error e => .error e
    | .ok queue => .ok { db with queue }

def SaleRow.readStatus (row : SaleRow) : SaleStatus :=
  (SaleStatus.fromStoredStr row.status).getD .pending

def voidSale (now userId reason : String) (draw : Draw) (saleId : String)
    (observed : Option SaleRow) (db : SalesDb κ) : Except CoreError (SalesDb κ) :=
  match observed with
  | none => .error (.notFound "sale" saleId)
  | some row =>
    if row.readStatus ≠ .active then
      .error (.validation "status"
        s!"only active sales can be voided (current: {row.readStatus.debugName})")
    else
      match db.domain.casSaleStatus now saleId "active" "voided" with
      | none => .error (.conflict "sale" "version")
      | some domain =>
        let domain := domain.audit ⟨userId, "sale.void", "sale", saleId,
          .obj [("reason", .str reason), ("total_minor", .int row.totalMinor)], "success", now⟩
        enqueueVoidSaleOutboxInTx draw saleId
          (cancelKdsOrdersForSaleInTx saleId { db with domain })

end OzPos
