import OzPos.Client.StockWriters
import OzPos.Commerce.Refunds

namespace OzPos

inductive ProductType where
  | retail
  | restaurant
  | both
  | service

namespace ProductType

def parseStr : String → Option ProductType
  | "retail" => some .retail
  | "restaurant" => some .restaurant
  | "both" => some .both
  | "service" => some .service
  | _ => none

/-- `parse_stored_or_default`: an unmapped value is logged and read as `retail`. -/
def parseStoredOrDefault (stored : String) : ProductType := (parseStr stored).getD .retail

def tracksInventory : ProductType → Bool
  | .retail | .restaurant | .both => true
  | .service => false

end ProductType

def Product.tracksInventory (p : Product) : Bool :=
  (ProductType.parseStoredOrDefault p.productType).tracksInventory

/-- A row of `product_recipes`, with its `CHECK (quantity_required > 0)`. -/
structure RecipeItem where
  (id parentProductId ingredientProductId : String)
  quantityRequired : Int
  required_pos : 0 < quantityRequired

/-- `ORDER BY id`. -/
def getRecipeIngredients (recipes : List RecipeItem) (productId : String) : List RecipeItem :=
  KeysetPage.ordered RecipeItem.id (recipes.filter (fun r => r.parentProductId = productId))

structure SaleLine where
  (id saleId sku : String)
  (qty unitMinor lineMinor taxMinor : Int)
  taxRateId : Option String
  linePosition : Int

structure Sale where
  id : String
  totalMinor : Int
  currency : String
  (customerId userId : Option String)
  baseTotalMinor : Option Int
  createdAt : String
  lines : List SaleLine
  lines_fit : ∀ line ∈ lines, FitsI64 line.qty

structure LocationAllocation where
  locationId : String
  qty : Int

structure LocationStock where
  (locationId locationName : String)
  qtyAvailable : Int

structure Shortfall where
  (sku productName : String)
  (requestedQty primaryQtyAvailable deficit : Int)
  primaryLocationId : String
  alternatives : List LocationStock

structure ResolvedShortfall where
  sku : String
  allocations : List LocationAllocation
  allocations_fit : ∀ a ∈ allocations, FitsI64 a.qty

/-- A shortfall travels as the JSON text of a validation error on `stock`. -/
inductive CheckoutError where
  | core (e : CoreError)
  | partialStock (shortfalls : List Shortfall)
  /-- The release build checks its arithmetic. -/
  | panicked

/-- What a checkout reads besides the stock and the sales. `chain` is the location resolver's
answer for a workspace. -/
structure CheckoutSettings where
  bindings : StockBindings
  recipes : List RecipeItem
  locationNames : List (String × String)
  chain : String → String → Int → List LocationStock

structure CheckoutCall where
  workspaceInstanceId : Option String
  stockLocations : List String
  paymentSplits : List Int
  staffUserId : String
  terminalId : Option String

/-- The clock, the minted ids, the licence gate, and a refusal by the later steps of the
transaction, which touch neither stock nor sale: the receipt code, payments, promotions and
statutory numbers. -/
structure CheckoutDraw where
  (now rowId deductTxId : String)
  (terminalRow displayCode statutoryNumber : Option String)
  posWritable : Except CoreError Unit
  refused : Option CoreError

structure CompleteSaleResult where
  (saleId status receiptNumber : String)
  statutoryNumber : Option String
  deductTxId : String

def refuseSale {α : Type} (field message : String) : Except CheckoutError α :=
  .error (.core (.validation field message))

/-- `saturating_sub`. -/
def saturatingSub (a b : Int) : Int := max (-2^63) (min (2^63 - 1) (a - b))

def allocateRemaining : Int → List LocationStock → Option (List LocationAllocation)
  | remaining, [] => if remaining = 0 then some [] else none
  | remaining, location :: rest =>
    if remaining = 0 then some []
    else if location.qtyAvailable ≤ 0 then allocateRemaining remaining rest
    else
      let allocated := min remaining location.qtyAvailable
      (allocateRemaining (remaining - allocated) rest).map (⟨location.locationId, allocated⟩ :: ·)

def allocateStockInRouteOrder (requestedQty : Int) (locations : List LocationStock) :
    Option (List LocationAllocation) :=
  if requestedQty < 0 then none else allocateRemaining requestedQty locations

variable {κ : Type}

namespace DomainTables

def productBySku (d : DomainTables κ) (sku : String) : Option Product :=
  d.products.rows.find? (fun p => p.sku = sku)

def stockAtLocations (d : DomainTables κ) (names : List (String × String)) (item : String)
    (locations : List String) : List LocationStock :=
  locations.map (fun location =>
    ⟨location, (names.lookup location).getD location, d.quantityAt item location⟩)

end DomainTables

/-- What the first phase of a checkout gathers. A later entry of `lineDeductions` stands before an
earlier one. -/
structure CheckoutPlan where
  deductions : List StockDeduction
  lineDeductions : List (String × List LocationAllocation)
  shortfalls : List Shortfall

namespace CheckoutPlan

def empty : CheckoutPlan := ⟨[], [], []⟩

def append (p q : CheckoutPlan) : CheckoutPlan :=
  ⟨p.deductions ++ q.deductions, q.lineDeductions ++ p.lineDeductions,
    p.shortfalls ++ q.shortfalls⟩

end CheckoutPlan

def routesOf (call : CheckoutCall) : List String :=
  if call.stockLocations = [] then [canonicalDefaultLocation] else call.stockLocations

def primaryOf (call : CheckoutCall) : String := (routesOf call).headD canonicalDefaultLocation

section Plan

variable (settings : CheckoutSettings) (call : CheckoutCall) (d : DomainTables κ)

def alternativesFor (sku : String) (qty : Int) (availability : List LocationStock) :
    List LocationStock :=
  if 1 < (routesOf call).length then
    (availability.drop 1).filter (fun a => 0 < a.qtyAvailable)
  else
    match call.workspaceInstanceId with
    | some instance_ =>
      (settings.chain instance_ sku qty).filter (fun a => a.locationId ≠ primaryOf call)
    | none => []

def deductionsOf (sku : String) (allocations : List LocationAllocation) : List StockDeduction :=
  allocations.map (fun a => ⟨sku, a.locationId, -a.qty⟩)

/-- One product, sold or an ingredient: its allocations, or its shortfall. -/
def planProduct (item sku name : String) (qty : Int) : Except Shortfall (List LocationAllocation) :=
  let availability := d.stockAtLocations settings.locationNames item (routesOf call)
  match allocateStockInRouteOrder qty availability with
  | some allocations => .ok allocations
  | none =>
    let available := (availability.head?.map LocationStock.qtyAvailable).getD 0
    .error ⟨sku, name, qty, available, saturatingSub qty available, primaryOf call,
      alternativesFor settings call sku qty availability⟩

variable (line : SaleLine)

def planIngredient (ingredient : RecipeItem) : Except CheckoutError CheckoutPlan :=
  match d.products.find? ingredient.ingredientProductId with
  | none => .ok .empty
  | some p =>
    if p.tracksInventory then
      match checkedI64 (line.qty * ingredient.quantityRequired) with
      | none => refuseSale "qty" "ingredient deduction quantity overflow"
      | some required =>
        match planProduct settings call d p.id p.sku p.name required with
        | .ok allocations => .ok ⟨deductionsOf p.sku allocations, [], []⟩
        | .error shortfall => .ok ⟨[], [], [shortfall]⟩
    else .ok .empty

def planIngredients (line : SaleLine) : List RecipeItem → Except CheckoutError CheckoutPlan
  | [] => .ok .empty
  | ingredient :: rest =>
    (planIngredient settings call d line ingredient).bind (fun plan =>
      (planIngredients line rest).map plan.append)

/-- The line's own product; only its allocations are recorded under the line. -/
def planOwn (p : Product) : CheckoutPlan :=
  if p.tracksInventory then
    match planProduct settings call d p.id line.sku line.sku line.qty with
    | .ok allocations => ⟨deductionsOf line.sku allocations, [(line.id, allocations)], []⟩
    | .error shortfall => ⟨[], [], [shortfall]⟩
  else .empty

def planLine : Except CheckoutError CheckoutPlan :=
  match d.productBySku line.sku with
  | none =>
    .ok ⟨[], [], [⟨line.sku, line.sku, line.qty, 0, line.qty, primaryOf call, []⟩]⟩
  | some p =>
    (planIngredients settings call d line (getRecipeIngredients settings.recipes p.id)).map
      (planOwn settings call d line p).append

def planLines : List SaleLine → Except CheckoutError CheckoutPlan
  | [] => .ok .empty
  | line :: rest =>
    (planLine settings call d line).bind (fun plan => (planLines rest).map plan.append)

end Plan

def negativeQty (qty : Int) : String := s!"sale line quantity must be positive, got {qty}"

def checkQuantities : List SaleLine → Except CheckoutError Unit
  | [] => .ok ()
  | line :: rest =>
    if line.qty < 0 then refuseSale "qty" (negativeQty line.qty) else checkQuantities rest

def sumSplits : Int → List Int → Except CheckoutError Int
  | sum, [] => .ok sum
  | sum, amount :: rest =>
    if amount < 0 then
      refuseSale "payments" s!"payment split amount must be non-negative, got {amount}"
    else
      match checkedI64 (sum + amount) with
      | none => refuseSale "payments" "payment split total overflow"
      | some sum => sumSplits sum rest

def validatePaymentSplitsCoverTotal (splits : List Int) (total : Int) : Except CheckoutError Unit :=
  (sumSplits 0 splits).bind (fun sum =>
    if sum < total then
      refuseSale "payments" s!"payment splits ({sum}) do not cover the sale total ({total})"
    else .ok ())

def allocationJson (now : String) (a : LocationAllocation) : Json :=
  .obj [("location_id", .str a.locationId), ("qty", .int a.qty), ("sold_at", .str now)]

def recordedLineJson (now : String) (line : SaleLine) (allocations : List LocationAllocation) :
    Json :=
  .obj [("deductions", .arr (allocations.map (allocationJson now))),
    ("sale_line_id", .str line.id), ("sku", .str line.sku)]

def deductionDoc (lines : List Json) : Json := .obj [("lines", .arr lines), ("version", .int 1)]

def recordedAllocations (primary : String) (recorded : List (String × List LocationAllocation))
    (line : SaleLine) : List LocationAllocation :=
  (recorded.lookup line.id).getD [⟨primary, line.qty⟩]

def deductionJson (now primary : String) (recorded : List (String × List LocationAllocation))
    (lines : List SaleLine) : Json :=
  deductionDoc (lines.map (fun line =>
    recordedLineJson now line (recordedAllocations primary recorded line)))

def lineItemJson (line : SaleLine) : Json :=
  .obj [("qty", .int line.qty), ("sku", .str line.sku), ("tax_minor", .int line.taxMinor),
    ("tax_rate_id", (line.taxRateId.map Json.str).getD .null),
    ("unit_price_minor", .int line.unitMinor)]

def saleJson (sale : Sale) : Json :=
  .obj [("currency", .str sale.currency),
    ("customer_id", (sale.customerId.map Json.str).getD .null),
    ("line_items", .arr (sale.lines.map lineItemJson)), ("sale_id", .str sale.id),
    ("total_minor", .int sale.totalMinor)]

end OzPos

namespace OzPos

variable {κ : Type}

def coreResult {α : Type} : Except CoreError α → Except CheckoutError α
  | .ok a => .ok a
  | .error e => .error (.core e)

theorem coreResult_ok {α : Type} {r : Except CoreError α} {a : α} (h : coreResult r = .ok a) :
    r = .ok a := by
  unfold coreResult at h
  split at h
  · cases h
    rfl
  · cases h

/-- `insert_sale_line`: the product's snapshot columns are read by reports only. -/
def insertSaleLine (line : SaleLine) (db : SalesDb κ) : Except CoreError (SalesDb κ) :=
  if line.qty ≤ 0 then .error (.db "CHECK constraint failed: qty > 0")
  else if (db.domain.sales.find? line.saleId).isNone then
    .error (.db "FOREIGN KEY constraint failed")
  else
    match db.saleLines.insert? ⟨line.id, line.saleId, line.sku, line.qty, line.lineMinor⟩ with
    | none => .error (.db "UNIQUE constraint failed: sale_lines.id")
    | some saleLines => .ok { db with saleLines }

def insertSaleLines : List SaleLine → SalesDb κ → Except CoreError (SalesDb κ)
  | [], db => .ok db
  | line :: rest, db => (insertSaleLine line db).bind (insertSaleLines rest)

variable (draw : CheckoutDraw) (status : String) (sale : Sale)

def saleRowOf : SaleRow :=
  ⟨sale.id, "default", draw.terminalRow, status, 1, draw.now, sale.customerId, sale.totalMinor,
    sale.baseTotalMinor⟩

def insertSale (doc : Json) (sale : Sale) (db : SalesDb κ) : Except CoreError (SalesDb κ) :=
  match db.domain.sales.insert? (saleRowOf draw status sale) with
  | none => .error (.db "UNIQUE constraint failed: sales.id")
  | some sales =>
    .ok { db with
      domain := { db.domain with sales }
      terms := Function.update db.terms sale.id ⟨sale.currency, some (.json doc)⟩ }

variable (db : SalesDb κ)

def enqueueSaleOutboxInTx : Except CoreError (SalesDb κ) :=
  match enqueueOfflineInner ⟨.ok (), db.domain.getSyncTerminalId⟩ ⟨draw.now, draw.rowId, ""⟩
      "complete_sale" (.json (saleJson sale)) "default" .critical db.queue with
  | .error e => .error e
  | .ok queue => .ok { db with queue }

def auditSale : SalesDb κ :=
  { db with
    domain := db.domain.audit ⟨sale.userId.getD "", "sale.completed", "sale", sale.id,
      .obj [("currency", .str sale.currency), ("line_count", .int sale.lines.length),
        ("sale_id", .str sale.id), ("total_minor", .int sale.totalMinor)], "success", draw.now⟩ }

def completedResult : CompleteSaleResult :=
  ⟨sale.id, status, draw.displayCode.getD sale.id, draw.statutoryNumber, draw.deductTxId⟩

variable (settings : CheckoutSettings)

def deductForSale (draw : CheckoutDraw) (call : CheckoutCall)
    (deductions : List StockDeduction) (db : SalesDb κ) : Except CoreError (SalesDb κ) :=
  (db.domain.adjustStockBatch settings.bindings draw.now deductions
    ⟨some "sale", none, call.terminalId, some call.staffUserId⟩).map
    (fun domain => { db with domain })

def settleSale : Except CoreError (SalesDb κ × CompleteSaleResult) :=
  (insertSaleLines sale.lines db).bind (fun db =>
    (enqueueSaleOutboxInTx draw sale db).bind (fun db =>
      match draw.refused with
      | some e => .error e
      | none => .ok (auditSale draw sale db, completedResult draw status sale)))

/-- The main door, one immediate transaction: an error anywhere rolls all of it back. -/
def completeSaleDeductionWithLocations (draw : CheckoutDraw) (call : CheckoutCall) (sale : Sale)
    (db : SalesDb κ) : Except CheckoutError (SalesDb κ × CompleteSaleResult) :=
  (checkQuantities sale.lines).bind (fun _ =>
    (coreResult draw.posWritable).bind (fun _ =>
      (planLines settings call db.domain sale.lines).bind (fun plan =>
        if plan.shortfalls ≠ [] then .error (.partialStock plan.shortfalls)
        else
          (validatePaymentSplitsCoverTotal call.paymentSplits sale.totalMinor).bind (fun _ =>
            coreResult ((deductForSale settings draw call plan.deductions db).bind (fun db =>
              (insertSale draw "pending" (deductionJson draw.now (primaryOf call)
                plan.lineDeductions sale.lines) sale db).bind
                (settleSale draw "pending" sale)))))))

variable (call : CheckoutCall) (d : DomainTables κ)

def resolveAllocation (sku : String) (a : LocationAllocation) : Except CheckoutError
    (List StockDeduction) :=
  if a.qty ≤ 0 then .ok []
  else
    match d.productIdBySku sku with
    | none => .error (.core (.notFound "product" sku))
    | some item =>
      let available := d.quantityAt item a.locationId
      let allowNegative := call.workspaceInstanceId.any (fun instance_ =>
        ((settings.bindings.bindings.find? (instance_, a.locationId)).map
          LocationBinding.allowNegativeStock).getD false)
      if available < a.qty ∧ ¬ allowNegative then
        .error (.core (.insufficientStockAtLocation sku a.locationId a.qty available))
      else .ok [⟨sku, a.locationId, -a.qty⟩]

def resolveAllocations (settings : CheckoutSettings) (call : CheckoutCall) (d : DomainTables κ)
    (sku : String) : List LocationAllocation → Except CheckoutError (List StockDeduction)
  | [] => .ok []
  | a :: rest =>
    (resolveAllocation settings call d sku a).bind (fun here =>
      (resolveAllocations settings call d sku rest).map (here ++ ·))

def sumAllocations : Int → List LocationAllocation → Except CheckoutError Int
  | total, [] => .ok total
  | total, a :: rest =>
    match checkedI64 (total + a.qty) with
    | none => .error .panicked
    | some total => sumAllocations total rest

def allocationMismatch (sku : String) (sum qty : Int) : String :=
  s!"SKU {sku}: allocation sum {sum} does not match requested qty {qty}"

/-- The resolutions by SKU; a later one of the same SKU replaces an earlier one. -/
def resolutionFor (resolutions : List ResolvedShortfall) (sku : String) :
    Option ResolvedShortfall :=
  resolutions.reverse.find? (fun r => r.sku = sku)

variable (primary : String) (line : SaleLine)

def primaryIngredient (ingredient : RecipeItem) : Except CheckoutError (List StockDeduction) :=
  match d.products.find? ingredient.ingredientProductId with
  | none => .ok []
  | some p =>
    if p.tracksInventory then
      match checkedI64 (line.qty * ingredient.quantityRequired) with
      | none => refuseSale "qty" "ingredient deduction quantity overflow"
      | some required => .ok [⟨p.sku, primary, -required⟩]
    else .ok []

def primaryIngredients (d : DomainTables κ) (primary : String) (line : SaleLine) :
    List RecipeItem → Except CheckoutError (List StockDeduction)
  | [] => .ok []
  | ingredient :: rest =>
    (primaryIngredient d primary line ingredient).bind (fun here =>
      (primaryIngredients d primary line rest).map (here ++ ·))

def primaryDeductions : Except CheckoutError (List StockDeduction) :=
  match d.productBySku line.sku with
  | none => .ok []
  | some p =>
    (primaryIngredients d primary line (getRecipeIngredients settings.recipes p.id)).map
      (fun ingredients =>
        (if p.tracksInventory then [⟨line.sku, primary, -line.qty⟩] else []) ++ ingredients)

def resolvedDeductions (r : ResolvedShortfall) : Except CheckoutError (List StockDeduction) :=
  (sumAllocations 0 r.allocations).bind (fun sum =>
    if sum ≠ line.qty then
      refuseSale "resolutions" (allocationMismatch line.sku sum line.qty)
    else resolveAllocations settings call d line.sku r.allocations)

variable (resolutions : List ResolvedShortfall)

def resolvedAllocations (line : SaleLine) : List LocationAllocation :=
  match resolutionFor resolutions line.sku with
  | some r => r.allocations.filter (fun a => 0 < a.qty)
  | none => [⟨primary, line.qty⟩]

def lineDeductions (line : SaleLine) : Except CheckoutError (List StockDeduction) :=
  match resolutionFor resolutions line.sku with
  | some r => resolvedDeductions settings call d line r
  | none => primaryDeductions settings d primary line

def linesDeductions (settings : CheckoutSettings) (call : CheckoutCall) (d : DomainTables κ)
    (primary : String) (resolutions : List ResolvedShortfall) :
    List SaleLine → Except CheckoutError (List StockDeduction)
  | [] => .ok []
  | line :: rest =>
    (lineDeductions settings call d primary resolutions line).bind (fun here =>
      (linesDeductions settings call d primary resolutions rest).map (here ++ ·))

/-- The retry door. The payment is captured already, so the sale is terminal at once. -/
def completeSaleWithResolvedShortfalls (crm : Crm κ) (settings : CheckoutSettings)
    (draw : CheckoutDraw) (call : CheckoutCall) (primary : String)
    (resolutions : List ResolvedShortfall) (sale : Sale) (db : SalesDb κ) :
    Except CheckoutError (SalesDb κ × CompleteSaleResult) :=
  (checkQuantities sale.lines).bind (fun _ =>
    (coreResult draw.posWritable).bind (fun _ =>
      (linesDeductions settings call db.domain primary resolutions sale.lines).bind
        (fun deductions =>
          (validatePaymentSplitsCoverTotal call.paymentSplits sale.totalMinor).bind (fun _ =>
            coreResult ((deductForSale settings draw call deductions db).bind (fun db =>
              (insertSale draw "completed" (deductionDoc (sale.lines.map (fun line =>
                recordedLineJson draw.now line (resolvedAllocations primary resolutions line))))
                sale db).bind (fun db =>
                settleSale draw "completed" sale
                  { db with
                    domain := { db.domain with
                      crm := crm.applyCustomerStatsOnCompletion db.domain sale.id } })))))))

def finalizeSale (crm : Crm κ) (now saleId : String) (db : SalesDb κ) : SalesDb κ :=
  { db with domain := db.domain.finalizeSaleInTx crm now saleId }

namespace DomainTables

def creditRecorded (now sku : String) (entry : Json) (d : DomainTables κ) :
    Except CoreError (DomainTables κ) :=
  match entry.strAt? "location_id" with
  | none => .error (.validation "location_id" "missing location_id in deductions")
  | some location =>
    match entry.i64At? "qty" with
    | none => .error (.validation "qty" "missing qty in deductions")
    | some qty =>
      (d.adjustStockAtLocationWithReason now sku qty location (some "void_pending")).map Prod.snd

def creditRecordedEntries (now sku : String) :
    List Json → DomainTables κ → Except CoreError (DomainTables κ)
  | [], d => .ok d
  | entry :: rest, d => (d.creditRecorded now sku entry).bind (creditRecordedEntries now sku rest)

def creditRecordedLine (now : String) (line : Json) (d : DomainTables κ) :
    Except CoreError (DomainTables κ) :=
  match line.strAt? "sku" with
  | none => .error (.validation "sku" "missing sku in deduction_locations")
  | some sku =>
    match line.get? "deductions" with
    | some (.arr entries) => d.creditRecordedEntries now sku entries
    | _ => .ok d

def creditRecordedLines (now : String) :
    List Json → DomainTables κ → Except CoreError (DomainTables κ)
  | [], d => .ok d
  | line :: rest, d => (d.creditRecordedLine now line).bind (creditRecordedLines now rest)

def creditRecordedDoc (now : String) (doc : Json) (d : DomainTables κ) :
    Except CoreError (DomainTables κ) :=
  match doc.get? "lines" with
  | some (.arr lines) => d.creditRecordedLines now lines
  | _ => .ok d

end DomainTables

def creditVoided (now : String) (recorded : Option Payload) (d : DomainTables κ) :
    Except CoreError (DomainTables κ) :=
  match recorded with
  | none => .ok d
  | some column =>
    match column.value? with
    | none => .error (.malformed "deduction_locations")
    | some doc => d.creditRecordedDoc now doc

def voidPendingSale (now saleId : String) (db : SalesDb κ) : Except CoreError (SalesDb κ) :=
  match (db.domain.sales.find? saleId).filter (fun sale => sale.status = "pending") with
  | none => .error (.notFound "pending sale" saleId)
  | some _ =>
    (creditVoided now (db.terms saleId).deductionLocations db.domain).map (fun d =>
      cancelKdsOrdersForSaleInTx saleId
        { db with domain := d.setSaleStatus now saleId "voided" })

variable (expiresAt : String → Option String) (now : String)

/-- `expiresAt` is the column `pending_expires_at`. -/
def findStalePendingSales (db : SalesDb κ) : List String :=
  (db.domain.sales.rows.filter (fun sale =>
    sale.status = "pending" && (expiresAt sale.id).any (fun at_ => at_ < now))).map SaleRow.id

def reapSales (now : String) : List String → SalesDb κ → SalesDb κ × Nat
  | [], db => (db, 0)
  | saleId :: rest, db =>
    match voidPendingSale now saleId db with
    | .error _ => reapSales now rest db
    | .ok db =>
      let (db, count) := reapSales now rest db
      (db, count + 1)

def reapStalePendingSales (db : SalesDb κ) : SalesDb κ × Nat :=
  reapSales now (findStalePendingSales expiresAt now db) db

end OzPos
