import OzPos.Client.Settings

namespace OzPos

namespace DomainTables

variable {κ : Type}

variable (d : DomainTables κ)

def productIdBySku (sku : String) : Option String :=
  (d.products.rows.find? (fun p => p.sku = sku)).map Product.id

variable (item : String)

def inventoryQty : Option Int :=
  (d.inventory.find? item).map InventoryRow.qty

def hasLocationRows : Bool :=
  d.stockSummary.rows.any (fun row => row.itemId = item)

/-- `SELECT COALESCE(SUM(qty), 0) … WHERE item_id = ?1 AND location_id = ?2`. -/
def quantityAt (item location : String) : Int :=
  ((d.stockSummary.find? (item, location)).map SummaryRow.qty).getD 0

/-- `SELECT SUM(qty) … WHERE item_id = ?1`. -/
def summaryTotal : Int :=
  (d.stockSummary.rows.map (fun row => if row.itemId = item then row.qty else 0)).sum

def legacyAwareLocationQty (item location : String) : Int :=
  if d.hasLocationRows item then d.quantityAt item location
  else
    match d.inventoryQty item with
    | some legacy => if legacy ≠ 0 then legacy else d.quantityAt item location
    | none => d.quantityAt item location

/-- A ledger row with a minted id: only its location can be refused. -/
def appendMovement (m : StockMovement) (d : DomainTables κ) : Except CoreError (DomainTables κ) :=
  if m.locationId ∈ d.locations then .ok { d with stockMovements := d.stockMovements ++ [m] }
  else .error (.db "FOREIGN KEY constraint failed")

variable (now item location : String) (qty : Int)

def upsertStockSummary (d : DomainTables κ) : DomainTables κ :=
  { d with stockSummary := d.stockSummary.upsert ⟨item, location, qty, now⟩ }

/-- `INSERT INTO inventory … ON CONFLICT DO UPDATE SET qty`: the row keeps its location. -/
def upsertInventory (d : DomainTables κ) : DomainTables κ :=
  let kept := ((d.inventory.find? item).map InventoryRow.locationId).getD location
  { d with inventory := d.inventory.upsert ⟨item, kept, qty, now⟩ }

def negativeStockMessage (previous delta : Int) : String :=
  s!"adjustment would cause negative stock (previous: {previous}, delta: {delta})"

/-- The legacy writer: the new aggregate is stamped on the default location's row. -/
def adjustStockInTx (now sku : String) (delta : Int) (d : DomainTables κ) :
    Except CoreError (Int × DomainTables κ) :=
  match d.productIdBySku sku with
  | none => .error (.notFound "product" sku)
  | some item =>
    let previous := (d.inventoryQty item).getD 0
    match checkedStock (previous + delta) with
    | none => .error (.validation "delta" (negativeStockMessage previous delta))
    | some qty =>
      match d.appendMovement ⟨none, item, canonicalDefaultLocation, delta, some "remote-sync",
          none, none, "", now⟩ with
      | .error e => .error e
      | .ok d => .ok (qty, (d.upsertInventory now item canonicalDefaultLocation qty).upsertStockSummary
          now item canonicalDefaultLocation qty)

/-- `inventory.qty` recomputed as the sum over the locations. -/
def recomputeInventory (d : DomainTables κ) : Except CoreError (DomainTables κ) :=
  match d.inventoryQty item with
  | none => .ok (d.upsertInventory now item location qty)
  | some _ =>
    match checkedI64 (d.summaryTotal item) with
    | none => .error (.db "integer overflow")
    | some total =>
      if 0 ≤ total then .ok (d.upsertInventory now item location total)
      else .error (.db "CHECK constraint failed: qty >= 0")

/-- The canonical writer as the sync lane calls it: no inventory transaction, terminal or user. -/
def adjustStockAtLocationWithReason (now sku : String) (delta : Int) (location : String)
    (reason : Option String) (d : DomainTables κ) : Except CoreError (Int × DomainTables κ) :=
  match d.productIdBySku sku with
  | none => .error (.notFound "product" sku)
  | some item =>
    let current := d.legacyAwareLocationQty item location
    match checkedStock (current + delta) with
    | none => .error (.insufficientStockAtLocation sku location delta current)
    | some qty =>
      match d.appendMovement ⟨none, item, location, delta, reason, none, none, "", now⟩ with
      | .error e => .error e
      | .ok d =>
        match (d.upsertStockSummary now item location qty).recomputeInventory now item location
            qty with
        | .error e => .error e
        | .ok d => .ok (qty, d)

/-- What is on hand of a product: the locations' sum, the old aggregate where there are none. -/
def onHand : Int :=
  if d.hasLocationRows item then d.summaryTotal item else (d.inventoryQty item).getD 0

end DomainTables

/-- `Currency::from_str`: three ASCII letters, folded to upper case. -/
def parseCurrency (code : String) : Option String :=
  let chars := code.toList
  if chars.length = 3 ∧ chars.all Char.isAlpha then some (String.ofList (chars.map Char.toUpper))
  else none

/-- What a `product.created` payload says, with the arm's defaults. -/
structure ProductDescription where
  (sku name : String)
  priceMinor : Int
  currency : String
  (categoryId barcode : Option String)
  initialStock : Int
  productType : String
  deriving DecidableEq

namespace DomainTables

variable {κ : Type}

def insertProduct (p : Product) (d : DomainTables κ) : Except CoreError (DomainTables κ) :=
  if p.categoryId.any (fun c => !d.categories.contains c) then
    .error (.db "FOREIGN KEY constraint failed")
  else if d.products.rows.any (fun q => p.barcode.isSome && q.barcode = p.barcode) then
    .error (.db "UNIQUE constraint failed: products.barcode")
  else
    match d.products.insert? p with
    | none => .error (.db "UNIQUE constraint failed: products.id")
    | some products => .ok { d with products }

def initialStockRows (now item : String) (qty : Int) (d : DomainTables κ) :
    Except CoreError (DomainTables κ) :=
  match (d.upsertInventory now item canonicalDefaultLocation qty).appendMovement
      ⟨none, item, canonicalDefaultLocation, qty, some "initial-stock", none, none, "", now⟩ with
  | .error e => .error e
  | .ok d => .ok (d.upsertStockSummary now item canonicalDefaultLocation qty)

/-- Returns whether a product was inserted; one already described the same way is left alone. -/
def createProductIfAbsentInTx (now productId : String) (p : ProductDescription)
    (d : DomainTables κ) : Except CoreError (Bool × DomainTables κ) :=
  let sku := trim p.sku
  let name := trim p.name
  if sku = "" then .error (.validation "sku" "SKU must not be empty")
  else if 50 < p.sku.utf8ByteSize then
    .error (.validation "sku"
      ("SKU must not exceed 50 characters, got " ++ toString p.sku.utf8ByteSize))
  else if name = "" then .error (.validation "name" "name must not be empty")
  else if 255 < p.name.utf8ByteSize then
    .error (.validation "name"
      ("name must not exceed 255 characters, got " ++ toString p.name.utf8ByteSize))
  else if p.priceMinor < 0 then .error (.validation "price" "price must be ≥ 0")
  else if p.initialStock < 0 then
    .error (.validation "initial_stock" "initial_stock must be ≥ 0")
  else
    match d.products.rows.find? (fun q => q.sku = sku) with
    | some q =>
      if q.name = name ∧ q.priceMinor = p.priceMinor ∧ q.currency = p.currency ∧
          q.categoryId = p.categoryId ∧ q.barcode = p.barcode ∧ q.productType = p.productType then
        .ok (false, d)
      else .error (.conflict "product" "sku")
    | none =>
      match d.insertProduct ⟨productId, "default", sku, name, p.priceMinor, p.currency,
          p.categoryId, p.barcode, p.productType, now⟩ with
      | .error e => .error e
      | .ok d =>
        if p.initialStock = 0 ∨ p.productType = "service" then .ok (true, d)
        else (d.initialStockRows now productId p.initialStock).map (fun d => (true, d))

/-- The ledger row of a `stock.movement`, under the id the payload names. -/
def insertStockMovementInTx (m : StockMovement) (d : DomainTables κ) :
    Except CoreError (DomainTables κ) :=
  if d.stockMovements.any (fun row => m.id.isSome && row.id = m.id) then
    .error (.db "UNIQUE constraint failed: stock_movements.id")
  else d.appendMovement m

end DomainTables

end OzPos
