import OzPos.Client.Tables
import OzPos.Library.Upsert

namespace OzPos

/-- The columns of a product that a snapshot carries as they are. -/
structure ProductColumns where
  name : String
  priceMinor : Int
  currency : String
  (categoryId barcode : Option String)
  trackSerial : Bool
  (storeId brand rackLocation notes unit : Option String)
  isActive : Bool

structure SnapshotProduct where
  id : Option String
  sku : String
  columns : ProductColumns
  (createdAt updatedAt priceUpdatedAt : Option String)

structure RateColumns where
  name : String
  rateBps : Int
  (isDefault isInclusive : Bool)
  (legalEntityId locationId effectiveFrom effectiveTo : Option String)
  roundingMode : String

structure SnapshotTaxRate where
  id : String
  columns : RateColumns
  (createdAt updatedAt : Option String)

structure UserColumns where
  (displayName roleId : String)
  isActive : Bool

structure SnapshotUser where
  id : Option String
  username : String
  columns : UserColumns
  (createdAt updatedAt : Option String)

structure Snapshot where
  products : List SnapshotProduct
  taxRates : List SnapshotTaxRate
  users : List SnapshotUser

/-- A row of `products`. -/
structure LocalProduct where
  (id sku : String)
  columns : ProductColumns
  (createdAt updatedAt : String)
  priceUpdatedAt : Option String
  productType : String
  version : Int

/-- A row of `tax_rates`. -/
structure LocalRate where
  id : String
  columns : RateColumns
  (createdAt updatedAt : String)
  isActive : Bool

/-- A row of `users`. -/
structure LocalUser where
  (id username pinHash : String)
  columns : UserColumns
  (createdAt updatedAt : String)

/-- The tables that a snapshot writes, and the keys of those that its rows refer to. -/
structure LocalStore where
  products : Table String LocalProduct LocalProduct.sku
  taxRates : Table String LocalRate LocalRate.id
  users : Table String LocalUser LocalUser.username
  (categories locations legalEntities roles : List String)

/-- What one pull draws: the time, and an id for a product or user that comes without one. -/
structure PullDraws where
  now : String
  (productId userId : String → String)

def snapshotPinHashPlaceholder : String := "!snapshot-no-credential!"

def referenceHolds (keys : List String) (reference : Option String) : Bool :=
  reference.all keys.contains

namespace LocalStore

/-- `uq_products_barcode` and the primary key; unset barcodes differ. -/
def productClash (a b : LocalProduct) : Bool :=
  a.id = b.id || (a.columns.barcode.isSome && a.columns.barcode = b.columns.barcode)

variable (s : LocalStore) (d : PullDraws)

/-- `INSERT INTO products … ON CONFLICT (tenant_id, sku) DO UPDATE`. -/
def upsertProduct : Upsert String LocalProduct SnapshotProduct LocalProduct.sku where
  keyOf := SnapshotProduct.sku
  stored := fun old p =>
    match old with
    | none =>
      ⟨p.id.getD (d.productId p.sku), p.sku, p.columns, p.createdAt.getD d.now,
        p.updatedAt.getD d.now, some (p.priceUpdatedAt.getD d.now), "retail", 1⟩
    | some r =>
      { r with
        sku := p.sku
        columns := p.columns
        updatedAt := p.updatedAt.getD d.now
        priceUpdatedAt := some (p.priceUpdatedAt.getD d.now) }
  clash := productClash
  allowed := fun p =>
    0 ≤ p.columns.priceMinor && referenceHolds s.categories p.columns.categoryId &&
      referenceHolds s.locations p.columns.storeId
  key_stored := by
    intro old p
    cases old <;> rfl
  clash_symm := by
    intro a b
    simp only [productClash, eq_comm]
    cases a.columns.barcode <;> cases b.columns.barcode <;> simp [eq_comm]

def rateClash (a b : LocalRate) : Bool :=
  a.columns.isDefault && b.columns.isDefault &&
    (a.columns.legalEntityId = b.columns.legalEntityId &&
      a.columns.locationId = b.columns.locationId)

/-- `INSERT INTO tax_rates … ON CONFLICT(id) DO UPDATE`. -/
def upsertTaxRate : Upsert String LocalRate SnapshotTaxRate LocalRate.id where
  keyOf := SnapshotTaxRate.id
  stored := fun old r =>
    match old with
    | none => ⟨r.id, r.columns, r.createdAt.getD d.now, r.updatedAt.getD d.now, true⟩
    | some o => { o with id := r.id, columns := r.columns, updatedAt := r.updatedAt.getD d.now }
  clash := rateClash
  allowed := fun r => 0 ≤ r.columns.rateBps
  key_stored := by
    intro old r
    cases old <;> rfl
  clash_symm := by
    intro a b
    simp only [rateClash, eq_comm, Bool.and_comm a.columns.isDefault]

def userClash (a b : LocalUser) : Bool := a.id = b.id

/-- `INSERT INTO users … ON CONFLICT (tenant_id, username) DO UPDATE`; a stored hash stays. -/
def upsertUser : Upsert String LocalUser SnapshotUser LocalUser.username where
  keyOf := SnapshotUser.username
  stored := fun old u =>
    match old with
    | none =>
      ⟨u.id.getD (d.userId u.username), u.username, snapshotPinHashPlaceholder, u.columns,
        u.createdAt.getD d.now, u.updatedAt.getD d.now⟩
    | some r =>
      { r with username := u.username, columns := u.columns, updatedAt := u.updatedAt.getD d.now }
  clash := userClash
  allowed := fun u => s.roles.contains u.columns.roleId
  key_stored := by
    intro old u
    cases old <;> rfl
  clash_symm := by
    intro a b
    simp only [userClash, eq_comm]

def snapshotTaxRateScopeIsApplicable (r : SnapshotTaxRate) : Bool :=
  match r.columns.legalEntityId, r.columns.locationId with
  | none, none => true
  | some _, some _ => false
  | some entity, none => s.legalEntities.contains entity
  | none, some location => s.locations.contains location

def statutoryRounding (mode : String) : Bool := mode = "" || mode = "half_up" || mode = "truncate"

def taxRatesWritten (rates : List SnapshotTaxRate) : List SnapshotTaxRate :=
  rates.filter (fun r =>
    s.snapshotTaxRateScopeIsApplicable r && statutoryRounding r.columns.roundingMode)

structure PullCounts where
  (productsPulled taxRatesPulled usersPulled : Nat)

def constraintFailed : CoreError := .db "constraint failed"

/-- One transaction: a violated constraint leaves the store as it was. -/
def applySnapshot (snapshot : Snapshot) : Except CoreError (LocalStore × PullCounts) :=
  match (s.upsertProduct d).putAll s.products snapshot.products with
  | none => .error constraintFailed
  | some products =>
    match (upsertTaxRate d).putAll s.taxRates (s.taxRatesWritten snapshot.taxRates) with
    | none => .error constraintFailed
    | some taxRates =>
      match (s.upsertUser d).putAll s.users snapshot.users with
      | none => .error constraintFailed
      | some users =>
        .ok ({ s with products := products, taxRates := taxRates, users := users },
          ⟨snapshot.products.length, (s.taxRatesWritten snapshot.taxRates).length,
            snapshot.users.length⟩)

def pulls (s : LocalStore) : List (PullDraws × Snapshot) → LocalStore
  | [] => s
  | (d, snapshot) :: rest =>
    match s.applySnapshot d snapshot with
    | .ok (s', _) => s'.pulls rest
    | .error _ => s.pulls rest

end LocalStore

end OzPos
