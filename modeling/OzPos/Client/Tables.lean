import OzPos.Offline.Item
import OzPos.Library.Table

namespace OzPos

/-- The errors of the client store that the sync paths can end in. -/
inductive CoreError where
  | db (message : String)
  | notFound (entity id : String)
  | conflict (entity field : String)
  | validation (field message : String)
  | internal (message : String)
  /-- `internal` with a `serde_json` message after the named text. -/
  | malformed (what : String)
  | subscriptionReadOnly (message : String)
  | insufficientStockAtLocation (sku locationId : String) (requestedDelta availableQty : Int)
  deriving DecidableEq

def startsWith (text start : String) : Bool := start.toList.isPrefixOf text.toList

structure Product where
  (id tenantId sku name : String)
  priceMinor : Int
  currency : String
  (categoryId barcode : Option String)
  (productType createdAt : String)

structure InventoryRow where
  (productId locationId : String)
  qty : Int
  updatedAt : String

structure SummaryRow where
  (itemId locationId : String)
  qty : Int
  updatedAt : String

def SummaryRow.cell (row : SummaryRow) : String × String := (row.itemId, row.locationId)

/-- A ledger row; `id` is `none` for an id minted here, which no payload can name. -/
structure StockMovement where
  id : Option String
  (itemId locationId : String)
  delta : Int
  (reason sourceTerminalId sourceUserId : Option String)
  (storeId createdAt : String)

structure Setting where
  (key value : String)

structure SettingUpdated where
  (key value terminalId : String)
  version : Int

structure Terminal where
  (id tenantId deviceId : String)

structure SaleRow where
  (id tenantId : String)
  terminalId : Option String
  status : String
  version : Int
  updatedAt : String
  customerId : Option String
  totalMinor : Int
  baseTotalMinor : Option Int
  deriving DecidableEq

structure RefundRow where
  (id saleId : String)
  totalMinor : Int
  (currency reason note processedBy createdAt tenantId : String)

structure RefundLineRow where
  (id refundId saleLineId sku : String)
  (qty unitMinor lineMinor : Int)
  (currency createdAt : String)

structure PaymentRow where
  (id saleId method : String)
  amountMinor : Int
  (currency createdAt : String)
  (gatewayReference gatewayStatus gatewayResponse idempotencyKey : Option String)

structure AuditRow where
  (userId action targetType targetId : String)
  details : Json
  (outcome createdAt : String)

/-- The tables that remote items read and write. `crm` holds customers and loyalty, which
their writers change as a whole. -/
structure DomainTables (κ : Type) where
  products : Table String Product Product.id
  (categories locations : List String)
  inventory : Table String InventoryRow InventoryRow.productId
  stockSummary : Table (String × String) SummaryRow SummaryRow.cell
  stockMovements : List StockMovement
  settings : Table String Setting Setting.key
  settingUpdated : List SettingUpdated
  terminals : List Terminal
  sales : Table String SaleRow SaleRow.id
  refunds : Table String RefundRow RefundRow.id
  refundLines : Table String RefundLineRow RefundLineRow.id
  payments : Table String PaymentRow PaymentRow.id
  auditLog : List AuditRow
  crm : κ

/-- `CANONICAL_DEFAULT_LOCATION_UUID`. -/
def canonicalDefaultLocation : String := "01926b3a-0000-7000-8000-000000000001"

def DomainTables.empty {κ : Type} (crm : κ) : DomainTables κ :=
  { products := Table.empty, categories := [], locations := [canonicalDefaultLocation]
    inventory := Table.empty, stockSummary := Table.empty, stockMovements := []
    settings := Table.empty, settingUpdated := [], terminals := [], sales := Table.empty
    refunds := Table.empty, refundLines := Table.empty, payments := Table.empty
    auditLog := [], crm }

/-- The arithmetic of an `i64` column: `checked_add`. -/
def checkedI64 (n : Int) : Option Int := if -2^63 ≤ n ∧ n < 2^63 then some n else none

/-- `checked_add(delta).filter(|&v| v >= 0)`. -/
def checkedStock (n : Int) : Option Int := (checkedI64 n).filter (fun v => 0 ≤ v)

theorem checkedI64_eq_some_iff (n m : Int) :
    checkedI64 n = some m ↔ m = n ∧ -2^63 ≤ n ∧ n < 2^63 := by
  unfold checkedI64
  split <;> simp <;> omega

theorem checkedStock_eq_some_iff (n m : Int) :
    checkedStock n = some m ↔ m = n ∧ 0 ≤ n ∧ n < 2^63 := by
  unfold checkedStock checkedI64
  by_cases h : -2^63 ≤ n ∧ n < 2^63
  · rw [if_pos h]
    by_cases h0 : 0 ≤ n
    · simp [Option.filter, h0]; omega
    · simp [Option.filter, h0]
  · rw [if_neg h]
    simp; omega

end OzPos
