import OzPos.Commerce.SaleLifecycle
import OzPos.Commerce.Money
import OzPos.Library.Folds
import OzPos.Library.Sessions

namespace OzPos

inductive PromotionType where
  | percentage
  | fixedAmount
  | buyXGetY

def PromotionType.fromStr : String → Option PromotionType
  | "percentage" => some .percentage
  | "fixed_amount" => some .fixedAmount
  | "buy_x_get_y" => some .buyXGetY
  | _ => none

structure Promotion where
  (id name promoType : String)
  valueMinor : Int
  minQty : Option Int
  (triggerSku rewardSku : Option String)
  rewardQty : Option Int
  (startsAt endsAt : Option String)
  minOrderMinor : Int
  categoryId : Option String
  active : Bool

structure PromotionApplication where
  (id promotionId saleId : String)
  discountMinor : Int
  (description createdAt : String)

structure PricedSale where
  id : String
  totalMinor : Int
  currency : String
  lines : List SaleLine

inductive PromotionError where
  | core (e : CoreError)
  /-- The release build checks its arithmetic, and `clamp` its bounds. -/
  | panicked
  deriving DecidableEq

/-- `chrono`'s reader of a timestamp as nanoseconds and its printer, and the category of a
SKU as the catalog has it. -/
structure PromotionSettings where
  instant : String → Except String Int
  stamp : Int → String
  categoryOf : String → Option String

def refusePromotion {α : Type} (field message : String) : Except PromotionError α :=
  .error (.core (.validation field message))

def fitOr {ε : Type} (e : ε) (n : Int) : Except ε Int :=
  match checkedI64 n with
  | none => .error e
  | some n => .ok n

def fitDiscount (field : String) (n : Int) : Except PromotionError Int :=
  fitOr (.core (.validation field "discount computation overflow")) n

/-- `+` of the release build. -/
def addChecked (a b : Int) : Except PromotionError Int := fitOr .panicked (a + b)

namespace Promotion

variable (cfg : PromotionSettings) (now : Int) (promo : Promotion)

def checkStarted : Except PromotionError Unit :=
  match promo.startsAt with
  | none => .ok ()
  | some startsAt =>
    match cfg.instant startsAt with
    | .error e => refusePromotion "starts_at" s!"invalid starts_at: {e}"
    | .ok start =>
      if now < start then refusePromotion "starts_at" "promotion has not started yet" else .ok ()

def checkNotExpired : Except PromotionError Unit :=
  match promo.endsAt with
  | none => .ok ()
  | some endsAt =>
    match cfg.instant endsAt with
    | .error e => refusePromotion "ends_at" s!"invalid ends_at: {e}"
    | .ok stop =>
      if stop < now then refusePromotion "ends_at" "promotion has expired" else .ok ()

variable (promo : Promotion)

def checkMinimumOrder (total : Int) : Except PromotionError Unit :=
  let minimum := promo.minOrderMinor
  if total < minimum then
    refusePromotion "min_order_minor" s!"sale total {total} is below minimum order {minimum}"
  else .ok ()

def checkApplies (total : Int) : Except PromotionError PromotionType :=
  match PromotionType.fromStr (trim promo.promoType) with
  | none => refusePromotion "promo_type" s!"unknown promotion type: {promo.promoType}"
  | some promoType =>
    if promo.active = false then refusePromotion "active" "promotion is not active"
    else
      (checkStarted cfg now promo).bind (fun _ =>
        (checkNotExpired cfg now promo).bind (fun _ =>
          (checkMinimumOrder promo total).bind (fun _ =>
            if promo.valueMinor < 0 then
              refusePromotion "value_minor" "value_minor must not be negative"
            else .ok promoType)))

def inScope (line : SaleLine) : Bool :=
  match promo.categoryId with
  | none => true
  | some scope => cfg.categoryOf line.sku = some scope

def addToBase (base : Int) (line : SaleLine) : Except PromotionError Int :=
  if inScope cfg promo line then fitDiscount "line_total" (base + line.lineMinor) else .ok base

def discountBase (sale : PricedSale) : Except PromotionError Int :=
  match promo.categoryId with
  | none => .ok sale.totalMinor
  | some _ => Except.foldAll (addToBase cfg promo) sale.lines 0

end Promotion

structure RewardScan where
  triggerQty : Int
  cheapest : Option Int
  rewardQtyInCart : Int

def cheaper (cheapest : Option Int) (price : Int) : Option Int :=
  match cheapest with
  | none => some price
  | some c => some (if c ≤ price then c else price)

namespace Promotion

/-- `qty` counts towards a SKU's sum on a line of that SKU. -/
def countSku (sku : String) (sum : Int) (line : SaleLine) : Except PromotionError Int :=
  if line.sku = sku then addChecked sum line.qty else .ok sum

variable (cfg : PromotionSettings) (promo : Promotion)

def scanLine (trigger reward : String)
    (s : RewardScan) (line : SaleLine) : Except PromotionError RewardScan :=
  if inScope cfg promo line then
    (countSku trigger s.triggerQty line).bind (fun triggerQty =>
      (countSku reward s.rewardQtyInCart line).bind (fun rewardQtyInCart =>
        .ok ⟨triggerQty, if line.sku = reward then cheaper s.cheapest line.unitMinor
          else s.cheapest, rewardQtyInCart⟩))
  else .ok s

/-- The discount on the reward items, never more than they cost. -/
def rewardDiscount (minQty rewardQty : Int) (s : RewardScan) : Except PromotionError Int :=
  match s.cheapest with
  | none => .ok 0
  | some cheapest =>
    if s.triggerQty < minQty then .ok 0
    else
      (fitDiscount "reward_qty" (cheapest * min rewardQty s.rewardQtyInCart)).bind (fun perItem =>
        (fitDiscount "value_minor" (perItem * promo.valueMinor)).map (fun raw =>
          max (min (raw.tdiv 100) perItem) 0))

def buyXGetY (sale : PricedSale) : Except PromotionError Int :=
  let trigger := promo.triggerSku.getD ""
  let minQty := promo.minQty.getD 1
  let rewardQty := promo.rewardQty.getD 1
  if trigger = "" then
    refusePromotion "trigger_sku" "buy_x_get_y promotion requires trigger_sku"
  else if minQty < 1 then
    refusePromotion "min_qty" "buy_x_get_y min_qty must be at least 1"
  else if rewardQty < 1 then
    refusePromotion "reward_qty" "buy_x_get_y reward_qty must be at least 1"
  else
    (Except.foldAll (scanLine cfg promo trigger (promo.rewardSku.getD trigger)) sale.lines
      ⟨0, none, 0⟩).bind (rewardDiscount promo minQty rewardQty)

def rawDiscount (sale : PricedSale) (base : Int) :
    PromotionType → Except PromotionError Int
  | .percentage =>
    (fitDiscount "value_minor" (base * promo.valueMinor)).map (fun raw => min (raw.tdiv 100) base)
  | .fixedAmount => .ok (min promo.valueMinor base)
  | .buyXGetY => buyXGetY cfg promo sale

/-- `clamp(0, total)`, which panics on a negative total. -/
def clampToTotal (total discount : Int) : Except PromotionError Int :=
  if total < 0 then .error .panicked else .ok (max 0 (min discount total))

def computeDiscount (now : Int) (promo : Promotion)
    (sale : PricedSale) : Except PromotionError Int :=
  (checkApplies cfg now promo sale.totalMinor).bind (fun promoType =>
    (discountBase cfg promo sale).bind (fun base =>
      (rawDiscount cfg promo sale base promoType).bind (clampToTotal sale.totalMinor)))

def application (now : Int) (id : String) (promo : Promotion)
    (sale : PricedSale) (discount : Int) : PromotionApplication :=
  let off := formatMinor discount sale.currency
  ⟨id, promo.id, sale.id, discount, s!"{promo.name}: {off} off", cfg.stamp now⟩

theorem clampToTotal_ok {total discount d : Int} (h : clampToTotal total discount = .ok d) :
    0 ≤ d ∧ d ≤ total := by
  unfold clampToTotal at h
  by_cases hneg : total < 0
  · rw [if_pos hneg] at h
    cases h
  · rw [if_neg hneg] at h
    cases h
    omega

theorem computeDiscount_bounds {cfg : PromotionSettings} {now : Int} {promo : Promotion}
    {sale : PricedSale} {d : Int} (h : computeDiscount cfg now promo sale = .ok d) :
    0 ≤ d ∧ d ≤ sale.totalMinor := by
  obtain ⟨promoType, hgates, hbase⟩ := Except.of_bind h
  obtain ⟨base, hbase, hraw⟩ := Except.of_bind hbase
  obtain ⟨raw, hraw, hclamp⟩ := Except.of_bind hraw
  exact clampToTotal_ok hclamp

end Promotion

/-- A row of `sales` with the columns the promotions read and write. -/
structure PricedSaleRow where
  (id status : String)
  totalMinor : Int
  currency : String
  version : Int
  updatedAt : String

variable (app : PromotionApplication)

def PricedSaleRow.reduced (row : PricedSaleRow) : PricedSaleRow :=
  { row with
    totalMinor := row.totalMinor - app.discountMinor
    updatedAt := app.createdAt
    version := row.version + 1 }

structure PromotionDb where
  promotions : Table String Promotion Promotion.id
  sales : Table String PricedSaleRow PricedSaleRow.id
  saleLines : Table String SaleLine SaleLine.id
  applications : Table String PromotionApplication PromotionApplication.id

namespace PromotionDb

def fail {α : Type} (message : String) : Except PromotionError α := .error (.core (.db message))

/-- `get_sale`: `ORDER BY line_position`. -/
def getSale (db : PromotionDb) (id : String) : Option PricedSale :=
  (db.sales.find? id).map (fun row =>
    ⟨row.id, row.totalMinor, row.currency, KeysetPage.ordered SaleLine.linePosition
      (db.saleLines.rows.filter (fun line => line.saleId = id))⟩)

/-- `insert_sale_line` with the constraints of the table; `sales` is the foreign key. -/
def insertSaleLine (sales : Table String PricedSaleRow PricedSaleRow.id)
    (lines : Table String SaleLine SaleLine.id) (line : SaleLine) :
    Except PromotionError (Table String SaleLine SaleLine.id) :=
  if line.qty ≤ 0 then fail "CHECK constraint failed: qty > 0"
  else if (sales.find? line.saleId).isNone then fail "FOREIGN KEY constraint failed"
  else if lines.rows.any (fun other => other.saleId = line.saleId ∧
      other.linePosition = line.linePosition) then
    fail "UNIQUE constraint failed: sale_lines.sale_id, sale_lines.line_position"
  else
    match lines.insert? line with
    | none => fail "UNIQUE constraint failed: sale_lines.id"
    | some lines => .ok lines

def insertSaleWithLines (row : PricedSaleRow) (lines : List SaleLine) (db : PromotionDb) :
    Except PromotionError PromotionDb :=
  match db.sales.insert? row with
  | none => fail "UNIQUE constraint failed: sales.id"
  | some sales =>
    (Except.foldAll (insertSaleLine sales) lines db.saleLines).map (fun saleLines =>
      { db with sales, saleLines })

end PromotionDb

variable (sale : ImportedSale)

def ImportedSale.pricedRow : PricedSaleRow :=
  ⟨sale.id, sale.status.asStoredStr, sale.totalMinor, sale.currency, 1, sale.updatedAt⟩

def ImportedSale.priced : PricedSale :=
  ⟨sale.id, sale.totalMinor, sale.currency, sale.lines⟩

namespace PromotionDb

variable (db : PromotionDb)

def createSale : Except PromotionError PromotionDb :=
  match validateSaleMoney sale with
  | .error e => .error (.core e)
  | .ok _ =>
    if sale.lineCount < 0 then fail "CHECK constraint failed: line_count >= 0"
    else insertSaleWithLines sale.pricedRow sale.lines db

/-- `SELECT COUNT(*) … WHERE sale_id = ? AND promotion_id = ?` is above zero. -/
def applied (saleId promotionId : String) : Bool :=
  db.applications.rows.any (fun a => a.saleId = saleId ∧ a.promotionId = promotionId)

/-- `INSERT INTO promotion_applications`, with its two foreign keys. -/
def insertApplication : Except PromotionError PromotionDb :=
  if (db.promotions.find? app.promotionId).isNone ∨ (db.sales.find? app.saleId).isNone then
    fail "FOREIGN KEY constraint failed"
  else
    match db.applications.insert? app with
    | none => fail "UNIQUE constraint failed: promotion_applications.id"
    | some applications => .ok { db with applications }

def refuseApplied {α : Type} : Except PromotionError α :=
  refusePromotion "promotion_id" "promotion already applied to this sale"

variable (cfg : PromotionSettings)

/-- One promotion of a checkout, on the sale in memory. `mint` is the id drawn for its record. -/
def computeCheckoutPromotion (now : Int) (mint : String → String)
    (db : PromotionDb) (promotionId : String) (sale : PricedSale) :
    Except PromotionError (PricedSale × PromotionApplication) :=
  match db.promotions.find? promotionId with
  | none => .error (.core (.notFound "promotion" promotionId))
  | some promo =>
    (promo.computeDiscount cfg now sale).bind (fun discount =>
      match checkedI64 (sale.totalMinor - discount) with
      | none => refusePromotion "discount_minor" "promotion discount overflows the sale total"
      | some totalMinor =>
        .ok ({ sale with totalMinor },
          promo.application cfg now (mint promotionId) sale discount))

/-- `selected` are the promotions already taken in this checkout. -/
def computeCheckoutPromotions (cfg : PromotionSettings) (now : Int) (mint : String → String)
    (db : PromotionDb) : List String → List String → PricedSale →
      Except PromotionError (PricedSale × List PromotionApplication)
  | _, [], sale => .ok (sale, [])
  | selected, promotionId :: rest, sale =>
    if promotionId ∈ selected then
      refusePromotion "promotion_id" "promotion already selected for this checkout"
    else
      (computeCheckoutPromotion cfg now mint db promotionId sale).bind (fun (sale, app) =>
        (computeCheckoutPromotions cfg now mint db (promotionId :: selected) rest sale).map
          (fun (sale, apps) => (sale, app :: apps)))

def persistCheckoutApplication (saleId : String) (db : PromotionDb)
    (app : PromotionApplication) : Except PromotionError PromotionDb :=
  if app.saleId ≠ saleId then
    refusePromotion "sale_id" "checkout application references a different sale"
  else if db.applied app.saleId app.promotionId then refuseApplied
  else db.insertApplication app

def persistCheckoutApplications (saleId : String) (apps : List PromotionApplication)
    (db : PromotionDb) : Except PromotionError PromotionDb :=
  Except.foldAll (persistCheckoutApplication saleId) apps db

/-- The promotions' part of a checkout: computed on the sale in memory, which is stored at its
reduced total, the records behind it. -/
def checkoutWithPromotions (now : Int) (mint : String → String) (promotionIds : List String)
    (sale : ImportedSale) (db : PromotionDb) : Except PromotionError PromotionDb :=
  (computeCheckoutPromotions cfg now mint db [] promotionIds sale.priced).bind
    (fun (promoted, apps) =>
      let row : PricedSaleRow :=
        ⟨sale.id, "pending", promoted.totalMinor, sale.currency, 1, cfg.stamp now⟩
      (db.insertSaleWithLines row sale.lines).bind (persistCheckoutApplications sale.id apps))

end PromotionDb

/-- A call of `apply_promotion_to_sale`, with the id drawn for its record. -/
structure ApplyCall where
  (saleId promotionId : String)
  now : Int
  id : String

namespace PromotionDb

variable (cfg : PromotionSettings)

def prepareApplication (call : ApplyCall) (db : PromotionDb) :
    Except PromotionError PromotionApplication :=
  match db.promotions.find? call.promotionId with
  | none => .error (.core (.notFound "promotion" call.promotionId))
  | some promo =>
    match db.getSale call.saleId with
    | none => .error (.core (.notFound "sale" call.saleId))
    | some sale =>
      (promo.computeDiscount cfg call.now sale).map
        (promo.application cfg call.now call.id sale)

/-- `UPDATE sales … WHERE id = ? AND status = 'pending' AND total_minor >= ?`. -/
def reduceTotal (db : PromotionDb) : Option PromotionDb :=
  match db.sales.find? app.saleId with
  | none => none
  | some row =>
    if row.status = "pending" ∧ app.discountMinor ≤ row.totalMinor then
      some { db with sales := db.sales.update app.saleId (PricedSaleRow.reduced app) (fun _ => rfl) }
    else none

def commitApplication (db : PromotionDb) : Except PromotionError PromotionDb :=
  if db.applied app.saleId app.promotionId then refuseApplied
  else
    match db.sales.find? app.saleId with
    | none => fail "Query returned no rows"
    | some row =>
      if row.status ≠ "pending" then
        refusePromotion "sale_id" s!"sale is not modifiable (status: {row.status})"
      else if row.totalMinor < app.discountMinor then
        refusePromotion "discount_minor" "sale total changed below the discount amount"
      else
        (db.insertApplication app).bind (fun db =>
          match db.reduceTotal app with
          | none => refusePromotion "sale_id" "sale is no longer modifiable"
          | some db => .ok db)

def applyPromotionToSale (call : ApplyCall) (db : PromotionDb) :
    Except PromotionError PromotionDb :=
  (db.prepareApplication cfg call).bind (fun app => db.commitApplication app)

/-- One call after another on a stored sale, up to the first refusal. -/
def applyInTurn (now : Int) (mint : String → String) (saleId : String)
    (promotionIds : List String) (db : PromotionDb) : Except PromotionError PromotionDb :=
  Except.foldAll (fun db promotionId =>
    db.applyPromotionToSale cfg ⟨saleId, promotionId, now, mint promotionId⟩) promotionIds db

/-- One call after another; a refused one changes nothing and the next is made. The
promotions accepted are answered. -/
def applyEach (cfg : PromotionSettings) (now : Int) (mint : String → String) (saleId : String) :
    List String → PromotionDb → List String × PromotionDb
  | [], db => ([], db)
  | promotionId :: rest, db =>
    match db.applyPromotionToSale cfg ⟨saleId, promotionId, now, mint promotionId⟩ with
    | .error _ => applyEach cfg now mint saleId rest db
    | .ok db =>
      let later := applyEach cfg now mint saleId rest db
      (promotionId :: later.1, later.2)

def recorded (saleId : String) (db : PromotionDb) : List (String × Int) :=
  (db.applications.rows.filter (fun a => a.saleId = saleId)).map
    (fun a => (a.promotionId, a.discountMinor))

def payable (saleId : String) (db : PromotionDb) : Option Int :=
  (db.sales.find? saleId).map PricedSaleRow.totalMinor

end PromotionDb

/-- The calls of several sessions; `none` is no failure of the database. -/
def applyCalls (cfg : PromotionSettings) : Calls PromotionDb ApplyCall PromotionApplication
    (Option CoreError) (Except PromotionError PromotionApplication) where
  read call db :=
    match db.prepareApplication cfg call with
    | .error e => .inl (.error e)
    | .ok app => .inr app
  write failure app db :=
    match db.commitApplication app, failure with
    | .error e, _ => (db, .error e)
    | .ok _, some e => (db, .error (.core e))
    | .ok db, none => (db, .ok app)

end OzPos
