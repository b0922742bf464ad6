import OzPos.Kitchen.KdsOrders
import OzPos.Library.Counting
import OzPos.Library.Grouping

namespace OzPos

structure KdsModifier where
  (name choice : String)
  priceMinor : Int
  deriving DecidableEq

structure CreateKdsLineItemInput where
  (sku displayName : String)
  qty : Int
  course : Option String
  modifiers : List KdsModifier
  deriving DecidableEq

structure ItemState where
  itemStatus : KdsStatus
  (startedAt readyAt servedAt : Option String)
  deriving DecidableEq

/-- A row of `kds_line_items`. -/
structure TicketLine extends CreateKdsLineItemInput, ItemState where
  (id kdsOrderId : String)
  linePosition : Nat
  createdAt : String
  deriving DecidableEq

/-- A row of `kds_orders`. -/
structure ZoneTicket extends KdsTicket where
  (storeId targetInstanceId : Option String)
  itemsSummary : String
  itemCount : Int
  displayNumber : Nat
  receivedAt : String
  (kitchenZone tableNumber : Option String)
  ticketPrefix : String
  deriving DecidableEq

def ZoneTicket.key (t : ZoneTicket) : String := t.id

structure KitchenDb where
  tickets : Table String ZoneTicket ZoneTicket.key
  lines : Table String TicketLine TicketLine.id

def CreateKdsLineItemInput.slot (item : CreateKdsLineItemInput) : String × Option String :=
  (item.sku, item.course)

/-- `DEFAULT 'pending'`. -/
def ItemState.fresh : ItemState := ⟨.pending, none, none, none⟩

structure ItemsDraw where
  now : String
  lineId : Nat → String

def lineOf (draw : ItemsDraw) (orderId : String) (position : Nat) (item : CreateKdsLineItemInput)
    (state : ItemState) : TicketLine :=
  { toCreateKdsLineItemInput := item
    toItemState := state
    id := draw.lineId position
    kdsOrderId := orderId
    linePosition := position
    createdAt := draw.now }

namespace KitchenDb

variable (db : KitchenDb)

/-- The `INSERT` with its constraints. -/
def insertLine (line : TicketLine) : Except CoreError KitchenDb :=
  if line.qty ≤ 0 then .error (.db "CHECK constraint failed: qty > 0")
  else if (db.tickets.find? line.kdsOrderId).isNone then
    .error (.db "FOREIGN KEY constraint failed")
  else
    match db.lines.insert? line with
    | none => .error (.db "UNIQUE constraint failed: kds_line_items.id")
    | some lines => .ok { db with lines }

def insertLines : List TicketLine → KitchenDb → Except CoreError KitchenDb
  | [], db => .ok db
  | line :: rest, db => (db.insertLine line).bind (insertLines rest)

end KitchenDb

def linesOf (draw : ItemsDraw) (orderId : String) :
    Nat → List (CreateKdsLineItemInput × ItemState) → List TicketLine
  | _, [] => []
  | position, (item, state) :: rest =>
    lineOf draw orderId position item state :: linesOf draw orderId (position + 1) rest

def summaryOf (item : CreateKdsLineItemInput) : String :=
  if 1 < item.qty then s!"{item.displayName} x{item.qty}" else item.displayName

def deriveKdsSummary (items : List CreateKdsLineItemInput) : String × Int :=
  (", ".intercalate (items.map summaryOf), (items.map (fun item => item.qty)).sum)

structure UpdateKdsOrderItemsInput where
  (id itemsSummary : String)
  itemCount : Int
  lineItems : Option (List CreateKdsLineItemInput)

def finalSummary (input : UpdateKdsOrderItemsInput) : Except CoreError (String × Int) :=
  match input.lineItems with
  | some items =>
    if items = [] then
      .error (.validation "line_items" "line_items must not be empty when provided")
    else .ok (deriveKdsSummary items)
  | none =>
    if trim input.itemsSummary = "" then
      .error (.validation "items_summary" "items_summary must not be empty")
    else if input.itemCount ≤ 0 then
      .error (.validation "item_count" "item_count must be positive")
    else .ok (input.itemsSummary, input.itemCount)

/-- Each item takes the state of the first old line of its SKU and course that is left. -/
def carryStates : List TicketLine → List CreateKdsLineItemInput → List (Option ItemState)
  | _, [] => []
  | old, item :: rest =>
    match old.find? (fun line => line.slot = item.slot) with
    | none => none :: carryStates old rest
    | some line => some line.toItemState :: carryStates (old.erase line) rest

namespace KitchenDb

variable (db : KitchenDb)

def ticketLines (orderId : String) : List TicketLine :=
  (db.lines.rows.filter (fun line => line.kdsOrderId = orderId)).insertionSort
    (fun a b => a.linePosition ≤ b.linePosition)

/-- An inserted line that carries no state keeps the one it is inserted in. -/
def replaceLines (draw : ItemsDraw) (orderId : String) (items : List CreateKdsLineItemInput) :
    Except CoreError KitchenDb :=
  let carry := carryStates (db.ticketLines orderId) items
  let db := { db with lines := db.lines.retain (fun line => line.kdsOrderId ≠ orderId) }
  insertLines (linesOf draw orderId 0 (items.zip (carry.map (fun state =>
    state.getD .fresh)))) db

def writeSummary (id summary : String) (count : Int) : KitchenDb :=
  { db with
    tickets := db.tickets.update id
      (fun t => { t with itemsSummary := summary, itemCount := count }) (fun _ => rfl) }

def getKdsOrder (id : String) : Except CoreError ZoneTicket :=
  match db.tickets.find? id with
  | some t => .ok t
  | none => .error (.notFound "kds_order" id)

def updateKdsOrderItems (draw : ItemsDraw) (input : UpdateKdsOrderItemsInput) :
    KitchenDb × Except CoreError ZoneTicket :=
  match finalSummary input with
  | .error e => (db, .error e)
  | .ok (summary, count) =>
    match (match input.lineItems with
      | some items => db.replaceLines draw input.id items
      | none => .ok db) with
    | .error e => (db, .error e)
    | .ok replaced =>
      let written := replaced.writeSummary input.id summary count
      (written, written.getKdsOrder input.id)

def cancelKdsOrdersForSaleInTx (saleId : String) : KitchenDb × Nat :=
  let cancelled :=
    db.tickets.rows.countP (fun t => t.saleId = saleId && t.status.active)
  if cancelled = 0 then (db, 0)
  else
    let tickets := db.tickets.updateWhere (fun t => t.saleId = saleId && t.status.active)
      (fun t => { t with status := .cancelled }) (fun _ => rfl)
    let ids := (tickets.rows.filter (fun t => t.saleId = saleId)).map ZoneTicket.key
    ({ tickets
       lines := db.lines.updateWhere
        (fun line => ids.contains line.kdsOrderId && line.itemStatus.active)
        (fun line => { line with itemStatus := .cancelled }) (fun _ => rfl) }, cancelled)

end KitchenDb

structure SoldLine where
  (id sku : String)
  qty : Int
  (course modifiersJson : Option String)

structure MenuProduct where
  (sku name productType : String)
  kitchenZone : Option String

/-- Sales, tables, locations and the reader of modifier texts, none of which the fan-out
writes. -/
structure FanoutSetting where
  linesOf : String → Option (List SoldLine)
  (tableOf ticketPrefixOf : String → Option String)
  readModifiers : String → Option (List KdsModifier)

structure FanoutShop where
  products : Table String MenuProduct MenuProduct.sku
  kitchen : KitchenDb
  targets : List (String × String)
  counters : String → String → Nat

/-- The clock, the store's day, and the ids minted for the ticket and the lines of a zone. -/
structure FanoutDraw where
  (now today : String)
  ticketId : Option String → String
  lineId : Option String → Nat → String

def FanoutDraw.items (draw : FanoutDraw) (zone : Option String) : ItemsDraw :=
  ⟨draw.now, draw.lineId zone⟩

structure FanoutCall where
  saleId : String
  storeId : Option String
  targetInstanceIds : List String

abbrev ZoneGroup := Option String × List SoldLine

namespace FanoutShop

variable (shop : FanoutShop)

variable (sku : String)

def productTypeBySku : Option String :=
  (shop.products.find? sku).map MenuProduct.productType

def productNameBySku : Option String :=
  (shop.products.find? sku).map MenuProduct.name

def productKitchenZoneBySku : Option String :=
  (shop.products.find? sku).bind MenuProduct.kitchenZone

def kitchenLine (line : SoldLine) : Bool :=
  match shop.productTypeBySku line.sku with
  | none => false
  | some productType => productType = "restaurant" || productType = "both"

def zoneOf (line : SoldLine) : Option String :=
  (shop.productKitchenZoneBySku line.sku).filter (fun zone => zone ≠ "")

end FanoutShop

/-- The order of a `BTreeMap`'s keys. -/
def zoneLe : Option String → Option String → Bool
  | none, _ => true
  | some _, none => false
  | some a, some b => a ≤ b

section Fanout

variable (setting : FanoutSetting) (draw : FanoutDraw) (call : FanoutCall)

variable (shop : FanoutShop)

def kdsLines : List SoldLine :=
  ((setting.linesOf call.saleId).getD []).filter shop.kitchenLine

def saleTickets : List ZoneTicket :=
  shop.kitchen.tickets.rows.filter (fun t => t.saleId = call.saleId)

def existingZones : List (Option String) :=
  (saleTickets call shop).map ZoneTicket.kitchenZone

def byZone : List ZoneGroup :=
  ((((kdsLines setting call shop).map shop.zoneOf).dedup).insertionSort
    (fun a b => zoneLe a b = true)).map (fun zone =>
      (zone, (kdsLines setting call shop).filter (fun line => shop.zoneOf line = zone)))

/-- `by_zone.retain`. -/
def newZones : List ZoneGroup :=
  (byZone setting call shop).filter (fun group => !(existingZones call shop).contains group.1)

def itemOf (line : SoldLine) : CreateKdsLineItemInput where
  sku := line.sku
  displayName := (shop.productNameBySku line.sku).getD line.sku
  qty := line.qty
  course := line.course
  modifiers := ((line.modifiersJson.filter (fun text => text ≠ "")).bind
    setting.readModifiers).getD []

variable (group : ZoneGroup)

def itemsOf : List CreateKdsLineItemInput :=
  group.2.map (itemOf setting shop)

def ticketOf : ZoneTicket where
  id := draw.ticketId group.1
  saleId := call.saleId
  status := .pending
  startedAt := none
  readyAt := none
  servedAt := none
  prepTimeSeconds := 0
  storeId := call.storeId
  targetInstanceId := call.targetInstanceIds.head?
  itemsSummary := (deriveKdsSummary (itemsOf setting shop group)).1
  itemCount := (deriveKdsSummary (itemsOf setting shop group)).2
  displayNumber := shop.counters draw.today (call.storeId.getD "") + 1
  receivedAt := draw.now
  kitchenZone := group.1
  tableNumber := setting.tableOf call.saleId
  ticketPrefix := (call.storeId.bind setting.ticketPrefixOf).getD ""

/-- The checks of `create_kds_order_with_target_in_tx`. -/
def checkOrder (saleId itemsSummary : String) (itemCount : Int) : Except CoreError Unit :=
  if trim saleId = "" then .error (.validation "sale_id" "sale_id must not be empty")
  else if trim itemsSummary = "" then
    .error (.validation "items_summary" "items_summary must not be empty")
  else if itemCount ≤ 0 then
    .error (.validation "item_count" "item_count must be positive")
  else .ok ()

/-- `UNIQUE (sale_id, kitchen_zone)` does not hold for tickets of no zone. -/
def KitchenDb.insertTicket (db : KitchenDb) (t : ZoneTicket) : Except CoreError KitchenDb :=
  if t.kitchenZone.isSome ∧ db.tickets.rows.any (fun other =>
      other.saleId = t.saleId && other.kitchenZone = t.kitchenZone) then
    .error (.db "UNIQUE constraint failed: kds_orders.sale_id, kds_orders.kitchen_zone")
  else
    match db.tickets.insert? t with
    | none => .error (.db "UNIQUE constraint failed: kds_orders.id")
    | some tickets => .ok { db with tickets }

def createKdsOrderFanoutInTx : Except CoreError FanoutShop :=
  let t := ticketOf setting draw call shop group
  (checkOrder t.saleId t.itemsSummary t.itemCount).bind (fun _ =>
    (shop.kitchen.insertTicket t).map (fun kitchen =>
      { shop with
        kitchen
        targets := shop.targets ++ (call.targetInstanceIds.dedup.map (fun target =>
          (t.id, target))).filter (fun row => !shop.targets.contains row)
        counters := fun day store =>
          if day = draw.today ∧ store = call.storeId.getD "" then shop.counters day store + 1
          else shop.counters day store }))

def createZone : Except CoreError FanoutShop :=
  (createKdsOrderFanoutInTx setting draw call shop group).bind (fun created =>
    (KitchenDb.insertLines (OzPos.linesOf (draw.items group.1) (draw.ticketId group.1) 0
      ((itemsOf setting shop group).map (fun item => (item, .fresh)))) created.kitchen).map
        (fun kitchen => { created with kitchen }))

def createZones : List ZoneGroup → FanoutShop → Except CoreError FanoutShop
  | [], shop => .ok shop
  | group :: rest, shop => (createZone setting draw call shop group).bind (createZones rest)

def liveTickets : List ZoneTicket :=
  (saleTickets call shop).filter (fun t => t.status ≠ .cancelled)

def completeSaleToKdsFanout : FanoutShop × Except CoreError (List ZoneTicket) :=
  match setting.linesOf call.saleId with
  | none => (shop, .error (.notFound "sale" call.saleId))
  | some _ =>
    if kdsLines setting call shop = [] then (shop, .ok [])
    else if newZones setting call shop = [] then (shop, .ok (liveTickets call shop))
    else
      match createZones setting draw call (newZones setting call shop) shop with
      | .error e => (shop, .error e)
      | .ok created =>
        (created, .ok (created.kitchen.tickets.rows.filter (fun t =>
          (newZones setting call shop).any (fun group => draw.ticketId group.1 = t.id))))

end Fanout

end OzPos
