import OzPos.Kitchen.TicketCancel
import Mathlib.Algebra.Order.BigOperators.Group.List
import Mathlib.Algebra.Order.Ring.Nat

namespace OzPos

section Claim

variable (setting : FanoutSetting)

/-- The tickets of the sale partition the lines for the kitchen, and each ticket's rows are the
items of its part. -/
def FannedOut (call : FanoutCall) (shop : FanoutShop) : Prop :=
  ∃ parts : List (ZoneTicket × List SoldLine),
    parts.map Prod.fst = saleTickets call shop ∧
    (parts.flatMap Prod.snd).Perm (kdsLines setting call shop) ∧
    ∀ part ∈ parts, (shop.kitchen.lines.rows.filter (fun line =>
        line.kdsOrderId = part.1.id)).map TicketLine.toCreateKdsLineItemInput =
      part.2.map (itemOf setting shop)

inductive FanoutEvent where
  | replay (draw : FanoutDraw) (storeId : Option String) (targetInstanceIds : List String)
  | editZone (sku : String) (zone : Option String)

def FanoutShop.editZone (shop : FanoutShop) (sku : String) (zone : Option String) : FanoutShop :=
  { shop with
    products := shop.products.update sku (fun p => { p with kitchenZone := zone }) (fun _ => rfl) }

variable (saleId : String)

def fanoutMachine : Machine FanoutShop FanoutEvent (Except CoreError (List ZoneTicket)) :=
  ⟨fun shop e =>
    match e with
    | .replay draw storeId targets =>
      completeSaleToKdsFanout setting draw ⟨saleId, storeId, targets⟩ shop
    | .editZone sku zone => (shop.editZone sku zone, .ok [])⟩

def saleCall : FanoutCall := ⟨saleId, none, []⟩

structure FansOutOnce (saleId : String) (shop : FanoutShop) (events : List FanoutEvent) : Prop where
  covered : ∀ l draw storeId targets r, events = l ++ .replay draw storeId targets :: r →
    (∃ tickets, ((fanoutMachine setting saleId).step ((fanoutMachine setting saleId).run shop l)
      (.replay draw storeId targets)).2 = .ok tickets) →
    FannedOut setting (saleCall saleId) ((fanoutMachine setting saleId).run shop
      (l ++ [.replay draw storeId targets]))
  once : ∀ l r, events = l ++ r →
    saleTickets (saleCall saleId) ((fanoutMachine setting saleId).run shop l) = [] ∨
      FannedOut setting (saleCall saleId) ((fanoutMachine setting saleId).run shop l)

/-- Tickets for the groups would pass the checks and constraints. -/
structure Creatable (draw : FanoutDraw) (saleId : String) (groups : List ZoneGroup)
    (shop : FanoutShop) : Prop where
  sale : trim saleId ≠ ""
  items : ∀ group ∈ groups,
    trim (deriveKdsSummary (itemsOf setting shop group)).1 ≠ "" ∧
      0 < (deriveKdsSummary (itemsOf setting shop group)).2 ∧
      ∀ item ∈ itemsOf setting shop group, 0 < item.qty
  tickets : (shop.kitchen.tickets.rows.map ZoneTicket.key ++
    groups.map (fun group => draw.ticketId group.1)).Nodup
  lines : (shop.kitchen.lines.rows.map TicketLine.id ++ groups.flatMap (fun group =>
    (List.range group.2.length).map (draw.lineId group.1))).Nodup

/-- A replay that comes upon the sale's tickets does not find a line for the kitchen whose zone has
none of them and for which it can create one. -/
def KeepsZones (shop : FanoutShop) : FanoutEvent → Prop
  | .replay draw _ _ => saleTickets (saleCall saleId) shop ≠ [] →
    newZones setting (saleCall saleId) shop ≠ [] →
      ¬ Creatable setting draw saleId (newZones setting (saleCall saleId) shop) shop
  | .editZone _ _ => True

/-- `kds_line_items.kds_order_id REFERENCES kds_orders`. -/
def KitchenDb.Referenced (db : KitchenDb) : Prop :=
  ∀ line ∈ db.lines.rows, (db.tickets.find? line.kdsOrderId).isSome

end Claim

variable {setting : FanoutSetting} {draw : FanoutDraw} {call : FanoutCall} {shop shop' : FanoutShop}

theorem byZone_zones_nodup : ((byZone setting call shop).map Prod.fst).Nodup := by
  unfold byZone
  rw [List.map_map, show (Prod.fst ∘ fun zone => ((zone,
    (kdsLines setting call shop).filter (fun line => shop.zoneOf line = zone)) : ZoneGroup)) = id
      from rfl, List.map_id]
  exact (List.perm_insertionSort _ _).nodup_iff.mpr (List.nodup_dedup _)

variable {group : ZoneGroup}

theorem mem_byZone (h : group ∈ byZone setting call shop) : group.2 ≠ [] := by
  obtain ⟨zone, hzone, rfl⟩ := List.mem_map.mp h
  rw [List.mem_insertionSort, List.mem_dedup] at hzone
  obtain ⟨line, hline, hkey⟩ := List.mem_map.mp hzone
  intro hnil
  have hmem : line ∈ (kdsLines setting call shop).filter (fun line => shop.zoneOf line = zone) :=
    List.mem_filter.mpr ⟨hline, by simp [hkey]⟩
  rw [show (kdsLines setting call shop).filter (fun line => shop.zoneOf line = zone) = [] from
    hnil] at hmem
  cases hmem

theorem byZone_perm : ((byZone setting call shop).flatMap Prod.snd).Perm
    (kdsLines setting call shop) := by
  unfold byZone
  rw [List.flatMap_map]
  refine Grouping.groups_perm shop.zoneOf ?_ (fun line hline => ?_)
  · exact (List.perm_insertionSort _ _).nodup_iff.mpr (List.nodup_dedup _)
  · rw [List.mem_insertionSort, List.mem_dedup]
    exact List.mem_map_of_mem hline

theorem newZones_fresh : ((newZones setting call shop).map Prod.fst).Nodup ∧
    ∀ group ∈ newZones setting call shop, group.1 ∉ existingZones call shop ∧ group.2 ≠ [] := by
  constructor
  · exact byZone_zones_nodup.sublist (List.filter_sublist.map _)
  · intro group hgroup
    obtain ⟨hmem, hnew⟩ := List.mem_filter.mp hgroup
    refine ⟨?_, mem_byZone hmem⟩
    simpa using hnew

theorem newZones_of_none (h : saleTickets call shop = []) :
    newZones setting call shop = byZone setting call shop := by
  unfold newZones existingZones
  rw [h]
  simp

def zoneRows (setting : FanoutSetting) (draw : FanoutDraw) (shop : FanoutShop)
    (group : ZoneGroup) : List TicketLine :=
  linesOf (draw.items group.1) (draw.ticketId group.1) 0
    ((itemsOf setting shop group).map (fun item => (item, ItemState.fresh)))

theorem zoneRows_ids (group : ZoneGroup) : (zoneRows setting draw shop group).map TicketLine.id =
    (List.range group.2.length).map (draw.lineId group.1) := by
  unfold zoneRows
  rw [KitchenDb.linesOf_ids, List.range_eq_range']
  simp [itemsOf, FanoutDraw.items]

theorem linesOf_items {items : ItemsDraw} {orderId : String} (position : Nat)
    (inputs : List CreateKdsLineItemInput) :
    (linesOf items orderId position (inputs.map (fun item => (item, ItemState.fresh)))).map
      TicketLine.toCreateKdsLineItemInput = inputs := by
  induction inputs generalizing position with
  | nil => rfl
  | cons item rest ih =>
    rw [List.map_cons, linesOf, List.map_cons, ih]
    rfl

theorem zoneRows_items (group : ZoneGroup) : (zoneRows setting draw shop group).map
    TicketLine.toCreateKdsLineItemInput = itemsOf setting shop group :=
  linesOf_items 0 _

theorem zoneRows_orderId {line : TicketLine}
    (h : line ∈ zoneRows setting draw shop group) : line.kdsOrderId = draw.ticketId group.1 :=
  (KitchenDb.mem_linesOf h).1

theorem checkOrder_ok_iff (saleId summary : String) (count : Int) :
    checkOrder saleId summary count = .ok () ↔ trim saleId ≠ "" ∧ trim summary ≠ "" ∧ 0 < count := by
  unfold checkOrder
  by_cases hsale : trim saleId = ""
  · simp [hsale]
  · by_cases hsummary : trim summary = ""
    · simp [hsale, hsummary]
    · by_cases hcount : count ≤ 0
      · simp [hsale, hsummary, hcount]
      · simp only [hsale, hsummary, hcount, if_false, ne_eq, not_false_iff, true_and, true_iff]
        omega

theorem insertTicket_ok {db db' : KitchenDb} {t : ZoneTicket} (h : db.insertTicket t = .ok db') :
    db'.lines = db.lines ∧ db'.tickets.rows = db.tickets.rows ++ [t] := by
  unfold KitchenDb.insertTicket at h
  split at h
  · cases h
  · split at h
    · cases h
    · rename_i tickets hinsert
      cases h
      exact ⟨rfl, Table.insert?_rows hinsert⟩

theorem insertTicket_isOk_iff {db : KitchenDb} {t : ZoneTicket}
    (hzone : ∀ other ∈ db.tickets.rows, other.saleId = t.saleId →
      other.kitchenZone ≠ t.kitchenZone) :
    (∃ db', db.insertTicket t = .ok db') ↔ t.id ∉ db.tickets.rows.map ZoneTicket.key := by
  have hfree : ¬ (t.kitchenZone.isSome = true ∧ db.tickets.rows.any (fun other =>
      other.saleId = t.saleId && other.kitchenZone = t.kitchenZone) = true) := by
    rintro ⟨-, hany⟩
    obtain ⟨other, hother, hboth⟩ := List.any_eq_true.mp hany
    simp only [Bool.and_eq_true, decide_eq_true_eq] at hboth
    exact hzone other hother hboth.1 hboth.2
  have hinsert := Table.insert?_isSome_iff db.tickets t
  rw [Table.find?_eq_none_iff] at hinsert
  unfold KitchenDb.insertTicket
  rw [if_neg hfree, List.mem_map]
  cases htickets : db.tickets.insert? t with
  | none =>
    rw [htickets] at hinsert
    refine ⟨fun ⟨_, h⟩ => ?_, fun h => ?_⟩
    · cases h
    · have hsome := hinsert.mpr (fun s hs hkey => h ⟨s, hs, hkey⟩)
      cases hsome
  | some tickets =>
    rw [htickets] at hinsert
    refine ⟨fun _ ⟨s, hs, hkey⟩ => ?_, fun _ => ⟨_, rfl⟩⟩
    exact hinsert.mp rfl s hs hkey

theorem createZone_ok (h : createZone setting draw call shop group = .ok shop') :
    shop'.products = shop.products ∧
      shop'.kitchen.tickets.rows =
        shop.kitchen.tickets.rows ++ [ticketOf setting draw call shop group] ∧
      shop'.kitchen.lines.rows =
        shop.kitchen.lines.rows ++ zoneRows setting draw shop group := by
  obtain ⟨created, hcreate, hlines⟩ := Except.of_bind h
  obtain ⟨-, -, hticket⟩ := Except.of_bind hcreate
  obtain ⟨kitchen, hinsert, rfl⟩ := Except.of_map hticket
  obtain ⟨kitchen', hrows, rfl⟩ := Except.of_map hlines
  obtain ⟨hsame, htickets⟩ := insertTicket_ok hinsert
  obtain ⟨hkept, hnew⟩ := KitchenDb.insertLines_ok hrows
  refine ⟨rfl, ?_, ?_⟩
  · show kitchen'.tickets.rows = _
    rw [hkept]
    exact htickets
  · show kitchen'.lines.rows = _
    rw [hnew]
    show kitchen.lines.rows ++ _ = _
    rw [hsame]
    rfl

theorem createZone_isOk_iff {group : ZoneGroup} (hzone : group.1 ∉ existingZones call shop) :
    (∃ shop', createZone setting draw call shop group = .ok shop') ↔
      Creatable setting draw call.saleId [group] shop := by
  have hunused : ∀ other ∈ shop.kitchen.tickets.rows, other.saleId = call.saleId →
      other.kitchenZone ≠ group.1 := by
    intro other hother hsale hsame
    exact hzone (List.mem_map.mpr ⟨other, List.mem_filter.mpr ⟨hother, by simp [hsale]⟩, hsame⟩)
  have hticket := @insertTicket_isOk_iff shop.kitchen (ticketOf setting draw call shop group) hunused
  have hids := @zoneRows_ids setting draw shop group
  constructor
  · rintro ⟨shop', h⟩
    obtain ⟨created, hcreate, hlines⟩ := Except.of_bind h
    obtain ⟨_, hcheck, hticket'⟩ := Except.of_bind hcreate
    obtain ⟨kitchen, hinsert, rfl⟩ := Except.of_map hticket'
    obtain ⟨kitchen', hrows, -⟩ := Except.of_map hlines
    obtain ⟨hsale, hsummary, hcount⟩ := (checkOrder_ok_iff _ _ _).mp hcheck
    obtain ⟨hsame, -⟩ := insertTicket_ok hinsert
    obtain ⟨hqty, hnodup⟩ := (KitchenDb.insertLines_isOk_iff _).mp ⟨_, hrows⟩
    refine ⟨hsale, List.forall_mem_singleton.mpr ⟨hsummary, hcount, fun item hitem => ?_⟩, ?_, ?_⟩
    · have hmem : (item, ItemState.fresh) ∈
          (itemsOf setting shop group).map (fun item => (item, ItemState.fresh)) :=
        List.mem_map_of_mem hitem
      obtain ⟨line, hline, hsame, -⟩ := KitchenDb.linesOf_mem hmem
      rw [← hsame]
      exact (hqty line hline).1
    · rw [List.map_singleton, ← List.concat_eq_append, List.nodup_concat]
      exact ⟨hticket.mp ⟨_, hinsert⟩, shop.kitchen.tickets.unique⟩
    · rw [List.flatMap_singleton, ← hids, ← hsame]
      exact hnodup
  · intro h
    obtain ⟨hsummary, hcount, hqty⟩ := h.items group List.mem_cons_self
    have hfresh : draw.ticketId group.1 ∉ shop.kitchen.tickets.rows.map ZoneTicket.key := by
      have hnodup := h.tickets
      rw [List.map_singleton, ← List.concat_eq_append, List.nodup_concat] at hnodup
      exact hnodup.1
    obtain ⟨kitchen, hinsert⟩ := hticket.mpr hfresh
    obtain ⟨hsame, htickets⟩ := insertTicket_ok hinsert
    have hrows : ∃ kitchen', KitchenDb.insertLines (zoneRows setting draw shop group) kitchen =
        .ok kitchen' := by
      refine (KitchenDb.insertLines_isOk_iff _).mpr ⟨fun line hline => ⟨?_, ?_⟩, ?_⟩
      · have hmem := (KitchenDb.mem_linesOf hline).2
        obtain ⟨item, hitem, heq⟩ := List.mem_map.mp hmem
        rw [← (Prod.mk.inj heq).1]
        exact hqty item hitem
      · rw [zoneRows_orderId hline, Table.isSome_find?_iff, htickets]
        exact ⟨_, List.mem_append_right _ List.mem_cons_self, rfl⟩
      · have hnodup := h.lines
        rw [List.flatMap_singleton, ← hids, ← hsame] at hnodup
        exact hnodup
    obtain ⟨kitchen', hrows⟩ := hrows
    refine ⟨_, Except.bind_ok_iff.mpr ⟨_, Except.bind_ok_iff.mpr ⟨(),
      (checkOrder_ok_iff _ _ _).mpr ⟨h.sale, hsummary, hcount⟩,
      Except.map_ok_iff.mpr ⟨kitchen, hinsert, rfl⟩⟩, Except.map_ok_iff.mpr ⟨kitchen', hrows, rfl⟩⟩⟩

theorem itemsOf_congr (h : shop'.products = shop.products) (group : ZoneGroup) :
    itemsOf setting shop' group = itemsOf setting shop group := by
  unfold itemsOf itemOf FanoutShop.productNameBySku
  rw [h]

theorem zoneRows_congr (h : shop'.products = shop.products) (group : ZoneGroup) :
    zoneRows setting draw shop' group = zoneRows setting draw shop group := by
  unfold zoneRows
  rw [itemsOf_congr h]

variable {groups : List ZoneGroup}

theorem createZones_ok (h : createZones setting draw call groups shop = .ok shop') :
    shop'.products = shop.products ∧
      (∃ tickets, shop'.kitchen.tickets.rows = shop.kitchen.tickets.rows ++ tickets ∧
        tickets.map ZoneTicket.key = groups.map (fun group => draw.ticketId group.1) ∧
        ∀ t ∈ tickets, t.saleId = call.saleId) ∧
      shop'.kitchen.lines.rows =
        shop.kitchen.lines.rows ++ groups.flatMap (zoneRows setting draw shop) := by
  induction groups generalizing shop with
  | nil =>
    cases h
    exact ⟨rfl, ⟨[], by simp, rfl, by simp⟩, by simp⟩
  | cons group rest ih =>
    obtain ⟨shop₁, hhere, hlater⟩ := Except.of_bind h
    obtain ⟨hproducts, htickets, hrows⟩ := createZone_ok hhere
    obtain ⟨hproducts', ⟨tickets, htickets', hkeys, hsales⟩, hrows'⟩ := ih hlater
    refine ⟨hproducts'.trans hproducts, ⟨ticketOf setting draw call shop group :: tickets, ?_, ?_,
      ?_⟩, ?_⟩
    · rw [htickets', htickets, List.append_assoc]
      rfl
    · rw [List.map_cons, List.map_cons, hkeys]
      rfl
    · exact List.forall_mem_cons.mpr ⟨rfl, hsales⟩
    · rw [hrows', hrows, List.append_assoc, List.flatMap_cons]
      congr 2
      exact List.flatMap_congr (fun other _ => zoneRows_congr hproducts other)

theorem existingZones_createZone (h : createZone setting draw call shop group = .ok shop') :
    existingZones call shop' = existingZones call shop ++ [group.1] := by
  obtain ⟨-, htickets, -⟩ := createZone_ok h
  unfold existingZones saleTickets
  rw [htickets, List.filter_append, List.map_append]
  congr 1
  rw [List.filter_cons_of_pos (by simp [ticketOf])]
  rfl

variable {saleId : String}

theorem Creatable.head {rest : List ZoneGroup}
    (h : Creatable setting draw saleId (group :: rest) shop) :
    Creatable setting draw saleId [group] shop := by
  refine ⟨h.sale, List.forall_mem_singleton.mpr (h.items group List.mem_cons_self), ?_, ?_⟩
  · have hids := h.tickets
    rw [List.map_cons, List.append_cons] at hids
    exact (List.nodup_append.mp hids).1
  · have hids := h.lines
    rw [List.flatMap_cons, ← List.append_assoc] at hids
    rw [List.flatMap_singleton]
    exact (List.nodup_append.mp hids).1

theorem creatable_cons_iff {rest : List ZoneGroup} {shop₁ : FanoutShop}
    (h : createZone setting draw call shop group = .ok shop₁) :
    Creatable setting draw call.saleId (group :: rest) shop ↔
      Creatable setting draw call.saleId [group] shop ∧
        Creatable setting draw call.saleId rest shop₁ := by
  obtain ⟨hproducts, htickets, hrows⟩ := createZone_ok h
  have hkeys : shop₁.kitchen.tickets.rows.map ZoneTicket.key =
      shop.kitchen.tickets.rows.map ZoneTicket.key ++ [draw.ticketId group.1] := by
    rw [htickets, List.map_append]
    rfl
  have hids : shop₁.kitchen.lines.rows.map TicketLine.id =
      shop.kitchen.lines.rows.map TicketLine.id ++
        (List.range group.2.length).map (draw.lineId group.1) := by
    rw [hrows, List.map_append, zoneRows_ids]
  constructor
  · intro hall
    refine ⟨hall.head, ⟨hall.sale, fun other hother => ?_, ?_, ?_⟩⟩
    · rw [itemsOf_congr hproducts]
      exact hall.items other (List.mem_cons_of_mem _ hother)
    · rw [hkeys, List.append_assoc]
      exact hall.tickets
    · rw [hids, List.append_assoc]
      exact hall.lines
  · rintro ⟨hhere, hlater⟩
    refine ⟨hhere.sale, List.forall_mem_cons.mpr ⟨hhere.items group List.mem_cons_self,
      fun other hother => ?_⟩, ?_, ?_⟩
    · rw [← itemsOf_congr hproducts]
      exact hlater.items other hother
    · have hnodup := hlater.tickets
      rw [hkeys, List.append_assoc] at hnodup
      exact hnodup
    · have hnodup := hlater.lines
      rw [hids, List.append_assoc] at hnodup
      exact hnodup

theorem createZones_isOk_iff {groups : List ZoneGroup} (hnodup : (groups.map Prod.fst).Nodup)
    (hnew : ∀ group ∈ groups, group.1 ∉ existingZones call shop) (hsome : groups ≠ []) :
    (∃ shop', createZones setting draw call groups shop = .ok shop') ↔
      Creatable setting draw call.saleId groups shop := by
  induction groups generalizing shop with
  | nil => exact absurd rfl hsome
  | cons group rest ih =>
    obtain ⟨hzone, hnodup⟩ := List.nodup_cons.mp hnodup
    obtain ⟨hhere, hnew⟩ := List.forall_mem_cons.mp hnew
    have hfirst := @createZone_isOk_iff setting draw call shop group hhere
    have hnext : ∀ shop₁, createZone setting draw call shop group = .ok shop₁ →
        ((∃ shop', createZones setting draw call rest shop₁ = .ok shop') ↔
          Creatable setting draw call.saleId rest shop₁) := by
      intro shop₁ hcreate
      by_cases hrest : rest = []
      · subst hrest
        refine ⟨fun _ => ?_, fun _ => ⟨shop₁, rfl⟩⟩
        have hwhole := (creatable_cons_iff hcreate).mp (hfirst.mp ⟨_, hcreate⟩)
        exact hwhole.2
      · refine ih hnodup (fun other hother => ?_) hrest
        rw [existingZones_createZone hcreate, List.mem_append, not_or]
        refine ⟨hnew other hother, fun hsame => hzone ?_⟩
        rw [← List.mem_singleton.mp hsame]
        exact List.mem_map_of_mem hother
    constructor
    · rintro ⟨shop', h⟩
      obtain ⟨shop₁, hcreate, hlater⟩ := Except.of_bind h
      exact (creatable_cons_iff hcreate).mpr ⟨hfirst.mp ⟨_, hcreate⟩,
        (hnext shop₁ hcreate).mp ⟨_, hlater⟩⟩
    · intro h
      obtain ⟨shop₁, hcreate⟩ := hfirst.mpr h.head
      obtain ⟨shop', hlater⟩ := (hnext shop₁ hcreate).mpr ((creatable_cons_iff hcreate).mp h).2
      exact ⟨shop', Except.bind_ok_iff.mpr ⟨shop₁, hcreate, hlater⟩⟩

theorem saleTickets_created (h : createZones setting draw call groups shop = .ok shop') :
    ∃ tickets, saleTickets call shop' = saleTickets call shop ++ tickets ∧
      tickets.map ZoneTicket.key = groups.map (fun group => draw.ticketId group.1) := by
  obtain ⟨-, ⟨tickets, htickets, hkeys, hsales⟩, -⟩ := createZones_ok h
  refine ⟨tickets, ?_, hkeys⟩
  unfold saleTickets
  rw [htickets, List.filter_append]
  congr 1
  rw [List.filter_eq_self]
  intro t ht
  simp [hsales t ht]

theorem kdsLines_congr (h : ∀ sku, shop'.productTypeBySku sku = shop.productTypeBySku sku) :
    kdsLines setting call shop' = kdsLines setting call shop := by
  unfold kdsLines FanoutShop.kitchenLine
  simp only [h]

theorem kdsLines_of_products (h : shop'.products = shop.products) :
    kdsLines setting call shop' = kdsLines setting call shop := by
  apply kdsLines_congr
  intro sku
  unfold FanoutShop.productTypeBySku
  rw [h]

theorem rows_of_group {rows : List TicketLine}
    (hids : (groups.map (fun group => draw.ticketId group.1)).Nodup)
    (hold : ∀ line ∈ rows, line.kdsOrderId ∉ groups.map (fun group => draw.ticketId group.1)) (hgroup : group ∈ groups) :
    (rows ++ groups.flatMap (zoneRows setting draw shop)).filter (fun line =>
      line.kdsOrderId = draw.ticketId group.1) = zoneRows setting draw shop group := by
  induction groups generalizing rows with
  | nil => cases hgroup
  | cons first rest ih =>
    obtain ⟨hfirst, hids⟩ := List.nodup_cons.mp hids
    rw [List.flatMap_cons, ← List.append_assoc]
    rcases List.mem_cons.mp hgroup with rfl | hmem
    · rw [List.filter_append, List.filter_append]
      have hnone : rows.filter (fun line => line.kdsOrderId = draw.ticketId group.1) = [] := by
        rw [List.filter_eq_nil_iff]
        intro line hline hid
        exact hold line hline (by simp [of_decide_eq_true hid])
      have hall : (zoneRows setting draw shop group).filter (fun line =>
          line.kdsOrderId = draw.ticketId group.1) = zoneRows setting draw shop group := by
        rw [List.filter_eq_self]
        intro line hline
        simp [zoneRows_orderId hline]
      have hothers : (rest.flatMap (zoneRows setting draw shop)).filter (fun line =>
          line.kdsOrderId = draw.ticketId group.1) = [] := by
        rw [List.filter_eq_nil_iff]
        intro line hline hid
        obtain ⟨other, hother, hmem⟩ := List.mem_flatMap.mp hline
        have hsame : draw.ticketId other.1 = draw.ticketId group.1 :=
          (zoneRows_orderId hmem).symm.trans (of_decide_eq_true hid)
        exact hfirst (List.mem_map.mpr ⟨other, hother, hsame⟩)
      rw [hnone, hall, hothers, List.nil_append, List.append_nil]
    · refine ih hids (fun line hline => ?_) hmem
      rcases List.mem_append.mp hline with hrow | hrow
      · exact fun hid => hold line hrow (List.mem_cons_of_mem _ hid)
      · rw [zoneRows_orderId hrow]
        exact hfirst

theorem fannedOut_created (href : shop.kitchen.Referenced) (hnone : saleTickets call shop = [])
    (hcreatable : Creatable setting draw call.saleId (byZone setting call shop) shop)
    (h : createZones setting draw call (byZone setting call shop) shop = .ok shop') :
    FannedOut setting call shop' := by
  obtain ⟨tickets, hsale, hkeys⟩ := saleTickets_created h
  obtain ⟨hproducts, -, hrows⟩ := createZones_ok h
  obtain ⟨-, hids, hapart⟩ := List.nodup_append.mp hcreatable.tickets
  have hlength : tickets.length = (byZone setting call shop).length := by
    simpa using congrArg List.length hkeys
  refine ⟨tickets.zip ((byZone setting call shop).map Prod.snd), ?_, ?_, ?_⟩
  · rw [hsale, hnone, List.nil_append, List.map_fst_zip (by simp [hlength])]
  · rw [kdsLines_of_products hproducts, List.flatMap_def, List.map_snd_zip (by simp [hlength]),
      ← List.flatMap_def]
    exact byZone_perm
  · intro part hpart
    obtain ⟨i, hi, rfl⟩ := List.mem_iff_getElem.mp hpart
    rw [List.length_zip, List.length_map] at hi
    have hgroup : (byZone setting call shop)[i] ∈ byZone setting call shop := List.getElem_mem _
    have hkey : tickets[i].id = draw.ticketId (byZone setting call shop)[i].1 := by
      have hget := congrArg (fun keys => keys[i]?) hkeys
      simp only [List.getElem?_map] at hget
      rw [List.getElem?_eq_getElem (by omega), List.getElem?_eq_getElem (by omega)] at hget
      exact Option.some.inj hget
    have hold : ∀ line ∈ shop.kitchen.lines.rows, line.kdsOrderId ∉
        (byZone setting call shop).map (fun group => draw.ticketId group.1) := by
      intro line hline hmem
      obtain ⟨t, ht, hid⟩ := (Table.isSome_find?_iff _ _).mp (href line hline)
      exact hapart _ (List.mem_map_of_mem ht) _ hmem hid
    rw [List.getElem_zip]
    simp only [List.getElem_map]
    rw [hkey, hrows, rows_of_group hids hold hgroup, zoneRows_items, itemsOf]
    exact List.map_congr_left (fun line _ => by
      unfold itemOf FanoutShop.productNameBySku
      rw [hproducts])

def rowsSent (call : FanoutCall) (shop : FanoutShop) : Nat :=
  ((saleTickets call shop).map (fun t =>
    (shop.kitchen.lines.rows.filter (fun line => line.kdsOrderId = t.id)).length)).sum

theorem FannedOut.rowsSent (h : FannedOut setting call shop) :
    rowsSent call shop = (kdsLines setting call shop).length := by
  obtain ⟨parts, htickets, hperm, hrows⟩ := h
  rw [← hperm.length_eq, List.length_flatMap, OzPos.rowsSent, ← htickets, List.map_map]
  congr 1
  apply List.map_congr_left
  intro part hpart
  have hlength := congrArg List.length (hrows part hpart)
  rwa [List.length_map, List.length_map] at hlength

theorem rowsSent_created (hsome : groups ≠ []) (hlines : ∀ group ∈ groups, group.2 ≠ [])
    (h : createZones setting draw call groups shop = .ok shop') :
    rowsSent call shop < rowsSent call shop' := by
  obtain ⟨tickets, hsale, hkeys⟩ := saleTickets_created h
  obtain ⟨-, -, hrows⟩ := createZones_ok h
  have hmore : ∀ id : String, (shop.kitchen.lines.rows.filter (fun line =>
      line.kdsOrderId = id)).length ≤ (shop'.kitchen.lines.rows.filter (fun line =>
        line.kdsOrderId = id)).length := by
    intro id
    rw [hrows, List.filter_append, List.length_append]
    omega
  have hnew : ∀ t ∈ tickets, 1 ≤ (shop'.kitchen.lines.rows.filter (fun line =>
      line.kdsOrderId = t.id)).length := by
    intro t ht
    have hkey : t.id ∈ groups.map (fun group => draw.ticketId group.1) := by
      rw [← hkeys]
      exact List.mem_map_of_mem ht
    obtain ⟨group, hgroup, hid⟩ := List.mem_map.mp hkey
    have hlength : (zoneRows setting draw shop group).length = group.2.length := by
      have hids := congrArg List.length (@zoneRows_ids setting draw shop group)
      simpa using hids
    have hpos := List.length_pos_iff.mpr (hlines group hgroup)
    obtain ⟨line, hline⟩ := List.exists_mem_of_length_pos (hlength ▸ hpos)
    have hmem : line ∈ shop'.kitchen.lines.rows.filter (fun line => line.kdsOrderId = t.id) := by
      rw [hrows, List.mem_filter]
      refine ⟨List.mem_append_right _ (List.mem_flatMap.mpr ⟨group, hgroup, hline⟩), ?_⟩
      simp [zoneRows_orderId hline, hid]
    exact List.length_pos_of_mem hmem
  have hcount : 0 < tickets.length := by
    have hlength : tickets.length = groups.length := by
      simpa using congrArg List.length hkeys
    rw [hlength]
    exact List.length_pos_iff.mpr hsome
  unfold rowsSent
  rw [hsale, List.map_append, List.sum_append]
  have hold : ((saleTickets call shop).map (fun t =>
      (shop.kitchen.lines.rows.filter (fun line => line.kdsOrderId = t.id)).length)).sum ≤
      ((saleTickets call shop).map (fun t =>
        (shop'.kitchen.lines.rows.filter (fun line => line.kdsOrderId = t.id)).length)).sum :=
    List.sum_le_sum (fun t _ => hmore t.id)
  have hones := List.length_le_sum_of_one_le (tickets.map (fun t =>
      (shop'.kitchen.lines.rows.filter (fun line => line.kdsOrderId = t.id)).length)) (by
    intro n hn
    obtain ⟨t, ht, rfl⟩ := List.mem_map.mp hn
    exact hnew t ht)
  rw [List.length_map] at hones
  omega

theorem createZones_referenced (href : shop.kitchen.Referenced)
    (h : createZones setting draw call groups shop = .ok shop') : shop'.kitchen.Referenced := by
  obtain ⟨-, ⟨tickets, htickets, hkeys, -⟩, hrows⟩ := createZones_ok h
  intro line hline
  rw [Table.isSome_find?_iff, htickets]
  rw [hrows] at hline
  rcases List.mem_append.mp hline with hold | hnew
  · obtain ⟨t, ht, hid⟩ := (Table.isSome_find?_iff _ _).mp (href line hold)
    exact ⟨t, List.mem_append_left _ ht, hid⟩
  · obtain ⟨group, hgroup, hmem⟩ := List.mem_flatMap.mp hnew
    have hkey : draw.ticketId group.1 ∈ tickets.map ZoneTicket.key := by
      rw [hkeys]
      exact List.mem_map_of_mem hgroup
    obtain ⟨t, ht, hid⟩ := List.mem_map.mp hkey
    exact ⟨t, List.mem_append_right _ ht, hid.trans (zoneRows_orderId hmem).symm⟩

theorem newZones_of_no_lines (h : kdsLines setting call shop = []) :
    newZones setting call shop = [] := by
  unfold newZones byZone
  rw [h]
  rfl

theorem fanout_cases (setting : FanoutSetting) (draw : FanoutDraw) (call : FanoutCall)
    (shop : FanoutShop) :
    (newZones setting call shop = [] ∧
      (completeSaleToKdsFanout setting draw call shop).1 = shop) ∨
    (newZones setting call shop ≠ [] ∧
      ¬ Creatable setting draw call.saleId (newZones setting call shop) shop ∧
      (completeSaleToKdsFanout setting draw call shop).1 = shop ∧
      ∃ e, (completeSaleToKdsFanout setting draw call shop).2 = .error e) ∨
    (newZones setting call shop ≠ [] ∧
      Creatable setting draw call.saleId (newZones setting call shop) shop ∧
      createZones setting draw call (newZones setting call shop) shop =
        .ok (completeSaleToKdsFanout setting draw call shop).1 ∧
      ∃ tickets, (completeSaleToKdsFanout setting draw call shop).2 = .ok tickets) := by
  by_cases hzones : newZones setting call shop = []
  · refine .inl ⟨hzones, ?_⟩
    unfold completeSaleToKdsFanout
    cases setting.linesOf call.saleId with
    | none => rfl
    | some _ =>
      simp only [hzones, if_true]
      split
      · rfl
      · rfl
  · have hlines : kdsLines setting call shop ≠ [] := fun h => hzones (newZones_of_no_lines h)
    obtain ⟨hnodup, hnew⟩ := @newZones_fresh setting call shop
    have hiff := @createZones_isOk_iff setting draw call shop _ hnodup
      (fun group hgroup => (hnew group hgroup).1) hzones
    have hsale : ∃ lines, setting.linesOf call.saleId = some lines := by
      cases hsale : setting.linesOf call.saleId with
      | some lines => exact ⟨lines, rfl⟩
      | none =>
        unfold kdsLines at hlines
        rw [hsale] at hlines
        exact absurd rfl hlines
    obtain ⟨lines, hsale⟩ := hsale
    unfold completeSaleToKdsFanout
    simp only [hsale, hlines, hzones, if_false]
    cases hcreate : createZones setting draw call (newZones setting call shop) shop with
    | error e =>
      refine .inr (.inl ⟨hzones, fun h => ?_, rfl, e, rfl⟩)
      obtain ⟨created, hok⟩ := hiff.mpr h
      rw [hcreate] at hok
      cases hok
    | ok created => exact .inr (.inr ⟨hzones, hiff.mp ⟨_, hcreate⟩, rfl, _, rfl⟩)

/-- The sale has no ticket yet, or its tickets share out its lines. -/
structure FanoutSettled (setting : FanoutSetting) (saleId : String) (shop : FanoutShop) : Prop where
  referenced : shop.kitchen.Referenced
  once : saleTickets (saleCall saleId) shop = [] ∨ FannedOut setting (saleCall saleId) shop

structure StepOnce (setting : FanoutSetting) (saleId : String) (shop : FanoutShop)
    (e : FanoutEvent) : Prop where
  covered : ∀ draw storeId targets, e = .replay draw storeId targets →
    (∃ tickets, ((fanoutMachine setting saleId).step shop e).2 = .ok tickets) →
      FannedOut setting (saleCall saleId) ((fanoutMachine setting saleId).step shop e).1
  once : saleTickets (saleCall saleId) ((fanoutMachine setting saleId).step shop e).1 = [] ∨
    FannedOut setting (saleCall saleId) ((fanoutMachine setting saleId).step shop e).1

theorem fannedOut_of_no_lines (hnone : saleTickets call shop = [])
    (hlines : kdsLines setting call shop = []) : FannedOut setting call shop :=
  ⟨[], hnone.symm, by rw [hlines]; exact .refl _, by simp⟩

theorem FanoutSettled.fannedOut (h : FanoutSettled setting saleId shop)
    (hzones : newZones setting (saleCall saleId) shop = []) :
    FannedOut setting (saleCall saleId) shop := by
  rcases h.once with hnone | hcovered
  · rw [newZones_of_none hnone] at hzones
    refine fannedOut_of_no_lines hnone ?_
    have hperm := @byZone_perm setting (saleCall saleId) shop
    rw [hzones] at hperm
    exact hperm.symm.eq_nil
  · exact hcovered

variable (sku : String) (zone : Option String)

theorem editZone_lines :
    kdsLines setting call (shop.editZone sku zone) = kdsLines setting call shop := by
  apply kdsLines_congr
  intro other
  unfold FanoutShop.productTypeBySku FanoutShop.editZone
  rw [Table.find?_update shop.products sku (fun p => { p with kitchenZone := zone })
    (fun _ => rfl), Option.map_map]
  congr 1
  funext p
  simp only [Function.comp_apply]
  split
  · rfl
  · rfl

theorem editZone_item : itemOf setting (shop.editZone sku zone) = itemOf setting shop := by
  funext line
  unfold itemOf FanoutShop.productNameBySku FanoutShop.editZone
  rw [Table.find?_update shop.products sku (fun p => { p with kitchenZone := zone })
    (fun _ => rfl), Option.map_map]
  congr 3
  funext p
  simp only [Function.comp_apply]
  split
  · rfl
  · rfl

theorem fannedOut_editZone_iff :
    FannedOut setting call (shop.editZone sku zone) ↔ FannedOut setting call shop := by
  unfold FannedOut
  rw [editZone_lines, editZone_item]
  rfl

theorem sent_again (hsome : saleTickets call shop ≠ []) (hcovered : FannedOut setting call shop)
    (hzones : newZones setting call shop ≠ [])
    (h : createZones setting draw call (newZones setting call shop) shop = .ok shop') :
    ¬ (saleTickets call shop' = [] ∨ FannedOut setting call shop') := by
  have hmore := rowsSent_created hzones
    (fun group hgroup => ((@newZones_fresh setting call shop).2 group hgroup).2) h
  have hproducts := (createZones_ok h).1
  rintro (hnone | hcovered')
  · obtain ⟨tickets, hsale, -⟩ := saleTickets_created h
    rw [hsale] at hnone
    exact hsome (List.append_eq_nil_iff.mp hnone).1
  · have hrows := hcovered'.rowsSent
    rw [kdsLines_of_products hproducts, ← hcovered.rowsSent] at hrows
    omega

theorem step_once_iff (h : FanoutSettled setting saleId shop) (e : FanoutEvent) :
    StepOnce setting saleId shop e ↔ KeepsZones setting saleId shop e := by
  cases e with
  | editZone sku zone =>
    refine ⟨fun _ => trivial, fun _ => ⟨fun _ _ _ hreplay => ?_, ?_⟩⟩
    · cases hreplay
    · rcases h.once with hnone | hcovered
      · exact .inl hnone
      · exact .inr ((fannedOut_editZone_iff sku zone).mpr hcovered)
  | replay draw storeId targets =>
    have hcases := fanout_cases setting draw ⟨saleId, storeId, targets⟩ shop
    rcases hcases with ⟨hzones, hsame⟩ | ⟨hzones, hnot, hsame, error, herror⟩ |
      ⟨hzones, hcreatable, hcreate, -⟩
    · refine ⟨fun _ _ hsome => absurd hzones hsome, fun _ => ?_⟩
      have hcovered : FannedOut setting (saleCall saleId)
          ((fanoutMachine setting saleId).step shop (.replay draw storeId targets)).1 := by
        rw [show ((fanoutMachine setting saleId).step shop (.replay draw storeId targets)).1 = shop
          from hsame]
        exact h.fannedOut hzones
      exact ⟨fun _ _ _ _ _ => hcovered, .inr hcovered⟩
    · refine ⟨fun _ _ _ => hnot, fun _ => ⟨fun _ _ _ _ hok => ?_, ?_⟩⟩
      · obtain ⟨tickets, hok⟩ := hok
        cases herror.symm.trans hok
      · rw [show ((fanoutMachine setting saleId).step shop (.replay draw storeId targets)).1 = shop
          from hsame]
        exact h.once
    · by_cases hnone : saleTickets (saleCall saleId) shop = []
      · refine ⟨fun _ hsome => absurd hnone hsome, fun _ => ?_⟩
        have hall : newZones setting ⟨saleId, storeId, targets⟩ shop =
            byZone setting ⟨saleId, storeId, targets⟩ shop := newZones_of_none hnone
        rw [hall] at hcreatable hcreate
        have hcovered : FannedOut setting (saleCall saleId)
            ((fanoutMachine setting saleId).step shop (.replay draw storeId targets)).1 :=
          @fannedOut_created setting draw ⟨saleId, storeId, targets⟩ shop _ h.referenced hnone
            hcreatable hcreate
        exact ⟨fun _ _ _ _ _ => hcovered, .inr hcovered⟩
      · have hagain : ¬ (saleTickets (saleCall saleId)
            ((fanoutMachine setting saleId).step shop (.replay draw storeId targets)).1 = [] ∨
            FannedOut setting (saleCall saleId)
              ((fanoutMachine setting saleId).step shop (.replay draw storeId targets)).1) :=
          @sent_again setting draw ⟨saleId, storeId, targets⟩ shop _ hnone
            (h.once.resolve_left hnone) hzones hcreate
        exact ⟨fun hstep => absurd hstep.once hagain,
          fun hkeeps => absurd hcreatable (hkeeps hnone hzones)⟩

theorem step_settled (h : FanoutSettled setting saleId shop) {e : FanoutEvent}
    (hstep : StepOnce setting saleId shop e) :
    FanoutSettled setting saleId ((fanoutMachine setting saleId).step shop e).1 := by
  refine ⟨?_, hstep.once⟩
  cases e with
  | editZone sku zone => exact h.referenced
  | replay draw storeId targets =>
    rcases fanout_cases setting draw ⟨saleId, storeId, targets⟩ shop with ⟨-, hsame⟩ |
      ⟨-, -, hsame, -⟩ | ⟨-, -, hcreate, -⟩
    · rw [show ((fanoutMachine setting saleId).step shop (.replay draw storeId targets)).1 = shop
        from hsame]
      exact h.referenced
    · rw [show ((fanoutMachine setting saleId).step shop (.replay draw storeId targets)).1 = shop
        from hsame]
      exact h.referenced
    · exact createZones_referenced h.referenced hcreate

theorem fansOutOnce_along (events : List FanoutEvent)
    (hnone : saleTickets (saleCall saleId) shop = []) : FansOutOnce setting saleId shop events ↔
      (fanoutMachine setting saleId).Along (StepOnce setting saleId) shop events := by
  rw [Machine.along_iff_splits]
  constructor
  · intro h l e r hsplit
    refine ⟨fun draw storeId targets he hok => ?_, ?_⟩
    · subst he
      have hcovered := h.covered l draw storeId targets r hsplit hok
      rwa [Machine.run_append] at hcovered
    · have honce := h.once (l ++ [e]) r (by simp [hsplit])
      rwa [Machine.run_append] at honce
  · intro h
    constructor
    · intro l draw storeId targets r hsplit hok
      rw [Machine.run_append]
      exact (h l _ r hsplit).covered draw storeId targets rfl hok
    · intro l r hsplit
      rcases List.eq_nil_or_concat l with rfl | ⟨before, e, rfl⟩
      · exact .inl hnone
      · rw [List.concat_eq_append] at hsplit ⊢
        rw [Machine.run_append]
        exact (h before e r (by simp [hsplit])).once

def dinerSetting : FanoutSetting where
  linesOf saleId :=
    if saleId = "sale-1" then some [⟨"line-1", "SOUP", 1, none, none⟩, ⟨"line-2", "TEA", 2, none, none⟩]
    else none
  tableOf _ := none
  ticketPrefixOf _ := none
  readModifiers _ := none

def dinerShop : FanoutShop where
  products := (Table.empty.insertNew ⟨"SOUP", "Soup", "restaurant", some "grill"⟩).insertNew
    ⟨"TEA", "Tea", "both", none⟩
  kitchen := ⟨Table.empty, Table.empty⟩
  targets := []
  counters _ _ := 0

def dinerDraw (call : String) : FanoutDraw where
  now := "2026-01-01T12:00:00.000Z"
  today := "2026-01-01"
  ticketId zone := call ++ zone.getD ""
  lineId zone position := call ++ zone.getD "" ++ (if position = 0 then "a" else "b")

def paidTwice : List FanoutEvent :=
  [.replay (dinerDraw "x") none [], .replay (dinerDraw "y") none []]

/-- The soup moves to the bar between two calls: the bar gets a ticket of its own. -/
def movedBetween : List FanoutEvent :=
  [.replay (dinerDraw "x") none [], .editZone "SOUP" (some "bar"), .replay (dinerDraw "y") none []]

end OzPos
