import OzPos.Commerce.DoorsAgree

namespace OzPos

variable {κ : Type}

open DomainTables

section Payload

theorem SaleLinePayload.read_json {line : SaleLine} (h : FitsI64 line.qty) :
    SaleLinePayload.read (lineItemJson line) = some ⟨line.sku, line.qty⟩ := by
  simp [SaleLinePayload.read, lineItemJson, Json.body?, Json.Body.required, Json.Body.defaulted,
    Json.Body.field?, Json.asStr?, asI64?_int h]

theorem readLineItems_json {lines : List SaleLine} (h : ∀ line ∈ lines, FitsI64 line.qty) :
    (lines.map lineItemJson).mapM SaleLinePayload.read =
      some (lines.map (fun line => ⟨line.sku, line.qty⟩)) := by
  induction lines with
  | nil => rfl
  | cons line rest ih =>
    obtain ⟨hline, hrest⟩ := List.forall_mem_cons.mp h
    rw [List.map_cons, List.mapM_cons, SaleLinePayload.read_json hline, ih hrest]
    rfl

theorem SalePayload.read_json (sale : Sale) :
    SalePayload.read (saleJson sale) =
      some ⟨some sale.id, sale.lines.map (fun line => ⟨line.sku, line.qty⟩)⟩ := by
  simp [SalePayload.read, saleJson, Json.body?, Json.Body.defaulted, Json.Body.field?,
    Json.orNull, Json.asStr?, Json.list?, readLineItems_json sale.lines_fit]

end Payload

def skuUnits (d : DomainTables κ) (item : String) (line : SaleLine) : Int :=
  if d.productIdBySku line.sku = some item then line.qty else 0

/-- A replica that holds in all what it should of each product, as the originator's catalogue
names them. -/
structure HoldsTotals (d : DomainTables κ) (total : String → Int) (r : DomainTables κ) : Prop where
  catalogue : ∀ sku, (d.productIdBySku sku).isSome = (r.productIdBySku sku).isSome
  total : ∀ sku a b, d.productIdBySku sku = some a → r.productIdBySku sku = some b →
    r.onHand b = total a

structure LegacyReady (r : DomainTables κ) : Prop where
  location : canonicalDefaultLocation ∈ r.locations
  fits : ∀ item qty, r.inventoryQty item = some qty → qty < 2^63

section Replica

variable {d r r' : DomainTables κ} {total : String → Int}

theorem HoldsTotals.line (h : HoldsTotals d total r) (hready : LegacyReady r) {line : SaleLine}
    {a : String} (hqty : 0 < line.qty) (ha : d.productIdBySku line.sku = some a)
    (henough : line.qty ≤ total a)
    (hdefault : ∀ b, r.productIdBySku line.sku = some b → DefaultOnly r b) (now : String) :
    ∃ level r', r.adjustStockInTx now line.sku (-line.qty) = .ok (level, r') ∧
      HoldsTotals d (fun item => total item - skuUnits d item line) r' ∧ LegacyReady r' ∧
      StockOnly r r' ∧ ∀ item, DefaultOnly r item → DefaultOnly r' item := by
  have hsome := h.catalogue line.sku
  rw [ha, Option.isSome_some] at hsome
  obtain ⟨b, hb⟩ := Option.isSome_iff_exists.mp hsome.symm
  have hheld := h.total line.sku a b ha hb
  have honly := hdefault b hb
  have hlevel : r.onHand b < 2^63 := by
    rw [honly.total]
    cases hinventory : r.inventoryQty b with
    | none => decide
    | some qty => exact hready.fits b qty hinventory
  have hstock : InStock (r.onHand b + -line.qty) := by
    unfold InStock
    omega
  have hfits : Fits r ⟨b, canonicalDefaultLocation, -line.qty⟩ := by
    refine ⟨hready.location, ?_, .inr hstock⟩
    rw [honly.level, ← honly.total]
    exact hstock
  obtain ⟨⟨level, r'⟩, hadjust⟩ := adjustStockInTx_of_fits now hb honly hfits
  obtain ⟨b', hb', _, hmoved⟩ := adjustStockInTx_ok hdefault hadjust
  obtain rfl := Option.some.inj (hb.symm.trans hb')
  have hframe := hmoved.frame
  refine ⟨level, r', hadjust, ⟨?_, ?_⟩, ⟨?_, ?_⟩, hframe, ?_⟩
  · intro sku
    rw [hframe.productIdBySku]
    exact h.catalogue sku
  · intro sku i j hi hj
    rw [hframe.productIdBySku] at hj
    rw [hmoved.onHand, h.total sku i j hi hj, skuUnits, ha]
    have hsame : j = b ↔ a = i := by
      constructor
      · rintro rfl
        obtain rfl := productIdBySku_inj hj hb
        exact Option.some.inj (ha.symm.trans hi)
      · rintro rfl
        obtain rfl := productIdBySku_inj hi ha
        exact Option.some.inj (hj.symm.trans hb)
    by_cases hitem : a = i
    · rw [if_pos (hsame.mpr hitem), if_pos (congrArg some hitem)]
      simp only
      omega
    · rw [if_neg (fun hj => hitem (hsame.mp hj)), if_neg (fun hi => hitem (Option.some.inj hi))]
      omega
  · obtain ⟨_, _, _, hr'⟩ := hframe
    rw [hr']
    exact hready.location
  · intro item qty hqty
    rw [hmoved.inventory] at hqty
    split at hqty
    · obtain rfl := Option.some.inj hqty
      have hhigh := hstock.2
      simp only
      rw [honly.level, ← honly.total]
      simpa using hhigh
    · exact hready.fits item qty hqty
  · intro item hitem
    exact hitem.moved hmoved (fun _ => rfl)

theorem skuUnits_nonneg (d : DomainTables κ) (item : String) {lines : List SaleLine}
    (h : ∀ line ∈ lines, 0 < line.qty) : 0 ≤ (lines.map (skuUnits d item)).sum := by
  induction lines with
  | nil => exact Int.le_refl 0
  | cons line rest ih =>
    obtain ⟨hline, hrest⟩ := List.forall_mem_cons.mp h
    have hlater := ih hrest
    rw [List.map_cons, List.sum_cons, skuUnits]
    split <;> omega

theorem HoldsTotals.lines (h : HoldsTotals d total r) (hready : LegacyReady r)
    {lines : List SaleLine} (hqty : ∀ line ∈ lines, 0 < line.qty)
    (hknown : ∀ line ∈ lines, ∃ a, d.productIdBySku line.sku = some a ∧
      (lines.map (skuUnits d a)).sum ≤ total a)
    (hdefault : ∀ line ∈ lines, ∀ b, r.productIdBySku line.sku = some b → DefaultOnly r b)
    (now : String) :
    ∃ r', r.deductLines now (lines.map (fun line => ⟨line.sku, line.qty⟩)) = .ok r' ∧
      HoldsTotals d (fun item => total item - (lines.map (skuUnits d item)).sum) r' ∧
      LegacyReady r' ∧ StockOnly r r' ∧ ∀ item, DefaultOnly r item → DefaultOnly r' item := by
  induction lines generalizing r total with
  | nil => exact ⟨r, rfl, by simpa using h, hready, StockOnly.refl r, fun _ hitem => hitem⟩
  | cons line rest ih =>
    obtain ⟨hline, hrest⟩ := List.forall_mem_cons.mp hqty
    obtain ⟨⟨a, ha, henough⟩, hknownRest⟩ := List.forall_mem_cons.mp hknown
    obtain ⟨hat, hats⟩ := List.forall_mem_cons.mp hdefault
    have hhere : skuUnits d a line = line.qty := if_pos ha
    have hlater := skuUnits_nonneg d a hrest
    rw [List.map_cons, List.sum_cons, hhere] at henough
    obtain ⟨level, r₁, hadjust, htotals, hready₁, hframe, hkept⟩ :=
      h.line hready hline ha (by omega) hat now
    obtain ⟨r', hdeduct, htotals', hready', hframe', hkept'⟩ := ih htotals hready₁ hrest (by
        intro other hother
        obtain ⟨i, hi, hsum⟩ := hknownRest other hother
        rw [List.map_cons, List.sum_cons] at hsum
        exact ⟨i, hi, by omega⟩) (by
        intro other hother b hb
        rw [hframe.productIdBySku] at hb
        exact hkept b (hats other hother b hb))
    refine ⟨r', ?_, ?_, hready', hframe.trans hframe', fun item hitem => hkept' item
      (hkept item hitem)⟩
    · rw [List.map_cons, deductLines]
      simp only [hadjust]
      exact hdeduct
    · have hsums : (fun item => total item - ((line :: rest).map (skuUnits d item)).sum) =
          fun item => total item - skuUnits d item line - (rest.map (skuUnits d item)).sum := by
        funext item
        rw [List.map_cons, List.sum_cons]
        omega
      rw [hsums]
      exact htotals'

theorem HoldsTotals.applies (h : HoldsTotals d total r) (hready : LegacyReady r) {sale : Sale}
    (hqty : ∀ line ∈ sale.lines, 0 < line.qty)
    (hknown : ∀ line ∈ sale.lines, ∃ a, d.productIdBySku line.sku = some a ∧
      (sale.lines.map (skuUnits d a)).sum ≤ total a)
    (hdefault : ∀ line ∈ sale.lines, ∀ b, r.productIdBySku line.sku = some b → DefaultOnly r b)
    (hforeign : r.saleCompletedHere sale.id = false) (crm : Crm κ) (draw : CheckoutDraw)
    (applyDraw : ApplyDraw) (terminal : Option String) :
    ∃ r', applyRemoteInTx crm applyDraw (saleOutboxRow draw sale terminal) r = .ok r' ∧
      HoldsTotals d (fun item => total item - (sale.lines.map (skuUnits d item)).sum) r' ∧
      LegacyReady r' ∧ StockOnly r r' ∧ ∀ item, DefaultOnly r item → DefaultOnly r' item := by
  obtain ⟨r', hdeduct, hrest⟩ := h.lines hready hqty hknown hdefault applyDraw.now
  refine ⟨r', ?_, hrest⟩
  have haction : remoteAction "complete_sale" = .completeSale := by decide
  have hparsed : parsed "invalid sale payload" SalePayload.read (.json (saleJson sale)) =
      .ok ⟨some sale.id, sale.lines.map (fun line => ⟨line.sku, line.qty⟩)⟩ := by
    simp [parsed, Payload.doc?, SalePayload.read_json]
  unfold applyRemoteInTx saleOutboxRow
  simp only [newQueueItem, haction, hparsed, Except.bind]
  simp only [applyCompleteSale, Option.any_some, hforeign]
  exact hdeduct

end Replica

inductive SaleEvent where
  | checkout (settings : CheckoutSettings) (draw : CheckoutDraw) (call : CheckoutCall)
    (sale : Sale)
  | retry (settings : CheckoutSettings) (draw : CheckoutDraw) (call : CheckoutCall)
    (primary : String) (resolutions : List ResolvedShortfall) (sale : Sale)
  | finalize (now saleId : String)
  | void (now saleId : String)
  | reap (expiresAt : String → Option String) (now : String)

variable (crm : Crm κ) (db : SalesDb κ)

def SaleEvent.act : SaleEvent → SalesDb κ
  | .checkout settings draw call sale =>
    match completeSaleDeductionWithLocations settings draw call sale db with
    | .ok (db, _) => db
    | .error _ => db
  | .retry settings draw call primary resolutions sale =>
    match completeSaleWithResolvedShortfalls crm settings draw call primary resolutions sale db with
    | .ok (db, _) => db
    | .error _ => db
  | .finalize now saleId => finalizeSale crm now saleId db
  | .void now saleId =>
    match voidPendingSale now saleId db with
    | .ok db => db
    | .error _ => db
  | .reap expiresAt now => (reapStalePendingSales expiresAt now db).1

def saleMachine : Machine (SalesDb κ) SaleEvent Unit :=
  ⟨fun db e => (e.act crm db, ())⟩

def applyAll (crm : Crm κ) (draws : OfflineQueueItem → ApplyDraw) :
    List OfflineQueueItem → DomainTables κ → Except CoreError (DomainTables κ)
  | [], r => .ok r
  | item :: rest, r => (applyRemoteInTx crm (draws item) item r).bind (applyAll crm draws rest)

/-- The outbox row deducts lines of the sale where it is applied. -/
def DeductsFor (item : OfflineQueueItem) (saleId : String) : Prop :=
  remoteAction item.action = .completeSale ∧
    ∃ p, parsed "invalid sale payload" SalePayload.read item.payload = .ok p ∧
      p.saleId = some saleId ∧ p.lineItems ≠ []

def saleRecord (saleId : String) : List Json :=
  ((db.terms saleId).deductionLocations.map recordedLines).getD []

def PutsBackNothing (saleId : String) : Prop :=
  (db.domain.sales.find? saleId).any (fun sale => sale.status = "pending") = true →
    saleRecord db saleId = []

/-- Plain lines only, of products that are at the default location only and of which enough is on
hand. -/
def SoldFromDefault (settings : CheckoutSettings) (d : DomainTables κ) (lines : List SaleLine) :
    Prop :=
  ∀ line ∈ lines, PlainLine settings d line ∧ ∀ item, d.productIdBySku line.sku = some item →
    DefaultOnly d item ∧ d.soldUnits settings lines item ≤ d.onHand item

/-- An accepted checkout sells from the default location, without negative allocations; and no
void puts anything back. -/
def Replicable : SaleEvent → Prop
  | .checkout settings draw call sale =>
    ∀ db' result, completeSaleDeductionWithLocations settings draw call sale db =
      .ok (db', result) → SoldFromDefault settings db.domain sale.lines
  | .retry settings draw call primary resolutions sale =>
    ∀ db' result, completeSaleWithResolvedShortfalls crm settings draw call primary resolutions
      sale db = .ok (db', result) → SoldFromDefault settings db.domain sale.lines ∧
        ∀ line ∈ sale.lines, ∀ r, resolutionFor resolutions line.sku = some r →
          ∀ a ∈ r.allocations, 0 ≤ a.qty
  | .finalize _ _ => True
  | .void _ saleId => PutsBackNothing db saleId
  | .reap expiresAt now => ∀ saleId ∈ findStalePendingSales expiresAt now db,
      PutsBackNothing db saleId

/-- The replica `r`, which has applied what the originator sent since the start, is in step. -/
structure InStep (crm : Crm κ) (draws : OfflineQueueItem → ApplyDraw) (start : SalesDb κ)
    (b : DomainTables κ) (db : SalesDb κ) (sent : List OfflineQueueItem) (r : DomainTables κ) :
    Prop where
  queue : db.queue.rows = start.queue.rows ++ sent
  applied : applyAll crm draws sent b = .ok r
  totals : HoldsTotals db.domain db.domain.onHand r
  ready : LegacyReady r
  frame : StockOnly b r
  atDefault : ∀ sku i j, db.domain.productIdBySku sku = some i → r.productIdBySku sku = some j →
    DefaultOnly db.domain i → DefaultOnly r j
  skus : db.domain.SkusDistinct
  voided : ∀ row ∈ db.domain.sales.rows, row.status = "voided" →
    ∀ item ∈ sent, ¬ DeductsFor item row.id
  recorded : ∀ item ∈ sent, ∀ saleId, DeductsFor item saleId →
    (db.domain.sales.find? saleId).isSome = true ∧ saleRecord db saleId ≠ []

theorem applyAll_append {crm : Crm κ} {draws : OfflineQueueItem → ApplyDraw}
    {l m : List OfflineQueueItem} {b r r' : DomainTables κ} (hl : applyAll crm draws l b = .ok r)
    (hm : applyAll crm draws m r = .ok r') : applyAll crm draws (l ++ m) b = .ok r' := by
  induction l generalizing b with
  | nil =>
    cases hl
    exact hm
  | cons item rest ih =>
    obtain ⟨b₁, hitem, hrest⟩ := Except.of_bind hl
    exact Except.bind_ok_iff.mpr ⟨b₁, hitem, ih hrest⟩

section Step

variable {crm : Crm κ} {draws : OfflineQueueItem → ApplyDraw} {start db : SalesDb κ}
  {b r : DomainTables κ} {sent : List OfflineQueueItem}

variable {db' : SalesDb κ}

theorem InStep.of_sales (h : InStep crm draws start b db sent r)
    (hproducts : db'.domain.products = db.domain.products)
    (hinventory : db'.domain.inventory = db.domain.inventory)
    (hsummary : db'.domain.stockSummary = db.domain.stockSummary)
    (hqueue : db'.queue = db.queue) (hterms : db'.terms = db.terms)
    (hfound : ∀ saleId, (db'.domain.sales.find? saleId).isSome =
      (db.domain.sales.find? saleId).isSome)
    (hvoided : ∀ row ∈ db'.domain.sales.rows, row.status = "voided" →
      (∃ before ∈ db.domain.sales.rows, before.id = row.id ∧ before.status = "voided") ∨
        saleRecord db row.id = []) :
    InStep crm draws start b db' sent r := by
  have hsku : ∀ sku, db'.domain.productIdBySku sku = db.domain.productIdBySku sku := by
    intro sku
    rw [productIdBySku, hproducts, productIdBySku]
  have honHand : db'.domain.onHand = db.domain.onHand := by
    funext item
    unfold onHand hasLocationRows summaryTotal inventoryQty
    rw [hsummary, hinventory]
  have hdefault : ∀ item, DefaultOnly db'.domain item → DefaultOnly db.domain item := by
    intro item hitem
    have hlevel : ∀ location, db'.domain.legacyAwareLocationQty item location =
        db.domain.legacyAwareLocationQty item location := by
      intro location
      unfold legacyAwareLocationQty hasLocationRows quantityAt inventoryQty
      rw [hsummary, hinventory]
    have hqty : db'.domain.inventoryQty item = db.domain.inventoryQty item := by
      rw [inventoryQty, hinventory, inventoryQty]
    refine ⟨?_, ?_⟩
    · rw [← honHand, hitem.total, hqty]
    · rw [← hlevel, hitem.level, hqty]
  have hrecord : ∀ saleId, saleRecord db' saleId = saleRecord db saleId := by
    intro saleId
    rw [saleRecord, hterms, saleRecord]
  refine ⟨by rw [hqueue]; exact h.queue, h.applied, ⟨?_, ?_⟩, h.ready, h.frame, ?_, ?_, ?_, ?_⟩
  · intro sku
    rw [hsku]
    exact h.totals.catalogue sku
  · intro sku i j hi hj
    rw [hsku] at hi
    rw [honHand]
    exact h.totals.total sku i j hi hj
  · intro sku i j hi hj honly
    rw [hsku] at hi
    exact h.atDefault sku i j hi hj (hdefault i honly)
  · rw [SkusDistinct, hproducts]
    exact h.skus
  · intro row hrow hstatus item hitem hdeducts
    rcases hvoided row hrow hstatus with ⟨before, hbefore, hid, hwas⟩ | hnone
    · rw [← hid] at hdeducts
      exact h.voided before hbefore hwas item hitem hdeducts
    · exact (h.recorded item hitem row.id hdeducts).2 hnone
  · intro item hitem saleId hdeducts
    rw [hfound, hrecord]
    exact h.recorded item hitem saleId hdeducts

variable {d : DomainTables κ} {now saleId : String}

theorem mem_setSaleStatus {status : String} {row : SaleRow}
    (h : row ∈ (d.setSaleStatus now saleId status).sales.rows) :
    row ∈ d.sales.rows ∨ row.id = saleId ∧ row.status = status := by
  simp only [setSaleStatus, Table.mem_update] at h
  obtain ⟨before, hbefore, hrow⟩ := h
  by_cases hid : before.id = saleId
  · rw [if_pos hid] at hrow
    rw [hrow]
    exact .inr ⟨hid, rfl⟩
  · rw [if_neg hid] at hrow
    rw [hrow]
    exact .inl hbefore

theorem isSome_setSaleStatus (d : DomainTables κ) (now saleId status other : String) :
    ((d.setSaleStatus now saleId status).sales.find? other).isSome =
      (d.sales.find? other).isSome := by
  rw [setSaleStatus, Table.find?_update, Option.isSome_map]

theorem InStep.finalized (h : InStep crm draws start b db sent r) (crm' : Crm κ)
    (now saleId : String) : InStep crm draws start b (finalizeSale crm' now saleId db) sent r := by
  unfold finalizeSale finalizeSaleInTx
  split
  · split
    · refine h.of_sales rfl rfl rfl rfl rfl (isSome_setSaleStatus _ _ _ _) ?_
      intro row hrow hstatus
      rcases mem_setSaleStatus hrow with hbefore | ⟨_, hcompleted⟩
      · exact .inl ⟨row, hbefore, rfl, hstatus⟩
      · rw [hcompleted] at hstatus
        exact absurd hstatus (by decide)
    · exact h
  · exact h

theorem voidPendingSale_nothing
    (hnothing : PutsBackNothing db saleId) (h : voidPendingSale now saleId db = .ok db') :
    saleRecord db saleId = [] ∧ ∃ kdsOrders kdsLineItems, db' =
      { db with domain := db.domain.setSaleStatus now saleId "voided", kdsOrders, kdsLineItems } := by
  unfold voidPendingSale at h
  split at h
  · cases h
  · rename_i sale hpending
    obtain ⟨hfind, hstatus⟩ := Option.filter_eq_some_iff.mp hpending
    have hrecord : saleRecord db saleId = [] := hnothing (by
      rw [hfind]
      exact hstatus)
    obtain ⟨d, hcredit, rfl⟩ := Except.of_map h
    have hsame : d = db.domain := by
      unfold saleRecord at hrecord
      unfold creditVoided at hcredit
      cases hcolumn : (db.terms saleId).deductionLocations with
      | none =>
        rw [hcolumn] at hcredit
        cases hcredit
        rfl
      | some column =>
        rw [hcolumn, Option.map_some, Option.getD_some, recordedLines] at hrecord
        simp only [hcolumn] at hcredit
        cases hvalue : column.value? with
        | none =>
          rw [hvalue] at hcredit
          cases hcredit
        | some doc =>
          rw [hvalue, Option.bind_some] at hrecord
          simp only [hvalue, creditRecordedDoc] at hcredit
          split at hcredit
          · rename_i lines hlines
            rw [hlines] at hrecord
            simp only at hrecord
            rw [hrecord] at hcredit
            cases hcredit
            rfl
          · cases hcredit
            rfl
    obtain ⟨kdsOrders, kdsLineItems, hcancelled⟩ := cancelKdsOrders_frame saleId
      { db with domain := d.setSaleStatus now saleId "voided" }
    refine ⟨hrecord, kdsOrders, kdsLineItems, ?_⟩
    rw [hcancelled, hsame]

theorem InStep.void (h : InStep crm draws start b db sent r) (hnothing : PutsBackNothing db saleId)
    (hvoid : voidPendingSale now saleId db = .ok db') :
    InStep crm draws start b db' sent r ∧
      ∀ other, PutsBackNothing db other → PutsBackNothing db' other := by
  obtain ⟨hrecord, _, _, rfl⟩ := voidPendingSale_nothing hnothing hvoid
  refine ⟨h.of_sales rfl rfl rfl rfl rfl (isSome_setSaleStatus _ _ _ _) ?_, ?_⟩
  · intro row hrow hstatus
    rcases mem_setSaleStatus hrow with hbefore | ⟨hid, _⟩
    · exact .inl ⟨row, hbefore, rfl, hstatus⟩
    · rw [hid]
      exact .inr hrecord
  · intro other hother hpending
    refine hother ?_
    simp only [setSaleStatus, Table.find?_update] at hpending
    cases hfind : db.domain.sales.find? other with
    | none => simp [hfind] at hpending
    | some sale =>
      rw [hfind] at hpending
      by_cases hid : other = saleId
      · simp [hid] at hpending
      · simpa [hid] using hpending

theorem InStep.reaped (h : InStep crm draws start b db sent r) {ids : List String}
    (hnothing : ∀ saleId ∈ ids, PutsBackNothing db saleId) :
    InStep crm draws start b (reapSales now ids db).1 sent r := by
  induction ids generalizing db with
  | nil => exact h
  | cons saleId rest ih =>
    obtain ⟨hhere, hrest⟩ := List.forall_mem_cons.mp hnothing
    unfold reapSales
    split
    · exact ih h hrest
    · rename_i db' hvoid
      obtain ⟨hvoided, hkept⟩ := h.void hhere hvoid
      exact ih hvoided (fun other hother => hkept other (hrest other hother))

variable {settings : CheckoutSettings}

theorem lineUnits_of_plain {line : SaleLine} (h : PlainLine settings d line) (item : String) :
    d.lineUnits settings item line = skuUnits d item line := by
  obtain ⟨p, hp, htracks, hrecipe⟩ := h
  obtain ⟨_, _, hsku⟩ := productIdBySku_of_productBySku hp
  rw [lineUnits_of_product hp, skuUnits, hsku, ingredientUnits_of_untracked (by
    rintro r' hr' rfl
    exact hrecipe r' hr')]
  simp [htracks, eq_comm]

theorem soldUnits_of_plain {lines : List SaleLine} (h : ∀ line ∈ lines, PlainLine settings d line)
    (item : String) : d.soldUnits settings lines item = (lines.map (skuUnits d item)).sum := by
  unfold DomainTables.soldUnits
  congr 1
  apply List.map_congr_left
  intro line hline
  exact lineUnits_of_plain (h line hline) item

theorem SoldFromDefault.lines {lines : List SaleLine} (h : SoldFromDefault settings d lines) :
    ∀ line ∈ lines, ∃ i, d.productIdBySku line.sku = some i ∧ DefaultOnly d i ∧
      (lines.map (skuUnits d i)).sum ≤ d.onHand i := by
  intro line hline
  obtain ⟨⟨p, hp, _⟩, hitem⟩ := h line hline
  obtain ⟨_, _, hsku⟩ := productIdBySku_of_productBySku hp
  obtain ⟨honly, henough⟩ := hitem p.id hsku
  rw [soldUnits_of_plain (fun line hline => (h line hline).1)] at henough
  exact ⟨p.id, hsku, honly, henough⟩

variable {draw : CheckoutDraw} {sale : Sale}

theorem InStep.settled (h : InStep crm draws start b db sent r) {w : StockBindings}
    {status : String}
    {moves : List StockMove} {recorded : SaleLine → List LocationAllocation}
    (hwrote : Wrote w db.domain moves d)
    (hsettled : Settled draw status (deductionDoc (sale.lines.map (fun line =>
      recordedLineJson draw.now line (recorded line)))) sale { db with domain := d } db')
    (hlast : status ≠ "voided")
    (hsold : ∀ item, db.domain.onHand item - db'.domain.onHand item =
      (sale.lines.map (skuUnits db.domain item)).sum)
    (hmoves : ∀ m ∈ moves, ∃ line ∈ sale.lines,
      db.domain.productIdBySku line.sku = some m.item)
    (hlines : ∀ line ∈ sale.lines, ∃ i, db.domain.productIdBySku line.sku = some i ∧
      DefaultOnly db.domain i ∧
        (sale.lines.map (skuUnits db.domain i)).sum ≤ db.domain.onHand i)
    (hforeign : b.saleCompletedHere sale.id = false) :
    ∃ item r', InStep crm draws start b db' (sent ++ [item]) r' := by
  obtain ⟨sales, _, _, hsales, hdomain⟩ := hsettled.domain
  have hforeignNow : r.saleCompletedHere sale.id = false := by
    obtain ⟨_, _, _, rfl⟩ := h.frame
    exact hforeign
  obtain ⟨r', happlied, htotals, hready, hframe, hkept⟩ := h.totals.applies h.ready
    hsettled.units (by
      intro line hline
      obtain ⟨i, hi, _, henough⟩ := hlines line hline
      exact ⟨i, hi, henough⟩) (by
      intro line hline j hj
      obtain ⟨i, hi, honly, _⟩ := hlines line hline
      exact h.atDefault line.sku i j hi hj honly)
    hforeignNow crm draw (draws (saleOutboxRow draw sale d.getSyncTerminalId)) d.getSyncTerminalId
  have hkeep : d.products = db.domain.products ∧ d.sales = db.domain.sales := by
    obtain ⟨_, _, _, rfl⟩ := hwrote.frame
    exact ⟨rfl, rfl⟩
  have hsku : ∀ sku, db'.domain.productIdBySku sku = db.domain.productIdBySku sku := by
    intro sku
    rw [hdomain]
    exact hwrote.frame.productIdBySku sku
  have hnew : db'.domain.sales = sales ∧ db.domain.sales.insert? (saleRowOf draw status sale) =
      some sales := by
    rw [hdomain, ← hkeep.2]
    exact ⟨rfl, hsales⟩
  have hfree := (Table.insert?_isSome_iff _ _).mp (by rw [hnew.2]; rfl)
  have hfind := Table.find?_insert? hnew.2
  have hrecord : saleRecord db' sale.id = sale.lines.map (fun line =>
      recordedLineJson draw.now line (recorded line)) := by
    rw [saleRecord, hsettled.terms, Function.update_self, Option.map_some, Option.getD_some,
      recordedLines_doc]
  have hother : ∀ saleId, (db.domain.sales.find? saleId).isSome = true →
      (db'.domain.sales.find? saleId).isSome = true ∧
        saleRecord db' saleId = saleRecord db saleId := by
    intro saleId hfound
    have hne : saleId ≠ sale.id := by
      rintro rfl
      have hnone : db.domain.sales.find? sale.id = none := hfree
      rw [hnone] at hfound
      cases hfound
    have hrow : (saleRowOf draw status sale).id ≠ saleId := Ne.symm hne
    refine ⟨?_, ?_⟩
    · rw [hnew.1, hfind, if_neg hrow]
      exact hfound
    · rw [saleRecord, hsettled.terms, Function.update_of_ne hne, saleRecord]
  have hsent : ∀ saleId, DeductsFor (saleOutboxRow draw sale d.getSyncTerminalId) saleId →
      saleId = sale.id ∧ sale.lines ≠ [] := by
    rintro saleId ⟨_, p, hp, hid, hlines⟩
    have hparsed : parsed "invalid sale payload" SalePayload.read (.json (saleJson sale)) =
        .ok ⟨some sale.id, sale.lines.map (fun line => ⟨line.sku, line.qty⟩)⟩ := by
      simp [parsed, Payload.doc?, SalePayload.read_json]
    obtain rfl := Except.ok.inj (hparsed.symm.trans hp)
    refine ⟨(Option.some.inj hid).symm, ?_⟩
    intro hnil
    rw [hnil] at hlines
    exact hlines rfl
  refine ⟨saleOutboxRow draw sale d.getSyncTerminalId, r', ?_, ?_, ⟨?_, ?_⟩, hready,
    h.frame.trans hframe, ?_, ?_, ?_, ?_⟩
  · rw [Table.insert?_rows hsettled.queue, h.queue, List.append_assoc]
  · exact applyAll_append h.applied (Except.bind_ok_iff.mpr ⟨r', happlied, rfl⟩)
  · intro sku
    rw [hsku]
    exact htotals.catalogue sku
  · intro sku i j hi hj
    rw [hsku] at hi
    have hdeducted := hsold i
    rw [htotals.total sku i j hi hj]
    omega
  · intro sku i j hi hj honly
    rw [hsku] at hi
    rw [hframe.productIdBySku] at hj
    apply hkept
    by_cases hline : ∃ line ∈ sale.lines, db.domain.productIdBySku line.sku = some i
    · obtain ⟨line, hline, hitem⟩ := hline
      obtain ⟨k, hk, hbefore, _⟩ := hlines line hline
      obtain rfl := Option.some.inj (hk.symm.trans hitem)
      exact h.atDefault sku k j hi hj hbefore
    · have hnone : ∀ m ∈ moves, m.item ≠ i := by
        rintro m hm rfl
        exact hline (hmoves m hm)
      rw [hdomain] at honly
      exact h.atDefault sku i j hi hj (hwrote.atDefault hnone ⟨honly.total, honly.level⟩)
  · rw [SkusDistinct, hdomain]
    have hskus := h.skus
    rw [SkusDistinct, ← hkeep.1] at hskus
    exact hskus
  · intro row hrow hstatus item hitem hdeducts
    rw [hnew.1, Table.insert?_rows hnew.2, List.mem_append, List.mem_singleton] at hrow
    rcases hrow with hrow | rfl
    · rcases List.mem_append.mp hitem with hitem | hitem
      · exact h.voided row hrow hstatus item hitem hdeducts
      · rw [List.mem_singleton.mp hitem] at hdeducts
        exact (Table.find?_eq_none_iff _ _).mp hfree row hrow (hsent row.id hdeducts).1
    · exact absurd hstatus hlast
  · intro item hitem saleId hdeducts
    rcases List.mem_append.mp hitem with hitem | hitem
    · obtain ⟨hfound, hsome⟩ := h.recorded item hitem saleId hdeducts
      obtain ⟨hfound', hsame⟩ := hother saleId hfound
      rw [hsame]
      exact ⟨hfound', hsome⟩
    · rw [List.mem_singleton.mp hitem] at hdeducts
      obtain ⟨rfl, hsome⟩ := hsent saleId hdeducts
      have hrow : (saleRowOf draw status sale).id = sale.id := rfl
      refine ⟨by rw [hnew.1, hfind, if_pos hrow]; rfl, ?_⟩
      rw [hrecord]
      simpa using hsome

variable {call : CheckoutCall}

theorem CheckedOut.plain_moves (h : CheckedOut settings draw call sale db db')
    (hplain : ∀ line ∈ sale.lines, PlainLine settings db.domain line) {m : StockMove}
    (hm : m ∈ (saleTaken settings call db.domain sale).flatMap TakenProduct.moves) :
    ∃ line ∈ sale.lines, db.domain.productIdBySku line.sku = some m.item := by
  obtain ⟨t, ht, hm⟩ := List.mem_flatMap.mp hm
  obtain ⟨line, hline, ht⟩ := List.mem_flatMap.mp ht
  obtain ⟨p, hp⟩ := h.planned line hline
  obtain ⟨q, hq, htracks, _⟩ := hplain line hline
  obtain rfl := Option.some.inj (hp.product.symm.trans hq)
  obtain ⟨allocations, htaken, _⟩ := hp.own htracks
  rw [lineTaken, recipeTaken_of_plain (hplain line hline), List.append_nil, htaken,
    List.mem_singleton] at ht
  subst ht
  obtain ⟨a, _, rfl⟩ := TakenProduct.mem_moves hm
  exact ⟨line, hline, (productIdBySku_of_productBySku hp.product).2.2⟩

theorem InStep.checkedOut (h : InStep crm draws start b db sent r)
    {result : CompleteSaleResult} (hsold : SoldFromDefault settings db.domain sale.lines)
    (hforeign : b.saleCompletedHere sale.id = false)
    (hcall : completeSaleDeductionWithLocations settings draw call sale db = .ok (db', result)) :
    ∃ item r', InStep crm draws start b db' (sent ++ [item]) r' := by
  have hplain : ∀ line ∈ sale.lines, PlainLine settings db.domain line :=
    fun line hline => (hsold line hline).1
  have hchecked := completeSaleDeductionWithLocations_ok hcall
  have hmoves := hchecked.moves h.skus
  obtain ⟨d, hwrote, hsettled⟩ := hchecked.took
  rw [hmoves] at hwrote
  refine h.settled hwrote hsettled (by decide) ?_ (fun m hm => hchecked.plain_moves hplain hm)
    hsold.lines hforeign
  intro item
  rw [← soldUnits_of_plain hplain]
  exact main_door_deducts h.skus hcall item

variable {primary : String}

theorem primaryIngredients_of_plain {line : SaleLine} {ingredients : List RecipeItem}
    (h : ∀ r ∈ ingredients, d.tracks r.ingredientProductId = false) :
    primaryIngredients d primary line ingredients = .ok [] := by
  induction ingredients with
  | nil => rfl
  | cons r rest ih =>
    obtain ⟨hr, hrest⟩ := List.forall_mem_cons.mp h
    have hnone : primaryIngredient d primary line r = .ok [] := by
      unfold primaryIngredient
      cases hfind : d.products.find? r.ingredientProductId with
      | none => rfl
      | some p =>
        rw [tracks, hfind] at hr
        have hp : p.tracksInventory = false := hr
        simp [hp]
    rw [primaryIngredients, hnone, ih hrest]
    rfl

variable {resolutions : List ResolvedShortfall}

theorem lineDeductions_of_plain
    {line : SaleLine} {ds : List StockDeduction} (hplain : PlainLine settings d line)
    (h : lineDeductions settings call d primary resolutions line = .ok ds) :
    ∀ x ∈ ds, x.sku = line.sku := by
  obtain ⟨p, hp, htracks, hrecipe⟩ := hplain
  unfold lineDeductions at h
  split at h
  · rename_i r _
    obtain ⟨_, _, h⟩ := Except.of_bind h
    split at h
    · cases h
    · obtain ⟨rfl, _⟩ := resolveAllocations_ok h
      intro x hx
      obtain ⟨a, _, rfl⟩ := List.mem_map.mp hx
      rfl
  · unfold primaryDeductions at h
    simp only [hp, primaryIngredients_of_plain hrecipe, htracks] at h
    cases h
    simp

theorem linesDeductions_of_plain {lines : List SaleLine} {ds : List StockDeduction}
    (hplain : ∀ line ∈ lines, PlainLine settings d line)
    (h : linesDeductions settings call d primary resolutions lines = .ok ds) :
    ∀ x ∈ ds, ∃ line ∈ lines, x.sku = line.sku := by
  induction lines generalizing ds with
  | nil =>
    cases h
    simp
  | cons line rest ih =>
    obtain ⟨hline, hrest⟩ := List.forall_mem_cons.mp hplain
    obtain ⟨here, hhere, hmap⟩ := Except.of_bind h
    obtain ⟨later, hlater, rfl⟩ := Except.of_map hmap
    intro x hx
    rcases List.mem_append.mp hx with hx | hx
    · exact ⟨line, List.mem_cons_self, lineDeductions_of_plain hline hhere x hx⟩
    · obtain ⟨other, hother, hsku⟩ := ih hrest hlater x hx
      exact ⟨other, List.mem_cons_of_mem _ hother, hsku⟩

theorem InStep.retried (h : InStep crm draws start b db sent r) {crm' : Crm κ}
    {result : CompleteSaleResult} (hsold : SoldFromDefault settings db.domain sale.lines)
    (hnonneg : ∀ line ∈ sale.lines, ∀ r, resolutionFor resolutions line.sku = some r →
      ∀ a ∈ r.allocations, 0 ≤ a.qty)
    (hforeign : b.saleCompletedHere sale.id = false)
    (hcall : completeSaleWithResolvedShortfalls crm' settings draw call primary resolutions sale
      db = .ok (db', result)) :
    ∃ item r', InStep crm draws start b db' (sent ++ [item]) r' := by
  have hplain : ∀ line ∈ sale.lines, PlainLine settings db.domain line :=
    fun line hline => (hsold line hline).1
  have hretried := completeSaleWithResolvedShortfalls_ok h.skus hcall
  obtain ⟨_, deductions, d, hdeductions, hwrote, hsettled⟩ := hretried.took
  refine h.settled hwrote hsettled (by decide) ?_ ?_ hsold.lines hforeign
  · intro item
    rw [hretried.deducted, ← soldUnits_of_plain hplain]
    exact (hretried.deducted_iff hnonneg).mpr (fun line hline _ _ => hplain line hline) item
  · intro m hm
    obtain ⟨x, hx, hmove⟩ := List.mem_filterMap.mp hm
    obtain ⟨line, hline, hsku⟩ := linesDeductions_of_plain hplain hdeductions x hx
    rw [skuMove, hsku] at hmove
    obtain ⟨item, hitem, rfl⟩ := Option.map_eq_some_iff.mp hmove
    exact ⟨line, hline, hitem⟩

end Step

def SaleEvent.ForeignTo (b : DomainTables κ) : SaleEvent → Prop
  | .checkout _ _ _ sale | .retry _ _ _ _ _ sale => b.saleCompletedHere sale.id = false
  | _ => True

section Run

variable {crm crm' : Crm κ} {draws : OfflineQueueItem → ApplyDraw} {start db : SalesDb κ}
  {b r : DomainTables κ} {sent : List OfflineQueueItem}

theorem InStep.step (h : InStep crm draws start b db sent r) {e : SaleEvent}
    (hforeign : e.ForeignTo b) (hok : Replicable crm' db e) :
    ∃ more r', InStep crm draws start b (e.act crm' db) (sent ++ more) r' := by
  have hstill : ∃ more r', InStep crm draws start b db (sent ++ more) r' :=
    ⟨[], r, by rwa [List.append_nil]⟩
  cases e with
  | checkout settings draw call sale =>
    simp only [SaleEvent.act]
    cases hcall : completeSaleDeductionWithLocations settings draw call sale db with
    | error e => exact hstill
    | ok answer =>
      obtain ⟨item, r', hstep⟩ := h.checkedOut (hok _ _ hcall) hforeign hcall
      exact ⟨[item], r', hstep⟩
  | retry settings draw call primary resolutions sale =>
    simp only [SaleEvent.act]
    cases hcall : completeSaleWithResolvedShortfalls crm' settings draw call primary resolutions
        sale db with
    | error e => exact hstill
    | ok answer =>
      obtain ⟨hsold, hnonneg⟩ := hok _ _ hcall
      obtain ⟨item, r', hstep⟩ := h.retried hsold hnonneg hforeign hcall
      exact ⟨[item], r', hstep⟩
  | finalize now saleId =>
    exact ⟨[], r, by rw [List.append_nil]; exact h.finalized crm' now saleId⟩
  | void now saleId =>
    simp only [SaleEvent.act]
    cases hvoid : voidPendingSale now saleId db with
    | error e => exact hstill
    | ok db' => exact ⟨[], r, by rw [List.append_nil]; exact (h.void hok hvoid).1⟩
  | reap expiresAt now =>
    exact ⟨[], r, by rw [List.append_nil]; exact h.reaped hok⟩

theorem InStep.run (h : InStep crm draws start b db sent r) {events : List SaleEvent}
    (hforeign : ∀ e ∈ events, e.ForeignTo b)
    (halong : (saleMachine crm').Along (Replicable crm') db events) :
    ∃ more r', InStep crm draws start b ((saleMachine crm').run db events) (sent ++ more) r' := by
  induction events generalizing db sent r with
  | nil => exact ⟨[], r, by rwa [List.append_nil]⟩
  | cons e events ih =>
    obtain ⟨hhere, hrest⟩ := List.forall_mem_cons.mp hforeign
    obtain ⟨more, r₁, hstep⟩ := h.step hhere halong.1
    obtain ⟨later, r', hrun⟩ := ih hstep hrest halong.2
    exact ⟨more ++ later, r', by rw [← List.append_assoc]; exact hrun⟩

end Run

/-- Two terminals with one catalogue and one stock. -/
structure SameStart (a : SalesDb κ) (b : DomainTables κ) : Prop where
  skus : a.domain.SkusDistinct
  stock : DomainTables.SameStock a.domain b
  aggregate : ∀ sku i j, a.domain.productIdBySku sku = some i → b.productIdBySku sku = some j →
    a.domain.inventoryQty i = b.inventoryQty j
  location : canonicalDefaultLocation ∈ b.locations
  fits : ∀ row ∈ b.inventory.rows, row.qty < 2^63

theorem SameStart.inStep {a : SalesDb κ} {b : DomainTables κ} (h : SameStart a b) (crm : Crm κ)
    (draws : OfflineQueueItem → ApplyDraw) : InStep crm draws a b a [] b := by
  refine ⟨by simp, rfl, ⟨h.stock.catalogue, ?_⟩, ⟨h.location, ?_⟩, StockOnly.refl b, ?_, h.skus,
    by simp, by simp⟩
  · intro sku i j hi hj
    exact (h.stock.stock sku i j hi hj).onHand.symm
  · intro item qty hqty
    rw [inventoryQty] at hqty
    obtain ⟨row, hrow, rfl⟩ := Option.map_eq_some_iff.mp hqty
    exact h.fits row ((Table.find?_eq_some_iff _ _ _).mp hrow).1
  · intro sku i j hi hj honly
    have halike := h.stock.stock sku i j hi hj
    have haggregate := h.aggregate sku i j hi hj
    exact ⟨by rw [← halike.onHand, honly.total, haggregate],
      by rw [← halike.level, honly.level, haggregate]⟩

/-- Where every accepted checkout sells from the default location and no void puts anything back,
the replica holds as much of each product as the originator, and has deducted for no sale that
ended voided. -/
theorem sales_replicate (crm crm' : Crm κ) (draws : OfflineQueueItem → ApplyDraw) {a : SalesDb κ}
    {b : DomainTables κ} (hstart : SameStart a b) {events : List SaleEvent}
    (hforeign : ∀ e ∈ events, e.ForeignTo b)
    (halong : (saleMachine crm).Along (Replicable crm) a events) :
    ∃ sent r, ((saleMachine crm).run a events).queue.rows = a.queue.rows ++ sent ∧
      applyAll crm' draws sent b = .ok r ∧
      (∀ sku i j, ((saleMachine crm).run a events).domain.productIdBySku sku = some i →
        r.productIdBySku sku = some j →
          r.onHand j = ((saleMachine crm).run a events).domain.onHand i) ∧
      ∀ row ∈ ((saleMachine crm).run a events).domain.sales.rows, row.status = "voided" →
        ∀ item ∈ sent, ¬ DeductsFor item row.id := by
  obtain ⟨sent, r, hrun⟩ := (hstart.inStep crm' draws).run hforeign halong
  rw [List.nil_append] at hrun
  exact ⟨sent, r, hrun.queue, hrun.applied, hrun.totals.total, hrun.voided⟩

variable (sku : String) (last : SaleEvent)

def shopEvents : List SaleEvent :=
  [.checkout shopSettings shopDraw shopCall (shopSale sku 2 two_fits), last]

def shopFinalized : SaleEvent := .finalize "2026-01-02T00:05:00.000Z" "sale-1"

def shopVoided : SaleEvent := .void "2026-01-02T00:05:00.000Z" "sale-1"

def shopRun : SalesDb Unit :=
  (saleMachine shopCrm).run shopDb (shopEvents sku last)

def shopReplayDraw : OfflineQueueItem → ApplyDraw := fun _ => ⟨"2026-01-02T00:10:00.000Z", ""⟩

theorem shop_start : SameStart shopDb shopTables := by
  refine ⟨shop_skus, DomainTables.SameStock.refl _, ?_, by decide, by decide⟩
  intro sku i j hi hj
  obtain rfl := Option.some.inj (hi.symm.trans hj)
  rfl

theorem shop_foreign {last : SaleEvent} (hlast : last.ForeignTo shopTables) :
    ∀ e ∈ shopEvents sku last, e.ForeignTo shopTables :=
  List.forall_mem_cons.mpr ⟨rfl, List.forall_mem_singleton.mpr hlast⟩

theorem shop_beans_replicate :
    ∃ sent r, (shopRun "SKU-1" shopFinalized).queue.rows = shopDb.queue.rows ++ sent ∧
      applyAll shopCrm shopReplayDraw sent shopTables = .ok r ∧
      (∀ sku i j, (shopRun "SKU-1" shopFinalized).domain.productIdBySku sku = some i →
        r.productIdBySku sku = some j →
          r.onHand j = (shopRun "SKU-1" shopFinalized).domain.onHand i) ∧
      ∀ row ∈ (shopRun "SKU-1" shopFinalized).domain.sales.rows, row.status = "voided" →
        ∀ item ∈ sent, ¬ DeductsFor item row.id := by
  refine sales_replicate shopCrm shopCrm shopReplayDraw shop_start
    (shop_foreign _ trivial) ⟨?_, trivial, trivial⟩
  intro db' result _ line hline
  refine ⟨shop_beans_plain line hline, ?_⟩
  obtain rfl := List.mem_singleton.mp hline
  intro item hitem
  have hbeans : shopTables.productIdBySku "SKU-1" = some "prod-1" := by decide
  obtain rfl := Option.some.inj (hbeans.symm.trans hitem)
  exact ⟨⟨by decide, by decide⟩, by decide +kernel⟩

theorem shop_applies {rows : List OfflineQueueItem} {held : Int}
    (h : (applyAll shopCrm shopReplayDraw rows shopTables).toOption.map
      (fun r => r.onHand "prod-1") = some held) :
    ∃ r, applyAll shopCrm shopReplayDraw rows shopTables = .ok r ∧ r.onHand "prod-1" = held := by
  cases happlied : applyAll shopCrm shopReplayDraw rows shopTables with
  | error e =>
    rw [happlied] at h
    cases h
  | ok r =>
    rw [happlied] at h
    exact ⟨r, rfl, Option.some.inj h⟩

/-- Coffee leaves the replica with more beans; a voided sale leaves it with fewer, and the sale
deducted there. -/
theorem shop_replica_differs :
    SameStart shopDb shopTables ∧
    (∃ r, applyAll shopCrm shopReplayDraw (shopRun "SKU-2" shopFinalized).queue.rows shopTables =
        .ok r ∧ r.onHand "prod-1" = 8 ∧
      (shopRun "SKU-2" shopFinalized).domain.onHand "prod-1" = 4) ∧
    (∃ r, applyAll shopCrm shopReplayDraw (shopRun "SKU-1" shopVoided).queue.rows shopTables =
        .ok r ∧ r.onHand "prod-1" = 6 ∧
      (shopRun "SKU-1" shopVoided).domain.onHand "prod-1" = 8) ∧
    ∃ row ∈ (shopRun "SKU-1" shopVoided).domain.sales.rows, row.status = "voided" ∧
      ∃ item ∈ (shopRun "SKU-1" shopVoided).queue.rows, DeductsFor item row.id := by
  refine ⟨shop_start, ?_, ?_, ?_⟩
  · obtain ⟨r, happlied, hheld⟩ := shop_applies
      (by decide +kernel : (applyAll shopCrm shopReplayDraw
        (shopRun "SKU-2" shopFinalized).queue.rows shopTables).toOption.map
          (fun r => r.onHand "prod-1") = some 8)
    exact ⟨r, happlied, hheld, by decide +kernel⟩
  · obtain ⟨r, happlied, hheld⟩ := shop_applies
      (by decide +kernel : (applyAll shopCrm shopReplayDraw
        (shopRun "SKU-1" shopVoided).queue.rows shopTables).toOption.map
          (fun r => r.onHand "prod-1") = some 6)
    exact ⟨r, happlied, hheld, by decide +kernel⟩
  · have hvoided : ∃ row ∈ (shopRun "SKU-1" shopVoided).domain.sales.rows,
        row.status = "voided" ∧ row.id = "sale-1" := by decide +kernel
    obtain ⟨row, hrow, hstatus, hid⟩ := hvoided
    refine ⟨row, hrow, hstatus, saleOutboxRow shopDraw (shopSale "SKU-1" 2 two_fits) none,
      by decide +kernel, by decide, ⟨some "sale-1", [⟨"SKU-1", 2⟩]⟩, ?_, by rw [hid], by decide⟩
    simp only [saleOutboxRow, newQueueItem, parsed, Payload.doc?]
    rfl

end OzPos
