import OzPos.Commerce.CheckoutStock

namespace OzPos

variable {κ : Type}

open DomainTables

section Recorded

theorem value_sorted {members : List (String × Json)}
    (hsorted : (members.map Prod.fst).Pairwise (· < ·))
    (hdecoded : ∀ m ∈ members, m.2.value = m.2) : (Json.obj members).value = .obj members := by
  have hmembers : Json.SortedMembers ([] ++ members) := List.pairwise_map.mp hsorted
  rw [Json.value, Json.memberValues_of_sorted members hmembers hdecoded, List.nil_append]

theorem itemValues_decoded {items : List Json} (h : ∀ j ∈ items, j.value = j) :
    Json.itemValues items = items := by
  induction items with
  | nil => rfl
  | cons j rest ih =>
    obtain ⟨hj, hrest⟩ := List.forall_mem_cons.mp h
    rw [Json.itemValues, hj, ih hrest]

theorem value_allocationJson (now : String) (a : LocationAllocation) :
    (allocationJson now a).value = allocationJson now a := by
  have hkeys : ["location_id", "qty", "sold_at"].Pairwise (· < ·) := by decide
  exact value_sorted hkeys (by simp [Json.value])

theorem value_recordedLineJson (now : String) (line : SaleLine)
    (allocations : List LocationAllocation) :
    (recordedLineJson now line allocations).value = recordedLineJson now line allocations := by
  have hkeys : ["deductions", "sale_line_id", "sku"].Pairwise (· < ·) := by decide
  have hentries : Json.itemValues (allocations.map (allocationJson now)) =
      allocations.map (allocationJson now) := by
    apply itemValues_decoded
    intro j hj
    obtain ⟨a, _, rfl⟩ := List.mem_map.mp hj
    exact value_allocationJson now a
  exact value_sorted hkeys (by simp [Json.value, hentries])

theorem value_deductionDoc {lines : List Json} (h : ∀ j ∈ lines, j.value = j) :
    (deductionDoc lines).value = deductionDoc lines := by
  have hkeys : ["lines", "version"].Pairwise (· < ·) := by decide
  exact value_sorted hkeys (by simp [Json.value, itemValues_decoded h])

theorem value?_recordedDoc (stamp : String) (recorded : SaleLine → List LocationAllocation)
    (lines : List SaleLine) :
    Payload.value? (.json (deductionDoc (lines.map (fun line =>
      recordedLineJson stamp line (recorded line))))) = some (deductionDoc (lines.map (fun line =>
        recordedLineJson stamp line (recorded line)))) := by
  apply congrArg some
  apply value_deductionDoc
  intro j hj
  obtain ⟨line, _, rfl⟩ := List.mem_map.mp hj
  exact value_recordedLineJson stamp line (recorded line)

end Recorded

def creditsOf (sku : String) (allocations : List LocationAllocation) : List StockDeduction :=
  allocations.map (fun a => ⟨sku, a.locationId, a.qty⟩)

namespace DomainTables

variable {d d₁ d' : DomainTables κ}

theorem deductionMoves_append (d : DomainTables κ) (l r : List StockDeduction) :
    d.deductionMoves (l ++ r) = d.deductionMoves l ++ d.deductionMoves r := by
  unfold deductionMoves
  rw [List.filterMap_append]

theorem deductionMoves_congr (h : ∀ sku, d'.productIdBySku sku = d.productIdBySku sku)
    (deductions : List StockDeduction) :
    d'.deductionMoves deductions = d.deductionMoves deductions := by
  unfold deductionMoves skuMove
  simp only [h]

theorem Wrote.batch {w : StockBindings} {l r : List StockDeduction}
    (hl : Wrote w d (d.deductionMoves l) d₁) (hr : Wrote w d₁ (d₁.deductionMoves r) d') :
    Wrote w d (d.deductionMoves (l ++ r)) d' := by
  rw [deductionMoves_congr (fun sku => hl.frame.productIdBySku sku)] at hr
  rw [deductionMoves_append]
  exact hl.append hr

variable {stamp : String}

variable (w : StockBindings)

theorem creditRecorded_ok {now sku : String} {a : LocationAllocation}
    (hfits : FitsI64 a.qty) (h : d.creditRecorded now sku (allocationJson stamp a) = .ok d') :
    Wrote w d (d.deductionMoves [⟨sku, a.locationId, a.qty⟩]) d' := by
  have hlocation : (allocationJson stamp a).strAt? "location_id" = some a.locationId := rfl
  have hqty : (allocationJson stamp a).i64At? "qty" = some a.qty := asI64?_int hfits
  unfold creditRecorded at h
  simp only [hlocation, hqty] at h
  obtain ⟨⟨level, d₁⟩, hadjust, rfl⟩ := Except.of_map h
  rw [← adjustStockAtLocationFor_sync w] at hadjust
  obtain ⟨item, hsku, hwritten⟩ := adjustStockAtLocationFor_ok hadjust
  have hmoves : d.deductionMoves [⟨sku, a.locationId, a.qty⟩] =
      [⟨item, a.locationId, a.qty⟩] := by
    simp [deductionMoves, skuMove_of_sku hsku]
  rw [hmoves]
  exact .cons hwritten (.nil _)

theorem creditRecordedEntries_ok {now sku : String}
    {allocations : List LocationAllocation} (hfits : ∀ a ∈ allocations, FitsI64 a.qty)
    (h : d.creditRecordedEntries now sku (allocations.map (allocationJson stamp)) = .ok d') :
    Wrote w d (d.deductionMoves (creditsOf sku allocations)) d' := by
  induction allocations generalizing d with
  | nil =>
    cases h
    exact .nil _
  | cons a rest ih =>
    obtain ⟨ha, hrest⟩ := List.forall_mem_cons.mp hfits
    obtain ⟨d₁, hhere, hlater⟩ := Except.of_bind h
    exact (creditRecorded_ok w ha hhere).batch (ih hrest hlater)

theorem creditRecordedLines_ok {now : String}
    {recorded : SaleLine → List LocationAllocation} {lines : List SaleLine}
    (hfits : ∀ line ∈ lines, ∀ a ∈ recorded line, FitsI64 a.qty)
    (h : d.creditRecordedLines now (lines.map (fun line =>
      recordedLineJson stamp line (recorded line))) = .ok d') :
    Wrote w d (d.deductionMoves (lines.flatMap (fun line =>
      creditsOf line.sku (recorded line)))) d' := by
  induction lines generalizing d with
  | nil =>
    cases h
    exact .nil _
  | cons line rest ih =>
    obtain ⟨hline, hrest⟩ := List.forall_mem_cons.mp hfits
    obtain ⟨d₁, hhere, hlater⟩ := Except.of_bind h
    have hsku : (recordedLineJson stamp line (recorded line)).strAt? "sku" = some line.sku := rfl
    have hentries : (recordedLineJson stamp line (recorded line)).get? "deductions" =
        some (.arr ((recorded line).map (allocationJson stamp))) := rfl
    unfold creditRecordedLine at hhere
    simp only [hsku, hentries] at hhere
    exact (creditRecordedEntries_ok w hline hhere).batch (ih hrest hlater)

end DomainTables

theorem cancelKdsOrders_frame (saleId : String) (db : SalesDb κ) :
    ∃ kdsOrders kdsLineItems,
      cancelKdsOrdersForSaleInTx saleId db = { db with kdsOrders, kdsLineItems } := by
  unfold cancelKdsOrdersForSaleInTx
  split
  · exact ⟨_, _, rfl⟩
  · exact ⟨_, _, rfl⟩

variable {now : String} {db db' : SalesDb κ}

theorem voidPendingSale_ok (w : StockBindings) {stamp saleId : String}
    {recorded : SaleLine → List LocationAllocation} {lines : List SaleLine}
    (hfits : ∀ line ∈ lines, ∀ a ∈ recorded line, FitsI64 a.qty)
    (hcolumn : (db.terms saleId).deductionLocations = some (.json (deductionDoc
      (lines.map (fun line => recordedLineJson stamp line (recorded line))))))
    (h : voidPendingSale now saleId db = .ok db') :
    ∃ d, Wrote w db.domain (db.domain.deductionMoves (lines.flatMap (fun line =>
        creditsOf line.sku (recorded line)))) d ∧
      db'.domain = d.setSaleStatus now saleId "voided" := by
  unfold voidPendingSale at h
  split at h
  · cases h
  · obtain ⟨d, hcredit, rfl⟩ := Except.of_map h
    obtain ⟨_, _, hcancelled⟩ := cancelKdsOrders_frame saleId
      { db with domain := d.setSaleStatus now saleId "voided" }
    refine ⟨d, ?_, by rw [hcancelled]⟩
    rw [hcolumn] at hcredit
    unfold creditVoided at hcredit
    simp only [value?_recordedDoc] at hcredit
    exact creditRecordedLines_ok w hfits hcredit

/-- No stock operation has come between, and the sale stands as recorded. -/
structure StockUntouched (saleId : String) (db db' : SalesDb κ) : Prop where
  skus : ∀ sku, db'.domain.productIdBySku sku = db.domain.productIdBySku sku
  summary : db'.domain.stockSummary = db.domain.stockSummary
  inventory : db'.domain.inventory = db.domain.inventory
  recorded : (db'.terms saleId).deductionLocations = (db.terms saleId).deductionLocations

/-- A pending sale is voided by itself, or by a run of the reaper that cannot void another. -/
inductive Voided (now saleId : String) (db db' : SalesDb κ) : Prop where
  | direct : voidPendingSale now saleId db = .ok db' → Voided now saleId db db'
  | reaped (expiresAt : String → Option String) :
    (∀ other ∈ findStalePendingSales expiresAt now db, other ≠ saleId →
      ∃ e, voidPendingSale now other db = .error e) →
    reapStalePendingSales expiresAt now db = (db', 1) → Voided now saleId db db'

/-- The line sells a product that keeps stock, of a recipe without one that does. -/
def PlainLine (settings : CheckoutSettings) (d : DomainTables κ) (line : SaleLine) : Prop :=
  ∃ p, d.productBySku line.sku = some p ∧ p.tracksInventory = true ∧
    ∀ r ∈ getRecipeIngredients settings.recipes p.id, d.tracks r.ingredientProductId = false

theorem reapSales_none {ids : List String} (h : reapSales now ids db = (db', 0)) : db' = db := by
  induction ids with
  | nil =>
    cases h
    rfl
  | cons saleId rest ih =>
    unfold reapSales at h
    split at h
    · exact ih h
    · simp at h

theorem reapSales_one {ids : List String} (h : reapSales now ids db = (db', 1)) :
    ∃ saleId ∈ ids, voidPendingSale now saleId db = .ok db' := by
  induction ids with
  | nil => simp [reapSales] at h
  | cons saleId rest ih =>
    unfold reapSales at h
    split at h
    · obtain ⟨other, hother, hvoid⟩ := ih h
      exact ⟨other, List.mem_cons_of_mem _ hother, hvoid⟩
    · rename_i db₁ hvoid
      have hrest : reapSales now rest db₁ = (db', 0) := by
        cases hreap : reapSales now rest db₁ with
        | mk last count =>
          rw [hreap] at h
          simp only [Prod.mk.injEq] at h ⊢
          exact ⟨h.1, by omega⟩
      rw [reapSales_none hrest]
      exact ⟨saleId, List.mem_cons_self, hvoid⟩

theorem Voided.void {saleId : String} (h : Voided now saleId db db') :
    voidPendingSale now saleId db = .ok db' := by
  cases h with
  | direct hvoid => exact hvoid
  | reaped expiresAt hothers hreap =>
    obtain ⟨other, hother, hvoid⟩ := reapSales_one hreap
    by_cases hid : other = saleId
    · rw [← hid]
      exact hvoid
    · obtain ⟨e, he⟩ := hothers other hother hid
      rw [he] at hvoid
      cases hvoid

section Net

variable {settings : CheckoutSettings} {draw : CheckoutDraw} {call : CheckoutCall}
  {sale : Sale} {d : DomainTables κ} {line : SaleLine} {p : Product}

def saleCredits (settings : CheckoutSettings) (call : CheckoutCall) (d : DomainTables κ)
    (sale : Sale) : List StockDeduction :=
  sale.lines.flatMap (fun line =>
    creditsOf line.sku (ownAllocations settings call d line))

theorem LinePlanned.credited (h : LinePlanned settings call d line p) :
    d.deductionMoves (creditsOf line.sku (ownAllocations settings call d line)) =
      (ownAllocations settings call d line).map (fun a => ⟨p.id, a.locationId, a.qty⟩) := by
  obtain ⟨_, _, hsku⟩ := productIdBySku_of_productBySku h.product
  unfold deductionMoves creditsOf
  induction ownAllocations settings call d line with
  | nil => rfl
  | cons a rest ih =>
    simp only [List.map_cons, List.filterMap_cons, skuMove_of_sku hsku]
    rw [ih]

theorem LinePlanned.recorded (h : LinePlanned settings call d line p) (hqty : 0 < line.qty) :
    (∀ a ∈ ownAllocations settings call d line, 0 < a.qty ∧ a.qty ≤ line.qty) ∧
      (p.tracksInventory = false →
        ownAllocations settings call d line = [⟨primaryOf call, line.qty⟩]) := by
  unfold ownAllocations
  cases htracks : p.tracksInventory with
  | false =>
    rw [h.none htracks]
    simpa using hqty
  | true =>
    obtain ⟨allocations, htaken, hallocated⟩ := h.own htracks
    rw [htaken]
    refine ⟨?_, by simp⟩
    intro a ha
    refine ⟨hallocated.positive a ha, ?_⟩
    rw [← hallocated.total]
    have hnonneg : ∀ qty ∈ allocations.map LocationAllocation.qty, 0 ≤ qty := by
      intro qty hmem
      obtain ⟨b, hb, rfl⟩ := List.mem_map.mp hmem
      exact (hallocated.positive b hb).le
    exact List.single_le_sum hnonneg _ (List.mem_map_of_mem ha)

theorem netAt_taken_back (t : TakenProduct) (item location : String) :
    netAt item location t.moves +
      netAt item location (t.allocations.map (fun a => ⟨t.item, a.locationId, a.qty⟩)) = 0 := by
  unfold TakenProduct.moves
  induction t.allocations with
  | nil => rfl
  | cons a rest ih =>
    simp only [List.map_cons, netAt_cons]
    split <;> omega

theorem LinePlanned.net (h : LinePlanned settings call d line p) {item : String}
    (hitem : p.tracksInventory = true ∨ d.tracks item = true) (location : String) :
    netAt item location ((lineTaken settings call d line).flatMap TakenProduct.moves) +
        netAt item location (d.deductionMoves
          (creditsOf line.sku (ownAllocations settings call d line))) =
      netAt item location ((recipeTaken settings call d line).flatMap TakenProduct.moves) := by
  rw [h.credited, lineTaken, List.flatMap_append, netAt_append]
  cases htracks : p.tracksInventory with
  | true =>
    obtain ⟨allocations, htaken, _⟩ := h.own htracks
    have hown : ownAllocations settings call d line = allocations := by
      rw [ownAllocations, htaken]
      rfl
    have hcancel := netAt_taken_back ⟨p.id, line.sku, allocations⟩ item location
    rw [hown, htaken, List.flatMap_singleton]
    simp only at hcancel
    omega
  | false =>
    have htracked : d.tracks item = true := by
      rcases hitem with hown | hitem
      · rw [htracks] at hown
        cases hown
      · exact hitem
    have hother : ∀ m ∈ (ownAllocations settings call d line).map
        (fun a => (⟨p.id, a.locationId, a.qty⟩ : StockMove)), m.item ≠ item := by
      intro m hm
      obtain ⟨a, _, rfl⟩ := List.mem_map.mp hm
      rintro rfl
      obtain ⟨_, hfind, _⟩ := productIdBySku_of_productBySku h.product
      rw [tracks, hfind] at htracked
      simp [htracks] at htracked
    rw [h.none htracks, netAt_of_other hother]
    simp

theorem deductionMoves_flatMap_lines (d : DomainTables κ) (f : SaleLine → List StockDeduction)
    (lines : List SaleLine) :
    d.deductionMoves (lines.flatMap f) = lines.flatMap (fun line => d.deductionMoves (f line)) := by
  induction lines with
  | nil => rfl
  | cons line rest ih =>
    rw [List.flatMap_cons, deductionMoves_append, ih, List.flatMap_cons]

theorem lines_net {lines : List SaleLine} {item : String}
    (hplanned : ∀ line ∈ lines, ∃ p, LinePlanned settings call d line p)
    (hitem : ∀ line ∈ lines, ∀ p, LinePlanned settings call d line p →
      p.tracksInventory = true ∨ d.tracks item = true) (location : String) :
    netAt item location ((lines.flatMap (lineTaken settings call d)).flatMap TakenProduct.moves) +
        netAt item location (d.deductionMoves (lines.flatMap (fun line =>
          creditsOf line.sku (ownAllocations settings call d line)))) =
      netAt item location
        ((lines.flatMap (recipeTaken settings call d)).flatMap TakenProduct.moves) := by
  induction lines with
  | nil => rfl
  | cons line rest ih =>
    obtain ⟨⟨p, hp⟩, hplanned⟩ := List.forall_mem_cons.mp hplanned
    obtain ⟨hline, hitem⟩ := List.forall_mem_cons.mp hitem
    have hhere := hp.net (hline p hp) location
    have hlater := ih hplanned hitem
    simp only [List.flatMap_cons, List.flatMap_append, deductionMoves_append, netAt_append]
    omega

theorem recipeTaken_of_plain (h : PlainLine settings d line) :
    recipeTaken settings call d line = [] := by
  obtain ⟨p, hp, _, hrecipe⟩ := h
  rw [recipeTaken, hp, List.flatMap_eq_nil_iff]
  intro r hr
  have htracks := hrecipe r hr
  unfold tracks at htracks
  unfold ingredientTaken
  cases hfind : d.products.find? r.ingredientProductId with
  | none => rfl
  | some q =>
    rw [hfind] at htracks
    have hq : q.tracksInventory = false := htracks
    simp [Option.filter, hq]

theorem rows_of_taken {t : TakenProduct} {qty : Int} (h : t.Covers d qty) {m : StockMove}
    (hm : m ∈ t.moves) : m.item = t.item ∧ m.delta < 0 ∧ d.hasLocationRows t.item = true := by
  obtain ⟨a, ha, rfl⟩ := TakenProduct.mem_moves hm
  have hpos := h.allocated.positive a ha
  have havailable := h.allocated.available a ha
  have hsome : d.quantityAt t.item a.locationId ≠ 0 := by omega
  refine ⟨rfl, ?_, hasLocationRows_of_quantity hsome⟩
  simp only
  omega

end Net

/-- A checkout and its void, with no other stock operation between them. -/
structure TakenAndPutBack (settings : CheckoutSettings) (call : CheckoutCall) (sale : Sale)
    (d d₁ d₂ d₃ : DomainTables κ) : Prop where
  units : ∀ line ∈ sale.lines, 0 < line.qty
  planned : ∀ line ∈ sale.lines, ∃ p, LinePlanned settings call d line p
  took : Wrote settings.bindings d
    ((saleTaken settings call d sale).flatMap TakenProduct.moves) d₁
  summary : d₂.stockSummary = d₁.stockSummary
  inventory : d₂.inventory = d₁.inventory
  putBack : Wrote settings.bindings d₂ (d.deductionMoves (saleCredits settings call d sale)) d₃

theorem takenAndPutBack {settings : CheckoutSettings} {draw : CheckoutDraw} {call : CheckoutCall}
    {sale : Sale} {db₁ db₂ db₃ : SalesDb κ} (hskus : db.domain.SkusDistinct)
    (hchecked : CheckedOut settings draw call sale db db₁)
    (hbetween : StockUntouched sale.id db₁ db₂) (hvoid : Voided now sale.id db₂ db₃) :
    ∃ d₁ d₃, TakenAndPutBack settings call sale db.domain d₁ db₂.domain d₃ ∧
      db₃.domain.stockSummary = d₃.stockSummary := by
  have hmoves := hchecked.moves hskus
  obtain ⟨d₁, hwrote, hsettled⟩ := hchecked.took
  rw [hmoves] at hwrote
  obtain ⟨_, _, _, _, hdomain⟩ := hsettled.domain
  have hfits : ∀ line ∈ sale.lines, ∀ a ∈ ownAllocations settings call db.domain line,
      FitsI64 a.qty := by
    intro line hline a ha
    obtain ⟨p, hp⟩ := hchecked.planned line hline
    have hrecorded := (hp.recorded (hsettled.units line hline)).1 a ha
    have hline := sale.lines_fit line hline
    unfold FitsI64 at hline ⊢
    omega
  have hcolumn : (db₂.terms sale.id).deductionLocations = some (.json (deductionDoc
      (sale.lines.map (fun line => recordedLineJson draw.now line
        (ownAllocations settings call db.domain line))))) := by
    rw [hbetween.recorded, hsettled.terms, Function.update_self]
  obtain ⟨d₃, hputBack, hlast⟩ :=
    voidPendingSale_ok settings.bindings hfits hcolumn hvoid.void
  have hskusSame : ∀ sku, db₂.domain.productIdBySku sku = db.domain.productIdBySku sku := by
    intro sku
    rw [hbetween.skus, hdomain]
    exact hwrote.frame.productIdBySku sku
  rw [deductionMoves_congr hskusSame] at hputBack
  refine ⟨d₁, d₃, ⟨hsettled.units, hchecked.planned, hwrote, ?_, ?_, hputBack⟩, ?_⟩
  · rw [hbetween.summary, hdomain]
  · rw [hbetween.inventory, hdomain]
  · rw [hlast]
    rfl

section Restored

variable {settings : CheckoutSettings} {call : CheckoutCall} {sale : Sale}
  {d d₁ d₂ d₃ : DomainTables κ}

theorem TakenAndPutBack.rows (h : TakenAndPutBack settings call sale d d₁ d₂ d₃)
    (hskus : d.SkusDistinct) {m : StockMove}
    (hm : m ∈ (saleTaken settings call d sale).flatMap TakenProduct.moves) :
    m.delta < 0 ∧ d.hasLocationRows m.item = true ∧ d.tracks m.item = true := by
  obtain ⟨t, ht, hm⟩ := List.mem_flatMap.mp hm
  obtain ⟨line, hline, ht⟩ := List.mem_flatMap.mp ht
  obtain ⟨p, hp⟩ := h.planned line hline
  obtain ⟨_, qty, hcovers⟩ := hp.taken hskus t ht
  obtain ⟨hitem, hneg, hrows⟩ := rows_of_taken hcovers hm
  obtain ⟨q, hq, _, hqtracks⟩ := hcovers.product
  rw [hitem]
  refine ⟨hneg, hrows, ?_⟩
  rw [tracks, hq]
  exact hqtracks

theorem mem_saleCredits (hplanned : ∀ line ∈ sale.lines, ∃ p, LinePlanned settings call d line p)
    {m : StockMove} (hm : m ∈ d.deductionMoves (saleCredits settings call d sale)) :
    ∃ line ∈ sale.lines, ∃ p, LinePlanned settings call d line p ∧
      ∃ a ∈ ownAllocations settings call d line, m = ⟨p.id, a.locationId, a.qty⟩ := by
  rw [saleCredits, deductionMoves_flatMap_lines] at hm
  obtain ⟨line, hline, hm⟩ := List.mem_flatMap.mp hm
  obtain ⟨p, hp⟩ := hplanned line hline
  rw [hp.credited] at hm
  obtain ⟨a, ha, rfl⟩ := List.mem_map.mp hm
  exact ⟨line, hline, p, hp, a, ha, rfl⟩

theorem TakenAndPutBack.quantity (h : TakenAndPutBack settings call sale d d₁ d₂ d₃)
    {item : String} (hrows : d.hasLocationRows item = true)
    (hitem : ∀ line ∈ sale.lines, ∀ p, LinePlanned settings call d line p →
      p.tracksInventory = true ∨ d.tracks item = true) (location : String) :
    d₃.quantityAt item location = d.quantityAt item location + netAt item location
      ((sale.lines.flatMap (recipeTaken settings call d)).flatMap TakenProduct.moves) := by
  have htaken := h.took.quantity hrows location
  have hrows₂ : d₂.hasLocationRows item = true := by
    rw [hasLocationRows, h.summary]
    exact h.took.keepsRows hrows
  have hput := h.putBack.quantity hrows₂ location
  have hnet := lines_net h.planned hitem location
  have hsame : d₂.quantityAt item location = d₁.quantityAt item location := by
    rw [quantityAt, h.summary, quantityAt]
  rw [saleCredits] at hput
  rw [saleTaken] at htaken
  omega

theorem TakenAndPutBack.restores (h : TakenAndPutBack settings call sale d d₁ d₂ d₃)
    (hskus : d.SkusDistinct) (hplain : ∀ line ∈ sale.lines, PlainLine settings d line)
    (item location : String) : d₃.quantityAt item location = d.quantityAt item location := by
  have htracked : ∀ line ∈ sale.lines, ∀ p, LinePlanned settings call d line p →
      p.tracksInventory = true := by
    intro line hline p hp
    obtain ⟨q, hq, hqtracks, _⟩ := hplain line hline
    rw [Option.some.inj (hp.product.symm.trans hq)]
    exact hqtracks
  cases hrows : d.hasLocationRows item with
  | true =>
    have hnone : sale.lines.flatMap (recipeTaken settings call d) = [] := by
      rw [List.flatMap_eq_nil_iff]
      exact fun line hline => recipeTaken_of_plain (hplain line hline)
    rw [h.quantity hrows (fun line hline p hp => .inl (htracked line hline p hp)), hnone]
    simp
  | false =>
    have htook := h.took.elsewhere item (by
      rintro m hm rfl
      rw [(h.rows hskus hm).2.1] at hrows
      cases hrows)
    have hput := h.putBack.elsewhere item (by
      intro m hm hsame
      obtain ⟨line, hline, p, hp, a, ha, rfl⟩ := mem_saleCredits h.planned hm
      obtain ⟨allocations, htaken, hallocated⟩ := hp.own (htracked line hline p hp)
      rw [ownAllocations, htaken] at ha
      have hpos := hallocated.positive a ha
      have havailable := hallocated.available a ha
      have hsome : d.quantityAt p.id a.locationId ≠ 0 := by omega
      rw [← hsame, hasLocationRows_of_quantity hsome] at hrows
      cases hrows)
    rw [hput.2.2, quantityAt, h.summary]
    exact htook.2.2 location

theorem TakenAndPutBack.plain (h : TakenAndPutBack settings call sale d d₁ d₂ d₃)
    (hskus : d.SkusDistinct) (hheld : LegacyHeld d)
    (hrestored : ∀ item location, d₃.quantityAt item location = d.quantityAt item location) :
    ∀ line ∈ sale.lines, PlainLine settings d line := by
  intro line hline
  obtain ⟨p, hp⟩ := h.planned line hline
  have hqty := h.units line hline
  refine ⟨p, hp.product, ?_, ?_⟩
  · -- an untracked line is put back at the primary location
    cases htracks : p.tracksInventory with
    | true => rfl
    | false =>
      exfalso
      obtain ⟨_, hfind, _⟩ := productIdBySku_of_productBySku hp.product
      have huntracked : d.tracks p.id = false := by
        rw [tracks, hfind]
        exact htracks
      have htook := h.took.elsewhere p.id (by
        intro m hm hsame
        rw [← hsame, (h.rows hskus hm).2.2] at huntracked
        cases huntracked)
      have hheld₂ : LegacyHeld d₂ := by
        intro item hrows
        have hheld₁ := h.took.legacyHeld hheld item
        rw [hasLocationRows, h.summary] at hrows
        rw [onHand, hasLocationRows, summaryTotal, inventoryQty, h.summary, h.inventory]
        exact hheld₁ hrows
      have hpositive : ∀ m ∈ d.deductionMoves (saleCredits settings call d sale),
          m.item = p.id → 0 < 1 * m.delta := by
        intro m hm _
        obtain ⟨other, hother, q, hq, a, ha, rfl⟩ := mem_saleCredits h.planned hm
        have := ((hq.recorded (h.units other hother)).1 a ha).1
        simp only
        omega
      have hcredit : ⟨p.id, primaryOf call, line.qty⟩ ∈
          d.deductionMoves (saleCredits settings call d sale) := by
        rw [saleCredits, deductionMoves_flatMap_lines, List.mem_flatMap]
        refine ⟨line, hline, ?_⟩
        rw [hp.credited, (hp.recorded hqty).2 htracks]
        exact List.mem_singleton_self _
      have hnet := (netAt_signed 1 (primaryOf call) hpositive).2
        ⟨_, hcredit, rfl, rfl⟩
      have hlifts := h.putBack.lifts (hheld₂ p.id) (fun m hm hitem => by
        have := hpositive m hm hitem
        omega) (primaryOf call)
      have hsame : d₂.quantityAt p.id (primaryOf call) = d₁.quantityAt p.id (primaryOf call) := by
        rw [quantityAt, h.summary, quantityAt]
      have hbefore := htook.2.2 (primaryOf call)
      have hback := hrestored p.id (primaryOf call)
      omega
  · -- a tracked ingredient is never put back
    intro r hr
    cases htracks : d.tracks r.ingredientProductId with
    | false => rfl
    | true =>
      exfalso
      obtain ⟨t, ht, hitem, hcovers⟩ := hp.ingredients.each r hr htracks
      have hsum := hcovers.allocated.total
      have hunits : 0 < line.qty * r.quantityRequired := Int.mul_pos hqty r.required_pos
      obtain ⟨a, ha⟩ : ∃ a, a ∈ t.allocations := by
        apply List.exists_mem_of_ne_nil
        rintro hnil
        rw [hnil, List.map_nil, List.sum_nil] at hsum
        omega
      have hmove : ⟨t.item, a.locationId, -a.qty⟩ ∈ t.moves := List.mem_map_of_mem ha
      obtain ⟨_, _, hrows⟩ := rows_of_taken hcovers hmove
      have hmoves : ∀ m ∈ (sale.lines.flatMap (recipeTaken settings call d)).flatMap
          TakenProduct.moves, m.item = t.item → 0 < -1 * m.delta := by
        intro m hm _
        obtain ⟨t', ht', hm⟩ := List.mem_flatMap.mp hm
        obtain ⟨other, hother, ht'⟩ := List.mem_flatMap.mp ht'
        obtain ⟨q, hq⟩ := h.planned other hother
        obtain ⟨_, hcovers'⟩ := hq.ingredients.covers t' ht'
        have := (rows_of_taken hcovers' hm).2.1
        omega
      have hnet := (netAt_signed (-1) a.locationId hmoves).2
        ⟨_, List.mem_flatMap.mpr ⟨t, List.mem_flatMap.mpr ⟨line, hline, ht⟩, hmove⟩, rfl, rfl⟩
      have hquantity := h.quantity hrows
        (fun _ _ _ _ => .inr (by rw [hitem]; exact htracks)) a.locationId
      have hback := hrestored t.item a.locationId
      omega

end Restored

/-- Voiding a pending sale undoes its checkout just when every line sells a product that keeps
stock and whose recipe names none that does. -/
theorem void_restores_iff {settings : CheckoutSettings} {draw : CheckoutDraw}
    {call : CheckoutCall} {sale : Sale} {result : CompleteSaleResult} {now : String}
    {db db₁ db₂ db₃ : SalesDb κ} (hskus : db.domain.SkusDistinct)
    (hheld : ∀ row ∈ db.domain.inventory.rows, 0 ≤ row.qty)
    (hcheckout : completeSaleDeductionWithLocations settings draw call sale db = .ok (db₁, result))
    (hbetween : StockUntouched sale.id db₁ db₂) (hvoid : Voided now sale.id db₂ db₃) :
    (∀ item location, db₃.domain.quantityAt item location = db.domain.quantityAt item location) ↔
      ∀ line ∈ sale.lines, PlainLine settings db.domain line := by
  obtain ⟨d₁, d₃, hboth, hsummary⟩ := takenAndPutBack hskus
    (completeSaleDeductionWithLocations_ok hcheckout) hbetween hvoid
  have hquantity : ∀ item location,
      db₃.domain.quantityAt item location = d₃.quantityAt item location := by
    intro item location
    rw [quantityAt, hsummary, quantityAt]
  simp only [hquantity]
  exact ⟨hboth.plain hskus (legacyHeld_of_inventory hheld), hboth.restores hskus⟩

def shopTables : DomainTables Unit :=
  { DomainTables.empty () with
    products := ((Table.empty.insertNew ⟨"prod-1", "default", "SKU-1", "Beans", 1500, "IDR", none,
      none, "retail", "2026-01-01T00:00:00.000Z"⟩).insertNew ⟨"prod-2", "default", "SKU-2",
      "Coffee", 2500, "IDR", none, none, "restaurant", "2026-01-01T00:00:00.000Z"⟩).insertNew
      ⟨"prod-3", "default", "SKU-3", "Wrapping", 500, "IDR", none, none, "service",
        "2026-01-01T00:00:00.000Z"⟩
    inventory := (Table.empty.insertNew
      ⟨"prod-1", canonicalDefaultLocation, 8, "2026-01-01T00:00:00.000Z"⟩).insertNew
      ⟨"prod-2", canonicalDefaultLocation, 4, "2026-01-01T00:00:00.000Z"⟩
    stockSummary := (Table.empty.insertNew
      ⟨"prod-1", canonicalDefaultLocation, 8, "2026-01-01T00:00:00.000Z"⟩).insertNew
      ⟨"prod-2", canonicalDefaultLocation, 4, "2026-01-01T00:00:00.000Z"⟩ }

def shopDb : SalesDb Unit :=
  { domain := shopTables, terms := fun _ => ⟨"IDR", none⟩, saleLines := Table.empty
    queue := Table.empty, kdsOrders := [], kdsLineItems := [] }

def shopSettings : CheckoutSettings :=
  ⟨⟨[], Table.empty, []⟩, [⟨"recipe-1", "prod-2", "prod-1", 2, by omega⟩], [], fun _ _ _ => []⟩

def shopCall : CheckoutCall := ⟨none, [], [5000], "user-1", none⟩

def shopDraw : CheckoutDraw :=
  ⟨"2026-01-02T00:00:00.000Z", "row-1", "tx-1", none, none, none, .ok (), none⟩

def shopSale (sku : String) (qty : Nat) (hqty : qty ≤ 100) : Sale where
  id := "sale-1"
  totalMinor := 1500
  currency := "IDR"
  customerId := none
  userId := some "user-1"
  baseTotalMinor := none
  createdAt := "2026-01-02T00:00:00.000Z"
  lines := [⟨"line-1", "sale-1", sku, qty, 500, 1500, 0, none, 1⟩]
  lines_fit := by
    unfold FitsI64
    simp only [List.forall_mem_singleton]
    omega

theorem one_fits : 1 ≤ 100 := by decide

theorem two_fits : 2 ≤ 100 := by decide

def shopRoundTrip (sale : Sale) : Option (SalesDb Unit × SalesDb Unit) :=
  match completeSaleDeductionWithLocations shopSettings shopDraw shopCall sale shopDb with
  | .error _ => none
  | .ok (db₁, _) =>
    match voidPendingSale "2026-01-02T00:30:00.000Z" sale.id db₁ with
    | .error _ => none
    | .ok db₃ => some (db₁, db₃)

theorem shopRoundTrip_ok {sale : Sale} {db₁ db₃ : SalesDb Unit}
    (h : shopRoundTrip sale = some (db₁, db₃)) :
    (∃ result, completeSaleDeductionWithLocations shopSettings shopDraw shopCall sale shopDb =
        .ok (db₁, result)) ∧
      StockUntouched sale.id db₁ db₁ ∧ Voided "2026-01-02T00:30:00.000Z" sale.id db₁ db₃ := by
  unfold shopRoundTrip at h
  split at h
  · cases h
  · rename_i db result hcheckout
    split at h
    · cases h
    · rename_i db' hvoid
      cases h
      exact ⟨⟨result, hcheckout⟩, ⟨fun _ => rfl, rfl, rfl, rfl⟩, .direct hvoid⟩

theorem shop_skus : shopTables.SkusDistinct := by
  unfold SkusDistinct
  decide +kernel

theorem shop_held : ∀ row ∈ shopTables.inventory.rows, 0 ≤ row.qty := by decide

theorem shop_beans_plain : ∀ line ∈ (shopSale "SKU-1" 2 two_fits).lines,
    PlainLine shopSettings shopTables line := by
  refine List.forall_mem_singleton.mpr ⟨_, rfl, rfl, ?_⟩
  decide +kernel

theorem shop_beans_restored :
    ∃ db₁ db₃, shopRoundTrip (shopSale "SKU-1" 2 two_fits) = some (db₁, db₃) ∧
      ∀ item location, db₃.domain.quantityAt item location =
        shopTables.quantityAt item location := by
  have hsome : (shopRoundTrip (shopSale "SKU-1" 2 two_fits)).isSome = true := by decide +kernel
  obtain ⟨⟨db₁, db₃⟩, hround⟩ := Option.isSome_iff_exists.mp hsome
  obtain ⟨⟨result, hcheckout⟩, hbetween, hvoid⟩ := shopRoundTrip_ok hround
  exact ⟨db₁, db₃, hround,
    (void_restores_iff shop_skus shop_held hcheckout hbetween hvoid).mpr shop_beans_plain⟩

/-- A voided wrapping is put back though none was taken; the beans of a voided coffee are lost. -/
theorem shop_void_differs :
    shopTables.SkusDistinct ∧ (∀ row ∈ shopTables.inventory.rows, 0 ≤ row.qty) ∧
    (∃ db₁ db₃, shopRoundTrip (shopSale "SKU-3" 1 one_fits) = some (db₁, db₃) ∧
      db₃.domain.quantityAt "prod-3" canonicalDefaultLocation = 1 ∧
      shopTables.quantityAt "prod-3" canonicalDefaultLocation = 0) ∧
    ∃ db₁ db₃, shopRoundTrip (shopSale "SKU-2" 1 one_fits) = some (db₁, db₃) ∧
      db₃.domain.quantityAt "prod-1" canonicalDefaultLocation = 6 ∧
      shopTables.quantityAt "prod-1" canonicalDefaultLocation = 8 := by
  refine ⟨shop_skus, shop_held, ?_, ?_⟩
  · have hround : (shopRoundTrip (shopSale "SKU-3" 1 one_fits)).map (fun dbs =>
        dbs.2.domain.quantityAt "prod-3" canonicalDefaultLocation) = some 1 := by decide +kernel
    obtain ⟨⟨db₁, db₃⟩, hround, hquantity⟩ := Option.map_eq_some_iff.mp hround
    exact ⟨db₁, db₃, hround, hquantity, by decide⟩
  · have hround : (shopRoundTrip (shopSale "SKU-2" 1 one_fits)).map (fun dbs =>
        dbs.2.domain.quantityAt "prod-1" canonicalDefaultLocation) = some 6 := by decide +kernel
    obtain ⟨⟨db₁, db₃⟩, hround, hquantity⟩ := Option.map_eq_some_iff.mp hround
    exact ⟨db₁, db₃, hround, hquantity, by decide⟩

end OzPos
