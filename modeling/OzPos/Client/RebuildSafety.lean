import OzPos.Client.Rebuilt
import OzPos.Client.StockCalls

namespace OzPos

variable {κ : Type}

namespace ProductView

/-- Nothing has been backfilled for the product, or nothing is missing. -/
def Unfilled (item : String) (v : ProductView) : Prop :=
  0 < v.gap → ∀ m ∈ v.ledger, m.id ≠ some (backfillId item)

theorem Unfilled.of_gap {item : String} {v : ProductView} (h : v.gap = 0) : v.Unfilled item := by
  intro hpos
  omega

theorem bookedAt_healedLedger {item : String} {v : ProductView} (h : v.Unfilled item)
    (now location : String) :
    bookedAt (v.healedLedger now item) location =
      bookedAt v.ledger location + if location = canonicalDefaultLocation then v.gap else 0 := by
  have hgap := DomainTables.gap_nonneg v
  unfold healedLedger
  by_cases hpos : 0 < v.gap
  · rw [if_pos hpos, backfilled, if_neg (by simpa using h hpos), bookedAt_append]
    by_cases heq : location = canonicalDefaultLocation
    · simp [bookedAt, DomainTables.backfillRow, heq]
    · simp [bookedAt, DomainTables.backfillRow, heq, Ne.symm heq]
  · have hzero : v.gap = 0 := by omega
    rw [if_neg hpos, hzero, ite_self, Int.add_zero]

theorem booked_healedLedger {item : String} {v : ProductView} (h : v.Unfilled item)
    (now : String) : booked (v.healedLedger now item) = booked v.ledger + v.gap := by
  have hgap := DomainTables.gap_nonneg v
  unfold healedLedger
  by_cases hpos : 0 < v.gap
  · rw [if_pos hpos, backfilled, if_neg (by simpa using h hpos), booked_append]
    simp [booked, DomainTables.backfillRow]
  · rw [if_neg hpos]
    omega

variable (now item : String) (v : ProductView)

theorem total_rebuilt (h : v.Unfilled item) :
    (v.rebuilt now item).total = booked v.ledger + v.gap := by
  rw [← booked_healedLedger h now, ← sum_cells]
  simp only [total, rebuilt, List.map_map]
  rfl

theorem find?_rebuilt (location : String) :
    ((v.rebuilt now item).summary.find? (fun row => row.locationId = location)).map
        SummaryRow.qty =
      if location ∈ cells (v.healedLedger now item) then
        some (bookedAt (v.healedLedger now item) location)
      else none := by
  simp only [rebuilt]
  induction cells (v.healedLedger now item) with
  | nil => rfl
  | cons l rest ih =>
    rw [List.map_cons, List.find?_cons]
    by_cases heq : l = location
    · simp [heq]
    · simp only [heq, decide_false, ih, List.mem_cons, Ne.symm heq, false_or]

variable {v}

theorem healedLedger_ne_nil (h : v.ledger ≠ []) : v.healedLedger now item ≠ [] := by
  unfold healedLedger
  split
  · exact backfilled_ne_nil _ _ _ _
  · exact h

theorem inventory_rebuilt (h : v.healedLedger now item ≠ []) :
    (v.rebuilt now item).inventory =
      some ⟨item, canonicalDefaultLocation, booked (v.healedLedger now item), now⟩ := by
  simp [rebuilt, h]

theorem gap_rebuilt (h : v.ledger ≠ []) : (v.rebuilt now item).gap = 0 := by
  have hne := healedLedger_ne_nil now item h
  simp [gap, rebuilt, hne]

theorem healedLedger_rebuilt (later : String) (h : v.ledger ≠ []) :
    (v.rebuilt now item).healedLedger later item = v.healedLedger now item := by
  rw [healedLedger, gap_rebuilt now item h, if_neg (Int.lt_irrefl 0)]
  rfl

end ProductView

namespace DomainTables

variable {d d' : DomainTables κ} {w : StockBindings}

theorem mem_rebuildScope {item : String} :
    item ∈ d.rebuildScope ↔ d.hasMovements item = true ∨ d.hasLocationRows item = true := by
  simp [rebuildScope, hasMovements, hasLocationRows]

theorem view_find? (item location : String) :
    d.stockSummary.find? (item, location) =
      (d.view item).summary.find? (fun row => row.locationId = location) := by
  rw [view, List.find?_filter, Table.find?]
  congr 1
  funext row
  simp [SummaryRow.cell]

theorem rebuildStockSummaryFor_ledger {now : String} {items : List String} (hn : items.Nodup)
    (htagged : Tagged d) (hgap : ∀ item ∈ items, (d.view item).gap = 0) {n : Nat}
    (h : d.rebuildStockSummaryFor w now items = .ok (n, d')) :
    d'.stockMovements = d.stockMovements := by
  induction items generalizing d n with
  | nil =>
    cases h
    rfl
  | cons item rest ih =>
    obtain ⟨hnew, hn⟩ := List.nodup_cons.mp hn
    have hhere := hgap item (List.mem_cons_self ..)
    unfold rebuildStockSummaryFor at h
    split at h
    · cases h
    · rename_i rebuilt d₁ hproduct
      obtain ⟨_, hr⟩ := rebuildProduct_ok htagged hproduct
      obtain ⟨⟨m, d₂⟩, hrest, heq⟩ := Except.of_map h
      obtain ⟨-, rfl⟩ := Prod.mk.inj heq
      have hlater : ∀ other ∈ rest, (d₁.view other).gap = 0 := by
        intro other hother
        rw [hr.others other (fun heq => hnew (heq ▸ hother))]
        exact hgap other (List.mem_cons_of_mem _ hother)
      rw [ih hn (htagged.rebuilt hr) hlater hrest, hr.ledger]
      simp [healed, hhere]

theorem rebuildStockSummary_ok {now : String} (htagged : Tagged d) {n : Nat}
    (h : d.rebuildStockSummary w now = .ok (n, d')) :
    (∀ item ∈ d.rebuildScope,
      Rebuildable w now d item ∧ d'.view item = (d.view item).rebuilt now item) ∧
      (∀ item, item ∉ d.rebuildScope → d'.view item = d.view item) ∧ StockOnly d d' ∧
      Tagged d' :=
  rebuildStockSummaryFor_ok (List.nodup_dedup _) htagged h

section Rebuilt

variable {now item : String} (hview : d'.view item = (d.view item).rebuilt now item)
  (hfree : (d.view item).Unfilled item)

include hview hfree

theorem quantityAt_rebuilt (location : String) :
    d'.quantityAt item location = d.movementTotal item location +
      if location = canonicalDefaultLocation then (d.view item).gap else 0 := by
  rw [quantityAt, view_find?, hview, ProductView.find?_rebuilt, view_movementTotal,
    ← ProductView.bookedAt_healedLedger hfree now]
  split
  · rfl
  · rename_i hnot
    rw [ProductView.bookedAt_of_not_mem hnot]
    rfl

theorem summaryTotal_rebuilt : d'.summaryTotal item = d.movementSum item + (d.view item).gap := by
  rw [view_summaryTotal, hview, ProductView.total_rebuilt now item _ hfree, view_movementSum]

variable (hmoved : d.hasMovements item = true)

include hmoved

omit hfree in
theorem hasLocationRows_rebuilt : d'.hasLocationRows item = true := by
  have hne := ProductView.healedLedger_ne_nil now item ((view_hasMovements item).mp hmoved)
  rw [view_hasLocationRows, hview]
  intro hnil
  obtain ⟨m, hm⟩ := List.exists_mem_of_ne_nil _ hne
  have hcells := ProductView.mem_cells.mpr ⟨m, hm, rfl⟩
  rw [List.map_eq_nil_iff.mp hnil] at hcells
  cases hcells

theorem inventoryQty_rebuilt :
    d'.inventoryQty item = some (d.movementSum item + (d.view item).gap) := by
  have hne := ProductView.healedLedger_ne_nil now item ((view_hasMovements item).mp hmoved)
  rw [view_inventoryQty, hview, view_movementSum, ← ProductView.booked_healedLedger hfree now]
  simp [ProductView.rebuilt, hne]

end Rebuilt

end DomainTables

/-- A call of `adjust_stock_at_location_with_reason`, at a clock. -/
structure AdjustCall where
  (now sku : String)
  delta : Int
  location : String
  ctx : MovementContext

def adjustMachine (w : StockBindings) : Machine (DomainTables κ) AdjustCall (Option CoreError) where
  step d call :=
    match d.adjustStockAtLocationFor w call.now call.sku call.delta call.location call.ctx with
    | .ok (_, d') => (d', none)
    | .error e => (d, some e)

/-- A stock from before there were locations, in a database that has been migrated. -/
structure PreLocationStock (d : DomainTables κ) : Prop where
  inventoryOnly : d.InventoryOnly
  fits : ∀ item qty, d.inventoryQty item = some qty → qty < 2^63
  home : canonicalDefaultLocation ∈ d.locations

/-- The same stock, whenever its rows were written. -/
structure SameStock (d d' : DomainTables κ) : Prop where
  frame : DomainTables.StockOnly d d'
  ledger : d'.stockMovements = d.stockMovements
  rows : ∀ item location, (d'.stockSummary.find? (item, location)).map SummaryRow.qty =
    (d.stockSummary.find? (item, location)).map SummaryRow.qty
  inventory : ∀ item, (d'.inventory.find? item).map (fun row => (row.locationId, row.qty)) =
    (d.inventory.find? item).map (fun row => (row.locationId, row.qty))

/-- The rebuild succeeds, keeps what is on hand of every product, leaves no row below zero, and
finds nothing to do a second time. -/
def RebuildSafe (w : StockBindings) (now : String) (d : DomainTables κ) : Prop :=
  ∃ n d', d.rebuildStockSummary w now = .ok (n, d') ∧
    (∀ item, d'.onHand item = d.onHand item ∧ d'.inventoryQty item = d.inventoryQty item) ∧
    (∀ row ∈ d'.stockSummary.rows, 0 ≤ row.qty) ∧
    ∀ later, ∃ m d'', d'.rebuildStockSummary w later = .ok (m, d'') ∧ SameStock d' d''

/-- The aggregate is what the locations hold, and no location's ledger falls below zero when the
old stock counts as booked at the default one. -/
structure RebuildCovered (start d : DomainTables κ) (item : String) : Prop where
  agrees : d.inventoryQty item = some (d.summaryTotal item)
  fits : d.summaryTotal item < 2^63
  levels : ∀ location, 0 ≤ d.movementTotal item location +
    if location = canonicalDefaultLocation then start.legacyQty item else 0

namespace DomainTables

structure Adjusted (w : StockBindings) (start d : DomainTables κ) : Prop where
  frame : StockOnly start d
  ledger : StockLedger w start d
  booked : ∀ m ∈ d.stockMovements, m.id = none ∧ (d.products.find? m.itemId).isSome ∧
    m.locationId ∈ d.locations

variable {d d' start : DomainTables κ} {w : StockBindings}

theorem StockOnly.products (h : StockOnly d d') : d'.products = d.products := by
  obtain ⟨_, _, _, rfl⟩ := h
  rfl

variable {item : String}

theorem find?_of_productIdBySku {sku : String} (h : d.productIdBySku sku = some item) :
    (d.products.find? item).isSome := by
  obtain ⟨p, hp, rfl⟩ := Option.map_eq_some_iff.mp h
  have hmem := List.mem_of_find?_eq_some hp
  rw [(Table.mem_rows_iff d.products p).mp hmem]
  rfl

theorem adjusted_start (w : StockBindings) (h : start.InventoryOnly) : Adjusted w start start := by
  refine ⟨StockOnly.refl start, fun item => productLedger_start w h item, ?_⟩
  intro m hm
  rw [h.ledger] at hm
  cases hm

theorem Adjusted.step (h : Adjusted w start d) (call : AdjustCall) :
    Adjusted w start ((adjustMachine w).step d call).1 := by
  unfold adjustMachine
  cases hok : d.adjustStockAtLocationFor w call.now call.sku call.delta call.location call.ctx with
  | error e => simpa [hok] using h
  | ok answer =>
    obtain ⟨qty, d'⟩ := answer
    obtain ⟨item, hsku, hw⟩ := adjustStockAtLocationFor_ok hok
    simp only [hok]
    refine ⟨h.frame.trans hw.frame, h.ledger.written hw, ?_⟩
    obtain ⟨row, hid, hitem, hlocation, _, hledger⟩ := hw.ledger
    rw [hledger, hw.frame.products, hw.frame.locations]
    intro m hm
    rcases List.mem_append.mp hm with hm | hm
    · exact h.booked m hm
    · rw [List.mem_singleton.mp hm, hitem, hlocation]
      exact ⟨hid, find?_of_productIdBySku hsku, hw.place⟩

theorem Adjusted.run (hstart : start.InventoryOnly) (calls : List AdjustCall) :
    Adjusted w start ((adjustMachine w).run start calls) := by
  have halways : (adjustMachine (κ := κ) w).Along (fun _ _ => True) start calls := by
    rw [Machine.along_iff_splits]
    intro _ _ _ _
    trivial
  exact (adjustMachine w).run_invariant (fun d call h _ => h.step call) start calls
    (adjusted_start w hstart) halways

theorem Adjusted.tagged (h : Adjusted w start d) : Tagged d := by
  intro m hm item hid
  rw [(h.booked m hm).1] at hid
  cases hid

theorem Adjusted.unfilled (h : Adjusted w start d) (item : String) :
    (d.view item).Unfilled item := by
  intro _ m hm
  rw [(h.booked m (List.mem_filter.mp hm).1).1]
  exact Option.some_ne_none _ |>.symm

theorem Adjusted.mem_rebuildScope (h : Adjusted w start d) :
    item ∈ d.rebuildScope ↔ d.hasLocationRows item = true := by
  rw [DomainTables.mem_rebuildScope]
  constructor
  · intro hin
    rcases hin with hmoved | hrows
    · cases hrows : d.hasLocationRows item with
      | true => rfl
      | false =>
        rw [((h.ledger item).fresh hrows).2] at hmoved
        cases hmoved
    · exact hrows
  · exact Or.inr

theorem legacyQty_inStock (h : PreLocationStock start) (item : String) :
    InStock (start.legacyQty item) := by
  unfold legacyQty
  cases hqty : start.inventoryQty item with
  | none => decide
  | some qty => exact ⟨h.inventoryOnly.nonneg item qty hqty, h.fits item qty hqty⟩

theorem Adjusted.gap_eq (h : Adjusted w start d) (hstart : PreLocationStock start)
    (hrows : d.hasLocationRows item = true)
    (hagrees : d.inventoryQty item = some (d.summaryTotal item)) :
    (d.view item).gap = start.legacyQty item := by
  have htotal := (h.ledger item).total hrows
  have hlegacy := (legacyQty_inStock hstart item).1
  rw [DomainTables.gap_eq, hagrees]
  simp only [or_true, and_true]
  split <;> omega

theorem checkedI64_isSome {n : Int} (hlow : -2^63 ≤ n) (hhigh : n < 2^63) :
    (checkedI64 n).isSome := by
  rw [checkedI64, if_pos ⟨hlow, hhigh⟩]
  rfl

theorem quantityAt_nonneg (h : ∀ row ∈ d.stockSummary.rows, 0 ≤ row.qty)
    (item location : String) : 0 ≤ d.quantityAt item location := by
  cases hfind : d.stockSummary.find? (item, location) with
  | none => simp [quantityAt, hfind]
  | some row =>
    obtain ⟨hmem, _⟩ := (Table.find?_eq_some_iff _ _ _).mp hfind
    rw [quantityAt, hfind]
    exact h row hmem

variable {now : String}

theorem Adjusted.covered (h : Adjusted w start d) (hstart : PreLocationStock start)
    (hsafe : RebuildSafe w now d)
    (hrows : d.hasLocationRows item = true) : RebuildCovered start d item := by
  obtain ⟨n, d', hok, hkept, hnonneg, _⟩ := hsafe
  obtain ⟨hin, _⟩ := rebuildStockSummary_ok h.tagged hok
  have hfree := h.unfilled item
  obtain ⟨hable, hview⟩ := hin item (h.mem_rebuildScope.mpr hrows)
  have hmoved := (h.ledger item).moved hrows
  obtain ⟨hon, hinv⟩ := hkept item
  rw [onHand_of_rows (hasLocationRows_rebuilt hview hmoved), onHand_of_rows hrows,
    summaryTotal_rebuilt hview hfree] at hon
  rw [inventoryQty_rebuilt hview hfree hmoved, hon] at hinv
  have hgap := h.gap_eq hstart hrows hinv.symm
  have hsum : (d.healed now item).movementSum item = d.summaryTotal item := by
    rw [view_movementSum, view_healed h.tagged, ProductView.booked_healedLedger hfree,
      ← view_movementSum, hon]
  refine ⟨hinv.symm, ?_, ?_⟩
  · have hhealed : (d.healed now item).hasMovements item = true := by
      rw [view_hasMovements, view_healed h.tagged]
      exact ProductView.healedLedger_ne_nil now item ((view_hasMovements item).mp hmoved)
    have htotal := (hable.total hhealed).1.2
    rw [hsum] at htotal
    exact htotal
  · intro location
    have hlevel := quantityAt_nonneg hnonneg item location
    rw [quantityAt_rebuilt hview hfree, hgap] at hlevel
    exact hlevel

structure HealedWell (now : String) (d : DomainTables κ) (item : String) : Prop where
  free : (d.view item).Unfilled item
  moved : (d.view item).ledger ≠ []
  product : (d.products.find? item).isSome
  home : canonicalDefaultLocation ∈ d.locations
  places : ∀ m ∈ (d.view item).healedLedger now item, m.locationId ∈ d.locations
  levels : ∀ location, 0 ≤ ProductView.bookedAt ((d.view item).healedLedger now item) location
  total : ProductView.booked ((d.view item).healedLedger now item) = d.summaryTotal item
  fits : d.summaryTotal item < 2^63
  agrees : d.inventoryQty item = some (d.summaryTotal item)
  gap : InStock (d.view item).gap

theorem Adjusted.healedWell (h : Adjusted w start d) (hstart : PreLocationStock start)
    (hrows : d.hasLocationRows item = true) (hc : RebuildCovered start d item)
    (now : String) : HealedWell now d item := by
  have hgap := h.gap_eq hstart hrows hc.agrees
  have hmoved := (h.ledger item).moved hrows
  have hhome : canonicalDefaultLocation ∈ d.locations := by
    rw [h.frame.locations]
    exact hstart.home
  have hfree := h.unfilled item
  refine ⟨hfree, (view_hasMovements item).mp hmoved, ?_, hhome, ?_, ?_, ?_, hc.fits, hc.agrees, ?_⟩
  · obtain ⟨m, hm, hitem⟩ := List.any_eq_true.mp hmoved
    have hknown := (h.booked m hm).2.1
    rw [decide_eq_true_eq] at hitem
    rw [hitem] at hknown
    exact hknown
  · have hplaces : ∀ m ∈ (d.view item).ledger, m.locationId ∈ d.locations := fun m hm =>
      (h.booked m (List.mem_filter.mp hm).1).2.2
    intro m hm
    unfold ProductView.healedLedger at hm
    split at hm
    · rename_i hpos
      rw [ProductView.backfilled, if_neg (by simpa using hfree hpos)] at hm
      rcases List.mem_append.mp hm with hm | hm
      · exact hplaces m hm
      · rw [List.mem_singleton.mp hm]
        exact hhome
    · exact hplaces m hm
  · intro location
    rw [ProductView.bookedAt_healedLedger hfree, ← view_movementTotal, hgap]
    exact hc.levels location
  · rw [ProductView.booked_healedLedger hfree, ← view_movementSum, hgap]
    exact ((h.ledger item).total hrows).symm
  · rw [hgap]
    exact legacyQty_inStock hstart item

theorem HealedWell.levels_le (h : HealedWell now d item) :
    0 ≤ d.summaryTotal item ∧
      ∀ location ∈ ProductView.cells ((d.view item).healedLedger now item),
        ProductView.bookedAt ((d.view item).healedLedger now item) location ≤
          d.summaryTotal item := by
  have hterms : ∀ x ∈ (ProductView.cells ((d.view item).healedLedger now item)).map
      (ProductView.bookedAt ((d.view item).healedLedger now item)), 0 ≤ x := by
    intro x hx
    obtain ⟨l, _, rfl⟩ := List.mem_map.mp hx
    exact h.levels l
  have hsum := List.sum_nonneg hterms
  have hle := List.single_le_sum hterms
  rw [ProductView.sum_cells, h.total] at hsum hle
  exact ⟨hsum, fun location hlocation => hle _ (List.mem_map.mpr ⟨location, hlocation, rfl⟩)⟩

theorem HealedWell.rebuildable (htagged : Tagged d) (h : HealedWell now d item) :
    Rebuildable w now d item := by
  obtain ⟨hlow, hle⟩ := h.levels_le
  have hfits := h.fits
  have hgap := h.gap
  have hbooked := h.total
  rw [ProductView.booked_healedLedger h.free, ← view_movementSum] at hbooked
  unfold InStock at hgap
  have hledger : ((d.healed now item).view item).ledger =
      (d.view item).healedLedger now item := by
    rw [view_healed htagged]
  refine ⟨⟨?_, ?_, ?_⟩, fun _ => h.home, ?_, ?_⟩
  · intro _ _
    exact checkedI64_isSome (by omega) (by omega)
  · exact checkedI64_isSome (by omega) hgap.2
  · intro _ _ _ _
    exact checkedI64_isSome (by omega) hfits
  · intro location hlocation
    rw [movedLocations_eq, hledger] at hlocation
    have hlevel := h.levels location
    have hhigh := hle location hlocation
    have hhere : (d.healed now item).movementTotal item location =
        ProductView.bookedAt ((d.view item).healedLedger now item) location := by
      rw [view_movementTotal, hledger]
    obtain ⟨m, hm, hplace⟩ := ProductView.mem_cells.mp hlocation
    refine ⟨?_, ?_, h.product, hplace ▸ h.places m hm⟩
    · rw [hhere]
      exact checkedI64_isSome (by omega) (by omega)
    · rw [hhere]
      exact w.not_refuses_of_nonneg location hlevel
  · intro _
    rw [view_movementSum, hledger, h.total]
    exact ⟨⟨hlow, hfits⟩, h.product, h.home⟩

theorem HealedWell.again (h : HealedWell now d item) (hframe : StockOnly d d')
    (hview : d'.view item = (d.view item).rebuilt now item) (later : String) :
    HealedWell later d' item := by
  have hmoved := (view_hasMovements item).mpr h.moved
  have hledger : (d'.view item).healedLedger later item = (d.view item).healedLedger now item := by
    rw [hview]
    exact ProductView.healedLedger_rebuilt now item later h.moved
  have htotal : d'.summaryTotal item = d.summaryTotal item := by
    rw [summaryTotal_rebuilt hview h.free, view_movementSum,
      ← ProductView.booked_healedLedger h.free now, h.total]
  have hzero : (d'.view item).gap = 0 := by
    rw [hview, ProductView.gap_rebuilt now item h.moved]
  refine ⟨.of_gap hzero, ?_, ?_, ?_, ?_, ?_, ?_, ?_, ?_, ?_⟩
  · rw [hview]
    exact ProductView.healedLedger_ne_nil now item h.moved
  · rw [hframe.products]
    exact h.product
  · rw [hframe.locations]
    exact h.home
  · rw [hledger, hframe.locations]
    exact h.places
  · rw [hledger]
    exact h.levels
  · rw [hledger, htotal]
    exact h.total
  · rw [htotal]
    exact h.fits
  · rw [inventoryQty_rebuilt hview h.free hmoved, htotal, view_movementSum,
      ← ProductView.booked_healedLedger h.free now, h.total]
  · rw [hzero]
    decide

theorem same_of_rebuilt_again {later : String} (htagged : Tagged d')
    (hscope : ∀ item ∈ d.rebuildScope, HealedWell now d item)
    (hin : ∀ item ∈ d.rebuildScope, d'.view item = (d.view item).rebuilt now item)
    (hframe : StockOnly d d') (hwithin : ∀ item ∈ d'.rebuildScope, item ∈ d.rebuildScope) :
    ∃ m d'', d'.rebuildStockSummary w later = .ok (m, d'') ∧ SameStock d' d'' := by
  have hwell : ∀ item ∈ d'.rebuildScope, HealedWell later d' item := fun item hitem =>
    (hscope item (hwithin item hitem)).again hframe (hin item (hwithin item hitem)) later
  have hzero : ∀ item ∈ d'.rebuildScope, (d'.view item).gap = 0 := by
    intro item hitem
    rw [hin item (hwithin item hitem),
      ProductView.gap_rebuilt now item (hscope item (hwithin item hitem)).moved]
  have hexists : ∃ m d'', d'.rebuildStockSummary w later = .ok (m, d'') :=
    rebuildStockSummaryFor_of_rebuildable (List.nodup_dedup _) htagged
      (fun item hitem => (hwell item hitem).rebuildable htagged)
  obtain ⟨m, d'', hok⟩ := hexists
  obtain ⟨hagain, hkept, hframe', _⟩ := rebuildStockSummary_ok htagged hok
  refine ⟨m, d'', hok, hframe',
    rebuildStockSummaryFor_ledger (List.nodup_dedup _) htagged hzero hok, ?_, ?_⟩
  · intro item location
    rw [view_find?, view_find?]
    by_cases hitem : item ∈ d'.rebuildScope
    · have hhere := hin item (hwithin item hitem)
      rw [(hagain item hitem).2, ProductView.find?_rebuilt, hhere, ProductView.find?_rebuilt,
        ProductView.healedLedger_rebuilt now item later (hscope item (hwithin item hitem)).moved]
    · rw [hkept item hitem]
  · intro item
    have hfind : ∀ x : DomainTables κ, x.inventory.find? item = (x.view item).inventory :=
      fun _ => rfl
    rw [hfind, hfind]
    by_cases hitem : item ∈ d'.rebuildScope
    · have hhere := hin item (hwithin item hitem)
      have hmoved := (hscope item (hwithin item hitem)).moved
      have hne := ProductView.healedLedger_ne_nil now item hmoved
      have hledger := ProductView.healedLedger_rebuilt now item later hmoved
      rw [(hagain item hitem).2, hhere, ProductView.inventory_rebuilt now item hne,
        ProductView.inventory_rebuilt later item (by rw [hledger]; exact hne), hledger]
      rfl
    · rw [hkept item hitem]

theorem Adjusted.safe (h : Adjusted w start d) (hstart : PreLocationStock start) (now : String)
    (hc : ∀ item, d.hasLocationRows item = true → RebuildCovered start d item) :
    RebuildSafe w now d := by
  have hscope : ∀ item ∈ d.rebuildScope, HealedWell now d item := by
    intro item hitem
    have hrows := h.mem_rebuildScope.mp hitem
    exact h.healedWell hstart hrows (hc item hrows) now
  have hexists : ∃ n d', d.rebuildStockSummary w now = .ok (n, d') :=
    rebuildStockSummaryFor_of_rebuildable (List.nodup_dedup _) h.tagged
      (fun item hitem => (hscope item hitem).rebuildable h.tagged)
  obtain ⟨n, d', hok⟩ := hexists
  obtain ⟨hin, hkept, hframe, htagged⟩ := rebuildStockSummary_ok h.tagged hok
  have hview : ∀ item ∈ d.rebuildScope, d'.view item = (d.view item).rebuilt now item :=
    fun item hitem => (hin item hitem).2
  have hwithin : ∀ item ∈ d'.rebuildScope, item ∈ d.rebuildScope := by
    intro item hitem
    by_cases hout : item ∈ d.rebuildScope
    · exact hout
    · rw [DomainTables.mem_rebuildScope, view_hasMovements, view_hasLocationRows, hkept item hout,
        ← view_hasMovements, ← view_hasLocationRows, ← DomainTables.mem_rebuildScope] at hitem
      exact absurd hitem hout
  refine ⟨n, d', hok, ?_, ?_, fun later =>
    same_of_rebuilt_again htagged hscope hview hframe hwithin⟩
  · intro item
    by_cases hitem : item ∈ d.rebuildScope
    · have hwell := hscope item hitem
      have hmoved := (view_hasMovements item).mpr hwell.moved
      have hsum : d.movementSum item + (d.view item).gap = d.summaryTotal item := by
        rw [view_movementSum, ← ProductView.booked_healedLedger hwell.free now, hwell.total]
      rw [onHand_of_rows (hasLocationRows_rebuilt (hview item hitem) hmoved),
        onHand_of_rows (h.mem_rebuildScope.mp hitem), summaryTotal_rebuilt (hview item hitem) hwell.free,
        inventoryQty_rebuilt (hview item hitem) hwell.free hmoved, hsum, hwell.agrees]
      exact ⟨rfl, rfl⟩
    · have hsame := hkept item hitem
      have hrows : d'.hasLocationRows item = d.hasLocationRows item := by
        rw [Bool.eq_iff_iff, view_hasLocationRows, view_hasLocationRows, hsame]
      have hinv : d'.inventoryQty item = d.inventoryQty item := by
        rw [view_inventoryQty, view_inventoryQty, hsame]
      refine ⟨?_, hinv⟩
      rw [onHand, onHand, hrows, hinv, view_summaryTotal, view_summaryTotal, hsame]
  · intro row hrow
    have hrows : d'.hasLocationRows row.itemId = true := by
      rw [hasLocationRows, List.any_eq_true]
      exact ⟨row, hrow, by simp⟩
    have hitem := hwithin row.itemId (DomainTables.mem_rebuildScope.mpr (Or.inr hrows))
    have hfree := (hscope _ hitem).free
    rw [← quantityAt_row hrow, quantityAt_rebuilt (hview _ hitem) hfree, view_movementTotal,
      ← ProductView.bookedAt_healedLedger hfree now]
    exact (hscope _ hitem).levels row.locationId

end DomainTables

/-- Whatever adjustments an old stock has seen: its rebuild is safe exactly where, for each product
with location rows, the aggregate is what they hold and no location has had more taken than booked,
the old stock counting as booked at the default location. -/
theorem rebuild_safe_iff (w : StockBindings) (start : DomainTables κ) (calls : List AdjustCall)
    (now : String) (hstart : PreLocationStock start) :
    RebuildSafe w now ((adjustMachine w).run start calls) ↔
      ∀ item, ((adjustMachine w).run start calls).hasLocationRows item = true →
        RebuildCovered start ((adjustMachine w).run start calls) item := by
  have hadjusted := DomainTables.Adjusted.run (w := w) hstart.inventoryOnly calls
  constructor
  · intro hsafe item hrows
    exact hadjusted.covered hstart hsafe hrows
  · intro hc
    exact hadjusted.safe hstart now hc

def oldShelf : DomainTables Unit :=
  { shelfTables with
    inventory := Table.empty.insertNew
      ⟨"prod-1", canonicalDefaultLocation, 10, "2026-01-01T00:00:00.000Z"⟩ }

def strictBindings : StockBindings :=
  ⟨[], Table.empty.insertNew ⟨"shop", "loc-B", false⟩, []⟩

def takeFour (location : String) : AdjustCall :=
  ⟨"2026-01-02T00:00:00.000Z", "SKU-1", -4, location, ⟨some "correction", none, none, none⟩⟩

theorem oldShelf_preLocation : PreLocationStock oldShelf := by
  have hqty : ∀ item qty, oldShelf.inventoryQty item = some qty → qty = 10 := by
    intro item qty h
    obtain ⟨row, hrow, rfl⟩ := Option.map_eq_some_iff.mp h
    obtain ⟨hmem, _⟩ := (Table.find?_eq_some_iff _ _ _).mp hrow
    have hrows : oldShelf.inventory.rows =
        [⟨"prod-1", canonicalDefaultLocation, 10, "2026-01-01T00:00:00.000Z"⟩] := rfl
    rw [hrows, List.mem_singleton] at hmem
    rw [hmem]
  refine ⟨⟨rfl, rfl, ?_⟩, ?_, by decide⟩
  · intro item qty h
    have := hqty item qty h
    omega
  · intro item qty h
    have := hqty item qty h
    omega

/-- Taken at the default location, the old stock is where the rebuild puts it. -/
theorem default_rebuild_safe :
    PreLocationStock oldShelf ∧ RebuildSafe strictBindings "2026-01-03T00:00:00.000Z"
      ((adjustMachine strictBindings).run oldShelf [takeFour canonicalDefaultLocation]) := by
  refine ⟨oldShelf_preLocation, (rebuild_safe_iff _ _ _ _ oldShelf_preLocation).mpr ?_⟩
  intro item hrows
  have hitem : item = "prod-1" := by
    obtain ⟨row, hrow, hitem⟩ := List.any_eq_true.mp hrows
    have hall : ((adjustMachine strictBindings).run oldShelf
        [takeFour canonicalDefaultLocation]).stockSummary.rows =
        [⟨"prod-1", canonicalDefaultLocation, 6, "2026-01-02T00:00:00.000Z"⟩] := by
      rfl
    rw [hall, List.mem_singleton] at hrow
    rw [hrow, decide_eq_true_eq] at hitem
    exact hitem.symm
  rw [hitem]
  have hledger : ((adjustMachine strictBindings).run oldShelf
      [takeFour canonicalDefaultLocation]).stockMovements =
      [⟨none, "prod-1", canonicalDefaultLocation, -4, some "correction", none, none, "",
        "2026-01-02T00:00:00.000Z"⟩] := by
    rfl
  have hlegacy : oldShelf.legacyQty "prod-1" = 10 := by decide
  refine ⟨by decide +kernel, by decide +kernel, ?_⟩
  intro location
  rw [DomainTables.movementTotal, hledger, hlegacy]
  by_cases h : location = canonicalDefaultLocation
  · simp [h]
  · simp [h, Ne.symm h]

/-- Taken anywhere else, the rebuild moves the old stock away from under it: the database refuses
the row below zero, or there is no binding to refuse it. -/
theorem rebuild_unsafe :
    PreLocationStock oldShelf ∧
    ¬ RebuildSafe strictBindings "2026-01-03T00:00:00.000Z"
      ((adjustMachine strictBindings).run oldShelf [takeFour "loc-B"]) ∧
    ¬ RebuildSafe shelfBindings "2026-01-03T00:00:00.000Z"
      ((adjustMachine shelfBindings).run oldShelf [takeFour "loc-B"]) := by
  refine ⟨oldShelf_preLocation, ?_, ?_⟩
  · rintro ⟨n, d', hok, _⟩
    have herror : (match ((adjustMachine strictBindings).run oldShelf
        [takeFour "loc-B"]).rebuildStockSummary strictBindings "2026-01-03T00:00:00.000Z" with
      | .ok _ => none
      | .error e => some e) =
        some (.db "negative stock requires allow_negative_stock on the location binding") := by
      decide +kernel
    rw [hok] at herror
    cases herror
  · rintro ⟨n, d', hok, _, hnonneg, _⟩
    have hlevel : (match ((adjustMachine shelfBindings).run oldShelf
        [takeFour "loc-B"]).rebuildStockSummary shelfBindings "2026-01-03T00:00:00.000Z" with
      | .ok (_, d) => some (d.quantityAt "prod-1" "loc-B")
      | .error _ => none) = some (-4) := by
      decide +kernel
    rw [hok] at hlevel
    have hlow := DomainTables.quantityAt_nonneg hnonneg "prod-1" "loc-B"
    rw [Option.some.inj hlevel] at hlow
    omega

end OzPos
