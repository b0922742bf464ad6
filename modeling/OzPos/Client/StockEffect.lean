import OzPos.Client.Apply

namespace OzPos

structure StockMove where
  (item location : String)
  delta : Int
  deriving DecidableEq

def InStock (n : Int) : Prop := 0 ≤ n ∧ n < 2^63

instance (n : Int) : Decidable (InStock n) := inferInstanceAs (Decidable (_ ∧ _))

theorem checkedStock_of_inStock {n : Int} (h : InStock n) : checkedStock n = some n :=
  (checkedStock_eq_some_iff n n).mpr ⟨rfl, h.1, h.2⟩

namespace DomainTables

variable {κ : Type}

variable (d : DomainTables κ) (now item location : String) (qty : Int) (other : String)

@[simp] theorem hasLocationRows_upsertStockSummary :
    (d.upsertStockSummary now item location qty).hasLocationRows other =
      (d.hasLocationRows other || decide (other = item)) := by
  rw [Bool.eq_iff_iff]
  simp only [hasLocationRows, upsertStockSummary, Bool.or_eq_true, List.any_eq_true,
    decide_eq_true_eq, Table.mem_upsert]
  constructor
  · intro h
    obtain ⟨row, hrow | ⟨hrow, _⟩, hitem⟩ := h
    · right
      rw [← hitem, hrow]
    · exact .inl ⟨row, hrow, hitem⟩
  · intro h
    rcases h with ⟨row, hrow, hitem⟩ | h
    · by_cases hcell : row.cell = SummaryRow.cell ⟨item, location, qty, now⟩
      · refine ⟨_, .inl rfl, ?_⟩
        have hfst := congrArg Prod.fst hcell
        exact hfst.symm.trans hitem
      · exact ⟨row, .inr ⟨hrow, hcell⟩, hitem⟩
    · exact ⟨_, .inl rfl, h.symm⟩

@[simp] theorem quantityAt_upsertStockSummary (other place : String) :
    (d.upsertStockSummary now item location qty).quantityAt other place =
      if other = item ∧ place = location then qty else d.quantityAt other place := by
  unfold quantityAt upsertStockSummary
  rw [Table.find?_upsert]
  by_cases h : other = item ∧ place = location
  · simp [SummaryRow.cell, h]
  · have hcell : SummaryRow.cell ⟨item, location, qty, now⟩ ≠ (other, place) := by
      intro heq
      obtain ⟨hitem, hplace⟩ := Prod.mk.inj heq
      exact h ⟨hitem.symm, hplace.symm⟩
    rw [if_neg hcell, if_neg h]

@[simp] theorem summaryTotal_upsertStockSummary :
    (d.upsertStockSummary now item location qty).summaryTotal other =
      d.summaryTotal other + if other = item then qty - d.quantityAt item location else 0 := by
  unfold summaryTotal upsertStockSummary quantityAt
  rw [Table.sum_upsert]
  have hkey : SummaryRow.cell ⟨item, location, qty, now⟩ = (item, location) := rfl
  rw [hkey]
  by_cases h : other = item
  · subst h
    cases hold : d.stockSummary.find? (other, location) with
    | none =>
      simp only [Option.map_none, Option.getD_none, if_true]
      omega
    | some old =>
      have hitem : old.itemId = other := congrArg Prod.fst (Table.find?_key hold)
      simp only [Option.map_some, Option.getD_some, hitem, if_true]
      omega
  · cases hold : d.stockSummary.find? (item, location) with
    | none => simp [h, Ne.symm h]
    | some old =>
      have hitem : old.itemId = item := congrArg Prod.fst (Table.find?_key hold)
      simp [h, Ne.symm h, hitem]

@[simp] theorem inventoryQty_upsertStockSummary :
    (d.upsertStockSummary now item location qty).inventoryQty other = d.inventoryQty other := rfl

@[simp] theorem inventoryQty_upsertInventory :
    (d.upsertInventory now item location qty).inventoryQty other =
      if other = item then some qty else d.inventoryQty other := by
  unfold inventoryQty upsertInventory
  rw [Table.find?_upsert]
  by_cases h : item = other
  · simp [h]
  · simp [h, Ne.symm h]

@[simp] theorem quantityAt_upsertInventory (other place : String) :
    (d.upsertInventory now item location qty).quantityAt other place = d.quantityAt other place :=
  rfl

@[simp] theorem summaryTotal_upsertInventory :
    (d.upsertInventory now item location qty).summaryTotal other = d.summaryTotal other := rfl

@[simp] theorem hasLocationRows_upsertInventory :
    (d.upsertInventory now item location qty).hasLocationRows other = d.hasLocationRows other :=
  rfl

variable {d : DomainTables κ} {item : String}

theorem row_ne_of_no_rows
    (h : d.hasLocationRows item = false) : ∀ row ∈ d.stockSummary.rows, row.itemId ≠ item := by
  simpa [hasLocationRows] using h

theorem quantityAt_of_no_rows
    (h : d.hasLocationRows item = false) (location : String) : d.quantityAt item location = 0 := by
  have hnone : d.stockSummary.find? (item, location) = none := by
    rw [Table.find?_eq_none_iff]
    intro row hrow hcell
    exact row_ne_of_no_rows h row hrow (congrArg Prod.fst hcell)
  rw [quantityAt, hnone]
  rfl

theorem summaryTotal_of_no_rows (h : d.hasLocationRows item = false) : d.summaryTotal item = 0 := by
  have hzero : d.stockSummary.rows.map (fun row => if row.itemId = item then row.qty else 0) =
      d.stockSummary.rows.map (fun _ => 0) := by
    apply List.map_congr_left
    intro row hrow
    rw [if_neg (row_ne_of_no_rows h row hrow)]
  rw [summaryTotal, hzero]
  simp

theorem onHand_of_no_rows
    (h : d.hasLocationRows item = false) : d.onHand item = (d.inventoryQty item).getD 0 := by
  simp [onHand, h]

theorem onHand_of_rows
    (h : d.hasLocationRows item = true) : d.onHand item = d.summaryTotal item := by
  simp [onHand, h]

theorem locationQty_of_no_rows (h : d.hasLocationRows item = false) (location : String) :
    d.legacyAwareLocationQty item location = d.onHand item := by
  rw [onHand_of_no_rows h, legacyAwareLocationQty, if_neg (by simp [h]), quantityAt_of_no_rows h]
  cases d.inventoryQty item with
  | none => rfl
  | some legacy =>
    by_cases hzero : legacy = 0
    · simp [hzero]
    · simp [hzero]

theorem locationQty_of_rows (h : d.hasLocationRows item = true) (location : String) :
    d.legacyAwareLocationQty item location = d.quantityAt item location := by
  simp [legacyAwareLocationQty, h]

theorem summaryTotal_stamp (d : DomainTables κ) (now item location : String) (delta : Int) :
    (d.upsertStockSummary now item location
        (d.legacyAwareLocationQty item location + delta)).summaryTotal item =
      d.onHand item + delta := by
  rw [summaryTotal_upsertStockSummary, if_pos rfl]
  cases h : d.hasLocationRows item with
  | true =>
    rw [onHand_of_rows h, locationQty_of_rows h]
    omega
  | false =>
    rw [locationQty_of_no_rows h, summaryTotal_of_no_rows h, quantityAt_of_no_rows h]
    omega

def StockOnly (d d' : DomainTables κ) : Prop :=
  ∃ inventory stockSummary stockMovements, d' = { d with inventory, stockSummary, stockMovements }

theorem StockOnly.refl (d : DomainTables κ) : StockOnly d d := ⟨_, _, _, rfl⟩

theorem StockOnly.trans {d₁ d₂ d₃ : DomainTables κ} (h : StockOnly d₁ d₂) (h' : StockOnly d₂ d₃) :
    StockOnly d₁ d₃ := by
  obtain ⟨_, _, _, rfl⟩ := h
  obtain ⟨_, _, _, rfl⟩ := h'
  exact ⟨_, _, _, rfl⟩

/-- A move has been made: the location's level and the product's total change by the delta,
and the aggregate of the product is written. -/
structure Moved (d d' : DomainTables κ) (m : StockMove) : Prop where
  frame : StockOnly d d'
  rows : ∀ item, d'.hasLocationRows item = (d.hasLocationRows item || decide (item = m.item))
  quantity : ∀ item location, d'.quantityAt item location =
    if item = m.item ∧ location = m.location then
      d.legacyAwareLocationQty m.item m.location + m.delta
    else d.quantityAt item location
  onHand : ∀ item, d'.onHand item = d.onHand item + if item = m.item then m.delta else 0
  inventory : ∀ item, d'.inventoryQty item =
    if item = m.item then
      some (if (d.inventoryQty m.item).isSome then d.onHand m.item + m.delta
        else d.legacyAwareLocationQty m.item m.location + m.delta)
    else d.inventoryQty item

structure Fits (d : DomainTables κ) (m : StockMove) : Prop where
  location : m.location ∈ d.locations
  level : InStock (d.legacyAwareLocationQty m.item m.location + m.delta)
  total : d.inventoryQty m.item = none ∨ InStock (d.onHand m.item + m.delta)

def logged (row : StockMovement) (d : DomainTables κ) : DomainTables κ :=
  { d with stockMovements := d.stockMovements ++ [row] }

theorem moved_of_stamp (d : DomainTables κ) (now : String) (m : StockMove) (kept : String)
    (row : StockMovement) (aggregate : Int)
    (haggregate : aggregate = if (d.inventoryQty m.item).isSome then d.onHand m.item + m.delta
      else d.legacyAwareLocationQty m.item m.location + m.delta) :
    Moved d
      (((d.logged row).upsertStockSummary now m.item m.location
        (d.legacyAwareLocationQty m.item m.location + m.delta)).upsertInventory now m.item kept
          aggregate) m := by
  have hstamp : ((d.logged row).upsertStockSummary now m.item m.location
      (d.legacyAwareLocationQty m.item m.location + m.delta)).summaryTotal m.item =
      d.onHand m.item + m.delta :=
    summaryTotal_stamp d now m.item m.location m.delta
  refine ⟨⟨_, _, _, rfl⟩, ?_, ?_, ?_, ?_⟩
  · intro item
    rw [hasLocationRows_upsertInventory, hasLocationRows_upsertStockSummary]
    rfl
  · intro item location
    rw [quantityAt_upsertInventory, quantityAt_upsertStockSummary]
    rfl
  · intro item
    by_cases hitem : item = m.item
    · subst hitem
      rw [onHand_of_rows (by simp), summaryTotal_upsertInventory, hstamp, if_pos rfl]
    · have hsame : ((d.logged row).upsertStockSummary now m.item m.location
          (d.legacyAwareLocationQty m.item m.location + m.delta)).summaryTotal item =
          d.summaryTotal item := by
        rw [summaryTotal_upsertStockSummary, if_neg hitem, Int.add_zero]
        rfl
      have hrows : (d.logged row).hasLocationRows item = d.hasLocationRows item := rfl
      have hinv : (d.logged row).inventoryQty item = d.inventoryQty item := rfl
      simp [DomainTables.onHand, hitem, hsame, hrows, hinv]
  · intro item
    rw [inventoryQty_upsertInventory, haggregate]
    rfl

variable {d' : DomainTables κ}

theorem appendMovement_eq_ok {m : StockMovement} (h : d.appendMovement m = .ok d') :
    m.locationId ∈ d.locations ∧ d' = d.logged m := by
  unfold appendMovement at h
  split at h
  · rename_i hmem
    exact ⟨hmem, (Except.ok.inj h).symm⟩
  · cases h

theorem appendMovement_of_mem {m : StockMovement} (h : m.locationId ∈ d.locations) :
    d.appendMovement m = .ok (d.logged m) := by
  rw [appendMovement, if_pos h]
  rfl

variable {now location : String} {qty : Int}

theorem recomputeInventory_eq_ok (h : d.recomputeInventory now item location qty = .ok d') :
    (d.inventoryQty item = none ∧ d' = d.upsertInventory now item location qty) ∨
      ((d.inventoryQty item).isSome ∧ InStock (d.summaryTotal item) ∧
        d' = d.upsertInventory now item location (d.summaryTotal item)) := by
  unfold recomputeInventory at h
  cases hinv : d.inventoryQty item with
  | none =>
    rw [hinv] at h
    exact .inl ⟨rfl, (Except.ok.inj h).symm⟩
  | some old =>
    right
    simp only [hinv, checkedI64] at h
    by_cases hrange : -2^63 ≤ d.summaryTotal item ∧ d.summaryTotal item < 2^63
    · rw [if_pos hrange] at h
      by_cases hzero : 0 ≤ d.summaryTotal item
      · simp only [hzero, if_true, Except.ok.injEq] at h
        exact ⟨rfl, ⟨hzero, hrange.2⟩, h.symm⟩
      · simp [hzero] at h
    · rw [if_neg hrange] at h
      cases h

theorem recomputeInventory_of_fits (now location : String) (qty : Int)
    (h : d.inventoryQty item = none ∨ InStock (d.summaryTotal item)) :
    ∃ d', d.recomputeInventory now item location qty = .ok d' := by
  unfold recomputeInventory
  cases hinv : d.inventoryQty item with
  | none => exact ⟨_, rfl⟩
  | some old =>
    rcases h with h | ⟨hlow, hhigh⟩
    · simp [hinv] at h
    · have hrange : checkedI64 (d.summaryTotal item) = some (d.summaryTotal item) := by
        rw [checkedI64, if_pos ⟨by omega, hhigh⟩]
      simp only [hrange, if_pos hlow]
      exact ⟨_, rfl⟩

variable {sku : String} {delta : Int}

theorem adjustStockAtLocation_ok {reason : Option String}
    (h : d.adjustStockAtLocationWithReason now sku delta location reason = .ok (qty, d')) :
    ∃ item, d.productIdBySku sku = some item ∧ Fits d ⟨item, location, delta⟩ ∧
      Moved d d' ⟨item, location, delta⟩ := by
  unfold adjustStockAtLocationWithReason at h
  cases hsku : d.productIdBySku sku with
  | none => simp [hsku] at h
  | some item =>
    refine ⟨item, rfl, ?_⟩
    simp only [hsku] at h
    cases hqty : checkedStock (d.legacyAwareLocationQty item location + delta) with
    | none => simp [hqty] at h
    | some stamped =>
      obtain ⟨hstamped, hlow, hhigh⟩ := (checkedStock_eq_some_iff _ _).mp hqty
      subst hstamped
      simp only [hqty] at h
      cases happend : d.appendMovement ⟨none, item, location, delta, reason, none, none, "", now⟩ with
      | error e => simp [happend] at h
      | ok d₁ =>
        obtain ⟨hlocation, rfl⟩ := appendMovement_eq_ok happend
        simp only [happend] at h
        cases hrecompute : ((d.logged ⟨none, item, location, delta, reason, none, none, "",
            now⟩).upsertStockSummary now item location
            (d.legacyAwareLocationQty item location + delta)).recomputeInventory now item location
              (d.legacyAwareLocationQty item location + delta) with
        | error e => simp [hrecompute] at h
        | ok d₂ =>
          simp only [hrecompute, Except.ok.injEq, Prod.mk.injEq] at h
          obtain ⟨_, rfl⟩ := h
          have htotal := summaryTotal_stamp d now item location delta
          rcases recomputeInventory_eq_ok hrecompute with ⟨hinv, rfl⟩ | ⟨hinv, hstock, rfl⟩
          · have hnone : d.inventoryQty item = none := hinv
            refine ⟨⟨hlocation, ⟨hlow, hhigh⟩, .inl hnone⟩, ?_⟩
            refine moved_of_stamp d now ⟨item, location, delta⟩ location _ _ ?_
            rw [hnone]
            rfl
          · have hsome : (d.inventoryQty item).isSome := hinv
            refine ⟨⟨hlocation, ⟨hlow, hhigh⟩, .inr ?_⟩, ?_⟩
            · rw [← htotal]
              exact hstock
            · refine moved_of_stamp d now ⟨item, location, delta⟩ location _ _ ?_
              rw [if_pos hsome]
              exact htotal

theorem adjustStockAtLocation_of_fits (now : String) (reason : Option String)
    (hsku : d.productIdBySku sku = some item) (h : Fits d ⟨item, location, delta⟩) :
    ∃ result, d.adjustStockAtLocationWithReason now sku delta location reason = .ok result := by
  let row : StockMovement := ⟨none, item, location, delta, reason, none, none, "", now⟩
  have happend : d.appendMovement row = .ok (d.logged row) := appendMovement_of_mem h.location
  have htotal : d.inventoryQty item = none ∨ InStock (((d.logged row).upsertStockSummary now item
      location (d.legacyAwareLocationQty item location + delta)).summaryTotal item) := by
    rcases h.total with hnone | hstock
    · exact .inl hnone
    · right
      have hstamp := summaryTotal_stamp d now item location delta
      rw [← hstamp] at hstock
      exact hstock
  obtain ⟨d', hrecompute⟩ := recomputeInventory_of_fits now location
    (d.legacyAwareLocationQty item location + delta)
    (d := (d.logged row).upsertStockSummary now item location
      (d.legacyAwareLocationQty item location + delta)) htotal
  refine ⟨(d.legacyAwareLocationQty item location + delta, d'), ?_⟩
  simp only [adjustStockAtLocationWithReason, hsku, checkedStock_of_inStock h.level, happend,
    hrecompute, row]

/-- All stock of the product is at the default location, and the aggregate agrees. -/
structure DefaultOnly (d : DomainTables κ) (item : String) : Prop where
  total : d.onHand item = (d.inventoryQty item).getD 0
  level : d.legacyAwareLocationQty item canonicalDefaultLocation = (d.inventoryQty item).getD 0

theorem defaultOnly_of_no_rows (h : d.hasLocationRows item = false) : DefaultOnly d item := by
  have honHand := onHand_of_no_rows h
  exact ⟨honHand, (locationQty_of_no_rows h _).trans honHand⟩

theorem adjustStockInTx_eq_ok (h : d.adjustStockInTx now sku delta = .ok (qty, d')) :
    ∃ item, d.productIdBySku sku = some item ∧
      InStock ((d.inventoryQty item).getD 0 + delta) ∧ canonicalDefaultLocation ∈ d.locations ∧
      d' = ((d.logged ⟨none, item, canonicalDefaultLocation, delta, some "remote-sync", none, none,
        "", now⟩).upsertInventory now item canonicalDefaultLocation
          ((d.inventoryQty item).getD 0 + delta)).upsertStockSummary now item
            canonicalDefaultLocation ((d.inventoryQty item).getD 0 + delta) := by
  unfold adjustStockInTx at h
  cases hsku : d.productIdBySku sku with
  | none => simp [hsku] at h
  | some item =>
    simp only [hsku] at h
    cases hqty : checkedStock ((d.inventoryQty item).getD 0 + delta) with
    | none => simp [hqty] at h
    | some stamped =>
      obtain ⟨rfl, hlow, hhigh⟩ := (checkedStock_eq_some_iff _ _).mp hqty
      simp only [hqty] at h
      cases happend : d.appendMovement ⟨none, item, canonicalDefaultLocation, delta,
          some "remote-sync", none, none, "", now⟩ with
      | error e => simp [happend] at h
      | ok d₁ =>
        obtain ⟨hlocation, rfl⟩ := appendMovement_eq_ok happend
        simp only [happend, Except.ok.injEq, Prod.mk.injEq] at h
        exact ⟨item, rfl, ⟨hlow, hhigh⟩, hlocation, h.2.symm⟩

theorem adjustStockInTx_ok
    (hdefault : ∀ item, d.productIdBySku sku = some item → DefaultOnly d item)
    (h : d.adjustStockInTx now sku delta = .ok (qty, d')) :
    ∃ item, d.productIdBySku sku = some item ∧
      Fits d ⟨item, canonicalDefaultLocation, delta⟩ ∧
      Moved d d' ⟨item, canonicalDefaultLocation, delta⟩ := by
  obtain ⟨item, hsku, hstock, hlocation, rfl⟩ := adjustStockInTx_eq_ok h
  obtain ⟨honHand, hlevel⟩ := hdefault item hsku
  refine ⟨item, hsku, ⟨hlocation, ?_, .inr ?_⟩, ?_⟩
  · rw [hlevel]
    exact hstock
  · rw [honHand]
    exact hstock
  · rw [← hlevel]
    refine moved_of_stamp d now ⟨item, canonicalDefaultLocation, delta⟩
      canonicalDefaultLocation _ _ ?_
    rw [honHand, hlevel, ite_self]

theorem adjustStockInTx_of_fits (now : String) (hsku : d.productIdBySku sku = some item)
    (hdefault : DefaultOnly d item) (h : Fits d ⟨item, canonicalDefaultLocation, delta⟩) :
    ∃ result, d.adjustStockInTx now sku delta = .ok result := by
  have hlevel := h.level
  rw [hdefault.level] at hlevel
  simp only [adjustStockInTx, hsku, checkedStock_of_inStock hlevel]
  rw [appendMovement_of_mem h.location]
  exact ⟨_, rfl⟩

variable {m : StockMove}

theorem DefaultOnly.moved (h : DefaultOnly d item) (hm : Moved d d' m)
    (hlocation : item = m.item → m.location = canonicalDefaultLocation) : DefaultOnly d' item := by
  have hrows := hm.rows item
  have hquantity := hm.quantity item canonicalDefaultLocation
  have honHand := hm.onHand item
  have hinventory := hm.inventory item
  by_cases hitem : item = m.item
  · have hplace := hlocation hitem
    rw [hitem] at h hrows hquantity honHand hinventory ⊢
    rw [hplace] at hquantity hinventory
    rw [if_pos rfl] at honHand hinventory
    rw [if_pos ⟨rfl, rfl⟩] at hquantity
    have hwritten : d'.inventoryQty m.item = some (d.onHand m.item + m.delta) := by
      rw [hinventory, h.level, ← h.total, ite_self]
    have hstored : d'.hasLocationRows m.item = true := by simpa using hrows
    refine ⟨?_, ?_⟩
    · rw [honHand, hwritten]
      rfl
    · rw [locationQty_of_rows hstored, hquantity, hwritten, h.level, h.total]
      rfl
  · rw [if_neg hitem, Int.add_zero] at honHand
    rw [if_neg hitem] at hinventory
    rw [if_neg (fun hboth => hitem hboth.1)] at hquantity
    have hsame : d'.hasLocationRows item = d.hasLocationRows item := by simpa [hitem] using hrows
    refine ⟨?_, ?_⟩
    · rw [honHand, hinventory, h.total]
    · rw [hinventory, ← h.level]
      simp only [legacyAwareLocationQty, hsame, hquantity, hinventory]

def skuMove (d : DomainTables κ) (sku location : String) (delta : Int) : Option StockMove :=
  (d.productIdBySku sku).map (fun item => ⟨item, location, delta⟩)

def adjustmentMove (d : DomainTables κ) (sub : StockAdjustmentPayload) : Option StockMove :=
  d.skuMove sub.sku (sub.locationId.getD canonicalDefaultLocation) sub.delta

def lineMove (d : DomainTables κ) (line : SaleLinePayload) : Option StockMove :=
  d.skuMove line.sku canonicalDefaultLocation (-line.qty)

theorem skuMove_of_sku (h : d.productIdBySku sku = some item) (location : String) (delta : Int) :
    d.skuMove sku location delta = some ⟨item, location, delta⟩ := by
  rw [skuMove, h]
  rfl

theorem map_snd_eq_ok {α β : Type} {result : Except CoreError (α × β)} {b : β}
    (h : result.map Prod.snd = .ok b) : ∃ a, result = .ok (a, b) := by
  cases result with
  | error e => cases h
  | ok pair =>
    refine ⟨pair.1, ?_⟩
    rw [← Except.ok.inj h]

theorem map_snd_ok {α β : Type} {result : Except CoreError (α × β)}
    (h : ∃ pair, result = .ok pair) : ∃ b, result.map Prod.snd = .ok b := by
  obtain ⟨pair, rfl⟩ := h
  exact ⟨pair.2, rfl⟩

variable {sub : StockAdjustmentPayload}

theorem applyStockAdjustment_ok (h : d.applyStockAdjustmentDeltaInTx now sub = .ok d') :
    ∃ m, d.adjustmentMove sub = some m ∧ Fits d m ∧ Moved d d' m := by
  unfold applyStockAdjustmentDeltaInTx at h
  unfold adjustmentMove
  cases hlocation : sub.locationId with
  | some location =>
    simp only [hlocation] at h
    obtain ⟨qty, hok⟩ := map_snd_eq_ok h
    obtain ⟨item, hsku, hfits, hmoved⟩ := adjustStockAtLocation_ok hok
    exact ⟨_, skuMove_of_sku hsku _ _, hfits, hmoved⟩
  | none =>
    simp only [hlocation] at h
    split at h
    · obtain ⟨qty, hok⟩ := map_snd_eq_ok h
      obtain ⟨item, hsku, hfits, hmoved⟩ := adjustStockAtLocation_ok hok
      exact ⟨_, skuMove_of_sku hsku _ _, hfits, hmoved⟩
    · rename_i hrows
      obtain ⟨qty, hok⟩ := map_snd_eq_ok h
      have hdefault : ∀ item, d.productIdBySku sub.sku = some item → DefaultOnly d item := by
        intro item hsku
        apply defaultOnly_of_no_rows
        simpa [hsku] using hrows
      obtain ⟨item, hsku, hfits, hmoved⟩ := adjustStockInTx_ok hdefault hok
      exact ⟨_, skuMove_of_sku hsku _ _, hfits, hmoved⟩

theorem applyStockAdjustment_of_fits (now : String) (hm : d.adjustmentMove sub = some m)
    (h : Fits d m) : ∃ d', d.applyStockAdjustmentDeltaInTx now sub = .ok d' := by
  obtain ⟨item, hsku, rfl⟩ := Option.map_eq_some_iff.mp hm
  unfold applyStockAdjustmentDeltaInTx
  cases hlocation : sub.locationId with
  | some location =>
    rw [hlocation, Option.getD_some] at h
    exact map_snd_ok (adjustStockAtLocation_of_fits now none hsku h)
  | none =>
    rw [hlocation, Option.getD_none] at h
    simp only [hsku, Option.map_some, Option.getD_some]
    cases hrows : d.hasLocationRows item with
    | true => exact map_snd_ok (adjustStockAtLocation_of_fits now none hsku h)
    | false =>
      exact map_snd_ok (adjustStockInTx_of_fits now hsku (defaultOnly_of_no_rows hrows) h)

def sideMove (d : DomainTables κ) (side : Json) : Option StockMove :=
  (StockAdjustmentPayload.read side).bind d.adjustmentMove

variable {side : Json}

theorem sideMove_eq_some (hread : StockAdjustmentPayload.read side = some sub)
    (hm : d.adjustmentMove sub = some m) : d.sideMove side = some m := by
  rw [sideMove, hread]
  exact hm

theorem StockOnly.skuMove (h : StockOnly d d') : d'.skuMove = d.skuMove := by
  obtain ⟨_, _, _, rfl⟩ := h
  rfl

theorem StockOnly.sideMove (h : StockOnly d d') : d'.sideMove = d.sideMove := by
  obtain ⟨_, _, _, rfl⟩ := h
  rfl

theorem StockOnly.productIdBySku (h : StockOnly d d') (sku : String) :
    d'.productIdBySku sku = d.productIdBySku sku := by
  obtain ⟨_, _, _, rfl⟩ := h
  rfl

theorem StockOnly.locations (h : StockOnly d d') : d'.locations = d.locations := by
  obtain ⟨_, _, _, rfl⟩ := h
  rfl

theorem applyAdjustments_cons {rest : List Json}
    (h : d.applyAdjustments now (side :: rest) = .ok d') :
    ∃ m d₁, d.sideMove side = some m ∧ Fits d m ∧ Moved d d₁ m ∧
      d₁.applyAdjustments now rest = .ok d' := by
  unfold applyAdjustments at h
  cases hread : StockAdjustmentPayload.read side with
  | none => simp [hread] at h
  | some sub =>
    simp only [hread] at h
    cases happly : d.applyStockAdjustmentDeltaInTx now sub with
    | error e => simp [happly] at h
    | ok d₁ =>
      simp only [happly] at h
      obtain ⟨m, hm, hfits, hmoved⟩ := applyStockAdjustment_ok happly
      exact ⟨m, d₁, sideMove_eq_some hread hm, hfits, hmoved, h⟩

theorem applyAdjustments_cons_of_fits
    (now : String) (hm : d.sideMove side = some m) (h : Fits d m) :
    ∃ d₁, Moved d d₁ m ∧
      ∀ rest, d.applyAdjustments now (side :: rest) = d₁.applyAdjustments now rest := by
  obtain ⟨sub, hread, hsub⟩ := Option.bind_eq_some_iff.mp hm
  obtain ⟨d₁, happly⟩ := applyStockAdjustment_of_fits now hsub h
  obtain ⟨m', hm', _, hmoved⟩ := applyStockAdjustment_ok happly
  rw [hsub, Option.some.injEq] at hm'
  subst hm'
  refine ⟨d₁, hmoved, ?_⟩
  intro rest
  simp only [applyAdjustments, hread, happly]

def deltaOn (item : String) (moves : List StockMove) : Int :=
  (moves.map (fun m => if item = m.item then m.delta else 0)).sum

@[simp] theorem deltaOn_nil (item : String) : deltaOn item [] = 0 := rfl

@[simp] theorem deltaOn_cons (item : String) (m : StockMove) (rest : List StockMove) :
    deltaOn item (m :: rest) = (if item = m.item then m.delta else 0) + deltaOn item rest := by
  simp [deltaOn]

theorem deltaOn_append (item : String) (l r : List StockMove) :
    deltaOn item (l ++ r) = deltaOn item l + deltaOn item r := by
  simp [deltaOn]

/-- The moves have been made one after the other, at known locations. -/
inductive Batch : DomainTables κ → List StockMove → DomainTables κ → Prop where
  | nil (d : DomainTables κ) : Batch d [] d
  | cons {d d₁ d' : DomainTables κ} {m : StockMove} {rest : List StockMove} :
    m.location ∈ d.locations → Moved d d₁ m → Batch d₁ rest d' → Batch d (m :: rest) d'

variable {moves : List StockMove}

theorem Batch.frame (h : Batch d moves d') : StockOnly d d' := by
  induction h with
  | nil d => exact StockOnly.refl d
  | cons _ hmoved _ ih => exact hmoved.frame.trans ih

theorem Batch.locations (h : Batch d moves d') : ∀ m ∈ moves, m.location ∈ d.locations := by
  induction h with
  | nil d => simp
  | cons hlocation hmoved _ ih =>
    rw [hmoved.frame.locations] at ih
    exact List.forall_mem_cons.mpr ⟨hlocation, ih⟩

theorem Batch.onHand (h : Batch d moves d')
    (item : String) : d'.onHand item = d.onHand item + deltaOn item moves := by
  induction h with
  | nil d => simp
  | cons _ hmoved _ ih =>
    rw [ih, hmoved.onHand, deltaOn_cons]
    omega

theorem applyAdjustments_batch {sides : List Json} (h : d.applyAdjustments now sides = .ok d') :
    ∃ moves, sides.mapM d.sideMove = some moves ∧ Batch d moves d' := by
  induction sides generalizing d with
  | nil =>
    rw [← Except.ok.inj h]
    exact ⟨[], rfl, Batch.nil d⟩
  | cons side rest ih =>
    obtain ⟨m, d₁, hm, hfits, hmoved, hrest⟩ := applyAdjustments_cons h
    obtain ⟨moves, hmoves, hbatch⟩ := ih hrest
    rw [hmoved.frame.sideMove] at hmoves
    refine ⟨m :: moves, ?_, Batch.cons hfits.location hmoved hbatch⟩
    simp [hm, hmoves]

end DomainTables

end OzPos
