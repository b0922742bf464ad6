import OzPos.Client.StockWriters
import OzPos.Library.Run
import Mathlib.Algebra.Order.BigOperators.Group.List
import Mathlib.Algebra.Order.Ring.Int
import Mathlib.Algebra.Order.Monoid.OrderDual

namespace OzPos

namespace DomainTables

variable {κ : Type}

variable (d : DomainTables κ)

def movementTotal (item location : String) : Int :=
  (d.stockMovements.map
    (fun m => if m.itemId = item ∧ m.locationId = location then m.delta else 0)).sum

variable (item : String)

def movementSum : Int :=
  (d.stockMovements.map (fun m => if m.itemId = item then m.delta else 0)).sum

def hasMovements : Bool :=
  d.stockMovements.any (fun m => m.itemId = item)

/-- Stock that is in the aggregate only: no locations and no ledger yet. -/
structure InventoryOnly (d : DomainTables κ) : Prop where
  summary : d.stockSummary.rows = []
  ledger : d.stockMovements = []
  nonneg : ∀ item qty, d.inventoryQty item = some qty → 0 ≤ qty

def legacyQty : Int := (d.inventoryQty item).getD 0

/-- How the three representations of a product's stock stand to each other, after writes on top
of a stock that was in the aggregate only. -/
structure ProductLedger (w : StockBindings) (start d : DomainTables κ) (item : String) : Prop where
  fresh : d.hasLocationRows item = false →
    d.inventoryQty item = start.inventoryQty item ∧ d.hasMovements item = false
  moved : d.hasLocationRows item = true → d.hasMovements item = true
  home : d.hasLocationRows item = true → ∃ first, ∀ location, d.quantityAt item location =
    d.movementTotal item location + if location = first then start.legacyQty item else 0
  total : d.hasLocationRows item = true →
    d.summaryTotal item = d.movementSum item + start.legacyQty item
  negative : ∀ location, d.quantityAt item location < 0 → w.optsIn location = true
  aggregate : d.hasLocationRows item = true → (∀ location, 0 ≤ d.quantityAt item location) →
    d.inventoryQty item = some (d.summaryTotal item)
  nonneg : ∀ qty, d.inventoryQty item = some qty → 0 ≤ qty
  missing : d.inventoryQty item = none → ∀ location, d.quantityAt item location ≤ 0

variable {d : DomainTables κ}

theorem quantityAt_row {row : SummaryRow} (h : row ∈ d.stockSummary.rows) :
    d.quantityAt row.itemId row.locationId = row.qty := by
  have hfind := (Table.mem_rows_iff d.stockSummary row).mp h
  have hcell : d.stockSummary.find? (row.itemId, row.locationId) = some row := hfind
  rw [quantityAt, hcell]
  rfl

variable {item : String}

/-- What the rows of a product sum: levels of it, that of each location among them or zero. -/
theorem level_terms (d : DomainTables κ) (item : String) :
    (∀ x ∈ d.stockSummary.rows.map (fun row => if row.itemId = item then row.qty else 0),
      x = 0 ∨ ∃ location, x = d.quantityAt item location) ∧
    ∀ location, d.quantityAt item location = 0 ∨ d.quantityAt item location ∈
      d.stockSummary.rows.map (fun row => if row.itemId = item then row.qty else 0) := by
  constructor
  · intro x hx
    obtain ⟨row, hrow, rfl⟩ := List.mem_map.mp hx
    split
    · rename_i hitem
      exact .inr ⟨row.locationId, by rw [← hitem, quantityAt_row hrow]⟩
    · exact .inl rfl
  · intro location
    rw [quantityAt]
    cases hfind : d.stockSummary.find? (item, location) with
    | none => exact .inl rfl
    | some row =>
      obtain ⟨hrow, hcell⟩ := (Table.find?_eq_some_iff _ _ _).mp hfind
      have hitem : row.itemId = item := congrArg Prod.fst hcell
      exact .inr (List.mem_map.mpr ⟨row, hrow, if_pos hitem⟩)

theorem quantityAt_le_total (h : ∀ location, 0 ≤ d.quantityAt item location) (location : String) :
    d.quantityAt item location ≤ d.summaryTotal item := by
  obtain ⟨hlevels, hmem⟩ := d.level_terms item
  have hterms : ∀ x ∈ d.stockSummary.rows.map
      (fun row => if row.itemId = item then row.qty else 0), 0 ≤ x := by
    intro x hx
    rcases hlevels x hx with rfl | ⟨location, rfl⟩
    · exact Int.le_refl 0
    · exact h location
  rcases hmem location with hzero | hmem
  · rw [hzero]
    exact List.sum_nonneg hterms
  · exact List.single_le_sum hterms _ hmem

theorem total_le_quantityAt (h : ∀ location, d.quantityAt item location ≤ 0) (location : String) :
    d.summaryTotal item ≤ d.quantityAt item location := by
  obtain ⟨hlevels, hmem⟩ := d.level_terms item
  have hterms : ∀ x ∈ d.stockSummary.rows.map
      (fun row => if row.itemId = item then row.qty else 0), x ≤ 0 := by
    intro x hx
    rcases hlevels x hx with rfl | ⟨location, rfl⟩
    · exact Int.le_refl 0
    · exact h location
  rcases hmem location with hzero | hmem
  · rw [hzero]
    exact List.sum_nonneg (M := Intᵒᵈ) hterms
  · exact List.single_le_sum (M := Intᵒᵈ) hterms _ hmem

variable {d' : DomainTables κ}

theorem movementTotal_append (d : DomainTables κ) (row : StockMovement) (item location : String)
    (h : d'.stockMovements = d.stockMovements ++ [row]) :
    d'.movementTotal item location = d.movementTotal item location +
      if row.itemId = item ∧ row.locationId = location then row.delta else 0 := by
  simp [movementTotal, h]

theorem movementSum_append (d : DomainTables κ) (row : StockMovement) (item : String)
    (h : d'.stockMovements = d.stockMovements ++ [row]) :
    d'.movementSum item = d.movementSum item + if row.itemId = item then row.delta else 0 := by
  simp [movementSum, h]

theorem hasMovements_append (d : DomainTables κ) (row : StockMovement) (item : String)
    (h : d'.stockMovements = d.stockMovements ++ [row]) :
    d'.hasMovements item = (d.hasMovements item || decide (row.itemId = item)) := by
  simp [hasMovements, h]

theorem movementTotal_of_none (h : d.hasMovements item = false) (location : String) :
    d.movementTotal item location = 0 ∧ d.movementSum item = 0 := by
  have hne : ∀ m ∈ d.stockMovements, m.itemId ≠ item := by simpa [hasMovements] using h
  refine ⟨List.sum_eq_zero ?_, List.sum_eq_zero ?_⟩
  · intro x hx
    obtain ⟨m, hm, rfl⟩ := List.mem_map.mp hx
    rw [if_neg (fun hboth => hne m hm hboth.1)]
  · intro x hx
    obtain ⟨m, hm, rfl⟩ := List.mem_map.mp hx
    rw [if_neg (hne m hm)]

variable {start : DomainTables κ}

theorem productLedger_start (w : StockBindings) (h : start.InventoryOnly)
    (item : String) : ProductLedger w start start item := by
  have hrows : start.hasLocationRows item = false := by simp [hasLocationRows, h.summary]
  have hnone : start.hasMovements item = false := by simp [hasMovements, h.ledger]
  have hzero := quantityAt_of_no_rows hrows
  refine ⟨fun _ => ⟨rfl, hnone⟩, by simp [hrows], by simp [hrows], by simp [hrows], ?_,
    by simp [hrows], h.nonneg item, ?_⟩
  · intro location hneg
    rw [hzero] at hneg
    omega
  · intro _ location
    rw [hzero]

variable {w : StockBindings} {m : StockMove}

theorem ProductLedger.other (h : ProductLedger w start d item) (hw : Written w d d' m)
    (hne : item ≠ m.item) : ProductLedger w start d' item := by
  obtain ⟨row, _, hitem, _, _, hledger⟩ := hw.ledger
  have hrow : ¬ row.itemId = item := by
    rw [hitem]
    exact Ne.symm hne
  have hrows : d'.hasLocationRows item = d.hasLocationRows item := by
    simpa [hne] using hw.rows item
  have hquantity : ∀ location, d'.quantityAt item location = d.quantityAt item location := by
    intro location
    rw [hw.quantity, if_neg (fun hboth => hne hboth.1)]
  have htotal : ∀ location, d'.movementTotal item location = d.movementTotal item location := by
    intro location
    rw [movementTotal_append d row item location hledger, if_neg (fun hboth => hrow hboth.1)]
    omega
  have hsum : d'.movementSum item = d.movementSum item := by
    rw [movementSum_append d row item hledger, if_neg hrow]
    omega
  have hmoves : d'.hasMovements item = d.hasMovements item := by
    rw [hasMovements_append d row item hledger]
    simp [hrow]
  have hinv := hw.others item hne
  refine ⟨?_, ?_, ?_, ?_, ?_, ?_, ?_, ?_⟩
  · rw [hrows, hinv, hmoves]
    exact h.fresh
  · rw [hrows, hmoves]
    exact h.moved
  · intro hsome
    rw [hrows] at hsome
    obtain ⟨first, hfirst⟩ := h.home hsome
    exact ⟨first, fun location => by rw [hquantity, htotal]; exact hfirst location⟩
  · rw [hrows, hw.total item hne, hsum]
    exact h.total
  · intro location
    rw [hquantity]
    exact h.negative location
  · intro hsome hall
    rw [hinv, hw.total item hne]
    exact h.aggregate (by rw [← hrows]; exact hsome)
      (fun location => by rw [← hquantity]; exact hall location)
  · rw [hinv]
    exact h.nonneg
  · intro hnone location
    rw [hinv] at hnone
    rw [hquantity]
    exact h.missing hnone location

theorem ProductLedger.level (h : ProductLedger w start d item) (place : String) :
    ∃ first, (∀ location, (if location = place then d.legacyAwareLocationQty item place
        else d.quantityAt item location) =
      d.movementTotal item location + if location = first then start.legacyQty item else 0) ∧
      d.onHand item = d.movementSum item + start.legacyQty item := by
  cases hrows : d.hasLocationRows item with
  | true =>
    obtain ⟨first, hfirst⟩ := h.home hrows
    refine ⟨first, ?_, ?_⟩
    · intro location
      by_cases heq : location = place
      · rw [if_pos heq, locationQty_of_rows hrows, ← heq]
        exact hfirst location
      · rw [if_neg heq]
        exact hfirst location
    · rw [onHand_of_rows hrows]
      exact h.total hrows
  | false =>
    obtain ⟨hinv, hnone⟩ := h.fresh hrows
    have hon : d.onHand item = start.legacyQty item := by
      rw [onHand_of_no_rows hrows, hinv]
      rfl
    refine ⟨place, ?_, ?_⟩
    · intro location
      obtain ⟨hzero, _⟩ := movementTotal_of_none hnone location
      rw [hzero, locationQty_of_no_rows hrows, hon, quantityAt_of_no_rows hrows]
      split <;> omega
    · rw [hon, (movementTotal_of_none hnone place).2]
      omega

theorem onHand_le_level (h : ProductLedger w start d item) (hnone : d.inventoryQty item = none)
    (place : String) : d.onHand item ≤ d.legacyAwareLocationQty item place := by
  cases hrows : d.hasLocationRows item with
  | true =>
    rw [onHand_of_rows hrows, locationQty_of_rows hrows]
    exact total_le_quantityAt (h.missing hnone) place
  | false => rw [locationQty_of_no_rows hrows]

theorem ProductLedger.written (h : ProductLedger w start d m.item) (hw : Written w d d' m) :
    ProductLedger w start d' m.item := by
  obtain ⟨row, _, hitem, hplace, hdelta, hledger⟩ := hw.ledger
  obtain ⟨first, hfirst, hon⟩ := h.level m.location
  have hrows : d'.hasLocationRows m.item = true := by simpa using hw.rows m.item
  have hstamped : d'.quantityAt m.item m.location =
      d.legacyAwareLocationQty m.item m.location + m.delta := by
    rw [hw.quantity, if_pos ⟨rfl, rfl⟩]
  have hkept : ∀ location, location ≠ m.location →
      d'.quantityAt m.item location = d.quantityAt m.item location := by
    intro location hne
    rw [hw.quantity, if_neg (fun hboth => hne hboth.2)]
  have hhome : ∀ location, d'.quantityAt m.item location = d'.movementTotal m.item location +
      if location = first then start.legacyQty m.item else 0 := by
    intro location
    have hold := hfirst location
    rw [movementTotal_append d row m.item location hledger]
    by_cases heq : location = m.location
    · subst heq
      rw [if_pos rfl] at hold
      rw [if_pos ⟨hitem, hplace⟩, hstamped, hdelta]
      omega
    · rw [if_neg heq] at hold
      rw [if_neg (fun hboth => heq (hplace ▸ hboth.2.symm)), hkept location heq]
      omega
  have htotal : d'.summaryTotal m.item = d'.movementSum m.item + start.legacyQty m.item := by
    rw [hw.written, movementSum_append d row m.item hledger, if_pos hitem, hdelta, hon]
    omega
  refine ⟨?_, ?_, fun _ => ⟨first, hhome⟩, fun _ => htotal, ?_, ?_, ?_, ?_⟩
  · intro hnone
    rw [hrows] at hnone
    cases hnone
  · intro _
    rw [hasMovements_append d row m.item hledger]
    simp [hitem]
  · intro location hneg
    by_cases heq : location = m.location
    · subst heq
      rw [hstamped] at hneg
      exact hw.level.resolve_left (by omega)
    · rw [hkept location heq] at hneg
      exact h.negative location hneg
  · intro _ hall
    have hle := quantityAt_le_total hall m.location
    have hlow := hall m.location
    rw [hstamped] at hle hlow
    rw [hw.written] at hle ⊢
    rcases hw.inventory with ⟨hinv, _, _⟩ | ⟨_, hpassed⟩
    · rw [hinv]
      cases hold : d.inventoryQty m.item with
      | some old => rfl
      | none =>
        have := onHand_le_level h hold m.location
        simp only [Option.isSome_none, Bool.false_eq_true, if_false, Option.some.injEq]
        omega
    · omega
  · intro qty hqty
    rcases hw.inventory with ⟨hinv, hlow, hsum⟩ | ⟨hinv, _⟩
    · rw [hinv, Option.some.injEq] at hqty
      split at hqty
      · rename_i hsome
        have := hsum hsome
        omega
      · omega
    · rw [hinv] at hqty
      exact h.nonneg qty hqty
  · intro hnone location
    rcases hw.inventory with ⟨hinv, _, _⟩ | ⟨hinv, hpassed⟩
    · rw [hinv] at hnone
      cases hnone
    · rw [hinv] at hnone
      have hmissing := h.missing hnone
      by_cases heq : location = m.location
      · subst heq
        rw [hstamped]
        rcases hpassed with hneg | ⟨hsome, _⟩
        · omega
        · rw [hnone] at hsome
          cases hsome
      · rw [hkept location heq]
        exact hmissing location

def StockLedger (w : StockBindings) (start d : DomainTables κ) : Prop :=
  ∀ item, ProductLedger w start d item

theorem StockLedger.written
    (h : StockLedger w start d) (hw : Written w d d' m) : StockLedger w start d' := by
  intro item
  by_cases hitem : item = m.item
  · rw [hitem]
    exact (h m.item).written hw
  · exact (h item).other hw hitem

end DomainTables

end OzPos
