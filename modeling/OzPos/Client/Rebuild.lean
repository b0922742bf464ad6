import OzPos.Client.StockLedger
import OzPos.Library.Grouping

namespace OzPos

def legacyBackfillReason : String := "legacy-backfill"

def backfillId (item : String) : String := legacyBackfillReason ++ ":" ++ item

namespace DomainTables

variable {κ : Type}

/-- The heal query for one product: how far its aggregate is ahead of its ledger, where the
locations agree with the aggregate. -/
def shortfall (d : DomainTables κ) (item : String) : Except CoreError (Option Int) :=
  match d.inventoryQty item with
  | none => .ok none
  | some qty =>
    match checkedI64 (d.movementSum item) with
    | none => .error (.db "integer overflow")
    | some booked =>
      let measured : Except CoreError (Option Int) :=
        match checkedI64 (qty - booked) with
        | none => .error (.db "Invalid column type Real at index: 1")
        | some gap => .ok (some gap)
      if qty ≤ booked then .ok none
      else if d.hasLocationRows item then
        match checkedI64 (d.summaryTotal item) with
        | none => .error (.db "integer overflow")
        | some total => if total = qty then measured else .ok none
      else measured

variable (now item : String)

def backfillRow (gap : Int) : StockMovement :=
  ⟨some (backfillId item), item, canonicalDefaultLocation, gap, some legacyBackfillReason, none, none,
    "", now⟩

/-- The compensating movement; under its fixed id a later one takes the place of the first. -/
def backfill (gap : Option Int) (d : DomainTables κ) : Except CoreError (DomainTables κ) :=
  match gap with
  | none => .ok d
  | some gap =>
    if d.stockMovements.any (fun m => m.id = some (backfillId item)) then
      .ok { d with
        stockMovements := d.stockMovements.map (fun m =>
          if m.id = some (backfillId item) then { m with delta := gap, createdAt := now } else m) }
    else d.appendMovement (backfillRow now item gap)

def clearSummary (item : String) (d : DomainTables κ) : DomainTables κ :=
  { d with stockSummary := d.stockSummary.retain (fun row => row.itemId ≠ item) }

variable (d : DomainTables κ)

/-- The locations of `GROUP BY item_id, location_id`. -/
def movedLocations (item : String) : List String :=
  ((d.stockMovements.filter (fun m => m.itemId = item)).map StockMovement.locationId).dedup

variable (w : StockBindings)

def insertSummaryGroup (now item location : String) (d : DomainTables κ) :
    Except CoreError (DomainTables κ) :=
  match checkedI64 (d.movementTotal item location) with
  | none => .error (.db "integer overflow")
  | some qty =>
    if w.refusesNegative location qty then
      .error (.db "negative stock requires allow_negative_stock on the location binding")
    else if (d.products.find? item).isNone ∨ location ∉ d.locations then
      .error (.db "FOREIGN KEY constraint failed")
    else
      match d.stockSummary.insert? ⟨item, location, qty, now⟩ with
      | none => .error (.db "UNIQUE constraint failed: stock_summary.item_id, stock_summary.location_id")
      | some stockSummary => .ok { d with stockSummary }

def insertSummaryGroups (w : StockBindings) (now item : String) :
    List String → DomainTables κ → Except CoreError (DomainTables κ)
  | [], d => .ok d
  | location :: rest, d =>
    match d.insertSummaryGroup w now item location with
    | .error e => .error e
    | .ok d => insertSummaryGroups w now item rest d

/-- The aggregate from the ledger, pinned to the default location; a product without movements
is no group. -/
def rebuildInventory : Except CoreError (DomainTables κ) :=
  if d.hasMovements item then
    match checkedI64 (d.movementSum item) with
    | none => .error (.db "integer overflow")
    | some total =>
      if total < 0 then .error (.db "CHECK constraint failed: qty >= 0")
      else if (d.products.find? item).isNone ∨ canonicalDefaultLocation ∉ d.locations then
        .error (.db "FOREIGN KEY constraint failed")
      else
        .ok { d with inventory := d.inventory.upsert ⟨item, canonicalDefaultLocation, total, now⟩ }
  else .ok d

def zeroInventory : DomainTables κ :=
  if d.hasMovements item ∧ d.movementSum item ≤ 0 then
    { d with
      inventory := d.inventory.update item (fun row => { row with qty := 0, updatedAt := now })
        (fun _ => rfl) }
  else d

def rebuildProduct (now item : String) (d : DomainTables κ) :
    Except CoreError (Nat × DomainTables κ) :=
  (d.shortfall item).bind (fun gap =>
    (d.backfill now item gap).bind (fun healed =>
      ((healed.clearSummary item).insertSummaryGroups w now item (healed.movedLocations item)).bind
        (fun summed => (summed.rebuildInventory now item).map
          (fun d => ((healed.movedLocations item).length, d.zeroInventory now item)))))

/-- Every statement is scoped by item, so a scope is rebuilt one product after the other; a
failure rolls all of it back. -/
def rebuildStockSummaryFor (w : StockBindings) (now : String) :
    List String → DomainTables κ → Except CoreError (Nat × DomainTables κ)
  | [], d => .ok (0, d)
  | item :: rest, d =>
    match d.rebuildProduct w now item with
    | .error e => .error e
    | .ok (rebuilt, d) =>
      (rebuildStockSummaryFor w now rest d).map (fun result => (rebuilt + result.1, result.2))

/-- `SELECT DISTINCT item_id FROM stock_movements UNION SELECT DISTINCT item_id FROM
stock_summary`. -/
def rebuildScope : List String :=
  (d.stockMovements.map StockMovement.itemId ++ d.stockSummary.rows.map SummaryRow.itemId).dedup

def rebuildStockSummary (now : String) (d : DomainTables κ) :
    Except CoreError (Nat × DomainTables κ) :=
  d.rebuildStockSummaryFor w now d.rebuildScope

end DomainTables

structure ProductView where
  summary : List SummaryRow
  inventory : Option InventoryRow
  ledger : List StockMovement

def DomainTables.view {κ : Type} (d : DomainTables κ) (item : String) : ProductView :=
  ⟨d.stockSummary.rows.filter (fun row => row.itemId = item), d.inventory.find? item,
    d.stockMovements.filter (fun m => m.itemId = item)⟩

namespace ProductView

variable (v : ProductView)

def total : Int := (v.summary.map SummaryRow.qty).sum

variable (ledger : List StockMovement)

def bookedAt (location : String) : Int :=
  (ledger.map (fun m => if m.locationId = location then m.delta else 0)).sum

def booked : Int := (ledger.map StockMovement.delta).sum

def gap : Int :=
  match v.inventory with
  | none => 0
  | some row =>
    if booked v.ledger < row.qty ∧ (v.summary = [] ∨ v.total = row.qty) then
      row.qty - booked v.ledger
    else 0

variable (now item : String)

def backfilled (gap : Int) (ledger : List StockMovement) : List StockMovement :=
  if ledger.any (fun m => m.id = some (backfillId item)) then
    ledger.map (fun m =>
      if m.id = some (backfillId item) then { m with delta := gap, createdAt := now } else m)
  else ledger ++ [DomainTables.backfillRow now item gap]

def healedLedger (v : ProductView) : List StockMovement :=
  if 0 < v.gap then backfilled now item v.gap v.ledger else v.ledger

theorem backfilled_ne_nil (gap : Int) (ledger : List StockMovement) :
    backfilled now item gap ledger ≠ [] := by
  unfold backfilled
  split
  · rename_i hany
    obtain ⟨m, hm, _⟩ := List.any_eq_true.mp hany
    exact List.map_eq_nil_iff.not.mpr (List.ne_nil_of_mem hm)
  · simp

def cells : List String :=
  (ledger.map StockMovement.locationId).dedup

def resummed (v : ProductView) : ProductView :=
  { summary := (cells v.ledger).map (fun location =>
      ⟨item, location, bookedAt v.ledger location, now⟩)
    inventory :=
      if v.ledger = [] then v.inventory
      else some ⟨item, canonicalDefaultLocation, booked v.ledger, now⟩
    ledger := v.ledger }

def rebuilt (v : ProductView) : ProductView :=
  let ledger := v.healedLedger now item
  { summary := (cells ledger).map (fun location => ⟨item, location, bookedAt ledger location, now⟩)
    inventory :=
      if ledger = [] then v.inventory
      else some ⟨item, canonicalDefaultLocation, booked ledger, now⟩
    ledger }

variable (l r : List StockMovement)

theorem bookedAt_append (location : String) :
    bookedAt (l ++ r) location = bookedAt l location + bookedAt r location := by
  simp [bookedAt]

theorem booked_append : booked (l ++ r) = booked l + booked r := by
  simp [booked]

theorem mem_cells {ledger : List StockMovement} {location : String} :
    location ∈ cells ledger ↔ ∃ m ∈ ledger, m.locationId = location := by
  simp [cells]

theorem bookedAt_of_not_mem {ledger : List StockMovement} {location : String}
    (h : location ∉ cells ledger) : bookedAt ledger location = 0 := by
  apply List.sum_eq_zero
  intro x hx
  obtain ⟨m, hm, rfl⟩ := List.mem_map.mp hx
  rw [if_neg (fun heq => h (mem_cells.mpr ⟨m, hm, heq⟩))]

theorem sum_cells : ((cells ledger).map (bookedAt ledger)).sum = booked ledger :=
  Grouping.sum_by_key StockMovement.locationId StockMovement.delta (List.nodup_dedup _)
    (fun m hm => mem_cells.mpr ⟨m, hm, rfl⟩)

end ProductView

namespace DomainTables

variable {κ : Type} {d : DomainTables κ}

variable (item : String)

theorem view_movementSum : d.movementSum item = ProductView.booked (d.view item).ledger := by
  rw [movementSum, view, ProductView.booked, Grouping.sum_filter]

theorem view_movementTotal (item location : String) :
    d.movementTotal item location = ProductView.bookedAt (d.view item).ledger location := by
  rw [movementTotal, view, ProductView.bookedAt, Grouping.sum_filter]
  congr 1
  apply List.map_congr_left
  intro m _
  by_cases h : m.itemId = item <;> simp [h]

theorem view_hasMovements : d.hasMovements item = true ↔ (d.view item).ledger ≠ [] := by
  rw [hasMovements, view, List.any_eq_true, ne_eq, List.filter_eq_nil_iff]
  push Not
  simp

theorem view_hasLocationRows : d.hasLocationRows item = true ↔ (d.view item).summary ≠ [] := by
  rw [hasLocationRows, view, List.any_eq_true, ne_eq, List.filter_eq_nil_iff]
  push Not
  simp

theorem view_summaryTotal : d.summaryTotal item = (d.view item).total := by
  rw [summaryTotal, view, ProductView.total, Grouping.sum_filter]

theorem view_inventoryQty :
    d.inventoryQty item = (d.view item).inventory.map InventoryRow.qty := rfl

theorem movedLocations_eq :
    d.movedLocations item = ProductView.cells (d.view item).ledger := rfl

def Tagged (d : DomainTables κ) : Prop :=
  ∀ m ∈ d.stockMovements, ∀ item, m.id = some (backfillId item) →
    m.itemId = item ∧ m.locationId = canonicalDefaultLocation

theorem gap_nonneg (v : ProductView) : 0 ≤ v.gap := by
  unfold ProductView.gap
  split
  · exact Int.le_refl 0
  · split
    · omega
    · exact Int.le_refl 0

theorem checkedI64_eq_some {n m : Int} (h : checkedI64 n = some m) : m = n := by
  unfold checkedI64 at h
  split at h
  · exact (Option.some.inj h).symm
  · cases h

structure HealFits (d : DomainTables κ) (item : String) : Prop where
  booked : ∀ qty, d.inventoryQty item = some qty → (checkedI64 (d.movementSum item)).isSome
  gap : (checkedI64 (d.view item).gap).isSome
  rows : ∀ qty, d.inventoryQty item = some qty → d.movementSum item < qty →
    d.hasLocationRows item = true → (checkedI64 (d.summaryTotal item)).isSome

theorem gap_eq (d : DomainTables κ) (item : String) :
    (d.view item).gap =
      match d.inventoryQty item with
      | none => 0
      | some qty =>
        if d.movementSum item < qty ∧
            (d.hasLocationRows item = false ∨ d.summaryTotal item = qty) then
          qty - d.movementSum item
        else 0 := by
  have hrows : d.hasLocationRows item = false ↔ (d.view item).summary = [] := by
    have := view_hasLocationRows (d := d) item
    rw [← Bool.not_eq_true, this]
    simp
  unfold ProductView.gap
  rw [view_inventoryQty, view_movementSum, view_summaryTotal]
  cases (d.view item).inventory with
  | none => rfl
  | some row =>
    simp only [Option.map_some, hrows]

theorem shortfall_ok_iff (d : DomainTables κ) (item : String) (gap : Option Int) :
    d.shortfall item = .ok gap ↔
      HealFits d item ∧ gap = if 0 < (d.view item).gap then some (d.view item).gap else none := by
  have hgap := gap_eq d item
  unfold shortfall
  cases hinv : d.inventoryQty item with
  | none =>
    rw [hinv] at hgap
    simp only at hgap
    simp only [hgap, Int.lt_irrefl, if_false, Except.ok.injEq]
    constructor
    · intro h
      exact ⟨⟨by simp [hinv], by rw [hgap]; rfl, by simp [hinv]⟩, h.symm⟩
    · intro h
      exact h.2.symm
  | some qty =>
    rw [hinv] at hgap
    simp only at hgap
    cases hbooked : checkedI64 (d.movementSum item) with
    | none =>
      simp only [reduceCtorEq, false_iff]
      intro h
      have := h.1.booked qty hinv
      rw [hbooked] at this
      cases this
    | some booked =>
      have hsame := checkedI64_eq_some hbooked
      subst hsame
      simp only
      have hfits : ∀ (hg : (checkedI64 (d.view item).gap).isSome)
          (hr : d.movementSum item < qty → d.hasLocationRows item = true →
            (checkedI64 (d.summaryTotal item)).isSome), HealFits d item := by
        intro hg hr
        refine ⟨fun _ _ => by rw [hbooked]; rfl, hg, ?_⟩
        intro other hother
        rw [hinv, Option.some.injEq] at hother
        subst hother
        exact hr
      by_cases hle : qty ≤ d.movementSum item
      · have hzero : (d.view item).gap = 0 := by rw [hgap, if_neg (by omega)]
        rw [if_pos hle, hzero]
        simp only [Int.lt_irrefl, if_false, Except.ok.injEq]
        constructor
        · intro h
          exact ⟨hfits (by rw [hzero]; rfl) (by omega), h.symm⟩
        · intro h
          exact h.2.symm
      · rw [if_neg hle]
        have hmeasured : ∀ (heq : (d.view item).gap = qty - d.movementSum item)
            (hr : d.hasLocationRows item = true → (checkedI64 (d.summaryTotal item)).isSome),
            (match checkedI64 (qty - d.movementSum item) with
              | none => (.error (.db "Invalid column type Real at index: 1") :
                  Except CoreError (Option Int))
              | some gap => .ok (some gap)) = .ok gap ↔
            HealFits d item ∧
              gap = if 0 < (d.view item).gap then some (d.view item).gap else none := by
          intro heq hr
          rw [heq, if_pos (by omega)]
          cases hmeasure : checkedI64 (qty - d.movementSum item) with
          | none =>
            simp only [reduceCtorEq, false_iff]
            intro h
            have := h.1.gap
            rw [heq, hmeasure] at this
            cases this
          | some value =>
            rw [checkedI64_eq_some hmeasure]
            simp only [Except.ok.injEq]
            constructor
            · intro h
              exact ⟨hfits (by rw [heq, hmeasure]; rfl) (fun _ => hr), h.symm⟩
            · intro h
              exact h.2.symm
        cases hrows : d.hasLocationRows item with
        | false =>
          simp only [Bool.false_eq_true, if_false]
          refine hmeasured ?_ (by simp [hrows])
          rw [hgap, if_pos ⟨by omega, Or.inl hrows⟩]
        | true =>
          simp only [if_true]
          cases htotal : checkedI64 (d.summaryTotal item) with
          | none =>
            simp only [reduceCtorEq, false_iff]
            intro h
            have := h.1.rows qty hinv (by omega) hrows
            rw [htotal] at this
            cases this
          | some total =>
            rw [checkedI64_eq_some htotal]
            simp only
            by_cases hagree : d.summaryTotal item = qty
            · rw [if_pos hagree]
              refine hmeasured ?_ (fun _ => by rw [htotal]; rfl)
              rw [hgap, if_pos ⟨by omega, Or.inr hagree⟩]
            · have hzero : (d.view item).gap = 0 := by
                rw [hgap, if_neg]
                rintro ⟨_, hno | hyes⟩
                · rw [hrows] at hno
                  cases hno
                · exact hagree hyes
              rw [if_neg hagree, hzero]
              simp only [Int.lt_irrefl, if_false, Except.ok.injEq]
              constructor
              · intro h
                exact ⟨hfits (by rw [hzero]; rfl) (fun _ _ => by rw [htotal]; rfl), h.symm⟩
              · intro h
                exact h.2.symm

def healed (now item : String) (d : DomainTables κ) : DomainTables κ :=
  { d with
    stockMovements := if 0 < (d.view item).gap then
      ProductView.backfilled now item (d.view item).gap d.stockMovements else d.stockMovements }

theorem any_backfilled (h : Tagged d) (item : String) :
    (d.view item).ledger.any (fun m => m.id = some (backfillId item)) =
      d.stockMovements.any (fun m => m.id = some (backfillId item)) := by
  rw [view, List.any_filter, Bool.eq_iff_iff, List.any_eq_true, List.any_eq_true]
  constructor
  · rintro ⟨m, hm, hid⟩
    exact ⟨m, hm, (Bool.and_eq_true_iff.mp hid).2⟩
  · rintro ⟨m, hm, hid⟩
    have hown := (h m hm item (of_decide_eq_true hid)).1
    exact ⟨m, hm, by simpa [hown] using hid⟩

theorem view_healed (h : Tagged d) (now item : String) :
    (d.healed now item).view item =
      { d.view item with ledger := (d.view item).healedLedger now item } := by
  unfold healed ProductView.healedLedger
  by_cases hgap : 0 < (d.view item).gap
  · simp only [hgap, if_true, ProductView.backfilled, any_backfilled h]
    unfold view
    congr 1
    split
    · rw [List.filter_map]
      congr 1
      apply List.filter_congr
      intro m _
      simp only [Function.comp_apply]
      split <;> rfl
    · simp [backfillRow]
  · simp only [hgap, if_false]

theorem view_healed_other (h : Tagged d) (now : String) {item other : String}
    (hne : other ≠ item) : (d.healed now item).view other = d.view other := by
  unfold healed view
  congr 1
  split
  · unfold ProductView.backfilled
    split
    · rw [List.filter_map]
      refine (List.map_congr_left (g := id) ?_).trans (List.map_id _ |>.trans ?_)
      · intro m hm
        obtain ⟨hm, hother⟩ := List.mem_filter.mp hm
        split
        · rename_i hid
          simp only [Function.comp_apply, hid, if_true, decide_eq_true_eq] at hother
          exact absurd ((h m hm item hid).1.symm.trans hother).symm hne
        · rfl
      · apply List.filter_congr
        intro m _
        simp only [Function.comp_apply]
        split <;> rfl
    · simp [backfillRow, Ne.symm hne]
  · rfl

theorem backfillId_injective {item other : String} (h : backfillId item = backfillId other) :
    item = other := by
  unfold backfillId at h
  have hlist := congrArg String.toList h
  simp only [String.toList_append, List.append_cancel_left_eq] at hlist
  exact String.toList_inj.mp hlist

theorem Tagged.healed (h : Tagged d) (now item : String) : Tagged (d.healed now item) := by
  unfold DomainTables.healed ProductView.backfilled Tagged
  intro m hm other hid
  simp only at hm
  split at hm
  · split at hm
    · obtain ⟨old, hold, rfl⟩ := List.mem_map.mp hm
      have hown := h old hold other
      split at hid <;> simp_all
    · rcases List.mem_append.mp hm with hm | hm
      · exact h m hm other hid
      · rw [List.mem_singleton.mp hm] at hid ⊢
        exact ⟨backfillId_injective (Option.some.inj hid), rfl⟩
  · exact h m hm other hid

theorem backfill_ok_iff (now item : String) (d d' : DomainTables κ) :
    d.backfill now item (if 0 < (d.view item).gap then some (d.view item).gap else none) = .ok d' ↔
      (0 < (d.view item).gap → d.stockMovements.any (fun m => m.id = some (backfillId item)) = true ∨
        canonicalDefaultLocation ∈ d.locations) ∧ d' = d.healed now item := by
  unfold healed ProductView.backfilled
  by_cases hgap : 0 < (d.view item).gap
  · simp only [hgap, if_true, backfill, true_imp_iff]
    cases d.stockMovements.any (fun m => m.id = some (backfillId item)) with
    | true =>
      simp only [if_true, true_or, true_and, Except.ok.injEq]
      exact eq_comm
    | false =>
      have hrow : (backfillRow now item (d.view item).gap).locationId =
        canonicalDefaultLocation := rfl
      simp only [Bool.false_eq_true, if_false, false_or, appendMovement, hrow]
      by_cases hlocation : canonicalDefaultLocation ∈ d.locations
      · simp only [hlocation, if_true, true_and, Except.ok.injEq]
        exact eq_comm
      · simp [hlocation]
  · simp only [hgap, if_false, backfill, false_imp_iff, true_and, Except.ok.injEq]
    exact eq_comm

def CellFits (w : StockBindings) (d : DomainTables κ) (item location : String) : Prop :=
  (checkedI64 (d.movementTotal item location)).isSome ∧
    w.refusesNegative location (d.movementTotal item location) = false ∧
    (d.products.find? item).isSome ∧ location ∈ d.locations

theorem insertSummaryGroup_ok_iff {w : StockBindings} {now item location : String}
    (hfree : d.stockSummary.find? (item, location) = none) (d' : DomainTables κ) :
    d.insertSummaryGroup w now item location = .ok d' ↔
      CellFits w d item location ∧
        ∃ t, d.stockSummary.insert? ⟨item, location, d.movementTotal item location, now⟩ = some t ∧
          d' = { d with stockSummary := t } := by
  unfold insertSummaryGroup CellFits
  cases hsum : checkedI64 (d.movementTotal item location) with
  | none => simp
  | some qty =>
    have hsame := checkedI64_eq_some hsum
    subst hsame
    simp only [Option.isSome_some, true_and]
    cases hrefused : w.refusesNegative location (d.movementTotal item location) with
    | true => simp
    | false =>
      simp only [Bool.false_eq_true, if_false, true_and]
      by_cases hknown : (d.products.find? item).isNone ∨ location ∉ d.locations
      · rw [if_pos hknown]
        simp only [reduceCtorEq, false_iff]
        rintro ⟨⟨hproduct, hlocation⟩, _⟩
        rcases hknown with hnone | hno
        · rw [Option.isNone_iff_eq_none] at hnone
          rw [hnone] at hproduct
          cases hproduct
        · exact hno hlocation
      · rw [if_neg hknown]
        rw [not_or, not_not] at hknown
        have hproduct : (d.products.find? item).isSome := by
          cases hfind : d.products.find? item with
          | none => simp [hfind] at hknown
          | some p => rfl
        cases hinsert : d.stockSummary.insert?
            ⟨item, location, d.movementTotal item location, now⟩ with
        | none =>
          have hsome := (Table.insert?_eq_none_iff _ _).mp hinsert
          obtain ⟨row, hrow⟩ := hsome
          have hcell : d.stockSummary.find? (item, location) = some row := hrow
          rw [hfree] at hcell
          cases hcell
        | some t =>
          simp only [Except.ok.injEq, Option.some.injEq, hproduct, hknown.2, and_self, true_and,
            exists_eq_left']
          exact eq_comm

theorem insertSummaryGroups_ok_iff {w : StockBindings} {now item : String} {locations : List String}
    (hn : locations.Nodup)
    (hfree : ∀ location ∈ locations, d.stockSummary.find? (item, location) = none)
    (d' : DomainTables κ) :
    d.insertSummaryGroups w now item locations = .ok d' ↔
      (∀ location ∈ locations, CellFits w d item location) ∧
        ∃ t, t.rows = d.stockSummary.rows ++
            locations.map (fun l => ⟨item, l, d.movementTotal item l, now⟩) ∧
          d' = { d with stockSummary := t } := by
  induction locations generalizing d with
  | nil =>
    simp only [insertSummaryGroups, Except.ok.injEq, List.not_mem_nil, false_imp_iff, implies_true,
      List.map_nil, List.append_nil, true_and]
    constructor
    · intro h
      exact ⟨d.stockSummary, rfl, h.symm⟩
    · rintro ⟨⟨rows, hrows⟩, ht, rfl⟩
      simp only at ht
      subst ht
      rfl
  | cons location rest ih =>
    obtain ⟨hnew, hn⟩ := List.nodup_cons.mp hn
    have hhere := hfree location (List.mem_cons_self ..)
    have hlater : ∀ t, d.stockSummary.insert? ⟨item, location, d.movementTotal item location, now⟩ =
        some t → ∀ l ∈ rest, t.find? (item, l) = none := by
      intro t ht l hl
      rw [Table.find?_insert? ht, if_neg, hfree l (List.mem_cons_of_mem _ hl)]
      intro hcell
      have heq : location = l := congrArg Prod.snd hcell
      exact hnew (heq ▸ hl)
    constructor
    · intro h
      unfold insertSummaryGroups at h
      split at h
      · cases h
      · rename_i d₁ hgroup
        obtain ⟨hcell, t, ht, rfl⟩ := (insertSummaryGroup_ok_iff hhere d₁).mp hgroup
        obtain ⟨hcells, u, hu, hd'⟩ := (ih hn (hlater t ht)).mp h
        refine ⟨List.forall_mem_cons.mpr ⟨hcell, hcells⟩, u, ?_, hd'⟩
        rw [hu, Table.insert?_rows ht, List.append_assoc]
        rfl
    · rintro ⟨hcells, u, hu, rfl⟩
      obtain ⟨hcell, hrest⟩ := List.forall_mem_cons.mp hcells
      have hnone : d.stockSummary.find? (SummaryRow.cell
          ⟨item, location, d.movementTotal item location, now⟩) = none := hhere
      rw [← Table.insert?_isSome_iff] at hnone
      obtain ⟨t, ht⟩ := Option.isSome_iff_exists.mp hnone
      have hgroup := (insertSummaryGroup_ok_iff (w := w) hhere _).mpr ⟨hcell, t, ht, rfl⟩
      unfold insertSummaryGroups
      rw [hgroup]
      refine (ih hn (hlater t ht)).mpr ⟨hrest, u, ?_, rfl⟩
      rw [hu, Table.insert?_rows ht, List.append_assoc]
      rfl

theorem rebuildInventory_ok_iff (now item : String) (d' : DomainTables κ) :
    d.rebuildInventory now item = .ok d' ↔
      (d.hasMovements item = true → InStock (d.movementSum item) ∧
        (d.products.find? item).isSome ∧ canonicalDefaultLocation ∈ d.locations) ∧
      d' = if d.hasMovements item then
        { d with
          inventory := d.inventory.upsert
            ⟨item, canonicalDefaultLocation, d.movementSum item, now⟩ }
        else d := by
  unfold rebuildInventory
  cases hmoved : d.hasMovements item with
  | false =>
    simp only [Bool.false_eq_true, if_false, false_imp_iff, true_and, Except.ok.injEq]
    exact eq_comm
  | true =>
    simp only [if_true, true_imp_iff]
    cases hsum : checkedI64 (d.movementSum item) with
    | none =>
      simp only [reduceCtorEq, false_iff]
      rintro ⟨⟨⟨hlow, hhigh⟩, _⟩, _⟩
      rw [checkedI64, if_pos ⟨by omega, hhigh⟩] at hsum
      cases hsum
    | some total =>
      have hsame := checkedI64_eq_some hsum
      subst hsame
      have hrange : -2^63 ≤ d.movementSum item ∧ d.movementSum item < 2^63 := by
        unfold checkedI64 at hsum
        split at hsum
        · assumption
        · cases hsum
      simp only
      by_cases hneg : d.movementSum item < 0
      · rw [if_pos hneg]
        simp only [reduceCtorEq, false_iff]
        rintro ⟨⟨⟨hlow, _⟩, _⟩, _⟩
        omega
      · rw [if_neg hneg]
        by_cases hknown : (d.products.find? item).isNone ∨ canonicalDefaultLocation ∉ d.locations
        · rw [if_pos hknown]
          simp only [reduceCtorEq, false_iff]
          rintro ⟨⟨_, hproduct, hlocation⟩, _⟩
          rcases hknown with hnone | hno
          · rw [Option.isNone_iff_eq_none] at hnone
            rw [hnone] at hproduct
            cases hproduct
          · exact hno hlocation
        · rw [if_neg hknown]
          rw [not_or, not_not] at hknown
          have hproduct : (d.products.find? item).isSome := by
            cases hfind : d.products.find? item with
            | none => simp [hfind] at hknown
            | some p => rfl
          simp only [Except.ok.injEq, InStock, hproduct, hknown.2, and_self, and_true]
          constructor
          · intro h
            exact ⟨⟨by omega, hrange.2⟩, h.symm⟩
          · intro h
            exact h.2.symm

end DomainTables

end OzPos
