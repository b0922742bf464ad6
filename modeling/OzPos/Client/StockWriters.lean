import OzPos.Client.StockEffect

namespace OzPos

/-- A row of `workspace_inventory_locations`. -/
structure LocationBinding where
  (instanceId locationId : String)
  allowNegativeStock : Bool

/-- What the stock writers read besides the stock: which workspace a terminal belongs to, how
workspaces are bound to locations, and the inventory transactions a ledger row may name. -/
structure StockBindings where
  workspaceOf : List (String × String)
  bindings : Table (String × String) LocationBinding (fun b => (b.instanceId, b.locationId))
  transactions : List String

namespace StockBindings

variable (w : StockBindings)

def allowsNegative (terminal : Option String) (location : String) : Bool :=
  match terminal.bind (fun id => w.workspaceOf.lookup id) with
  | none => false
  | some instanceId =>
    ((w.bindings.find? (instanceId, location)).map LocationBinding.allowNegativeStock).getD false

variable (location : String)

def optsIn : Bool :=
  w.bindings.rows.any (fun b => b.locationId = location && b.allowNegativeStock)

def isBound : Bool :=
  w.bindings.rows.any (fun b => b.locationId = location)

/-- The triggers `stock_summary_qty_nonnegative_{insert,update}`. -/
def refusesNegative (qty : Int) : Bool :=
  decide (qty < 0) && w.isBound location && !w.optsIn location

theorem optsIn_of_allowsNegative {w : StockBindings} {terminal : Option String}
    {location : String} (h : w.allowsNegative terminal location = true) :
    w.optsIn location = true := by
  unfold allowsNegative at h
  split at h
  · cases h
  · rename_i instanceId _
    cases hfind : w.bindings.find? (instanceId, location) with
    | none => simp [hfind] at h
    | some b =>
      rw [hfind] at h
      obtain ⟨hmem, hkey⟩ := (Table.find?_eq_some_iff _ _ _).mp hfind
      have hlocation : b.locationId = location := congrArg Prod.snd hkey
      have hallow : b.allowNegativeStock = true := h
      rw [optsIn, List.any_eq_true]
      exact ⟨b, hmem, by simp [hlocation, hallow]⟩

theorem not_refuses_of_optsIn {w : StockBindings} {location : String}
    (h : w.optsIn location = true) (qty : Int) : w.refusesNegative location qty = false := by
  simp [refusesNegative, h]

theorem not_refuses_of_nonneg {qty : Int}
    (h : 0 ≤ qty) : w.refusesNegative location qty = false := by
  simp [refusesNegative]
  omega

end StockBindings

structure StockDeduction where
  (sku locationId : String)
  delta : Int

structure MovementContext where
  (reason inventoryTransactionId terminalId sourceUserId : Option String)

namespace DomainTables

variable {κ : Type}

variable (allowNegative : Bool)

/-- The aggregate's upsert; its `CHECK` looks at the inserted quantity first, then at the sum,
and is passed over where negative stock is allowed. -/
def recomputeInventoryAllowing (now item location : String) (qty : Int)
    (d : DomainTables κ) : Except CoreError (DomainTables κ) :=
  let violation : Except CoreError (DomainTables κ) :=
    if allowNegative then .ok d else .error (.db "CHECK constraint failed: qty >= 0")
  if qty < 0 then violation
  else
    match d.inventoryQty item with
    | none => .ok (d.upsertInventory now item location qty)
    | some _ =>
      match checkedI64 (d.summaryTotal item) with
      | none => .error (.db "integer overflow")
      | some total =>
        if 0 ≤ total then .ok (d.upsertInventory now item location total) else violation

def checkedLevel (sku location : String) (current delta : Int) : Except CoreError Int :=
  if allowNegative then
    match checkedI64 (current + delta) with
    | some qty => .ok qty
    | none => .error (.validation "qty" "overflow")
  else
    match checkedStock (current + delta) with
    | some qty => .ok qty
    | none => .error (.insufficientStockAtLocation sku location delta current)

variable (w : StockBindings)

/-- `adjust_stock_at_location_with_reason` for any terminal, user and inventory transaction. -/
def adjustStockAtLocationFor (now sku : String) (delta : Int) (location : String)
    (ctx : MovementContext) (d : DomainTables κ) : Except CoreError (Int × DomainTables κ) :=
  match d.productIdBySku sku with
  | none => .error (.notFound "product" sku)
  | some item =>
    let current := d.legacyAwareLocationQty item location
    let allowNegative := w.allowsNegative ctx.terminalId location
    match checkedLevel allowNegative sku location current delta with
    | .error e => .error e
    | .ok qty =>
      if ctx.inventoryTransactionId.any (fun id => id ∉ w.transactions) then
        .error (.db "FOREIGN KEY constraint failed")
      else
        match d.appendMovement ⟨none, item, location, delta, ctx.reason, ctx.terminalId,
            ctx.sourceUserId, "", now⟩ with
        | .error e => .error e
        | .ok d =>
          if w.refusesNegative location qty then
            .error (.insufficientStockAtLocation sku location delta current)
          else
            match (d.upsertStockSummary now item location qty).recomputeInventoryAllowing
                allowNegative now item location qty with
            | .error e => .error e
            | .ok d => .ok (qty, d)

/-- Phase 1 of the batch: every deduction against the stock before the first of them. -/
def checkBatch (w : StockBindings) (ctx : MovementContext) (d : DomainTables κ) :
    List StockDeduction → Except CoreError Unit
  | [] => .ok ()
  | x :: rest =>
    match d.productIdBySku x.sku with
    | none => .error (.notFound "product" x.sku)
    | some item =>
      let current := d.legacyAwareLocationQty item x.locationId
      if w.allowsNegative ctx.terminalId x.locationId then checkBatch w ctx d rest
      else
        match checkedStock (current + x.delta) with
        | none => .error (.insufficientStockAtLocation x.sku x.locationId x.delta current)
        | some _ => checkBatch w ctx d rest

def executeBatch (w : StockBindings) (now : String) (ctx : MovementContext) :
    List StockDeduction → DomainTables κ → Except CoreError (DomainTables κ)
  | [], d => .ok d
  | x :: rest, d =>
    match d.adjustStockAtLocationFor w now x.sku x.delta x.locationId ctx with
    | .error e => .error e
    | .ok (_, d) => executeBatch w now ctx rest d

def adjustStockBatch (now : String) (deductions : List StockDeduction)
    (ctx : MovementContext) (d : DomainTables κ) : Except CoreError (DomainTables κ) :=
  match checkBatch w ctx d deductions with
  | .error e => .error e
  | .ok () => executeBatch w now ctx deductions d

variable {qty : Int}

theorem recomputeInventoryAllowing_false (now item location : String)
    (d : DomainTables κ) (h : 0 ≤ qty) :
    d.recomputeInventoryAllowing false now item location qty =
      d.recomputeInventory now item location qty := by
  unfold recomputeInventoryAllowing recomputeInventory
  rw [if_neg (by omega)]
  rfl

theorem adjustStockAtLocationFor_sync (now sku : String) (delta : Int)
    (location : String) (reason : Option String) (d : DomainTables κ) :
    d.adjustStockAtLocationFor w now sku delta location ⟨reason, none, none, none⟩ =
      d.adjustStockAtLocationWithReason now sku delta location reason := by
  unfold adjustStockAtLocationFor adjustStockAtLocationWithReason
  cases d.productIdBySku sku with
  | none => rfl
  | some item =>
    have hallow : w.allowsNegative none location = false := rfl
    simp only [hallow, checkedLevel, Bool.false_eq_true, if_false]
    cases hqty : checkedStock (d.legacyAwareLocationQty item location + delta) with
    | none => rfl
    | some qty =>
      have hnonneg : 0 ≤ qty := by
        obtain ⟨rfl, hlow, _⟩ := (checkedStock_eq_some_iff _ _).mp hqty
        exact hlow
      simp only [Option.any_none, Bool.false_eq_true, if_false, w.not_refuses_of_nonneg _ hnonneg,
        recomputeInventoryAllowing_false _ _ _ _ hnonneg]
      all_goals rfl

/-- A write has been made: one ledger row, the location stamped with its level plus the delta, and
the aggregate recomputed unless it was passed over below zero. -/
structure Written (w : StockBindings) (d d' : DomainTables κ) (m : StockMove) : Prop where
  frame : StockOnly d d'
  place : m.location ∈ d.locations
  ledger : ∃ row, row.id = none ∧ row.itemId = m.item ∧ row.locationId = m.location ∧
    row.delta = m.delta ∧ d'.stockMovements = d.stockMovements ++ [row]
  rows : ∀ item, d'.hasLocationRows item = (d.hasLocationRows item || decide (item = m.item))
  quantity : ∀ item location, d'.quantityAt item location =
    if item = m.item ∧ location = m.location then
      d.legacyAwareLocationQty m.item m.location + m.delta
    else d.quantityAt item location
  total : ∀ item, item ≠ m.item → d'.summaryTotal item = d.summaryTotal item
  written : d'.summaryTotal m.item = d.onHand m.item + m.delta
  level : 0 ≤ d.legacyAwareLocationQty m.item m.location + m.delta ∨ w.optsIn m.location = true
  others : ∀ item, item ≠ m.item → d'.inventoryQty item = d.inventoryQty item
  inventory : d'.inventoryQty m.item =
      some (if (d.inventoryQty m.item).isSome then d.onHand m.item + m.delta
        else d.legacyAwareLocationQty m.item m.location + m.delta) ∧
      0 ≤ d.legacyAwareLocationQty m.item m.location + m.delta ∧
      ((d.inventoryQty m.item).isSome → 0 ≤ d.onHand m.item + m.delta) ∨
    d'.inventoryQty m.item = d.inventoryQty m.item ∧
      (d.legacyAwareLocationQty m.item m.location + m.delta < 0 ∨
        (d.inventoryQty m.item).isSome ∧ d.onHand m.item + m.delta < 0)

variable {d d' : DomainTables κ}

theorem Written.onHand {w : StockBindings} {m : StockMove} (h : Written w d d' m)
    (item : String) : d'.onHand item = d.onHand item + if item = m.item then m.delta else 0 := by
  by_cases hitem : item = m.item
  · subst hitem
    have hrows : d'.hasLocationRows m.item = true := by simp [h.rows]
    rw [onHand_of_rows hrows, h.written, if_pos rfl]
  · have hrows : d'.hasLocationRows item = d.hasLocationRows item := by simp [h.rows, hitem]
    rw [DomainTables.onHand, hrows, h.total item hitem, h.others item hitem, if_neg hitem,
      Int.add_zero]
    rfl

theorem written_of_stamp {w : StockBindings} {m : StockMove} (now : String)
    (row : StockMovement)
    (hplace : m.location ∈ d.locations) (hid : row.id = none) (hitem : row.itemId = m.item)
    (hlocation : row.locationId = m.location) (hdelta : row.delta = m.delta)
    (hlevel : 0 ≤ d.legacyAwareLocationQty m.item m.location + m.delta ∨
      w.optsIn m.location = true)
    (hd' : d' = (d.logged row).upsertStockSummary now m.item m.location
          (d.legacyAwareLocationQty m.item m.location + m.delta) ∧
        (d.legacyAwareLocationQty m.item m.location + m.delta < 0 ∨
          (d.inventoryQty m.item).isSome ∧ d.onHand m.item + m.delta < 0) ∨
      0 ≤ d.legacyAwareLocationQty m.item m.location + m.delta ∧
        ((d.inventoryQty m.item).isSome → 0 ≤ d.onHand m.item + m.delta) ∧
        ∃ kept, d' = ((d.logged row).upsertStockSummary now m.item m.location
          (d.legacyAwareLocationQty m.item m.location + m.delta)).upsertInventory now m.item kept
            (if (d.inventoryQty m.item).isSome then d.onHand m.item + m.delta
              else d.legacyAwareLocationQty m.item m.location + m.delta)) :
    Written w d d' m := by
  have htotal := summaryTotal_stamp (d.logged row) now m.item m.location m.delta
  have hlevelSame : (d.logged row).legacyAwareLocationQty m.item m.location =
      d.legacyAwareLocationQty m.item m.location := rfl
  have honHand : (d.logged row).onHand m.item = d.onHand m.item := rfl
  rw [hlevelSame, honHand] at htotal
  have hother : ∀ item, item ≠ m.item →
      ((d.logged row).upsertStockSummary now m.item m.location
        (d.legacyAwareLocationQty m.item m.location + m.delta)).summaryTotal item =
        d.summaryTotal item := by
    intro item hne
    rw [summaryTotal_upsertStockSummary, if_neg hne, Int.add_zero]
    rfl
  rcases hd' with ⟨rfl, hpassed⟩ | ⟨hlow, hsum, kept, rfl⟩
  · exact ⟨⟨_, _, _, rfl⟩, hplace, ⟨row, hid, hitem, hlocation, hdelta, rfl⟩,
      fun item => hasLocationRows_upsertStockSummary _ _ _ _ _ item,
      fun item location => quantityAt_upsertStockSummary _ _ _ _ _ item location, hother, htotal,
      hlevel, fun _ _ => rfl, Or.inr ⟨rfl, hpassed⟩⟩
  · refine ⟨⟨_, _, _, rfl⟩, hplace, ⟨row, hid, hitem, hlocation, hdelta, rfl⟩,
      fun item => hasLocationRows_upsertStockSummary _ _ _ _ _ item,
      fun item location => quantityAt_upsertStockSummary _ _ _ _ _ item location, hother, htotal,
      hlevel, ?_, Or.inl ⟨?_, hlow, hsum⟩⟩
    · intro item hne
      rw [inventoryQty_upsertInventory, if_neg hne]
      rfl
    · rw [inventoryQty_upsertInventory, if_pos rfl]

variable {sku location : String} {delta : Int}

theorem checkedLevel_eq_ok {allowNegative : Bool} {current : Int}
    (h : checkedLevel allowNegative sku location current delta = .ok qty) :
    qty = current + delta ∧ (0 ≤ qty ∨ allowNegative = true) := by
  unfold checkedLevel at h
  split at h
  · rename_i hallow
    cases hqty : checkedI64 (current + delta) with
    | none => simp [hqty] at h
    | some stamped =>
      simp only [hqty, Except.ok.injEq] at h
      unfold checkedI64 at hqty
      split at hqty
      · simp only [Option.some.injEq] at hqty
        exact ⟨by omega, Or.inr hallow⟩
      · cases hqty
  · cases hqty : checkedStock (current + delta) with
    | none => simp [hqty] at h
    | some stamped =>
      simp only [hqty, Except.ok.injEq] at h
      obtain ⟨heq, hlow, _⟩ := (checkedStock_eq_some_iff _ _).mp hqty
      exact ⟨by omega, Or.inl (by omega)⟩

variable {now : String}

theorem recomputeInventoryAllowing_eq_ok {allowNegative : Bool} {item : String}
    (h : d.recomputeInventoryAllowing allowNegative now item location qty = .ok d') :
    d' = d ∧ (qty < 0 ∨ (d.inventoryQty item).isSome ∧ d.summaryTotal item < 0) ∨
      0 ≤ qty ∧ ((d.inventoryQty item).isSome → 0 ≤ d.summaryTotal item) ∧
        d' = d.upsertInventory now item location
          (if (d.inventoryQty item).isSome then d.summaryTotal item else qty) := by
  have hviolation : ∀ {x : DomainTables κ}, (if allowNegative then (.ok d : Except CoreError _)
      else .error (.db "CHECK constraint failed: qty >= 0")) = .ok x → x = d := by
    intro x hx
    split at hx
    · exact (Except.ok.inj hx).symm
    · cases hx
  unfold recomputeInventoryAllowing at h
  by_cases hqty : qty < 0
  · simp only [hqty, if_true] at h
    exact Or.inl ⟨hviolation h, Or.inl hqty⟩
  · simp only [hqty, if_false] at h
    cases hinv : d.inventoryQty item with
    | none =>
      simp only [hinv, Except.ok.injEq] at h
      exact Or.inr ⟨by omega, by simp, h.symm⟩
    | some old =>
      simp only [hinv] at h
      cases hsum : checkedI64 (d.summaryTotal item) with
      | none => simp [hsum] at h
      | some total =>
        have htotal : total = d.summaryTotal item := by
          unfold checkedI64 at hsum
          split at hsum
          · exact (Option.some.inj hsum).symm
          · cases hsum
        subst htotal
        simp only [hsum] at h
        by_cases hnonneg : 0 ≤ d.summaryTotal item
        · simp only [hnonneg, if_true, Except.ok.injEq] at h
          exact Or.inr ⟨by omega, fun _ => hnonneg, h.symm⟩
        · simp only [hnonneg, if_false] at h
          exact Or.inl ⟨hviolation h, Or.inr ⟨rfl, by omega⟩⟩

theorem adjustStockAtLocationFor_ok {w : StockBindings} {ctx : MovementContext}
    (h : d.adjustStockAtLocationFor w now sku delta location ctx = .ok (qty, d')) :
    ∃ item, d.productIdBySku sku = some item ∧ Written w d d' ⟨item, location, delta⟩ := by
  unfold adjustStockAtLocationFor at h
  cases hsku : d.productIdBySku sku with
  | none => simp [hsku] at h
  | some item =>
    refine ⟨item, rfl, ?_⟩
    simp only [hsku] at h
    cases hchecked : checkedLevel (w.allowsNegative ctx.terminalId location) sku location
        (d.legacyAwareLocationQty item location) delta with
    | error e => simp [hchecked] at h
    | ok stamped =>
      obtain ⟨rfl, hlow⟩ := checkedLevel_eq_ok hchecked
      simp only [hchecked] at h
      split at h
      · cases h
      · cases happend : d.appendMovement ⟨none, item, location, delta, ctx.reason, ctx.terminalId,
            ctx.sourceUserId, "", now⟩ with
        | error e => simp [happend] at h
        | ok d₁ =>
          obtain ⟨hplace, rfl⟩ := appendMovement_eq_ok happend
          simp only [happend] at h
          split at h
          · cases h
          · split at h
            · cases h
            · rename_i d₂ hrecompute
              obtain ⟨_, rfl⟩ := Prod.mk.inj (Except.ok.inj h)
              have htotal := summaryTotal_stamp d now item location delta
              refine written_of_stamp now ⟨none, item, location, delta, ctx.reason,
                ctx.terminalId, ctx.sourceUserId, "", now⟩ hplace rfl rfl rfl rfl
                (hlow.imp id StockBindings.optsIn_of_allowsNegative) ?_
              rcases recomputeInventoryAllowing_eq_ok hrecompute with ⟨rfl, hpassed⟩ |
                ⟨hqty, hsum, rfl⟩
              · refine Or.inl ⟨rfl, hpassed.imp id ?_⟩
                intro hboth
                rw [← htotal]
                exact hboth
              · refine Or.inr ⟨hqty, ?_, location, ?_⟩
                · intro hsome
                  rw [← htotal]
                  exact hsum hsome
                · rw [← htotal]
                  rfl

theorem adjustStockInTx_written (w : StockBindings)
    (hdefault : ∀ item, d.productIdBySku sku = some item → DefaultOnly d item)
    (h : d.adjustStockInTx now sku delta = .ok (qty, d')) :
    ∃ item, d.productIdBySku sku = some item ∧
      Written w d d' ⟨item, canonicalDefaultLocation, delta⟩ := by
  obtain ⟨item, hsku, hstock, hplace, rfl⟩ := adjustStockInTx_eq_ok h
  obtain ⟨honHand, hlevel⟩ := hdefault item hsku
  have hlow := hstock.1
  rw [← hlevel] at hlow ⊢
  have hsame : d.onHand item = d.legacyAwareLocationQty item canonicalDefaultLocation := by
    rw [honHand, hlevel]
  refine ⟨item, hsku, written_of_stamp now ⟨none, item, canonicalDefaultLocation, delta,
    some "remote-sync", none, none, "", now⟩ hplace rfl rfl rfl rfl (Or.inl hlow)
    (Or.inr ⟨hlow, fun _ => by rw [hsame]; exact hlow, canonicalDefaultLocation, ?_⟩)⟩
  rw [hsame, ite_self]
  rfl

end DomainTables

end OzPos
