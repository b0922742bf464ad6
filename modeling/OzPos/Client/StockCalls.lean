import OzPos.Client.StockCover
import OzPos.Client.StockLedger

namespace OzPos

/-- The calls that write stock: the canonical writer, the legacy one, a batch, a remote item. -/
inductive StockCall where
  | adjust (sku : String) (delta : Int) (location : String) (ctx : MovementContext)
  | adjustInTx (sku : String) (delta : Int)
  | batch (deductions : List StockDeduction) (ctx : MovementContext)
  | remote (item : OfflineQueueItem)

variable {κ : Type}

def StockCall.perform (w : StockBindings) (crm : Crm κ) (draw : ApplyDraw) (d : DomainTables κ) :
    StockCall → Except CoreError (DomainTables κ)
  | .adjust sku delta location ctx =>
    (d.adjustStockAtLocationFor w draw.now sku delta location ctx).map Prod.snd
  | .adjustInTx sku delta => (d.adjustStockInTx draw.now sku delta).map Prod.snd
  | .batch deductions ctx => d.adjustStockBatch w draw.now deductions ctx
  | .remote item => applyRemoteInTx crm draw item d

def stockMachine (w : StockBindings) (crm : Crm κ) :
    Machine (DomainTables κ) (ApplyDraw × StockCall) (Option CoreError) where
  step d call :=
    match call.2.perform w crm call.1 d with
    | .ok d' => (d', none)
    | .error e => (d, some e)

/-- What the legacy writer touches is at the default location only. -/
def HeldAtDefault (d : DomainTables κ) (sku : String) : Prop :=
  ∀ item, d.productIdBySku sku = some item → DomainTables.DefaultOnly d item

/-- A remote item is a sale or an adjustment, and the products that the call moves through the
legacy writer are at the default location only. -/
def StockCall.Held (d : DomainTables κ) : StockCall → Prop
  | .adjust _ _ _ _ => True
  | .adjustInTx sku _ => HeldAtDefault d sku
  | .batch _ _ => True
  | .remote item => StockArm item ∧ (remoteAction item.action = .completeSale →
      ∀ p, item.payload.doc?.bind SalePayload.read = some p →
        ∀ line ∈ p.lineItems, HeldAtDefault d line.sku)

/-- The three representations of the stock agree, below zero as the bindings allow it. -/
structure StockInStep (w : StockBindings) (d : DomainTables κ) : Prop where
  ledger : ∀ row ∈ d.stockSummary.rows, row.qty = d.movementTotal row.itemId row.locationId
  negative : ∀ row ∈ d.stockSummary.rows, row.qty < 0 → w.optsIn row.locationId = true
  aggregate : ∀ item, (∀ row ∈ d.stockSummary.rows, row.itemId = item → 0 ≤ row.qty) →
    (d.inventoryQty item).getD 0 = d.summaryTotal item

structure EmptyStock (d : DomainTables κ) : Prop where
  inventory : d.inventory.rows = []
  summary : d.stockSummary.rows = []
  ledger : d.stockMovements = []

theorem EmptyStock.inventoryOnly {d : DomainTables κ} (h : EmptyStock d) :
    d.InventoryOnly ∧ ∀ item, d.inventoryQty item = none := by
  have hnone : ∀ item, d.inventoryQty item = none := by
    intro item
    simp [DomainTables.inventoryQty, Table.find?, h.inventory]
  refine ⟨⟨h.summary, h.ledger, ?_⟩, hnone⟩
  intro item qty hqty
  rw [hnone] at hqty
  cases hqty

theorem HeldAtDefault.line {d d₁ : DomainTables κ} {now sku other : String} {delta qty : Int}
    (hother : HeldAtDefault d other) (hsku : HeldAtDefault d sku)
    (hok : d.adjustStockInTx now sku delta = .ok (qty, d₁)) : HeldAtDefault d₁ other := by
  obtain ⟨item, _, _, hmoved⟩ := DomainTables.adjustStockInTx_ok hsku hok
  intro product hproduct
  have hsame : d₁.productIdBySku other = d.productIdBySku other := by
    obtain ⟨_, _, _, rfl⟩ := hmoved.frame
    rfl
  rw [hsame] at hproduct
  exact (hother product hproduct).moved hmoved (fun _ => rfl)

namespace DomainTables

variable {w : StockBindings} {start d d' : DomainTables κ} {now sku : String} {delta qty : Int}

theorem StockLedger.adjust {location : String} {ctx : MovementContext} (h : StockLedger w start d)
    (hok : d.adjustStockAtLocationFor w now sku delta location ctx = .ok (qty, d')) :
    StockLedger w start d' := by
  obtain ⟨item, _, hw⟩ := adjustStockAtLocationFor_ok hok
  exact h.written hw

theorem StockLedger.adjustSync {location : String} {reason : Option String}
    (h : StockLedger w start d)
    (hok : d.adjustStockAtLocationWithReason now sku delta location reason = .ok (qty, d')) :
    StockLedger w start d' := by
  rw [← adjustStockAtLocationFor_sync w] at hok
  exact h.adjust hok

theorem StockLedger.adjustInTx (h : StockLedger w start d) (hheld : HeldAtDefault d sku)
    (hok : d.adjustStockInTx now sku delta = .ok (qty, d')) : StockLedger w start d' := by
  obtain ⟨item, _, hw⟩ := adjustStockInTx_written w hheld hok
  exact h.written hw

theorem StockLedger.executeBatch {ctx : MovementContext} {deductions : List StockDeduction}
    (h : StockLedger w start d) (hok : d.executeBatch w now ctx deductions = .ok d') :
    StockLedger w start d' := by
  induction deductions generalizing d with
  | nil =>
    cases hok
    exact h
  | cons x rest ih =>
    unfold DomainTables.executeBatch at hok
    split at hok
    · cases hok
    · rename_i qty d₁ hadjust
      exact ih (h.adjust hadjust) hok

theorem StockLedger.deductLines {lines : List SaleLinePayload} (h : StockLedger w start d)
    (hheld : ∀ line ∈ lines, HeldAtDefault d line.sku) (hok : d.deductLines now lines = .ok d') :
    StockLedger w start d' := by
  induction lines generalizing d with
  | nil =>
    cases hok
    exact h
  | cons line rest ih =>
    unfold DomainTables.deductLines at hok
    split at hok
    · cases hok
    · rename_i qty d₁ hadjust
      have hline := hheld line (List.mem_cons_self ..)
      refine ih (h.adjustInTx hline hadjust) ?_ hok
      intro other hother
      exact (hheld other (List.mem_cons_of_mem _ hother)).line hline hadjust

theorem StockLedger.adjustment {sub : StockAdjustmentPayload} (h : StockLedger w start d)
    (hok : d.applyStockAdjustmentDeltaInTx now sub = .ok d') : StockLedger w start d' := by
  unfold applyStockAdjustmentDeltaInTx at hok
  cases hlocation : sub.locationId with
  | some location =>
    simp only [hlocation] at hok
    obtain ⟨qty, hadjust⟩ := map_snd_eq_ok hok
    exact h.adjustSync hadjust
  | none =>
    simp only [hlocation] at hok
    split at hok
    · obtain ⟨qty, hadjust⟩ := map_snd_eq_ok hok
      exact h.adjustSync hadjust
    · rename_i hrows
      obtain ⟨qty, hadjust⟩ := map_snd_eq_ok hok
      refine h.adjustInTx ?_ hadjust
      intro item hsku
      apply defaultOnly_of_no_rows
      simpa [hsku] using hrows

theorem StockLedger.adjustments {sides : List Json} (h : StockLedger w start d)
    (hok : d.applyAdjustments now sides = .ok d') : StockLedger w start d' := by
  induction sides generalizing d with
  | nil =>
    cases hok
    exact h
  | cons side rest ih =>
    unfold DomainTables.applyAdjustments at hok
    split at hok
    · cases hok
    · split at hok
      · cases hok
      · rename_i d₁ hadjust
        exact ih (h.adjustment hadjust) hok

theorem StockLedger.remote {crm : Crm κ} {draw : ApplyDraw} {item : OfflineQueueItem}
    (h : StockLedger w start d) (hheld : (StockCall.remote item).Held d)
    (hok : applyRemoteInTx crm draw item d = .ok d') : StockLedger w start d' := by
  obtain ⟨harm, hlines⟩ := hheld
  cases harm with
  | sale harm =>
    rw [applyRemoteInTx, harm] at hok
    obtain ⟨p, hparsed, hsale⟩ := Except.of_bind hok
    unfold DomainTables.applyCompleteSale at hsale
    split at hsale
    · cases hsale
      exact h
    · exact h.deductLines (hlines harm p (parsed_eq_ok hparsed)) hsale
  | adjustment harm =>
    rw [applyRemoteInTx, harm] at hok
    obtain ⟨doc, _, hadjust⟩ := Except.of_bind hok
    exact h.adjustments hadjust

theorem StockLedger.call {crm : Crm κ} {draw : ApplyDraw} {call : StockCall}
    (h : StockLedger w start d) (hheld : call.Held d)
    (hok : call.perform w crm draw d = .ok d') : StockLedger w start d' := by
  cases call with
  | adjust sku delta location ctx =>
    obtain ⟨qty, hadjust⟩ := map_snd_eq_ok hok
    exact h.adjust hadjust
  | adjustInTx sku delta =>
    obtain ⟨qty, hadjust⟩ := map_snd_eq_ok hok
    exact h.adjustInTx hheld hadjust
  | batch deductions ctx =>
    unfold StockCall.perform adjustStockBatch at hok
    simp only at hok
    split at hok
    · cases hok
    · exact h.executeBatch hok
  | remote item => exact h.remote hheld hok

theorem StockLedger.inStep (hstart : EmptyStock start)
    (h : StockLedger w start d) : StockInStep w d := by
  have hlegacy : ∀ item, start.legacyQty item = 0 := by
    intro item
    rw [legacyQty, hstart.inventoryOnly.2 item]
    rfl
  have hrow : ∀ row ∈ d.stockSummary.rows, d.hasLocationRows row.itemId = true := by
    intro row hmem
    rw [hasLocationRows, List.any_eq_true]
    exact ⟨row, hmem, by simp⟩
  refine ⟨?_, ?_, ?_⟩
  · intro row hmem
    obtain ⟨first, hfirst⟩ := (h row.itemId).home (hrow row hmem)
    have hlevel := hfirst row.locationId
    rw [quantityAt_row hmem, hlegacy, ite_self, Int.add_zero] at hlevel
    exact hlevel
  · intro row hmem hneg
    rw [← quantityAt_row hmem] at hneg
    exact (h row.itemId).negative row.locationId hneg
  · intro item hall
    cases hrows : d.hasLocationRows item with
    | false =>
      rw [((h item).fresh hrows).1, hstart.inventoryOnly.2 item,
        summaryTotal_of_no_rows hrows]
      rfl
    | true =>
      have hlevels : ∀ location, 0 ≤ d.quantityAt item location := by
        intro location
        cases hfind : d.stockSummary.find? (item, location) with
        | none => simp [quantityAt, hfind]
        | some row =>
          obtain ⟨hmem, hcell⟩ := (Table.find?_eq_some_iff _ _ _).mp hfind
          rw [quantityAt, hfind]
          exact hall row hmem (congrArg Prod.fst hcell)
      rw [(h item).aggregate hrows hlevels]
      rfl

end DomainTables

def shelfTables : DomainTables Unit :=
  { DomainTables.empty () with
    products := Table.empty.insertNew ⟨"prod-1", "default", "SKU-1", "Kopi", 1500, "IDR", none, none,
      "retail", "2026-01-01T00:00:00.000Z"⟩
    locations := [canonicalDefaultLocation, "loc-B"] }

/-- One till, whose workspace may take the default location below zero. -/
def shelfBindings : StockBindings :=
  ⟨[("till-1", "shop")], Table.empty.insertNew ⟨"shop", canonicalDefaultLocation, true⟩, []⟩

def shelfCrm : Crm Unit := ⟨fun _ _ => (), fun _ _ _ _ _ => (), fun _ _ _ _ _ _ => ()⟩

def shelfRun (calls : List StockCall) : DomainTables Unit :=
  (stockMachine shelfBindings shelfCrm).run shelfTables
    (calls.map (fun call => (⟨"2026-01-02T00:00:00.000Z", "prod-2"⟩, call)))

def correction (delta : Int) (location : String) : StockCall :=
  .adjust "SKU-1" delta location ⟨some "correction", none, some "till-1", none⟩

theorem emptyShelf : EmptyStock shelfTables := ⟨rfl, rfl, rfl⟩

end OzPos
