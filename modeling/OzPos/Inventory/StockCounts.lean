import OzPos.Client.StockEffect
import OzPos.Library.Sessions
import Mathlib.Data.List.Sort

namespace OzPos

namespace DomainTables

variable {κ : Type}

/-- The aggregate that `bridge_legacy_inventory_into_stock_summary_in_tx` would put at the
default location. -/
def legacyStock (d : DomainTables κ) (item : String) : Option Int :=
  if d.hasLocationRows item then none else (d.inventoryQty item).filter (fun q => q ≠ 0)

def bridgeLegacyInventoryIntoStockSummary (now item : String) (d : DomainTables κ) :
    Except CoreError (DomainTables κ) :=
  match d.legacyStock item with
  | none => .ok d
  | some q =>
    if canonicalDefaultLocation ∈ d.locations then
      .ok (d.upsertStockSummary now item canonicalDefaultLocation q)
    else .error (.db "FOREIGN KEY constraint failed")

theorem legacyStock_eq_some_iff (d : DomainTables κ) (item : String) (q : Int) :
    d.legacyStock item = some q ↔
      d.hasLocationRows item = false ∧ d.inventoryQty item = some q ∧ q ≠ 0 := by
  unfold legacyStock
  cases hrows : d.hasLocationRows item with
  | true => simp
  | false => simp [Option.filter_eq_some_iff]

theorem bridge_ok {now item : String} {d d' : DomainTables κ}
    (h : d.bridgeLegacyInventoryIntoStockSummary now item = .ok d') :
    StockOnly d d' ∧ (∀ other, d'.onHand other = d.onHand other) ∧
      (∀ other, d'.inventoryQty other = d.inventoryQty other) := by
  unfold bridgeLegacyInventoryIntoStockSummary at h
  cases hlegacy : d.legacyStock item with
  | none =>
    simp only [hlegacy, Except.ok.injEq] at h
    rw [← h]
    exact ⟨StockOnly.refl d, fun _ => rfl, fun _ => rfl⟩
  | some q =>
    obtain ⟨hrows, hinventory, _⟩ := (legacyStock_eq_some_iff d item q).mp hlegacy
    simp only [hlegacy] at h
    split at h
    · cases h
      refine ⟨⟨_, _, _, rfl⟩, ?_, fun _ => rfl⟩
      intro other
      by_cases hitem : other = item
      · subst hitem
        rw [onHand_of_rows (by simp), summaryTotal_upsertStockSummary, if_pos rfl,
          summaryTotal_of_no_rows hrows, quantityAt_of_no_rows hrows, onHand_of_no_rows hrows,
          hinventory, Option.getD_some]
        omega
      · simp [onHand, hitem]
    · cases h

theorem bridge_of_no_legacy {item : String} {d : DomainTables κ} (now : String)
    (h : d.legacyStock item = none) : d.bridgeLegacyInventoryIntoStockSummary now item = .ok d := by
  simp [bridgeLegacyInventoryIntoStockSummary, h]

end DomainTables

inductive StockCountStatus where
  | draft
  | inProgress
  | completed
  | cancelled
  deriving DecidableEq

def StockCountStatus.asStr : StockCountStatus → String
  | .draft => "draft"
  | .inProgress => "in_progress"
  | .completed => "completed"
  | .cancelled => "cancelled"

/-- `matches!(status, "draft" | "in_progress")`. -/
def StockCountStatus.editable (s : StockCountStatus) : Bool := s = .draft || s = .inProgress

inductive CountType where
  | full
  | cyclic
  | spot

structure StockCount where
  (id countNumber : String)
  status : StockCountStatus
  countType : CountType
  notes : String
  (countedBy completedAt : Option String)
  updatedAt : String

structure StockCountLine where
  (id countId sku productName : String)
  expectedQty : Int
  countedQty : Option Int
  difference : Int
  notes : String
  deriving DecidableEq

structure StockAdjustment where
  id : String
  countId : Option String
  (sku productName : String)
  (previousQty adjustedQty : Int)
  reason : String
  createdBy : Option String
  createdAt : String

structure CountDb (κ : Type) where
  counts : Table String StockCount StockCount.id
  lines : Table String StockCountLine StockCountLine.id
  adjustments : Table String StockAdjustment StockAdjustment.id
  domain : DomainTables κ

inductive CountError where
  | core (e : CoreError)
  /-- The release build checks its arithmetic. -/
  | panicked

def invalidCount {α : Type} (field message : String) : Except CountError α :=
  .error (.core (.validation field message))

def countResult {α : Type} : Except CoreError α → Except CountError α
  | .ok a => .ok a
  | .error e => .error (.core e)

/-- The clock, the minted ids, and whether the database fails the transaction. -/
structure CountDraw where
  now : String
  adjustmentId : Nat → String
  failure : Option String

def validateNonNegative (field : String) (value : Int) : Except CountError Unit :=
  if value < 0 then invalidCount field "quantity must be non-negative" else .ok ()

variable (line : StockCountLine)

def expectedDifference : Except CountError Int :=
  match line.countedQty with
  | none => .ok 0
  | some counted =>
    (validateNonNegative "counted_qty" counted).bind (fun _ =>
      match checkedI64 (counted - line.expectedQty) with
      | none => invalidCount "difference" "quantity difference overflow"
      | some difference => .ok difference)

def validateLineQuantities : Except CountError Unit :=
  (validateNonNegative "expected_qty" line.expectedQty).bind (fun _ =>
    (expectedDifference line).bind (fun expected =>
      if expected ≠ line.difference then
        invalidCount "difference" "difference must equal counted_qty - expected_qty"
      else .ok ()))

namespace DomainTables

variable {κ : Type}

/-- The stock a count's delta is taken against: the locations' sum, or else the aggregate. -/
def previousQty (d : DomainTables κ) (item : String) : Except CountError Int :=
  if d.hasLocationRows item then
    match checkedI64 (d.summaryTotal item) with
    | none => .error (.core (.db "integer overflow"))
    | some q => .ok q
  else
    match d.inventoryQty item with
    | none => .error (.core (.db "Invalid column type Null"))
    | some q => .ok q

/-- `ORDER BY qty DESC, location_id ASC`. -/
def stockHolders (d : DomainTables κ) (item : String) : List (String × Int) :=
  ((d.stockSummary.rows.filter (fun row => row.itemId = item)).map
    (fun row => (row.locationId, row.qty))).insertionSort
      (fun a b => b.2 < a.2 ∨ (a.2 = b.2 ∧ a.1 ≤ b.1))

def adjustForCount (now sku reason : String) (delta : Int) (location : String)
    (d : DomainTables κ) : Except CountError (DomainTables κ) :=
  (countResult (d.adjustStockAtLocationWithReason now sku delta location (some reason))).map
    Prod.snd

/-- A shrink takes of each holder up to what it holds; a surplus all goes to the first. -/
def spreadOverHolders (now sku reason : String) :
    Int → List (String × Int) → DomainTables κ → Except CountError (Int × DomainTables κ)
  | remaining, [], d => .ok (remaining, d)
  | remaining, (location, qty) :: rest, d =>
    if remaining = 0 then .ok (remaining, d)
    else
      let step := if remaining < 0 then -(min (-remaining) qty) else remaining
      if step = 0 then spreadOverHolders now sku reason remaining rest d
      else
        match d.adjustForCount now sku reason step location with
        | .error e => .error e
        | .ok d =>
          match checkedI64 (remaining - step) with
          | none => .error .panicked
          | some remaining => spreadOverHolders now sku reason remaining rest d

def applyCountDelta (now sku reason item : String) (delta : Int) (d : DomainTables κ) :
    Except CountError (DomainTables κ) :=
  if delta = 0 then .ok d
  else
    match spreadOverHolders now sku reason delta (d.stockHolders item) d with
    | .error e => .error e
    | .ok (remaining, d) =>
      if remaining = 0 then .ok d
      else d.adjustForCount now sku reason remaining canonicalDefaultLocation

end DomainTables

section

variable {κ : Type}

variable (r : CountDb κ)

def countOf (lineId : String) : Option StockCount :=
  (r.lines.find? lineId).bind (fun line => r.counts.find? line.countId)

def countedQtyOf : Int := line.countedQty.getD line.expectedQty

variable (draw : CountDraw)

def adjustmentFor (count : StockCount) (completedBy : Option String) (n : Nat)
    (line : StockCountLine) (previous : Int) : StockAdjustment :=
  { id := draw.adjustmentId n, countId := some count.id, sku := line.sku
    productName := line.productName, previousQty := previous, adjustedQty := countedQtyOf line
    reason := s!"stock count {count.countNumber} ({line.notes})", createdBy := completedBy
    createdAt := draw.now }

/-- One line of a completion: nothing where the count agrees with what was expected. -/
def completeLine (count : StockCount) (completedBy : Option String) (n : Nat)
    (line : StockCountLine) (r : CountDb κ) :
    Except CountError (CountDb κ × List StockAdjustment) :=
  (validateLineQuantities line).bind (fun _ =>
    if countedQtyOf line = line.expectedQty then .ok (r, [])
    else
      match r.domain.productIdBySku line.sku with
      | none => .error (.core (.notFound "product" line.sku))
      | some item =>
        (r.domain.previousQty item).bind (fun previous =>
          (validateNonNegative "previous_qty" previous).bind (fun _ =>
            match checkedI64 (countedQtyOf line - previous) with
            | none => invalidCount "counted_qty" "quantity difference overflow"
            | some delta =>
              (countResult (r.domain.bridgeLegacyInventoryIntoStockSummary draw.now item)).bind
                (fun d =>
                  (d.applyCountDelta draw.now line.sku s!"stock count {count.countNumber}" item
                    delta).bind (fun d =>
                      let adjustment := adjustmentFor draw count completedBy n line previous
                      match r.adjustments.insert? adjustment with
                      | none =>
                        .error (.core (.db "UNIQUE constraint failed: stock_adjustments.id"))
                      | some adjustments =>
                        .ok ({ r with adjustments, domain := d }, [adjustment]))))))

def completeLines (draw : CountDraw) (count : StockCount) (completedBy : Option String) :
    Nat → List StockCountLine → CountDb κ → Except CountError (CountDb κ × List StockAdjustment)
  | _, [], r => .ok (r, [])
  | n, line :: rest, r =>
    (completeLine draw count completedBy n line r).bind (fun (r, first) =>
      (completeLines draw count completedBy (n + 1) rest r).map (fun (r, others) =>
        (r, first ++ others)))

/-- The lines of a count, `ORDER BY sku`. -/
def CountDb.orderedLines (countId : String) : List StockCountLine :=
  (r.lines.rows.filter (fun line => line.countId = countId)).insertionSort
    (fun a b => a.sku ≤ b.sku)

def setCompleted (now countId : String) (r : CountDb κ) : CountDb κ :=
  { r with
    counts := r.counts.update countId (fun c => { c with
      status := .completed, completedAt := some now, updatedAt := now }) (fun _ => rfl) }

/-- `complete_stock_count`: read, claim and adjustments in one transaction. -/
def completeStockCount (countId : String) (completedBy : Option String)
    (r : CountDb κ) : Except CountError (CountDb κ × List StockAdjustment) :=
  match draw.failure with
  | some message => .error (.core (.db message))
  | none =>
    match r.counts.find? countId with
    | none => .error (.core (.notFound "stock_count" countId))
    | some count =>
      if count.status.editable then
        completeLines draw count completedBy 0 (r.orderedLines countId)
          (setCompleted draw.now countId r)
      else
        invalidCount "status" s!"cannot complete count with status {count.status.asStr}"

inductive CountCall where
  | addCountLine (line : StockCountLine)
  | updateCountLine (line : StockCountLine)
  | removeCountLine (lineId : String)
  | updateStockCount (count : StockCount)
  | completeStockCount (countId : String) (completedBy : Option String)

def guardEditable {α : Type} (verb : String) (status : StockCountStatus) (a : α) :
    Except CountError α :=
  if status.editable then .ok a
  else invalidCount "status" s!"count lines can only be {verb} an editable stock count"

/-- The guard read of a call; the removal of an absent line answers at once, and a completion
reads inside its transaction. -/
def CountCall.read :
    CountCall → Except CountError (List StockAdjustment) ⊕ CountCall
  | .addCountLine line =>
    match r.counts.find? line.countId with
    | none => .inl (.error (.core (.notFound "stock_count" line.countId)))
    | some count =>
      match (guardEditable "added to" count.status ()).bind (fun _ => validateLineQuantities line) with
      | .error e => .inl (.error e)
      | .ok () => .inr (.addCountLine line)
  | .updateCountLine line =>
    match countOf r line.id with
    | none => .inl (.error (.core (.notFound "stock_count_line" line.id)))
    | some count =>
      match (guardEditable "updated on" count.status ()).bind
          (fun _ => validateLineQuantities line) with
      | .error e => .inl (.error e)
      | .ok () => .inr (.updateCountLine line)
  | .removeCountLine lineId =>
    match countOf r lineId with
    | none => .inl (.ok [])
    | some count =>
      match guardEditable "removed from" count.status () with
      | .error e => .inl (.error e)
      | .ok () => .inr (.removeCountLine lineId)
  | .updateStockCount count =>
    match r.counts.find? count.id with
    | none => .inl (.error (.core (.notFound "stock_count" count.id)))
    | some current =>
      if current.status = .completed ∨ current.status = .cancelled then
        .inl (invalidCount "status" "completed or cancelled stock counts cannot be modified")
      else .inr (.updateStockCount count)
  | .completeStockCount countId completedBy => .inr (.completeStockCount countId completedBy)

def setCountLine (line row : StockCountLine) : StockCountLine :=
  { row with countedQty := line.countedQty, difference := line.difference, notes := line.notes }

variable (count row : StockCount)

def setStockCount : StockCount :=
  { row with
    status := count.status, countType := count.countType, notes := count.notes
    countedBy := count.countedBy, completedAt := count.completedAt, updatedAt := count.updatedAt }

theorem setCountLine_id (line row : StockCountLine) : (setCountLine line row).id = row.id := rfl

theorem setStockCount_id : (setStockCount count row).id = row.id := rfl

/-- The transaction of a call. None of the four editors looks at the status again. -/
def CountCall.write (r : CountDb κ) :
    CountCall → Except CountError (CountDb κ × List StockAdjustment)
  | .completeStockCount countId completedBy =>
    OzPos.completeStockCount draw countId completedBy r
  | .addCountLine line =>
    match draw.failure with
    | some message => .error (.core (.db message))
    | none =>
      if (r.counts.find? line.countId).isNone then
        .error (.core (.db "FOREIGN KEY constraint failed"))
      else
        match r.lines.insert? line with
        | none => .error (.core (.db "UNIQUE constraint failed: stock_count_lines.id"))
        | some lines => .ok ({ r with lines }, [])
  | .updateCountLine line =>
    match draw.failure with
    | some message => .error (.core (.db message))
    | none =>
      .ok ({ r with lines := r.lines.update line.id (setCountLine line) (setCountLine_id line) }, [])
  | .removeCountLine lineId =>
    match draw.failure with
    | some message => .error (.core (.db message))
    | none => .ok ({ r with lines := r.lines.retain (fun line => line.id ≠ lineId) }, [])
  | .updateStockCount count =>
    match draw.failure with
    | some message => .error (.core (.db message))
    | none =>
      .ok ({ r with counts := r.counts.update count.id (setStockCount count) (setStockCount_id count) }, [])

def countCalls (κ : Type) :
    Calls (CountDb κ) CountCall CountCall CountDraw (Except CountError (List StockAdjustment)) where
  read call r := call.read r
  write draw call r :=
    match call.write draw r with
    | .error e => (r, .error e)
    | .ok (next, adjustments) => (next, .ok adjustments)

end

end OzPos
