import OzPos.Inventory.StockCounts
import OzPos.Library.Outcome

namespace OzPos

open DomainTables

variable {κ : Type}

theorem countResult_ok_iff {α : Type} {x : Except CoreError α} {a : α} :
    countResult x = .ok a ↔ x = .ok a := by
  cases x with
  | error e => simp [countResult]
  | ok b => simp [countResult]

variable {d : DomainTables κ} {item : String}

theorem previousQty_ok {q : Int} (h : d.previousQty item = .ok q) : q = d.onHand item := by
  unfold previousQty at h
  split at h
  · rename_i hrows
    cases hsum : checkedI64 (d.summaryTotal item) with
    | none => simp [hsum] at h
    | some total =>
      simp only [hsum, Except.ok.injEq] at h
      rw [onHand_of_rows hrows, ← h]
      exact ((checkedI64_eq_some_iff _ _).mp hsum).1
  · rename_i hrows
    cases hinventory : d.inventoryQty item with
    | none => simp [hinventory] at h
    | some total =>
      simp only [hinventory, Except.ok.injEq] at h
      rw [onHand_of_no_rows (by simpa using hrows), hinventory, ← h]
      rfl

/-- A count's write has gone through: one product's stock is off by the delta. -/
structure Shifted (item : String) (delta : Int) (d d' : DomainTables κ) : Prop where
  frame : StockOnly d d'
  onHand : ∀ other, d'.onHand other = d.onHand other + if other = item then delta else 0

theorem Shifted.refl (item : String) (d : DomainTables κ) : Shifted item 0 d d where
  frame := StockOnly.refl d
  onHand := by simp

theorem Shifted.trans {a b : Int} {d₁ d₂ d₃ : DomainTables κ}
    (h : Shifted item a d₁ d₂) (h' : Shifted item b d₂ d₃) : Shifted item (a + b) d₁ d₃ where
  frame := h.frame.trans h'.frame
  onHand := by
    intro other
    rw [h'.onHand, h.onHand]
    split
    · omega
    · omega

variable {d' : DomainTables κ} {now sku reason : String}

theorem adjustForCount_ok {delta : Int} {location : String}
    (hsku : d.productIdBySku sku = some item)
    (h : d.adjustForCount now sku reason delta location = .ok d') : Shifted item delta d d' := by
  obtain ⟨⟨level, d₁⟩, hadjust, rfl⟩ := Except.of_map h
  obtain ⟨found, hfound, _, hmoved⟩ := adjustStockAtLocation_ok (countResult_ok_iff.mp hadjust)
  rw [hsku, Option.some.injEq] at hfound
  subst hfound
  exact ⟨hmoved.frame, hmoved.onHand⟩

/-- A relation that the writes for one product add up in. -/
structure AdjustRule (sku item : String) (R : Int → DomainTables κ → DomainTables κ → Prop) :
    Prop where
  refl : ∀ d, R 0 d d
  trans : ∀ a b d₁ d₂ d₃, R a d₁ d₂ → R b d₂ d₃ → R (a + b) d₁ d₃
  adjust : ∀ now reason delta location d d', d.productIdBySku sku = some item →
    d.adjustForCount now sku reason delta location = .ok d' → R delta d d'

theorem AdjustRule.spreadOverHolders
    {R : Int → DomainTables κ → DomainTables κ → Prop} (rule : AdjustRule sku item R) {remaining rest : Int} {holders : List (String × Int)} (hsku : d.productIdBySku sku = some item)
    (h : DomainTables.spreadOverHolders now sku reason remaining holders d = .ok (rest, d')) :
    R (remaining - rest) d d' ∧ d'.productIdBySku sku = some item := by
  induction holders generalizing remaining d with
  | nil =>
    cases h
    exact ⟨by simpa using rule.refl d', hsku⟩
  | cons holder holders ih =>
    obtain ⟨location, qty⟩ := holder
    unfold DomainTables.spreadOverHolders at h
    split at h
    · cases h
      exact ⟨by simpa using rule.refl d', hsku⟩
    · simp only at h
      generalize (if remaining < 0 then -(min (-remaining) qty) else remaining) = step at h
      split at h
      · exact ih hsku h
      · cases hadjust : d.adjustForCount now sku reason step location with
        | error e => simp [hadjust] at h
        | ok d₁ =>
          have hframe := (adjustForCount_ok hsku hadjust).frame
          have hfirst := rule.adjust _ _ _ _ _ _ hsku hadjust
          cases hleft : checkedI64 (remaining - step) with
          | none => simp [hadjust, hleft] at h
          | some left =>
            obtain ⟨rfl, _⟩ := (checkedI64_eq_some_iff _ _).mp hleft
            simp only [hadjust, hleft] at h
            obtain ⟨hlater, hsku'⟩ := ih ((hframe.productIdBySku sku).trans hsku) h
            have hall := rule.trans _ _ _ _ _ hfirst hlater
            have hsum : step + (remaining - step - rest) = remaining - rest := by omega
            rw [hsum] at hall
            exact ⟨hall, hsku'⟩

theorem AdjustRule.applyCountDelta {R : Int → DomainTables κ → DomainTables κ → Prop}
    (rule : AdjustRule sku item R) {delta : Int} (hsku : d.productIdBySku sku = some item)
    (h : d.applyCountDelta now sku reason item delta = .ok d') : R delta d d' := by
  unfold DomainTables.applyCountDelta at h
  split at h
  · rename_i hzero
    cases h
    rw [hzero]
    exact rule.refl d
  · cases hspread : DomainTables.spreadOverHolders now sku reason delta (d.stockHolders item) d with
    | error e => simp [hspread] at h
    | ok done =>
      obtain ⟨remaining, d₁⟩ := done
      obtain ⟨hfirst, hsku'⟩ := rule.spreadOverHolders hsku hspread
      simp only [hspread] at h
      split at h
      · rename_i hnone
        cases h
        simpa [hnone] using hfirst
      · have hlast := rule.adjust _ _ _ _ _ _ hsku' h
        have hall := rule.trans _ _ _ _ _ hfirst hlast
        have hsum : delta - remaining + remaining = delta := by omega
        rwa [hsum] at hall

theorem Shifted.rule (sku item : String) :
    AdjustRule sku item (Shifted item : Int → DomainTables κ → DomainTables κ → Prop) where
  refl := Shifted.refl item
  trans _ _ _ _ _ := Shifted.trans
  adjust _ _ _ _ _ _ := adjustForCount_ok

def discrepancies : List StockCountLine → List (String × Int)
  | [] => []
  | line :: rest =>
    if countedQtyOf line = line.expectedQty then discrepancies rest
    else (line.sku, countedQtyOf line) :: discrepancies rest

def settledLevel (d : DomainTables κ) (item : String) : List (String × Int) → Int → Int
  | [], level => level
  | (sku, counted) :: rest, level =>
    settledLevel d item rest (if d.productIdBySku sku = some item then counted else level)

theorem settledLevel_frame (h : StockOnly d d') (item : String) (entries : List (String × Int))
    (level : Int) : settledLevel d' item entries level = settledLevel d item entries level := by
  induction entries generalizing level with
  | nil => rfl
  | cons entry entries ih =>
    obtain ⟨sku, counted⟩ := entry
    simp only [settledLevel, h.productIdBySku]
    exact ih _

theorem discrepancies_append (l r : List StockCountLine) :
    discrepancies (l ++ r) = discrepancies l ++ discrepancies r := by
  induction l with
  | nil => rfl
  | cons line l ih =>
    simp only [List.cons_append, discrepancies, ih]
    split
    · rfl
    · rfl

theorem settledLevel_append (d : DomainTables κ) (item : String) (l r : List (String × Int))
    (level : Int) :
    settledLevel d item (l ++ r) level = settledLevel d item r (settledLevel d item l level) := by
  induction l generalizing level with
  | nil => rfl
  | cons entry l ih => exact ih _

/-- The adjustments of some counted lines have been applied: recorded one for each discrepancy,
and put into the stock. -/
structure AdjustmentsApplied (countId : String) (lines : List StockCountLine) (r next : CountDb κ)
    (adjustments : List StockAdjustment) : Prop where
  sameCounts : next.counts = r.counts
  sameLines : next.lines = r.lines
  frame : StockOnly r.domain next.domain
  recorded : next.adjustments.rows = r.adjustments.rows ++ adjustments
  owner : ∀ a ∈ adjustments, a.countId = some countId
  entries : adjustments.map (fun a => (a.sku, a.adjustedQty)) = discrepancies lines
  settled : ∀ item, next.domain.onHand item =
    settledLevel r.domain item (discrepancies lines) (r.domain.onHand item)

variable {draw : CountDraw} {completedBy : Option String} {r next : CountDb κ}
  {adjustments : List StockAdjustment}

theorem completeLine_ok {count : StockCount} {n : Nat} {line : StockCountLine}
    (h : completeLine draw count completedBy n line r = .ok (next, adjustments)) :
    AdjustmentsApplied count.id [line] r next adjustments := by
  obtain ⟨_, _, h⟩ := Except.of_bind h
  split at h
  · rename_i hagree
    cases h
    constructor
    · rfl
    · rfl
    · exact StockOnly.refl _
    · simp
    · simp
    · simp [discrepancies, hagree]
    · simp [discrepancies, hagree, settledLevel]
  · rename_i hdiffers
    cases hsku : r.domain.productIdBySku line.sku with
    | none => simp [hsku] at h
    | some item =>
      simp only [hsku] at h
      obtain ⟨previous, hprevious, h⟩ := Except.of_bind h
      obtain ⟨_, _, h⟩ := Except.of_bind h
      cases hdelta : checkedI64 (countedQtyOf line - previous) with
      | none => simp [hdelta, invalidCount] at h
      | some delta =>
        obtain ⟨rfl, _⟩ := (checkedI64_eq_some_iff _ _).mp hdelta
        simp only [hdelta] at h
        obtain ⟨d₁, hbridge, h⟩ := Except.of_bind h
        obtain ⟨d₂, happly, h⟩ := Except.of_bind h
        obtain ⟨hframe, honHand, _⟩ := bridge_ok (countResult_ok_iff.mp hbridge)
        have hshifted := (Shifted.rule line.sku item).applyCountDelta
          ((hframe.productIdBySku line.sku).trans hsku) happly
        cases hinsert : r.adjustments.insert? (adjustmentFor draw count completedBy n line
            previous) with
        | none => simp [hinsert] at h
        | some recorded =>
          simp only [hinsert, Except.ok.injEq, Prod.mk.injEq] at h
          obtain ⟨rfl, rfl⟩ := h
          constructor
          · rfl
          · rfl
          · exact hframe.trans hshifted.frame
          · exact Table.insert?_rows hinsert
          · simp [adjustmentFor]
          · simp [discrepancies, hdiffers, adjustmentFor]
          · intro other
            have hold := previousQty_ok hprevious
            simp only [discrepancies, hdiffers, if_false, settledLevel, hsku,
              Option.some.injEq]
            rw [hshifted.onHand, honHand]
            by_cases hother : other = item
            · subst hother
              simp only [if_true]
              omega
            · simp [hother, Ne.symm hother]

variable {countId : String}

theorem AdjustmentsApplied.append {l₁ l₂ : List StockCountLine}
    {r₁ r₂ r₃ : CountDb κ} {a₁ a₂ : List StockAdjustment}
    (h : AdjustmentsApplied countId l₁ r₁ r₂ a₁) (h' : AdjustmentsApplied countId l₂ r₂ r₃ a₂) :
    AdjustmentsApplied countId (l₁ ++ l₂) r₁ r₃ (a₁ ++ a₂) where
  sameCounts := h'.sameCounts.trans h.sameCounts
  sameLines := h'.sameLines.trans h.sameLines
  frame := h.frame.trans h'.frame
  recorded := by rw [h'.recorded, h.recorded, List.append_assoc]
  owner := by
    intro a ha
    rcases List.mem_append.mp ha with hfirst | hlater
    · exact h.owner a hfirst
    · exact h'.owner a hlater
  entries := by rw [List.map_append, h.entries, h'.entries, discrepancies_append]
  settled := by
    intro item
    rw [h'.settled, settledLevel_frame h.frame, h.settled, discrepancies_append,
      settledLevel_append]

theorem completeLines_ok {count : StockCount} {n : Nat} {lines : List StockCountLine}
    (h : completeLines draw count completedBy n lines r = .ok (next, adjustments)) :
    AdjustmentsApplied count.id lines r next adjustments := by
  induction lines generalizing n r adjustments with
  | nil =>
    cases h
    constructor
    · rfl
    · rfl
    · exact StockOnly.refl _
    · simp
    · simp
    · rfl
    · simp [discrepancies, settledLevel]
  | cons line rest ih =>
    obtain ⟨⟨mid, first⟩, hfirst, h⟩ := Except.of_bind h
    obtain ⟨⟨last, others⟩, hothers, h⟩ := Except.of_map h
    cases h
    exact (completeLine_ok hfirst).append (ih hothers)

theorem completeStockCount_lines
    (h : completeStockCount draw countId completedBy r = .ok (next, adjustments)) :
    ∃ count, r.counts.find? countId = some count ∧ count.status.editable = true ∧
      completeLines draw count completedBy 0 (r.orderedLines countId)
        (setCompleted draw.now countId r) = .ok (next, adjustments) := by
  unfold completeStockCount at h
  split at h
  · cases h
  · cases hcount : r.counts.find? countId with
    | none => simp [hcount] at h
    | some count =>
      simp only [hcount] at h
      split at h
      · rename_i heditable
        exact ⟨count, rfl, heditable, h⟩
      · simp [invalidCount] at h

theorem completeStockCount_ok
    (h : completeStockCount draw countId completedBy r = .ok (next, adjustments)) :
    ∃ count, r.counts.find? countId = some count ∧ count.status.editable = true ∧
      AdjustmentsApplied countId (r.orderedLines countId) (setCompleted draw.now countId r) next
        adjustments := by
  obtain ⟨count, hcount, heditable, hlines⟩ := completeStockCount_lines h
  have happlied := completeLines_ok hlines
  rw [Table.find?_key hcount] at happlied
  exact ⟨count, hcount, heditable, happlied⟩

end OzPos
