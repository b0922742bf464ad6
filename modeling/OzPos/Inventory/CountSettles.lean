import OzPos.Inventory.CountCompletion

namespace OzPos

open DomainTables

variable {κ : Type}

def movedOn (item : String) (moves : List StockMovement) : Int :=
  ((moves.filter (fun m => m.itemId = item)).map StockMovement.delta).sum

theorem movedOn_append (item : String) (l r : List StockMovement) :
    movedOn item (l ++ r) = movedOn item l + movedOn item r := by
  simp [movedOn]

variable {item : String}

theorem movedOn_of_other {moves : List StockMovement}
    (h : ∀ m ∈ moves, m.itemId ≠ item) : movedOn item moves = 0 := by
  have hnone : moves.filter (fun m => m.itemId = item) = [] := by
    rw [List.filter_eq_nil_iff]
    intro m hm
    simpa using h m hm
  rw [movedOn, hnone]
  rfl

/-- A location that is below zero afterwards is no lower than it was. -/
def NotDriven (d d' : DomainTables κ) : Prop :=
  ∀ item location, 0 ≤ d'.quantityAt item location ∨
    d.quantityAt item location ≤ d'.quantityAt item location

theorem NotDriven.refl (d : DomainTables κ) : NotDriven d d := fun _ _ => .inr le_rfl

variable {d₁ d₂ d₃ : DomainTables κ}

theorem NotDriven.trans (h : NotDriven d₁ d₂) (h' : NotDriven d₂ d₃) : NotDriven d₁ d₃ := by
  intro item location
  have hfirst := h item location
  have hlater := h' item location
  omega

/-- The moves logged for one product are its own, and add up to the delta. -/
structure Waterfall (item : String) (delta : Int) (d d' : DomainTables κ) : Prop where
  logged : ∃ moves, d'.stockMovements = d.stockMovements ++ moves ∧
    (∀ m ∈ moves, m.itemId = item) ∧ movedOn item moves = delta
  level : NotDriven d d'

theorem Waterfall.refl (item : String) (d : DomainTables κ) : Waterfall item 0 d d :=
  ⟨⟨[], by simp [movedOn]⟩, NotDriven.refl d⟩

theorem Waterfall.trans {a b : Int}
    (h : Waterfall item a d₁ d₂) (h' : Waterfall item b d₂ d₃) : Waterfall item (a + b) d₁ d₃ := by
  obtain ⟨first, hfirst, hitems, hsum⟩ := h.logged
  obtain ⟨later, hlater, hitems', hsum'⟩ := h'.logged
  refine ⟨⟨first ++ later, ?_, ?_, ?_⟩, h.level.trans h'.level⟩
  · rw [hlater, hfirst, List.append_assoc]
  · intro m hm
    rcases List.mem_append.mp hm with hm | hm
    · exact hitems m hm
    · exact hitems' m hm
  · rw [movedOn_append, hsum, hsum']

variable {d d' : DomainTables κ} {sku now : String}

theorem adjust_logs {delta : Int} {location : String} {reason : Option String} {qty : Int}
    (hsku : d.productIdBySku sku = some item)
    (h : d.adjustStockAtLocationWithReason now sku delta location reason = .ok (qty, d')) :
    d'.stockMovements =
      d.stockMovements ++ [⟨none, item, location, delta, reason, none, none, "", now⟩] := by
  unfold adjustStockAtLocationWithReason at h
  simp only [hsku] at h
  cases hqty : checkedStock (d.legacyAwareLocationQty item location + delta) with
  | none => simp [hqty] at h
  | some stamped =>
    simp only [hqty] at h
    cases happend : d.appendMovement
        ⟨none, item, location, delta, reason, none, none, "", now⟩ with
    | error e => simp [happend] at h
    | ok d₁ =>
      obtain ⟨_, rfl⟩ := appendMovement_eq_ok happend
      simp only [happend] at h
      split at h
      · cases h
      · rename_i written hrecompute
        cases h
        rcases recomputeInventory_eq_ok hrecompute with ⟨_, rfl⟩ | ⟨_, _, rfl⟩
        · rfl
        · rfl

theorem adjustForCount_waterfall {reason : String} {delta : Int} {location : String}
    (hsku : d.productIdBySku sku = some item)
    (h : d.adjustForCount now sku reason delta location = .ok d') : Waterfall item delta d d' := by
  obtain ⟨⟨qty, written⟩, hadjust, rfl⟩ := Except.of_map h
  have hok := countResult_ok_iff.mp hadjust
  have hlogs := adjust_logs hsku hok
  obtain ⟨found, hfound, hfits, hmoved⟩ := adjustStockAtLocation_ok hok
  rw [hsku, Option.some.injEq] at hfound
  subst hfound
  refine ⟨⟨_, hlogs, by simp, by simp [movedOn]⟩, ?_⟩
  intro other place
  have hquantity := hmoved.quantity other place
  have hlevel := hfits.level.1
  split at hquantity
  · left
    rw [hquantity]
    exact hlevel
  · right
    exact hquantity.ge

theorem Waterfall.rule (sku item : String) :
    AdjustRule sku item (Waterfall item : Int → DomainTables κ → DomainTables κ → Prop) where
  refl := Waterfall.refl item
  trans _ _ _ _ _ := Waterfall.trans
  adjust _ _ _ _ _ _ := adjustForCount_waterfall

theorem bridge_waterfall (hstock : 0 ≤ d.onHand item)
    (h : d.bridgeLegacyInventoryIntoStockSummary now item = .ok d') : Waterfall item 0 d d' := by
  unfold bridgeLegacyInventoryIntoStockSummary at h
  cases hlegacy : d.legacyStock item with
  | none =>
    simp only [hlegacy, Except.ok.injEq] at h
    rw [← h]
    exact Waterfall.refl item d
  | some q =>
    obtain ⟨hrows, hinventory, _⟩ := (legacyStock_eq_some_iff d item q).mp hlegacy
    rw [onHand_of_no_rows hrows, hinventory, Option.getD_some] at hstock
    simp only [hlegacy] at h
    split at h
    · cases h
      refine ⟨⟨[], (List.append_nil _).symm, by simp, rfl⟩, ?_⟩
      intro other place
      rw [quantityAt_upsertStockSummary]
      split
      · exact .inl hstock
      · exact .inr le_rfl
    · cases h

/-- Each adjustment recorded for the lines is made up by the moves of its product. -/
structure Booked (lines : List StockCountLine) (d d' : DomainTables κ)
    (moves : List StockMovement) (adjustments : List StockAdjustment) : Prop where
  frame : StockOnly d d'
  logged : d'.stockMovements = d.stockMovements ++ moves
  owned : ∀ m ∈ moves, ∃ line ∈ lines, d.productIdBySku line.sku = some m.itemId
  named : ∀ a ∈ adjustments, ∃ line ∈ lines, a.sku = line.sku
  accounted : ∀ a ∈ adjustments, ∃ item, d.productIdBySku a.sku = some item ∧
    movedOn item moves = a.adjustedQty - a.previousQty
  level : NotDriven d d'

variable (lines : List StockCountLine)

theorem Booked.nothing (d : DomainTables κ) : Booked lines d d [] [] where
  frame := StockOnly.refl d
  logged := (List.append_nil _).symm
  owned := by simp
  named := by simp
  accounted := by simp
  level := NotDriven.refl d

theorem productIdBySku_inj {sku' : String} (h : d.productIdBySku sku = some item)
    (h' : d.productIdBySku sku' = some item) : sku = sku' := by
  obtain ⟨p, hp, rfl⟩ := Option.map_eq_some_iff.mp h
  obtain ⟨p', hp', hid⟩ := Option.map_eq_some_iff.mp h'
  have hrow := (Table.mem_rows_iff d.products p).mp (List.mem_of_find?_eq_some hp)
  have hrow' := (Table.mem_rows_iff d.products p').mp (List.mem_of_find?_eq_some hp')
  rw [hid, hrow, Option.some.injEq] at hrow'
  have hsku := List.find?_some hp
  have hsku' := List.find?_some hp'
  subst hrow'
  exact (of_decide_eq_true hsku).symm.trans (of_decide_eq_true hsku')

theorem Booked.append {l₁ l₂ : List StockCountLine}
    {m₁ m₂ : List StockMovement} {a₁ a₂ : List StockAdjustment}
    (hdistinct : ∀ x ∈ l₁, ∀ y ∈ l₂, x.sku ≠ y.sku) (h : Booked l₁ d₁ d₂ m₁ a₁)
    (h' : Booked l₂ d₂ d₃ m₂ a₂) : Booked (l₁ ++ l₂) d₁ d₃ (m₁ ++ m₂) (a₁ ++ a₂) where
  frame := h.frame.trans h'.frame
  logged := by rw [h'.logged, h.logged, List.append_assoc]
  owned := by
    intro m hm
    rcases List.mem_append.mp hm with hm | hm
    · obtain ⟨line, hline, hsku⟩ := h.owned m hm
      exact ⟨line, List.mem_append_left _ hline, hsku⟩
    · obtain ⟨line, hline, hsku⟩ := h'.owned m hm
      rw [h.frame.productIdBySku] at hsku
      exact ⟨line, List.mem_append_right _ hline, hsku⟩
  named := by
    intro a ha
    rcases List.mem_append.mp ha with ha | ha
    · obtain ⟨line, hline, hsku⟩ := h.named a ha
      exact ⟨line, List.mem_append_left _ hline, hsku⟩
    · obtain ⟨line, hline, hsku⟩ := h'.named a ha
      exact ⟨line, List.mem_append_right _ hline, hsku⟩
  accounted := by
    intro a ha
    rcases List.mem_append.mp ha with ha | ha
    · obtain ⟨item, hsku, hsum⟩ := h.accounted a ha
      obtain ⟨x, hx, hname⟩ := h.named a ha
      refine ⟨item, hsku, ?_⟩
      rw [movedOn_append, hsum, movedOn_of_other, Int.add_zero]
      intro m hm heq
      obtain ⟨y, hy, howner⟩ := h'.owned m hm
      rw [h.frame.productIdBySku, heq] at howner
      exact hdistinct x hx y hy (productIdBySku_inj (hname ▸ hsku) howner)
    · obtain ⟨item, hsku, hsum⟩ := h'.accounted a ha
      obtain ⟨y, hy, hname⟩ := h'.named a ha
      rw [h.frame.productIdBySku] at hsku
      refine ⟨item, hsku, ?_⟩
      rw [movedOn_append, hsum, movedOn_of_other, Int.zero_add]
      intro m hm heq
      obtain ⟨x, hx, howner⟩ := h.owned m hm
      rw [heq] at howner
      exact hdistinct x hx y hy (productIdBySku_inj howner (hname ▸ hsku))
  level := h.level.trans h'.level

theorem completeLine_booked {draw : CountDraw} {count : StockCount} {completedBy : Option String}
    {n : Nat} {line : StockCountLine} {r next : CountDb κ} {adjustments : List StockAdjustment}
    (h : completeLine draw count completedBy n line r = .ok (next, adjustments)) :
    ∃ moves, Booked [line] r.domain next.domain moves adjustments := by
  obtain ⟨_, _, h⟩ := Except.of_bind h
  split at h
  · cases h
    exact ⟨[], Booked.nothing _ _⟩
  · cases hsku : r.domain.productIdBySku line.sku with
    | none => simp [hsku] at h
    | some item =>
      simp only [hsku] at h
      obtain ⟨previous, hprevious, h⟩ := Except.of_bind h
      obtain ⟨_, hnonneg, h⟩ := Except.of_bind h
      cases hdelta : checkedI64 (countedQtyOf line - previous) with
      | none => simp [hdelta, invalidCount] at h
      | some delta =>
        obtain ⟨rfl, _⟩ := (checkedI64_eq_some_iff _ _).mp hdelta
        simp only [hdelta] at h
        obtain ⟨d₁, hbridge, h⟩ := Except.of_bind h
        obtain ⟨d₂, happly, h⟩ := Except.of_bind h
        have hstock : 0 ≤ r.domain.onHand item := by
          rw [← previousQty_ok hprevious]
          by_contra hneg
          simp [validateNonNegative, invalidCount, not_le.mp hneg] at hnonneg
        have hbridged := countResult_ok_iff.mp hbridge
        obtain ⟨hframe, _, _⟩ := bridge_ok hbridged
        have hsku' := (hframe.productIdBySku line.sku).trans hsku
        have hshifted := (Shifted.rule line.sku item).applyCountDelta hsku' happly
        have hwater := (bridge_waterfall hstock hbridged).trans
          ((Waterfall.rule line.sku item).applyCountDelta hsku' happly)
        cases hinsert : r.adjustments.insert? (adjustmentFor draw count completedBy n line
            previous) with
        | none => simp [hinsert] at h
        | some recorded =>
          simp only [hinsert, Except.ok.injEq, Prod.mk.injEq] at h
          obtain ⟨rfl, rfl⟩ := h
          obtain ⟨moves, hlogged, hitems, hsum⟩ := hwater.logged
          refine ⟨moves, hframe.trans hshifted.frame, hlogged, ?_, ?_, ?_, hwater.level⟩
          · intro m hm
            exact ⟨line, List.mem_singleton_self line, by rw [hsku, hitems m hm]⟩
          · simp [adjustmentFor]
          · intro a ha
            rw [List.mem_singleton.mp ha]
            refine ⟨item, hsku, ?_⟩
            rw [hsum, Int.zero_add]
            rfl

theorem completeLines_booked {draw : CountDraw} {count : StockCount} {completedBy : Option String}
    {n : Nat} {lines : List StockCountLine} {r next : CountDb κ}
    {adjustments : List StockAdjustment} (hdistinct : (lines.map StockCountLine.sku).Nodup)
    (h : completeLines draw count completedBy n lines r = .ok (next, adjustments)) :
    ∃ moves, Booked lines r.domain next.domain moves adjustments := by
  induction lines generalizing n r adjustments with
  | nil =>
    cases h
    exact ⟨[], Booked.nothing _ _⟩
  | cons line rest ih =>
    obtain ⟨hline, hrest⟩ := List.nodup_cons.mp hdistinct
    obtain ⟨⟨mid, first⟩, hfirst, h⟩ := Except.of_bind h
    obtain ⟨⟨last, others⟩, hothers, h⟩ := Except.of_map h
    cases h
    obtain ⟨moves, hbooked⟩ := completeLine_booked hfirst
    obtain ⟨later, hlater⟩ := ih hrest hothers
    have happart : ∀ x ∈ [line], ∀ y ∈ rest, x.sku ≠ y.sku := by
      intro x hx y hy heq
      rw [List.mem_singleton.mp hx] at heq
      exact hline (List.mem_map.mpr ⟨y, hy, heq.symm⟩)
    exact ⟨moves ++ later, hbooked.append happart hlater⟩

theorem discrepancies_eq :
    discrepancies lines = (lines.filter (fun line => countedQtyOf line ≠ line.expectedQty)).map
      (fun line => (line.sku, countedQtyOf line)) := by
  induction lines with
  | nil => rfl
  | cons line rest ih =>
    by_cases h : countedQtyOf line = line.expectedQty
    · simp [discrepancies, h, ih]
    · simp [discrepancies, h, ih]

theorem settledLevel_of_none {entries : List (String × Int)}
    (h : ∀ e ∈ entries, d.productIdBySku e.1 ≠ some item) (level : Int) :
    settledLevel d item entries level = level := by
  induction entries generalizing level with
  | nil => rfl
  | cons e entries ih =>
    obtain ⟨hhead, htail⟩ := List.forall_mem_cons.mp h
    rw [settledLevel, if_neg hhead, ih htail]

theorem settledLevel_of_mem {counted : Int}
    {entries : List (String × Int)} (hdistinct : (entries.map Prod.fst).Nodup)
    (hmem : (sku, counted) ∈ entries) (hsku : d.productIdBySku sku = some item) (level : Int) :
    settledLevel d item entries level = counted := by
  induction entries generalizing level with
  | nil => cases hmem
  | cons e entries ih =>
    obtain ⟨hhead, htail⟩ := List.nodup_cons.mp hdistinct
    rcases List.mem_cons.mp hmem with rfl | hlater
    · rw [settledLevel, if_pos hsku]
      apply settledLevel_of_none
      intro e he heq
      exact hhead (List.mem_map.mpr ⟨e, he, productIdBySku_inj heq hsku⟩)
    · rw [settledLevel]
      exact ih htail hlater _

/-- What a completed count promises of the stock and of its records. -/
structure CountSettles (countId : String) (r next : CountDb κ)
    (adjustments : List StockAdjustment) : Prop where
  onHand : ∀ line ∈ r.lines.rows, line.countId = countId → ∀ counted ∈ line.countedQty,
    ∀ item ∈ r.domain.productIdBySku line.sku, next.domain.onHand item = counted
  level : NotDriven r.domain next.domain
  recorded : next.adjustments.rows = r.adjustments.rows ++ adjustments
  accounted : ∃ moves, next.domain.stockMovements = r.domain.stockMovements ++ moves ∧
    ∀ a ∈ adjustments, ∃ item, r.domain.productIdBySku a.sku = some item ∧
      movedOn item moves = a.adjustedQty - a.previousQty

/-- A line that counted what was expected still finds that on hand. -/
def Undrifted (countId : String) (r : CountDb κ) : Prop :=
  ∀ line ∈ r.lines.rows, line.countId = countId → line.countedQty = some line.expectedQty →
    ∀ item ∈ r.domain.productIdBySku line.sku, r.domain.onHand item = line.expectedQty

instance (countId : String) (r : CountDb κ) : Decidable (Undrifted countId r) :=
  inferInstanceAs (Decidable (∀ line ∈ r.lines.rows, line.countId = countId →
    line.countedQty = some line.expectedQty →
    ∀ item ∈ r.domain.productIdBySku line.sku, r.domain.onHand item = line.expectedQty))

theorem mem_countLines (r : CountDb κ) (countId : String) (line : StockCountLine) :
    line ∈ r.orderedLines countId ↔ line ∈ r.lines.rows ∧ line.countId = countId := by
  rw [CountDb.orderedLines, List.mem_insertionSort, List.mem_filter, decide_eq_true_eq]

/-- A completion takes what was counted into the stock, its records account for the movements and
no location is driven below zero, just when no line that agreed with its snapshot has drifted. -/
theorem count_settles_iff {draw : CountDraw} {countId : String} {completedBy : Option String}
    {r next : CountDb κ} {adjustments : List StockAdjustment}
    (h : completeStockCount draw countId completedBy r = .ok (next, adjustments))
    (hdistinct :
      ((r.lines.rows.filter (fun line => line.countId = countId)).map StockCountLine.sku).Nodup) :
    CountSettles countId r next adjustments ↔ Undrifted countId r := by
  obtain ⟨count, -, -, hlines⟩ := completeStockCount_lines h
  obtain ⟨-, -, -, happlied⟩ := completeStockCount_ok h
  have hskus : ((r.orderedLines countId).map StockCountLine.sku).Nodup := by
    refine (List.Perm.nodup_iff (List.Perm.map _ ?_)).mpr hdistinct
    exact List.perm_insertionSort _ _
  obtain ⟨moves, hbooked⟩ := completeLines_booked hskus hlines
  have hentries : ((discrepancies (r.orderedLines countId)).map Prod.fst).Nodup := by
    rw [discrepancies_eq, List.map_map]
    exact hskus.sublist (List.filter_sublist.map _)
  -- a line's product ends at its counted quantity, or where it was
  have hlevel : ∀ line ∈ r.orderedLines countId, ∀ item,
      r.domain.productIdBySku line.sku = some item → next.domain.onHand item =
        if countedQtyOf line = line.expectedQty then r.domain.onHand item
        else countedQtyOf line := by
    intro line hline item hsku
    have hsettled : next.domain.onHand item = settledLevel r.domain item
        (discrepancies (r.orderedLines countId)) (r.domain.onHand item) := happlied.settled item
    rw [hsettled]
    split
    · rename_i hagrees
      apply settledLevel_of_none
      intro e he hitem
      rw [discrepancies_eq] at he
      obtain ⟨other, hother, rfl⟩ := List.mem_map.mp he
      obtain ⟨hin, hdiffers⟩ := List.mem_filter.mp hother
      have hsame := List.inj_on_of_nodup_map hskus hin hline (productIdBySku_inj hitem hsku)
      subst hsame
      exact of_decide_eq_true hdiffers hagrees
    · rename_i hdiffers
      refine settledLevel_of_mem hentries ?_ hsku _
      rw [discrepancies_eq]
      exact List.mem_map.mpr ⟨line, List.mem_filter.mpr ⟨hline, decide_eq_true hdiffers⟩, rfl⟩
  constructor
  · intro hsettles line hin hcount hagrees item hsku
    have hline := (mem_countLines r countId line).mpr ⟨hin, hcount⟩
    have hthen := hlevel line hline item hsku
    rw [if_pos (by simp [countedQtyOf, hagrees])] at hthen
    rw [← hthen]
    exact hsettles.onHand line hin hcount _ hagrees item hsku
  · intro hstill
    refine ⟨?_, hbooked.level, happlied.recorded, moves, hbooked.logged, hbooked.accounted⟩
    intro line hin hcount counted hcounted item hsku
    have hline := (mem_countLines r countId line).mpr ⟨hin, hcount⟩
    have hqty : countedQtyOf line = counted := by
      rw [countedQtyOf, hcounted, Option.getD_some]
    rw [hlevel line hline item hsku, hqty]
    split
    · rename_i hagrees
      rw [hagrees] at hcounted ⊢
      exact hstill line hin hcount hcounted item hsku
    · rfl

def teaCount (counted onShelf inStore : Int) : CountDb Unit where
  counts := .single ⟨"c", "CNT-1", .inProgress, .full, "", none, none, "t0"⟩
  lines := .single ⟨"l", "c", "TEA", "Tea", 10, some counted, counted - 10, ""⟩
  adjustments := Table.empty
  domain := { DomainTables.empty () with
    products := .single ⟨"p", "default", "TEA", "Tea", 100, "IDR", none, none, "physical", "t0"⟩
    locations := ["shelf", "store"]
    stockSummary := ⟨[⟨"p", "shelf", onShelf, "t0"⟩, ⟨"p", "store", inStore, "t0"⟩],
      (by decide : [("p", "shelf"), ("p", "store")].Nodup)⟩ }

def countClock : CountDraw := ⟨"t1", fun n => s!"adjustment {n}", none⟩

/-- The stock has drifted to seven, of which two are counted. -/
theorem tea_count_settles :
    ∃ next adjustments,
      completeStockCount countClock "c" none (teaCount 2 4 3) = .ok (next, adjustments) ∧
        CountSettles "c" (teaCount 2 4 3) next adjustments := by
  have hok : (completeStockCount countClock "c" none (teaCount 2 4 3)).isOk = true := by
    decide +kernel
  obtain ⟨⟨next, adjustments⟩, h⟩ := (Except.isOk_iff _).mp hok
  exact ⟨next, adjustments, h, (count_settles_iff h (by decide)).mpr (by decide)⟩

/-- Counted as ten, as expected, while three were sold: the stock stays at seven. -/
theorem tea_count_agreeing_with_snapshot :
    ∃ next adjustments,
      completeStockCount countClock "c" none (teaCount 10 4 3) = .ok (next, adjustments) ∧
        next.domain.onHand "p" = 7 ∧ ¬CountSettles "c" (teaCount 10 4 3) next adjustments := by
  have hok : ∃ done ∈ (completeStockCount countClock "c" none (teaCount 10 4 3)).toOption,
      done.1.domain.onHand "p" = 7 := by decide +kernel
  obtain ⟨⟨next, adjustments⟩, hdone, hseven⟩ := hok
  cases h : completeStockCount countClock "c" none (teaCount 10 4 3) with
  | error e => simp [h, Except.toOption] at hdone
  | ok done =>
    simp only [h, Except.toOption, Option.mem_some_iff] at hdone
    refine ⟨next, adjustments, congrArg _ hdone, hseven, ?_⟩
    intro hsettles
    have hten := hsettles.onHand _ (List.mem_singleton_self _) rfl 10 rfl "p" (by decide)
    exact absurd (hseven.symm.trans hten) (by decide)

end OzPos
