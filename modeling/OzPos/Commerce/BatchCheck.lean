import OzPos.Commerce.CheckoutStock

namespace OzPos

variable {κ : Type}

namespace DomainTables

section Account

variable (d : DomainTables κ)

variable (made : List StockMove)

variable (item location : String)

/-- What stands for a product at a location before the moves' own deltas: its row, or, for a
product without rows, the legacy aggregate, wholly at the location of the product's first move. -/
def baseAt : Int :=
  if d.hasLocationRows item then d.quantityAt item location
  else
    match made.find? (fun m => m.item = item) with
    | none => d.onHand item
    | some first => if first.location = location then d.onHand item else 0

def levelOn : Int :=
  d.baseAt made item location + netAt item location made

/-- The product has a row in `inventory` once the moves are made. -/
def CountedOn (item : String) : Prop :=
  (d.inventoryQty item).isSome ∨ ∃ l m r, made = l ++ m :: r ∧ m.item = item ∧
    0 ≤ d.levelOn l item m.location + m.delta

/-- After the moves `made` the writer takes one more. -/
structure GoesThrough (w : StockBindings) (ctx : MovementContext) (made : List StockMove)
    (m : StockMove) : Prop where
  session : ctx.inventoryTransactionId.any (fun id => id ∉ w.transactions) = false
  place : m.location ∈ d.locations
  level : FitsI64 (d.levelOn made m.item m.location + m.delta)
  held : w.allowsNegative ctx.terminalId m.location = true ∨
    0 ≤ d.levelOn made m.item m.location + m.delta
  total : 0 ≤ d.levelOn made m.item m.location + m.delta → d.CountedOn made m.item →
    FitsI64 (d.onHand m.item + deltaOn m.item made + m.delta) ∧
      (w.allowsNegative ctx.terminalId m.location = true ∨
        0 ≤ d.onHand m.item + deltaOn m.item made + m.delta)

def moveOf (x : StockDeduction) : Option StockMove :=
  (d.productIdBySku x.sku).map (fun item => ⟨item, x.locationId, x.delta⟩)

def movesOf (deductions : List StockDeduction) : List StockMove := deductions.filterMap d.moveOf

variable (w : StockBindings)

variable (ctx : MovementContext)

/-- Each move of the list goes through after those before it. -/
def AllGoThrough (moves : List StockMove) : Prop :=
  ∀ l m r, moves = l ++ m :: r → d.GoesThrough w ctx l m

/-- At each deduction that is come to, the location may go below zero or the level, with what
the deductions before took and the deduction's own delta, is one the column holds. -/
def StaysStocked (deductions : List StockDeduction) : Prop :=
  ∀ l x r item, deductions = l ++ x :: r → d.productIdBySku x.sku = some item →
    d.AllGoThrough w ctx (d.movesOf l) →
    w.allowsNegative ctx.terminalId x.locationId = true ∨
      InStock (d.levelOn (d.movesOf l) item x.locationId + x.delta)

/-- A list that phase 1 passes meets no shortage in phase 2. -/
def ChecksSuffice (now : String) (ctx : MovementContext)
    (deductions : List StockDeduction) : Prop :=
  d.checkBatch w ctx deductions = .ok () → ∀ (sku location : String) (delta available : Int),
    d.executeBatch w now ctx deductions ≠
      .error (.insufficientStockAtLocation sku location delta available)

end Account

variable {w : StockBindings} {d d₁ d' : DomainTables κ} {m : StockMove}
  {made : List StockMove} {ctx : MovementContext}

theorem checkedI64_eq_none_iff (n : Int) : checkedI64 n = none ↔ ¬ FitsI64 n := by
  unfold checkedI64 FitsI64
  split
  · rename_i hfits
    refine ⟨fun h => ?_, fun h => absurd hfits h⟩
    cases h
  · rename_i hfits
    exact ⟨fun _ => hfits, fun _ => rfl⟩

theorem checkedLevel_isOk_iff {allowNegative : Bool} {sku location : String} {current delta : Int} :
    (∃ qty, checkedLevel allowNegative sku location current delta = .ok qty) ↔
      FitsI64 (current + delta) ∧ (allowNegative = true ∨ 0 ≤ current + delta) := by
  unfold checkedLevel
  cases allowNegative with
  | true =>
    cases hqty : checkedI64 (current + delta) with
    | none =>
      have hnot := (checkedI64_eq_none_iff _).mp hqty
      simp [hnot]
    | some qty =>
      have hfits : FitsI64 (current + delta) := ((checkedI64_eq_some_iff _ _).mp hqty).2
      simp [hfits]
  | false =>
    cases hqty : checkedStock (current + delta) with
    | none =>
      have hnot : ¬ (FitsI64 (current + delta) ∧ 0 ≤ current + delta) := by
        intro hboth
        have hsome := (checkedStock_eq_some_iff _ _).mpr ⟨rfl, hboth.2, hboth.1.2⟩
        rw [hqty] at hsome
        cases hsome
      simpa using hnot
    | some qty =>
      obtain ⟨-, hlow, hhigh⟩ := (checkedStock_eq_some_iff _ _).mp hqty
      have hfits : FitsI64 (current + delta) := ⟨by omega, hhigh⟩
      simp [hlow, hfits]

theorem recomputeInventoryAllowing_isOk_iff {allowNegative : Bool} {now item location : String}
    {qty : Int} (hqty : allowNegative = true ∨ 0 ≤ qty) :
    (∃ d', d.recomputeInventoryAllowing allowNegative now item location qty = .ok d') ↔
      (0 ≤ qty → (d.inventoryQty item).isSome → FitsI64 (d.summaryTotal item) ∧
        (allowNegative = true ∨ 0 ≤ d.summaryTotal item)) := by
  unfold recomputeInventoryAllowing
  by_cases hneg : qty < 0
  · have hallow : allowNegative = true := hqty.resolve_right (by omega)
    simp only [hneg, hallow, if_true]
    exact ⟨fun _ hlow => absurd hlow (by omega), fun _ => ⟨d, rfl⟩⟩
  · simp only [hneg, if_false]
    cases hinv : d.inventoryQty item with
    | none => simp
    | some old =>
      simp only [Option.isSome_some, forall_const]
      cases hsum : checkedI64 (d.summaryTotal item) with
      | none =>
        have hnot := (checkedI64_eq_none_iff _).mp hsum
        have hlow : 0 ≤ qty := by omega
        simp [hnot, hlow]
      | some total =>
        obtain ⟨rfl, hfits⟩ := (checkedI64_eq_some_iff _ _).mp hsum
        have hfits' : FitsI64 (d.summaryTotal item) := hfits
        have hlow : 0 ≤ qty := by omega
        by_cases hnonneg : 0 ≤ d.summaryTotal item
        · simp [hnonneg, hfits']
        · cases allowNegative with
          | true => simp [hnonneg, hfits']
          | false => simp [hnonneg, hlow]

theorem checkedLevel_insufficient_iff {allowNegative : Bool} {sku location : String}
    {current delta : Int} :
    (∃ sku' location' delta' available, checkedLevel allowNegative sku location current delta =
        .error (.insufficientStockAtLocation sku' location' delta' available)) ↔
      allowNegative = false ∧ ¬ InStock (current + delta) := by
  unfold checkedLevel
  cases allowNegative with
  | true => cases checkedI64 (current + delta) <;> simp
  | false =>
    cases hqty : checkedStock (current + delta) with
    | none =>
      have hnot : ¬ InStock (current + delta) := by
        intro hin
        rw [checkedStock_of_inStock hin] at hqty
        cases hqty
      simp [hnot]
    | some qty =>
      obtain ⟨-, hlow, hhigh⟩ := (checkedStock_eq_some_iff _ _).mp hqty
      have hin : InStock (current + delta) := ⟨hlow, hhigh⟩
      simp [hin]

variable {item location now : String}

theorem recompute_not_insufficient {allowNegative : Bool}
    {qty : Int} (sku place : String) (delta available : Int) :
    d.recomputeInventoryAllowing allowNegative now item location qty ≠
      .error (.insufficientStockAtLocation sku place delta available) := by
  unfold recomputeInventoryAllowing
  by_cases hneg : qty < 0
  · cases allowNegative <;> simp [hneg]
  · cases d.inventoryQty item with
    | none => simp [hneg]
    | some old =>
      cases hsum : checkedI64 (d.summaryTotal item) with
      | none => simp [hneg]
      | some total =>
        by_cases hlow : 0 ≤ total
        · simp [hneg, hlow]
        · cases allowNegative <;> simp [hneg, hlow]

theorem not_refuses_of_checked {sku : String} {terminal : Option String} {current delta qty : Int}
    (h : checkedLevel (w.allowsNegative terminal location) sku location current delta = .ok qty) :
    w.refusesNegative location qty = false := by
  obtain ⟨-, hlow | hallow⟩ := checkedLevel_eq_ok h
  · exact w.not_refuses_of_nonneg location hlow
  · exact StockBindings.not_refuses_of_optsIn (StockBindings.optsIn_of_allowsNegative hallow) qty

theorem adjust_insufficient_iff {now sku item : String} {delta : Int} {location : String}
    (hsku : d.productIdBySku sku = some item) :
    (∃ sku' location' delta' available, d.adjustStockAtLocationFor w now sku delta location ctx =
        .error (.insufficientStockAtLocation sku' location' delta' available)) ↔
      w.allowsNegative ctx.terminalId location = false ∧
        ¬ InStock (d.legacyAwareLocationQty item location + delta) := by
  rw [← @checkedLevel_insufficient_iff _ sku location]
  unfold adjustStockAtLocationFor
  simp only [hsku]
  cases hqty : checkedLevel (w.allowsNegative ctx.terminalId location) sku location
      (d.legacyAwareLocationQty item location) delta with
  | error e => simp
  | ok qty =>
    simp only [reduceCtorEq, exists_false, iff_false, not_exists]
    intro sku' location' delta' available
    split
    · simp
    · cases happend : d.appendMovement ⟨none, item, location, delta, ctx.reason, ctx.terminalId,
          ctx.sourceUserId, "", now⟩ with
      | error e =>
        unfold appendMovement at happend
        split at happend
        · cases happend
        · obtain rfl := Except.error.inj happend
          simp
      | ok logged =>
        rw [not_refuses_of_checked hqty]
        simp only [Bool.false_eq_true, if_false]
        cases hdone : (logged.upsertStockSummary now item location qty).recomputeInventoryAllowing
            (w.allowsNegative ctx.terminalId location) now item location qty with
        | error e =>
          simp only [Except.error.injEq]
          rintro rfl
          exact recompute_not_insufficient _ _ _ _ hdone
        | ok done => simp

theorem adjust_isOk_iff {now sku : String} (hsku : d.productIdBySku sku = some m.item) :
    (∃ r, d.adjustStockAtLocationFor w now sku m.delta m.location ctx = .ok r) ↔
      d.GoesThrough w ctx [] m := by
  have hlevel : d.levelOn [] m.item m.location = d.legacyAwareLocationQty m.item m.location := by
    cases hrows : d.hasLocationRows m.item with
    | true => simp [levelOn, baseAt, hrows, locationQty_of_rows hrows]
    | false => simp [levelOn, baseAt, hrows, locationQty_of_no_rows hrows]
  have hcounted : d.CountedOn [] m.item ↔ (d.inventoryQty m.item).isSome := by
    simp [CountedOn]
  have hchecked := @checkedLevel_isOk_iff (w.allowsNegative ctx.terminalId m.location) sku
    m.location (d.legacyAwareLocationQty m.item m.location) m.delta
  unfold adjustStockAtLocationFor
  simp only [hsku]
  cases hqty : checkedLevel (w.allowsNegative ctx.terminalId m.location) sku m.location
      (d.legacyAwareLocationQty m.item m.location) m.delta with
  | error e =>
    rw [hqty] at hchecked
    simp only [reduceCtorEq, exists_false, false_iff] at hchecked ⊢
    intro h
    rw [← hlevel] at hchecked
    exact hchecked ⟨h.level, h.held⟩
  | ok qty =>
    obtain ⟨hfits, hheld⟩ := hchecked.mp ⟨qty, hqty⟩
    obtain ⟨rfl, -⟩ := checkedLevel_eq_ok hqty
    have hrefused := not_refuses_of_checked hqty
    by_cases hsession : ctx.inventoryTransactionId.any (fun id => id ∉ w.transactions) = true
    · simp only [hsession, if_true, reduceCtorEq, exists_false, false_iff]
      intro h
      have := h.session
      rw [hsession] at this
      cases this
    · simp only [hsession]
      by_cases hplace : m.location ∈ d.locations
      · let row : StockMovement := ⟨none, m.item, m.location, m.delta, ctx.reason,
          ctx.terminalId, ctx.sourceUserId, "", now⟩
        have hsum : ((d.logged row).upsertStockSummary now m.item m.location
            (d.legacyAwareLocationQty m.item m.location + m.delta)).summaryTotal m.item =
            d.onHand m.item + m.delta :=
          summaryTotal_stamp (d.logged row) now m.item m.location m.delta
        have hinv : ((d.logged row).upsertStockSummary now m.item m.location
            (d.legacyAwareLocationQty m.item m.location + m.delta)).inventoryQty m.item =
            d.inventoryQty m.item := rfl
        have hrecompute := @recomputeInventoryAllowing_isOk_iff κ
          ((d.logged row).upsertStockSummary now m.item m.location
            (d.legacyAwareLocationQty m.item m.location + m.delta)) _ now m.item m.location _ hheld
        rw [hsum, hinv] at hrecompute
        have happend : d.appendMovement row = .ok (d.logged row) := appendMovement_of_mem hplace
        simp only [row] at happend
        simp only [happend, hrefused, Bool.false_eq_true, if_false]
        have htotal : (0 ≤ d.legacyAwareLocationQty m.item m.location + m.delta →
            (d.inventoryQty m.item).isSome → FitsI64 (d.onHand m.item + m.delta) ∧
              (w.allowsNegative ctx.terminalId m.location = true ∨
                0 ≤ d.onHand m.item + m.delta)) ↔ d.GoesThrough w ctx [] m := by
          constructor
          · intro h
            refine ⟨by simpa using hsession, hplace, by rw [hlevel]; exact hfits,
              by rw [hlevel]; exact hheld, ?_⟩
            rw [hlevel, hcounted, deltaOn_nil, Int.add_zero]
            exact h
          · intro h
            have := h.total
            rw [hlevel, hcounted, deltaOn_nil, Int.add_zero] at this
            exact this
        rw [← htotal, ← hrecompute]
        constructor
        · rintro ⟨r, hr⟩
          cases hdone : ((d.logged row).upsertStockSummary now m.item m.location
              (d.legacyAwareLocationQty m.item m.location + m.delta)).recomputeInventoryAllowing
                (w.allowsNegative ctx.terminalId m.location) now m.item m.location
                  (d.legacyAwareLocationQty m.item m.location + m.delta) with
          | error e =>
            simp only [row] at hdone
            simp [hdone] at hr
          | ok done => exact ⟨done, rfl⟩
        · rintro ⟨done, hdone⟩
          simp only [row] at hdone
          simp [hdone]
      · simp only [appendMovement, hplace, if_false, reduceCtorEq, exists_false, false_iff]
        intro h
        exact hplace h.place

/-- What the moves have made of the stock that stood at the start. -/
structure StockAfter (d : DomainTables κ) (made : List StockMove) (d' : DomainTables κ) : Prop where
  frame : StockOnly d d'
  rows : ∀ item, d'.hasLocationRows item =
    (d.hasLocationRows item || made.any (fun m => m.item = item))
  level : ∀ item location, d'.legacyAwareLocationQty item location = d.levelOn made item location
  onHand : ∀ item, d'.onHand item = d.onHand item + deltaOn item made
  counted : ∀ item, (d'.inventoryQty item).isSome ↔ d.CountedOn made item

theorem StockAfter.nil (d : DomainTables κ) : StockAfter d [] d := by
  refine ⟨StockOnly.refl d, by simp, ?_, by simp, by simp [CountedOn]⟩
  intro item location
  cases hrows : d.hasLocationRows item with
  | true => simp [levelOn, baseAt, hrows, locationQty_of_rows hrows]
  | false => simp [levelOn, baseAt, hrows, locationQty_of_no_rows hrows]

theorem find?_snoc_of_any (h : made.any (fun m => m.item = item) = true)
    (m : StockMove) : (made ++ [m]).find? (fun m => m.item = item) =
      made.find? (fun m => m.item = item) := by
  rw [List.find?_append]
  cases hfind : made.find? (fun m => m.item = item) with
  | some first => rfl
  | none =>
    rw [List.find?_eq_none] at hfind
    obtain ⟨first, hmem, hitem⟩ := List.any_eq_true.mp h
    exact absurd hitem (hfind first hmem)

theorem find?_none_of_any (h : made.any (fun m => m.item = item) = false) :
    made.find? (fun m => m.item = item) = none := by
  rw [List.find?_eq_none]
  simpa using h

theorem netAt_of_any (h : made.any (fun m => m.item = item) = false)
    (location : String) : netAt item location made = 0 :=
  netAt_of_other (by simpa using h)

theorem baseAt_snoc_other (made : List StockMove) (hne : item ≠ m.item)
    (location : String) : d.baseAt (made ++ [m]) item location = d.baseAt made item location := by
  unfold baseAt
  have hfind : (made ++ [m]).find? (fun m => m.item = item) =
      made.find? (fun m => m.item = item) := by
    rw [List.find?_append]
    simp [Ne.symm hne]
  rw [hfind]

theorem levelOn_snoc_here (made : List StockMove) :
    d.levelOn (made ++ [m]) m.item m.location = d.levelOn made m.item m.location + m.delta := by
  have hbase : d.baseAt (made ++ [m]) m.item m.location = d.baseAt made m.item m.location := by
    unfold baseAt
    cases hany : made.any (fun x => x.item = m.item) with
    | true => rw [find?_snoc_of_any hany]
    | false =>
      rw [List.find?_append, find?_none_of_any hany]
      simp
  simp [levelOn, hbase]
  omega

theorem levelOn_snoc_other (made : List StockMove) (hne : item ≠ m.item) :
    d.levelOn (made ++ [m]) item location = d.levelOn made item location := by
  simp [levelOn, baseAt_snoc_other made hne, hne]

theorem levelOn_snoc_elsewhere (made : List StockMove) (hne : location ≠ m.location) :
    d.levelOn (made ++ [m]) m.item location =
      if d.hasLocationRows m.item || made.any (fun x => x.item = m.item) then
        d.levelOn made m.item location
      else 0 := by
  unfold levelOn baseAt
  cases hany : made.any (fun x => x.item = m.item) with
  | true =>
    rw [find?_snoc_of_any hany]
    simp [hne]
  | false =>
    cases hrows : d.hasLocationRows m.item with
    | true => simp [hne]
    | false =>
      rw [List.find?_append, find?_none_of_any hany, netAt_append, netAt_of_any hany]
      simp [hne, Ne.symm hne]

theorem StockAfter.snoc (h : StockAfter d made d₁) (hw : Written w d₁ d' m) :
    StockAfter d (made ++ [m]) d' := by
  refine ⟨h.frame.trans hw.frame, ?_, ?_, ?_, ?_⟩
  · intro item
    rw [hw.rows, h.rows, List.any_append, List.any_cons, List.any_nil, Bool.or_false,
      Bool.or_assoc]
    simp only [eq_comm]
  · intro item location
    by_cases hitem : item = m.item
    · subst hitem
      have hrows' : d'.hasLocationRows m.item = true := by simp [hw.rows]
      rw [locationQty_of_rows hrows', hw.quantity]
      by_cases hlocation : location = m.location
      · subst hlocation
        rw [if_pos ⟨rfl, rfl⟩, h.level, levelOn_snoc_here]
      · rw [if_neg (fun hboth => hlocation hboth.2), levelOn_snoc_elsewhere made hlocation,
          ← h.rows]
        cases hrows : d₁.hasLocationRows m.item with
        | true => rw [if_pos rfl, ← h.level, locationQty_of_rows hrows]
        | false => rw [if_neg (by simp), quantityAt_of_no_rows hrows]
    · rw [levelOn_snoc_other made hitem, ← h.level]
      have hrows : d'.hasLocationRows item = d₁.hasLocationRows item := by
        simp [hw.rows, hitem]
      have hquantity : d'.quantityAt item location = d₁.quantityAt item location := by
        rw [hw.quantity, if_neg (fun hboth => hitem hboth.1)]
      simp only [legacyAwareLocationQty, hrows, hquantity, hw.others item hitem]
  · intro item
    rw [hw.onHand, h.onHand, deltaOn_append, deltaOn_cons, deltaOn_nil]
    by_cases hitem : item = m.item
    · simp [hitem]
      omega
    · simp [hitem]
  · intro item
    have hsplit : d.CountedOn (made ++ [m]) item ↔ d.CountedOn made item ∨
        (m.item = item ∧ 0 ≤ d.levelOn made item m.location + m.delta) := by
      unfold CountedOn
      constructor
      · rintro (hsome | ⟨l, n, r, hmade, hn, hlow⟩)
        · exact .inl (.inl hsome)
        · rcases List.eq_nil_or_concat r with rfl | ⟨r, last, rfl⟩
          · obtain ⟨rfl, hlast⟩ := List.append_inj' hmade rfl
            obtain rfl : m = n := List.head_eq_of_cons_eq hlast
            exact .inr ⟨hn, hlow⟩
          · have hmade' : made ++ [m] = (l ++ n :: r) ++ [last] := by simpa using hmade
            obtain ⟨rfl, -⟩ := List.append_inj' hmade' rfl
            exact .inl (.inr ⟨l, n, r, rfl, hn, hlow⟩)
      · rintro ((hsome | ⟨l, n, r, rfl, hn, hlow⟩) | ⟨hitem, hlow⟩)
        · exact .inl hsome
        · exact .inr ⟨l, n, r ++ [m], by simp, hn, hlow⟩
        · exact .inr ⟨made, m, [], rfl, hitem, hlow⟩
    rw [hsplit, ← h.counted]
    by_cases hitem : item = m.item
    · subst hitem
      rw [← h.level]
      rcases hw.inventory with ⟨hsome, hlow, -⟩ | ⟨hsame, hpassed⟩
      · simp [hsome, hlow]
      · rw [hsame]
        constructor
        · exact .inl
        · rintro (hsome | ⟨-, hlow⟩)
          · exact hsome
          · rcases hpassed with hneg | hsome
            · omega
            · exact hsome.1
    · rw [hw.others item hitem]
      simp [Ne.symm hitem]

theorem StockAfter.productIdBySku (h : StockAfter d made d') (sku : String) :
    d'.productIdBySku sku = d.productIdBySku sku := by
  obtain ⟨_, _, _, rfl⟩ := h.frame
  rfl

theorem StockAfter.goesThrough_iff (h : StockAfter d made d') (m : StockMove) :
    d'.GoesThrough w ctx [] m ↔ d.GoesThrough w ctx made m := by
  have hlocations : d'.locations = d.locations := h.frame.locations
  have hlevel : d'.levelOn [] m.item m.location = d.levelOn made m.item m.location := by
    rw [← h.level, (StockAfter.nil d').level]
  have hcounted : d'.CountedOn [] m.item ↔ d.CountedOn made m.item := by
    rw [← h.counted, (StockAfter.nil d').counted]
  constructor
  · intro hm
    have htotal := hm.total
    rw [hlevel, hcounted, deltaOn_nil, h.onHand, Int.add_zero] at htotal
    exact ⟨hm.session, hlocations ▸ hm.place, hlevel ▸ hm.level, hlevel ▸ hm.held, htotal⟩
  · intro hm
    refine ⟨hm.session, hlocations ▸ hm.place, hlevel ▸ hm.level, hlevel ▸ hm.held, ?_⟩
    rw [hlevel, hcounted, deltaOn_nil, h.onHand, Int.add_zero]
    exact hm.total

theorem allGoThrough_snoc_iff (moves : List StockMove) (m : StockMove) :
    d.AllGoThrough w ctx (moves ++ [m]) ↔
      d.AllGoThrough w ctx moves ∧ d.GoesThrough w ctx moves m := by
  constructor
  · intro h
    refine ⟨?_, h moves m [] rfl⟩
    rintro l n r rfl
    exact h l n (r ++ [m]) (by simp)
  · rintro ⟨hmoves, hm⟩ l n r hsplit
    rcases List.eq_nil_or_concat r with rfl | ⟨r, last, rfl⟩
    · obtain ⟨rfl, hlast⟩ := List.append_inj' hsplit rfl
      obtain rfl : m = n := List.head_eq_of_cons_eq hlast
      exact hm
    · have hsplit' : moves ++ [m] = (l ++ n :: r) ++ [last] := by simpa using hsplit
      obtain ⟨rfl, -⟩ := List.append_inj' hsplit' rfl
      exact hmoves l n r rfl

theorem executeBatch_append (l r : List StockDeduction) (d : DomainTables κ) :
    d.executeBatch w now ctx (l ++ r) =
      (d.executeBatch w now ctx l).bind (fun d => d.executeBatch w now ctx r) := by
  induction l generalizing d with
  | nil => rfl
  | cons x l ih =>
    simp only [List.cons_append, executeBatch]
    cases d.adjustStockAtLocationFor w now x.sku x.delta x.locationId ctx with
    | error e => rfl
    | ok result => exact ih result.2

theorem executeBatch_error_iff (deductions : List StockDeduction) (e : CoreError) :
    d.executeBatch w now ctx deductions = .error e ↔
      ∃ l x r d', deductions = l ++ x :: r ∧ d.executeBatch w now ctx l = .ok d' ∧
        d'.adjustStockAtLocationFor w now x.sku x.delta x.locationId ctx = .error e := by
  constructor
  · intro h
    induction deductions generalizing d with
    | nil => cases h
    | cons x rest ih =>
      simp only [executeBatch] at h
      cases hx : d.adjustStockAtLocationFor w now x.sku x.delta x.locationId ctx with
      | error e' =>
        rw [hx] at h
        obtain rfl := Except.error.inj h
        exact ⟨[], x, rest, d, rfl, rfl, hx⟩
      | ok result =>
        rw [hx] at h
        obtain ⟨l, y, r, d', rfl, hl, hy⟩ := ih h
        exact ⟨x :: l, y, r, d', rfl, by simp only [executeBatch, hx]; exact hl, hy⟩
  · rintro ⟨l, x, r, d', rfl, hl, hx⟩
    rw [executeBatch_append, hl]
    simp only [Except.bind, executeBatch, hx]

theorem executeBatch_run {now : String} (deductions : List StockDeduction)
    (hknown : ∀ x ∈ deductions, ∃ item, d.productIdBySku x.sku = some item) :
    ((∃ d', d.executeBatch w now ctx deductions = .ok d') ↔
        d.AllGoThrough w ctx (d.movesOf deductions)) ∧
      ∀ d', d.executeBatch w now ctx deductions = .ok d' →
        StockAfter d (d.movesOf deductions) d' := by
  induction deductions using List.reverseRecOn with
  | nil =>
    refine ⟨⟨fun _ l m r hsplit => by simp [movesOf] at hsplit, fun _ => ⟨d, rfl⟩⟩, ?_⟩
    intro d' h
    obtain rfl := Except.ok.inj h
    exact StockAfter.nil d
  | append_singleton l x ih =>
    obtain ⟨hrun, hafter⟩ := ih (fun y hy => hknown y (List.mem_append_left _ hy))
    obtain ⟨item, hitem⟩ := hknown x (by simp)
    have hmoves : d.movesOf (l ++ [x]) = d.movesOf l ++ [⟨item, x.locationId, x.delta⟩] := by
      simp [movesOf, moveOf, hitem]
    rw [hmoves, allGoThrough_snoc_iff, ← hrun, executeBatch_append]
    cases hl : d.executeBatch w now ctx l with
    | error e => simp [Except.bind]
    | ok d₁ =>
      have hstock := hafter d₁ hl
      have hsku : d₁.productIdBySku x.sku = some item := by rw [hstock.productIdBySku, hitem]
      have hok := @adjust_isOk_iff κ w d₁ ⟨item, x.locationId, x.delta⟩ ctx now x.sku hsku
      rw [hstock.goesThrough_iff] at hok
      simp only [Except.bind, executeBatch, Except.ok.injEq, exists_eq', true_and]
      cases hx : d₁.adjustStockAtLocationFor w now x.sku x.delta x.locationId ctx with
      | error e =>
        rw [hx] at hok
        simp only [reduceCtorEq, exists_false, false_iff, false_implies, implies_true,
          and_true] at hok ⊢
        exact hok
      | ok result =>
        rw [hx] at hok
        obtain ⟨qty, d₂⟩ := result
        obtain ⟨item', hitem', hwritten⟩ := adjustStockAtLocationFor_ok hx
        rw [hsku, Option.some.injEq] at hitem'
        subst hitem'
        refine ⟨⟨fun _ => hok.mp ⟨_, rfl⟩, fun _ => ⟨d₂, rfl⟩⟩, ?_⟩
        intro d' h
        obtain rfl := Except.ok.inj h
        exact hstock.snoc hwritten

theorem known_of_checkBatch {deductions : List StockDeduction}
    (h : d.checkBatch w ctx deductions = .ok ()) :
    ∀ x ∈ deductions, ∃ item, d.productIdBySku x.sku = some item := by
  induction deductions with
  | nil => simp
  | cons x rest ih =>
    simp only [checkBatch] at h
    cases hsku : d.productIdBySku x.sku with
    | none => simp [hsku] at h
    | some item =>
      simp only [hsku] at h
      have hrest : d.checkBatch w ctx rest = .ok () := by
        split at h
        · exact h
        · split at h
          · cases h
          · exact h
      exact List.forall_mem_cons.mpr ⟨⟨item, hsku⟩, ih hrest⟩

/-- The pre-check suffices exactly when it refuses the list, or the stock lasts through it. -/
theorem checksSuffice_iff (w : StockBindings) (now : String) (ctx : MovementContext)
    (deductions : List StockDeduction) (d : DomainTables κ) :
    d.ChecksSuffice w now ctx deductions ↔
      (d.checkBatch w ctx deductions = .ok () → d.StaysStocked w ctx deductions) := by
  refine imp_congr_right ?_
  intro hchecked
  have hknown := known_of_checkBatch hchecked
  constructor
  · rintro h l x r item rfl hitem hbefore
    obtain ⟨hrun, hafter⟩ := @executeBatch_run κ w d ctx now l
      (fun y hy => hknown y (List.mem_append_left _ hy))
    obtain ⟨d', hl⟩ := hrun.mpr hbefore
    have hstock := hafter d' hl
    have hsku : d'.productIdBySku x.sku = some item := by rw [hstock.productIdBySku, hitem]
    by_contra hnot
    rw [not_or] at hnot
    obtain ⟨sku, location, delta, available, hx⟩ := (@adjust_insufficient_iff κ w d' ctx now x.sku
      item x.delta x.locationId hsku).mpr ⟨by simpa using hnot.1, by
        rw [hstock.level]
        exact hnot.2⟩
    exact h sku location delta available
      ((executeBatch_error_iff _ _).mpr ⟨l, x, r, d', rfl, hl, hx⟩)
  · intro h sku location delta available hfails
    obtain ⟨l, x, r, d', rfl, hl, hx⟩ := (executeBatch_error_iff _ _).mp hfails
    obtain ⟨item, hitem⟩ := hknown x (by simp)
    obtain ⟨hrun, hafter⟩ := @executeBatch_run κ w d ctx now l
      (fun y hy => hknown y (List.mem_append_left _ hy))
    have hstock := hafter d' hl
    have hsku : d'.productIdBySku x.sku = some item := by rw [hstock.productIdBySku, hitem]
    obtain ⟨hallow, hshort⟩ := (@adjust_insufficient_iff κ w d' ctx now x.sku item x.delta
      x.locationId hsku).mp ⟨sku, location, delta, available, hx⟩
    rw [hstock.level] at hshort
    rcases h l x r item rfl hitem (hrun.mp ⟨d', hl⟩) with hallowed | hstocked
    · rw [hallow] at hallowed
      cases hallowed
    · exact hshort hstocked

def tenBags : DomainTables Unit :=
  { DomainTables.empty () with
    products := Table.empty.insertNew ⟨"prod-1", "default", "SKU-1", "Beans", 1500, "IDR", none,
      none, "retail", "2026-01-01T00:00:00.000Z"⟩
    locations := [canonicalDefaultLocation, "loc-B"]
    inventory := Table.empty.insertNew
      ⟨"prod-1", canonicalDefaultLocation, 10, "2026-01-01T00:00:00.000Z"⟩ }

def bagsFrom (locations : List String) : List StockDeduction :=
  locations.map (fun location => ⟨"SKU-1", location, -6⟩)

def unbound : StockBindings := ⟨[], Table.empty, []⟩

/-- Twice six of ten bags, from one location or from two: phase 1 passes both entries against
the ten, phase 2 is short at the second. -/
theorem ten_bags_checked_short :
    tenBags.checkBatch unbound ⟨none, none, none, none⟩
        (bagsFrom [canonicalDefaultLocation, canonicalDefaultLocation]) = .ok () ∧
      ¬ tenBags.ChecksSuffice unbound "2026-01-02T00:00:00.000Z" ⟨none, none, none, none⟩
        (bagsFrom [canonicalDefaultLocation, canonicalDefaultLocation]) ∧
      tenBags.checkBatch unbound ⟨none, none, none, none⟩
        (bagsFrom [canonicalDefaultLocation, "loc-B"]) = .ok () ∧
      ¬ tenBags.ChecksSuffice unbound "2026-01-02T00:00:00.000Z" ⟨none, none, none, none⟩
        (bagsFrom [canonicalDefaultLocation, "loc-B"]) := by
  have hone : tenBags.checkBatch unbound ⟨none, none, none, none⟩
      (bagsFrom [canonicalDefaultLocation, canonicalDefaultLocation]) = .ok () := by decide +kernel
  have htwo : tenBags.checkBatch unbound ⟨none, none, none, none⟩
      (bagsFrom [canonicalDefaultLocation, "loc-B"]) = .ok () := by decide +kernel
  have hshort : ∀ (e : CoreError) (deductions : List StockDeduction),
      tenBags.executeBatch unbound "2026-01-02T00:00:00.000Z" ⟨none, none, none, none⟩
        deductions = .error e ↔ (match tenBags.executeBatch unbound "2026-01-02T00:00:00.000Z"
          ⟨none, none, none, none⟩ deductions with
          | .error e' => some e'
          | .ok _ => none) = some e := by
    intro e deductions
    cases tenBags.executeBatch unbound "2026-01-02T00:00:00.000Z" ⟨none, none, none, none⟩
      deductions <;> simp
  refine ⟨hone, fun h => ?_, htwo, fun h => ?_⟩
  · exact h hone "SKU-1" canonicalDefaultLocation (-6) 4 ((hshort _ _).mpr (by decide +kernel))
  · exact h htwo "SKU-1" "loc-B" (-6) 0 ((hshort _ _).mpr (by decide +kernel))

end DomainTables

end OzPos
