import OzPos.Commerce.BatchCheck

namespace OzPos

variable {κ : Type}

namespace DomainTables

section Account

variable (d : DomainTables κ)

variable (moves : List StockMove)

def levelAfter (item location : String) : Int :=
  d.quantityAt item location + netAt item location moves

/-- A product's sum over the locations once the moves are made. -/
def totalAfter (item : String) : Int :=
  d.summaryTotal item + deltaOn item moves

/-- The product has a row in `inventory` once the moves are made: the first that leaves a level of
no less than nothing inserts it. -/
def Aggregated (item : String) : Prop :=
  (d.inventoryQty item).isSome ∨ ∃ l m r, moves = l ++ m :: r ∧ m.item = item ∧
    0 ≤ d.levelAfter (l ++ [m]) item m.location

/-- After the moves `made`, one more goes through: the place exists, neither its level nor, where it
is written again, the product's sum runs over, and none of them falls below zero unless the
terminal's workspace allows it there. -/
structure Passes (w : StockBindings) (terminal : Option String) (made : List StockMove)
    (m : StockMove) : Prop where
  place : m.location ∈ d.locations
  level : FitsI64 (d.levelAfter (made ++ [m]) m.item m.location)
  held : w.allowsNegative terminal m.location = true ∨
    0 ≤ d.levelAfter (made ++ [m]) m.item m.location
  total : 0 ≤ d.levelAfter (made ++ [m]) m.item m.location → d.Aggregated made m.item →
    FitsI64 (d.totalAfter (made ++ [m]) m.item) ∧
      (w.allowsNegative terminal m.location = true ∨ 0 ≤ d.totalAfter (made ++ [m]) m.item)

def Bears (w : StockBindings) (terminal : Option String) (moves : List StockMove) : Prop :=
  ∀ l m r, moves = l ++ m :: r → d.Passes w terminal l m

end Account

variable {w : StockBindings} {d : DomainTables κ} {m : StockMove} {made : List StockMove}
  {item : String}

theorem levelAfter_eq_levelOn (hrows : d.hasLocationRows item = true) (location : String) :
    d.levelAfter made item location = d.levelOn made item location := by
  simp [levelAfter, levelOn, baseAt, hrows]

theorem levelAfter_snoc (hrows : d.hasLocationRows m.item = true) :
    d.levelAfter (made ++ [m]) m.item m.location =
      d.levelOn made m.item m.location + m.delta := by
  rw [levelAfter_eq_levelOn hrows, levelOn_snoc_here]

theorem totalAfter_snoc (hrows : d.hasLocationRows m.item = true) :
    d.totalAfter (made ++ [m]) m.item = d.onHand m.item + deltaOn m.item made + m.delta := by
  rw [totalAfter, onHand_of_rows hrows, deltaOn_append, deltaOn_cons, deltaOn_nil, if_pos rfl]
  omega

theorem aggregated_iff (hrows : d.hasLocationRows item = true) :
    d.Aggregated made item ↔ d.CountedOn made item := by
  unfold Aggregated CountedOn
  constructor
  · rintro (hsome | ⟨l, m, r, hsplit, rfl, hlow⟩)
    · exact .inl hsome
    · rw [levelAfter_snoc hrows] at hlow
      exact .inr ⟨l, m, r, hsplit, rfl, hlow⟩
  · rintro (hsome | ⟨l, m, r, hsplit, rfl, hlow⟩)
    · exact .inl hsome
    · rw [← levelAfter_snoc hrows] at hlow
      exact .inr ⟨l, m, r, hsplit, rfl, hlow⟩

theorem passes_iff {ctx : MovementContext} (hctx : ctx.inventoryTransactionId = none)
    (hrows : d.hasLocationRows m.item = true) :
    d.Passes w ctx.terminalId made m ↔ d.GoesThrough w ctx made m := by
  have hlevel := @levelAfter_snoc κ d m made hrows
  have htotal := @totalAfter_snoc κ d m made hrows
  constructor
  · rintro ⟨hplace, hfits, hheld, hsum⟩
    rw [hlevel, htotal, aggregated_iff hrows] at hsum
    exact ⟨by simp [hctx], hplace, hlevel ▸ hfits, hlevel ▸ hheld, hsum⟩
  · rintro ⟨-, hplace, hfits, hheld, hsum⟩
    refine ⟨hplace, hlevel ▸ hfits, hlevel ▸ hheld, ?_⟩
    rw [hlevel, htotal, aggregated_iff hrows]
    exact hsum

theorem executeBatch_isOk_iff {now : String} {ctx : MovementContext}
    {deductions : List StockDeduction} (hctx : ctx.inventoryTransactionId = none)
    (hskus : ∀ x ∈ deductions, ∃ item, d.productIdBySku x.sku = some item ∧
      d.hasLocationRows item = true) :
    (∃ d', d.executeBatch w now ctx deductions = .ok d') ↔
      d.Bears w ctx.terminalId (d.deductionMoves deductions) := by
  obtain ⟨hrun, -⟩ := @executeBatch_run κ w d ctx now deductions (fun x hx => by
    obtain ⟨item, hsku, -⟩ := hskus x hx
    exact ⟨item, hsku⟩)
  have hrows : ∀ m ∈ d.movesOf deductions, d.hasLocationRows m.item = true := by
    intro m hm
    obtain ⟨x, hx, hmove⟩ := List.mem_filterMap.mp hm
    obtain ⟨item, hsku, hitem⟩ := hskus x hx
    simp only [moveOf, hsku, Option.map_some, Option.some.injEq] at hmove
    rw [← hmove]
    exact hitem
  rw [hrun]
  change _ ↔ d.Bears w ctx.terminalId (d.movesOf deductions)
  have heach : ∀ l m r, d.movesOf deductions = l ++ m :: r →
      (d.GoesThrough w ctx l m ↔ d.Passes w ctx.terminalId l m) := by
    intro l m r hsplit
    exact (passes_iff hctx (hrows m (by simp [hsplit]))).symm
  constructor
  · intro h l m r hsplit
    exact (heach l m r hsplit).mp (h l m r hsplit)
  · intro h l m r hsplit
    exact (heach l m r hsplit).mpr (h l m r hsplit)

theorem checkBatch_of_held {ctx : MovementContext} {deductions : List StockDeduction}
    (h : ∀ x ∈ deductions, ∃ item, d.productIdBySku x.sku = some item ∧
      InStock (d.legacyAwareLocationQty item x.locationId + x.delta)) :
    checkBatch w ctx d deductions = .ok () := by
  induction deductions with
  | nil => rfl
  | cons x rest ih =>
    obtain ⟨⟨item, hsku, hheld⟩, hrest⟩ := List.forall_mem_cons.mp h
    unfold checkBatch
    simp only [hsku, checkedStock_of_inStock hheld, ih hrest]
    split
    · rfl
    · rfl

end DomainTables

end OzPos
