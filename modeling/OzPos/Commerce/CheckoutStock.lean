import OzPos.Client.StockLedger
import OzPos.Commerce.Checkout
import OzPos.Commerce.RefundReplica

namespace OzPos

variable {κ : Type}

namespace DomainTables

inductive Wrote (w : StockBindings) : DomainTables κ → List StockMove → DomainTables κ → Prop where
  | nil (d : DomainTables κ) : Wrote w d [] d
  | cons {d d₁ d' : DomainTables κ} {m : StockMove} {rest : List StockMove} :
    Written w d d₁ m → Wrote w d₁ rest d' → Wrote w d (m :: rest) d'

variable (item location : String)

def netAt (moves : List StockMove) : Int :=
  (moves.map (fun m => if item = m.item ∧ location = m.location then m.delta else 0)).sum

@[simp] theorem netAt_nil : netAt item location [] = 0 := rfl

@[simp] theorem netAt_cons (m : StockMove) (rest : List StockMove) :
    netAt item location (m :: rest) =
      (if item = m.item ∧ location = m.location then m.delta else 0) +
        netAt item location rest := by
  simp [netAt]

@[simp] theorem netAt_append (l r : List StockMove) :
    netAt item location (l ++ r) = netAt item location l + netAt item location r := by
  simp [netAt]

variable {item : String}

theorem netAt_of_other {location : String} {moves : List StockMove}
    (h : ∀ m ∈ moves, m.item ≠ item) : netAt item location moves = 0 := by
  induction moves with
  | nil => rfl
  | cons m rest ih =>
    obtain ⟨hm, hrest⟩ := List.forall_mem_cons.mp h
    rw [netAt_cons, if_neg (fun hcell => hm hcell.1.symm), ih hrest]
    rfl

variable {w : StockBindings} {d d₁ d' : DomainTables κ} {moves : List StockMove}

theorem Wrote.append {l r : List StockMove} (hl : Wrote w d l d₁) (hr : Wrote w d₁ r d') :
    Wrote w d (l ++ r) d' := by
  induction hl with
  | nil d => exact hr
  | cons hm _ ih => exact Wrote.cons hm (ih hr)

theorem Wrote.frame (h : Wrote w d moves d') : StockOnly d d' := by
  induction h with
  | nil d => exact StockOnly.refl d
  | cons hm _ ih => exact hm.frame.trans ih

theorem Wrote.onHand (h : Wrote w d moves d') (item : String) :
    d'.onHand item = d.onHand item + deltaOn item moves := by
  induction h with
  | nil d => simp
  | cons hm _ ih =>
    rw [ih, hm.onHand, deltaOn_cons]
    omega

theorem Wrote.quantity (h : Wrote w d moves d')
    (hrows : d.hasLocationRows item = true) (location : String) :
    d'.quantityAt item location = d.quantityAt item location + netAt item location moves := by
  induction h with
  | nil d => simp
  | cons hm _ ih =>
    rw [ih (by rw [hm.rows, hrows, Bool.true_or]), hm.quantity, netAt_cons]
    split
    · rename_i hcell
      obtain ⟨rfl, rfl⟩ := hcell
      rw [locationQty_of_rows hrows]
      omega
    · omega

theorem Wrote.keepsRows (h : Wrote w d moves d')
    (hrows : d.hasLocationRows item = true) : d'.hasLocationRows item = true := by
  induction h with
  | nil d => exact hrows
  | cons hm _ ih => exact ih (by rw [hm.rows, hrows, Bool.true_or])

theorem Wrote.elsewhere (h : Wrote w d moves d') (item : String)
    (hother : ∀ m ∈ moves, m.item ≠ item) :
    d'.hasLocationRows item = d.hasLocationRows item ∧ d'.onHand item = d.onHand item ∧
      ∀ location, d'.quantityAt item location = d.quantityAt item location := by
  induction h with
  | nil d => exact ⟨rfl, rfl, fun _ => rfl⟩
  | cons hm _ ih =>
    obtain ⟨hhere, hrest⟩ := List.forall_mem_cons.mp hother
    obtain ⟨hrows, honHand, hquantity⟩ := ih hrest
    refine ⟨?_, ?_, ?_⟩
    · rw [hrows, hm.rows, decide_eq_false (Ne.symm hhere), Bool.or_false]
    · rw [honHand, hm.onHand, if_neg (Ne.symm hhere), Int.add_zero]
    · intro location
      rw [hquantity, hm.quantity, if_neg (fun hcell => hhere hcell.1.symm)]

theorem Wrote.inventoryElsewhere (h : Wrote w d moves d') (item : String)
    (hother : ∀ m ∈ moves, m.item ≠ item) : d'.inventoryQty item = d.inventoryQty item := by
  induction h with
  | nil d => rfl
  | cons hm _ ih =>
    obtain ⟨hhere, hrest⟩ := List.forall_mem_cons.mp hother
    rw [ih hrest, hm.others item (Ne.symm hhere)]

theorem Wrote.atDefault (h : Wrote w d moves d')
    (hother : ∀ m ∈ moves, m.item ≠ item) (honly : DefaultOnly d' item) : DefaultOnly d item := by
  obtain ⟨hrows, honHand, hquantity⟩ := h.elsewhere item hother
  have hinventory := h.inventoryElsewhere item hother
  obtain ⟨htotal, hlevel⟩ := honly
  rw [honHand, hinventory] at htotal
  simp only [legacyAwareLocationQty, hrows, hinventory, hquantity] at hlevel
  exact ⟨htotal, hlevel⟩

theorem Wrote.lifts (h : Wrote w d moves d')
    (hheld : d.hasLocationRows item = false → 0 ≤ d.onHand item)
    (hcredits : ∀ m ∈ moves, m.item = item → 0 ≤ m.delta) (location : String) :
    d.quantityAt item location + netAt item location moves ≤ d'.quantityAt item location := by
  induction h with
  | nil d => simp
  | @cons d d₁ d' m rest hm _ ih =>
    obtain ⟨hhere, hrest⟩ := List.forall_mem_cons.mp hcredits
    have hstep := hm.quantity item location
    have hlater := ih (by
      intro hrows
      rw [hm.rows, Bool.or_eq_false_iff] at hrows
      rw [hm.onHand, if_neg (of_decide_eq_false hrows.2), Int.add_zero]
      exact hheld hrows.1) hrest
    refine le_trans ?_ hlater
    rw [hstep, netAt_cons]
    split
    · rename_i hcell
      obtain ⟨rfl, rfl⟩ := hcell
      cases hrows : d.hasLocationRows m.item with
      | true =>
        rw [locationQty_of_rows hrows]
        omega
      | false =>
        rw [locationQty_of_no_rows hrows, quantityAt_of_no_rows hrows]
        have := hheld hrows
        omega
    · omega

theorem Wrote.legacyHeld (h : Wrote w d moves d') (hheld : LegacyHeld d) : LegacyHeld d' := by
  induction h with
  | nil d => exact hheld
  | cons hm _ ih =>
    apply ih
    intro item hrows
    rw [hm.rows, Bool.or_eq_false_iff] at hrows
    rw [hm.onHand, if_neg (of_decide_eq_false hrows.2), Int.add_zero]
    exact hheld item hrows.1

theorem netAt_signed (s : Int) (location : String)
    (h : ∀ m ∈ moves, m.item = item → 0 < s * m.delta) :
    0 ≤ s * netAt item location moves ∧
      ((∃ m ∈ moves, m.item = item ∧ m.location = location) →
        0 < s * netAt item location moves) := by
  induction moves with
  | nil => simp
  | cons m rest ih =>
    obtain ⟨hhere, hrest⟩ := List.forall_mem_cons.mp h
    obtain ⟨hnonneg, hpos⟩ := ih hrest
    rw [netAt_cons, Int.mul_add]
    by_cases hcell : item = m.item ∧ location = m.location
    · have hm := hhere hcell.1.symm
      rw [if_pos hcell]
      exact ⟨by omega, fun _ => by omega⟩
    · rw [if_neg hcell, Int.mul_zero, Int.zero_add]
      refine ⟨hnonneg, ?_⟩
      rintro ⟨m', hm', hitem, hlocation⟩
      rcases List.mem_cons.mp hm' with rfl | hm'
      · exact absurd ⟨hitem.symm, hlocation.symm⟩ hcell
      · exact hpos ⟨m', hm', hitem, hlocation⟩

theorem hasLocationRows_of_quantity {location : String} (h : d.quantityAt item location ≠ 0) :
    d.hasLocationRows item = true := by
  cases hrows : d.hasLocationRows item with
  | true => rfl
  | false => exact absurd (quantityAt_of_no_rows hrows location) h

/-- `idx_products_tenant_sku`, on a terminal, whose products are all of one tenant. -/
def SkusDistinct (d : DomainTables κ) : Prop := (d.products.rows.map Product.sku).Nodup

theorem productBySku_of_find? {p : Product} (h : d.SkusDistinct) {id : String}
    (hp : d.products.find? id = some p) :
    p.id = id ∧ d.productBySku p.sku = some p ∧ d.productIdBySku p.sku = some p.id := by
  obtain ⟨hmem, hid⟩ := (Table.find?_eq_some_iff _ _ _).mp hp
  have hsku : d.productBySku p.sku = some p := by
    unfold productBySku
    cases hfind : d.products.rows.find? (fun q => q.sku = p.sku) with
    | none =>
      have hnone := List.find?_eq_none.mp hfind p hmem
      simp at hnone
    | some q =>
      have hq := List.mem_of_find?_eq_some hfind
      have hqsku : q.sku = p.sku := by simpa using List.find?_some hfind
      rw [List.inj_on_of_nodup_map h hq hmem hqsku]
  refine ⟨hid, hsku, ?_⟩
  have hmap : d.productIdBySku p.sku = (d.productBySku p.sku).map Product.id := rfl
  rw [hmap, hsku]
  rfl

theorem productIdBySku_of_productBySku {sku : String} {p : Product}
    (h : d.productBySku sku = some p) :
    p.sku = sku ∧ d.products.find? p.id = some p ∧ d.productIdBySku sku = some p.id := by
  have hmap : d.productIdBySku sku = (d.productBySku sku).map Product.id := rfl
  refine ⟨by simpa using List.find?_some h, ?_, by rw [hmap, h]; rfl⟩
  exact (Table.mem_rows_iff _ _).mp (List.mem_of_find?_eq_some h)

end DomainTables

open DomainTables

/-- What the route holds is enough, and each location gives what it has. -/
structure Allocated (d : DomainTables κ) (item : String) (qty : Int)
    (allocations : List LocationAllocation) : Prop where
  total : (allocations.map LocationAllocation.qty).sum = qty
  positive : ∀ a ∈ allocations, 0 < a.qty
  available : ∀ a ∈ allocations, a.qty ≤ d.quantityAt item a.locationId

theorem allocateRemaining_ok {remaining : Int} {locations : List LocationStock}
    {allocations : List LocationAllocation} (hremaining : 0 ≤ remaining)
    (h : allocateRemaining remaining locations = some allocations) :
    (allocations.map LocationAllocation.qty).sum = remaining ∧
      ∀ a ∈ allocations, 0 < a.qty ∧
        ∃ location ∈ locations, location.locationId = a.locationId ∧ a.qty ≤ location.qtyAvailable := by
  induction locations generalizing remaining allocations with
  | nil =>
    unfold allocateRemaining at h
    split at h
    · rename_i hzero
      cases h
      simp [hzero]
    · cases h
  | cons location rest ih =>
    unfold allocateRemaining at h
    split at h
    · rename_i hzero
      cases h
      simp [hzero]
    · rename_i hzero
      split at h
      · obtain ⟨hsum, hall⟩ := ih hremaining h
        refine ⟨hsum, ?_⟩
        intro a ha
        obtain ⟨hpos, stock, hstock, hplace⟩ := hall a ha
        exact ⟨hpos, stock, List.mem_cons_of_mem _ hstock, hplace⟩
      · rename_i hsome
        obtain ⟨later, hlater, rfl⟩ := Option.map_eq_some_iff.mp h
        obtain ⟨hsum, hall⟩ := ih (by omega) hlater
        refine ⟨?_, List.forall_mem_cons.mpr ⟨?_, ?_⟩⟩
        · rw [List.map_cons, List.sum_cons, hsum]
          simp only
          omega
        · exact ⟨by simp only; omega, location, List.mem_cons_self, rfl, min_le_right _ _⟩
        · intro a ha
          obtain ⟨hpos, stock, hstock, hplace⟩ := hall a ha
          exact ⟨hpos, stock, List.mem_cons_of_mem _ hstock, hplace⟩

theorem planProduct_ok {settings : CheckoutSettings} {call : CheckoutCall} {d : DomainTables κ}
    {item sku name : String} {qty : Int} {allocations : List LocationAllocation}
    (h : planProduct settings call d item sku name qty = .ok allocations) :
    Allocated d item qty allocations := by
  unfold planProduct at h
  simp only at h
  split at h
  · rename_i allocated hallocated
    cases h
    unfold allocateStockInRouteOrder at hallocated
    split at hallocated
    · cases hallocated
    · obtain ⟨hsum, hall⟩ := allocateRemaining_ok (by omega) hallocated
      refine ⟨hsum, fun a ha => (hall a ha).1, ?_⟩
      intro a ha
      obtain ⟨_, stock, hstock, hplace, hle⟩ := hall a ha
      obtain ⟨location, _, rfl⟩ := List.mem_map.mp hstock
      rw [← hplace]
      exact hle
  · cases h

structure TakenProduct where
  (item sku : String)
  allocations : List LocationAllocation

namespace TakenProduct

variable (t : TakenProduct)

def deductions : List StockDeduction := deductionsOf t.sku t.allocations

def moves : List StockMove :=
  t.allocations.map (fun a => ⟨t.item, a.locationId, -a.qty⟩)

structure Covers (d : DomainTables κ) (t : TakenProduct) (qty : Int) : Prop where
  product : ∃ p, d.products.find? t.item = some p ∧ p.sku = t.sku ∧ p.tracksInventory = true
  allocated : Allocated d t.item qty t.allocations

theorem mem_moves {t : TakenProduct} {m : StockMove} (h : m ∈ t.moves) :
    ∃ a ∈ t.allocations, m = ⟨t.item, a.locationId, -a.qty⟩ := by
  obtain ⟨a, ha, rfl⟩ := List.mem_map.mp h
  exact ⟨a, ha, rfl⟩

theorem deltaOn_moves (item : String) :
    deltaOn item t.moves =
      if item = t.item then -(t.allocations.map LocationAllocation.qty).sum else 0 := by
  unfold moves
  induction t.allocations with
  | nil => simp
  | cons a rest ih =>
    rw [List.map_cons, deltaOn_cons, ih, List.map_cons, List.sum_cons]
    by_cases hitem : item = t.item
    · simp only [hitem, if_true]
      omega
    · simp [hitem]

end TakenProduct

namespace DomainTables

def tracks (d : DomainTables κ) (item : String) : Bool :=
  (d.products.find? item).any Product.tracksInventory

def ingredientUnits (d : DomainTables κ) (line : SaleLine) (item : String)
    (ingredients : List RecipeItem) : Int :=
  (ingredients.map (fun r =>
    if item = r.ingredientProductId ∧ d.tracks item = true then line.qty * r.quantityRequired
    else 0)).sum

variable (settings : CheckoutSettings) (d : DomainTables κ)

def lineUnits (item : String) (line : SaleLine) : Int :=
  match d.productBySku line.sku with
  | none => 0
  | some p =>
    (if item = p.id ∧ p.tracksInventory = true then line.qty else 0) +
      d.ingredientUnits line item (getRecipeIngredients settings.recipes p.id)

def soldUnits (lines : List SaleLine) (item : String) : Int :=
  (lines.map (d.lineUnits settings item)).sum

end DomainTables

structure IngredientsTaken (d : DomainTables κ) (line : SaleLine) (ingredients : List RecipeItem)
    (taken : List TakenProduct) : Prop where
  covers : ∀ t ∈ taken, ∃ qty, t.Covers d qty
  units : ∀ item, deltaOn item (taken.flatMap TakenProduct.moves) =
    -d.ingredientUnits line item ingredients
  each : ∀ r ∈ ingredients, d.tracks r.ingredientProductId = true →
    ∃ t ∈ taken, t.item = r.ingredientProductId ∧ t.Covers d (line.qty * r.quantityRequired)

section Plan

variable (settings : CheckoutSettings) (call : CheckoutCall) (d : DomainTables κ)

def takenAs (item sku name : String) (qty : Int) : List TakenProduct :=
  match planProduct settings call d item sku name qty with
  | .ok allocations => [⟨item, sku, allocations⟩]
  | .error _ => []

variable (line : SaleLine)

def ingredientTaken (r : RecipeItem) : List TakenProduct :=
  match (d.products.find? r.ingredientProductId).filter Product.tracksInventory with
  | some p => takenAs settings call d p.id p.sku p.name (line.qty * r.quantityRequired)
  | none => []

def ownTaken : List TakenProduct :=
  match (d.productBySku line.sku).filter Product.tracksInventory with
  | some p => takenAs settings call d p.id line.sku line.sku line.qty
  | none => []

def recipeTaken : List TakenProduct :=
  match d.productBySku line.sku with
  | some p => (getRecipeIngredients settings.recipes p.id).flatMap
      (ingredientTaken settings call d line)
  | none => []

def lineTaken : List TakenProduct :=
  ownTaken settings call d line ++ recipeTaken settings call d line

end Plan

section Accepted

variable {settings : CheckoutSettings} {call : CheckoutCall} {d : DomainTables κ}

theorem append_shortfalls {p q : CheckoutPlan} (h : (p.append q).shortfalls = []) :
    p.shortfalls = [] ∧ q.shortfalls = [] := by
  unfold CheckoutPlan.append at h
  exact List.append_eq_nil_iff.mp h

variable {line : SaleLine} {plan : CheckoutPlan}

theorem planIngredient_ok {r : RecipeItem}
    (h : planIngredient settings call d line r = .ok plan) (hnone : plan.shortfalls = []) :
    plan.lineDeductions = [] ∧
      plan.deductions = (ingredientTaken settings call d line r).flatMap TakenProduct.deductions ∧
        (d.tracks r.ingredientProductId = false ∧ ingredientTaken settings call d line r = [] ∨
          d.tracks r.ingredientProductId = true ∧
            ∃ t : TakenProduct, ingredientTaken settings call d line r = [t] ∧
              t.item = r.ingredientProductId ∧
              t.Covers d (line.qty * r.quantityRequired)) := by
  unfold planIngredient at h
  cases hfind : d.products.find? r.ingredientProductId with
  | none =>
    rw [hfind] at h
    cases h
    have htaken : ingredientTaken settings call d line r = [] := by
      simp [ingredientTaken, hfind]
    refine ⟨rfl, by rw [htaken]; rfl, .inl ⟨?_, htaken⟩⟩
    rw [tracks, hfind]
    rfl
  | some p =>
    have htracks : d.tracks r.ingredientProductId = p.tracksInventory := by
      rw [tracks, hfind]
      rfl
    have hid : p.id = r.ingredientProductId := Table.find?_key hfind
    simp only [hfind] at h
    cases hp : p.tracksInventory with
    | false =>
      simp only [hp, Bool.false_eq_true, if_false] at h
      cases h
      have htaken : ingredientTaken settings call d line r = [] := by
        simp [ingredientTaken, hfind, Option.filter, hp]
      exact ⟨rfl, by rw [htaken]; rfl, .inl ⟨htracks.trans hp, htaken⟩⟩
    | true =>
      simp only [hp, if_true] at h
      cases hrequired : checkedI64 (line.qty * r.quantityRequired) with
      | none => simp [hrequired, refuseSale] at h
      | some required =>
        obtain ⟨rfl, _⟩ := (checkedI64_eq_some_iff _ _).mp hrequired
        simp only [hrequired] at h
        cases hplan : planProduct settings call d p.id p.sku p.name
            (line.qty * r.quantityRequired) with
        | error shortfall =>
          rw [hplan] at h
          cases h
          simp at hnone
        | ok allocations =>
          rw [hplan] at h
          cases h
          have htaken : ingredientTaken settings call d line r =
              [⟨p.id, p.sku, allocations⟩] := by
            simp [ingredientTaken, takenAs, hfind, Option.filter, hp, hplan]
          refine ⟨rfl, ?_, .inr ⟨htracks.trans hp, ⟨p.id, p.sku, allocations⟩, htaken, hid, ?_⟩⟩
          · rw [htaken]
            simp [TakenProduct.deductions]
          · exact ⟨⟨p, by rw [hid]; exact hfind, rfl, hp⟩, planProduct_ok hplan⟩

theorem planIngredients_ok {ingredients : List RecipeItem}
    (h : planIngredients settings call d line ingredients = .ok plan)
    (hnone : plan.shortfalls = []) :
    plan.lineDeductions = [] ∧
      plan.deductions = (ingredients.flatMap (ingredientTaken settings call d line)).flatMap
        TakenProduct.deductions ∧
      IngredientsTaken d line ingredients
        (ingredients.flatMap (ingredientTaken settings call d line)) := by
  induction ingredients generalizing plan with
  | nil =>
    cases h
    exact ⟨rfl, rfl, ⟨by simp, fun _ => rfl, by simp⟩⟩
  | cons r rest ih =>
    obtain ⟨here, hhere, hmap⟩ := Except.of_bind h
    obtain ⟨later, hlater, rfl⟩ := Except.of_map hmap
    obtain ⟨hhereNone, hlaterNone⟩ := append_shortfalls hnone
    obtain ⟨hrecorded, hdeductions, htaken⟩ := ih hlater hlaterNone
    obtain ⟨hhereRecorded, hhereDeductions, hcase⟩ := planIngredient_ok hhere hhereNone
    refine ⟨by simp [CheckoutPlan.append, hrecorded, hhereRecorded],
      by simp [CheckoutPlan.append, hdeductions, hhereDeductions], ?_⟩
    rw [List.flatMap_cons]
    rcases hcase with ⟨huntracked, hempty⟩ | ⟨htracked, t, ht, hitem, hcovers⟩
    · rw [hempty, List.nil_append]
      refine ⟨htaken.covers, ?_, ?_⟩
      · intro item
        rw [htaken.units, ingredientUnits, ingredientUnits, List.map_cons, List.sum_cons, if_neg,
          Int.zero_add]
        rintro ⟨rfl, htracks⟩
        rw [huntracked] at htracks
        cases htracks
      · refine List.forall_mem_cons.mpr ⟨?_, htaken.each⟩
        intro htracks
        rw [huntracked] at htracks
        cases htracks
    · rw [ht]
      refine ⟨?_, ?_, ?_⟩
      · exact List.forall_mem_cons.mpr ⟨⟨_, hcovers⟩, htaken.covers⟩
      · intro item
        rw [List.singleton_append, List.flatMap_cons, deltaOn_append, htaken.units,
          t.deltaOn_moves, hcovers.allocated.total, ingredientUnits, ingredientUnits,
          List.map_cons, List.sum_cons, hitem]
        by_cases hsame : item = r.ingredientProductId
        · subst hsame
          simp only [htracked, and_self, if_true]
          omega
        · simp [hsame]
      · refine List.forall_mem_cons.mpr ⟨?_, ?_⟩
        · exact fun _ => ⟨t, List.mem_cons_self, hitem, hcovers⟩
        · intro other hother htracks
          obtain ⟨t', ht', hrest⟩ := htaken.each other hother htracks
          exact ⟨t', List.mem_cons_of_mem _ ht', hrest⟩

/-- A line that a checkout accepts: its product, what it takes and what is recorded of it. -/
structure LinePlanned (settings : CheckoutSettings) (call : CheckoutCall) (d : DomainTables κ)
    (line : SaleLine) (p : Product) : Prop where
  product : d.productBySku line.sku = some p
  own : p.tracksInventory = true → ∃ allocations,
    ownTaken settings call d line = [⟨p.id, line.sku, allocations⟩] ∧
      Allocated d p.id line.qty allocations
  none : p.tracksInventory = false → ownTaken settings call d line = []
  ingredients : IngredientsTaken d line (getRecipeIngredients settings.recipes p.id)
    (recipeTaken settings call d line)

def recordedOf (settings : CheckoutSettings) (call : CheckoutCall) (d : DomainTables κ)
    (line : SaleLine) : List (String × List LocationAllocation) :=
  (ownTaken settings call d line).map (fun t => (line.id, t.allocations))

theorem planOwn_ok {p : Product} (hp : d.productBySku line.sku = some p)
    (hnone : (planOwn settings call d line p).shortfalls = []) :
    (planOwn settings call d line p).deductions =
        (ownTaken settings call d line).flatMap TakenProduct.deductions ∧
      (planOwn settings call d line p).lineDeductions = recordedOf settings call d line ∧
      (p.tracksInventory = true → ∃ allocations,
        ownTaken settings call d line = [⟨p.id, line.sku, allocations⟩] ∧
          Allocated d p.id line.qty allocations) ∧
      (p.tracksInventory = false → ownTaken settings call d line = []) := by
  unfold planOwn at hnone ⊢
  cases htracks : p.tracksInventory with
  | false =>
    have htaken : ownTaken settings call d line = [] := by
      simp [ownTaken, hp, Option.filter, htracks]
    simp [recordedOf, htaken, CheckoutPlan.empty]
  | true =>
    simp only [htracks, if_true] at hnone ⊢
    cases hplan : planProduct settings call d p.id line.sku line.sku line.qty with
    | error shortfall =>
      rw [hplan] at hnone
      simp at hnone
    | ok allocations =>
      have htaken : ownTaken settings call d line = [⟨p.id, line.sku, allocations⟩] := by
        simp [ownTaken, takenAs, hp, Option.filter, htracks, hplan]
      refine ⟨?_, ?_, fun _ => ⟨allocations, htaken, planProduct_ok hplan⟩, by simp⟩
      · simp [htaken, TakenProduct.deductions]
      · simp [recordedOf, htaken]

theorem planLine_ok (h : planLine settings call d line = .ok plan) (hnone : plan.shortfalls = []) :
    plan.deductions = (lineTaken settings call d line).flatMap TakenProduct.deductions ∧
      plan.lineDeductions = recordedOf settings call d line ∧
      ∃ p, LinePlanned settings call d line p := by
  unfold planLine at h
  cases hp : d.productBySku line.sku with
  | none =>
    rw [hp] at h
    cases h
    simp at hnone
  | some p =>
    simp only [hp] at h
    obtain ⟨later, hlater, rfl⟩ := Except.of_map h
    obtain ⟨hownNone, hlaterNone⟩ := append_shortfalls hnone
    obtain ⟨hrecorded, hdeductions, htaken⟩ := planIngredients_ok hlater hlaterNone
    obtain ⟨hownDeductions, hownRecorded, hown, hownNot⟩ := planOwn_ok hp hownNone
    have hrecipe : recipeTaken settings call d line =
        (getRecipeIngredients settings.recipes p.id).flatMap
          (ingredientTaken settings call d line) := by
      simp [recipeTaken, hp]
    rw [← hrecipe] at hdeductions htaken
    refine ⟨?_, ?_, p, hp, hown, hownNot, htaken⟩
    · simp [CheckoutPlan.append, hownDeductions, hdeductions, lineTaken]
    · simp [CheckoutPlan.append, hownRecorded, hrecorded]

theorem lookup_recordedOf (line other : SaleLine) :
    (recordedOf settings call d line).lookup other.id =
      if other.id = line.id then
        (ownTaken settings call d line).head?.map TakenProduct.allocations
      else none := by
  unfold recordedOf
  by_cases hid : other.id = line.id
  · rw [if_pos hid, hid]
    cases ownTaken settings call d line with
    | nil => rfl
    | cons t rest => simp
  · rw [if_neg hid]
    induction ownTaken settings call d line with
    | nil => rfl
    | cons t rest ih =>
      have hbeq : (other.id == line.id) = false := by simpa using hid
      rw [List.map_cons, List.lookup_cons, hbeq]
      exact ih

theorem planLines_ok {lines : List SaleLine}
    (h : planLines settings call d lines = .ok plan) (hnone : plan.shortfalls = []) :
    plan.deductions =
        (lines.flatMap (lineTaken settings call d)).flatMap TakenProduct.deductions ∧
      (∀ line ∈ lines, ∃ p, LinePlanned settings call d line p) ∧
      (∀ other : SaleLine, other.id ∉ lines.map SaleLine.id →
        plan.lineDeductions.lookup other.id = none) ∧
      ((lines.map SaleLine.id).Nodup → ∀ line ∈ lines,
        plan.lineDeductions.lookup line.id =
          (ownTaken settings call d line).head?.map TakenProduct.allocations) := by
  induction lines generalizing plan with
  | nil =>
    cases h
    exact ⟨rfl, by simp, fun _ _ => rfl, by simp⟩
  | cons line rest ih =>
    obtain ⟨here, hhere, hmap⟩ := Except.of_bind h
    obtain ⟨later, hlater, rfl⟩ := Except.of_map hmap
    obtain ⟨hhereNone, hlaterNone⟩ := append_shortfalls hnone
    obtain ⟨hdeductions, hplanned, hothers, hrecorded⟩ := ih hlater hlaterNone
    obtain ⟨hhereDeductions, hhereRecorded, hline⟩ := planLine_ok hhere hhereNone
    have hlookup : ∀ other : SaleLine, (here.append later).lineDeductions.lookup other.id =
        (later.lineDeductions.lookup other.id).or
          ((recordedOf settings call d line).lookup other.id) := by
      intro other
      unfold CheckoutPlan.append
      rw [← hhereRecorded]
      exact List.lookup_append
    refine ⟨?_, List.forall_mem_cons.mpr ⟨hline, hplanned⟩, ?_, ?_⟩
    · simp [CheckoutPlan.append, hhereDeductions, hdeductions]
    · intro other hother
      rw [List.map_cons, List.mem_cons, not_or] at hother
      rw [hlookup, hothers other hother.2, lookup_recordedOf, if_neg hother.1]
      rfl
    · intro hnodup
      rw [List.map_cons, List.nodup_cons] at hnodup
      refine List.forall_mem_cons.mpr ⟨?_, ?_⟩
      · rw [hlookup, hothers line hnodup.1, lookup_recordedOf, if_pos rfl]
        rfl
      · intro other hother
        have hne : other.id ≠ line.id := by
          intro heq
          rw [← heq] at hnodup
          exact hnodup.1 (List.mem_map_of_mem hother)
        rw [hlookup, hrecorded hnodup.2 other hother, lookup_recordedOf, if_neg hne, Option.or_none]

end Accepted

namespace DomainTables

def deductionMoves (d : DomainTables κ) (deductions : List StockDeduction) : List StockMove :=
  deductions.filterMap (fun x => d.skuMove x.sku x.locationId x.delta)

variable {w : StockBindings} {d d' : DomainTables κ}

theorem executeBatch_wrote {now : String} {ctx : MovementContext}
    {deductions : List StockDeduction} (h : d.executeBatch w now ctx deductions = .ok d') :
    Wrote w d (d.deductionMoves deductions) d' := by
  induction deductions generalizing d with
  | nil =>
    cases h
    exact Wrote.nil _
  | cons x rest ih =>
    unfold executeBatch at h
    split at h
    · cases h
    · rename_i qty d₁ hadjust
      obtain ⟨item, hsku, hw⟩ := adjustStockAtLocationFor_ok hadjust
      have hrest := ih h
      have hsame : d₁.deductionMoves rest = d.deductionMoves rest := by
        unfold deductionMoves
        rw [hw.frame.skuMove]
      rw [hsame] at hrest
      have hmoves : d.deductionMoves (x :: rest) =
          ⟨item, x.locationId, x.delta⟩ :: d.deductionMoves rest := by
        simp [deductionMoves, skuMove_of_sku hsku]
      rw [hmoves]
      exact Wrote.cons hw hrest

theorem adjustStockBatch_wrote {now : String} {ctx : MovementContext}
    {deductions : List StockDeduction} (h : d.adjustStockBatch w now deductions ctx = .ok d') :
    Wrote w d (d.deductionMoves deductions) d' := by
  unfold adjustStockBatch at h
  split at h
  · cases h
  · exact executeBatch_wrote h

theorem deductionMoves_taken {t : TakenProduct} (h : d.productIdBySku t.sku = some t.item) :
    d.deductionMoves t.deductions = t.moves := by
  unfold deductionMoves TakenProduct.deductions TakenProduct.moves deductionsOf
  induction t.allocations with
  | nil => rfl
  | cons a rest ih =>
    simp only [List.map_cons, List.filterMap_cons, skuMove_of_sku h]
    rw [ih]

theorem deductionMoves_flatMap {taken : List TakenProduct}
    (h : ∀ t ∈ taken, d.productIdBySku t.sku = some t.item) :
    d.deductionMoves (taken.flatMap TakenProduct.deductions) =
      taken.flatMap TakenProduct.moves := by
  induction taken with
  | nil => rfl
  | cons t rest ih =>
    obtain ⟨ht, hrest⟩ := List.forall_mem_cons.mp h
    have happend : d.deductionMoves (t.deductions ++ rest.flatMap TakenProduct.deductions) =
        d.deductionMoves t.deductions ++
          d.deductionMoves (rest.flatMap TakenProduct.deductions) := by
      unfold deductionMoves
      rw [List.filterMap_append]
    rw [List.flatMap_cons, List.flatMap_cons, happend, deductionMoves_taken ht, ih hrest]

end DomainTables

section Accepted

variable {settings : CheckoutSettings} {call : CheckoutCall} {d : DomainTables κ}

theorem LinePlanned.taken {line : SaleLine} {p : Product}
    (h : LinePlanned settings call d line p) (hskus : d.SkusDistinct) :
    ∀ t ∈ lineTaken settings call d line,
      d.productIdBySku t.sku = some t.item ∧ ∃ qty, t.Covers d qty := by
  have hknown : ∀ (t : TakenProduct) qty, t.Covers d qty → d.productIdBySku t.sku = some t.item := by
    intro t qty hcovers
    obtain ⟨q, hq, hqsku, _⟩ := hcovers.product
    obtain ⟨hid, _, hsku⟩ := productBySku_of_find? hskus hq
    rw [← hqsku, hsku, hid]
  obtain ⟨hsku, hfind, hitem⟩ := productIdBySku_of_productBySku h.product
  intro t ht
  rw [lineTaken, List.mem_append] at ht
  rcases ht with hown | hrecipe
  · cases htracks : p.tracksInventory with
    | false =>
      rw [h.none htracks] at hown
      cases hown
    | true =>
      obtain ⟨allocations, htaken, hallocated⟩ := h.own htracks
      rw [htaken, List.mem_singleton] at hown
      subst hown
      exact ⟨hitem, line.qty, ⟨⟨p, hfind, hsku, htracks⟩, hallocated⟩⟩
  · obtain ⟨qty, hcovers⟩ := h.ingredients.covers t hrecipe
    exact ⟨hknown t qty hcovers, qty, hcovers⟩

end Accepted

theorem insertSaleLines_ok {lines : List SaleLine} {db db' : SalesDb κ}
    (h : insertSaleLines lines db = .ok db') :
    (∀ line ∈ lines, 0 < line.qty) ∧ (lines.map SaleLine.id).Nodup ∧
      (∀ line ∈ lines, db.saleLines.find? line.id = none) ∧
      ∃ saleLines, db' = { db with saleLines } := by
  induction lines generalizing db with
  | nil =>
    cases h
    exact ⟨by simp, List.nodup_nil, by simp, _, rfl⟩
  | cons line rest ih =>
    obtain ⟨db₁, hinsert, hrest⟩ := Except.of_bind h
    unfold insertSaleLine at hinsert
    split at hinsert
    · cases hinsert
    · rename_i hqty
      split at hinsert
      · cases hinsert
      · split at hinsert
        · cases hinsert
        · rename_i saleLines hsaleLines
          cases hinsert
          obtain ⟨hqtys, hnodup, hnew, later, rfl⟩ := ih hrest
          have hfree := (Table.insert?_isSome_iff _ _).mp (by rw [hsaleLines]; rfl)
          have hkept : ∀ other ∈ rest, other.id ≠ line.id ∧
              db.saleLines.find? other.id = none := by
            intro other hother
            have hnone := hnew other hother
            rw [Table.find?_insert? hsaleLines] at hnone
            by_cases hid : other.id = line.id
            · rw [hid] at hnone
              simp at hnone
            · refine ⟨hid, ?_⟩
              rw [if_neg (Ne.symm hid)] at hnone
              exact hnone
          refine ⟨List.forall_mem_cons.mpr ⟨by omega, hqtys⟩, ?_,
            List.forall_mem_cons.mpr ⟨hfree, fun other hother => (hkept other hother).2⟩,
            later, rfl⟩
          rw [List.map_cons, List.nodup_cons]
          refine ⟨?_, hnodup⟩
          intro hmem
          obtain ⟨other, hother, hid⟩ := List.mem_map.mp hmem
          exact (hkept other hother).1 hid

section Accepted

variable {settings : CheckoutSettings} {draw : CheckoutDraw} {call : CheckoutCall} {sale : Sale}
  {db db' : SalesDb κ} {result : CompleteSaleResult}

theorem deductForSale_ok {deductions : List StockDeduction}
    (h : deductForSale settings draw call deductions db = .ok db') :
    ∃ d, Wrote settings.bindings db.domain (db.domain.deductionMoves deductions) d ∧
      db' = { db with domain := d } := by
  obtain ⟨d, hd, rfl⟩ := Except.of_map h
  exact ⟨d, adjustStockBatch_wrote hd, rfl⟩

def saleOutboxRow (draw : CheckoutDraw) (sale : Sale) (terminal : Option String) :
    OfflineQueueItem :=
  newQueueItem ⟨.ok (), terminal⟩ ⟨draw.now, draw.rowId, ""⟩ "complete_sale"
    (.json (saleJson sale)) "default" .critical

theorem enqueueSaleOutboxInTx_ok (h : enqueueSaleOutboxInTx draw sale db = .ok db') :
    ∃ queue, db.queue.insert? (saleOutboxRow draw sale db.domain.getSyncTerminalId) = some queue ∧
      db' = { db with queue } := by
  unfold enqueueSaleOutboxInTx enqueueOfflineInner at h
  cases hinsert : db.queue.insert? (saleOutboxRow draw sale db.domain.getSyncTerminalId) with
  | none =>
    rw [saleOutboxRow] at hinsert
    simp [hinsert] at h
  | some queue =>
    rw [saleOutboxRow] at hinsert
    simp only [hinsert, Except.ok.injEq] at h
    exact ⟨queue, rfl, h.symm⟩

/-- A sale settled with what is recorded of its deductions. -/
structure Settled (draw : CheckoutDraw) (status : String) (doc : Json) (sale : Sale)
    (db db' : SalesDb κ) : Prop where
  units : ∀ line ∈ sale.lines, 0 < line.qty
  ids : (sale.lines.map SaleLine.id).Nodup
  domain : ∃ sales auditLog crm,
    db.domain.sales.insert? (saleRowOf draw status sale) = some sales ∧
      db'.domain = { db.domain with sales, auditLog, crm }
  terms : db'.terms = Function.update db.terms sale.id ⟨sale.currency, some (.json doc)⟩
  queue : db.queue.insert? (saleOutboxRow draw sale db.domain.getSyncTerminalId) =
    some db'.queue

theorem settleSale_ok {status : String} {doc : Json} {settled : κ} {db₁ : SalesDb κ}
    (hinsert : insertSale draw status doc sale db = .ok db₁)
    (h : settleSale draw status sale
      { db₁ with domain := { db₁.domain with crm := settled } } = .ok (db', result)) :
    Settled draw status doc sale db db' := by
  unfold insertSale at hinsert
  split at hinsert
  · cases hinsert
  · rename_i sales hsales
    cases hinsert
    obtain ⟨db₂, hlines, h⟩ := Except.of_bind h
    obtain ⟨db₃, houtbox, h⟩ := Except.of_bind h
    obtain ⟨hunits, hids, _, saleLines, rfl⟩ := insertSaleLines_ok hlines
    obtain ⟨queue, hqueue, rfl⟩ := enqueueSaleOutboxInTx_ok houtbox
    split at h
    · cases h
    · cases h
      exact ⟨hunits, hids, ⟨sales, _, _, hsales, rfl⟩, rfl, hqueue⟩

def ownAllocations (settings : CheckoutSettings) (call : CheckoutCall) (d : DomainTables κ)
    (line : SaleLine) : List LocationAllocation :=
  ((ownTaken settings call d line).head?.map TakenProduct.allocations).getD
    [⟨primaryOf call, line.qty⟩]

def saleTaken (settings : CheckoutSettings) (call : CheckoutCall) (d : DomainTables κ)
    (sale : Sale) : List TakenProduct :=
  sale.lines.flatMap (lineTaken settings call d)

structure CheckedOut (settings : CheckoutSettings) (draw : CheckoutDraw) (call : CheckoutCall)
    (sale : Sale) (db db' : SalesDb κ) : Prop where
  planned : ∀ line ∈ sale.lines, ∃ p, LinePlanned settings call db.domain line p
  took : ∃ d, Wrote settings.bindings db.domain
      (db.domain.deductionMoves
        ((saleTaken settings call db.domain sale).flatMap TakenProduct.deductions)) d ∧
    Settled draw "pending" (deductionDoc (sale.lines.map (fun line =>
      recordedLineJson draw.now line (ownAllocations settings call db.domain line)))) sale
      { db with domain := d } db'

theorem completeSaleDeductionWithLocations_ok
    (h : completeSaleDeductionWithLocations settings draw call sale db = .ok (db', result)) :
    CheckedOut settings draw call sale db db' := by
  obtain ⟨_, _, h⟩ := Except.of_bind h
  obtain ⟨_, _, h⟩ := Except.of_bind h
  obtain ⟨plan, hplan, h⟩ := Except.of_bind h
  split at h
  · cases h
  · rename_i hnone
    obtain ⟨_, _, h⟩ := Except.of_bind h
    obtain ⟨db₁, hdeduct, h⟩ := Except.of_bind (coreResult_ok h)
    obtain ⟨db₂, hinsert, hsettle⟩ := Except.of_bind h
    obtain ⟨hdeductions, hplanned, _, hlookup⟩ := planLines_ok hplan (not_not.mp hnone)
    obtain ⟨d, hwrote, rfl⟩ := deductForSale_ok hdeduct
    have hsettled := settleSale_ok hinsert hsettle
    rw [hdeductions] at hwrote
    refine ⟨hplanned, d, hwrote, ?_⟩
    have hrecorded : sale.lines.map (fun line => recordedLineJson draw.now line
        (recordedAllocations (primaryOf call) plan.lineDeductions line)) =
        sale.lines.map (fun line => recordedLineJson draw.now line
          (ownAllocations settings call db.domain line)) := by
      apply List.map_congr_left
      intro line hline
      rw [recordedAllocations, hlookup hsettled.ids line hline]
      rfl
    rw [deductionJson, hrecorded] at hsettled
    exact hsettled

theorem CheckedOut.moves (h : CheckedOut settings draw call sale db db')
    (hskus : db.domain.SkusDistinct) :
    db.domain.deductionMoves
        ((saleTaken settings call db.domain sale).flatMap TakenProduct.deductions) =
      (saleTaken settings call db.domain sale).flatMap TakenProduct.moves := by
  apply deductionMoves_flatMap
  intro t ht
  obtain ⟨line, hline, htaken⟩ := List.mem_flatMap.mp ht
  obtain ⟨p, hp⟩ := h.planned line hline
  exact (hp.taken hskus t htaken).1

end Accepted

end OzPos
