import OzPos.Commerce.BatchBears
import OzPos.Commerce.SaleReplication

namespace OzPos

variable {κ : Type}

namespace DomainTables

def ingredientAsk (d : DomainTables κ) (line : SaleLine) (r : RecipeItem) : Option (String × Int) :=
  if d.tracks r.ingredientProductId then
    some (r.ingredientProductId, line.qty * r.quantityRequired)
  else none

variable (settings : CheckoutSettings) (d : DomainTables κ)

def lineDemands (line : SaleLine) : List (String × Int) :=
  match d.productBySku line.sku with
  | none => []
  | some p =>
    (if p.tracksInventory then [(p.id, line.qty)] else []) ++
      (getRecipeIngredients settings.recipes p.id).filterMap (d.ingredientAsk line)

def totalDemand (lines : List SaleLine) (item : String) : Int :=
  ((lines.flatMap (d.lineDemands settings)).map (fun ask => if ask.1 = item then ask.2 else 0)).sum

def routeStock (item : String) (locations : List String) : Int :=
  (locations.map (fun location => max 0 (d.quantityAt item location))).sum

/-- What a demand takes in route order of the stock as it stands at the start. -/
def greedyMoves (call : CheckoutCall) (d : DomainTables κ) (ask : String × Int) : List StockMove :=
  ((allocateStockInRouteOrder ask.2
    (d.stockAtLocations settings.locationNames ask.1 (routesOf call))).getD []).map
      (fun a => ⟨ask.1, a.locationId, -a.qty⟩)

end DomainTables

open DomainTables

section Claim

variable (settings : CheckoutSettings) (draw : CheckoutDraw) (call : CheckoutCall) (sale : Sale)
  (db : SalesDb κ)

/-- The routes hold all that the lines ask of each product together. -/
def JointlySupplied : Prop :=
  (∀ line ∈ sale.lines, (db.domain.productBySku line.sku).isSome) ∧
    ∀ item, db.domain.totalDemand settings sale.lines item ≤
      db.domain.routeStock item (routesOf call).dedup

/-- The routes hold what each line asks, taken by itself. -/
def EachSupplied : Prop :=
  ∀ line ∈ sale.lines, (db.domain.productBySku line.sku).isSome ∧
    ∀ ask ∈ db.domain.lineDemands settings line,
      ask.2 ≤ db.domain.routeStock ask.1 (routesOf call)

def checkoutPlan : Except CheckoutError CheckoutPlan :=
  (checkQuantities sale.lines).bind (fun _ =>
    (coreResult draw.posWritable).bind (fun _ =>
      (planLines settings call db.domain sale.lines).bind (fun plan =>
        if plan.shortfalls ≠ [] then .error (.partialStock plan.shortfalls)
        else (validatePaymentSplitsCoverTotal call.paymentSplits sale.totalMinor).map
          (fun _ => plan))))

/-- The checkout lists shortfalls, or comes to deduct its stock and is refused. -/
def RefusedForStock : Prop :=
  (∃ shortfalls, completeSaleDeductionWithLocations settings draw call sale db =
      .error (.partialStock shortfalls)) ∨
    ∃ plan e, checkoutPlan settings draw call sale db = .ok plan ∧
      deductForSale settings draw call plan.deductions db = .error e

/-- A sale that the routes supply is not refused for stock, and any other is answered with its
shortfalls and writes nothing. -/
structure ServesJointly : Prop where
  supplied : JointlySupplied settings call sale db → ¬ RefusedForStock settings draw call sale db
  otherwise : ¬ JointlySupplied settings call sale db → ∃ shortfalls, shortfalls ≠ [] ∧
    completeSaleDeductionWithLocations settings draw call sale db =
      .error (.partialStock shortfalls) ∧
    ∀ crm : Crm κ, (SaleEvent.checkout settings draw call sale).act crm db = db

/-- Nothing but the stock and the payments stands against the sale. -/
structure Admitted : Prop where
  quantities : checkQuantities sale.lines = .ok ()
  writable : draw.posWritable = .ok ()
  fits : ∀ line ∈ sale.lines, ∀ ask ∈ db.domain.lineDemands settings line, FitsI64 ask.2

/-- The stock bears what the lines take one after the other, each allocated against the stock at
the start. -/
def BearsGreedily : Prop :=
  db.domain.Bears settings.bindings call.terminalId
    ((sale.lines.flatMap (db.domain.lineDemands settings)).flatMap
      (db.domain.greedyMoves settings call))

end Claim

section Plan

variable {settings : CheckoutSettings} {draw : CheckoutDraw} {call : CheckoutCall} {sale : Sale}
  {db : SalesDb κ} {d : DomainTables κ}

theorem routeStock_nonneg (item : String) (locations : List String) :
    0 ≤ d.routeStock item locations := by
  apply List.sum_nonneg
  intro x hx
  obtain ⟨location, -, rfl⟩ := List.mem_map.mp hx
  exact le_max_left _ _

theorem allocateRemaining_isSome_iff {remaining : Int} (locations : List LocationStock)
    (h : 0 ≤ remaining) : (allocateRemaining remaining locations).isSome ↔
      remaining ≤ (locations.map (fun l => max 0 l.qtyAvailable)).sum := by
  induction locations generalizing remaining with
  | nil =>
    unfold allocateRemaining
    by_cases hzero : remaining = 0
    · simp [hzero]
    · simp [hzero]
      omega
  | cons location rest ih =>
    have hrest : 0 ≤ (rest.map (fun l => max 0 l.qtyAvailable)).sum := by
      apply List.sum_nonneg
      intro x hx
      obtain ⟨l, -, rfl⟩ := List.mem_map.mp hx
      exact le_max_left _ _
    unfold allocateRemaining
    rw [List.map_cons, List.sum_cons]
    by_cases hzero : remaining = 0
    · rw [if_pos hzero]
      simp only [Option.isSome_some, true_iff]
      omega
    · rw [if_neg hzero]
      by_cases hnone : location.qtyAvailable ≤ 0
      · rw [if_pos hnone, ih h]
        omega
      · rw [if_neg hnone]
        simp only [Option.isSome_map]
        rw [ih (by omega)]
        omega

theorem allocate_isSome_iff {item : String} {qty : Int} (h : 0 ≤ qty) :
    (allocateStockInRouteOrder qty
      (d.stockAtLocations settings.locationNames item (routesOf call))).isSome ↔
      qty ≤ d.routeStock item (routesOf call) := by
  unfold allocateStockInRouteOrder
  rw [if_neg (by omega), allocateRemaining_isSome_iff _ h]
  unfold stockAtLocations routeStock
  rw [List.map_map]
  rfl

theorem planProduct_isOk_iff {item sku name : String} {qty : Int} (h : 0 ≤ qty) :
    (∃ allocations, planProduct settings call d item sku name qty = .ok allocations) ↔
      qty ≤ d.routeStock item (routesOf call) := by
  rw [← @allocate_isSome_iff κ settings call d item qty h]
  unfold planProduct
  simp only
  cases allocateStockInRouteOrder qty
      (d.stockAtLocations settings.locationNames item (routesOf call)) with
  | none => simp
  | some allocations => simp

theorem takenAs_moves (item sku name : String) (qty : Int) :
    (takenAs settings call d item sku name qty).flatMap TakenProduct.moves =
      d.greedyMoves settings call (item, qty) := by
  unfold takenAs planProduct greedyMoves
  simp only
  cases allocateStockInRouteOrder qty
      (d.stockAtLocations settings.locationNames item (routesOf call)) with
  | none => rfl
  | some allocations => simp [TakenProduct.moves]

/-- The outcome of planning demands: each fits its column and the plan has no shortfall just when
the routes hold each of them, or one does not fit. -/
def Planned (call : CheckoutCall) (d : DomainTables κ) (known : Prop) (asks : List (String × Int))
    (result : Except CheckoutError CheckoutPlan) : Prop :=
  ((∀ ask ∈ asks, FitsI64 ask.2) ∧ ∃ plan, result = .ok plan ∧ (plan.shortfalls = [] ↔
      known ∧ ∀ ask ∈ asks, ask.2 ≤ d.routeStock ask.1 (routesOf call))) ∨
    ((¬ ∀ ask ∈ asks, FitsI64 ask.2) ∧ ∃ e, result = .error (.core e))

theorem Planned.append {known known' : Prop} {asks asks' : List (String × Int)}
    {result result' : Except CheckoutError CheckoutPlan} (h : Planned call d known asks result)
    (h' : Planned call d known' asks' result') :
    Planned call d (known ∧ known') (asks ++ asks')
      (result.bind (fun plan => result'.map plan.append)) := by
  rcases h with ⟨hfits, plan, rfl, hplan⟩ | ⟨hnot, e, rfl⟩
  · rcases h' with ⟨hfits', plan', rfl, hplan'⟩ | ⟨hnot', e, rfl⟩
    · refine .inl ⟨List.forall_mem_append.mpr ⟨hfits, hfits'⟩, plan.append plan', rfl, ?_⟩
      unfold CheckoutPlan.append
      rw [List.append_eq_nil_iff, hplan, hplan', List.forall_mem_append]
      constructor
      · intro h
        exact ⟨⟨h.1.1, h.2.1⟩, h.1.2, h.2.2⟩
      · intro h
        exact ⟨⟨h.1.1, h.2.1⟩, h.1.2, h.2.2⟩
    · exact .inr ⟨fun h => hnot' (List.forall_mem_append.mp h).2, e, rfl⟩
  · exact .inr ⟨fun h => hnot (List.forall_mem_append.mp h).1, e, rfl⟩

theorem planned_empty : Planned call d True [] (.ok .empty) :=
  .inl ⟨by simp, .empty, rfl, by simp [CheckoutPlan.empty]⟩

theorem planned_iff {known known' : Prop} {asks : List (String × Int)}
    {result : Except CheckoutError CheckoutPlan} (h : Planned call d known asks result)
    (hknown : known ↔ known') : Planned call d known' asks result := by
  rw [propext hknown] at h
  exact h

theorem planned_own {line : SaleLine} {p : Product} (hqty : 0 ≤ line.qty)
    (hfits : FitsI64 line.qty) :
    Planned call d True (if p.tracksInventory then [(p.id, line.qty)] else [])
      (.ok (planOwn settings call d line p)) := by
  unfold planOwn
  cases htracks : p.tracksInventory with
  | false => exact planned_empty
  | true =>
    have hheld := @planProduct_isOk_iff κ settings call d p.id line.sku line.sku line.qty hqty
    simp only [if_true]
    refine .inl ⟨List.forall_mem_singleton.mpr hfits, _, rfl, ?_⟩
    rw [List.forall_mem_singleton, true_and, ← hheld]
    cases planProduct settings call d p.id line.sku line.sku line.qty with
    | ok allocations => simp
    | error shortfall => simp

theorem planned_ingredient {line : SaleLine} (hqty : 0 ≤ line.qty) (r : RecipeItem) :
    Planned call d True (d.ingredientAsk line r).toList (planIngredient settings call d line r) := by
  unfold planIngredient ingredientAsk
  cases hfind : d.products.find? r.ingredientProductId with
  | none =>
    have htracks : d.tracks r.ingredientProductId = false := by
      rw [tracks, hfind]
      rfl
    rw [htracks]
    exact planned_empty
  | some p =>
    have htracks : d.tracks r.ingredientProductId = p.tracksInventory := by
      rw [tracks, hfind]
      rfl
    have hid : p.id = r.ingredientProductId := Table.find?_key hfind
    rw [htracks]
    cases hp : p.tracksInventory with
    | false =>
      simp only [hp, Bool.false_eq_true, if_false]
      exact planned_empty
    | true =>
      simp only [hp, if_true, Option.toList_some]
      have hneeds : 0 ≤ line.qty * r.quantityRequired :=
        Int.mul_nonneg hqty (Int.le_of_lt r.required_pos)
      cases hrequired : checkedI64 (line.qty * r.quantityRequired) with
      | none =>
        have hnot := (checkedI64_eq_none_iff _).mp hrequired
        exact .inr ⟨fun h => hnot (h _ List.mem_cons_self), _, rfl⟩
      | some required =>
        obtain ⟨rfl, hfits⟩ := (checkedI64_eq_some_iff _ _).mp hrequired
        have hheld := @planProduct_isOk_iff κ settings call d p.id p.sku p.name _ hneeds
        rw [hid] at hheld
        simp only [hid]
        cases hplan : planProduct settings call d r.ingredientProductId p.sku p.name
            (line.qty * r.quantityRequired) with
        | ok allocations =>
          rw [hplan] at hheld
          refine .inl ⟨List.forall_mem_singleton.mpr hfits, _, rfl, ?_⟩
          rw [List.forall_mem_singleton, true_and, ← hheld]
          simp
        | error shortfall =>
          rw [hplan] at hheld
          refine .inl ⟨List.forall_mem_singleton.mpr hfits, _, rfl, ?_⟩
          rw [List.forall_mem_singleton, true_and, ← hheld]
          simp

theorem planned_ingredients {line : SaleLine} (hqty : 0 ≤ line.qty)
    (ingredients : List RecipeItem) :
    Planned call d True (ingredients.filterMap (d.ingredientAsk line))
      (planIngredients settings call d line ingredients) := by
  induction ingredients with
  | nil => exact planned_empty
  | cons r rest ih =>
    have happend := (@planned_ingredient κ settings call d line hqty r).append ih
    have hasks : (r :: rest).filterMap (d.ingredientAsk line) =
        (d.ingredientAsk line r).toList ++ rest.filterMap (d.ingredientAsk line) := by
      rw [List.filterMap_cons]
      cases d.ingredientAsk line r with
      | none => rfl
      | some ask => rfl
    rw [hasks]
    exact planned_iff happend (by simp)

theorem planned_line {line : SaleLine} (hqty : 0 ≤ line.qty) (hfits : FitsI64 line.qty) :
    Planned call d ((d.productBySku line.sku).isSome = true) (d.lineDemands settings line)
      (planLine settings call d line) := by
  unfold planLine lineDemands
  cases hp : d.productBySku line.sku with
  | none => exact .inl ⟨by simp, _, rfl, by simp⟩
  | some p =>
    have happend := (@planned_own κ settings call d line p hqty hfits).append
      (@planned_ingredients κ settings call d line hqty
        (getRecipeIngredients settings.recipes p.id))
    exact planned_iff happend (by simp)

theorem planned_lines {lines : List SaleLine} (hqty : ∀ line ∈ lines, 0 ≤ line.qty)
    (hfits : ∀ line ∈ lines, FitsI64 line.qty) :
    Planned call d (∀ line ∈ lines, (d.productBySku line.sku).isSome = true)
      (lines.flatMap (d.lineDemands settings)) (planLines settings call d lines) := by
  induction lines with
  | nil => exact planned_iff planned_empty (by simp)
  | cons line rest ih =>
    obtain ⟨hqty, hqtys⟩ := List.forall_mem_cons.mp hqty
    obtain ⟨hfit, hfits⟩ := List.forall_mem_cons.mp hfits
    have happend := (@planned_line κ settings call d line hqty hfit).append (ih hqtys hfits)
    rw [List.flatMap_cons]
    exact planned_iff happend (by rw [List.forall_mem_cons])

theorem checkQuantities_ok_iff (lines : List SaleLine) :
    checkQuantities lines = .ok () ↔ ∀ line ∈ lines, 0 ≤ line.qty := by
  induction lines with
  | nil => simp [checkQuantities]
  | cons line rest ih =>
    unfold checkQuantities
    rw [List.forall_mem_cons]
    by_cases hneg : line.qty < 0
    · rw [if_pos hneg]
      refine ⟨fun h => ?_, fun h => absurd h.1 (by omega)⟩
      cases h
    · rw [if_neg hneg, ih]
      exact ⟨fun h => ⟨by omega, h⟩, fun h => h.2⟩

theorem lineDemands_nonneg {line : SaleLine} (hqty : 0 ≤ line.qty) :
    ∀ ask ∈ d.lineDemands settings line, 0 ≤ ask.2 := by
  intro ask hask
  unfold lineDemands at hask
  split at hask
  · cases hask
  · rcases List.mem_append.mp hask with hown | hingredient
    · split at hown
      · rw [List.mem_singleton.mp hown]
        exact hqty
      · cases hown
    · obtain ⟨r, -, hr⟩ := List.mem_filterMap.mp hingredient
      unfold ingredientAsk at hr
      split at hr
      · obtain rfl := Option.some.inj hr
        exact Int.mul_nonneg hqty (Int.le_of_lt r.required_pos)
      · cases hr

theorem sum_dedup_le (f : String → Int) (hf : ∀ x, 0 ≤ f x) (xs : List String) :
    (xs.dedup.map f).sum ≤ (xs.map f).sum := by
  apply ((List.dedup_sublist xs).map f).sum_le_sum
  simp [hf]

theorem le_totalDemand {lines : List SaleLine} (hqty : ∀ line ∈ lines, 0 ≤ line.qty)
    {line : SaleLine} (hline : line ∈ lines) {ask : String × Int}
    (hask : ask ∈ d.lineDemands settings line) : ask.2 ≤ d.totalDemand settings lines ask.1 := by
  have hmem : ask ∈ lines.flatMap (d.lineDemands settings) :=
    List.mem_flatMap.mpr ⟨line, hline, hask⟩
  have hvalue : ask.2 ∈ (lines.flatMap (d.lineDemands settings)).map
      (fun other => if other.1 = ask.1 then other.2 else 0) :=
    List.mem_map.mpr ⟨ask, hmem, if_pos rfl⟩
  refine List.single_le_sum ?_ _ hvalue
  intro x hx
  obtain ⟨other, hother, rfl⟩ := List.mem_map.mp hx
  obtain ⟨line', hline', hother'⟩ := List.mem_flatMap.mp hother
  split
  · exact lineDemands_nonneg (hqty line' hline') other hother'
  · exact le_refl _

theorem JointlySupplied.each (h : JointlySupplied settings call sale db)
    (hqty : ∀ line ∈ sale.lines, 0 ≤ line.qty) : EachSupplied settings call sale db := by
  intro line hline
  refine ⟨h.1 line hline, fun ask hask => ?_⟩
  have hroutes := sum_dedup_le (fun location => max 0 (db.domain.quantityAt ask.1 location))
    (fun _ => le_max_left _ _) (routesOf call)
  calc ask.2 ≤ db.domain.totalDemand settings sale.lines ask.1 := le_totalDemand hqty hline hask
    _ ≤ db.domain.routeStock ask.1 (routesOf call).dedup := h.2 ask.1
    _ ≤ db.domain.routeStock ask.1 (routesOf call) := hroutes

theorem ingredientTaken_moves (line : SaleLine) (r : RecipeItem) :
    (ingredientTaken settings call d line r).flatMap TakenProduct.moves =
      (d.ingredientAsk line r).toList.flatMap (d.greedyMoves settings call) := by
  unfold ingredientTaken ingredientAsk tracks
  cases hfind : d.products.find? r.ingredientProductId with
  | none => rfl
  | some p =>
    have hid : p.id = r.ingredientProductId := Table.find?_key hfind
    cases hp : p.tracksInventory with
    | false => simp [Option.filter, hp]
    | true =>
      simp only [Option.filter, hp, if_true, Option.any_some, Option.toList_some,
        List.flatMap_singleton]
      rw [takenAs_moves, hid]

theorem lineTaken_moves (line : SaleLine) :
    (lineTaken settings call d line).flatMap TakenProduct.moves =
      (d.lineDemands settings line).flatMap (d.greedyMoves settings call) := by
  unfold lineTaken ownTaken recipeTaken lineDemands
  cases hp : d.productBySku line.sku with
  | none => rfl
  | some p =>
    simp only
    rw [List.flatMap_append, List.flatMap_append]
    congr 1
    · cases htracks : p.tracksInventory with
      | false => simp [Option.filter, htracks]
      | true =>
        simp only [Option.filter, htracks, if_true, List.flatMap_singleton]
        exact takenAs_moves _ _ _ _
    · induction getRecipeIngredients settings.recipes p.id with
      | nil => rfl
      | cons r rest ih =>
        rw [List.flatMap_cons, List.flatMap_append, ih, ingredientTaken_moves, List.filterMap_cons]
        cases d.ingredientAsk line r with
        | none => rfl
        | some ask => simp

theorem saleTaken_moves :
    (saleTaken settings call d sale).flatMap TakenProduct.moves =
      (sale.lines.flatMap (d.lineDemands settings)).flatMap (d.greedyMoves settings call) := by
  unfold saleTaken
  rw [List.flatMap_assoc, List.flatMap_assoc]
  congr 1
  funext line
  exact lineTaken_moves line

variable {plan : CheckoutPlan}

theorem planned_deduction (hskus : d.SkusDistinct)
    (hplan : planLines settings call d sale.lines = .ok plan) (hnone : plan.shortfalls = []) :
    ∀ x ∈ plan.deductions, ∃ item qty, d.productIdBySku x.sku = some item ∧
      d.hasLocationRows item = true ∧ x.delta = -qty ∧ 0 < qty ∧
        qty ≤ d.quantityAt item x.locationId := by
  obtain ⟨hdeductions, hlines, -⟩ := planLines_ok hplan hnone
  intro x hx
  rw [hdeductions] at hx
  obtain ⟨t, ht, hxt⟩ := List.mem_flatMap.mp hx
  obtain ⟨line, hline, htaken⟩ := List.mem_flatMap.mp ht
  obtain ⟨p, hp⟩ := hlines line hline
  obtain ⟨hsku, qty, hcovers⟩ := hp.taken hskus t htaken
  obtain ⟨a, ha, rfl⟩ := List.mem_map.mp hxt
  have hpos := hcovers.allocated.positive a ha
  have hheld := hcovers.allocated.available a ha
  have hrows : d.quantityAt t.item a.locationId ≠ 0 := by omega
  exact ⟨t.item, a.qty, hsku, hasLocationRows_of_quantity hrows, rfl, hpos, hheld⟩

theorem quantityAt_fits (hfits : ∀ row ∈ d.stockSummary.rows, FitsI64 row.qty)
    (item location : String) : FitsI64 (d.quantityAt item location) := by
  unfold quantityAt
  cases hrow : d.stockSummary.find? (item, location) with
  | none => exact ⟨by simp, by simp⟩
  | some row => exact hfits row ((Table.find?_eq_some_iff _ _ _).mp hrow).1

theorem deductForSale_isOk_iff (hskus : db.domain.SkusDistinct)
    (hfits : ∀ row ∈ db.domain.stockSummary.rows, FitsI64 row.qty)
    (hplan : planLines settings call db.domain sale.lines = .ok plan)
    (hnone : plan.shortfalls = []) :
    (∃ db', deductForSale settings draw call plan.deductions db = .ok db') ↔
      BearsGreedily settings call sale db := by
  have hplanned := planned_deduction hskus hplan hnone
  obtain ⟨hdeductions, hlines, -⟩ := planLines_ok hplan hnone
  have hmoves : db.domain.deductionMoves plan.deductions =
      (sale.lines.flatMap (db.domain.lineDemands settings)).flatMap
        (db.domain.greedyMoves settings call) := by
    rw [hdeductions, ← saleTaken_moves, saleTaken]
    apply deductionMoves_flatMap
    intro t ht
    obtain ⟨line, hline, htaken⟩ := List.mem_flatMap.mp ht
    obtain ⟨p, hp⟩ := hlines line hline
    exact (hp.taken hskus t htaken).1
  have hcheck : checkBatch settings.bindings ⟨some "sale", none, call.terminalId,
      some call.staffUserId⟩ db.domain plan.deductions = .ok () := by
    apply checkBatch_of_held
    intro x hx
    obtain ⟨item, qty, hsku, hrows, hdelta, hpos, hheld⟩ := hplanned x hx
    have hlevel := quantityAt_fits hfits item x.locationId
    refine ⟨item, hsku, ?_⟩
    rw [locationQty_of_rows hrows, hdelta]
    exact ⟨by omega, by have := hlevel.2; omega⟩
  have hbatch := @executeBatch_isOk_iff κ settings.bindings db.domain draw.now
    ⟨some "sale", none, call.terminalId, some call.staffUserId⟩ plan.deductions rfl (fun x hx => by
      obtain ⟨item, _, hsku, hrows, -⟩ := hplanned x hx
      exact ⟨item, hsku, hrows⟩)
  rw [hmoves] at hbatch
  unfold BearsGreedily
  rw [← hbatch]
  unfold deductForSale adjustStockBatch
  rw [hcheck]
  constructor
  · intro h
    obtain ⟨db', hdb'⟩ := h
    obtain ⟨d', hd', -⟩ := Except.of_map hdb'
    exact ⟨d', hd'⟩
  · intro h
    obtain ⟨d', hd'⟩ := h
    exact ⟨_, Except.map_ok_iff.mpr ⟨d', hd', rfl⟩⟩

theorem completeSale_eq_plan :
    completeSaleDeductionWithLocations settings draw call sale db =
      (checkoutPlan settings draw call sale db).bind (fun plan =>
        coreResult ((deductForSale settings draw call plan.deductions db).bind (fun db =>
          (insertSale draw "pending" (deductionJson draw.now (primaryOf call)
            plan.lineDeductions sale.lines) sale db).bind (settleSale draw "pending" sale)))) := by
  unfold completeSaleDeductionWithLocations checkoutPlan
  cases checkQuantities sale.lines with
  | error e => rfl
  | ok _ =>
    cases coreResult draw.posWritable with
    | error e => rfl
    | ok _ =>
      cases planLines settings call db.domain sale.lines with
      | error e => rfl
      | ok plan =>
        simp only [Except.bind]
        split
        · rfl
        · cases validatePaymentSplitsCoverTotal call.paymentSplits sale.totalMinor with
          | error e => rfl
          | ok _ => rfl

variable {x : CheckoutError}

theorem validatePayments_error {splits : List Int} {total : Int}
    (h : validatePaymentSplitsCoverTotal splits total = .error x) : ∃ e, x = .core e := by
  have hsum : ∀ (sum : Int) (amounts : List Int) (x : CheckoutError),
      sumSplits sum amounts = .error x → ∃ e, x = .core e := by
    intro sum amounts
    induction amounts generalizing sum with
    | nil =>
      intro x hx
      cases hx
    | cons amount rest ih =>
      intro x hx
      unfold sumSplits at hx
      split at hx
      · cases hx
        exact ⟨_, rfl⟩
      · split at hx
        · cases hx
          exact ⟨_, rfl⟩
        · exact ih _ x hx
  unfold validatePaymentSplitsCoverTotal at h
  cases hsplits : sumSplits 0 splits with
  | error y =>
    rw [hsplits] at h
    cases h
    exact hsum 0 splits _ hsplits
  | ok sum =>
    rw [hsplits] at h
    simp only [Except.bind] at h
    split at h
    · cases h
      exact ⟨_, rfl⟩
    · cases h

theorem checkQuantities_error {lines : List SaleLine}
    (h : checkQuantities lines = .error x) : ∃ e, x = .core e := by
  induction lines with
  | nil => cases h
  | cons line rest ih =>
    unfold checkQuantities at h
    split at h
    · cases h
      exact ⟨_, rfl⟩
    · exact ih h

/-- What a checkout decides: it is refused before the stock counts, lists shortfalls, is refused
for its payments, or comes to deduct. -/
inductive PlanCase (settings : CheckoutSettings) (draw : CheckoutDraw) (call : CheckoutCall)
    (sale : Sale) (db : SalesDb κ) : Prop
  | refused (e : CoreError) (hnot : ¬ Admitted settings draw sale db)
      (h : checkoutPlan settings draw call sale db = .error (.core e))
  | short (shortfalls : List Shortfall) (hne : shortfalls ≠ [])
      (hadmitted : Admitted settings draw sale db) (hnot : ¬ EachSupplied settings call sale db)
      (h : checkoutPlan settings draw call sale db = .error (.partialStock shortfalls))
  | unpaid (e : CoreError) (hadmitted : Admitted settings draw sale db)
      (heach : EachSupplied settings call sale db)
      (hnot : validatePaymentSplitsCoverTotal call.paymentSplits sale.totalMinor ≠ .ok ())
      (h : checkoutPlan settings draw call sale db = .error (.core e))
  | deducts (plan : CheckoutPlan) (hadmitted : Admitted settings draw sale db)
      (heach : EachSupplied settings call sale db)
      (hpaid : validatePaymentSplitsCoverTotal call.paymentSplits sale.totalMinor = .ok ())
      (hplan : planLines settings call db.domain sale.lines = .ok plan)
      (hnone : plan.shortfalls = [])
      (h : checkoutPlan settings draw call sale db = .ok plan)

theorem forall_lineDemands_iff (P : String × Int → Prop) (lines : List SaleLine) :
    (∀ ask ∈ lines.flatMap (d.lineDemands settings), P ask) ↔
      ∀ line ∈ lines, ∀ ask ∈ d.lineDemands settings line, P ask := by
  constructor
  · intro h line hline ask hask
    exact h ask (List.mem_flatMap.mpr ⟨line, hline, hask⟩)
  · intro h ask hask
    obtain ⟨line, hline, hline'⟩ := List.mem_flatMap.mp hask
    exact h line hline ask hline'

theorem eachSupplied_iff : EachSupplied settings call sale db ↔
    (∀ line ∈ sale.lines, (db.domain.productBySku line.sku).isSome = true) ∧
      ∀ ask ∈ sale.lines.flatMap (db.domain.lineDemands settings),
        ask.2 ≤ db.domain.routeStock ask.1 (routesOf call) := by
  rw [forall_lineDemands_iff]
  constructor
  · intro h
    exact ⟨fun line hline => (h line hline).1, fun line hline => (h line hline).2⟩
  · intro h line hline
    exact ⟨h.1 line hline, h.2 line hline⟩

theorem planCase : PlanCase settings draw call sale db := by
  cases hquantities : checkQuantities sale.lines with
  | error x =>
    obtain ⟨e, rfl⟩ := checkQuantities_error hquantities
    refine .refused e (fun h => ?_) (by rw [checkoutPlan, hquantities]; rfl)
    have hok := h.quantities
    rw [hquantities] at hok
    cases hok
  | ok _ =>
    have hqty := (checkQuantities_ok_iff _).mp hquantities
    cases hwritable : draw.posWritable with
    | error e =>
      refine .refused e (fun h => ?_) (by rw [checkoutPlan, hquantities, hwritable]; rfl)
      have hok := h.writable
      rw [hwritable] at hok
      cases hok
    | ok _ =>
      have hlines := @planned_lines κ settings call db.domain sale.lines hqty sale.lines_fit
      have hcut : checkoutPlan settings draw call sale db =
          (planLines settings call db.domain sale.lines).bind (fun plan =>
            if plan.shortfalls ≠ [] then .error (.partialStock plan.shortfalls)
            else (validatePaymentSplitsCoverTotal call.paymentSplits sale.totalMinor).map
              (fun _ => plan)) := by
        rw [checkoutPlan, hquantities, hwritable]
        rfl
      rcases hlines with ⟨hfits, plan, hplan, hshort⟩ | ⟨hnot, e, hplan⟩
      · have hadmitted : Admitted settings draw sale db :=
          ⟨hquantities, hwritable, (forall_lineDemands_iff _ _).mp hfits⟩
        rw [← eachSupplied_iff] at hshort
        rw [hplan] at hcut
        simp only [Except.bind] at hcut
        by_cases hnone : plan.shortfalls = []
        · have heach := hshort.mp hnone
          rw [if_neg (not_not.mpr hnone)] at hcut
          cases hpaid : validatePaymentSplitsCoverTotal call.paymentSplits sale.totalMinor with
          | error x =>
            obtain ⟨e, rfl⟩ := validatePayments_error hpaid
            refine .unpaid e hadmitted heach (fun h => ?_) (by rw [hcut, hpaid]; rfl)
            rw [hpaid] at h
            cases h
          | ok _ => exact .deducts plan hadmitted heach hpaid hplan hnone (by rw [hcut, hpaid]; rfl)
        · rw [if_pos hnone] at hcut
          exact .short plan.shortfalls hnone hadmitted (fun h => hnone (hshort.mpr h)) hcut
      · refine .refused e (fun h => hnot ((forall_lineDemands_iff _ _).mpr h.fits)) ?_
        rw [hcut, hplan]
        rfl

theorem act_of_error (h : checkoutPlan settings draw call sale db = .error x)
    (crm : Crm κ) : (SaleEvent.checkout settings draw call sale).act crm db = db := by
  have hcut : completeSaleDeductionWithLocations settings draw call sale db = .error x := by
    rw [completeSale_eq_plan, h]
    rfl
  simp only [SaleEvent.act, hcut]

theorem coreResult_ne_partialStock {α : Type} (r : Except CoreError α)
    (shortfalls : List Shortfall) : coreResult r ≠ .error (.partialStock shortfalls) := by
  intro h
  cases r with
  | ok a => cases h
  | error e => cases h

theorem no_list_of_plan
    (h : checkoutPlan settings draw call sale db = .ok plan) (shortfalls : List Shortfall) :
    completeSaleDeductionWithLocations settings draw call sale db ≠
      .error (.partialStock shortfalls) := by
  rw [completeSale_eq_plan, h]
  exact coreResult_ne_partialStock _ shortfalls

theorem refusedForStock_of_plan (h : checkoutPlan settings draw call sale db = .ok plan) :
    RefusedForStock settings draw call sale db ↔
      ¬ ∃ db', deductForSale settings draw call plan.deductions db = .ok db' := by
  constructor
  · rintro (⟨shortfalls, hshort⟩ | ⟨plan', e, hplan', he⟩) ⟨db', hdb'⟩
    · exact no_list_of_plan h shortfalls hshort
    · rw [h] at hplan'
      cases hplan'
      rw [hdb'] at he
      cases he
  · intro hnot
    cases hdeduct : deductForSale settings draw call plan.deductions db with
    | ok db' => exact absurd ⟨db', hdeduct⟩ hnot
    | error e => exact .inr ⟨plan, e, h, hdeduct⟩

theorem not_refusedForStock_of_core {e : CoreError}
    (h : checkoutPlan settings draw call sale db = .error (.core e)) :
    ¬ RefusedForStock settings draw call sale db := by
  rintro (⟨shortfalls, hshort⟩ | ⟨plan, e', hplan, -⟩)
  · rw [completeSale_eq_plan, h] at hshort
    cases hshort
  · rw [h] at hplan
    cases hplan

theorem servesJointly_of_no_list
    (h : ∀ shortfalls, completeSaleDeductionWithLocations settings draw call sale db ≠
      .error (.partialStock shortfalls)) : ServesJointly settings draw call sale db ↔
        JointlySupplied settings call sale db ∧ ¬ RefusedForStock settings draw call sale db := by
  constructor
  · intro hserves
    have hsupplied : JointlySupplied settings call sale db := by
      by_contra hnot
      obtain ⟨shortfalls, -, hlist, -⟩ := hserves.otherwise hnot
      exact h shortfalls hlist
    exact ⟨hsupplied, hserves.supplied hsupplied⟩
  · intro hboth
    exact ⟨fun _ => hboth.2, fun hnot => absurd hboth.1 hnot⟩

end Plan

theorem servesJointly_iff {κ : Type} (settings : CheckoutSettings) (draw : CheckoutDraw)
    (call : CheckoutCall) (sale : Sale) (db : SalesDb κ) (hskus : db.domain.SkusDistinct)
    (hfits : ∀ row ∈ db.domain.stockSummary.rows, FitsI64 row.qty) :
    ServesJointly settings draw call sale db ↔
      (JointlySupplied settings call sale db → Admitted settings draw sale db →
        validatePaymentSplitsCoverTotal call.paymentSplits sale.totalMinor = .ok () →
          BearsGreedily settings call sale db) ∧
      (¬ JointlySupplied settings call sale db →
        Admitted settings draw sale db ∧ ¬ EachSupplied settings call sale db) := by
  have hcut := @completeSale_eq_plan κ settings draw call sale db
  rcases @planCase κ settings draw call sale db with
    ⟨e, hnot, hplan⟩ | ⟨shortfalls, hne, hadmitted, hnot, hplan⟩ |
    ⟨e, hadmitted, heach, hnot, hplan⟩ | ⟨plan, hadmitted, heach, hpaid, hlines, hnone, hplan⟩
  · -- refused before the stock counts
    rw [servesJointly_of_no_list (by rw [hcut, hplan]; intro _ h; cases h)]
    constructor
    · intro h
      exact ⟨fun _ hadmitted => absurd hadmitted hnot, fun hno => absurd h.1 hno⟩
    · intro h
      have hsupplied : JointlySupplied settings call sale db := by
        by_contra hno
        exact hnot (h.2 hno).1
      exact ⟨hsupplied, not_refusedForStock_of_core hplan⟩
  · -- the shortfall list
    have hqty := (checkQuantities_ok_iff _).mp hadmitted.quantities
    have hno : ¬ JointlySupplied settings call sale db := fun h => hnot (h.each hqty)
    constructor
    · intro _
      exact ⟨fun h => absurd h hno, fun _ => ⟨hadmitted, hnot⟩⟩
    · intro _
      refine ⟨fun h => absurd h hno, fun _ => ⟨shortfalls, hne, ?_, act_of_error hplan⟩⟩
      rw [hcut, hplan]
      rfl
  · -- the payments do not cover the total
    rw [servesJointly_of_no_list (by rw [hcut, hplan]; intro _ h; cases h)]
    constructor
    · intro h
      exact ⟨fun _ _ hpaid => absurd hpaid hnot, fun hno => absurd h.1 hno⟩
    · intro h
      have hsupplied : JointlySupplied settings call sale db := by
        by_contra hno
        exact (h.2 hno).2 heach
      exact ⟨hsupplied, not_refusedForStock_of_core hplan⟩
  · -- it comes to deduct
    have hrefused := refusedForStock_of_plan hplan
    rw [deductForSale_isOk_iff hskus hfits hlines hnone] at hrefused
    rw [servesJointly_of_no_list (no_list_of_plan hplan), hrefused, not_not]
    constructor
    · intro h
      exact ⟨fun _ _ _ => h.2, fun hno => absurd h.1 hno⟩
    · intro h
      have hsupplied : JointlySupplied settings call sale db := by
        by_contra hno
        exact (h.2 hno).2 heach
      exact ⟨hsupplied, h.1 hsupplied hadmitted hpaid⟩

def twoPlaceTables : DomainTables Unit :=
  { shopTables with
    locations := ["front", "cellar"]
    stockSummary := (Table.empty.insertNew
      ⟨"prod-1", "front", 4, "2026-01-01T00:00:00.000Z"⟩).insertNew
      ⟨"prod-1", "cellar", 4, "2026-01-01T00:00:00.000Z"⟩ }

def twoPlaceDb : SalesDb Unit := { shopDb with domain := twoPlaceTables }

def twoPlaceCall : CheckoutCall := ⟨none, ["front", "cellar"], [5000], "user-1", none⟩

def beansLine (qty : Nat) : SaleLine := ⟨"line-1", "sale-1", "SKU-1", qty, 500, 1500, 0, none, 1⟩

theorem beans_fit {qtys : List Nat} (hqtys : ∀ qty ∈ qtys, qty ≤ 100) :
    ∀ line ∈ qtys.map beansLine, FitsI64 line.qty := by
  intro line hline
  obtain ⟨qty, hqty, rfl⟩ := List.mem_map.mp hline
  have hmost := hqtys qty hqty
  show -2 ^ 63 ≤ (qty : Int) ∧ (qty : Int) < 2 ^ 63
  omega

def beansSale (qtys : List Nat) (hqtys : ∀ qty ∈ qtys, qty ≤ 100) : Sale where
  id := "sale-1"
  totalMinor := 1500
  currency := "IDR"
  customerId := none
  userId := some "user-1"
  baseTotalMinor := none
  createdAt := "2026-01-02T00:00:00.000Z"
  lines := qtys.map beansLine
  lines_fit := beans_fit hqtys

theorem twoPlace_skus : twoPlaceDb.domain.SkusDistinct := by
  unfold SkusDistinct
  decide +kernel

theorem twoPlace_fits : ∀ row ∈ twoPlaceDb.domain.stockSummary.rows, FitsI64 row.qty := by
  have hrows : ∀ row ∈ twoPlaceDb.domain.stockSummary.rows, 0 ≤ row.qty ∧ row.qty ≤ 4 := by
    decide +kernel
  intro row hrow
  have hrow := hrows row hrow
  unfold FitsI64
  omega

theorem beans_jointlySupplied {qtys : List Nat} {hqtys : ∀ qty ∈ qtys, qty ≤ 100}
    (hknown : ∀ line ∈ (beansSale qtys hqtys).lines,
      (twoPlaceTables.productBySku line.sku).isSome)
    (hasks : ∀ ask ∈ (beansSale qtys hqtys).lines.flatMap (twoPlaceTables.lineDemands shopSettings),
      ask.1 = "prod-1")
    (htotal : twoPlaceTables.totalDemand shopSettings (beansSale qtys hqtys).lines "prod-1" ≤ 8) :
    JointlySupplied shopSettings twoPlaceCall (beansSale qtys hqtys) twoPlaceDb := by
  refine ⟨hknown, fun item => ?_⟩
  by_cases hitem : item = "prod-1"
  · subst hitem
    have hstock : twoPlaceTables.routeStock "prod-1" (routesOf twoPlaceCall).dedup = 8 := by
      decide +kernel
    show twoPlaceTables.totalDemand shopSettings _ "prod-1" ≤
      twoPlaceTables.routeStock "prod-1" (routesOf twoPlaceCall).dedup
    omega
  · have hzero : twoPlaceTables.totalDemand shopSettings (beansSale qtys hqtys).lines item = 0 := by
      apply List.sum_eq_zero
      intro x hx
      obtain ⟨ask, hask, rfl⟩ := List.mem_map.mp hx
      rw [hasks ask hask]
      exact if_neg (Ne.symm hitem)
    show twoPlaceTables.totalDemand shopSettings _ item ≤
      twoPlaceTables.routeStock item (routesOf twoPlaceCall).dedup
    rw [hzero]
    exact routeStock_nonneg _ _

theorem bears_pair {w : StockBindings} {d : DomainTables Unit} {m m' : StockMove}
    (h : d.Passes w none [] m) (h' : d.Passes w none [m] m') : d.Bears w none [m, m'] := by
  intro l x r hsplit
  match l with
  | [] =>
    obtain ⟨rfl, -⟩ := List.cons.inj hsplit
    exact h
  | [y] =>
    obtain ⟨rfl, hrest⟩ := List.cons.inj hsplit
    obtain ⟨rfl, -⟩ := List.cons.inj hrest
    exact h'
  | y :: z :: l =>
    have hlength := congrArg List.length hsplit
    simp at hlength

theorem passes_of_small {w : StockBindings} {d : DomainTables Unit} {made : List StockMove}
    {m : StockMove} (hplace : m.location ∈ d.locations)
    (hlevel : 0 ≤ d.levelAfter (made ++ [m]) m.item m.location ∧
      d.levelAfter (made ++ [m]) m.item m.location ≤ 8)
    (htotal : 0 ≤ d.totalAfter (made ++ [m]) m.item ∧ d.totalAfter (made ++ [m]) m.item ≤ 8) :
    d.Passes w none made m where
  place := hplace
  level := ⟨by omega, by omega⟩
  held := .inr hlevel.1
  total _ _ := ⟨⟨by omega, by omega⟩, .inr htotal.1⟩

/-- Six measures in one line are taken from both places. -/
theorem beans_served : ServesJointly shopSettings shopDraw twoPlaceCall
    (beansSale [6] (by decide)) twoPlaceDb := by
  have hsupplied : JointlySupplied shopSettings twoPlaceCall (beansSale [6] (by decide))
      twoPlaceDb :=
    beans_jointlySupplied (by decide +kernel) (by decide +kernel) (by decide +kernel)
  have hmoves : ((beansSale [6] (by decide)).lines.flatMap
      (twoPlaceDb.domain.lineDemands shopSettings)).flatMap
        (twoPlaceDb.domain.greedyMoves shopSettings twoPlaceCall) =
      [⟨"prod-1", "front", -4⟩, ⟨"prod-1", "cellar", -2⟩] := by decide +kernel
  refine (servesJointly_iff shopSettings shopDraw twoPlaceCall _ twoPlaceDb twoPlace_skus
    twoPlace_fits).mpr ⟨fun _ _ _ => ?_, fun hno => absurd hsupplied hno⟩
  unfold BearsGreedily
  rw [hmoves]
  exact bears_pair (passes_of_small (by decide +kernel) (by decide +kernel) (by decide +kernel))
    (passes_of_small (by decide +kernel) (by decide +kernel) (by decide +kernel))

/-- Three measures in each of two lines: both are allocated from the front, which holds four. -/
theorem beans_refused :
    JointlySupplied shopSettings twoPlaceCall (beansSale [3, 3] (by decide)) twoPlaceDb ∧
    RefusedForStock shopSettings shopDraw twoPlaceCall (beansSale [3, 3] (by decide)) twoPlaceDb ∧
    ¬ ServesJointly shopSettings shopDraw twoPlaceCall (beansSale [3, 3] (by decide))
      twoPlaceDb := by
  have hsupplied : JointlySupplied shopSettings twoPlaceCall (beansSale [3, 3] (by decide))
      twoPlaceDb :=
    beans_jointlySupplied (by decide +kernel) (by decide +kernel) (by decide +kernel)
  have hruns : ((checkoutPlan shopSettings shopDraw twoPlaceCall (beansSale [3, 3] (by decide))
      twoPlaceDb).toOption.any (fun plan => (deductForSale shopSettings shopDraw twoPlaceCall
        plan.deductions twoPlaceDb).toOption.isNone)) = true := by decide +kernel
  have hrefused : RefusedForStock shopSettings shopDraw twoPlaceCall
      (beansSale [3, 3] (by decide)) twoPlaceDb := by
    cases hplan : checkoutPlan shopSettings shopDraw twoPlaceCall
        (beansSale [3, 3] (by decide)) twoPlaceDb with
    | error e =>
      rw [hplan] at hruns
      cases hruns
    | ok plan =>
      rw [hplan] at hruns
      cases hdeduct : deductForSale shopSettings shopDraw twoPlaceCall plan.deductions
          twoPlaceDb with
      | error e => exact .inr ⟨plan, e, hplan, hdeduct⟩
      | ok db =>
        simp only [Except.toOption, Option.any_some, hdeduct] at hruns
        cases hruns
  exact ⟨hsupplied, hrefused, fun h => h.supplied hsupplied hrefused⟩

end OzPos
