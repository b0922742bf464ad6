import OzPos.Commerce.VoidRestores

namespace OzPos

variable {κ : Type}

open DomainTables

namespace DomainTables

theorem deltaOn_deductionsOf (d : DomainTables κ) (sku item : String)
    (allocations : List LocationAllocation) :
    deltaOn item (d.deductionMoves (deductionsOf sku allocations)) =
      if d.productIdBySku sku = some item then
        -(allocations.map LocationAllocation.qty).sum
      else 0 := by
  unfold deductionMoves deductionsOf
  cases hsku : d.productIdBySku sku with
  | none =>
    have hnone : ∀ location delta, d.skuMove sku location delta = none := by
      intro location delta
      rw [skuMove, hsku]
      rfl
    induction allocations with
    | nil => rfl
    | cons a rest ih =>
      rw [List.map_cons, List.filterMap_cons]
      simp only [hnone]
      exact ih
  | some id =>
    induction allocations with
    | nil => simp
    | cons a rest ih =>
      rw [List.map_cons, List.filterMap_cons]
      simp only [skuMove_of_sku hsku]
      rw [deltaOn_cons, ih, List.map_cons, List.sum_cons]
      by_cases hitem : id = item
      · subst hitem
        simp only [if_true]
        omega
      · have hother : item ≠ id := fun h => hitem h.symm
        simp [hitem, hother]

end DomainTables

variable (allocations : List LocationAllocation)

def bookedAllocations : List LocationAllocation :=
  allocations.filter (fun a => 0 < a.qty)

def allocated : Int :=
  (allocations.map LocationAllocation.qty).sum

def retryUnits (settings : CheckoutSettings) (d : DomainTables κ)
    (resolutions : List ResolvedShortfall) (item : String) (line : SaleLine) : Int :=
  match resolutionFor resolutions line.sku with
  | some r =>
    if d.productIdBySku line.sku = some item then allocated (bookedAllocations r.allocations) else 0
  | none => d.lineUnits settings item line

section Retry

variable {settings : CheckoutSettings} {call : CheckoutCall} {d : DomainTables κ}
  {primary : String} {resolutions : List ResolvedShortfall} {line : SaleLine}

theorem sumAllocations_ok {total sum : Int} {allocations : List LocationAllocation}
    (h : sumAllocations total allocations = .ok sum) : sum = total + allocated allocations := by
  induction allocations generalizing total with
  | nil =>
    cases h
    simp [allocated]
  | cons a rest ih =>
    unfold sumAllocations at h
    split at h
    · cases h
    · rename_i next hnext
      obtain ⟨rfl, _⟩ := (checkedI64_eq_some_iff _ _).mp hnext
      have hrest := ih h
      unfold allocated at hrest ⊢
      rw [List.map_cons, List.sum_cons]
      omega

theorem allocated_booked :
    allocated allocations ≤ allocated (bookedAllocations allocations) ∧
      (allocated allocations = allocated (bookedAllocations allocations) ↔
        ∀ a ∈ allocations, 0 ≤ a.qty) := by
  unfold allocated bookedAllocations
  induction allocations with
  | nil => simp
  | cons a rest ih =>
    obtain ⟨hle, hiff⟩ := ih
    rw [List.forall_mem_cons]
    by_cases hpos : 0 < a.qty
    · rw [List.filter_cons_of_pos (by simpa using hpos)]
      simp only [List.map_cons, List.sum_cons]
      rw [← hiff]
      omega
    · rw [List.filter_cons_of_neg (by simpa using hpos)]
      simp only [List.map_cons, List.sum_cons]
      rw [← hiff]
      omega

variable {ds : List StockDeduction}

theorem resolveAllocation_ok {sku : String} {a : LocationAllocation}
    (h : resolveAllocation settings call d sku a = .ok ds) :
    ds = deductionsOf sku (bookedAllocations [a]) ∧
      (0 < a.qty → (d.productIdBySku sku).isSome = true) := by
  unfold resolveAllocation at h
  split at h
  · rename_i hqty
    cases h
    have hbooked : bookedAllocations [a] = [] := List.filter_cons_of_neg (by simpa using hqty)
    rw [hbooked]
    exact ⟨rfl, fun hpos => by omega⟩
  · rename_i hqty
    split at h
    · cases h
    · rename_i item hitem
      simp only at h
      split at h
      · cases h
      · cases h
        have hbooked : bookedAllocations [a] = [a] := List.filter_cons_of_pos (by simp; omega)
        rw [hbooked, hitem]
        exact ⟨rfl, fun _ => rfl⟩

theorem resolveAllocations_ok {sku : String} {allocations : List LocationAllocation}
    (h : resolveAllocations settings call d sku allocations = .ok ds) :
    ds = deductionsOf sku (bookedAllocations allocations) ∧
      (0 < allocated (bookedAllocations allocations) → (d.productIdBySku sku).isSome = true) := by
  induction allocations generalizing ds with
  | nil =>
    cases h
    exact ⟨rfl, by simp [allocated, bookedAllocations]⟩
  | cons a rest ih =>
    obtain ⟨here, hhere, hmap⟩ := Except.of_bind h
    obtain ⟨later, hlater, rfl⟩ := Except.of_map hmap
    obtain ⟨rfl, hsome⟩ := resolveAllocation_ok hhere
    obtain ⟨rfl, hsomeLater⟩ := ih hlater
    have hsplit : bookedAllocations (a :: rest) = bookedAllocations [a] ++ bookedAllocations rest :=
      List.filter_append [a] rest
    refine ⟨by rw [hsplit, deductionsOf, deductionsOf, deductionsOf, List.map_append], ?_⟩
    intro hpos
    by_cases hqty : 0 < a.qty
    · exact hsome hqty
    · have hnone : bookedAllocations [a] = [] := List.filter_cons_of_neg (by simpa using hqty)
      rw [hsplit, hnone, List.nil_append] at hpos
      exact hsomeLater hpos

theorem primaryIngredient_ok (hskus : d.SkusDistinct) {r : RecipeItem}
    (h : primaryIngredient d primary line r = .ok ds) (item : String) :
    deltaOn item (d.deductionMoves ds) = -(if item = r.ingredientProductId ∧
      d.tracks item = true then line.qty * r.quantityRequired else 0) := by
  unfold primaryIngredient at h
  cases hfind : d.products.find? r.ingredientProductId with
  | none =>
    rw [hfind] at h
    cases h
    rw [if_neg]
    · rfl
    · rintro ⟨rfl, htracks⟩
      simp [tracks, hfind] at htracks
  | some p =>
    obtain ⟨hid, _, hsku⟩ := productBySku_of_find? hskus hfind
    have htracks : d.tracks r.ingredientProductId = p.tracksInventory := by
      rw [tracks, hfind]
      rfl
    simp only [hfind] at h
    split at h
    · rename_i hp
      split at h
      · cases h
      · rename_i required hrequired
        cases h
        obtain ⟨rfl, _⟩ := (checkedI64_eq_some_iff _ _).mp hrequired
        have hsum := d.deltaOn_deductionsOf p.sku item [⟨primary, line.qty * r.quantityRequired⟩]
        rw [hsku, hid] at hsum
        by_cases hitem : item = r.ingredientProductId
        · subst hitem
          simpa [deductionsOf, htracks, hp] using hsum
        · have hother : r.ingredientProductId ≠ item := fun h => hitem h.symm
          simpa [deductionsOf, hitem, hother] using hsum
    · rename_i hp
      cases h
      rw [if_neg]
      · rfl
      · rintro ⟨rfl, hitem⟩
        exact hp (htracks.symm.trans hitem)

theorem primaryIngredients_ok (hskus : d.SkusDistinct) {ingredients : List RecipeItem}
    (h : primaryIngredients d primary line ingredients = .ok ds) (item : String) :
    deltaOn item (d.deductionMoves ds) = -d.ingredientUnits line item ingredients := by
  induction ingredients generalizing ds with
  | nil =>
    cases h
    rfl
  | cons r rest ih =>
    obtain ⟨here, hhere, hmap⟩ := Except.of_bind h
    obtain ⟨later, hlater, rfl⟩ := Except.of_map hmap
    have hfirst := primaryIngredient_ok hskus hhere item
    have hrest := ih hlater
    rw [deductionMoves_append, deltaOn_append, hfirst, hrest]
    by_cases hitem : item = r.ingredientProductId
    · simp only [ingredientUnits, List.map_cons, List.sum_cons, hitem, true_and]
      omega
    · simp only [ingredientUnits, List.map_cons, List.sum_cons, hitem, false_and, if_false]
      omega

theorem primaryDeductions_ok (hskus : d.SkusDistinct)
    (h : primaryDeductions settings d primary line = .ok ds) (item : String) :
    deltaOn item (d.deductionMoves ds) = -d.lineUnits settings item line := by
  unfold primaryDeductions at h
  unfold lineUnits
  cases hp : d.productBySku line.sku with
  | none =>
    rw [hp] at h
    cases h
    rfl
  | some p =>
    simp only [hp] at h ⊢
    obtain ⟨ingredients, hingredients, rfl⟩ := Except.of_map h
    obtain ⟨_, _, hsku⟩ := productIdBySku_of_productBySku hp
    rw [deductionMoves_append, deltaOn_append, primaryIngredients_ok hskus hingredients]
    have hown := d.deltaOn_deductionsOf line.sku item [⟨primary, line.qty⟩]
    rw [hsku] at hown
    cases htracks : p.tracksInventory with
    | false => simp [deductionMoves]
    | true =>
      by_cases hitem : item = p.id
      · subst hitem
        simp [deductionsOf] at hown
        simp [hown]
        omega
      · have hother : p.id ≠ item := fun h => hitem h.symm
        simp [deductionsOf, hother] at hown
        simp [hown, hitem]

theorem lineDeductions_ok (hskus : d.SkusDistinct)
    (h : lineDeductions settings call d primary resolutions line = .ok ds) :
    (∀ item, deltaOn item (d.deductionMoves ds) =
        -retryUnits settings d resolutions item line) ∧
      ∀ r, resolutionFor resolutions line.sku = some r → allocated r.allocations = line.qty ∧
        (0 < line.qty → (d.productIdBySku line.sku).isSome = true) := by
  unfold lineDeductions at h
  unfold retryUnits
  cases hresolution : resolutionFor resolutions line.sku with
  | none =>
    simp only [hresolution] at h ⊢
    exact ⟨primaryDeductions_ok hskus h, by simp⟩
  | some r =>
    simp only [hresolution] at h ⊢
    obtain ⟨sum, hsum, h⟩ := Except.of_bind h
    have htotal := sumAllocations_ok hsum
    split at h
    · cases h
    · rename_i hqty
      obtain ⟨rfl, hsome⟩ := resolveAllocations_ok h
      refine ⟨?_, ?_⟩
      · intro item
        rw [deltaOn_deductionsOf, allocated]
        split <;> omega
      · intro other hother
        obtain rfl := Option.some.inj hother
        have hbooked := (allocated_booked r.allocations).1
        exact ⟨by omega, fun hpos => hsome (by omega)⟩

theorem linesDeductions_ok (hskus : d.SkusDistinct) {lines : List SaleLine}
    (h : linesDeductions settings call d primary resolutions lines = .ok ds) :
    (∀ item, deltaOn item (d.deductionMoves ds) =
        -(lines.map (retryUnits settings d resolutions item)).sum) ∧
      ∀ line ∈ lines, ∀ r, resolutionFor resolutions line.sku = some r →
        allocated r.allocations = line.qty ∧
          (0 < line.qty → (d.productIdBySku line.sku).isSome = true) := by
  induction lines generalizing ds with
  | nil =>
    cases h
    exact ⟨fun _ => rfl, by simp⟩
  | cons line rest ih =>
    obtain ⟨here, hhere, hmap⟩ := Except.of_bind h
    obtain ⟨later, hlater, rfl⟩ := Except.of_map hmap
    obtain ⟨hunits, hresolved⟩ := lineDeductions_ok hskus hhere
    obtain ⟨hunitsLater, hresolvedLater⟩ := ih hlater
    refine ⟨?_, List.forall_mem_cons.mpr ⟨hresolved, hresolvedLater⟩⟩
    intro item
    rw [deductionMoves_append, deltaOn_append, hunits, hunitsLater, List.map_cons, List.sum_cons]
    omega

end Retry

section Recorded

variable {stamp : String} {recorded : SaleLine → List LocationAllocation} {lines : List SaleLine}

theorem recordedLine_of (hids : (lines.map SaleLine.id).Nodup) {line : SaleLine}
    (hline : line ∈ lines) :
    recordedLine (lines.map (fun line => recordedLineJson stamp line (recorded line))) line.id =
      some (recordedLineJson stamp line (recorded line)) := by
  induction lines with
  | nil => cases hline
  | cons first rest ih =>
    rw [List.map_cons, List.nodup_cons] at hids
    have hid : (recordedLineJson stamp first (recorded first)).strAt? "sale_line_id" =
        some first.id := rfl
    unfold recordedLine at ih ⊢
    rw [List.map_cons]
    rcases List.mem_cons.mp hline with rfl | hrest
    · rw [List.find?_cons_of_pos (by simp [hid])]
    · have hne : first.id ≠ line.id := by
        intro heq
        rw [heq] at hids
        exact hids.1 (List.mem_map_of_mem hrest)
      rw [List.find?_cons_of_neg (by simp [hid, hne])]
      exact ih hids.2 hrest

theorem recordedQty_allocations {allocations : List LocationAllocation}
    (hfits : ∀ a ∈ allocations, FitsI64 a.qty) :
    recordedQty (allocations.map (allocationJson stamp)) = allocated allocations := by
  induction allocations with
  | nil => rfl
  | cons a rest ih =>
    obtain ⟨ha, hrest⟩ := List.forall_mem_cons.mp hfits
    have hqty : (allocationJson stamp a).i64At? "qty" = some a.qty := asI64?_int ha
    rw [List.map_cons, recordedQty_cons hqty, ih hrest, allocated, allocated, List.map_cons,
      List.sum_cons]

theorem recordedLines_doc :
    recordedLines (.json (deductionDoc (lines.map (fun line =>
      recordedLineJson stamp line (recorded line))))) =
      lines.map (fun line => recordedLineJson stamp line (recorded line)) := by
  rw [recordedLines, value?_recordedDoc]
  rfl

theorem recordedQty_of (hids : (lines.map SaleLine.id).Nodup) {line : SaleLine}
    (hline : line ∈ lines) (hfits : ∀ a ∈ recorded line, FitsI64 a.qty) :
    recordedQty (recordedDeductions (recordedLines (.json (deductionDoc
      (lines.map (fun line => recordedLineJson stamp line (recorded line)))))) line.id) =
      allocated (recorded line) := by
  have hentries : (recordedLineJson stamp line (recorded line)).get? "deductions" =
      some (.arr ((recorded line).map (allocationJson stamp))) := rfl
  rw [recordedLines_doc, recordedDeductions, recordedLine_of hids hline, Option.bind_some, hentries]
  exact recordedQty_allocations hfits

end Recorded

/-- A sale deducted as the main door does: each tracked line's quantity and its tracked
ingredients, with as many units recorded under each line as it sells. -/
structure DeductedAlike (settings : CheckoutSettings) (sale : Sale) (db db' : SalesDb κ) :
    Prop where
  deducted : ∀ item, db.domain.onHand item - db'.domain.onHand item =
    db.domain.soldUnits settings sale.lines item
  recorded : ∃ column, (db'.terms sale.id).deductionLocations = some column ∧
    ∀ line ∈ sale.lines,
      recordedQty (recordedDeductions (recordedLines column) line.id) = line.qty

section Doors

variable {settings : CheckoutSettings} {draw : CheckoutDraw} {call : CheckoutCall} {sale : Sale}
  {db db' : SalesDb κ} {result : CompleteSaleResult}

variable {line : SaleLine} {d : DomainTables κ} {p : Product}

theorem LinePlanned.units (h : LinePlanned settings call d line p) (item : String) :
    deltaOn item ((lineTaken settings call d line).flatMap TakenProduct.moves) =
      -d.lineUnits settings item line := by
  rw [lineTaken, List.flatMap_append, deltaOn_append, h.ingredients.units]
  simp only [lineUnits, h.product]
  cases htracks : p.tracksInventory with
  | false =>
    rw [h.none htracks]
    simp
  | true =>
    obtain ⟨allocations, htaken, hallocated⟩ := h.own htracks
    rw [htaken, List.flatMap_singleton, TakenProduct.deltaOn_moves, hallocated.total]
    simp only [and_true]
    split <;> omega

theorem onHand_of_settled {status : String} {doc : Json}
    (h : Settled draw status doc sale { db with domain := d } db') (item : String) :
    db'.domain.onHand item = d.onHand item := by
  obtain ⟨_, _, _, _, hdomain⟩ := h.domain
  rw [hdomain]
  rfl

theorem main_door_deducts (hskus : db.domain.SkusDistinct)
    (h : completeSaleDeductionWithLocations settings draw call sale db = .ok (db', result))
    (item : String) :
    db.domain.onHand item - db'.domain.onHand item =
      db.domain.soldUnits settings sale.lines item := by
  have hchecked := completeSaleDeductionWithLocations_ok h
  have hmoves := hchecked.moves hskus
  obtain ⟨d, hwrote, hsettled⟩ := hchecked.took
  rw [hmoves] at hwrote
  have hunits : deltaOn item ((saleTaken settings call db.domain sale).flatMap TakenProduct.moves) =
      -db.domain.soldUnits settings sale.lines item := by
    have hplanned := hchecked.planned
    unfold saleTaken DomainTables.soldUnits
    generalize sale.lines = lines at hplanned
    induction lines with
    | nil => rfl
    | cons line rest ih =>
      obtain ⟨⟨p, hp⟩, hrest⟩ := List.forall_mem_cons.mp hplanned
      rw [List.flatMap_cons, List.flatMap_append, deltaOn_append, hp.units, ih hrest,
        List.map_cons, List.sum_cons]
      omega
  rw [onHand_of_settled hsettled, hwrote.onHand, hunits]
  omega

variable {crm : Crm κ} {primary : String} {resolutions : List ResolvedShortfall}

structure Retried (settings : CheckoutSettings) (draw : CheckoutDraw) (primary : String)
    (resolutions : List ResolvedShortfall) (sale : Sale) (db db' : SalesDb κ) : Prop where
  units : ∀ line ∈ sale.lines, 0 < line.qty
  ids : (sale.lines.map SaleLine.id).Nodup
  deducted : ∀ item, db.domain.onHand item - db'.domain.onHand item =
    (sale.lines.map (retryUnits settings db.domain resolutions item)).sum
  resolved : ∀ line ∈ sale.lines, ∀ r, resolutionFor resolutions line.sku = some r →
    allocated r.allocations = line.qty ∧
      (0 < line.qty → (db.domain.productIdBySku line.sku).isSome = true)
  terms : (db'.terms sale.id).deductionLocations = some (.json (deductionDoc
    (sale.lines.map (fun line =>
      recordedLineJson draw.now line (resolvedAllocations primary resolutions line)))))
  took : ∃ call deductions d,
    linesDeductions settings call db.domain primary resolutions sale.lines = .ok deductions ∧
    Wrote settings.bindings db.domain (db.domain.deductionMoves deductions) d ∧
    Settled draw "completed" (deductionDoc (sale.lines.map (fun line =>
      recordedLineJson draw.now line (resolvedAllocations primary resolutions line)))) sale
      { db with domain := d } db'

theorem completeSaleWithResolvedShortfalls_ok (hskus : db.domain.SkusDistinct)
    (h : completeSaleWithResolvedShortfalls crm settings draw call primary resolutions sale db =
      .ok (db', result)) :
    Retried settings draw primary resolutions sale db db' := by
  obtain ⟨_, _, h⟩ := Except.of_bind h
  obtain ⟨_, _, h⟩ := Except.of_bind h
  obtain ⟨deductions, hdeductions, h⟩ := Except.of_bind h
  obtain ⟨_, _, h⟩ := Except.of_bind h
  obtain ⟨db₁, hdeduct, h⟩ := Except.of_bind (coreResult_ok h)
  obtain ⟨db₂, hinsert, hsettle⟩ := Except.of_bind h
  obtain ⟨hunits, hresolved⟩ := linesDeductions_ok hskus hdeductions
  obtain ⟨d, hwrote, rfl⟩ := deductForSale_ok hdeduct
  have hsettled := settleSale_ok hinsert hsettle
  refine ⟨hsettled.units, hsettled.ids, ?_, hresolved, ?_, call, deductions, d, hdeductions,
    hwrote, hsettled⟩
  · intro item
    rw [onHand_of_settled hsettled, hwrote.onHand, hunits]
    omega
  · rw [hsettled.terms, Function.update_self]

theorem resolvedAllocations_fit (hline : line ∈ sale.lines) :
    ∀ a ∈ resolvedAllocations primary resolutions line, FitsI64 a.qty := by
  intro a ha
  unfold resolvedAllocations at ha
  split at ha
  · rename_i r _
    exact r.allocations_fit a (List.mem_of_mem_filter ha)
  · rw [List.mem_singleton.mp ha]
    exact sale.lines_fit line hline

theorem Retried.recorded_iff (h : Retried settings draw primary resolutions sale db db')
    (hline : line ∈ sale.lines) :
    allocated (resolvedAllocations primary resolutions line) = line.qty ↔
      ∀ r, resolutionFor resolutions line.sku = some r → ∀ a ∈ r.allocations, 0 ≤ a.qty := by
  unfold resolvedAllocations
  cases hresolution : resolutionFor resolutions line.sku with
  | none => simp [allocated]
  | some r =>
    have hbooked := (allocated_booked r.allocations).2
    have hqty := (h.resolved line hline r hresolution).1
    simp only [Option.some.injEq, forall_eq']
    rw [← hbooked, hqty]
    exact eq_comm

theorem Retried.unitsOf (h : Retried settings draw primary resolutions sale db db')
    (hline : line ∈ sale.lines) {r : ResolvedShortfall}
    (hresolution : resolutionFor resolutions line.sku = some r)
    (hnonneg : ∀ a ∈ r.allocations, 0 ≤ a.qty) :
    ∃ p, db.domain.productBySku line.sku = some p ∧ ∀ item,
      retryUnits settings db.domain resolutions item line = if item = p.id then line.qty else 0 := by
  obtain ⟨hqty, hsome⟩ := h.resolved line hline r hresolution
  obtain ⟨item, hitem⟩ := Option.isSome_iff_exists.mp (hsome (h.units line hline))
  obtain ⟨p, hp, _⟩ := Option.map_eq_some_iff.mp hitem
  obtain ⟨_, _, hsku⟩ := productIdBySku_of_productBySku hp
  refine ⟨p, hp, ?_⟩
  intro item
  have hbooked := (allocated_booked r.allocations).2.mpr hnonneg
  simp only [retryUnits, hresolution, hsku, ← hbooked, hqty, Option.some.injEq, eq_comm]

theorem ingredientUnits_nonneg (hqty : 0 < line.qty)
    (item : String) (ingredients : List RecipeItem) :
    0 ≤ d.ingredientUnits line item ingredients ∧
      ∀ r ∈ ingredients, item = r.ingredientProductId → d.tracks item = true →
        0 < d.ingredientUnits line item ingredients := by
  unfold ingredientUnits
  induction ingredients with
  | nil => simp
  | cons r rest ih =>
    obtain ⟨hnonneg, hpos⟩ := ih
    have hunits : 0 < line.qty * r.quantityRequired := Int.mul_pos hqty r.required_pos
    simp only [List.map_cons, List.sum_cons]
    refine ⟨?_, List.forall_mem_cons.mpr ⟨?_, ?_⟩⟩
    · split <;> omega
    · intro hitem htracks
      rw [if_pos ⟨hitem, htracks⟩]
      omega
    · intro other hother hitem htracks
      have := hpos other hother hitem htracks
      split <;> omega

theorem ingredientUnits_of_untracked {item : String} {ingredients : List RecipeItem}
    (h : ∀ r ∈ ingredients, item = r.ingredientProductId → d.tracks item = false) :
    d.ingredientUnits line item ingredients = 0 := by
  unfold ingredientUnits
  induction ingredients with
  | nil => rfl
  | cons r rest ih =>
    obtain ⟨hr, hrest⟩ := List.forall_mem_cons.mp h
    rw [List.map_cons, List.sum_cons, ih hrest, if_neg, Int.add_zero]
    rintro ⟨hitem, htracks⟩
    rw [hr hitem] at htracks
    cases htracks

theorem lineUnits_of_product (hp : d.productBySku line.sku = some p) (item : String) :
    d.lineUnits settings item line =
      (if item = p.id ∧ p.tracksInventory = true then line.qty else 0) +
        d.ingredientUnits line item (getRecipeIngredients settings.recipes p.id) := by
  rw [lineUnits, hp]

theorem lineUnits_of_untracked {item : String}
    (h : d.tracks item = false) (line : SaleLine) : d.lineUnits settings item line = 0 := by
  cases hp : d.productBySku line.sku with
  | none => rw [lineUnits, hp]
  | some p =>
    obtain ⟨_, hfind, _⟩ := productIdBySku_of_productBySku hp
    rw [lineUnits_of_product hp, ingredientUnits_of_untracked (fun _ _ _ => h), if_neg]
    · rfl
    · rintro ⟨rfl, htracks⟩
      rw [tracks, hfind] at h
      simp [htracks] at h

theorem sum_map_sub {α : Type} (f g : α → Int) (l : List α) :
    (l.map (fun x => f x - g x)).sum = (l.map f).sum - (l.map g).sum := by
  induction l with
  | nil => rfl
  | cons x rest ih =>
    simp only [List.map_cons, List.sum_cons, ih]
    omega

theorem Retried.tracked (h : Retried settings draw primary resolutions sale db db')
    (hnonneg : ∀ line ∈ sale.lines, ∀ r, resolutionFor resolutions line.sku = some r →
      ∀ a ∈ r.allocations, 0 ≤ a.qty)
    (hsums : ∀ item, (sale.lines.map (retryUnits settings db.domain resolutions item)).sum =
      db.domain.soldUnits settings sale.lines item) (hline : line ∈ sale.lines) {r : ResolvedShortfall}
    (hresolution : resolutionFor resolutions line.sku = some r)
    (hp : db.domain.productBySku line.sku = some p) : p.tracksInventory = true := by
  cases htracks : p.tracksInventory with
  | true => rfl
  | false =>
    obtain ⟨_, hfind, _⟩ := productIdBySku_of_productBySku hp
    have huntracked : db.domain.tracks p.id = false := by
      rw [tracks, hfind]
      exact htracks
    have hsold : db.domain.soldUnits settings sale.lines p.id = 0 := by
      have hnone : db.domain.lineUnits settings p.id = fun _ => 0 :=
        funext (lineUnits_of_untracked huntracked)
      simp [DomainTables.soldUnits, hnone]
    have htaken : ∀ n ∈ sale.lines.map (retryUnits settings db.domain resolutions p.id), 0 ≤ n := by
      intro n hn
      obtain ⟨other, hother, rfl⟩ := List.mem_map.mp hn
      cases hres : resolutionFor resolutions other.sku with
      | none =>
        simp only [retryUnits, hres]
        rw [lineUnits_of_untracked huntracked]
      | some r' =>
        obtain ⟨q, _, hunits⟩ := h.unitsOf hother hres (hnonneg other hother r' hres)
        have := h.units other hother
        rw [hunits]
        split <;> omega
    have hbound := List.single_le_sum htaken _ (List.mem_map_of_mem hline)
    obtain ⟨q, hq, hunits⟩ := h.unitsOf hline hresolution (hnonneg line hline r hresolution)
    obtain rfl := Option.some.inj (hp.symm.trans hq)
    have hqty := h.units line hline
    rw [hsums, hsold, hunits, if_pos rfl] at hbound
    omega

/-- Where every resolved line is of a tracked product, the retry takes at most what the lines
ask; it leaves the ingredients of the resolved ones. -/
theorem Retried.shortOf (h : Retried settings draw primary resolutions sale db db')
    (hnonneg : ∀ line ∈ sale.lines, ∀ r, resolutionFor resolutions line.sku = some r →
      ∀ a ∈ r.allocations, 0 ≤ a.qty)
    (htracked : ∀ line ∈ sale.lines, ∀ r, resolutionFor resolutions line.sku = some r →
      ∀ p, db.domain.productBySku line.sku = some p → p.tracksInventory = true)
    (item : String) (hline : line ∈ sale.lines) :
    retryUnits settings db.domain resolutions item line ≤ db.domain.lineUnits settings item line ∧
      ∀ r, resolutionFor resolutions line.sku = some r → ∀ p,
        db.domain.productBySku line.sku = some p →
          db.domain.lineUnits settings item line -
              retryUnits settings db.domain resolutions item line =
            db.domain.ingredientUnits line item (getRecipeIngredients settings.recipes p.id) := by
  cases hresolution : resolutionFor resolutions line.sku with
  | none => simp [retryUnits, hresolution]
  | some r =>
    obtain ⟨p, hp, hunits⟩ := h.unitsOf hline hresolution (hnonneg line hline r hresolution)
    have htracks := htracked line hline r hresolution p hp
    have hingredients := (ingredientUnits_nonneg (d := db.domain) (h.units line hline) item
      (getRecipeIngredients settings.recipes p.id)).1
    rw [hunits, lineUnits_of_product hp]
    simp only [htracks, and_true]
    refine ⟨by omega, ?_⟩
    intro _ _ q hq
    obtain rfl := Option.some.inj (hp.symm.trans hq)
    omega

theorem Retried.deducted_iff (h : Retried settings draw primary resolutions sale db db')
    (hnonneg : ∀ line ∈ sale.lines, ∀ r, resolutionFor resolutions line.sku = some r →
      ∀ a ∈ r.allocations, 0 ≤ a.qty) :
    (∀ item, (sale.lines.map (retryUnits settings db.domain resolutions item)).sum =
        db.domain.soldUnits settings sale.lines item) ↔
      ∀ line ∈ sale.lines, ∀ r, resolutionFor resolutions line.sku = some r →
        PlainLine settings db.domain line := by
  constructor
  · intro hsums line hline r hresolution
    have htracked : ∀ line ∈ sale.lines, ∀ r, resolutionFor resolutions line.sku = some r →
        ∀ p, db.domain.productBySku line.sku = some p → p.tracksInventory = true :=
      fun _ hline _ hresolution _ hp => h.tracked hnonneg hsums hline hresolution hp
    obtain ⟨p, hp, _⟩ := h.unitsOf hline hresolution (hnonneg line hline r hresolution)
    refine ⟨p, hp, htracked line hline r hresolution p hp, ?_⟩
    intro r' hr'
    cases htracks : db.domain.tracks r'.ingredientProductId with
    | false => rfl
    | true =>
      have hshort : ∀ n ∈ sale.lines.map (fun line =>
          db.domain.lineUnits settings r'.ingredientProductId line -
            retryUnits settings db.domain resolutions r'.ingredientProductId line), 0 ≤ n := by
        intro n hn
        obtain ⟨other, hother, rfl⟩ := List.mem_map.mp hn
        have := (h.shortOf hnonneg htracked r'.ingredientProductId hother).1
        omega
      have hbound := List.single_le_sum hshort _ (List.mem_map_of_mem hline)
      have hmissing := (h.shortOf hnonneg htracked r'.ingredientProductId hline).2 r hresolution p hp
      have hpos := (ingredientUnits_nonneg (d := db.domain) (h.units line hline)
        r'.ingredientProductId (getRecipeIngredients settings.recipes p.id)).2 r' hr' rfl htracks
      have hsum := hsums r'.ingredientProductId
      rw [sum_map_sub, hsum, DomainTables.soldUnits] at hbound
      omega
  · intro hplain item
    unfold DomainTables.soldUnits
    congr 1
    apply List.map_congr_left
    intro line hline
    cases hresolution : resolutionFor resolutions line.sku with
    | none => simp only [retryUnits, hresolution]
    | some r =>
      obtain ⟨p, hp, hunits⟩ := h.unitsOf hline hresolution (hnonneg line hline r hresolution)
      obtain ⟨q, hq, htracks, hrecipe⟩ := hplain line hline r hresolution
      obtain rfl := Option.some.inj (hp.symm.trans hq)
      rw [hunits, lineUnits_of_product hp, ingredientUnits_of_untracked (by
        rintro r' hr' rfl
        exact hrecipe r' hr')]
      simp [htracks]

/-- The retry door deducts as the main door does just when each line answered by a resolution is
plain and no allocation of its resolution is negative. -/
theorem doors_agree_iff (hskus : db.domain.SkusDistinct)
    (hretry : completeSaleWithResolvedShortfalls crm settings draw call primary resolutions sale
      db = .ok (db', result)) :
    (∀ draw call db₁ completed,
      completeSaleDeductionWithLocations settings draw call sale db = .ok (db₁, completed) →
        ∀ item, db.domain.onHand item - db₁.domain.onHand item =
          db.domain.soldUnits settings sale.lines item) ∧
    (DeductedAlike settings sale db db' ↔
      ∀ line ∈ sale.lines, ∀ r, resolutionFor resolutions line.sku = some r →
        PlainLine settings db.domain line ∧ ∀ a ∈ r.allocations, 0 ≤ a.qty) := by
  have h := completeSaleWithResolvedShortfalls_ok hskus hretry
  refine ⟨fun draw call db₁ completed hmain => main_door_deducts hskus hmain, ?_⟩
  have hread : ∀ line ∈ sale.lines, recordedQty (recordedDeductions (recordedLines (.json
      (deductionDoc (sale.lines.map (fun line => recordedLineJson draw.now line
        (resolvedAllocations primary resolutions line)))))) line.id) =
      allocated (resolvedAllocations primary resolutions line) := fun line hline =>
    recordedQty_of h.ids hline (resolvedAllocations_fit hline)
  constructor
  · intro halike
    obtain ⟨column, hcolumn, hqtys⟩ := halike.recorded
    obtain rfl := Option.some.inj (h.terms.symm.trans hcolumn)
    have hnonneg : ∀ line ∈ sale.lines, ∀ r, resolutionFor resolutions line.sku = some r →
        ∀ a ∈ r.allocations, 0 ≤ a.qty := by
      intro line hline
      rw [← h.recorded_iff hline, ← hread line hline]
      exact hqtys line hline
    have hplain := (h.deducted_iff hnonneg).mp
      (fun item => (h.deducted item).symm.trans (halike.deducted item))
    exact fun line hline r hresolution =>
      ⟨hplain line hline r hresolution, hnonneg line hline r hresolution⟩
  · intro hlines
    have hnonneg : ∀ line ∈ sale.lines, ∀ r, resolutionFor resolutions line.sku = some r →
        ∀ a ∈ r.allocations, 0 ≤ a.qty :=
      fun line hline r hresolution => (hlines line hline r hresolution).2
    have hsums := (h.deducted_iff hnonneg).mpr
      (fun line hline r hresolution => (hlines line hline r hresolution).1)
    refine ⟨fun item => (h.deducted item).trans (hsums item), _, h.terms, ?_⟩
    intro line hline
    rw [hread line hline, h.recorded_iff hline]
    exact hnonneg line hline

end Doors

def shopCrm : Crm Unit := ⟨fun _ _ => (), fun _ _ _ _ _ => (), fun _ _ _ _ _ _ => ()⟩

def resolvedAt (sku : String) (qtys : List Int) (hqtys : ∀ qty ∈ qtys, -100 ≤ qty ∧ qty ≤ 100) :
    ResolvedShortfall where
  sku := sku
  allocations := qtys.map (fun qty => ⟨canonicalDefaultLocation, qty⟩)
  allocations_fit := by
    intro a ha
    obtain ⟨qty, hqty, rfl⟩ := List.mem_map.mp ha
    have := hqtys qty hqty
    unfold FitsI64
    simp only
    omega

def shopRetry (sale : Sale) (r : ResolvedShortfall) :
    Except CheckoutError (SalesDb Unit × CompleteSaleResult) :=
  completeSaleWithResolvedShortfalls shopCrm shopSettings shopDraw shopCall
    canonicalDefaultLocation [r] sale shopDb

theorem shop_beans_alike :
    ∃ db' result, shopRetry (shopSale "SKU-1" 2 two_fits)
        (resolvedAt "SKU-1" [2] (by decide)) = .ok (db', result) ∧
      DeductedAlike shopSettings (shopSale "SKU-1" 2 two_fits) shopDb db' := by
  have hok : (shopRetry (shopSale "SKU-1" 2 two_fits)
      (resolvedAt "SKU-1" [2] (by decide))).isOk = true := by decide +kernel
  cases hcall : shopRetry (shopSale "SKU-1" 2 two_fits)
      (resolvedAt "SKU-1" [2] (by decide)) with
  | error e => simp [hcall, Except.isOk, Except.toBool] at hok
  | ok answer =>
    obtain ⟨db', result⟩ := answer
    refine ⟨db', result, rfl, (doors_agree_iff shop_skus hcall).2.mpr ?_⟩
    refine List.forall_mem_singleton.mpr ?_
    intro r hr
    refine ⟨shop_beans_plain _ List.mem_cons_self, ?_⟩
    obtain rfl := Option.some.inj hr
    decide

def shopRead (db' : SalesDb Unit) : Int × Int :=
  (shopDb.domain.onHand "prod-1" - db'.domain.onHand "prod-1",
    recordedQty (recordedDeductions (((db'.terms "sale-1").deductionLocations.map
      recordedLines).getD []) "line-1"))

theorem shop_retry_ok (sale : Sale) (r : ResolvedShortfall) (read : Int × Int)
    (h : (shopRetry sale r).toOption.map (fun answer => shopRead answer.1) = some read) :
    ∃ db' result, shopRetry sale r = .ok (db', result) ∧ shopRead db' = read := by
  cases hcall : shopRetry sale r with
  | error e =>
    rw [hcall] at h
    cases h
  | ok answer =>
    rw [hcall] at h
    exact ⟨answer.1, answer.2, rfl, Option.some.inj h⟩

/-- The retry takes no beans for a coffee; and where two of the cashier's three are taken back, it
takes and records three for a line of one. -/
theorem shop_retry_differs :
    shopTables.SkusDistinct ∧
    (∃ db' result, shopRetry (shopSale "SKU-2" 1 one_fits)
        (resolvedAt "SKU-2" [1] (by decide)) = .ok (db', result) ∧ shopRead db' = (0, 1) ∧
      ¬ DeductedAlike shopSettings (shopSale "SKU-2" 1 one_fits) shopDb db') ∧
    ∃ db' result, shopRetry (shopSale "SKU-1" 1 one_fits)
        (resolvedAt "SKU-1" [3, -2] (by decide)) = .ok (db', result) ∧ shopRead db' = (3, 3) ∧
      ¬ DeductedAlike shopSettings (shopSale "SKU-1" 1 one_fits) shopDb db' := by
  refine ⟨shop_skus, ?_, ?_⟩
  · obtain ⟨db', result, hcall, hread⟩ := shop_retry_ok (shopSale "SKU-2" 1 one_fits)
      (resolvedAt "SKU-2" [1] (by decide)) (0, 1) (by decide +kernel)
    refine ⟨db', result, hcall, hread, ?_⟩
    intro halike
    have hsold : shopTables.soldUnits shopSettings (shopSale "SKU-2" 1 one_fits).lines "prod-1" =
        2 := by decide +kernel
    have htaken := (congrArg Prod.fst hread).symm.trans (halike.deducted "prod-1")
    exact absurd (htaken.trans hsold) (by decide)
  · obtain ⟨db', result, hcall, hread⟩ := shop_retry_ok (shopSale "SKU-1" 1 one_fits)
      (resolvedAt "SKU-1" [3, -2] (by decide)) (3, 3) (by decide +kernel)
    refine ⟨db', result, hcall, hread, ?_⟩
    intro halike
    have hsold : shopTables.soldUnits shopSettings (shopSale "SKU-1" 1 one_fits).lines "prod-1" =
        1 := by decide +kernel
    have htaken := (congrArg Prod.fst hread).symm.trans (halike.deducted "prod-1")
    exact absurd (htaken.trans hsold) (by decide)

end OzPos
