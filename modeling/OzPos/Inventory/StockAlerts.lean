import OzPos.Client.RebuildSafety

namespace OzPos

/-- A row of `stock_thresholds`; without a location it is product-wide. -/
structure StockThreshold where
  (id productId : String)
  locationId : Option String
  threshold : Int
  enabled : Bool
  deriving DecidableEq

/-- `stock_thresholds` under its primary key, `UNIQUE(product_id, location_id)` and the index on
the product-wide rows. -/
structure ThresholdTable where
  rows : List StockThreshold
  ids : (rows.map StockThreshold.id).Nodup
  scopes : (rows.map (fun t => (t.productId, t.locationId))).Nodup

inductive AlertStatus where
  | active
  | acknowledged
  | resolved
  deriving DecidableEq

structure StockAlertEvent where
  (thresholdId productId locationId : String)
  (currentQty threshold : Int)
  status : AlertStatus
  triggeredAt : String
  resolvedAt : Option String

def StockAlertEvent.unresolved (e : StockAlertEvent) : Bool :=
  e.status = .active || e.status = .acknowledged

namespace ThresholdTable

variable (t : ThresholdTable)

def lookup (item : String) (location : Option String) : Option StockThreshold :=
  t.rows.find? (fun row => row.productId = item && row.locationId = location && row.enabled)

def thresholdRow (item location : String) : Option StockThreshold :=
  (t.lookup item (some location)).or (t.lookup item none)

end ThresholdTable

variable (threshold : StockThreshold) (item location now : String) (newQty : Int) (alerts : List StockAlertEvent)

def raiseAlert : List StockAlertEvent :=
  if alerts.any (fun e => e.thresholdId = threshold.id && e.unresolved) then alerts
  else
    alerts ++ [⟨threshold.id, item, location, newQty, threshold.threshold, .active, now, none⟩]

def resolveAlerts (thresholdId now : String) (alerts : List StockAlertEvent) :
    List StockAlertEvent :=
  alerts.map (fun e =>
    if e.thresholdId = thresholdId && e.unresolved then
      { e with status := .resolved, resolvedAt := some now }
    else e)

def checkStockThresholdAndAlert (thresholds : ThresholdTable) (item location now : String)
    (newQty : Int) (alerts : List StockAlertEvent) : List StockAlertEvent :=
  match thresholds.thresholdRow item location with
  | none => alerts
  | some threshold =>
    if newQty < threshold.threshold then raiseAlert threshold item location now newQty alerts
    else resolveAlerts threshold.id now alerts

structure AlertShop (κ : Type) where
  domain : DomainTables κ
  thresholds : ThresholdTable
  alerts : List StockAlertEvent

variable {κ : Type}

/-- A call of `adjust_stock_at_location_with_reason`: the stock, then the alerts. -/
def alertingAdjustments (w : StockBindings) :
    Machine (AlertShop κ) AdjustCall (Except CoreError Int) where
  step s call :=
    match s.domain.adjustStockAtLocationFor w call.now call.sku call.delta call.location
        call.ctx with
    | .error e => (s, .error e)
    | .ok (qty, d) =>
      match s.domain.productIdBySku call.sku with
      | none => (s, .error (.notFound "product" call.sku))
      | some item =>
        ({ s with
            domain := d
            alerts := checkStockThresholdAndAlert s.thresholds item call.location call.now qty
              s.alerts }, .ok qty)

def openAlerts (id : String) (alerts : List StockAlertEvent) : List StockAlertEvent :=
  alerts.filter (fun e => e.thresholdId = id && e.unresolved)

theorem openAlerts_raise :
    openAlerts threshold.id (raiseAlert threshold item location now newQty alerts) =
      if openAlerts threshold.id alerts = [] then
        [⟨threshold.id, item, location, newQty, threshold.threshold, .active, now, none⟩]
      else openAlerts threshold.id alerts := by
  unfold raiseAlert
  by_cases h : openAlerts threshold.id alerts = []
  · have hnone : alerts.any (fun e => e.thresholdId = threshold.id && e.unresolved) = false := by
      rw [List.any_eq_false]
      exact List.filter_eq_nil_iff.mp h
    rw [if_neg (by simp [hnone]), if_pos h, openAlerts, List.filter_append]
    have hempty : alerts.filter (fun e => e.thresholdId = threshold.id && e.unresolved) = [] := h
    rw [hempty]
    simp [StockAlertEvent.unresolved]
  · have hsome : alerts.any (fun e => e.thresholdId = threshold.id && e.unresolved) = true := by
      by_contra hnot
      rw [Bool.not_eq_true, List.any_eq_false] at hnot
      exact h (List.filter_eq_nil_iff.mpr hnot)
    rw [if_pos hsome, if_neg h]

theorem openAlerts_raise_other {threshold : StockThreshold} {id : String} (hne : threshold.id ≠ id)
    (item location now : String) (newQty : Int) (alerts : List StockAlertEvent) :
    openAlerts id (raiseAlert threshold item location now newQty alerts) =
      openAlerts id alerts := by
  unfold raiseAlert
  split
  · rfl
  · simp [openAlerts, List.filter_append, hne]

theorem openAlerts_resolve (id now : String) (alerts : List StockAlertEvent) :
    openAlerts id (resolveAlerts id now alerts) = [] := by
  unfold openAlerts resolveAlerts
  rw [List.filter_eq_nil_iff]
  intro e he
  obtain ⟨old, -, rfl⟩ := List.mem_map.mp he
  split
  · simp [StockAlertEvent.unresolved]
  · assumption

theorem openAlerts_resolve_other {id other : String} (hne : id ≠ other) (now : String)
    (alerts : List StockAlertEvent) :
    openAlerts other (resolveAlerts id now alerts) = openAlerts other alerts := by
  unfold openAlerts resolveAlerts
  induction alerts with
  | nil => rfl
  | cons e alerts ih =>
    rw [List.map_cons, List.filter_cons, List.filter_cons, ih]
    by_cases h : (e.thresholdId = id && e.unresolved) = true
    · have hid : e.thresholdId = id := by
        rw [Bool.and_eq_true, decide_eq_true_eq] at h
        exact h.1
      rw [if_pos h]
      simp [hid, hne]
    · rw [if_neg h]

namespace ThresholdTable

variable (t : ThresholdTable)

theorem lookup_eq_some_iff (item : String) (location : Option String) (row : StockThreshold) :
    t.lookup item location = some row ↔
      row ∈ t.rows ∧ row.productId = item ∧ row.locationId = location ∧ row.enabled = true := by
  constructor
  · intro h
    have hmem := List.mem_of_find?_eq_some h
    have hrow := List.find?_some h
    simp only [Bool.and_eq_true, decide_eq_true_eq, and_assoc] at hrow
    exact ⟨hmem, hrow⟩
  · rintro ⟨hmem, hitem, hlocation, henabled⟩
    cases hfind : t.lookup item location with
    | none =>
      have hnone := List.find?_eq_none.mp hfind row hmem
      simp [hitem, hlocation, henabled] at hnone
    | some other =>
      have hother := List.find?_some hfind
      simp only [Bool.and_eq_true, decide_eq_true_eq, and_assoc] at hother
      have hsame := List.inj_on_of_nodup_map t.scopes (List.mem_of_find?_eq_some hfind) hmem
        (by rw [hother.1, hother.2.1, hitem, hlocation])
      rw [hsame]

theorem row_of_id {a b : StockThreshold} (ha : a ∈ t.rows) (hb : b ∈ t.rows) (h : a.id = b.id) :
    a = b :=
  List.inj_on_of_nodup_map t.ids ha hb h

end ThresholdTable

/-- A check raises the alert of the threshold it consults when the quantity is below it, resolves
it otherwise, and touches no other threshold's. -/
theorem openAlerts_check (thresholds : ThresholdTable) (item location now : String) (newQty : Int)
    (alerts : List StockAlertEvent) {t : StockThreshold} (ht : t ∈ thresholds.rows)
    (hone : (openAlerts t.id alerts).length ≤ 1) :
    (openAlerts t.id
        (checkStockThresholdAndAlert thresholds item location now newQty alerts)).length ≤ 1 ∧
      (openAlerts t.id
          (checkStockThresholdAndAlert thresholds item location now newQty alerts) ≠ [] ↔
        if thresholds.thresholdRow item location = some t then newQty < t.threshold
        else openAlerts t.id alerts ≠ []) := by
  unfold checkStockThresholdAndAlert
  cases hrow : thresholds.thresholdRow item location with
  | none => exact ⟨hone, by simp⟩
  | some consulted =>
    have hin : consulted ∈ thresholds.rows := by
      rcases Option.or_eq_some_iff.mp hrow with h | ⟨-, h⟩
      · exact ((thresholds.lookup_eq_some_iff _ _ _).mp h).1
      · exact ((thresholds.lookup_eq_some_iff _ _ _).mp h).1
    by_cases hsame : consulted = t
    · subst hsame
      by_cases hlow : newQty < consulted.threshold
      · simp only [hlow, if_true, openAlerts_raise]
        by_cases hempty : openAlerts consulted.id alerts = []
        · simp [hempty]
        · simp [hempty, hone]
      · simp [hlow, openAlerts_resolve]
    · have hid : consulted.id ≠ t.id := fun heq => hsame (thresholds.row_of_id hin ht heq)
      by_cases hlow : newQty < consulted.threshold
      · simp [hlow, openAlerts_raise_other hid, hone, hsame]
      · simp [hlow, openAlerts_resolve_other hid, hone, hsame]

/-- How the stock of a product is read against a product-wide threshold: all of it together, or
at any of the locations without a threshold of their own. -/
inductive WideStock where
  | total
  | anywhere

namespace AlertShop

variable (s : AlertShop κ)

def ownThreshold (item location : String) : Option StockThreshold :=
  s.thresholds.lookup item (some location)

/-- Below the threshold as of the last adjustment, which the ledger shows. -/
def wideBelow (item : String) (n : Int) : WideStock → Prop
  | .total => (∃ m ∈ s.domain.stockMovements, m.itemId = item) ∧ s.domain.onHand item < n
  | .anywhere => ∃ m ∈ s.domain.stockMovements, m.itemId = item ∧
      s.ownThreshold item m.locationId = none ∧ s.domain.quantityAt item m.locationId < n

def scopeBelow (reading : WideStock) (t : StockThreshold) : Prop :=
  match t.locationId with
  | some location =>
    (∃ m ∈ s.domain.stockMovements, m.itemId = t.productId ∧ m.locationId = location) ∧
      s.domain.quantityAt t.productId location < t.threshold
  | none => s.wideBelow t.productId t.threshold reading

/-- Every threshold has at most one unresolved alert, and an enabled one has it exactly when the
stock in its scope is below it. -/
structure AlertsMirror (reading : WideStock) : Prop where
  single : ∀ t ∈ s.thresholds.rows, (openAlerts t.id s.alerts).length ≤ 1
  mirrors : ∀ t ∈ s.thresholds.rows, t.enabled = true →
    (openAlerts t.id s.alerts ≠ [] ↔ s.scopeBelow reading t)

/-- What a product-wide threshold will find, on the stock before the move. -/
def wideBelowAfter (m : StockMove) (n : Int) : WideStock → Prop
  | .total => s.domain.onHand m.item + m.delta < n
  | .anywhere =>
    s.ownThreshold m.item m.location = none ∧
        s.domain.legacyAwareLocationQty m.item m.location + m.delta < n ∨
      ∃ x ∈ s.domain.stockMovements, x.itemId = m.item ∧ x.locationId ≠ m.location ∧
        s.ownThreshold m.item x.locationId = none ∧
        s.domain.quantityAt m.item x.locationId < n

end AlertShop

/-- An adjustment that goes through leaves a product-wide alert as its threshold's stock has it:
at a location without a threshold of its own, the location's new level is below the product-wide
threshold exactly when the product's stock then is; at another, the alert that stands, if any, is
still due exactly when it stands. -/
def KeepsWideAlert (reading : WideStock) (w : StockBindings) (s : AlertShop κ)
    (call : AdjustCall) : Prop :=
  (s.domain.adjustStockAtLocationFor w call.now call.sku call.delta call.location
      call.ctx).isOk = true →
    ∀ item ∈ s.domain.productIdBySku call.sku, ∀ t ∈ s.thresholds.lookup item none,
      ((if s.ownThreshold item call.location = none then
          s.domain.legacyAwareLocationQty item call.location + call.delta < t.threshold
        else openAlerts t.id s.alerts ≠ []) ↔
        s.wideBelowAfter ⟨item, call.location, call.delta⟩ t.threshold reading)

section Written

variable {w : StockBindings} {d d' : DomainTables κ} {m : StockMove}

theorem adjusted_level {now sku : String} {delta qty : Int} {location item : String}
    {ctx : MovementContext} (hsku : d.productIdBySku sku = some item)
    (h : d.adjustStockAtLocationFor w now sku delta location ctx = .ok (qty, d')) :
    qty = d.legacyAwareLocationQty item location + delta := by
  unfold DomainTables.adjustStockAtLocationFor at h
  simp only [hsku] at h
  cases hchecked : DomainTables.checkedLevel (w.allowsNegative ctx.terminalId location) sku
      location (d.legacyAwareLocationQty item location) delta with
  | error e => simp [hchecked] at h
  | ok stamped =>
    simp only [hchecked] at h
    split at h
    · cases h
    · split at h
      · cases h
      · split at h
        · cases h
        · split at h
          · cases h
          · cases h
            exact (DomainTables.checkedLevel_eq_ok hchecked).1

theorem quantity_written_other (hw : DomainTables.Written w d d' m) {item location : String}
    (hne : ¬(item = m.item ∧ location = m.location)) :
    d'.quantityAt item location = d.quantityAt item location := by
  rw [hw.quantity, if_neg hne]

end Written

theorem thresholdRow_eq_iff (thresholds : ThresholdTable) (item location : String)
    {t : StockThreshold} (ht : t ∈ thresholds.rows) (henabled : t.enabled = true) :
    thresholds.thresholdRow item location = some t ↔ t.productId = item ∧
      (t.locationId = some location ∨
        t.locationId = none ∧ thresholds.lookup item (some location) = none) := by
  unfold ThresholdTable.thresholdRow
  rw [Option.or_eq_some_iff, thresholds.lookup_eq_some_iff, thresholds.lookup_eq_some_iff]
  constructor
  · rintro (⟨-, hitem, hlocation, -⟩ | ⟨hown, -, hitem, hlocation, -⟩)
    · exact ⟨hitem, .inl hlocation⟩
    · exact ⟨hitem, .inr ⟨hlocation, hown⟩⟩
  · rintro ⟨hitem, hlocation | ⟨hlocation, hown⟩⟩
    · exact .inl ⟨ht, hitem, hlocation, henabled⟩
    · exact .inr ⟨hown, ht, hitem, hlocation, henabled⟩

theorem scopeBelow_written {w : StockBindings} {s next : AlertShop κ} {m : StockMove}
    (hthresholds : next.thresholds = s.thresholds)
    (hw : DomainTables.Written w s.domain next.domain m) (reading : WideStock)
    (t : StockThreshold) :
    next.scopeBelow reading t ↔
      if t.productId = m.item then
        match t.locationId with
        | none => s.wideBelowAfter m t.threshold reading
        | some location =>
          if location = m.location then
            s.domain.legacyAwareLocationQty m.item m.location + m.delta < t.threshold
          else s.scopeBelow reading t
      else s.scopeBelow reading t := by
  obtain ⟨row, -, hitem, hlocation, -, hledger⟩ := hw.ledger
  have hown : next.ownThreshold = s.ownThreshold := by
    unfold AlertShop.ownThreshold
    rw [hthresholds]
  have hledgerAt : ∀ p : StockMovement → Prop, (∃ x ∈ next.domain.stockMovements, p x) ↔
      (∃ x ∈ s.domain.stockMovements, p x) ∨ p row := by
    intro p
    rw [hledger]
    simp [or_and_right, exists_or]
  cases htl : t.locationId with
  | some location =>
    simp only [AlertShop.scopeBelow, htl, hledgerAt, hitem, hlocation]
    by_cases hproduct : t.productId = m.item
    · by_cases hplace : location = m.location
      · subst hplace
        simp [hproduct, hw.quantity]
      · simp [hproduct, hplace, Ne.symm hplace,
          quantity_written_other hw (fun hboth => hplace hboth.2)]
    · simp [hproduct, Ne.symm hproduct,
        quantity_written_other hw (fun hboth => hproduct hboth.1)]
  | none =>
    simp only [AlertShop.scopeBelow, htl]
    cases reading with
    | total =>
      simp only [AlertShop.wideBelow, AlertShop.wideBelowAfter, hledgerAt, hitem,
        hw.onHand]
      by_cases hproduct : t.productId = m.item
      · simp [hproduct]
      · simp [hproduct, Ne.symm hproduct]
    | anywhere =>
      simp only [AlertShop.wideBelow, AlertShop.wideBelowAfter, hledgerAt, hitem, hlocation, hown]
      by_cases hproduct : t.productId = m.item
      · have hhere : next.domain.quantityAt m.item m.location =
            s.domain.legacyAwareLocationQty m.item m.location + m.delta := by
          rw [hw.quantity, if_pos ⟨rfl, rfl⟩]
        have hthere : ∀ place, place ≠ m.location →
            next.domain.quantityAt m.item place = s.domain.quantityAt m.item place :=
          fun place hne => quantity_written_other hw (fun hboth => hne hboth.2)
        rw [hproduct, if_pos rfl]
        constructor
        · rintro (⟨x, hx, hxitem, hxown, hxlow⟩ | ⟨-, hxown, hxlow⟩)
          · by_cases hplace : x.locationId = m.location
            · rw [hplace] at hxown hxlow
              rw [hhere] at hxlow
              exact .inl ⟨hxown, hxlow⟩
            · rw [hthere _ hplace] at hxlow
              exact .inr ⟨x, hx, hxitem, hplace, hxown, hxlow⟩
          · rw [hhere] at hxlow
            exact .inl ⟨hxown, hxlow⟩
        · rintro (⟨hxown, hxlow⟩ | ⟨x, hx, hxitem, hplace, hxown, hxlow⟩)
          · exact .inr ⟨rfl, hxown, by rwa [hhere]⟩
          · exact .inl ⟨x, hx, hxitem, hxown, by rwa [hthere _ hplace]⟩
      · have hquantity : ∀ place, next.domain.quantityAt t.productId place =
            s.domain.quantityAt t.productId place :=
          fun place => quantity_written_other hw (fun hboth => hproduct hboth.1)
        simp [hproduct, Ne.symm hproduct, hquantity]

variable (reading : WideStock)

theorem alerts_step_iff (w : StockBindings) (s : AlertShop κ)
    (call : AdjustCall) (hs : s.AlertsMirror reading) :
    ((alertingAdjustments w).step s call).1.AlertsMirror reading ↔
      KeepsWideAlert reading w s call := by
  unfold KeepsWideAlert
  cases hok : s.domain.adjustStockAtLocationFor w call.now call.sku call.delta call.location
      call.ctx with
  | error e =>
    simp [alertingAdjustments, hok, Except.isOk, Except.toBool, hs]
  | ok written =>
    obtain ⟨qty, d⟩ := written
    obtain ⟨item, hsku, hw⟩ := DomainTables.adjustStockAtLocationFor_ok hok
    have hqty := adjusted_level hsku hok
    have hnext : ((alertingAdjustments w).step s call).1 = { s with
        domain := d
        alerts := checkStockThresholdAndAlert s.thresholds item call.location call.now qty
          s.alerts } := by simp [alertingAdjustments, hok, hsku]
    rw [hnext]
    generalize hshop : ({ s with
        domain := d
        alerts := checkStockThresholdAndAlert s.thresholds item call.location call.now qty
          s.alerts } : AlertShop κ) = next
    have hthresholds : next.thresholds = s.thresholds := by rw [← hshop]
    have hdomain : next.domain = d := by rw [← hshop]
    have hscope := scopeBelow_written hthresholds (hdomain.symm ▸ hw) reading
    have hopen : ∀ t ∈ s.thresholds.rows, (openAlerts t.id next.alerts).length ≤ 1 ∧
        (openAlerts t.id next.alerts ≠ [] ↔
          if s.thresholds.thresholdRow item call.location = some t then qty < t.threshold
          else openAlerts t.id s.alerts ≠ []) := by
      intro t ht
      rw [← hshop]
      exact openAlerts_check s.thresholds item call.location call.now qty s.alerts ht
        (hs.single t ht)
    -- at the product-wide threshold the two sides are the condition
    have hwide : ∀ t ∈ s.thresholds.lookup item none,
        ((openAlerts t.id next.alerts ≠ [] ↔ next.scopeBelow reading t) ↔
          ((if s.ownThreshold item call.location = none then
              s.domain.legacyAwareLocationQty item call.location + call.delta < t.threshold
            else openAlerts t.id s.alerts ≠ []) ↔
            s.wideBelowAfter ⟨item, call.location, call.delta⟩ t.threshold reading)) := by
      intro t hlookup
      obtain ⟨ht, hproduct, hlocation, henabled⟩ :=
        (s.thresholds.lookup_eq_some_iff item none t).mp hlookup
      have hconsulted := thresholdRow_eq_iff s.thresholds item call.location ht henabled
      simp only [hproduct, hlocation, true_and, false_or, reduceCtorEq] at hconsulted
      rw [(hopen t ht).2, hscope t, ← hqty]
      simp only [hconsulted, hproduct, hlocation, if_true]
      rfl
    constructor
    · intro hmirror _ item' hitem' t hlookup
      rw [hsku, Option.mem_some_iff] at hitem'
      subst hitem'
      obtain ⟨ht, -, -, henabled⟩ := (s.thresholds.lookup_eq_some_iff item none t).mp hlookup
      exact (hwide t hlookup).mp (hmirror.mirrors t (hthresholds ▸ ht) henabled)
    · intro hkeeps
      refine ⟨fun t ht => (hopen t (hthresholds ▸ ht)).1, ?_⟩
      intro t ht henabled
      rw [hthresholds] at ht
      have hconsulted := thresholdRow_eq_iff s.thresholds item call.location ht henabled
      have hbefore := hs.mirrors t ht henabled
      by_cases hproduct : t.productId = item
      · cases hlocation : t.locationId with
        | none =>
          have hlookup := (s.thresholds.lookup_eq_some_iff item none t).mpr
            ⟨ht, hproduct, hlocation, henabled⟩
          exact (hwide t hlookup).mpr (hkeeps rfl item hsku t hlookup)
        | some location =>
          rw [(hopen t ht).2, hscope t]
          simp only [hproduct, hlocation, true_and, if_true] at hconsulted ⊢
          by_cases hplace : location = call.location
          · simp [hconsulted, hplace, hqty]
          · have hnot : ¬s.thresholds.thresholdRow item call.location = some t := by
              rw [hconsulted]
              simp [hplace]
            rw [if_neg hnot, if_neg hplace]
            exact hbefore
      · have hnot : ¬s.thresholds.thresholdRow item call.location = some t :=
          fun heq => hproduct (hconsulted.mp heq).1
        rw [(hopen t ht).2, hscope t, if_neg hnot, if_neg hproduct]
        exact hbefore

/-- In every state reached an enabled threshold has one unresolved alert exactly when the stock in
its scope is below it, just when it is so at first and every adjustment leaves the product-wide
alert of its product right. -/
theorem alerts_mirror_iff (w : StockBindings) (s : AlertShop κ) (calls : List AdjustCall) :
    (∀ l r, calls = l ++ r → ((alertingAdjustments w).run s l).AlertsMirror reading) ↔
      s.AlertsMirror reading ∧
        (alertingAdjustments w).Along (KeepsWideAlert reading w) s calls := by
  rw [Machine.reached_iff_along (alertingAdjustments w) (fun s => s.AlertsMirror reading) s calls]
  refine and_congr_right (fun hs => ?_)
  exact (alertingAdjustments w).along_iff_of_invariant
    (fun s call h hkeeps => (alerts_step_iff reading w s call h).mpr hkeeps)
    (fun s call h => alerts_step_iff reading w s call h) s calls hs

def teaThreshold : StockThreshold := ⟨"t", "p", none, 5, true⟩

def teaShop : AlertShop Unit where
  domain := { DomainTables.empty () with
    products := .single ⟨"p", "default", "TEA", "Tea", 100, "IDR", none, none, "physical", "t0"⟩
    locations := ["shelf", "store"] }
  thresholds := ⟨[teaThreshold], List.nodup_singleton _, List.nodup_singleton _⟩
  alerts := []

def teaMove (delta : Int) (location : String) : AdjustCall :=
  ⟨"t1", "TEA", delta, location, ⟨none, none, none, none⟩⟩

def teaMoves : List AdjustCall := [teaMove 2 "shelf", teaMove 100 "store", teaMove (-1) "shelf"]

theorem teaShop_mirrors : teaShop.AlertsMirror reading where
  single t _ := Nat.zero_le 1
  mirrors t ht _ := by
    rw [List.mem_singleton.mp ht]
    cases reading with
    | total => simp [openAlerts, teaShop, AlertShop.scopeBelow, AlertShop.wideBelow,
        teaThreshold, DomainTables.empty]
    | anywhere => simp [openAlerts, teaShop, AlertShop.scopeBelow, AlertShop.wideBelow,
        teaThreshold, DomainTables.empty]

/-- The shelf's sale raises an alert on a product of which there is plenty, and the store's
delivery has resolved the one of the shelf, whichever way the product's stock is read. -/
theorem last_mover_decides_alert :
    (teaShop.AlertsMirror .total ∧ ¬∀ l r, teaMoves = l ++ r →
      ((alertingAdjustments ⟨[], Table.empty, []⟩).run teaShop l).AlertsMirror .total) ∧
    (teaShop.AlertsMirror .anywhere ∧ ¬∀ l r, teaMoves = l ++ r →
      ((alertingAdjustments ⟨[], Table.empty, []⟩).run teaShop l).AlertsMirror .anywhere) := by
  constructor
  · refine ⟨teaShop_mirrors .total, fun h => ?_⟩
    have hmirror := (h _ [] (List.append_nil _).symm).mirrors teaThreshold
      (List.mem_singleton_self _) rfl
    have hbelow := hmirror.mp (by decide +kernel)
    exact absurd hbelow.2 (by decide +kernel)
  · refine ⟨teaShop_mirrors .anywhere, fun h => ?_⟩
    have hmirror := (h [teaMove 2 "shelf", teaMove 100 "store"] _ rfl).mirrors teaThreshold
      (List.mem_singleton_self _) rfl
    have hlow : ∃ m ∈ ((alertingAdjustments ⟨[], Table.empty, []⟩).run teaShop
        [teaMove 2 "shelf", teaMove 100 "store"]).domain.stockMovements, m.itemId = "p" ∧
          teaShop.ownThreshold "p" m.locationId = none ∧
          ((alertingAdjustments ⟨[], Table.empty, []⟩).run teaShop
            [teaMove 2 "shelf", teaMove 100 "store"]).domain.quantityAt "p" m.locationId < 5 := by
      decide +kernel
    exact absurd (hmirror.mpr hlow) (by decide +kernel)

end OzPos
