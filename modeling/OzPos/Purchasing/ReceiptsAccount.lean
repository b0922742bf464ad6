import OzPos.Purchasing.ReceiveOnce
import OzPos.Commerce.Refunds
import Mathlib.Algebra.Order.Ring.Int
import Mathlib.Algebra.Order.BigOperators.Group.List

namespace OzPos

open DomainTables

variable {κ : Type}

variable (draw : PoDraw)

def soleCall (call : PoCall) (r : PoRecord κ) : Except PoError (PoRecord κ) :=
  (call.read r).bind (fun view => view.write draw r)

def afterCall (call : PoCall) (r : PoRecord κ) : PoRecord κ :=
  match soleCall draw call r with
  | .ok next => next
  | .error _ => r

variable (r : PoRecord κ)

def fullInputs : List ReceivePoLineInput :=
  r.orderedLines.map (fun line => ⟨line.id, line.qty, 0⟩)

def goodUnits (d : DomainTables κ) (lines : List PurchaseOrderLine) (item : String) : Int :=
  (lines.map (fun line =>
    if ¬ line.sku.isEmpty ∧ d.productIdBySku line.sku = some item then line.receivedQty
    else 0)).sum

def AllAccounted (r next : PoRecord κ) : Prop :=
  (∀ line ∈ next.lines.rows, 0 ≤ line.receivedQty ∧ 0 ≤ line.damagedQty ∧
    line.receivedQty + line.damagedQty ≤ line.qty) ∧
  ∀ item, next.domain.onHand item =
    r.domain.onHand item + goodUnits r.domain next.lines.rows item

structure ReceiptsAccount (draw : PoDraw) (r : PoRecord κ) : Prop where
  accounted : ∀ inputs next,
    soleCall draw (.receivePurchaseOrderWithLines r.order.id inputs) r = .ok next →
      AllAccounted r next
  lines : (afterCall draw (.receivePurchaseOrder r.order.id) r).lines.rows =
    (afterCall draw (.receivePurchaseOrderWithLines r.order.id (fullInputs r)) r).lines.rows
  stock : ∀ item, (afterCall draw (.receivePurchaseOrder r.order.id) r).domain.onHand item =
    (afterCall draw (.receivePurchaseOrderWithLines r.order.id (fullInputs r)) r).domain.onHand item

def AlreadyFull : Prop :=
  ∀ line ∈ r.lines.rows, line.receivedQty = line.qty ∧ line.damagedQty = 0

def BringsNone : Prop :=
  ∀ line ∈ r.lines.rows, line.sku.isEmpty ∨ line.qty = 0

/-- The stock writer refuses both doors, or the lines are recorded as received in full before, and
it takes both or there is nothing to take. -/
def DoorsAgree (r : PoRecord κ) : Prop :=
  (takesStock draw (.receive r.orderedLines) r = false ∧
    takesStock draw (.receiveWithLines r.orderedLines (fullInputs r)) r = false) ∨
  (AlreadyFull r ∧ (BringsNone r ∨
    (takesStock draw (.receive r.orderedLines) r = true ∧
      takesStock draw (.receiveWithLines r.orderedLines (fullInputs r)) r = true)))

variable {now : String} {d d' : DomainTables κ}

theorem creditPoLine_onHand {sku : String} {qty : Int}
    (h : creditPoLine now sku qty d = .ok d') : (∃ item, d.productIdBySku sku = some item) ∧
    (∀ other, d'.productIdBySku other = d.productIdBySku other) ∧
      ∀ item, d'.onHand item =
        d.onHand item + if d.productIdBySku sku = some item then qty else 0 := by
  unfold creditPoLine at h
  cases hadjust : d.adjustStockAtLocationWithReason now sku qty canonicalDefaultLocation
      (some "purchase_order_receive") with
  | error e => simp [hadjust] at h
  | ok done =>
    obtain ⟨level, d₁⟩ := done
    simp only [hadjust, Except.ok.injEq] at h
    subst h
    obtain ⟨product, hsku, _, hmoved⟩ := adjustStockAtLocation_ok hadjust
    refine ⟨⟨product, hsku⟩, hmoved.frame.productIdBySku, fun item => ?_⟩
    rw [hmoved.onHand item, hsku]
    simp only [Option.some.injEq]
    congr 1
    exact if_congr eq_comm rfl rfl

theorem creditAll_onHand {credits : List (String × Int)}
    (h : creditAll now credits d = .ok d') (item : String) :
    d'.onHand item = d.onHand item +
      (credits.map (fun c => if d.productIdBySku c.1 = some item then c.2 else 0)).sum := by
  induction credits generalizing d with
  | nil =>
    cases h
    simp
  | cons c rest ih =>
    obtain ⟨sku, qty⟩ := c
    obtain ⟨d₁, hfirst, hrest⟩ := Except.of_bind h
    obtain ⟨-, hskus, honHand⟩ := creditPoLine_onHand hfirst
    rw [ih hrest, honHand, List.map_cons, List.sum_cons, add_assoc]
    simp only [hskus]

theorem creditAll_known {credits : List (String × Int)} (h : creditAll now credits d = .ok d') :
    ∀ c ∈ credits, ∃ item, d.productIdBySku c.1 = some item := by
  induction credits generalizing d with
  | nil => simp
  | cons c rest ih =>
    obtain ⟨sku, qty⟩ := c
    obtain ⟨d₁, hfirst, hrest⟩ := Except.of_bind h
    obtain ⟨hknown, hskus, -⟩ := creditPoLine_onHand hfirst
    refine List.forall_mem_cons.mpr ⟨hknown, fun other hother => ?_⟩
    obtain ⟨item, hitem⟩ := ih hrest other hother
    exact ⟨item, (hskus other.1).symm.trans hitem⟩

variable {inputs : List ReceivePoLineInput}

theorem sum_inputCredits {lines : List PurchaseOrderLine}
    (d : DomainTables κ) (item : String) (h : ∀ line ∈ lines, 0 ≤ receivedOf inputs line) :
    ((inputCredits inputs lines).map (fun c =>
      if d.productIdBySku c.1 = some item then c.2 else 0)).sum =
      (lines.map (fun line => if ¬ line.sku.isEmpty ∧ d.productIdBySku line.sku = some item then
        receivedOf inputs line else 0)).sum := by
  induction lines with
  | nil => rfl
  | cons line rest ih =>
    obtain ⟨hline, hrest⟩ := List.forall_mem_cons.mp h
    unfold inputCredits
    rw [List.map_cons, List.sum_cons, ← ih hrest]
    by_cases hsku : line.sku.isEmpty = true
    · simp [hsku]
    · by_cases hpositive : 0 < receivedOf inputs line
      · simp [hsku, hpositive]
      · have hzero : receivedOf inputs line = 0 := by omega
        simp [hsku, hzero]

theorem sum_lineCredits (d : DomainTables κ) (item : String) (lines : List PurchaseOrderLine) :
    ((lineCredits lines).map (fun c =>
      if d.productIdBySku c.1 = some item then c.2 else 0)).sum =
      (lines.map (fun line => if ¬ line.sku.isEmpty ∧ d.productIdBySku line.sku = some item then
        line.qty else 0)).sum := by
  induction lines with
  | nil => rfl
  | cons line rest ih =>
    unfold lineCredits
    rw [List.map_cons, List.sum_cons, ← ih]
    by_cases hsku : line.sku.isEmpty = true
    · simp [hsku]
    · simp [hsku]

def recorded (inputs : List ReceivePoLineInput) (row : PurchaseOrderLine) : PurchaseOrderLine :=
  { row with receivedQty := receivedOf inputs row, damagedQty := damagedOf inputs row }

theorem receivePoLine_rows {line : PurchaseOrderLine} {r next : PoRecord κ}
    (h : receivePoLine now inputs line r = .ok next) :
    next.lines.rows = r.lines.rows.map (fun row =>
      if row.id = line.id then recorded inputs row else row) := by
  have hwritten : ∀ row : PurchaseOrderLine, (if row.id = line.id then
      ({ row with receivedQty := receivedOf inputs line, damagedQty := damagedOf inputs line } :
        PurchaseOrderLine) else row) = if row.id = line.id then recorded inputs row else row := by
    intro row
    by_cases hid : row.id = line.id
    · simp [hid, recorded, receivedOf, damagedOf]
    · simp [hid]
  have hrows : ∀ domain : DomainTables κ, ({ r with
      lines := r.lines.update line.id (fun row => { row with
        receivedQty := receivedOf inputs line, damagedQty := damagedOf inputs line })
        (fun _ => rfl)
      domain } : PoRecord κ).lines.rows = r.lines.rows.map (fun row =>
        if row.id = line.id then recorded inputs row else row) := by
    intro domain
    exact List.map_congr_left (fun row _ => hwritten row)
  unfold receivePoLine invalidPo at h
  simp only at h
  split at h
  · cases h
  · split at h
    · cases h
    · split at h
      · cases h
      · split at h
        · obtain ⟨d, -, rfl⟩ := Except.of_map h
          exact hrows d
        · cases h
          exact hrows r.domain

theorem receivePoLines_rows {lines : List PurchaseOrderLine} {r next : PoRecord κ}
    (h : receivePoLines now inputs lines r = .ok next) :
    next.lines.rows = r.lines.rows.map (fun row =>
      if ∃ line ∈ lines, line.id = row.id then recorded inputs row else row) := by
  induction lines generalizing r with
  | nil =>
    cases h
    simp
  | cons line rest ih =>
    obtain ⟨mid, hline, hrest⟩ := Except.of_bind h
    rw [ih hrest, receivePoLine_rows hline, List.map_map]
    apply List.map_congr_left
    intro row _
    simp only [Function.comp_apply, List.exists_mem_cons_iff]
    by_cases hid : row.id = line.id
    · by_cases hlater : ∃ later ∈ rest, later.id = line.id
      · simp [hid, recorded, hlater, receivedOf, damagedOf]
      · simp [hid, recorded, hlater]
    · simp [hid, Ne.symm hid]

section Doors

variable {draw : PoDraw} {r next : PoRecord κ}

theorem mem_orderedLines (row : PurchaseOrderLine) : row ∈ r.orderedLines ↔ row ∈ r.lines.rows := by
  rw [PoRecord.orderedLines, List.mem_insertionSort]

theorem sum_orderedLines (f : PurchaseOrderLine → Int) :
    (r.orderedLines.map f).sum = (r.lines.rows.map f).sum :=
  ((List.perm_insertionSort _ _).map f).sum_eq

theorem receive_view (happroved : r.order.status = .approved) :
    soleCall draw (.receivePurchaseOrder r.order.id) r =
      (PoView.receive r.orderedLines).write draw r := by
  simp [soleCall, PoCall.read, happroved, Except.bind]

theorem receiveWithLines_view (happroved : r.order.status = .approved)
    (inputs : List ReceivePoLineInput) :
    soleCall draw (.receivePurchaseOrderWithLines r.order.id inputs) r =
      (PoView.receiveWithLines r.orderedLines inputs).write draw r := by
  simp [soleCall, PoCall.read, happroved, Except.bind]

theorem receiveWithLines_written
    (h : (PoView.receiveWithLines r.orderedLines inputs).write draw r = .ok next) :
    (∀ row ∈ r.lines.rows, accountedFor inputs row = true) ∧
      next.lines.rows = r.lines.rows.map (recorded inputs) ∧
      creditAll draw.now (inputCredits inputs r.orderedLines) r.domain = .ok next.domain := by
  obtain ⟨-, -, -, hcredits⟩ := receive_written rfl h
  have hlines : receivePoLines draw.now inputs r.orderedLines (stampReceived draw.now r) =
      .ok next := by
    simp only [PoView.write, writeReceiveWithLines] at h
    cases hfailure : draw.failure with
    | some message => simp [hfailure] at h
    | none => simpa [hfailure] using h
  obtain ⟨hall, -, -, -⟩ := receivePoLines_ok hlines
  refine ⟨fun row hrow => ?_, ?_, hcredits⟩
  · exact List.all_eq_true.mp hall row ((mem_orderedLines row).mpr hrow)
  · rw [receivePoLines_rows hlines]
    apply List.map_congr_left
    intro row hrow
    exact if_pos ⟨row, (mem_orderedLines row).mpr hrow, rfl⟩

theorem receive_account
    (h : (PoView.receiveWithLines r.orderedLines inputs).write draw r = .ok next) :
    AllAccounted r next := by
  obtain ⟨haccounted, hrows, hcredits⟩ := receiveWithLines_written h
  have hsigns : ∀ row ∈ r.lines.rows, 0 ≤ receivedOf inputs row ∧ 0 ≤ damagedOf inputs row ∧
      receivedOf inputs row + damagedOf inputs row ≤ row.qty := by
    intro row hrow
    have hrow := haccounted row hrow
    simp only [accountedFor, Bool.and_eq_true, decide_eq_true_eq, Option.any_eq_true] at hrow
    obtain ⟨⟨hreceived, hdamaged⟩, total, hsum, htotal⟩ := hrow
    rw [((checkedI64_eq_some_iff _ _).mp hsum).1] at htotal
    exact ⟨hreceived, hdamaged, htotal⟩
  refine ⟨fun line hline => ?_, fun item => ?_⟩
  · rw [hrows] at hline
    obtain ⟨row, hrow, rfl⟩ := List.mem_map.mp hline
    exact hsigns row hrow
  · have hnonneg : ∀ line ∈ r.orderedLines, 0 ≤ receivedOf inputs line :=
      fun line hline => (hsigns line ((mem_orderedLines line).mp hline)).1
    rw [creditAll_onHand hcredits, sum_inputCredits r.domain item hnonneg, sum_orderedLines,
      goodUnits, hrows, List.map_map]
    rfl

theorem fullInputs_line {row : PurchaseOrderLine} (hrow : row ∈ r.lines.rows) :
    inputFor (fullInputs r) row.id = some ⟨row.id, row.qty, 0⟩ := by
  unfold inputFor
  cases hfind : (fullInputs r).reverse.find? (fun input => input.lineId = row.id) with
  | none =>
    have hnone := List.find?_eq_none.mp hfind ⟨row.id, row.qty, 0⟩ (by
      rw [List.mem_reverse]
      exact List.mem_map.mpr ⟨row, (mem_orderedLines row).mpr hrow, rfl⟩)
    simp at hnone
  | some input =>
    have hid : input.lineId = row.id := by simpa using List.find?_some hfind
    have hmem := List.mem_of_find?_eq_some hfind
    rw [List.mem_reverse] at hmem
    obtain ⟨line, hline, rfl⟩ := List.mem_map.mp hmem
    have hsame : line = row := List.inj_on_of_nodup_map r.lines.unique
      ((mem_orderedLines line).mp hline) hrow hid
    rw [hsame]

theorem fullInputs_quantities {row : PurchaseOrderLine} (hrow : row ∈ r.lines.rows) :
    receivedOf (fullInputs r) row = row.qty ∧ damagedOf (fullInputs r) row = 0 := by
  unfold receivedOf damagedOf
  rw [fullInputs_line hrow]
  exact ⟨rfl, rfl⟩

def orderedUnits (r : PoRecord κ) (item : String) : Int :=
  (r.lines.rows.map (fun line =>
    if ¬ line.sku.isEmpty ∧ r.domain.productIdBySku line.sku = some item then line.qty
    else 0)).sum

theorem receive_all (h : (PoView.receive r.orderedLines).write draw r = .ok next) :
    next.lines.rows = r.lines.rows ∧
      (∀ item, next.domain.onHand item = r.domain.onHand item + orderedUnits r item) ∧
      ∀ line ∈ r.lines.rows, ¬ line.sku.isEmpty → 0 < line.qty →
        ∃ item, r.domain.productIdBySku line.sku = some item := by
  obtain ⟨-, -, -, hcredits⟩ := receive_written rfl h
  refine ⟨?_, fun item => ?_, fun line hline hsku _ => ?_⟩
  · simp only [PoView.write, writeReceive] at h
    cases hfailure : draw.failure with
    | some message => simp [hfailure] at h
    | none =>
      simp only [hfailure] at h
      obtain ⟨d, -, rfl⟩ := Except.of_map h
      rfl
  · rw [creditAll_onHand hcredits]
    unfold PoView.credits
    rw [sum_lineCredits, sum_orderedLines]
    rfl
  · have hmem : ∀ lines : List PurchaseOrderLine, line ∈ lines →
        (line.sku, line.qty) ∈ lineCredits lines := by
      intro lines
      induction lines with
      | nil => intro hnil; cases hnil
      | cons first rest ih =>
        intro hcons
        unfold lineCredits
        rcases List.mem_cons.mp hcons with rfl | hrest
        · rw [if_neg hsku]
          exact List.mem_cons_self
        · split
          · exact ih hrest
          · exact List.mem_cons_of_mem _ (ih hrest)
    exact creditAll_known hcredits _ (hmem _ ((mem_orderedLines line).mpr hline))

theorem receiveFull_all
    (h : (PoView.receiveWithLines r.orderedLines (fullInputs r)).write draw r = .ok next) :
    next.lines.rows = r.lines.rows.map (fun row => { row with
        receivedQty := row.qty, damagedQty := 0 }) ∧
      (∀ item, next.domain.onHand item = r.domain.onHand item + orderedUnits r item) ∧
      ∀ line ∈ r.lines.rows, ¬ line.sku.isEmpty → 0 < line.qty →
        ∃ item, r.domain.productIdBySku line.sku = some item := by
  obtain ⟨haccounted, hrows, hcredits⟩ := receiveWithLines_written h
  have hrecorded : next.lines.rows = r.lines.rows.map (fun row => { row with
      receivedQty := row.qty, damagedQty := 0 }) := by
    rw [hrows]
    apply List.map_congr_left
    intro row hrow
    obtain ⟨hreceived, hdamaged⟩ := fullInputs_quantities hrow
    rw [recorded, hreceived, hdamaged]
  refine ⟨hrecorded, fun item => ?_, fun line hline hsku hqty => ?_⟩
  · rw [(receive_account h).2 item, goodUnits, hrecorded, List.map_map]
    rfl
  · have hmem : ∀ lines : List PurchaseOrderLine, line ∈ lines →
        (line.sku, receivedOf (fullInputs r) line) ∈ inputCredits (fullInputs r) lines := by
      intro lines
      induction lines with
      | nil => intro hnil; cases hnil
      | cons first rest ih =>
        intro hcons
        unfold inputCredits
        rcases List.mem_cons.mp hcons with rfl | hrest
        · rw [if_pos ⟨by rwa [(fullInputs_quantities hline).1], hsku⟩]
          exact List.mem_cons_self
        · split
          · exact List.mem_cons_of_mem _ (ih hrest)
          · exact ih hrest
    exact creditAll_known hcredits _ (hmem _ ((mem_orderedLines line).mpr hline))

theorem afterCall_eq {call : PoCall} {view : PoView} (h : soleCall draw call r = view.write draw r)
    (hreceives : view.receives = true) : (takesStock draw view r = true ∧
      view.write draw r = .ok (afterCall draw call r)) ∨
    (takesStock draw view r = false ∧ afterCall draw call r = r) := by
  unfold afterCall
  rw [h]
  cases hwrite : view.write draw r with
  | ok next => exact .inl ⟨(receive_written hreceives hwrite).1, rfl⟩
  | error e =>
    refine .inr ⟨Bool.eq_false_iff.mpr (fun htakes => ?_), rfl⟩
    obtain ⟨next, hok⟩ := receive_taken hreceives htakes
    rw [hwrite] at hok
    cases hok

theorem alreadyFull_iff : r.lines.rows.map (fun row => { row with
    receivedQty := row.qty, damagedQty := 0 }) = r.lines.rows ↔ AlreadyFull r := by
  have hself := @List.map_inj_left _ _ r.lines.rows (fun row : PurchaseOrderLine => { row with
    receivedQty := row.qty, damagedQty := 0 }) id
  rw [List.map_id] at hself
  rw [hself]
  constructor
  · intro h row hrow
    have hsame : ({ row with receivedQty := row.qty, damagedQty := 0 } : PurchaseOrderLine) = row :=
      h row hrow
    constructor
    · exact (congrArg PurchaseOrderLine.receivedQty hsame).symm
    · exact (congrArg PurchaseOrderLine.damagedQty hsame).symm
  · intro h row hrow
    obtain ⟨hreceived, hdamaged⟩ := h row hrow
    cases row
    simp only at hreceived hdamaged
    simp [hreceived, hdamaged]

theorem orderedUnits_zero (h : BringsNone r) (item : String) : orderedUnits r item = 0 := by
  apply List.sum_eq_zero
  intro n hn
  obtain ⟨line, hline, rfl⟩ := List.mem_map.mp hn
  split
  · rename_i hsku
    exact (h line hline).resolve_left hsku.1
  · rfl

theorem bringsNone_of_units (hr : PoSane r)
    (hknown : ∀ line ∈ r.lines.rows, ¬ line.sku.isEmpty → 0 < line.qty →
      ∃ item, r.domain.productIdBySku line.sku = some item)
    (h : ∀ item, orderedUnits r item = 0) : BringsNone r := by
  intro line hline
  by_cases hsku : line.sku.isEmpty = true
  · exact .inl hsku
  · refine .inr ?_
    have hqty := hr line hline
    by_contra hne
    obtain ⟨item, hitem⟩ := hknown line hline hsku (by omega)
    have hterm : line.qty ∈ r.lines.rows.map (fun line =>
        if ¬ line.sku.isEmpty ∧ r.domain.productIdBySku line.sku = some item then line.qty
        else 0) := List.mem_map.mpr ⟨line, hline, if_pos ⟨hsku, hitem⟩⟩
    have hle : line.qty ≤ orderedUnits r item := by
      refine List.single_le_sum (fun n hn => ?_) _ hterm
      obtain ⟨other, hother, rfl⟩ := List.mem_map.mp hn
      split
      · exact hr other hother
      · exact le_refl _
    rw [h item] at hle
    omega

theorem takesFull_of_none (hr : PoSane r) (hfits : ∀ row ∈ r.lines.rows, FitsI64 row.qty)
    (hnone : BringsNone r) (hfailure : draw.failure = none) :
    takesStock draw (.receiveWithLines r.orderedLines (fullInputs r)) r = true := by
  have hall : r.orderedLines.all (accountedFor (fullInputs r)) = true := by
    rw [List.all_eq_true]
    intro row hrow
    have hrow := (mem_orderedLines row).mp hrow
    obtain ⟨hreceived, hdamaged⟩ := fullInputs_quantities hrow
    have hqty := hr row hrow
    have hsum : checkedI64 row.qty = some row.qty :=
      (checkedI64_eq_some_iff _ _).mpr ⟨rfl, hfits row hrow⟩
    simp [accountedFor, hreceived, hdamaged, hsum, hqty]
  have hcredits : ∀ lines : List PurchaseOrderLine, (∀ line ∈ lines, line ∈ r.lines.rows) →
      inputCredits (fullInputs r) lines = [] := by
    intro lines
    induction lines with
    | nil => intro _; rfl
    | cons line rest ih =>
      intro hmem
      obtain ⟨hline, hrest⟩ := List.forall_mem_cons.mp hmem
      have hnot : ¬ (0 < receivedOf (fullInputs r) line ∧ ¬ line.sku.isEmpty = true) := by
        rintro ⟨hpositive, hsku⟩
        rw [(fullInputs_quantities hline).1] at hpositive
        have hzero := (hnone line hline).resolve_left hsku
        omega
      rw [inputCredits, if_neg hnot]
      exact ih hrest
  simp only [takesStock, Bool.and_eq_true]
  refine ⟨⟨by simp [hfailure], hall⟩, ?_⟩
  show (creditAll draw.now (inputCredits (fullInputs r) r.orderedLines) r.domain).isOk = true
  rw [hcredits _ (fun line hline => (mem_orderedLines line).mp hline)]
  rfl

end Doors

def approvedOrder (qty : Int) : PoRecord Unit where
  order := ⟨"po-1", "PO-1", .approved, none, 4500, "2026-01-02"⟩
  lines := Table.empty.insertNew ⟨"line-0", "SKU-1", "Kopi", qty, 900, 900 * qty, 0, 0⟩
  domain := stockedTables

end OzPos
