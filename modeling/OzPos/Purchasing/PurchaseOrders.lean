import OzPos.Library.Sessions
import Mathlib.Data.List.Sort
import OzPos.Client.StockEffect
import OzPos.Library.History
import OzPos.Library.Outcome

namespace OzPos

inductive PoStatus where
  | draft
  | pending
  | approved
  | received
  | cancelled
  deriving DecidableEq

/-- The texts `update_po_status` takes, which are those the column's `CHECK` takes. -/
def PoStatus.parse : String → Option PoStatus
  | "draft" => some .draft
  | "pending" => some .pending
  | "approved" => some .approved
  | "received" => some .received
  | "cancelled" => some .cancelled
  | _ => none

structure PurchaseOrder where
  (id poNumber : String)
  status : PoStatus
  receivedDate : Option String
  subtotalMinor : Int
  updatedAt : String

structure PurchaseOrderLine where
  (id sku productName : String)
  (qty unitCostMinor lineTotalMinor receivedQty damagedQty : Int)
  deriving DecidableEq

structure PoRecord (κ : Type) where
  order : PurchaseOrder
  lines : Table String PurchaseOrderLine PurchaseOrderLine.id
  domain : DomainTables κ

inductive PoError where
  | core (e : CoreError)
  /-- The release build checks its arithmetic. -/
  | panicked

def invalidPo {α : Type} (field message : String) : Except PoError α :=
  .error (.core (.validation field message))

/-- The minted ids, the clock, and whether the database fails the transaction. -/
structure PoDraw where
  orderId : String
  lineId : Nat → String
  now : String
  failure : Option String

structure CreatePoLineInput where
  (sku productName : String)
  (qty unitCostMinor : Int)

structure ReceivePoLineInput where
  lineId : String
  (receivedQty damagedQty : Int)

def poSubtotal : Int → List CreatePoLineInput → Except PoError Int
  | subtotal, [] => .ok subtotal
  | subtotal, line :: rest =>
    if line.qty < 0 then invalidPo "qty" "quantity must not be negative"
    else if line.unitCostMinor < 0 then invalidPo "unit_cost_minor" "unit cost must not be negative"
    else
      match checkedI64 (line.qty * line.unitCostMinor) with
      | none => invalidPo "line_total" "line total overflow"
      | some lineTotal =>
        match checkedI64 (subtotal + lineTotal) with
        | none => invalidPo "subtotal" "purchase order subtotal overflow"
        | some subtotal => poSubtotal subtotal rest

variable (draw : PoDraw)

def insertPoLines (draw : PoDraw) :
    Nat → List CreatePoLineInput → Table String PurchaseOrderLine PurchaseOrderLine.id →
      Except PoError (Table String PurchaseOrderLine PurchaseOrderLine.id)
  | _, [], lines => .ok lines
  | n, line :: rest, lines =>
    match checkedI64 (line.qty * line.unitCostMinor) with
    | none => invalidPo "line_total" "line total overflow"
    | some lineTotal =>
      match lines.insert? ⟨draw.lineId n, line.sku, line.productName, line.qty,
          line.unitCostMinor, lineTotal, 0, 0⟩ with
      | none => .error (.core (.db "UNIQUE constraint failed: purchase_order_lines.id"))
      | some lines => insertPoLines draw (n + 1) rest lines

section

variable {κ : Type}

def createPurchaseOrder (poNumber : String) (lines : List CreatePoLineInput)
    (d : DomainTables κ) : Except PoError (PoRecord κ) :=
  if (trim poNumber).isEmpty then invalidPo "po_number" "PO number must not be empty"
  else
    match poSubtotal 0 lines with
    | .error e => .error e
    | .ok subtotal =>
      match draw.failure with
      | some message => .error (.core (.db message))
      | none =>
        match insertPoLines draw 0 lines Table.empty with
        | .error e => .error e
        | .ok rows =>
          .ok ⟨⟨draw.orderId, trim poNumber, .draft, none, subtotal, draw.now⟩, rows, d⟩

variable (r : PoRecord κ)

/-- The lines of `get_purchase_order`: `ORDER BY id`. -/
def PoRecord.orderedLines : List PurchaseOrderLine :=
  r.lines.rows.insertionSort (fun a b => a.id ≤ b.id)

inductive PoCall where
  | updatePoStatus (id newStatus : String)
  | receivePurchaseOrder (id : String)
  | receivePurchaseOrderWithLines (id : String) (lines : List ReceivePoLineInput)

/-- What a call holds when it comes to write: the status it moves away from, or the lines. -/
inductive PoView where
  | transition (current newStatus : PoStatus)
  | receive (lines : List PurchaseOrderLine)
  | receiveWithLines (lines : List PurchaseOrderLine) (inputs : List ReceivePoLineInput)

def onlyApproved {α : Type} : Except PoError α :=
  invalidPo "status" "only approved orders can be received"

def PoCall.read : PoCall → Except PoError PoView
  | .updatePoStatus id newStatus =>
    match PoStatus.parse newStatus with
    | none => invalidPo "status" s!"invalid status: {newStatus}"
    | some target =>
      if r.order.id = id then .ok (.transition r.order.status target)
      else .error (.core (.notFound "purchase_order" id))
  | .receivePurchaseOrder id =>
    if r.order.id = id then
      if r.order.status = .approved then .ok (.receive r.orderedLines) else onlyApproved
    else .error (.core (.notFound "purchase_order" id))
  | .receivePurchaseOrderWithLines id inputs =>
    if r.order.id = id then
      if r.order.status = .approved then .ok (.receiveWithLines r.orderedLines inputs)
      else onlyApproved
    else .error (.core (.notFound "purchase_order" id))

def writeTransition (current newStatus : PoStatus) (r : PoRecord κ) : Except PoError (PoRecord κ) :=
  match draw.failure with
  | some message => .error (.core (.db message))
  | none =>
    if r.order.status = current then
      .ok { r with order := { r.order with status := newStatus, updatedAt := draw.now } }
    else .error (.core (.conflict "purchase_order" "status"))

/-- The claim of both receives: by the id alone, whatever the status is by now. -/
def stampReceived (now : String) (r : PoRecord κ) : PoRecord κ :=
  { r with
    order := { r.order with status := .received, receivedDate := some now, updatedAt := now } }

/-- A line's good units go to the default location; a line without a sku has none. -/
def creditPoLine (now sku : String) (qty : Int) (d : DomainTables κ) :
    Except PoError (DomainTables κ) :=
  match d.adjustStockAtLocationWithReason now sku qty canonicalDefaultLocation
      (some "purchase_order_receive") with
  | .error e => .error (.core e)
  | .ok (_, d) => .ok d

def creditPoLines (now : String) :
    List PurchaseOrderLine → DomainTables κ → Except PoError (DomainTables κ)
  | [], d => .ok d
  | line :: rest, d =>
    if line.sku.isEmpty then creditPoLines now rest d
    else (creditPoLine now line.sku line.qty d).bind (creditPoLines now rest)

variable (inputs : List ReceivePoLineInput)

/-- The input of a line: collected into a map, the last one for an id stands. -/
def inputFor (lineId : String) : Option ReceivePoLineInput :=
  inputs.reverse.find? (fun input => input.lineId = lineId)

variable (line : PurchaseOrderLine)

def receivedOf : Int :=
  ((inputFor inputs line.id).map ReceivePoLineInput.receivedQty).getD 0

def damagedOf : Int :=
  ((inputFor inputs line.id).map ReceivePoLineInput.damagedQty).getD 0

def exceedsOrdered (received damaged : Int) : String :=
  s!"line '{line.sku}' received+damaged ({received}+{damaged}) exceeds ordered qty ({line.qty})"

def receivePoLine (now : String) (inputs : List ReceivePoLineInput) (line : PurchaseOrderLine)
    (r : PoRecord κ) : Except PoError (PoRecord κ) :=
  let received := receivedOf inputs line
  let damaged := damagedOf inputs line
  if received < 0 ∨ damaged < 0 then
    invalidPo "qty" "received/damaged quantities must not be negative"
  else
    match checkedI64 (received + damaged) with
    | none => .error .panicked
    | some accounted =>
      if line.qty < accounted then invalidPo "qty" (exceedsOrdered line received damaged)
      else
        let lines := r.lines.update line.id
          (fun row => { row with receivedQty := received, damagedQty := damaged }) (fun _ => rfl)
        if 0 < received ∧ ¬ line.sku.isEmpty then
          (creditPoLine now line.sku received r.domain).map (fun d =>
            { r with lines, domain := d })
        else .ok { r with lines }

def receivePoLines (now : String) (inputs : List ReceivePoLineInput) :
    List PurchaseOrderLine → PoRecord κ → Except PoError (PoRecord κ)
  | [], r => .ok r
  | line :: rest, r => (receivePoLine now inputs line r).bind (receivePoLines now inputs rest)

variable (lines : List PurchaseOrderLine)

def writeReceive (r : PoRecord κ) : Except PoError (PoRecord κ) :=
  match draw.failure with
  | some message => .error (.core (.db message))
  | none =>
    (creditPoLines draw.now lines r.domain).map (fun d =>
      { stampReceived draw.now r with domain := d })

def writeReceiveWithLines (inputs : List ReceivePoLineInput) (r : PoRecord κ) : Except PoError
    (PoRecord κ) :=
  match draw.failure with
  | some message => .error (.core (.db message))
  | none => receivePoLines draw.now inputs lines (stampReceived draw.now r)

def PoView.write : PoView → Except PoError (PoRecord κ)
  | .transition current newStatus => writeTransition draw current newStatus r
  | .receive lines => writeReceive draw lines r
  | .receiveWithLines lines inputs => writeReceiveWithLines draw lines inputs r

def poCalls (κ : Type) : Calls (PoRecord κ) PoCall PoView PoDraw (Except PoError Unit) where
  read call r :=
    match call.read r with
    | .error e => .inl (.error e)
    | .ok view => .inr view
  write draw view r :=
    match view.write draw r with
    | .error e => (r, .error e)
    | .ok next => (next, .ok ())

end

open DomainTables

variable {κ : Type}

/-- Nothing on hand is lost, and something is gained just where `p`. -/
structure Raised (d d' : DomainTables κ) (p : Prop) : Prop where
  mono : ∀ item, d.onHand item ≤ d'.onHand item
  gained : (∃ item, d.onHand item < d'.onHand item) ↔ p

theorem Raised.refl (d : DomainTables κ) : Raised d d False where
  mono := fun _ => le_refl _
  gained := by simp

theorem Raised.trans {d₁ d₂ d₃ : DomainTables κ} {p q : Prop} (h : Raised d₁ d₂ p)
    (h' : Raised d₂ d₃ q) : Raised d₁ d₃ (p ∨ q) where
  mono := fun item => le_trans (h.mono item) (h'.mono item)
  gained := by
    rw [← h.gained, ← h'.gained]
    constructor
    · rintro ⟨item, hitem⟩
      by_cases hfirst : d₁.onHand item < d₂.onHand item
      · exact .inl ⟨item, hfirst⟩
      · exact .inr ⟨item, by omega⟩
    · rintro (⟨item, hitem⟩ | ⟨item, hitem⟩)
      · have hrest := h'.mono item
        exact ⟨item, by omega⟩
      · have hfirst := h.mono item
        exact ⟨item, by omega⟩

variable {now : String} {d : DomainTables κ}

theorem creditPoLine_raised {sku : String} {qty : Int} {d' : DomainTables κ}
    (hqty : 0 ≤ qty) (h : creditPoLine now sku qty d = .ok d') : Raised d d' (0 < qty) := by
  unfold creditPoLine at h
  cases hadjust : d.adjustStockAtLocationWithReason now sku qty canonicalDefaultLocation
      (some "purchase_order_receive") with
  | error e => simp [hadjust] at h
  | ok done =>
    obtain ⟨level, d₁⟩ := done
    simp only [hadjust, Except.ok.injEq] at h
    subst h
    obtain ⟨item, _, _, hmoved⟩ := adjustStockAtLocation_ok hadjust
    have honHand : ∀ other, d₁.onHand other = d.onHand other + if other = item then qty else 0 :=
      hmoved.onHand
    constructor
    · intro other
      rw [honHand]
      split
      · omega
      · omega
    · constructor
      · rintro ⟨other, hother⟩
        rw [honHand] at hother
        split at hother
        · omega
        · omega
      · intro hpositive
        refine ⟨item, ?_⟩
        rw [honHand, if_pos rfl]
        omega

def creditAll (now : String) :
    List (String × Int) → DomainTables κ → Except PoError (DomainTables κ)
  | [], d => .ok d
  | (sku, qty) :: rest, d => (creditPoLine now sku qty d).bind (creditAll now rest)

theorem creditAll_raised {credits : List (String × Int)} {d' : DomainTables κ}
    (hqty : ∀ c ∈ credits, 0 ≤ c.2) (h : creditAll now credits d = .ok d') :
    Raised d d' (∃ c ∈ credits, 0 < c.2) := by
  induction credits generalizing d with
  | nil =>
    cases h
    simpa using Raised.refl d'
  | cons c rest ih =>
    obtain ⟨sku, qty⟩ := c
    obtain ⟨d₁, hfirst, hrest⟩ := Except.of_bind h
    have hhead := creditPoLine_raised (hqty (sku, qty) (List.mem_cons_self ..)) hfirst
    have htail := ih (fun c hc => hqty c (List.mem_cons_of_mem _ hc)) hrest
    simpa using hhead.trans htail

def lineCredits : List PurchaseOrderLine → List (String × Int)
  | [] => []
  | line :: rest =>
    if line.sku.isEmpty then lineCredits rest else (line.sku, line.qty) :: lineCredits rest

def inputCredits (inputs : List ReceivePoLineInput) :
    List PurchaseOrderLine → List (String × Int)
  | [] => []
  | line :: rest =>
    if 0 < receivedOf inputs line ∧ ¬ line.sku.isEmpty then
      (line.sku, receivedOf inputs line) :: inputCredits inputs rest
    else inputCredits inputs rest

/-- A line's received and damaged units make sense of what was ordered. -/
def accountedFor (inputs : List ReceivePoLineInput) (line : PurchaseOrderLine) : Bool :=
  0 ≤ receivedOf inputs line && 0 ≤ damagedOf inputs line &&
    (checkedI64 (receivedOf inputs line + damagedOf inputs line)).any (fun n => n ≤ line.qty)

theorem creditPoLines_eq (now : String) (lines : List PurchaseOrderLine) (d : DomainTables κ) :
    creditPoLines now lines d = creditAll now (lineCredits lines) d := by
  induction lines generalizing d with
  | nil => rfl
  | cons line rest ih =>
    have htail : creditPoLines now rest = creditAll (κ := κ) now (lineCredits rest) := funext ih
    unfold creditPoLines lineCredits
    split
    · exact ih d
    · rw [htail]
      rfl

def SameQuantities (r next : PoRecord κ) : Prop :=
  ∀ row ∈ next.lines.rows, ∃ old ∈ r.lines.rows, row.qty = old.qty

theorem SameQuantities.trans {r₁ r₂ r₃ : PoRecord κ} (h : SameQuantities r₁ r₂)
    (h' : SameQuantities r₂ r₃) : SameQuantities r₁ r₃ := by
  intro row hrow
  obtain ⟨mid, hmid, hqty⟩ := h' row hrow
  obtain ⟨old, hold, hfirst⟩ := h mid hmid
  exact ⟨old, hold, hqty.trans hfirst⟩

variable {r next : PoRecord κ} {inputs : List ReceivePoLineInput}

theorem receivePoLine_ok {line : PurchaseOrderLine}
    (h : receivePoLine now inputs line r = .ok next) :
    accountedFor inputs line = true ∧ next.order = r.order ∧ SameQuantities r next ∧
      creditAll now (inputCredits inputs [line]) r.domain = .ok next.domain := by
  have hsame : ∀ d : DomainTables κ, SameQuantities r
      { r with
        lines := r.lines.update line.id (fun row => { row with
          receivedQty := receivedOf inputs line, damagedQty := damagedOf inputs line })
          (fun _ => rfl)
        domain := d } := by
    intro d row hrow
    obtain ⟨old, hold, rfl⟩ := (Table.mem_update _ line.id (fun row => { row with
      receivedQty := receivedOf inputs line, damagedQty := damagedOf inputs line })
      (fun _ => rfl) row).mp hrow
    refine ⟨old, hold, ?_⟩
    split
    · rfl
    · rfl
  unfold receivePoLine invalidPo at h
  simp only at h
  split at h
  · cases h
  · rename_i hsigns
    cases hsum : checkedI64 (receivedOf inputs line + damagedOf inputs line) with
    | none => simp [hsum] at h
    | some accounted =>
      simp only [hsum] at h
      split at h
      · cases h
      · rename_i hfits
        have haccounted : accountedFor inputs line = true := by
          simp only [accountedFor, hsum, Option.any_some, Bool.and_eq_true, decide_eq_true_eq]
          omega
        split at h
        · rename_i hcredit
          obtain ⟨d, hline, rfl⟩ := Except.of_map h
          refine ⟨haccounted, rfl, hsame d, ?_⟩
          rw [inputCredits, if_pos hcredit]
          simp [inputCredits, creditAll, hline, Except.bind]
        · rename_i hcredit
          cases h
          refine ⟨haccounted, rfl, hsame r.domain, ?_⟩
          rw [inputCredits, if_neg hcredit]
          rfl

theorem receivePoLine_of {line : PurchaseOrderLine} (haccounted : accountedFor inputs line = true)
    (hcredit : creditAll now (inputCredits inputs [line]) r.domain = .ok d) :
    ∃ next, receivePoLine now inputs line r = .ok next ∧ next.domain = d := by
  simp only [accountedFor, Bool.and_eq_true, decide_eq_true_eq] at haccounted
  cases hsum : checkedI64 (receivedOf inputs line + damagedOf inputs line) with
  | none => simp [hsum] at haccounted
  | some accounted =>
    simp only [hsum, Option.any_some, decide_eq_true_eq] at haccounted
    unfold receivePoLine
    simp only [hsum]
    rw [if_neg (by omega), if_neg (by omega)]
    split
    · rename_i hpositive
      rw [inputCredits, if_pos hpositive] at hcredit
      obtain ⟨d', hline, hrest⟩ := Except.of_bind hcredit
      cases hrest
      rw [hline]
      exact ⟨_, rfl, rfl⟩
    · rename_i hnone
      rw [inputCredits, if_neg hnone] at hcredit
      cases hcredit
      exact ⟨_, rfl, rfl⟩

theorem inputCredits_cons (inputs : List ReceivePoLineInput) (line : PurchaseOrderLine)
    (rest : List PurchaseOrderLine) :
    inputCredits inputs (line :: rest) =
      inputCredits inputs [line] ++ inputCredits inputs rest := by
  simp only [inputCredits]
  split
  · rfl
  · rfl

theorem creditAll_append (now : String) (l r : List (String × Int)) (d : DomainTables κ) :
    creditAll now (l ++ r) d = (creditAll now l d).bind (creditAll now r) := by
  induction l generalizing d with
  | nil => rfl
  | cons c l ih =>
    obtain ⟨sku, qty⟩ := c
    simp only [List.cons_append, creditAll]
    cases creditPoLine now sku qty d with
    | error e => rfl
    | ok d₁ => exact ih d₁

theorem receivePoLines_ok {lines : List PurchaseOrderLine}
    (h : receivePoLines now inputs lines r = .ok next) :
    lines.all (accountedFor inputs) = true ∧ next.order = r.order ∧ SameQuantities r next ∧
      creditAll now (inputCredits inputs lines) r.domain = .ok next.domain := by
  induction lines generalizing r with
  | nil =>
    cases h
    exact ⟨rfl, rfl, fun row hrow => ⟨row, hrow, rfl⟩, rfl⟩
  | cons line rest ih =>
    obtain ⟨mid, hline, hrest⟩ := Except.of_bind h
    obtain ⟨haccounted, horder, hsame, hcredit⟩ := receivePoLine_ok hline
    obtain ⟨hall, hrestOrder, hrestSame, hrestCredit⟩ := ih hrest
    refine ⟨?_, hrestOrder.trans horder, hsame.trans hrestSame, ?_⟩
    · simp [haccounted, hall]
    · rw [inputCredits_cons, creditAll_append, hcredit]
      exact hrestCredit

theorem receivePoLines_of {lines : List PurchaseOrderLine}
    (hall : lines.all (accountedFor inputs) = true)
    (hcredit : creditAll now (inputCredits inputs lines) r.domain = .ok d) :
    ∃ next, receivePoLines now inputs lines r = .ok next := by
  induction lines generalizing r with
  | nil => exact ⟨r, rfl⟩
  | cons line rest ih =>
    simp only [List.all_cons, Bool.and_eq_true] at hall
    rw [inputCredits_cons, creditAll_append] at hcredit
    obtain ⟨d₁, hline, hrest⟩ := Except.of_bind hcredit
    obtain ⟨mid, hmid, rfl⟩ := receivePoLine_of hall.1 hline
    obtain ⟨next, hnext⟩ := ih hall.2 hrest
    exact ⟨next, Except.bind_ok_iff.mpr ⟨mid, hmid, hnext⟩⟩

namespace PoView

def receives : PoView → Bool
  | .transition _ _ => false
  | .receive _ | .receiveWithLines _ _ => true

def credits : PoView → List (String × Int)
  | .transition _ _ => []
  | .receive lines => lineCredits lines
  | .receiveWithLines lines inputs => inputCredits inputs lines

def accounted : PoView → Bool
  | .transition _ _ | .receive _ => true
  | .receiveWithLines lines inputs => lines.all (accountedFor inputs)

def brings (view : PoView) : Bool := view.credits.any (fun c => 0 < c.2)

end PoView

def takesStock (draw : PoDraw) (view : PoView) (r : PoRecord κ) : Bool :=
  draw.failure.isNone && view.accounted && (creditAll draw.now view.credits r.domain).isOk

theorem receive_written {draw : PoDraw} {view : PoView}
    (hreceives : view.receives = true) (h : view.write draw r = .ok next) :
    takesStock draw view r = true ∧ next.order.status = .received ∧ SameQuantities r next ∧
      creditAll draw.now view.credits r.domain = .ok next.domain := by
  cases view with
  | transition current newStatus => cases hreceives
  | receive lines =>
    simp only [PoView.write, writeReceive] at h
    cases hfailure : draw.failure with
    | some message => simp [hfailure] at h
    | none =>
      simp only [hfailure] at h
      obtain ⟨d, hcredit, rfl⟩ := Except.of_map h
      rw [creditPoLines_eq] at hcredit
      refine ⟨?_, rfl, fun row hrow => ⟨row, hrow, rfl⟩, hcredit⟩
      simp [takesStock, hfailure, PoView.accounted, PoView.credits, hcredit, Except.isOk,
        Except.toBool]
  | receiveWithLines lines inputs =>
    simp only [PoView.write, writeReceiveWithLines] at h
    cases hfailure : draw.failure with
    | some message => simp [hfailure] at h
    | none =>
      simp only [hfailure] at h
      obtain ⟨hall, horder, hsame, hcredit⟩ := receivePoLines_ok h
      have hcredits : creditAll draw.now (inputCredits inputs lines) r.domain = .ok next.domain :=
        hcredit
      refine ⟨?_, by rw [horder]; rfl, hsame, hcredits⟩
      simp [takesStock, hfailure, PoView.accounted, PoView.credits, hall, hcredits, Except.isOk,
        Except.toBool]

theorem receive_taken {draw : PoDraw} {view : PoView} (hreceives : view.receives = true)
    (h : takesStock draw view r = true) : ∃ next, view.write draw r = .ok next := by
  simp only [takesStock, Bool.and_eq_true, Option.isNone_iff_eq_none, Except.isOk_iff] at h
  obtain ⟨⟨hfailure, haccounted⟩, d, hcredit⟩ := h
  cases view with
  | transition current newStatus => cases hreceives
  | receive lines =>
    refine ⟨{ stampReceived draw.now r with domain := d }, ?_⟩
    simp only [PoView.write, writeReceive, hfailure, creditPoLines_eq]
    rw [show creditAll draw.now (lineCredits lines) r.domain = .ok d from hcredit]
    rfl
  | receiveWithLines lines inputs =>
    have hstamped : creditAll draw.now (inputCredits inputs lines)
        (stampReceived draw.now r).domain = .ok d := hcredit
    obtain ⟨next, hnext⟩ := receivePoLines_of haccounted hstamped
    exact ⟨next, by simp only [PoView.write, writeReceiveWithLines, hfailure, hnext]⟩

end OzPos
