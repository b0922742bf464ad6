import OzPos.Client.Settings
import OzPos.Library.Sessions

namespace OzPos

inductive PayableStatus where
  | open_
  | partial_
  | paid
  | writtenOff
  deriving DecidableEq

def PayableStatus.asStr : PayableStatus → String
  | .open_ => "open"
  | .partial_ => "partial"
  | .paid => "paid"
  | .writtenOff => "written_off"

def PayableStatus.isTerminal : PayableStatus → Bool
  | .paid | .writtenOff => true
  | .open_ | .partial_ => false

def PayableStatus.canTransition : PayableStatus → PayableStatus → Bool
  | .open_, .partial_ | .open_, .paid | .open_, .writtenOff => true
  | .partial_, .paid | .partial_, .writtenOff => true
  | _, _ => false

def PayableStatus.fromAmounts (paidMinor amountMinor : Int) : PayableStatus :=
  if paidMinor ≤ 0 then .open_
  else if amountMinor ≤ paidMinor then .paid
  else .partial_

structure Payable where
  (id tenantId : String)
  (amountMinor paidMinor : Int)
  currency : String
  status : PayableStatus
  updatedAt : String
  (settledAt writtenOffAt : Option String)

def Payable.balanceMinor (p : Payable) : Int := max (p.amountMinor - p.paidMinor) 0

/-- `status IN ('open','partial')`. -/
def Payable.isOwed (p : Payable) : Bool := p.status = .open_ || p.status = .partial_

structure PayablePayment where
  id : String
  amountMinor : Int
  (currency method paidAt : String)
  recordedBy : Option String
  note : String

/-- A payable's row and the rows of its payments, the oldest first. -/
structure PayableRecord where
  payable : Payable
  payments : List PayablePayment

def PayableRecord.recorded (r : PayableRecord) : Int :=
  (r.payments.map PayablePayment.amountMinor).sum

/-- The minted id, the clock, and whether the database fails the transaction. -/
structure PayableDraw where
  (rowId now : String)
  failure : Option String

inductive PayableError where
  | core (e : CoreError)
  /-- The release build checks its arithmetic. -/
  | panicked

def invalidPayable {α : Type} (field message : String) : Except PayableError α :=
  .error (.core (.validation field message))

structure NewPayable where
  (tenantId supplierId : String)
  amountMinor : Int
  currency : String

variable (draw : PayableDraw)

def createPayable (input : NewPayable) : Except PayableError PayableRecord :=
  if (trim input.tenantId).isEmpty then invalidPayable "tenant_id" "must not be empty"
  else if (trim input.supplierId).isEmpty then invalidPayable "supplier_id" "must not be empty"
  else if input.amountMinor ≤ 0 then invalidPayable "amount" "payable amount must be positive"
  else
    match draw.failure with
    | some message => .error (.core (.db message))
    | none =>
      .ok
        { payable :=
            { id := draw.rowId, tenantId := input.tenantId, amountMinor := input.amountMinor
              paidMinor := 0, currency := input.currency, status := .open_, updatedAt := draw.now
              settledAt := none, writtenOffAt := none }
          payments := [] }

variable (tenantId payableId : String) (r : PayableRecord)

def getPayable : Except PayableError Payable :=
  if r.payable.tenantId = tenantId ∧ r.payable.id = payableId then .ok r.payable
  else .error (.core (.notFound "payable" payableId))

structure PaymentArgs where
  (tenantId payableId : String)
  amountMinor : Int
  (currency method : String)
  recordedBy : Option String
  note : String

inductive PayableCall where
  | recordPayablePayment (args : PaymentArgs)
  | writeOffPayable (tenantId payableId : String)

/-- What a call has found when it comes to write: a payment carries the new total on. -/
inductive PayableView where
  | payment (args : PaymentArgs) (seen : Payable) (newPaid : Int)
  | writeOff (tenantId payableId : String)

variable (args : PaymentArgs) (seen : Payable)

def checkPayment : Except PayableError Int :=
  if seen.status.isTerminal then
    invalidPayable "status" s!"cannot pay a payable in state '{seen.status.asStr}'"
  else if args.amountMinor ≤ 0 then invalidPayable "amount" "payment must be positive"
  else if args.currency ≠ seen.currency then
    invalidPayable "currency" (s!"payment currency {args.currency} does not match " ++
      s!"payable currency {seen.currency}")
  else
    match checkedI64 (seen.paidMinor + args.amountMinor) with
    | none => .error .panicked
    | some newPaid =>
      if seen.amountMinor < newPaid then
        invalidPayable "amount" (s!"payment of {args.amountMinor} exceeds outstanding balance " ++
          s!"{seen.balanceMinor}")
      else .ok newPaid

def PayableCall.read : PayableCall → Except PayableError PayableView
  | .recordPayablePayment args =>
    (getPayable args.tenantId args.payableId r).bind (fun seen =>
      (checkPayment args seen).map (fun newPaid => .payment args seen newPaid))
  | .writeOffPayable tenantId payableId =>
    (getPayable tenantId payableId r).bind (fun seen =>
      if seen.status.canTransition .writtenOff then .ok (.writeOff tenantId payableId)
      else invalidPayable "status" s!"cannot write off a payable in state '{seen.status.asStr}'")

/-- The row an `UPDATE payables` of either call aims at: its predicate on tenant, id and status. -/
def owedRow : Bool :=
  r.payable.tenantId = tenantId && r.payable.id = payableId && r.payable.isOwed

def paymentRow : PayablePayment :=
  { id := draw.rowId, amountMinor := args.amountMinor, currency := args.currency
    method := args.method, paidAt := draw.now, recordedBy := args.recordedBy, note := args.note }

/-- The constraints of the two tables on what a payment writes. -/
def payableConstraint (row : PayablePayment) (newPaid : Int) (r : PayableRecord) : Option String :=
  if newPaid < 0 then some "CHECK constraint failed: paid_minor >= 0"
  else if r.payable.amountMinor < newPaid then
    some "CHECK constraint failed: paid_minor <= amount_minor"
  else if row.amountMinor ≤ 0 then some "CHECK constraint failed: amount_minor > 0"
  else if r.payments.any (fun p => p.id = row.id) then
    some "UNIQUE constraint failed: payable_payments.id"
  else none

def payableFailure (newPaid : Int) (r : PayableRecord) : Option String :=
  draw.failure.orElse (fun _ => payableConstraint (paymentRow draw args) newPaid r)

/-- The transaction of a payment: the total it read, raised, goes over whatever stands there. -/
def writePayment (newPaid : Int)
    (r : PayableRecord) : Except PayableError (PayableRecord × Option PayablePayment) :=
  if owedRow args.tenantId args.payableId r then
    match payableFailure draw args newPaid r with
    | some message => .error (.core (.db message))
    | none =>
      let newStatus := PayableStatus.fromAmounts newPaid seen.amountMinor
      let row := paymentRow draw args
      .ok
        ({ payable :=
             { r.payable with
               paidMinor := newPaid
               status := newStatus
               settledAt := if newStatus = .paid then some draw.now else none
               updatedAt := draw.now }
           payments := r.payments ++ [row] }, some row)
  else
    invalidPayable "status"
      "payable was settled or written off concurrently; payment not recorded"

def writeWriteOff : Except PayableError (PayableRecord × Option PayablePayment) :=
  match draw.failure with
  | some message => .error (.core (.db message))
  | none =>
    if owedRow tenantId payableId r then
      .ok
        ({ r with
           payable :=
             { r.payable with
               status := .writtenOff
               writtenOffAt := some draw.now
               updatedAt := draw.now } }, none)
    else
      invalidPayable "status"
        "payable was settled or written off concurrently; write-off not applied"

def PayableView.write :
    PayableView → Except PayableError (PayableRecord × Option PayablePayment)
  | .payment args seen newPaid => writePayment draw args seen newPaid r
  | .writeOff tenantId payableId => writeWriteOff draw tenantId payableId r

def payableCalls :
    Calls PayableRecord PayableCall PayableView PayableDraw
      (Except PayableError (Option PayablePayment)) where
  read call r :=
    match call.read r with
    | .error e => .inl (.error e)
    | .ok view => .inr view
  write draw view r :=
    match view.write draw r with
    | .error e => (r, .error e)
    | .ok (next, payment) => (next, .ok payment)

variable {args : PaymentArgs} {newPaid : Int}

theorem checkPayment_ok {seen : Payable} (h : checkPayment args seen = .ok newPaid) :
    newPaid = seen.paidMinor + args.amountMinor ∧ 0 < args.amountMinor ∧
      newPaid ≤ seen.amountMinor := by
  unfold checkPayment invalidPayable at h
  split at h
  · cases h
  · split at h
    · cases h
    · rename_i hamount
      split at h
      · cases h
      · cases hsum : checkedI64 (seen.paidMinor + args.amountMinor) with
        | none => simp [hsum] at h
        | some total =>
          obtain ⟨rfl, _⟩ := (checkedI64_eq_some_iff _ _).mp hsum
          simp only [hsum] at h
          split at h
          · cases h
          · cases h
            omega

variable {r : PayableRecord} {tenantId payableId : String}

theorem getPayable_ok {seen : Payable} (h : getPayable tenantId payableId r = .ok seen) :
    seen = r.payable ∧ r.payable.tenantId = tenantId ∧ r.payable.id = payableId := by
  unfold getPayable at h
  split at h
  · rename_i hkey
    cases h
    exact ⟨rfl, hkey⟩
  · cases h

def lands (args : PaymentArgs) (newPaid : Int) (r : PayableRecord) : Bool :=
  owedRow args.tenantId args.payableId r && (payableFailure draw args newPaid r).isNone

variable {draw : PayableDraw}

theorem writePayment_lands (h : lands draw args newPaid r = true) :
    ∃ next, writePayment draw args seen newPaid r = .ok (next, some (paymentRow draw args)) ∧
      next.payments = r.payments ++ [paymentRow draw args] ∧
      next.payable.id = r.payable.id ∧ next.payable.tenantId = r.payable.tenantId ∧
      next.payable.amountMinor = r.payable.amountMinor ∧ next.payable.paidMinor = newPaid ∧
      next.payable.status = PayableStatus.fromAmounts newPaid seen.amountMinor := by
  simp only [lands, Bool.and_eq_true, Option.isNone_iff_eq_none] at h
  simp [writePayment, h.1, h.2]

theorem writePayment_refused (h : lands draw args newPaid r = false) :
    ∃ e, writePayment draw args seen newPaid r = .error e := by
  simp only [lands, Bool.and_eq_false_iff] at h
  unfold writePayment
  cases howed : owedRow args.tenantId args.payableId r with
  | false => exact ⟨_, rfl⟩
  | true =>
    cases hfailure : payableFailure draw args newPaid r with
    | none => simp [howed, hfailure] at h
    | some message => exact ⟨_, rfl⟩

theorem writeWriteOff_ok {next : PayableRecord} {payment : Option PayablePayment}
    (h : writeWriteOff draw tenantId payableId r = .ok (next, payment)) :
    owedRow tenantId payableId r = true ∧ next.payments = r.payments ∧
      next.payable = { r.payable with
        status := .writtenOff, writtenOffAt := some draw.now, updatedAt := draw.now } := by
  unfold writeWriteOff invalidPayable at h
  split at h
  · cases h
  · split at h
    · rename_i howed
      cases h
      exact ⟨howed, rfl, rfl⟩
    · cases h

theorem owedRow_isTerminal
    (h : owedRow tenantId payableId r = true) : r.payable.status.isTerminal = false := by
  simp only [owedRow, Payable.isOwed, Bool.and_eq_true, Bool.or_eq_true, decide_eq_true_eq] at h
  rcases h.2 with hstatus | hstatus
  · simp [hstatus, PayableStatus.isTerminal]
  · simp [hstatus, PayableStatus.isTerminal]

end OzPos
