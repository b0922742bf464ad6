import OzPos.Commerce.SaleLifecycle

namespace OzPos

inductive ShiftStatus where
  | open_
  | closed
  deriving DecidableEq

structure Shift where
  (id userId : String)
  terminalId : Option String
  openedAt : String
  closedAt : Option String
  openingBalanceMinor : Int
  (closingBalanceMinor expectedCashMinor cashDifferenceMinor : Option Int)
  (totalSalesMinor totalCashMinor totalCardMinor totalOtherMinor totalVoidsMinor : Int)
  (totalRefundsMinor totalPayoutsMinor : Int)
  notes : String
  status : ShiftStatus
  (createdAt updatedAt : String)

structure ShiftSale where
  id : String
  userId : Option String
  createdAt : String
  status : SaleStatus
  paymentMethod : Option String
  totalMinor : Int

structure ShiftRefund where
  saleId : String
  totalMinor : Int
  createdAt : String

structure CashPayout where
  shiftId : String
  amountMinor : Int

structure ShiftDb where
  /-- The users, with `is_active`. -/
  users : List (String × Bool)
  shifts : Table String Shift Shift.id
  sales : Table String ShiftSale ShiftSale.id
  refunds : List ShiftRefund
  payouts : List CashPayout

inductive ShiftError where
  | core (e : CoreError)
  /-- The release build checks its arithmetic. -/
  | panicked

/-- The minted id, the clock, and whether the database fails the transaction. -/
structure ShiftDraw where
  (id now : String)
  failure : Option String

variable (draw : ShiftDraw)

def newShift (userId : String) (terminalId : Option String) (opening : Int) : Shift :=
  { id := draw.id, userId, terminalId, openedAt := draw.now, closedAt := none
    openingBalanceMinor := opening, closingBalanceMinor := none, expectedCashMinor := none
    cashDifferenceMinor := none, totalSalesMinor := 0, totalCashMinor := 0, totalCardMinor := 0
    totalOtherMinor := 0, totalVoidsMinor := 0, totalRefundsMinor := 0, totalPayoutsMinor := 0
    notes := "", status := .open_, createdAt := draw.now, updatedAt := draw.now }

def invalidShift {α : Type} (field message : String) : Except ShiftError α :=
  .error (.core (.validation field message))

variable (s : ShiftDb)

def ShiftDb.openShiftOf (userId : String) : Option Shift :=
  s.shifts.rows.find? (fun shift => shift.userId = userId ∧ shift.status = .open_)

/-- `open_shift`: the duplicate check and the `INSERT` are one decision. -/
def openShift (userId : String) (terminalId : Option String) (opening : Int)
    (s : ShiftDb) : Except ShiftError ShiftDb :=
  if (trim userId).isEmpty then invalidShift "user_id" "user_id must not be empty"
  else if opening < 0 then
    invalidShift "opening_balance_minor" "opening_balance_minor must be ≥ 0"
  else
    match s.users.lookup (trim userId) with
    | none => invalidShift "user_id" "user not found"
    | some false => invalidShift "user_id" "user account is deactivated"
    | some true =>
      if (s.openShiftOf (trim userId)).isSome then
        invalidShift "user_id" "user already has an open shift"
      else
        match s.shifts.insert? (newShift draw (trim userId) terminalId opening) with
        | none => .error (.core (.db "UNIQUE constraint failed: shifts.id"))
        | some shifts => .ok { s with shifts }

variable (shift : Shift) (now : String)

/-- `WHERE user_id = ?1 AND created_at >= ?2 AND created_at <= ?3`. -/
def inWindow (sale : ShiftSale) : Bool :=
  sale.userId = some shift.userId && shift.openedAt ≤ sale.createdAt && sale.createdAt ≤ now

/-- What `total_sales_minor` sums. -/
def ShiftDb.soldIn : List ShiftSale :=
  s.sales.rows.filter (fun sale => inWindow shift now sale ∧ sale.status = .completed)

def salesTotal (sales : List ShiftSale) : Int := (sales.map ShiftSale.totalMinor).sum

/-- `SUM(…)` of a column that holds 64 bits. -/
def sqlSum (n : Int) : Except ShiftError Int :=
  match checkedI64 n with
  | none => .error (.core (.db "integer overflow"))
  | some n => .ok n

def checkedArith (n : Int) : Except ShiftError Int :=
  match checkedI64 n with
  | none => .error .panicked
  | some n => .ok n

/-- The refunds in a shift's window of the user's sales that `counts`. -/
def ShiftDb.refundsIn (counts : ShiftSale → Bool) : Int :=
  ((s.refunds.filter (fun r => shift.openedAt ≤ r.createdAt ∧ r.createdAt ≤ now ∧
    (s.sales.find? r.saleId).any (fun sale => sale.userId = some shift.userId && counts sale))).map
      ShiftRefund.totalMinor).sum

def ShiftDb.payoutsOf (shiftId : String) : Int :=
  ((s.payouts.filter (fun p => p.shiftId = shiftId)).map CashPayout.amountMinor).sum

def paidBy (method : String) (sale : ShiftSale) : Bool := sale.paymentMethod = some method

/-- `payment_method NOT IN ('cash', 'card')`, which a `NULL` does not satisfy. -/
def paidOtherwise (sale : ShiftSale) : Bool :=
  sale.paymentMethod.any (fun method => method ≠ "cash" && method ≠ "card")

def closedShift (closing : Int) (notes : Option String) (s : ShiftDb)
    (shift : Shift) : Except ShiftError Shift :=
  let sold := s.soldIn shift draw.now
  let voided := s.sales.rows.filter (fun sale =>
    inWindow shift draw.now sale ∧ sale.status = .voided)
  (sqlSum (salesTotal sold)).bind fun totalSales =>
  (sqlSum (salesTotal (sold.filter (paidBy "cash")))).bind fun totalCash =>
  (sqlSum (salesTotal (sold.filter (paidBy "card")))).bind fun totalCard =>
  (sqlSum (salesTotal (sold.filter paidOtherwise))).bind fun totalOther =>
  (sqlSum (salesTotal voided)).bind fun totalVoids =>
  (sqlSum (s.refundsIn shift draw.now (fun _ => true))).bind fun totalRefunds =>
  (sqlSum (s.refundsIn shift draw.now (paidBy "cash"))).bind fun cashRefunds =>
  (sqlSum (s.payoutsOf shift.id)).bind fun totalPayouts =>
  (checkedArith (shift.openingBalanceMinor + totalCash)).bind fun expected =>
  (checkedArith (expected - cashRefunds)).bind fun expected =>
  (checkedArith (expected - totalPayouts)).bind fun expected =>
  (checkedArith (closing - expected)).map fun difference =>
    { shift with
      closedAt := some draw.now, closingBalanceMinor := some closing
      expectedCashMinor := some expected, cashDifferenceMinor := some difference
      totalSalesMinor := totalSales, totalCashMinor := totalCash, totalCardMinor := totalCard
      totalOtherMinor := totalOther, totalVoidsMinor := totalVoids
      totalRefundsMinor := totalRefunds, totalPayoutsMinor := totalPayouts
      notes := notes.getD "", status := .closed, updatedAt := draw.now }

def closeShift (id : String) (closing : Int) (notes : Option String)
    (s : ShiftDb) : Except ShiftError ShiftDb :=
  match s.shifts.find? id with
  | none => .error (.core (.notFound "shift" id))
  | some shift =>
    if shift.status = .closed then invalidShift "status" "shift is already closed"
    else
      (closedShift draw closing notes s shift).map (fun closed =>
        { s with shifts := s.shifts.upsert closed })

/-- `UPDATE sales SET status … WHERE id = ? AND status = ?`. -/
def ShiftDb.setSaleStatus (saleId : String) (observed status : SaleStatus) : ShiftDb :=
  { s with
    sales := s.sales.update saleId (fun sale =>
      if sale.status = observed then { sale with status := status } else sale) (by
        intro sale
        split
        · rfl
        · rfl) }

/-- A sale is inserted by one of the doors; finalised; voided while active, or while pending. -/
inductive ShiftCall where
  | openShift (userId : String) (terminalId : Option String) (opening : Int)
  | closeShift (id : String) (closing : Int) (notes : Option String)
  | createSale (sale : ShiftSale)
  | finalizeSale (saleId : String)
  | voidSale (saleId : String)
  | voidPendingSale (saleId : String)

def ShiftCall.write : ShiftCall → Except ShiftError ShiftDb
  | .openShift userId terminalId opening => OzPos.openShift draw userId terminalId opening s
  | .closeShift id closing notes => OzPos.closeShift draw id closing notes s
  | .createSale sale =>
    match s.sales.insert? sale with
    | none => .error (.core (.db "UNIQUE constraint failed: sales.id"))
    | some sales => .ok { s with sales }
  | .finalizeSale saleId => .ok (s.setSaleStatus saleId .pending .completed)
  | .voidSale saleId => .ok (s.setSaleStatus saleId .active .voided)
  | .voidPendingSale saleId => .ok (s.setSaleStatus saleId .pending .voided)

def ShiftCall.answer : ShiftCall → Option Shift
  | .openShift _ _ _ => s.shifts.find? draw.id
  | .closeShift id _ _ => s.shifts.find? id
  | _ => none

abbrev ShiftEvent := ShiftCall × ShiftDraw

def shiftMachine : Machine ShiftDb ShiftEvent (Except ShiftError (Option Shift)) where
  step s e :=
    match e.2.failure with
    | some message => (s, .error (.core (.db message)))
    | none =>
      match e.1.write e.2 s with
      | .error error => (s, .error error)
      | .ok next => (next, .ok (e.1.answer e.2 next))

end OzPos
