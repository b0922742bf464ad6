import OzPos.Commerce.ShiftTotals
import OzPos.Commerce.ReplayGuard

namespace OzPos

/-- A row of `payments`. -/
structure TenderRow where
  (saleId method : String)
  amountMinor : Int

structure Till where
  books : ShiftDb
  payments : List TenderRow

inductive PaymentKind where
  | single
  | split

/-- What `sales.payment_method` keeps of the tenders. -/
def PaymentKind.wireMethod (singleMethod : String) : PaymentKind → String
  | .single => singleMethod
  | .split => "split"

def paymentKind (splits : Option (List PaymentSplitArg)) : PaymentKind :=
  if splits.any (fun splits => !splits.isEmpty) then .split else .single

def tendersOf (method : String) (splits : Option (List PaymentSplitArg)) (total : Int) :
    List PaymentSplitArg :=
  splits.getD [⟨method, total, none⟩]

def tenderRow (saleId : String) (split : PaymentSplitArg) : TenderRow :=
  ⟨saleId, split.method, split.amountMinor⟩

def Till.completeSale (till : Till) (sale : ShiftSale) (method : String)
    (splits : Option (List PaymentSplitArg)) : Except CheckoutError Till :=
  let tenders := tendersOf method splits sale.totalMinor
  (validatePaymentSplitsCoverTotal (tenders.map PaymentSplitArg.amountMinor) sale.totalMinor).bind
    fun _ =>
      match till.books.sales.insert? { sale with
          paymentMethod := some ((paymentKind splits).wireMethod method), status := .pending } with
      | none => .error (.core (.db "UNIQUE constraint failed: sales.id"))
      | some sales =>
        .ok ⟨{ till.books with sales }, till.payments ++ tenders.map (tenderRow sale.id)⟩

variable (payments : List TenderRow)

def nonCashPaid (saleId : String) : Int :=
  ((payments.filter (fun p => p.saleId = saleId ∧ p.method ≠ "cash")).map
    TenderRow.amountMinor).sum

/-- The cash a sale leaves in the drawer, its change given back. -/
def cashDue (sale : ShiftSale) : Int :=
  sale.totalMinor - nonCashPaid payments sale.id

/-- The totals of a closing sum by method, and its cash is what the tenders leave. -/
structure Reconciled (payments : List TenderRow) (s : ShiftDb) (now : String)
    (shift closed : Shift) : Prop where
  byMethod : closed.totalSalesMinor =
    closed.totalCashMinor + closed.totalCardMinor + closed.totalOtherMinor
  drawer : closed.expectedCashMinor =
    some (shift.openingBalanceMinor + ((s.soldIn shift now).map (cashDue payments)).sum -
      s.refundsIn shift now (paidBy "cash") - s.payoutsOf shift.id)

instance decidableReconciled (s : ShiftDb) (now : String)
    (shift closed : Shift) : Decidable (Reconciled payments s now shift closed) :=
  decidable_of_iff
    (closed.totalSalesMinor =
        closed.totalCashMinor + closed.totalCardMinor + closed.totalOtherMinor ∧
      closed.expectedCashMinor =
        some (shift.openingBalanceMinor + ((s.soldIn shift now).map (cashDue payments)).sum -
          s.refundsIn shift now (paidBy "cash") - s.payoutsOf shift.id))
    ⟨fun h => ⟨h.1, h.2⟩, fun h => ⟨h.byMethod, h.drawer⟩⟩

def methodless (sale : ShiftSale) : Bool := sale.paymentMethod = none

/-- Sales of no method come to nothing, and the cash in sales of other methods is what the cash
sales were paid by other means. -/
structure HeadersTell (payments : List TenderRow) (sold : List ShiftSale) : Prop where
  methods : salesTotal (sold.filter methodless) = 0
  tenders : ((sold.filter (fun sale => !paidBy "cash" sale)).map (cashDue payments)).sum =
    ((sold.filter (paidBy "cash")).map (fun sale => nonCashPaid payments sale.id)).sum

variable (sold : List ShiftSale)

instance decidableHeadersTell : Decidable (HeadersTell payments sold) :=
  decidable_of_iff
    (salesTotal (sold.filter methodless) = 0 ∧
      ((sold.filter (fun sale => !paidBy "cash" sale)).map (cashDue payments)).sum =
        ((sold.filter (paidBy "cash")).map (fun sale => nonCashPaid payments sale.id)).sum)
    ⟨fun h => ⟨h.1, h.2⟩, fun h => ⟨h.methods, h.tenders⟩⟩

theorem sold_by_method :
    salesTotal sold = salesTotal (sold.filter (paidBy "cash")) +
      salesTotal (sold.filter (paidBy "card")) + salesTotal (sold.filter paidOtherwise) +
      salesTotal (sold.filter methodless) := by
  induction sold with
  | nil => rfl
  | cons sale sold ih =>
    simp only [salesTotal, List.map_cons, List.sum_cons] at ih ⊢
    cases hmethod : sale.paymentMethod with
    | none =>
      simp only [paidBy, paidOtherwise, methodless, List.filter_cons, hmethod, Option.any_none,
        decide_true, reduceCtorEq, decide_false, Bool.false_eq_true, if_false, if_true,
        List.map_cons, List.sum_cons] at ih ⊢
      omega
    | some method =>
      by_cases hcash : method = "cash"
      · subst hcash
        simp [paidBy, paidOtherwise, methodless, hmethod] at ih ⊢
        omega
      · by_cases hcard : method = "card"
        · subst hcard
          simp [paidBy, paidOtherwise, methodless, hmethod] at ih ⊢
          omega
        · simp [paidBy, paidOtherwise, methodless, hmethod, hcash, hcard] at ih ⊢
          omega

theorem cash_left :
    (sold.map (cashDue payments)).sum =
      salesTotal (sold.filter (paidBy "cash")) +
        ((sold.filter (fun sale => !paidBy "cash" sale)).map (cashDue payments)).sum -
        ((sold.filter (paidBy "cash")).map (fun sale => nonCashPaid payments sale.id)).sum := by
  induction sold with
  | nil => rfl
  | cons sale sold ih =>
    cases hcash : paidBy "cash" sale with
    | true =>
      simp only [salesTotal, List.filter_cons, hcash, List.map_cons, List.sum_cons, if_true,
        Bool.not_true, Bool.false_eq_true, if_false, cashDue] at ih ⊢
      omega
    | false =>
      simp only [salesTotal, List.filter_cons, hcash, List.map_cons, List.sum_cons,
        Bool.not_false, Bool.false_eq_true, if_false, if_true] at ih ⊢
      omega

theorem checkedArith_ok {n m : Int} (h : checkedArith n = .ok m) : m = n := by
  unfold checkedArith at h
  cases hsum : checkedI64 n with
  | none => simp [hsum] at h
  | some total =>
    simp only [hsum, Except.ok.injEq] at h
    rw [← h]
    exact ((checkedI64_eq_some_iff _ _).mp hsum).1

theorem closedShift_totals {draw : ShiftDraw} {closing : Int} {notes : Option String}
    {s : ShiftDb} {shift closed : Shift} (h : closedShift draw closing notes s shift = .ok closed) :
    closed.totalSalesMinor = salesTotal (s.soldIn shift draw.now) ∧
      closed.totalCashMinor = salesTotal ((s.soldIn shift draw.now).filter (paidBy "cash")) ∧
      closed.totalCardMinor = salesTotal ((s.soldIn shift draw.now).filter (paidBy "card")) ∧
      closed.totalOtherMinor = salesTotal ((s.soldIn shift draw.now).filter paidOtherwise) ∧
      closed.expectedCashMinor = some (shift.openingBalanceMinor +
        salesTotal ((s.soldIn shift draw.now).filter (paidBy "cash")) -
        s.refundsIn shift draw.now (paidBy "cash") - s.payoutsOf shift.id) := by
  obtain ⟨_, hsales, h⟩ := Except.of_bind h
  obtain ⟨_, hcash, h⟩ := Except.of_bind h
  obtain ⟨_, hcard, h⟩ := Except.of_bind h
  obtain ⟨_, hother, h⟩ := Except.of_bind h
  obtain ⟨_, _, h⟩ := Except.of_bind h
  obtain ⟨_, _, h⟩ := Except.of_bind h
  obtain ⟨_, hrefunds, h⟩ := Except.of_bind h
  obtain ⟨_, hpayouts, h⟩ := Except.of_bind h
  obtain ⟨_, hopening, h⟩ := Except.of_bind h
  obtain ⟨_, hrefunded, h⟩ := Except.of_bind h
  obtain ⟨_, hpaidOut, h⟩ := Except.of_bind h
  obtain ⟨_, _, rfl⟩ := Except.of_map h
  refine ⟨sqlSum_ok hsales, sqlSum_ok hcash, sqlSum_ok hcard, sqlSum_ok hother, ?_⟩
  rw [checkedArith_ok hpaidOut, checkedArith_ok hrefunded, checkedArith_ok hopening,
    sqlSum_ok hcash, sqlSum_ok hrefunds, sqlSum_ok hpayouts]

theorem closedShift_reconciles {draw : ShiftDraw} {closing : Int} {notes : Option String}
    {s : ShiftDb} {shift closed : Shift} (h : closedShift draw closing notes s shift = .ok closed) :
    Reconciled payments s draw.now shift closed ↔
      HeadersTell payments (s.soldIn shift draw.now) := by
  obtain ⟨hsales, hcash, hcard, hother, hexpected⟩ := closedShift_totals h
  have hsplit := sold_by_method (s.soldIn shift draw.now)
  have hleft := cash_left payments (s.soldIn shift draw.now)
  constructor
  · rintro ⟨hmethods, hdrawer⟩
    rw [hsales, hcash, hcard, hother] at hmethods
    rw [hexpected, Option.some.injEq] at hdrawer
    exact ⟨by omega, by omega⟩
  · rintro ⟨hmethods, htenders⟩
    constructor
    · rw [hsales, hcash, hcard, hother]
      omega
    · rw [hexpected, Option.some.injEq]
      omega

variable (draw : ShiftDraw) (id : String)

def ClosingReconciles (s next : ShiftDb) : Prop :=
  ∀ shift ∈ s.shifts.find? id, ∀ closed ∈ next.shifts.find? id,
    Reconciled payments s draw.now shift closed

instance decidableClosingReconciles (s next : ShiftDb) : Decidable (ClosingReconciles payments draw id s next) :=
  inferInstanceAs (Decidable (∀ shift ∈ s.shifts.find? id, ∀ closed ∈ next.shifts.find? id,
    Reconciled payments s draw.now shift closed))

/-- A closing reconciles the drawer exactly when the method on each sale's row tells what the
tenders of the sales come to. -/
theorem closeShift_reconciles_iff (closing : Int) (notes : Option String) (s next : ShiftDb)
    (h : closeShift draw id closing notes s = .ok next) :
    ClosingReconciles payments draw id s next ↔
      ∀ shift ∈ s.shifts.find? id, HeadersTell payments (s.soldIn shift draw.now) := by
  obtain ⟨shift, closed, hfind, _, hclosed, rfl⟩ := closeShift_ok h
  have hkey := Table.find?_key hfind
  have hid : closed.id = id := by
    rw [(closedShift_ok hclosed).1, hkey]
  have hnext : (s.shifts.upsert closed).find? id = some closed := by
    rw [Table.find?_upsert, if_pos hid]
  simp only [ClosingReconciles, hfind, hnext, Option.mem_def, Option.some.injEq, forall_eq']
  exact closedShift_reconciles payments hclosed

def Told (sale : ShiftSale) : Prop :=
  if paidBy "cash" sale then nonCashPaid payments sale.id = 0
  else methodless sale = false ∧ cashDue payments sale = 0

inductive TillCall where
  | complete (sale : ShiftSale) (method : String) (splits : Option (List PaymentSplitArg))
  | shift (e : ShiftEvent)

def tillMachine : Machine Till TillCall Unit where
  step till
    | .complete sale method splits => ((till.completeSale sale method splits).toOption.getD till, ())
    | .shift e => ({ till with books := (shiftMachine.step till.books e).1 }, ())

/-- A sale is settled with a single tender, or written as a cash sale with no payments. -/
def SingleTender (_ : Till) : TillCall → Prop
  | .complete _ _ splits => splits = none
  | .shift (.createSale sale, _) => sale.paymentMethod = some "cash"
  | .shift _ => True

/-- Every payment is of a sale, and every sale's method tells its payments. -/
structure TillTold (till : Till) : Prop where
  ofSale : ∀ p ∈ till.payments, (till.books.sales.find? p.saleId).isSome
  told : ∀ sale ∈ till.books.sales.rows, Told till.payments sale

variable {sale : ShiftSale} {payments : List TenderRow}

theorem told_congr {other : ShiftSale} (hid : other.id = sale.id)
    (hmethod : other.paymentMethod = sale.paymentMethod)
    (htotal : other.totalMinor = sale.totalMinor) : Told payments other ↔ Told payments sale := by
  have hpaid : paidBy "cash" other = paidBy "cash" sale := by
    simp only [paidBy, hmethod]
  have hless : methodless other = methodless sale := by
    simp only [methodless, hmethod]
  have hdue : cashDue payments other = cashDue payments sale := by
    simp only [cashDue, hid, htotal]
  rw [Told, Told, hpaid, hless, hdue, hid]

theorem nonCashPaid_append (payments more : List TenderRow) (saleId : String) :
    nonCashPaid (payments ++ more) saleId =
      nonCashPaid payments saleId + nonCashPaid more saleId := by
  simp only [nonCashPaid, List.filter_append, List.map_append, List.sum_append]

theorem nonCashPaid_of_other {saleId : String}
    (h : ∀ p ∈ payments, p.saleId ≠ saleId) : nonCashPaid payments saleId = 0 := by
  have hnone : payments.filter (fun p => p.saleId = saleId ∧ p.method ≠ "cash") = [] := by
    apply List.filter_eq_nil_iff.mpr
    intro p hp hboth
    simp only [decide_eq_true_eq] at hboth
    exact h p hp hboth.1
  rw [nonCashPaid, hnone]
  rfl

theorem told_more {more : List TenderRow} (h : ∀ p ∈ more, p.saleId ≠ sale.id) :
    Told (payments ++ more) sale ↔ Told payments sale := by
  simp only [Told, cashDue, nonCashPaid_append, nonCashPaid_of_other h, add_zero]

variable {till : Till}

theorem TillTold.unpaid (h : TillTold till) {saleId : String}
    (hfresh : till.books.sales.find? saleId = none) : nonCashPaid till.payments saleId = 0 := by
  apply nonCashPaid_of_other
  rintro p hp rfl
  have hsome := h.ofSale p hp
  rw [hfresh] at hsome
  exact absurd hsome (by decide)

theorem TillTold.add (h : TillTold till) {sales : Table String ShiftSale ShiftSale.id}
    {more : List TenderRow} (hinsert : till.books.sales.insert? sale = some sales)
    (hmore : ∀ p ∈ more, p.saleId = sale.id) (htold : Told more sale) :
    TillTold ⟨{ till.books with sales }, till.payments ++ more⟩ := by
  have hfind := Table.find?_insert? hinsert
  have hfresh : till.books.sales.find? sale.id = none := by
    rw [← Table.insert?_isSome_iff, hinsert]
    rfl
  constructor
  · intro p hp
    show (sales.find? p.saleId).isSome
    rw [hfind]
    split
    · rfl
    · rename_i hne
      rcases List.mem_append.mp hp with hp | hp
      · exact h.ofSale p hp
      · exact absurd (hmore p hp).symm hne
  · intro other hother
    have hrows : other ∈ till.books.sales.rows ++ [sale] := by
      rw [← Table.insert?_rows hinsert]
      exact hother
    rcases List.mem_append.mp hrows with hold | hnew
    · have hne : other.id ≠ sale.id := by
        intro hid
        have hsome := (Table.mem_rows_iff _ _).mp hold
        rw [hid, hfresh] at hsome
        cases hsome
      apply (told_more _).mpr (h.told other hold)
      intro p hp heq
      exact hne (heq.symm.trans (hmore p hp))
    · rw [List.mem_singleton] at hnew
      subst hnew
      simpa only [Told, cashDue, nonCashPaid_append, h.unpaid hfresh, zero_add] using htold

theorem told_single (sale : ShiftSale) (method : String) :
    Told ((tendersOf method none sale.totalMinor).map (tenderRow sale.id))
      { sale with
        paymentMethod := some ((paymentKind none).wireMethod method), status := .pending } := by
  by_cases hcash : method = "cash"
  · simp [Told, paidBy, paymentKind, PaymentKind.wireMethod, hcash, nonCashPaid, tendersOf,
      tenderRow]
  · simp [Told, paidBy, methodless, cashDue, paymentKind, PaymentKind.wireMethod, hcash,
      nonCashPaid, tendersOf, tenderRow]

theorem TillTold.complete {next : Till} {method : String} (h : TillTold till)
    (hnext : till.completeSale sale method none = .ok next) : TillTold next := by
  obtain ⟨_, _, hnext⟩ := Except.of_bind hnext
  cases hinsert : till.books.sales.insert? { sale with
      paymentMethod := some ((paymentKind none).wireMethod method), status := .pending } with
  | none =>
    rw [hinsert] at hnext
    cases hnext
  | some sales =>
    rw [hinsert] at hnext
    cases hnext
    apply h.add hinsert _ (told_single sale method)
    intro p hp
    obtain ⟨split, _, rfl⟩ := List.mem_map.mp hp
    rfl

theorem TillTold.setSaleStatus (h : TillTold till) (saleId : String)
    (observed status : SaleStatus) :
    TillTold { till with books := till.books.setSaleStatus saleId observed status } := by
  constructor
  · intro p hp
    simp only [ShiftDb.setSaleStatus]
    rw [Table.find?_update, Option.isSome_map]
    exact h.ofSale p hp
  · intro sale hsale
    have hrows : (till.books.setSaleStatus saleId observed status).sales.rows =
        till.books.sales.rows.map (restatused saleId observed status) := rfl
    simp only [hrows] at hsale
    obtain ⟨old, hold, rfl⟩ := List.mem_map.mp hsale
    have htold := h.told old hold
    unfold restatused
    split
    · split
      · exact (told_congr rfl rfl rfl).mpr htold
      · exact htold
    · exact htold

theorem TillTold.write {e : ShiftEvent} {next : ShiftDb} (h : TillTold till)
    (hok : SingleTender till (.shift e)) (hwrite : e.1.write e.2 till.books = .ok next) :
    TillTold { till with books := next } := by
  obtain ⟨call, draw⟩ := e
  cases call with
  | openShift userId terminalId opening =>
    obtain ⟨shifts, _, _, rfl⟩ := openShift_ok hwrite
    exact ⟨h.ofSale, h.told⟩
  | closeShift id closing notes =>
    obtain ⟨_, _, _, _, _, rfl⟩ := closeShift_ok hwrite
    exact ⟨h.ofSale, h.told⟩
  | createSale sale =>
    cases hinsert : till.books.sales.insert? sale with
    | none => simp [ShiftCall.write, hinsert] at hwrite
    | some sales =>
      simp only [ShiftCall.write, hinsert, Except.ok.injEq] at hwrite
      subst hwrite
      have htold : Told [] sale := by
        have hmethod : sale.paymentMethod = some "cash" := hok
        have hcash : paidBy "cash" sale = true := by
          simp [paidBy, hmethod]
        rw [Told, if_pos hcash]
        rfl
      have hadd := h.add hinsert (List.forall_mem_nil _) htold
      rwa [List.append_nil] at hadd
  | finalizeSale saleId =>
    cases hwrite
    exact h.setSaleStatus saleId .pending .completed
  | voidSale saleId =>
    cases hwrite
    exact h.setSaleStatus saleId .active .voided
  | voidPendingSale saleId =>
    cases hwrite
    exact h.setSaleStatus saleId .pending .voided

theorem TillTold.step (till : Till) (call : TillCall) (h : TillTold till)
    (hok : SingleTender till call) : TillTold (tillMachine.step till call).1 := by
  cases call with
  | complete sale method splits =>
    have hsplits : splits = none := hok
    subst hsplits
    cases hdone : till.completeSale sale method none with
    | error e => simpa [tillMachine, hdone, Except.toOption] using h
    | ok next => simpa [tillMachine, hdone, Except.toOption] using h.complete hdone
  | shift e =>
    simp only [tillMachine, shiftMachine]
    split
    · exact h
    · split
      · exact h
      · rename_i next hwrite
        exact h.write hok hwrite

theorem headersTell_of_told {sold : List ShiftSale} (h : ∀ sale ∈ sold, Told payments sale) :
    HeadersTell payments sold := by
  induction sold with
  | nil => exact ⟨rfl, rfl⟩
  | cons sale sold ih =>
    obtain ⟨hmethods, htenders⟩ := ih (fun sale hsale => h sale (List.mem_cons_of_mem _ hsale))
    have htold := h sale List.mem_cons_self
    unfold Told at htold
    split at htold
    · rename_i hcash
      have hmethod : methodless sale = false := by
        cases hpaid : sale.paymentMethod <;> simp_all [paidBy, methodless]
      constructor <;> simp [hcash, hmethod, htold, hmethods, htenders]
    · rename_i hcash
      constructor <;> simp [hcash, htold.1, htold.2, hmethods, htenders]

/-- Where every sale of a run is settled with one tender, or is a cash sale with no payments, every
closing of a shift reconciles the drawer with the tenders. -/
theorem single_tender_reconciles (draw : ShiftDraw) (id : String) (closing : Int)
    (notes : Option String) (next : ShiftDb) (calls : List TillCall) (hsales : till.books.sales.rows = [])
    (hpayments : till.payments = []) (hsingle : tillMachine.Along SingleTender till calls)
    (h : closeShift draw id closing notes (tillMachine.run till calls).books = .ok next) :
    ClosingReconciles (tillMachine.run till calls).payments draw id
      (tillMachine.run till calls).books next := by
  have htold : TillTold (tillMachine.run till calls) := by
    apply tillMachine.run_invariant TillTold.step till calls _ hsingle
    exact ⟨by simp [hpayments], by simp [hsales]⟩
  obtain ⟨shift, closed, hfind, _, hclosed, rfl⟩ := closeShift_ok h
  have hid : closed.id = id := by
    rw [(closedShift_ok hclosed).1, Table.find?_key hfind]
  intro found hfound last hlast
  rw [hfind, Option.mem_def, Option.some.injEq] at hfound
  rw [Option.mem_def, Table.find?_upsert, if_pos hid, Option.some.injEq] at hlast
  subst hfound hlast
  exact (closedShift_reconciles _ hclosed).mpr
    (headersTell_of_told (fun sale hsale => htold.told sale (List.mem_filter.mp hsale).1))

def openTill : Till := ⟨shiftMachine.run cashier [openAt "k-1" "01"], []⟩

def settledTill (call : TillCall) : Till :=
  tillMachine.run openTill [call, .shift (finalizeAt "s-1" "03")]

def counterSale (splits : Option (List PaymentSplitArg)) : TillCall :=
  .complete ⟨"s-1", some "u-1", "02", .pending, none, 900⟩ "cash" splits

def drawerClosing : ShiftDraw := shiftDraw "" "04"

def closedTill (call : TillCall) : Except ShiftError ShiftDb :=
  closeShift drawerClosing "k-1" 0 none (settledTill call).books

theorem cash_sale_reconciles :
    ∃ next, closedTill (counterSale none) = .ok next ∧
      ClosingReconciles (settledTill (counterSale none)).payments drawerClosing "k-1"
        (settledTill (counterSale none)).books next := by
  cases hclose : closedTill (counterSale none) with
  | error e =>
    have hok : (closedTill (counterSale none)).toOption.isSome := by decide +kernel
    rw [hclose] at hok
    exact absurd hok (by simp [Except.toOption])
  | ok next =>
    refine ⟨next, rfl, ?_⟩
    rw [closeShift_reconciles_iff _ _ _ _ _ _ _ hclose]
    decide +kernel

theorem counter_sale_reconciles :
    ∃ next ∈ (closedTill (counterSale none)).toOption,
      ClosingReconciles (settledTill (counterSale none)).payments drawerClosing "k-1"
        (settledTill (counterSale none)).books next := by
  have hok : (closedTill (counterSale none)).toOption.isSome := by decide +kernel
  cases hclose : closedTill (counterSale none) with
  | error e => simp [hclose, Except.toOption] at hok
  | ok next =>
    exact ⟨next, rfl, single_tender_reconciles drawerClosing "k-1" 0 none next _ rfl rfl
      ⟨rfl, trivial, trivial⟩ hclose⟩

def splitSale : TillCall :=
  counterSale (some [⟨"cash", 600, none⟩, ⟨"card", 300, none⟩])

def methodlessSale : TillCall :=
  .shift (.createSale ⟨"s-1", some "u-1", "02", .completed, none, 900⟩, shiftDraw "" "02")

theorem split_and_methodless_unreckoned :
    (∃ next ∈ (closedTill splitSale).toOption,
      ¬ ClosingReconciles (settledTill splitSale).payments drawerClosing "k-1"
        (settledTill splitSale).books next) ∧
    (∃ next ∈ (closedTill methodlessSale).toOption,
      ¬ ClosingReconciles (settledTill methodlessSale).payments drawerClosing "k-1"
        (settledTill methodlessSale).books next) := by
  decide +kernel

end OzPos
