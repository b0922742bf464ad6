import OzPos.Commerce.Loyalty
import OzPos.Commerce.SaleLifecycle
import OzPos.Commerce.SaleReplication

namespace OzPos

open DomainTables

/-- A row of `customers`. The sum is `none` once it has left the integers, where SQLite goes on
with a float. -/
structure Customer where
  id : String
  totalSpentMinor : Option Int
  deriving DecidableEq

/-- `accrued` is history: the sales the accrual has run for. -/
structure CustomerBook where
  customers : Table String Customer Customer.id
  accrued : List String

/-- `base_total_minor.unwrap_or(total_minor)`. -/
def SaleRow.earnTotal (sale : SaleRow) : Int := sale.baseTotalMinor.getD sale.totalMinor

def Customer.spend (f : Int → Int) (c : Customer) : Customer :=
  { c with totalSpentMinor := c.totalSpentMinor.bind (fun n => checkedI64 (f n)) }

def CustomerBook.accrue (sale : SaleRow) (book : CustomerBook) : CustomerBook :=
  match sale.customerId with
  | none => book
  | some customerId =>
    ⟨book.customers.update customerId (Customer.spend (· + sale.earnTotal)) (fun _ => rfl),
      book.accrued ++ [sale.id]⟩

variable (d : DomainTables CustomerBook)

def applyCustomerStatsOnCompletion (saleId : String) : CustomerBook :=
  match d.sales.find? saleId with
  | none => d.crm
  | some sale => d.crm.accrue sale

/-- The refund at the rate recorded on the sale, rounded half up. -/
def refundBase (refundTotal saleTotal : Int) (saleBaseTotal : Option Int) : Int :=
  match saleBaseTotal with
  | none => refundTotal
  | some base =>
    if 0 < saleTotal ∧ base ≠ saleTotal then
      asI64 ((refundTotal * base * 2 + saleTotal).tdiv (saleTotal * 2))
    else refundTotal

def reverseCustomerSpendOnRefund (customerId : String)
    (refundTotal saleTotal : Int) (saleBaseTotal : Option Int) : CustomerBook :=
  { d.crm with
    customers := d.crm.customers.update customerId
      (Customer.spend (fun n => max (n - refundBase refundTotal saleTotal saleBaseTotal) 0))
      (fun _ => rfl) }

def spendCrm : Crm CustomerBook where
  applyCustomerStatsOnCompletion := applyCustomerStatsOnCompletion
  reverseLoyaltyOnRefund := fun d _ _ _ _ => d.crm
  reverseCustomerSpendOnRefund := fun d customerId refundTotal saleTotal saleBaseTotal _ =>
    reverseCustomerSpendOnRefund d customerId refundTotal saleTotal saleBaseTotal

section Frames

variable {κ : Type}

namespace DomainTables

variable {now : String} {d d' : DomainTables κ}

theorem creditRecorded_frame {sku : String} {entry : Json}
    (h : d.creditRecorded now sku entry = .ok d') : StockOnly d d' := by
  unfold creditRecorded at h
  split at h
  · cases h
  · split at h
    · cases h
    · obtain ⟨⟨level, d₁⟩, hadjust, rfl⟩ := Except.of_map h
      obtain ⟨_, _, _, hmoved⟩ := adjustStockAtLocation_ok hadjust
      exact hmoved.frame

theorem creditRecordedEntries_frame {sku : String} {entries : List Json}
    (h : d.creditRecordedEntries now sku entries = .ok d') : StockOnly d d' := by
  induction entries generalizing d with
  | nil =>
    cases h
    exact .refl _
  | cons entry rest ih =>
    obtain ⟨d₁, hhere, hlater⟩ := Except.of_bind h
    exact (creditRecorded_frame hhere).trans (ih hlater)

theorem creditRecordedLines_frame {lines : List Json}
    (h : d.creditRecordedLines now lines = .ok d') : StockOnly d d' := by
  induction lines generalizing d with
  | nil =>
    cases h
    exact .refl _
  | cons line rest ih =>
    obtain ⟨d₁, hhere, hlater⟩ := Except.of_bind h
    refine StockOnly.trans ?_ (ih hlater)
    unfold creditRecordedLine at hhere
    split at hhere
    · cases hhere
    · split at hhere
      · exact creditRecordedEntries_frame hhere
      · cases hhere
        exact .refl _

end DomainTables

theorem creditVoided_frame {now : String} {recorded : Option Payload} {d d' : DomainTables κ}
    (h : creditVoided now recorded d = .ok d') : StockOnly d d' := by
  unfold creditVoided at h
  split at h
  · cases h
    exact .refl _
  · split at h
    · cases h
    · unfold creditRecordedDoc at h
      split at h
      · exact creditRecordedLines_frame h
      · cases h
        exact .refl _

variable {db db' : SalesDb κ}

theorem voidPendingSale_marks {now saleId : String} (h : voidPendingSale now saleId db = .ok db') :
    ∃ sale d, db.domain.sales.find? saleId = some sale ∧ sale.status = "pending" ∧
      StockOnly db.domain d ∧ db'.domain = d.setSaleStatus now saleId "voided" := by
  unfold voidPendingSale at h
  split at h
  · cases h
  · rename_i sale hpending
    obtain ⟨hfind, hstatus⟩ := Option.filter_eq_some_iff.mp hpending
    obtain ⟨d, hcredit, rfl⟩ := Except.of_map h
    obtain ⟨_, _, hcancelled⟩ := cancelKdsOrders_frame saleId
      { db with domain := d.setSaleStatus now saleId "voided" }
    exact ⟨sale, d, hfind, by simpa using hstatus, creditVoided_frame hcredit,
      by rw [hcancelled]⟩

variable {draw : CheckoutDraw} {sale : Sale}

theorem insertSale_ok {status : String} {doc : Json}
    (h : insertSale draw status doc sale db = .ok db') :
    ∃ sales, db.domain.sales.insert? (saleRowOf draw status sale) = some sales ∧
      db'.domain = { db.domain with sales } := by
  unfold insertSale at h
  split at h
  · cases h
  · rename_i sales hsales
    cases h
    exact ⟨sales, hsales, rfl⟩

variable {result : CompleteSaleResult}

theorem settleSale_books {status : String}
    (h : settleSale draw status sale db = .ok (db', result)) :
    db'.domain.sales = db.domain.sales ∧ db'.domain.crm = db.domain.crm := by
  obtain ⟨db₁, hlines, h⟩ := Except.of_bind h
  obtain ⟨db₂, houtbox, h⟩ := Except.of_bind h
  obtain ⟨_, _, _, _, rfl⟩ := insertSaleLines_ok hlines
  obtain ⟨_, _, rfl⟩ := enqueueSaleOutboxInTx_ok houtbox
  split at h
  · cases h
  · cases h
    exact ⟨rfl, rfl⟩

theorem retry_books {crm : Crm κ} {settings : CheckoutSettings}
    {call : CheckoutCall} {primary : String} {resolutions : List ResolvedShortfall}
    (h : completeSaleWithResolvedShortfalls crm settings draw call primary resolutions sale db =
      .ok (db', result)) :
    ∃ sales d, db.domain.sales.insert? (saleRowOf draw "completed" sale) = some sales ∧
      d.sales = sales ∧ d.crm = db.domain.crm ∧ db'.domain.sales = sales ∧
      db'.domain.crm = crm.applyCustomerStatsOnCompletion d sale.id := by
  obtain ⟨_, _, h⟩ := Except.of_bind h
  obtain ⟨_, _, h⟩ := Except.of_bind h
  obtain ⟨_, _, h⟩ := Except.of_bind h
  obtain ⟨_, _, h⟩ := Except.of_bind h
  obtain ⟨db₁, hdeduct, h⟩ := Except.of_bind (coreResult_ok h)
  obtain ⟨db₂, hinsert, hsettle⟩ := Except.of_bind h
  obtain ⟨d, hwrote, rfl⟩ := deductForSale_ok hdeduct
  obtain ⟨_, _, _, rfl⟩ := hwrote.frame
  obtain ⟨sales, hsales, hdomain⟩ := insertSale_ok hinsert
  obtain ⟨hsame, hcrm⟩ := settleSale_books hsettle
  refine ⟨sales, db₂.domain, hsales, ?_, ?_, ?_, hcrm⟩
  · rw [hdomain]
  · rw [hdomain]
  · rw [hsame]
    simp only [hdomain]

theorem checkout_books {settings : CheckoutSettings} {call : CheckoutCall}
    (h : completeSaleDeductionWithLocations settings draw call sale db = .ok (db', result)) :
    ∃ sales, db.domain.sales.insert? (saleRowOf draw "pending" sale) = some sales ∧
      db'.domain.sales = sales ∧ db'.domain.crm = db.domain.crm := by
  obtain ⟨_, _, h⟩ := Except.of_bind h
  obtain ⟨_, _, h⟩ := Except.of_bind h
  obtain ⟨plan, _, h⟩ := Except.of_bind h
  split at h
  · cases h
  · obtain ⟨_, _, h⟩ := Except.of_bind h
    obtain ⟨db₁, hdeduct, h⟩ := Except.of_bind (coreResult_ok h)
    obtain ⟨db₂, hinsert, hsettle⟩ := Except.of_bind h
    obtain ⟨d, hwrote, rfl⟩ := deductForSale_ok hdeduct
    obtain ⟨_, _, _, rfl⟩ := hwrote.frame
    obtain ⟨sales, hsales, hdomain⟩ := insertSale_ok hinsert
    obtain ⟨hsame, hcrm⟩ := settleSale_books hsettle
    exact ⟨sales, hsales, by rw [hsame, hdomain], by rw [hcrm, hdomain]⟩

end Frames

/-- What a sale is worth to a customer: its total once it is completed. -/
def spendOf (customerId : String) (sale : SaleRow) : Int :=
  if sale.status = "completed" ∧ sale.customerId = some customerId then sale.earnTotal else 0

abbrev SaleTable := Table String SaleRow SaleRow.id

def completedTotal (sales : SaleTable) (customerId : String) : Int :=
  (sales.rows.map (spendOf customerId)).sum

def IsCompleted (sales : SaleTable) (saleId : String) : Prop :=
  ∃ sale, sales.find? saleId = some sale ∧ sale.status = "completed"

/-- Every customer has spent what their completed sales come to; no sale has accrued twice, and
only completed ones have. -/
structure Accounted (sales : SaleTable) (book : CustomerBook) : Prop where
  spent : ∀ c ∈ book.customers.rows, c.totalSpentMinor = some (completedTotal sales c.id)
  once : book.accrued.Nodup
  completed : ∀ saleId ∈ book.accrued, IsCompleted sales saleId

def OwesNothing (book : CustomerBook) (sale : SaleRow) : Prop :=
  ∀ c ∈ book.customers.rows, sale.customerId = some c.id → sale.earnTotal = 0

def Accruable (book : CustomerBook) (sale : SaleRow) : Prop :=
  ∀ c ∈ book.customers.rows, sale.customerId = some c.id → ∀ n, c.totalSpentMinor = some n →
    FitsI64 (n + sale.earnTotal)

/-- One sale is new or moves on, from a status that is not `completed`; `sale` is its row then. -/
structure Advances (sales sales' : SaleTable) (sale : SaleRow) : Prop where
  found : sales'.find? sale.id = some sale
  total : ∀ customerId, completedTotal sales' customerId =
    completedTotal sales customerId + spendOf customerId sale
  kept : ∀ saleId, IsCompleted sales saleId → IsCompleted sales' saleId
  fresh : ¬ IsCompleted sales sale.id

section Accounting

variable {sales sales' : SaleTable} {book : CustomerBook} {sale : SaleRow}

theorem Advances.inserted (h : sales.insert? sale = some sales') : Advances sales sales' sale := by
  have hfree := (Table.insert?_isSome_iff _ _).mp (by rw [h]; rfl)
  refine ⟨?_, ?_, ?_, ?_⟩
  · rw [Table.find?_insert? h, if_pos rfl]
  · intro customerId
    exact Table.sum_insert? h _
  · rintro saleId ⟨row, hrow, hcompleted⟩
    refine ⟨row, ?_, hcompleted⟩
    have hne : sale.id ≠ saleId := by
      rintro rfl
      rw [hfree] at hrow
      cases hrow
    rw [Table.find?_insert? h, if_neg hne]
    exact hrow
  · rintro ⟨row, hrow, _⟩
    rw [hfree] at hrow
    cases hrow

theorem Advances.marked {d : DomainTables CustomerBook} (now status : String)
    {saleId : String} (hfind : d.sales.find? saleId = some sale) (hopen : sale.status ≠ "completed") :
    Advances d.sales (d.setSaleStatus now saleId status).sales
      { sale with status, updatedAt := now, version := sale.version + 1 } := by
  have hid : sale.id = saleId := Table.find?_key hfind
  have hfresh : ¬ IsCompleted d.sales saleId := by
    rintro ⟨row, hrow, hcompleted⟩
    obtain rfl := Option.some.inj (hfind.symm.trans hrow)
    exact hopen hcompleted
  refine ⟨?_, ?_, ?_, ?_⟩
  · rw [setSaleStatus, Table.find?_update]
    simp only [hid, hfind, Option.map_some, if_true]
  · intro customerId
    have hbefore : spendOf customerId sale = 0 := if_neg (fun h => hopen h.1)
    unfold completedTotal setSaleStatus
    rw [Table.sum_update _ _ _ _ hfind, hbefore]
    omega
  · rintro other ⟨row, hrow, hcompleted⟩
    have hne : other ≠ saleId := by
      rintro rfl
      exact hfresh ⟨row, hrow, hcompleted⟩
    refine ⟨row, ?_, hcompleted⟩
    rw [setSaleStatus, Table.find?_update, hrow]
    simp [hne]
  · simp only [hid]
    exact hfresh

theorem Advances.unaccrued_iff (h : Advances sales sales' sale) (hbook : Accounted sales book) :
    Accounted sales' book ↔ (sale.status = "completed" → OwesNothing book sale) := by
  constructor
  · intro hafter hcompleted c hc hcustomer
    have hsame := Option.some.inj ((hbook.spent c hc).symm.trans (hafter.spent c hc))
    rw [h.total, spendOf, if_pos ⟨hcompleted, hcustomer⟩] at hsame
    omega
  · intro howes
    refine ⟨?_, hbook.once, fun saleId hsale => h.kept saleId (hbook.completed saleId hsale)⟩
    intro c hc
    have hnothing : spendOf c.id sale = 0 := by
      unfold spendOf
      split
      · rename_i hspend
        exact howes hspend.1 c hc hspend.2
      · rfl
    rw [hbook.spent c hc, h.total, hnothing, Int.add_zero]

theorem Advances.accrued_iff (h : Advances sales sales' sale)
    (hcompleted : sale.status = "completed") (hbook : Accounted sales book) :
    Accounted sales' (book.accrue sale) ↔ Accruable book sale := by
  cases hcustomer : sale.customerId with
  | none =>
    have howes : OwesNothing book sale := by
      intro c _ hc
      rw [hcustomer] at hc
      cases hc
    have hfits : Accruable book sale := by
      intro c _ hc
      rw [hcustomer] at hc
      cases hc
    have hsame : book.accrue sale = book := by
      unfold CustomerBook.accrue
      rw [hcustomer]
    rw [hsame, h.unaccrued_iff hbook]
    simp [howes, hfits]
  | some customerId =>
    have hbook' : book.accrue sale = ⟨book.customers.update customerId
        (Customer.spend (· + sale.earnTotal)) (fun _ => rfl), book.accrued ++ [sale.id]⟩ := by
      unfold CustomerBook.accrue
      rw [hcustomer]
    have htotal : ∀ c : Customer, completedTotal sales' c.id = completedTotal sales c.id +
        if c.id = customerId then sale.earnTotal else 0 := by
      intro c
      rw [h.total, spendOf, hcustomer]
      simp [hcompleted, eq_comm]
    rw [hbook']
    constructor
    · intro hafter c hc hid n hn
      obtain rfl : customerId = c.id := Option.some.inj (hcustomer.symm.trans hid)
      have hmem : c.spend (· + sale.earnTotal) ∈ (book.customers.update c.id
          (Customer.spend (· + sale.earnTotal)) (fun _ => rfl)).rows :=
        (Table.mem_update _ _ _ _ _).mpr ⟨c, hc, (if_pos rfl).symm⟩
      have hrow := hafter.spent _ hmem
      simp only [Customer.spend, hn, Option.bind_some] at hrow
      exact ((checkedI64_eq_some_iff _ _).mp hrow).2
    · intro hfits
      refine ⟨?_, ?_, ?_⟩
      · intro row hrow
        obtain ⟨c, hc, rfl⟩ := (Table.mem_update _ customerId
          (Customer.spend (· + sale.earnTotal)) (fun _ => rfl) _).mp hrow
        by_cases hid : c.id = customerId
        · have hspent := hbook.spent c hc
          have hsum := hfits c hc (by rw [hcustomer, hid]) _ hspent
          rw [if_pos hid]
          simp only [Customer.spend, hspent, Option.bind_some, htotal c, if_pos hid]
          exact (checkedI64_eq_some_iff _ _).mpr ⟨rfl, hsum⟩
        · rw [if_neg hid, hbook.spent c hc, htotal c, if_neg hid, Int.add_zero]
      · rw [List.nodup_append]
        refine ⟨hbook.once, List.nodup_singleton _, ?_⟩
        intro saleId hsale other hother
        rw [List.mem_singleton.mp hother]
        rintro rfl
        exact h.fresh (hbook.completed _ hsale)
      · intro saleId hsale
        rcases List.mem_append.mp hsale with hsale | hsale
        · exact h.kept saleId (hbook.completed saleId hsale)
        · rw [List.mem_singleton.mp hsale]
          exact ⟨sale, h.found, hcompleted⟩

end Accounting

inductive LifecycleEvent where
  | own (e : SaleEvent)
  | create (sale : ImportedSale)
  | updateStatus (now saleId : String) (observed : Option SaleRow) (to_ : SaleStatus)
  | voidActive (now userId reason : String) (draw : Draw) (saleId : String)
    (observed : Option SaleRow)
  | remoteFinalize (draw : ApplyDraw) (item : OfflineQueueItem)
  | remoteVoid (draw : ApplyDraw) (item : OfflineQueueItem)

def applyPulled (kind : RemoteAction) (draw : ApplyDraw) (item : OfflineQueueItem)
    (db : SalesDb CustomerBook) : SalesDb CustomerBook :=
  if remoteAction item.action = kind then
    match applyRemoteInTx spendCrm draw item db.domain with
    | .ok domain => { db with domain }
    | .error _ => db
  else db

variable (db : SalesDb CustomerBook)

def LifecycleEvent.act (db : SalesDb CustomerBook) : LifecycleEvent → SalesDb CustomerBook
  | .own e => e.act spendCrm db
  | .create sale => (createSale sale db).toOption.getD db
  | .updateStatus now saleId observed to_ =>
    (updateSaleStatus now saleId observed to_ db).toOption.getD db
  | .voidActive now userId reason draw saleId observed =>
    (voidSale now userId reason draw saleId observed db).toOption.getD db
  | .remoteFinalize draw item => applyPulled .finalizeSale draw item db
  | .remoteVoid draw item => applyPulled .voidSale draw item db

def lifecycleMachine : Machine (SalesDb CustomerBook) LifecycleEvent Unit :=
  ⟨fun db e => (e.act db, ())⟩

def SalesDb.Accounted (db : SalesDb CustomerBook) : Prop :=
  OzPos.Accounted db.domain.sales db.domain.crm

/-- A finalize that completes the sale stays within the integers. -/
def FinalizeAccrues (saleId : String) : Prop :=
  ∀ sale, db.domain.sales.find? saleId = some sale → sale.status = "pending" →
    Accruable db.domain.crm sale

/-- The sale taken in, or taken to `completed`, outside the doors that accrue owes nothing; and
what the other doors accrue stays within the integers. -/
def Accrues : LifecycleEvent → Prop
  | .own (.retry settings draw call primary resolutions sale) =>
    (completeSaleWithResolvedShortfalls spendCrm settings draw call primary resolutions sale
      db).isOk = true → Accruable db.domain.crm (saleRowOf draw "completed" sale)
  | .own (.finalize _ saleId) => FinalizeAccrues db saleId
  | .own _ => True
  | .create sale => (createSale sale db).isOk = true → sale.status = .completed →
      OwesNothing db.domain.crm (importedRow sale)
  | .updateStatus _ saleId observed to_ =>
    to_ = .completed → observed.map SaleRow.status = some "active" →
      ∀ sale, db.domain.sales.find? saleId = some sale → sale.status = "active" →
        OwesNothing db.domain.crm sale
  | .voidActive _ _ _ _ _ _ => True
  | .remoteFinalize _ item => remoteAction item.action = .finalizeSale →
      ∀ saleId, parsed "invalid finalize payload" readSaleId item.payload = .ok saleId →
        FinalizeAccrues db saleId
  | .remoteVoid _ _ => True

section Step

variable {db db' : SalesDb CustomerBook}

theorem SalesDb.Accounted.advanced (h : db.Accounted) {sale : SaleRow}
    (hadvances : Advances db.domain.sales db'.domain.sales sale)
    (hcrm : db'.domain.crm = db.domain.crm) (hopen : sale.status ≠ "completed") :
    db'.Accounted := by
  unfold SalesDb.Accounted
  rw [hcrm]
  exact (hadvances.unaccrued_iff h).mpr (fun hcompleted => absurd hcompleted hopen)

theorem finalize_accounted_iff (h : db.Accounted) (now saleId : String) :
    Accounted (db.domain.finalizeSaleInTx spendCrm now saleId).sales
        (db.domain.finalizeSaleInTx spendCrm now saleId).crm ↔ FinalizeAccrues db saleId := by
  unfold finalizeSaleInTx FinalizeAccrues
  cases hfind : db.domain.sales.find? saleId with
  | none =>
    simp only [reduceCtorEq, false_implies, implies_true, iff_true]
    exact h
  | some sale =>
    by_cases hpending : sale.status = "pending"
    · have hadvances := Advances.marked now "completed" hfind (by
        rw [hpending]
        decide)
      have hbook : spendCrm.applyCustomerStatsOnCompletion
          (db.domain.setSaleStatus now saleId "completed") saleId = db.domain.crm.accrue
            { sale with
              status := "completed", updatedAt := now, version := sale.version + 1 } := by
        obtain rfl := Table.find?_key hfind
        simp only [spendCrm, applyCustomerStatsOnCompletion, hadvances.found]
        rfl
      simp only [if_pos hpending, hbook]
      rw [hadvances.accrued_iff rfl h]
      constructor
      · intro hfits sale' hsale _
        obtain rfl := Option.some.inj hsale
        exact hfits
      · intro hfits
        exact hfits sale rfl hpending
    · simp only [if_neg hpending]
      constructor
      · intro _ sale' hsale hpending'
        obtain rfl := Option.some.inj hsale
        exact absurd hpending' hpending
      · intro _
        exact h

theorem voided_open : "voided" ≠ "completed" := by decide

theorem pending_open : "pending" ≠ "completed" := by decide

variable {now saleId : String}

theorem SalesDb.Accounted.voided (h : db.Accounted)
    (hvoid : voidPendingSale now saleId db = .ok db') : db'.Accounted := by
  obtain ⟨sale, d, hfind, hpending, hframe, hdomain⟩ := voidPendingSale_marks hvoid
  obtain ⟨_, _, _, rfl⟩ := hframe
  have hadvances := Advances.marked now "voided" hfind (by rw [hpending]; decide)
  have hsales : db'.domain.sales = (db.domain.setSaleStatus now saleId "voided").sales := by
    rw [hdomain]
    rfl
  rw [← hsales] at hadvances
  exact h.advanced hadvances (by rw [hdomain]; rfl) voided_open

theorem SalesDb.Accounted.reaped (h : db.Accounted) (now : String) (ids : List String) :
    (reapSales now ids db).1.Accounted := by
  induction ids generalizing db with
  | nil => exact h
  | cons saleId rest ih =>
    unfold reapSales
    split
    · exact ih h
    · rename_i hvoid
      exact ih (h.voided hvoid)

theorem createSale_books {sale : ImportedSale} (h : createSale sale db = .ok db') :
    ∃ sales, db.domain.sales.insert? (importedRow sale) = some sales ∧
      db'.domain.sales = sales ∧ db'.domain.crm = db.domain.crm := by
  obtain ⟨_, _, h⟩ := Except.of_bind h
  obtain ⟨db₁, hinsert, hlines⟩ := Except.of_bind h
  unfold insertImported at hinsert
  split at hinsert
  · cases hinsert
  · split at hinsert
    · cases hinsert
    · rename_i sales hsales
      cases hinsert
      obtain ⟨_, _, _, _, rfl⟩ := insertSaleLines_ok hlines
      exact ⟨sales, hsales, rfl, rfl⟩

theorem casSaleStatus_ok {d d' : DomainTables CustomerBook} {observed status : String}
    (h : d.casSaleStatus now saleId observed status = some d') :
    ∃ sale, d.sales.find? saleId = some sale ∧ sale.status = observed ∧
      d' = d.setSaleStatus now saleId status := by
  unfold casSaleStatus at h
  split at h
  · cases h
  · rename_i sale hfind
    split at h
    · rename_i hstatus
      exact ⟨sale, hfind, hstatus, (Option.some.inj h).symm⟩
    · cases h

theorem updateSaleStatus_ok {observed : Option SaleRow} {to_ : SaleStatus}
    (h : updateSaleStatus now saleId observed to_ db = .ok db') :
    ∃ (sale : SaleRow) (current : SaleStatus), observed.map SaleRow.status = some current.asStoredStr ∧
      current.canTransitionTo to_ = true ∧ db.domain.sales.find? saleId = some sale ∧
      sale.status = current.asStoredStr ∧
      db'.domain = db.domain.setSaleStatus now saleId to_.asStoredStr := by
  cases observed with
  | none => cases h
  | some row =>
    simp only [updateSaleStatus] at h
    cases hcurrent : SaleStatus.fromStoredStr row.status with
    | none =>
      simp only [hcurrent] at h
      cases h
    | some current =>
      have hstored := SaleStatus.asStoredStr_of_fromStoredStr hcurrent
      simp only [hcurrent] at h
      split at h
      · rename_i hmay
        split at h
        · cases h
        · rename_i d hcas
          obtain ⟨sale, hfind, hstatus, rfl⟩ := casSaleStatus_ok hcas
          cases h
          exact ⟨sale, current, congrArg some hstored, hmay, hfind, hstatus.trans hstored, rfl⟩
      · cases h

theorem canTransitionTo_completed {current : SaleStatus}
    (h : current.canTransitionTo .completed = true) : current = .active := by
  cases current with
  | active => rfl
  | pending => cases h
  | completed => cases h
  | voided => cases h

theorem open_of_canTransitionTo {current to_ : SaleStatus}
    (h : current.canTransitionTo to_ = true) : current.asStoredStr ≠ "completed" := by
  cases current with
  | completed => cases h
  | pending => decide
  | active => decide
  | voided => decide

theorem update_accounted_iff (h : db.Accounted) (now saleId : String) (observed : Option SaleRow)
    (to_ : SaleStatus) :
    (LifecycleEvent.act db (.updateStatus now saleId observed to_)).Accounted ↔
      Accrues db (.updateStatus now saleId observed to_) := by
  simp only [LifecycleEvent.act, Accrues]
  cases hcall : updateSaleStatus now saleId observed to_ db with
  | error e =>
    simp only [Except.toOption, Option.getD_none]
    constructor
    · rintro _ rfl hobserved sale hfind hactive
      obtain ⟨row, rfl, hrow⟩ := Option.map_eq_some_iff.mp hobserved
      have hread : SaleStatus.fromStoredStr "active" = some .active := rfl
      simp [updateSaleStatus, hread, SaleStatus.canTransitionTo, casSaleStatus, hfind, hactive,
        hrow] at hcall
    · intro _
      exact h
  | ok db' =>
    obtain ⟨sale, current, hobserved, hmay, hfind, hstatus, hdomain⟩ := updateSaleStatus_ok hcall
    have hadvances := Advances.marked now to_.asStoredStr hfind (by
      rw [hstatus]
      exact open_of_canTransitionTo hmay)
    simp only [Except.toOption, Option.getD_some]
    unfold SalesDb.Accounted
    rw [hdomain]
    refine (hadvances.unaccrued_iff h).trans ?_
    constructor
    · rintro howes rfl _ sale' hsale' _
      obtain rfl := Option.some.inj (hfind.symm.trans hsale')
      exact howes rfl
    · intro howes hcompleted
      have hto : to_ = .completed := (SaleStatus.asStoredStr_completed _).mp hcompleted
      subst hto
      obtain rfl := canTransitionTo_completed hmay
      exact howes rfl hobserved sale hfind hstatus

theorem create_accounted_iff (h : db.Accounted) (sale : ImportedSale) :
    (LifecycleEvent.act db (.create sale)).Accounted ↔ Accrues db (.create sale) := by
  simp only [LifecycleEvent.act, Accrues]
  cases hcall : createSale sale db with
  | error e => simp [Except.toOption, Except.isOk, Except.toBool, h]
  | ok db' =>
    obtain ⟨sales, hinsert, hsales, hcrm⟩ := createSale_books hcall
    have hadvances := Advances.inserted hinsert
    have hcompleted := SaleStatus.asStoredStr_completed sale.status
    simp only [Except.toOption, Option.getD_some, Except.isOk, Except.toBool, true_implies]
    unfold SalesDb.Accounted
    rw [hsales, hcrm, hadvances.unaccrued_iff h, ← hcompleted]
    rfl

theorem voidActive_accounted (h : db.Accounted) (now userId reason : String) (draw : Draw)
    (saleId : String) (observed : Option SaleRow) :
    (LifecycleEvent.act db (.voidActive now userId reason draw saleId observed)).Accounted := by
  simp only [LifecycleEvent.act]
  cases hcall : voidSale now userId reason draw saleId observed db with
  | error e => exact h
  | ok db' =>
    cases observed with
    | none => cases hcall
    | some row =>
      simp only [voidSale] at hcall
      split at hcall
      · cases hcall
      · split at hcall
        · cases hcall
        · rename_i d hcas
          obtain ⟨sale, hfind, hactive, rfl⟩ := casSaleStatus_ok hcas
          have hadvances := Advances.marked now "voided" hfind (by rw [hactive]; decide)
          obtain ⟨_, _, hcancelled⟩ := cancelKdsOrders_frame saleId
            { db with
              domain := (db.domain.setSaleStatus now saleId "voided").audit
                ⟨userId, "sale.void", "sale", saleId,
                  .obj [("reason", .str reason), ("total_minor", .int row.totalMinor)],
                  "success", now⟩ }
          rw [hcancelled] at hcall
          unfold enqueueVoidSaleOutboxInTx at hcall
          split at hcall
          · cases hcall
          · split at hcall
            · cases hcall
            · cases hcall
              exact h.advanced hadvances rfl voided_open

theorem remoteFinalize_accounted_iff (h : db.Accounted) (draw : ApplyDraw)
    (item : OfflineQueueItem) :
    (LifecycleEvent.act db (.remoteFinalize draw item)).Accounted ↔
      Accrues db (.remoteFinalize draw item) := by
  simp only [LifecycleEvent.act, Accrues, applyPulled]
  by_cases haction : remoteAction item.action = .finalizeSale
  · rw [if_pos haction]
    unfold applyRemoteInTx
    simp only [haction]
    cases hparsed : parsed "invalid finalize payload" readSaleId item.payload with
    | error e => simp [Except.bind, h]
    | ok saleId =>
      simp only [Except.bind, true_implies, Except.ok.injEq, forall_eq']
      exact finalize_accounted_iff h draw.now saleId
  · simp [haction, h]

theorem remoteVoid_accounted (h : db.Accounted) (draw : ApplyDraw) (item : OfflineQueueItem) :
    (LifecycleEvent.act db (.remoteVoid draw item)).Accounted := by
  simp only [LifecycleEvent.act, applyPulled]
  split
  · rename_i haction
    unfold applyRemoteInTx
    simp only [haction]
    cases hparsed : parsed "invalid void payload" readSaleId item.payload with
    | error e => exact h
    | ok saleId =>
      simp only [Except.bind, applyVoidSaleInTx]
      cases hfind : db.domain.sales.find? saleId with
      | none => exact h
      | some sale =>
        by_cases hactive : sale.status = "active"
        · have hadvances := Advances.marked draw.now "voided" hfind (by rw [hactive]; decide)
          simp only [if_pos hactive]
          exact h.advanced hadvances rfl voided_open
        · simp only [if_neg hactive]
          by_cases hvoided : sale.status = "voided"
          · simp only [if_pos hvoided]
            exact h
          · simp only [if_neg hvoided]
            exact h
  · exact h

theorem own_accounted_iff (h : db.Accounted) (e : SaleEvent) :
    (LifecycleEvent.act db (.own e)).Accounted ↔ Accrues db (.own e) := by
  cases e with
  | checkout settings draw call sale =>
    simp only [LifecycleEvent.act, SaleEvent.act, Accrues, iff_true]
    split
    · rename_i db' result hcall
      obtain ⟨sales, hinsert, hsales, hcrm⟩ := checkout_books hcall
      have hadvances := Advances.inserted hinsert
      rw [← hsales] at hadvances
      exact h.advanced hadvances hcrm pending_open
    · exact h
  | retry settings draw call primary resolutions sale =>
    simp only [LifecycleEvent.act, SaleEvent.act, Accrues]
    cases hcall : completeSaleWithResolvedShortfalls spendCrm settings draw call primary
        resolutions sale db with
    | error e => simp [Except.isOk, Except.toBool, h]
    | ok answer =>
      obtain ⟨db', result⟩ := answer
      obtain ⟨sales, d, hinsert, hd, hbook, hsales, hcrm⟩ := retry_books hcall
      have hadvances := Advances.inserted hinsert
      have hfound := hadvances.found
      rw [← hd] at hfound
      have hsame : spendCrm.applyCustomerStatsOnCompletion d sale.id =
          db.domain.crm.accrue (saleRowOf draw "completed" sale) := by
        change applyCustomerStatsOnCompletion d (saleRowOf draw "completed" sale).id = _
        simp only [applyCustomerStatsOnCompletion, hfound, hbook]
      simp only [Except.isOk, Except.toBool, true_implies]
      unfold SalesDb.Accounted
      rw [hsales, hcrm, hsame]
      exact hadvances.accrued_iff rfl h
  | finalize now saleId => exact finalize_accounted_iff h now saleId
  | void now saleId =>
    simp only [LifecycleEvent.act, SaleEvent.act, Accrues, iff_true]
    split
    · rename_i hvoid
      exact h.voided hvoid
    · exact h
  | reap expiresAt now =>
    simp only [Accrues, iff_true]
    exact h.reaped now _

theorem accounted_step_iff (h : db.Accounted) (e : LifecycleEvent) :
    (e.act db).Accounted ↔ Accrues db e := by
  cases e with
  | own e => exact own_accounted_iff h e
  | create sale => exact create_accounted_iff h sale
  | updateStatus now saleId observed to_ => exact update_accounted_iff h now saleId observed to_
  | voidActive now userId reason draw saleId observed =>
    exact iff_of_true (voidActive_accounted h now userId reason draw saleId observed) trivial
  | remoteFinalize draw item => exact remoteFinalize_accounted_iff h draw item
  | remoteVoid draw item => exact iff_of_true (remoteVoid_accounted h draw item) trivial

end Step

/-- The customers are accounted for after every step of a run exactly if no sale that is worth
something to a customer is completed by a door that does not accrue. -/
theorem customers_accounted_iff {db : SalesDb CustomerBook} (h : db.Accounted)
    (events : List LifecycleEvent) :
    lifecycleMachine.Along (fun db e => (e.act db).Accounted) db events ↔
      lifecycleMachine.Along Accrues db events :=
  lifecycleMachine.along_iff_of_invariant
    (fun _ e hdb hok => (accounted_step_iff hdb e).mpr hok)
    (fun _ e hdb => accounted_step_iff hdb e) db events h

def regularDb : SalesDb CustomerBook :=
  ⟨DomainTables.empty ⟨⟨[⟨"cust-1", some 0⟩], by decide⟩, []⟩, fun _ => ⟨"IDR", none⟩, Table.empty,
    Table.empty, [], []⟩

theorem regularDb_accounted : regularDb.Accounted :=
  ⟨by decide, List.nodup_nil, by simp [regularDb, DomainTables.empty]⟩

def regularSale (status : SaleStatus) : ImportedSale where
  id := "sale-1"
  totalMinor := 5000
  currency := "IDR"
  customerId := some "cust-1"
  userId := none
  baseTotalMinor := none
  createdAt := "2026-03-05T08:00:00.000Z"
  lines := []
  lines_fit := by simp
  status := status
  lineCount := 0
  subtotalMinor := 5000
  taxTotalMinor := 0
  tenderedMinor := some 5000
  updatedAt := "2026-03-05T08:00:00.000Z"

def regularFinalize : List LifecycleEvent :=
  [.create (regularSale .pending), .own (.finalize "2026-03-05T08:01:00.000Z" "sale-1"),
    .own (.finalize "2026-03-05T08:02:00.000Z" "sale-1"),
    .own (.void "2026-03-05T08:03:00.000Z" "sale-1")]

/-- The steps of the older `complete_sale` command. -/
def regularTablet : List LifecycleEvent :=
  [.create (regularSale .active), .updateStatus "2026-03-05T08:01:00.000Z" "sale-1"
    (some (importedRow (regularSale .active))) .completed]

theorem regular_finalize_accounted :
    lifecycleMachine.Along (fun db e => (e.act db).Accounted) regularDb regularFinalize := by
  refine (customers_accounted_iff regularDb_accounted regularFinalize).mpr ⟨?_, ?_, ?_, trivial,
    trivial⟩
  · intro _ hcompleted
    cases hcompleted
  · have hfound : (LifecycleEvent.act regularDb (.create (regularSale .pending))).domain.sales.find?
        "sale-1" = some (importedRow (regularSale .pending)) := by decide +kernel
    intro sale hsale _ c hc _ n hn
    obtain rfl := Option.some.inj (hfound.symm.trans hsale)
    obtain rfl : c = ⟨"cust-1", some 0⟩ := List.mem_singleton.mp hc
    obtain rfl := Option.some.inj hn
    exact ⟨by decide, by decide⟩
  · have hdone : ((lifecycleMachine.run regularDb (regularFinalize.take 2)).domain.sales.find?
        "sale-1").map SaleRow.status = some "completed" := by decide +kernel
    intro sale hsale hpending
    have hstatus := congrArg (Option.map SaleRow.status) hsale
    rw [Option.map_some, hpending] at hstatus
    exact absurd (hdone.symm.trans hstatus) (by decide)

theorem regular_tablet_unaccounted : regularDb.Accounted ∧
    ((lifecycleMachine.run regularDb regularTablet).domain.sales.find? "sale-1").map
      SaleRow.status = some "completed" ∧
    (lifecycleMachine.run regularDb regularTablet).domain.crm.customers.rows =
      [⟨"cust-1", some 0⟩] ∧
    ¬ (lifecycleMachine.run regularDb regularTablet).Accounted := by
  have hrows : (lifecycleMachine.run regularDb regularTablet).domain.crm.customers.rows =
      [⟨"cust-1", some 0⟩] := by decide +kernel
  refine ⟨regularDb_accounted, by decide +kernel, hrows, ?_⟩
  intro h
  have hspent := h.spent ⟨"cust-1", some 0⟩ (by rw [hrows]; exact List.mem_singleton_self _)
  have htotal : completedTotal (lifecycleMachine.run regularDb regularTablet).domain.sales
      "cust-1" = 5000 := by decide +kernel
  rw [htotal] at hspent
  exact absurd hspent (by decide)

end OzPos
