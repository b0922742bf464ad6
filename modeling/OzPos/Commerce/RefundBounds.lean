import OzPos.Commerce.RefundEffect

namespace OzPos

variable {κ : Type}

namespace DomainTables

variable (d : DomainTables κ)

def refundedUnits (saleId saleLineId : String) : Int :=
  (d.refundLines.rows.map (fun row =>
    if row.saleLineId = saleLineId ∧
        (d.refunds.find? row.refundId).any (fun refund => refund.saleId = saleId) then row.qty
    else 0)).sum

def refundsTotal (saleId : String) : Int :=
  (d.refunds.rows.map (fun row => if row.saleId = saleId then row.totalMinor else 0)).sum

/-- Refund lines belong to refunds and are of positive quantity. -/
def LinesLinked : Prop :=
  ∀ row ∈ d.refundLines.rows, (d.refunds.find? row.refundId).isSome ∧ 0 < row.qty

end DomainTables

def soldUnits (saleLines : Table String SaleLineRow SaleLineRow.id)
    (saleId saleLineId : String) : Int :=
  ((soldLineForSaleLineInTx saleLines saleId saleLineId).map SaleLineRow.qty).getD 0

/-- A completed sale of which nothing has been refunded. -/
structure Unrefunded (db : SalesDb κ) (saleId : String) (sale : SaleRow) : Prop where
  found : db.domain.sales.find? saleId = some sale
  completed : sale.status = "completed"
  total : 0 ≤ sale.totalMinor
  lines : ∀ line ∈ db.saleLines.rows, 0 < line.qty
  none : ∀ refund ∈ db.domain.refunds.rows, refund.saleId ≠ saleId
  linked : db.domain.LinesLinked

structure WithinSale (db : SalesDb κ) (saleId : String) (sale : SaleRow) : Prop where
  found : db.domain.sales.find? saleId = some sale
  nonneg : ∀ refund ∈ db.domain.refunds.rows, refund.saleId = saleId → 0 ≤ refund.totalMinor
  total : db.domain.refundsTotal saleId ≤ sale.totalMinor
  units : ∀ saleLineId, db.domain.refundedUnits saleId saleLineId ≤
    soldUnits db.saleLines saleId saleLineId

structure RefundsKept (db : SalesDb κ) (saleId : String) (sale : SaleRow) : Prop where
  within : WithinSale db saleId sale
  currency : ∀ refund ∈ db.domain.refunds.rows, refund.saleId = saleId →
    refund.currency = (db.terms saleId).currency
  linked : db.domain.LinesLinked

theorem soldUnits_nonneg {saleLines : Table String SaleLineRow SaleLineRow.id}
    (h : ∀ line ∈ saleLines.rows, 0 < line.qty) (saleId saleLineId : String) :
    0 ≤ soldUnits saleLines saleId saleLineId := by
  unfold soldUnits soldLineForSaleLineInTx
  cases hfind : saleLines.find? saleLineId with
  | none => simp
  | some line =>
    have hqty := h line ((Table.find?_eq_some_iff _ _ _).mp hfind).1
    by_cases hsale : line.saleId = saleId
    · simp [Option.filter, hsale]
      omega
    · simp [Option.filter, hsale]

variable {db : SalesDb κ} {saleId : String} {sale : SaleRow}

theorem Unrefunded.sum_lines
    (h : Unrefunded db saleId sale) (amount : RefundLineRow → Int) (saleLineId : String) :
    (db.domain.refundLines.rows.map (fun row =>
      if row.saleLineId = saleLineId ∧
        (db.domain.refunds.find? row.refundId).any (fun refund => refund.saleId = saleId) then
        amount row else 0)).sum = 0 := by
  apply List.sum_eq_zero
  intro x hx
  obtain ⟨row, _, rfl⟩ := List.mem_map.mp hx
  rw [if_neg]
  rintro ⟨_, hany⟩
  obtain ⟨refund, hfind, hsale⟩ := (Option.any_eq_true _ _).mp hany
  exact h.none refund ((Table.find?_eq_some_iff _ _ _).mp hfind).1 (of_decide_eq_true hsale)

theorem Unrefunded.kept (h : Unrefunded db saleId sale) : RefundsKept db saleId sale := by
  have htotal : db.domain.refundsTotal saleId = 0 := by
    apply List.sum_eq_zero
    intro x hx
    obtain ⟨refund, hrefund, rfl⟩ := List.mem_map.mp hx
    rw [if_neg (h.none refund hrefund)]
  have hunits : ∀ saleLineId, db.domain.refundedUnits saleId saleLineId = 0 :=
    h.sum_lines RefundLineRow.qty
  refine ⟨⟨h.found, ?_, ?_, ?_⟩, ?_, h.linked⟩
  · intro refund hrefund heq
    exact absurd heq (h.none refund hrefund)
  · rw [htotal]
    exact h.total
  · intro saleLineId
    rw [hunits]
    exact soldUnits_nonneg h.lines saleId saleLineId
  · intro refund hrefund heq
    exact absurd heq (h.none refund hrefund)

namespace DomainTables

def payloadQty (lines : List RefundLinePayload) (saleLineId : String) : Int :=
  (lines.map (fun line => if line.saleLineId = saleLineId then line.qty else 0)).sum

theorem payloadQty_payload (refund : Refund) (saleLineId : String) :
    payloadQty refund.payload.lines saleLineId = requestedQty refund.lines saleLineId := by
  rw [payloadQty, Refund.payload, List.map_map]
  rfl

theorem sum_lines_inserted {d d' : DomainTables κ} {row : RefundRow}
    {lines : List RefundLinePayload} (amount : RefundLineRow → Int)
    (hrow : d.refunds.insert? row = some d'.refunds)
    (hlines : d'.refundLines.rows = d.refundLines.rows ++ lines.map (RefundLinePayload.row row.id))
    (hlinked : d.LinesLinked) (saleId saleLineId : String) :
    (d'.refundLines.rows.map (fun line =>
      if line.saleLineId = saleLineId ∧
        (d'.refunds.find? line.refundId).any (fun refund => refund.saleId = saleId) then
        amount line else 0)).sum =
      (d.refundLines.rows.map (fun line =>
      if line.saleLineId = saleLineId ∧
        (d.refunds.find? line.refundId).any (fun refund => refund.saleId = saleId) then
        amount line else 0)).sum +
      if row.saleId = saleId then
        (lines.map (fun line =>
          if line.saleLineId = saleLineId then amount (line.row row.id) else 0)).sum
      else 0 := by
  have hfind := Table.find?_insert? hrow
  have hnew : d.refunds.find? row.id = none := by
    rw [← Table.insert?_isSome_iff, hrow]
    rfl
  have hold : d.refundLines.rows.map (fun line =>
      if line.saleLineId = saleLineId ∧
        (d'.refunds.find? line.refundId).any (fun refund => refund.saleId = saleId) then
        amount line else 0) =
      d.refundLines.rows.map (fun line =>
      if line.saleLineId = saleLineId ∧
        (d.refunds.find? line.refundId).any (fun refund => refund.saleId = saleId) then
        amount line else 0) := by
    apply List.map_congr_left
    intro line hline
    have hne : row.id ≠ line.refundId := by
      intro heq
      have hsome := (hlinked line hline).1
      rw [← heq, hnew] at hsome
      cases hsome
    rw [hfind, if_neg hne]
  have hself := hfind row.id
  rw [if_pos rfl] at hself
  rw [hlines, List.map_append, List.sum_append, hold]
  congr 1
  rw [List.map_map]
  by_cases hsale : row.saleId = saleId
  · rw [if_pos hsale]
    congr 1
    apply List.map_congr_left
    intro line _
    simp [RefundLinePayload.row, hself, hsale]
  · rw [if_neg hsale]
    apply List.sum_eq_zero
    intro x hx
    obtain ⟨line, _, rfl⟩ := List.mem_map.mp hx
    simp [RefundLinePayload.row, hself, hsale]

theorem refundedUnits_inserted {d d' : DomainTables κ} {row : RefundRow}
    {lines : List RefundLinePayload} (hrow : d.refunds.insert? row = some d'.refunds)
    (hlines : d'.refundLines.rows = d.refundLines.rows ++ lines.map (RefundLinePayload.row row.id))
    (hlinked : d.LinesLinked) (saleId saleLineId : String) :
    d'.refundedUnits saleId saleLineId = d.refundedUnits saleId saleLineId +
      if row.saleId = saleId then payloadQty lines saleLineId else 0 :=
  sum_lines_inserted RefundLineRow.qty hrow hlines hlinked saleId saleLineId

end DomainTables

section Step

variable {draw : RefundDraw} {refund : Refund} {db db' : SalesDb κ} {sold sale : SaleRow}
  {saleId : String} (hr : Refunded draw refund db db' sold) (h : RefundsKept db saleId sale)

include hr

theorem refund_new : db.domain.refunds.find? refund.id = none := by
  have hsome : (db.domain.refunds.insert? (refund.row sold)).isSome := by
    rw [hr.header]
    rfl
  exact (Table.insert?_isSome_iff _ _).mp hsome

theorem find?_refunds (id : String) : db'.domain.refunds.find? id =
    if refund.id = id then some (refund.row sold) else db.domain.refunds.find? id :=
  Table.find?_insert? hr.header id

theorem refundsTotal_refunded : db'.domain.refundsTotal saleId =
    db.domain.refundsTotal saleId + if refund.saleId = saleId then refund.totalMinor else 0 := by
  rw [DomainTables.refundsTotal, Table.insert?_rows hr.header]
  simp [DomainTables.refundsTotal, Refund.row]

theorem refundedUnits_refunded (hlinked : db.domain.LinesLinked) (saleLineId : String) :
    db'.domain.refundedUnits saleId saleLineId = db.domain.refundedUnits saleId saleLineId +
      if refund.saleId = saleId then requestedQty refund.lines saleLineId else 0 := by
  rw [DomainTables.refundedUnits_inserted hr.header hr.lines hlinked,
    DomainTables.payloadQty_payload]
  rfl

theorem linked_refunded (hlinked : db.domain.LinesLinked) : db'.domain.LinesLinked := by
  intro row hrow
  rw [find?_refunds hr]
  rw [hr.lines] at hrow
  rcases List.mem_append.mp hrow with hrow | hrow
  · obtain ⟨hsome, hqty⟩ := hlinked row hrow
    refine ⟨?_, hqty⟩
    split
    · rfl
    · exact hsome
  · obtain ⟨line, hline, rfl⟩ := List.mem_map.mp hrow
    have hself : refund.id = (line.row refund.id).refundId := rfl
    rw [if_pos hself]
    exact ⟨rfl, (hr.valid line hline).qty⟩

theorem refundedQty_eq_units (hlinked : db.domain.LinesLinked) (saleLineId : String) :
    db.domain.refundedQtyForSaleLineInTx saleId saleLineId refund.id =
      db.domain.refundedUnits saleId saleLineId := by
  unfold DomainTables.refundedQtyForSaleLineInTx DomainTables.refundedUnits
  congr 1
  apply List.map_congr_left
  intro row hrow
  obtain ⟨hsome, hqty⟩ := hlinked row hrow
  have hne : row.refundId ≠ refund.id := by
    intro heq
    rw [heq, refund_new hr] at hsome
    cases hsome
  simp [hqty, hne]

include h

theorem RefundsKept.refunded : RefundsKept db' saleId sale := by
  have hfound : db'.domain.sales.find? saleId = some sale := by
    rw [hr.sales]
    exact h.within.found
  have hrows : ∀ row ∈ db'.domain.refunds.rows, row ∈ db.domain.refunds.rows ∨
      row = refund.row sold := by
    intro row hrow
    rw [Table.insert?_rows hr.header] at hrow
    simpa using hrow
  refine ⟨⟨hfound, ?_, ?_, ?_⟩, ?_, linked_refunded hr h.linked⟩
  · intro row hrow hsale
    rcases hrows row hrow with hold | rfl
    · exact h.within.nonneg row hold hsale
    · exact hr.nonneg
  · rw [refundsTotal_refunded hr]
    by_cases hsale : refund.saleId = saleId
    · have hsame : sold = sale := by
        have hboth := hr.found
        rw [hsale, h.within.found] at hboth
        exact (Option.some.inj hboth).symm
      have hall : db.domain.refundedTotal refund.saleId refund.currency =
          db.domain.refundsTotal saleId := by
        unfold DomainTables.refundedTotal DomainTables.refundsTotal
        congr 1
        apply List.map_congr_left
        intro row hrow
        by_cases hrowSale : row.saleId = saleId
        · have hcurrency := h.currency row hrow hrowSale
          rw [hr.currency, hsale, hcurrency]
          simp [hrowSale]
        · rw [hsale]
          simp [hrowSale]
      have hbound := hr.total
      rw [hall, hsame] at hbound
      rw [if_pos hsale]
      exact hbound
    · rw [if_neg hsale, Int.add_zero]
      exact h.within.total
  · intro saleLineId
    rw [refundedUnits_refunded hr h.linked, hr.saleLines]
    have hold := h.within.units saleLineId
    by_cases hsale : refund.saleId = saleId
    · rw [if_pos hsale]
      by_cases hline : saleLineId ∈ refund.lines.map RefundLine.saleLineId
      · obtain ⟨line, hmem, rfl⟩ := List.mem_map.mp hline
        obtain ⟨soldLine, hsold, _, hbound⟩ := hr.units line hmem
        rw [refundedQty_eq_units hr h.linked, hsale] at hbound
        rw [hsale] at hsold
        rw [soldUnits, hsold]
        exact hbound
      · have hzero : requestedQty refund.lines saleLineId = 0 :=
          sum_of_unnamed RefundLine.qty hline
        rw [hzero, Int.add_zero]
        exact hold
    · rw [if_neg hsale, Int.add_zero]
      exact hold
  · intro row hrow hsale
    rw [hr.terms]
    rcases hrows row hrow with hold | rfl
    · exact h.currency row hold hsale
    · have hsaleId : refund.saleId = saleId := hsale
      rw [← hsaleId]
      exact hr.currency

end Step

theorem RefundsKept.step (crm : Crm κ)
    (h : RefundsKept db saleId sale) (call : RefundDraw × Refund) :
    RefundsKept ((refundMachine crm).step db call).1 saleId sale ∧
      ((refundMachine crm).step db call).1.saleLines = db.saleLines := by
  unfold refundMachine
  simp only
  cases hcall : createRefund crm call.1 call.2 db with
  | error e => exact ⟨h, rfl⟩
  | ok db' =>
    obtain ⟨sold, hr⟩ := createRefund_ok hcall
    exact ⟨h.refunded hr, hr.saleLines⟩

theorem RefundsKept.run (crm : Crm κ)
    (h : RefundsKept db saleId sale) (calls : List (RefundDraw × Refund)) :
    RefundsKept ((refundMachine crm).run db calls) saleId sale ∧
      ((refundMachine crm).run db calls).saleLines = db.saleLines := by
  induction calls generalizing db with
  | nil => exact ⟨h, rfl⟩
  | cons call calls ih =>
    obtain ⟨hstep, hlines⟩ := h.step crm call
    obtain ⟨hrun, hrest⟩ := ih hstep
    exact ⟨hrun, hrest.trans hlines⟩

theorem refundMachine_failed (crm : Crm κ) (db : SalesDb κ) (call : RefundDraw × Refund)
    {e : RefundError} (h : ((refundMachine crm).step db call).2 = some e) :
    ((refundMachine crm).step db call).1 = db := by
  unfold refundMachine at h ⊢
  simp only at h ⊢
  split at h
  · cases h
  · rfl

/-- Whatever refunds are asked for: those of a completed sale stay within its total and its
lines, and a call that fails changes nothing. -/
theorem refunds_within_sale (crm : Crm κ) (db : SalesDb κ) (saleId : String) (sale : SaleRow)
    (calls : List (RefundDraw × Refund)) (h : Unrefunded db saleId sale) :
    WithinSale ((refundMachine crm).run db calls) saleId sale ∧
      ((refundMachine crm).run db calls).saleLines = db.saleLines ∧
      (refundMachine crm).Along (fun db call => ∀ e, ((refundMachine crm).step db call).2 = some e →
        ((refundMachine crm).step db call).1 = db) db calls := by
  obtain ⟨hkept, hlines⟩ := h.kept.run crm calls
  refine ⟨hkept.within, hlines, (Machine.along_iff_splits _ _ _ _).mpr ?_⟩
  intro before call after _ e he
  exact refundMachine_failed crm _ call he

def cafeSale : SaleRow :=
  ⟨"sale-1", "default", none, "completed", 2, "2026-01-01T00:00:00.000Z", none, 3000, none⟩

def cafeDeductions : Json :=
  .obj [("version", .int 1), ("lines", .arr [.obj [("sale_line_id", .str "line-1"),
    ("sku", .str "SKU-1"), ("deductions", .arr [
      .obj [("location_id", .str canonicalDefaultLocation), ("qty", .int 1)],
      .obj [("location_id", .str "loc-B"), ("qty", .int 1)]])]])]

def cafeTables : DomainTables Unit :=
  { DomainTables.empty () with
    products := Table.empty.insertNew ⟨"prod-1", "default", "SKU-1", "Kopi", 1500, "IDR", none, none,
      "retail", "2026-01-01T00:00:00.000Z"⟩
    locations := [canonicalDefaultLocation, "loc-B"]
    inventory := Table.empty.insertNew
      ⟨"prod-1", canonicalDefaultLocation, 8, "2026-01-01T00:00:00.000Z"⟩
    stockSummary := (Table.empty.insertNew
      ⟨"prod-1", canonicalDefaultLocation, 5, "2026-01-01T00:00:00.000Z"⟩).insertNew
      ⟨"prod-1", "loc-B", 3, "2026-01-01T00:00:00.000Z"⟩
    sales := Table.empty.insertNew cafeSale }

def cafeDb : SalesDb Unit :=
  { domain := cafeTables
    terms := fun _ => ⟨"IDR", some (.json cafeDeductions)⟩
    saleLines := Table.empty.insertNew ⟨"line-1", "sale-1", "SKU-1", 2, 3000⟩
    queue := Table.empty
    kdsOrders := []
    kdsLineItems := [] }

def cafeCrm : Crm Unit := ⟨fun _ _ => (), fun _ _ _ _ _ => (), fun _ _ _ _ _ _ => ()⟩

variable (id : String)

def cupLine : RefundLine :=
  ⟨id, "line-1", "SKU-1", 1, 1500, 1500, "IDR", "2026-01-02T00:00:00.000Z"⟩

theorem cupLine_fits : (cupLine id).Fits :=
  ⟨by simp [FitsI64, cupLine], by simp [FitsI64, cupLine], by simp [FitsI64, cupLine]⟩

def cupRefund : Refund where
  id := id
  saleId := "sale-1"
  totalMinor := 1500
  currency := "IDR"
  reason := "cold"
  note := ""
  processedBy := "user-1"
  createdAt := "2026-01-02T00:00:00.000Z"
  lines := [cupLine id]
  total_fits := by unfold FitsI64; omega
  lines_fit := List.forall_mem_singleton.mpr (cupLine_fits id)

def freeRefund : Refund where
  id := "ref-0"
  saleId := "sale-1"
  totalMinor := 0
  currency := "IDR"
  reason := "goodwill"
  note := ""
  processedBy := "user-1"
  createdAt := "2026-01-02T00:00:00.000Z"
  lines := []
  total_fits := by unfold FitsI64; omega
  lines_fit := by simp

theorem cafe_unrefunded : Unrefunded cafeDb "sale-1" cafeSale := by
  refine ⟨rfl, rfl, by decide, ?_, ?_, ?_⟩
  · decide
  · decide
  · intro row hrow
    cases hrow

def cafeRun (refunds : List Refund) : SalesDb Unit :=
  (refundMachine cafeCrm).run cafeDb
    (refunds.map (fun refund => (⟨"2026-01-02T00:00:00.000Z", refund.id⟩, refund)))

theorem cafe_refunds_within_sale :
    WithinSale (cafeRun [cupRefund "ref-1", freeRefund, cupRefund "ref-2", cupRefund "ref-3"])
      "sale-1" cafeSale :=
  (refunds_within_sale cafeCrm cafeDb "sale-1" cafeSale _ cafe_unrefunded).1

/-- A refund of nothing is taken; the third cup is not. -/
theorem free_refund_taken :
    Unrefunded cafeDb "sale-1" cafeSale ∧
    (cafeRun [cupRefund "ref-1", freeRefund, cupRefund "ref-2",
      cupRefund "ref-3"]).domain.refunds.rows.map RefundRow.totalMinor = [1500, 0, 1500] ∧
    ¬ ∀ refund ∈ (cafeRun [freeRefund]).domain.refunds.rows, refund.saleId = "sale-1" →
      0 < refund.totalMinor := by
  refine ⟨cafe_unrefunded, ?_, ?_⟩ <;> decide +kernel

end OzPos
