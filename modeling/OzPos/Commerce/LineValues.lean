import OzPos.Commerce.RefundBounds

namespace OzPos

variable {κ : Type}

def requestedValue (lines : List RefundLine) (saleLineId : String) : Int :=
  (lines.map (fun line => if line.saleLineId = saleLineId then line.lineMinor else 0)).sum

def claimedValue (claims : List ClaimedLine) (saleLineId : String) : Int :=
  (claims.map (fun c => if c.saleLineId = saleLineId then c.value else 0)).sum

variable {claims : List ClaimedLine}

theorem claimRefundLine_value {line : RefundLine} {claims' : List ClaimedLine}
    (h : claimRefundLine line claims = .ok claims') (saleLineId : String) :
    claimedValue claims' saleLineId = claimedValue claims saleLineId +
      if line.saleLineId = saleLineId then line.lineMinor else 0 := by
  induction claims generalizing claims' with
  | nil =>
    cases h
    simp [claimedValue]
  | cons c rest ih =>
    unfold claimRefundLine at h
    split at h
    · rename_i hsame
      split at h
      · cases h
      · obtain ⟨qty, _, h⟩ := Except.of_bind h
        split at h
        · cases h
        · rename_i value hvalue
          obtain ⟨rfl, _⟩ := (checkedI64_eq_some_iff _ _).mp hvalue
          cases h
          simp only [claimedValue, List.map_cons, List.sum_cons, hsame]
          split <;> omega
    · obtain ⟨rest', hrest, rfl⟩ := Except.of_map h
      have hlater := ih hrest
      simp only [claimedValue, List.map_cons, List.sum_cons] at hlater ⊢
      omega

theorem claimRefundLines_value {lines : List RefundLine} {claims' : List ClaimedLine}
    (hqty : ∀ line ∈ lines, 0 < line.qty) (h : claimRefundLines lines claims = .ok claims')
    (saleLineId : String) :
    claimedValue claims' saleLineId =
      claimedValue claims saleLineId + requestedValue lines saleLineId := by
  induction lines generalizing claims with
  | nil =>
    cases h
    simp [requestedValue]
  | cons line rest ih =>
    obtain ⟨hhere, hothers⟩ := List.forall_mem_cons.mp hqty
    unfold claimRefundLines at h
    rw [if_pos hhere] at h
    obtain ⟨claims₁, hline, hrest⟩ := Except.of_bind h
    rw [ih hothers hrest, claimRefundLine_value hline, requestedValue, requestedValue,
      List.map_cons, List.sum_cons]
    omega

variable {db : SalesDb κ} {refund : Refund} {line : SaleLineRow}

theorem checkClaim_value {c : ClaimedLine}
    (hline : soldLineForSaleLineInTx db.saleLines refund.saleId c.saleLineId = some line)
    (h : checkClaim db refund c = .ok ()) : c.value ≤ valueCeiling line c.qty := by
  unfold checkClaim at h
  rw [hline] at h
  simp only at h
  split at h
  · cases h
  · split at h
    · cases h
    · obtain ⟨already, _, h⟩ := Except.of_bind h
      split at h
      · cases h
      · split at h
        · cases h
        · split at h
          · cases h
          · omega

theorem checkClaims_each
    (h : checkClaims db refund claims = .ok ()) : ∀ c ∈ claims, checkClaim db refund c = .ok () := by
  induction claims with
  | nil => simp
  | cons c rest ih =>
    obtain ⟨_, hclaim, hrest⟩ := Except.of_bind h
    exact List.forall_mem_cons.mpr ⟨hclaim, ih hrest⟩

theorem createRefund_value {crm : Crm κ} {draw : RefundDraw} {db' : SalesDb κ} {saleLineId : String}
    (hline : soldLineForSaleLineInTx db.saleLines refund.saleId saleLineId = some line)
    (hnamed : saleLineId ∈ refund.lines.map RefundLine.saleLineId)
    (h : createRefund crm draw refund db = .ok db') :
    requestedValue refund.lines saleLineId ≤
      valueCeiling line (requestedQty refund.lines saleLineId) := by
  obtain ⟨_, hr⟩ := createRefund_ok h
  have hqty : ∀ line ∈ refund.lines, 0 < line.qty := by
    intro line hline
    exact (hr.valid line.payload (List.mem_map.mpr ⟨line, hline, rfl⟩)).qty
  unfold createRefund at h
  split at h
  · cases h
  · obtain ⟨_, _, h⟩ := Except.of_bind h
    obtain ⟨claims, hclaims, h⟩ := Except.of_bind h
    obtain ⟨_, hchecked, _⟩ := Except.of_bind h
    obtain ⟨hclaimed, hids, hn, _⟩ := claimRefundLines_ok hqty hclaims
    obtain ⟨c, hc, rfl⟩ := List.mem_map.mp ((hids saleLineId).mpr (.inl hnamed))
    have hbound := checkClaim_value hline (checkClaims_each hchecked c hc)
    have hnodup := hn List.nodup_nil
    have hvalue : claimedValue claims c.saleLineId = c.value :=
      sum_claimed_of_mem ClaimedLine.value hnodup hc
    have hunits := claimedQty_of_mem hnodup hc
    rw [claimRefundLines_value hqty hclaims] at hvalue
    rw [hclaimed] at hunits
    simp only [claimedValue, claimedQty, List.map_nil, List.sum_nil, Int.zero_add] at hvalue hunits
    rw [hvalue, hunits]
    exact hbound

namespace DomainTables

def refundedValue (d : DomainTables κ) (saleId saleLineId : String) : Int :=
  (d.refundLines.rows.map (fun row =>
    if row.saleLineId = saleLineId ∧
        (d.refunds.find? row.refundId).any (fun refund => refund.saleId = saleId) then row.lineMinor
    else 0)).sum

end DomainTables

structure LineClaim where
  (qty value : Int)

variable (saleId saleLineId : String)

def lineClaims (calls : List (RefundDraw × Refund)) : List LineClaim :=
  (calls.filter (fun call => call.2.saleId = saleId ∧
    saleLineId ∈ call.2.lines.map RefundLine.saleLineId)).map (fun call =>
      ⟨requestedQty call.2.lines saleLineId, requestedValue call.2.lines saleLineId⟩)

/-- The whole minor units of the share of some units in a line's booked total. -/
def wholeShare (line : SaleLineRow) (qty : Int) : Int :=
  max ((line.lineMinor * qty).tdiv (max line.qty 1)) 0

def ceilingsMet (line : SaleLineRow) (claims : List LineClaim) : Nat :=
  claims.countP (fun c => c.value = valueCeiling line c.qty)

def belowShares (line : SaleLineRow) (claims : List LineClaim) : Int :=
  (claims.map (fun c => max (wholeShare line c.qty - c.value) 0)).sum

def unshared (line : SaleLineRow) (claims : List LineClaim) : Int :=
  line.lineMinor - (claims.map (fun c => wholeShare line c.qty)).sum

theorem sum_claims {claims : List LineClaim}
    (h : ∀ c ∈ claims, c.value ≤ valueCeiling line c.qty) :
    (claims.map LineClaim.value).sum =
      line.lineMinor + ceilingsMet line claims - belowShares line claims - unshared line claims := by
  induction claims with
  | nil => simp [ceilingsMet, belowShares, unshared]
  | cons c rest ih =>
    obtain ⟨hc, hrest⟩ := List.forall_mem_cons.mp h
    have hsum := ih hrest
    have hceiling : valueCeiling line c.qty = wholeShare line c.qty + 1 := rfl
    rw [hceiling] at hc
    simp only [ceilingsMet, belowShares, unshared, List.map_cons, List.sum_cons,
      List.countP_cons, decide_eq_true_eq, hceiling] at hsum ⊢
    split <;> push_cast <;> omega

theorem refundedValue_refunded {draw : RefundDraw} {db' : SalesDb κ}
    {sold : SaleRow} (hr : Refunded draw refund db db' sold)
    (hlinked : db.domain.LinesLinked) (saleId saleLineId : String) :
    db'.domain.refundedValue saleId saleLineId = db.domain.refundedValue saleId saleLineId +
      if refund.saleId = saleId then requestedValue refund.lines saleLineId else 0 := by
  unfold DomainTables.refundedValue
  rw [DomainTables.sum_lines_inserted RefundLineRow.lineMinor hr.header hr.lines hlinked,
    Refund.payload, List.map_map]
  rfl

theorem requested_nonneg (amount : RefundLine → Int) {lines : List RefundLine}
    (h : ∀ line ∈ lines, 0 ≤ amount line) (saleLineId : String) :
    0 ≤ (lines.map (fun line => if line.saleLineId = saleLineId then amount line else 0)).sum := by
  apply List.sum_nonneg
  intro x hx
  obtain ⟨line, hmem, rfl⟩ := List.mem_map.mp hx
  split
  · exact h line hmem
  · exact Int.le_refl 0

variable (crm : Crm κ)

def AllAccepted (db : SalesDb κ) (calls : List (RefundDraw × Refund)) : Prop :=
  (refundMachine crm).Along (fun db call => ((refundMachine crm).step db call).2 = none) db calls

instance (db : SalesDb κ) (calls : List (RefundDraw × Refund)) :
    Decidable (AllAccepted crm db calls) :=
  inferInstanceAs (Decidable (Machine.Along _ _ _ _))

theorem accepted_ok {crm : Crm κ} {call : RefundDraw × Refund}
    (h : ((refundMachine crm).step db call).2 = none) :
    createRefund crm call.1 call.2 db = .ok ((refundMachine crm).step db call).1 := by
  unfold refundMachine at h ⊢
  simp only at h ⊢
  split at h
  · rename_i db' hcall
    rw [hcall]
  · cases h

theorem lineClaims_cons (call : RefundDraw × Refund) (calls : List (RefundDraw × Refund)) :
    lineClaims saleId saleLineId (call :: calls) =
      (if call.2.saleId = saleId ∧ saleLineId ∈ call.2.lines.map RefundLine.saleLineId then
        [⟨requestedQty call.2.lines saleLineId, requestedValue call.2.lines saleLineId⟩]
      else []) ++ lineClaims saleId saleLineId calls := by
  unfold lineClaims
  by_cases h : call.2.saleId = saleId ∧ saleLineId ∈ call.2.lines.map RefundLine.saleLineId
  · rw [if_pos h, List.filter_cons, if_pos (decide_eq_true h)]
    rfl
  · rw [if_neg h, List.filter_cons, if_neg (fun hd => h (of_decide_eq_true hd))]
    rfl

theorem refunded_run {saleId : String} {sale : SaleRow} {calls : List (RefundDraw × Refund)}
    (h : RefundsKept db saleId sale)
    (hline : soldLineForSaleLineInTx db.saleLines saleId line.id = some line)
    (hall : AllAccepted crm db calls) :
    ((refundMachine crm).run db calls).domain.refundedValue saleId line.id =
        db.domain.refundedValue saleId line.id +
          ((lineClaims saleId line.id calls).map LineClaim.value).sum ∧
      ((refundMachine crm).run db calls).domain.refundedUnits saleId line.id =
        db.domain.refundedUnits saleId line.id +
          ((lineClaims saleId line.id calls).map LineClaim.qty).sum ∧
      ∀ c ∈ lineClaims saleId line.id calls,
        0 ≤ c.qty ∧ 0 ≤ c.value ∧ c.value ≤ valueCeiling line c.qty := by
  induction calls generalizing db with
  | nil => simp [lineClaims]
  | cons call calls ih =>
    obtain ⟨haccepted, hlater⟩ := hall
    have hcall := accepted_ok haccepted
    obtain ⟨sold, hr⟩ := createRefund_ok hcall
    have hkept := h.refunded hr
    rw [← hr.saleLines] at hline
    obtain ⟨hsum, hunits, hbounds⟩ := ih hkept hline hlater
    rw [hr.saleLines] at hline
    rw [Machine.run_cons, hsum, hunits, refundedValue_refunded hr h.linked,
      refundedUnits_refunded hr h.linked, lineClaims_cons]
    by_cases hnamed : call.2.saleId = saleId ∧ line.id ∈ call.2.lines.map RefundLine.saleLineId
    · obtain ⟨rfl, hin⟩ := hnamed
      rw [if_pos rfl, if_pos rfl, if_pos ⟨rfl, hin⟩]
      refine ⟨by simp [Int.add_assoc], by simp [Int.add_assoc],
        List.forall_mem_append.mpr ⟨?_, hbounds⟩⟩
      intro c hc
      obtain rfl := List.mem_singleton.mp hc
      have hvalid : ∀ l ∈ call.2.lines, l.payload.Valid := by
        intro l hl
        exact hr.valid l.payload (List.mem_map.mpr ⟨l, hl, rfl⟩)
      exact ⟨requested_nonneg RefundLine.qty (fun l hl => (hvalid l hl).qty.le) line.id,
        requested_nonneg RefundLine.lineMinor (fun l hl => (hvalid l hl).lineMinor) line.id,
        createRefund_value hline hin hcall⟩
    · have hnone (amount : RefundLine → Int) : (if call.2.saleId = saleId then
          (call.2.lines.map (fun l => if l.saleLineId = line.id then amount l else 0)).sum
          else 0) = 0 := by
        split
        · rename_i hsale
          exact sum_of_unnamed amount (fun hin => hnamed ⟨hsale, hin⟩)
        · rfl
      have hvalue := hnone RefundLine.lineMinor
      have hqty := hnone RefundLine.qty
      rw [if_neg hnamed, requestedValue, hvalue, requestedQty, hqty]
      simp only [Int.add_zero, List.nil_append]
      exact ⟨trivial, trivial, hbounds⟩

/-- At most a line's value and the unit of tolerance is refunded of it. -/
def LineValueKept (db : SalesDb κ) (saleId : String) (line : SaleLineRow) : Prop :=
  db.domain.refundedValue saleId line.id ≤ line.lineMinor + 1

theorem Unrefunded.value {saleId : String} {sale : SaleRow} (h : Unrefunded db saleId sale)
    (saleLineId : String) : db.domain.refundedValue saleId saleLineId = 0 :=
  h.sum_lines RefundLineRow.lineMinor saleLineId

theorem lineClaims_append (l r : List (RefundDraw × Refund)) :
    lineClaims saleId saleLineId (l ++ r) =
      lineClaims saleId saleLineId l ++ lineClaims saleId saleLineId r := by
  simp [lineClaims]

def bundleSale : SaleRow := { cafeSale with totalMinor := 1102 }

/-- Four pieces sold as a bundle for 1002, with 100 of tax on top. -/
def bundleLine : SaleLineRow := ⟨"line-1", "sale-1", "SKU-1", 4, 1002⟩

def bundleDb : SalesDb Unit :=
  { cafeDb with
    domain := { cafeTables with sales := Table.empty.insertNew bundleSale }
    terms := fun _ => ⟨"IDR", none⟩
    saleLines := Table.empty.insertNew bundleLine }

def pairRefund (id : String) : Refund where
  id := id
  saleId := "sale-1"
  totalMinor := 502
  currency := "IDR"
  reason := "cold"
  note := ""
  processedBy := "user-1"
  createdAt := "2026-01-02T00:00:00.000Z"
  lines := [⟨id, "line-1", "SKU-1", 2, 251, 502, "IDR", "2026-01-02T00:00:00.000Z"⟩]
  total_fits := by unfold FitsI64; omega
  lines_fit := by
    intro line hline
    obtain rfl := List.mem_singleton.mp hline
    exact ⟨by simp [FitsI64], by simp [FitsI64], by simp [FitsI64]⟩

theorem bundle_unrefunded : Unrefunded bundleDb "sale-1" bundleSale := by
  refine ⟨rfl, rfl, by decide, ?_, ?_, ?_⟩
  · decide
  · decide
  · intro row hrow
    cases hrow

def pairCalls (ids : List String) : List (RefundDraw × Refund) :=
  ids.map (fun id => (⟨"2026-01-02T00:00:00.000Z", id⟩, pairRefund id))

end OzPos
