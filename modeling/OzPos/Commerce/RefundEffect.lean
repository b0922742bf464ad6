import OzPos.Commerce.RefundCredit

namespace OzPos

variable {κ : Type}

def RefundLinePayload.row (refundId : String) (line : RefundLinePayload) : RefundLineRow :=
  ⟨line.id, refundId, line.saleLineId, line.sku, line.qty, line.unitMinor, line.lineMinor,
    line.currency, line.createdAt⟩

/-- What the checks of `refund_lines` ask. -/
structure RefundLinePayload.Valid (line : RefundLinePayload) : Prop where
  qty : 0 < line.qty
  unitMinor : 0 ≤ line.unitMinor
  lineMinor : 0 ≤ line.lineMinor

namespace DomainTables

variable {d d' : DomainTables κ}

theorem insertRefund_ok {row : RefundRow} (h : d.insertRefund row = .ok d') :
    0 ≤ row.totalMinor ∧ ∃ t, d.refunds.insert? row = some t ∧ d' = { d with refunds := t } := by
  unfold insertRefund at h
  split at h
  · cases h
  · rename_i hcheck
    split at h
    · cases h
    · rename_i t ht
      cases h
      exact ⟨by omega, t, ht, rfl⟩

theorem insertRefundLines_ok {refundId : String} {lines : List RefundLinePayload}
    (h : d.insertRefundLines refundId lines = .ok d') :
    (∀ line ∈ lines, line.Valid) ∧
      ∃ t, t.rows = d.refundLines.rows ++ lines.map (RefundLinePayload.row refundId) ∧
        d' = { d with refundLines := t } := by
  induction lines generalizing d with
  | nil =>
    cases h
    exact ⟨by simp, _, by simp, rfl⟩
  | cons line rest ih =>
    unfold insertRefundLines at h
    split at h
    · cases h
    · split at h
      · cases h
      · split at h
        · cases h
        · split at h
          · cases h
          · rename_i hqty hunit hline t ht
            obtain ⟨hvalid, u, hu, rfl⟩ := ih h
            refine ⟨List.forall_mem_cons.mpr ⟨⟨by omega, by omega, by omega⟩, hvalid⟩, u, ?_, rfl⟩
            rw [hu, Table.insert?_rows ht, List.append_assoc]
            rfl

theorem insertRefundLines_of_new {refundId : String} {lines : List RefundLinePayload}
    (hvalid : ∀ line ∈ lines, line.Valid) (hn : (lines.map RefundLinePayload.id).Nodup)
    (hnew : ∀ line ∈ lines, d.refundLines.find? line.id = none) :
    ∃ d', d.insertRefundLines refundId lines = .ok d' := by
  induction lines generalizing d with
  | nil => exact ⟨d, rfl⟩
  | cons line rest ih =>
    obtain ⟨hhere, hothers⟩ := List.forall_mem_cons.mp hvalid
    obtain ⟨hfree, hfrees⟩ := List.forall_mem_cons.mp hnew
    obtain ⟨hid, hids⟩ := List.nodup_cons.mp hn
    have hinsert : (d.refundLines.insert? (line.row refundId)).isSome := by
      rw [Table.insert?_isSome_iff]
      exact hfree
    obtain ⟨t, ht⟩ := Option.isSome_iff_exists.mp hinsert
    have hqty := hhere.qty
    have hunit := hhere.unitMinor
    have hline := hhere.lineMinor
    unfold insertRefundLines
    rw [if_neg (by omega), if_neg (by omega), if_neg (by omega)]
    unfold RefundLinePayload.row at ht
    rw [ht]
    refine ih hothers hids ?_
    intro other hother
    rw [Table.find?_insert? ht, if_neg]
    · exact hfrees other hother
    · intro heq
      exact hid (List.mem_map.mpr ⟨other, hother, heq.symm⟩)

theorem insertRefundRows_ok {sale : SaleRow} {refund : Refund}
    (h : d.insertRefundRows sale refund = .ok d') :
    0 ≤ refund.totalMinor ∧ (∀ line ∈ refund.payload.lines, line.Valid) ∧
      ∃ refunds refundLines,
        d.refunds.insert? ⟨refund.id, refund.saleId, refund.totalMinor, refund.currency,
          refund.reason, refund.note, refund.processedBy, refund.createdAt, sale.tenantId⟩ =
          some refunds ∧
        refundLines.rows = d.refundLines.rows ++
          refund.payload.lines.map (RefundLinePayload.row refund.id) ∧
        d' = { d with refunds, refundLines } := by
  obtain ⟨d₁, hrefund, hlines⟩ := Except.of_bind h
  obtain ⟨htotal, refunds, hinsert, rfl⟩ := insertRefund_ok hrefund
  obtain ⟨hvalid, refundLines, hrows, rfl⟩ := insertRefundLines_ok hlines
  exact ⟨htotal, hvalid, refunds, refundLines, hinsert, hrows, rfl⟩

end DomainTables

def requestedQty (lines : List RefundLine) (saleLineId : String) : Int :=
  (lines.map (fun line => if line.saleLineId = saleLineId then line.qty else 0)).sum

theorem sum_of_unnamed (amount : RefundLine → Int) {lines : List RefundLine} {saleLineId : String}
    (h : saleLineId ∉ lines.map RefundLine.saleLineId) :
    (lines.map (fun line => if line.saleLineId = saleLineId then amount line else 0)).sum = 0 := by
  apply List.sum_eq_zero
  intro x hx
  obtain ⟨line, hmem, rfl⟩ := List.mem_map.mp hx
  rw [if_neg]
  intro heq
  exact h (List.mem_map.mpr ⟨line, hmem, heq⟩)

variable (claims : List ClaimedLine)

def claimedQty (saleLineId : String) : Int :=
  (claims.map (fun c => if c.saleLineId = saleLineId then c.qty else 0)).sum

def Claimed (saleLineId sku : String) : Prop :=
  ∃ c ∈ claims, c.saleLineId = saleLineId ∧ c.sku = sku

variable {claims : List ClaimedLine}

theorem claimRefundLine_ok {line : RefundLine} {claims' : List ClaimedLine}
    (h : claimRefundLine line claims = .ok claims') :
    (∀ saleLineId, claimedQty claims' saleLineId = claimedQty claims saleLineId +
        if line.saleLineId = saleLineId then line.qty else 0) ∧
      (∀ id, id ∈ claims'.map ClaimedLine.saleLineId ↔
        id = line.saleLineId ∨ id ∈ claims.map ClaimedLine.saleLineId) ∧
      ((claims.map ClaimedLine.saleLineId).Nodup → (claims'.map ClaimedLine.saleLineId).Nodup) ∧
      Claimed claims' line.saleLineId line.sku ∧
      ∀ id sku, Claimed claims id sku → Claimed claims' id sku := by
  induction claims generalizing claims' with
  | nil =>
    cases h
    simp [claimedQty, Claimed]
  | cons c rest ih =>
    unfold claimRefundLine at h
    split at h
    · rename_i hsame
      split at h
      · cases h
      · rename_i hsku
        obtain ⟨qty, hqty, h⟩ := Except.of_bind h
        obtain rfl := addI64_ok hqty
        split at h
        · cases h
        · cases h
          refine ⟨?_, ?_, fun hn => hn, ⟨_, List.mem_cons_self .., hsame, not_not.mp hsku⟩, ?_⟩
          · intro saleLineId
            simp only [claimedQty, List.map_cons, List.sum_cons, hsame]
            split <;> omega
          · intro id
            simp only [List.map_cons, List.mem_cons, hsame]
            tauto
          · rintro id sku ⟨k, hk, hid, hksku⟩
            rcases List.mem_cons.mp hk with rfl | hk
            · exact ⟨_, List.mem_cons_self .., hid, hksku⟩
            · exact ⟨k, List.mem_cons_of_mem _ hk, hid, hksku⟩
    · rename_i hother
      obtain ⟨rest', hrest, rfl⟩ := Except.of_map h
      obtain ⟨hqty, hids, hnodup, ⟨k, hk, hmine⟩, hkept⟩ := ih hrest
      refine ⟨?_, ?_, ?_, ⟨k, List.mem_cons_of_mem _ hk, hmine⟩, ?_⟩
      · intro saleLineId
        have := hqty saleLineId
        simp only [claimedQty, List.map_cons, List.sum_cons] at this ⊢
        omega
      · intro id
        have := hids id
        simp only [List.map_cons, List.mem_cons] at this ⊢
        tauto
      · intro hn
        obtain ⟨hc, hn⟩ := List.nodup_cons.mp hn
        refine List.nodup_cons.mpr ⟨?_, hnodup hn⟩
        rw [hids]
        exact fun hin => hin.elim hother hc
      · rintro id sku ⟨k, hk, hclaim⟩
        rcases List.mem_cons.mp hk with rfl | hk
        · exact ⟨k, List.mem_cons_self .., hclaim⟩
        · obtain ⟨k', hk', hclaim'⟩ := hkept id sku ⟨k, hk, hclaim⟩
          exact ⟨k', List.mem_cons_of_mem _ hk', hclaim'⟩

theorem claimRefundLines_ok {lines : List RefundLine} {claims' : List ClaimedLine}
    (hqty : ∀ line ∈ lines, 0 < line.qty) (h : claimRefundLines lines claims = .ok claims') :
    (∀ saleLineId, claimedQty claims' saleLineId =
        claimedQty claims saleLineId + requestedQty lines saleLineId) ∧
      (∀ id, id ∈ claims'.map ClaimedLine.saleLineId ↔
        id ∈ lines.map RefundLine.saleLineId ∨ id ∈ claims.map ClaimedLine.saleLineId) ∧
      ((claims.map ClaimedLine.saleLineId).Nodup → (claims'.map ClaimedLine.saleLineId).Nodup) ∧
      (∀ line ∈ lines, Claimed claims' line.saleLineId line.sku) ∧
      ∀ id sku, Claimed claims id sku → Claimed claims' id sku := by
  induction lines generalizing claims with
  | nil =>
    cases h
    simp [requestedQty]
  | cons line rest ih =>
    obtain ⟨hhere, hothers⟩ := List.forall_mem_cons.mp hqty
    unfold claimRefundLines at h
    rw [if_pos hhere] at h
    obtain ⟨claims₁, hline, hrest⟩ := Except.of_bind h
    obtain ⟨hqty₁, hids₁, hn₁, hmine, hkept₁⟩ := claimRefundLine_ok hline
    obtain ⟨hqty₂, hids₂, hn₂, hlater, hkept₂⟩ := ih hothers hrest
    refine ⟨?_, ?_, fun hn => hn₂ (hn₁ hn),
      List.forall_mem_cons.mpr ⟨hkept₂ _ _ hmine, hlater⟩,
      fun id sku hclaim => hkept₂ id sku (hkept₁ id sku hclaim)⟩
    · intro saleLineId
      rw [hqty₂, hqty₁, requestedQty, requestedQty, List.map_cons, List.sum_cons]
      omega
    · intro id
      rw [hids₂, hids₁, List.map_cons, List.mem_cons]
      tauto

def ClaimHolds (db : SalesDb κ) (refund : Refund) (c : ClaimedLine) : Prop :=
  ∃ line, soldLineForSaleLineInTx db.saleLines refund.saleId c.saleLineId = some line ∧
    trim c.sku = trim line.sku ∧
    db.domain.refundedQtyForSaleLineInTx refund.saleId c.saleLineId refund.id + c.qty ≤ line.qty

variable {db : SalesDb κ} {refund : Refund} {c : ClaimedLine}

theorem checkClaim_ok (h : checkClaim db refund c = .ok ()) : ClaimHolds db refund c := by
  unfold checkClaim at h
  split at h
  · cases h
  · rename_i line hline
    split at h
    · cases h
    · split at h
      · cases h
      · rename_i hsku
        obtain ⟨already, halready, h⟩ := Except.of_bind h
        obtain ⟨rfl, _⟩ := DomainTables.alreadyRefundedQty_ok halready
        split at h
        · cases h
        · rename_i after hafter
          obtain ⟨rfl, _⟩ := (checkedI64_eq_some_iff _ _).mp hafter
          split at h
          · cases h
          · rename_i hbound
            exact ⟨line, hline, not_not.mp hsku, by omega⟩

theorem checkClaims_ok
    (h : checkClaims db refund claims = .ok ()) : ∀ c ∈ claims, ClaimHolds db refund c := by
  induction claims with
  | nil => simp
  | cons c rest ih =>
    obtain ⟨_, hclaim, hrest⟩ := Except.of_bind h
    exact List.forall_mem_cons.mpr ⟨checkClaim_ok hclaim, ih hrest⟩

theorem sum_claimed_of_mem (amount : ClaimedLine → Int)
    (hn : (claims.map ClaimedLine.saleLineId).Nodup) (hc : c ∈ claims) :
    (claims.map (fun k => if k.saleLineId = c.saleLineId then amount k else 0)).sum =
      amount c := by
  induction claims with
  | nil => cases hc
  | cons k rest ih =>
    obtain ⟨hk, hn⟩ := List.nodup_cons.mp hn
    rw [List.map_cons, List.sum_cons]
    rcases List.mem_cons.mp hc with rfl | hc
    · have hzero : (rest.map (fun k =>
          if k.saleLineId = c.saleLineId then amount k else 0)).sum = 0 := by
        apply List.sum_eq_zero
        intro x hx
        obtain ⟨k, hkrest, rfl⟩ := List.mem_map.mp hx
        rw [if_neg]
        intro heq
        exact hk (List.mem_map.mpr ⟨k, hkrest, heq⟩)
      rw [if_pos rfl, hzero, Int.add_zero]
    · have hne : k.saleLineId ≠ c.saleLineId := by
        intro heq
        exact hk (List.mem_map.mpr ⟨c, hc, heq.symm⟩)
      rw [if_neg hne, ih hn hc, Int.zero_add]

theorem claimedQty_of_mem (hn : (claims.map ClaimedLine.saleLineId).Nodup) (hc : c ∈ claims) :
    claimedQty claims c.saleLineId = c.qty :=
  sum_claimed_of_mem ClaimedLine.qty hn hc

def Refund.row (refund : Refund) (sale : SaleRow) : RefundRow :=
  ⟨refund.id, refund.saleId, refund.totalMinor, refund.currency, refund.reason, refund.note,
    refund.processedBy, refund.createdAt, sale.tenantId⟩

structure Refunded (draw : RefundDraw) (refund : Refund) (db db' : SalesDb κ) (sale : SaleRow) :
    Prop where
  found : db.domain.sales.find? refund.saleId = some sale
  currency : refund.currency = (db.terms refund.saleId).currency
  total : db.domain.refundedTotal refund.saleId refund.currency + refund.totalMinor ≤
    sale.totalMinor
  nonneg : 0 ≤ refund.totalMinor
  valid : ∀ line ∈ refund.payload.lines, line.Valid
  units : ∀ line ∈ refund.lines, ∃ sold,
    soldLineForSaleLineInTx db.saleLines refund.saleId line.saleLineId = some sold ∧
      trim line.sku = trim sold.sku ∧
      db.domain.refundedQtyForSaleLineInTx refund.saleId line.saleLineId refund.id +
        requestedQty refund.lines line.saleLineId ≤ sold.qty
  header : db.domain.refunds.insert? (refund.row sale) = some db'.domain.refunds
  lines : db'.domain.refundLines.rows = db.domain.refundLines.rows ++
    refund.payload.lines.map (RefundLinePayload.row refund.id)
  credited : ∃ d₁, DomainTables.Credited
      { db.domain with refunds := db'.domain.refunds, refundLines := db'.domain.refundLines }
      (refundCredits db refund) d₁ ∧
    db'.domain.inventory = d₁.inventory ∧ db'.domain.stockSummary = d₁.stockSummary ∧
    db'.domain.products = d₁.products
  deducted : ∀ column, (db.terms refund.saleId).deductionLocations = some column →
    ∀ line ∈ refund.lines, line.qty ≤ DomainTables.recordedQty
      (DomainTables.recordedDeductions (recordedLines column) line.saleLineId)
  queue : db.queue.insert? (newQueueItem ⟨.ok (), db.domain.getSyncTerminalId⟩
    ⟨draw.now, draw.rowId, ""⟩ "refund_sale" (.json (refundJson refund)) sale.tenantId .critical) =
      some db'.queue
  sales : db'.domain.sales = db.domain.sales
  saleLines : db'.saleLines = db.saleLines
  terms : db'.terms = db.terms

theorem checkRefundTotal_ok {sale : SaleRow} {already : Int}
    (h : checkRefundTotal db sale refund = .ok already) :
    refund.currency = (db.terms refund.saleId).currency ∧
      db.domain.refundedTotal refund.saleId refund.currency + refund.totalMinor ≤
        sale.totalMinor := by
  unfold checkRefundTotal at h
  split at h
  · cases h
  · rename_i hcurrency
    split at h
    · cases h
    · rename_i found hfound
      obtain ⟨rfl, _⟩ := (checkedI64_eq_some_iff _ _).mp hfound
      split at h
      · cases h
      · rename_i after hafter
        obtain ⟨rfl, _⟩ := (checkedI64_eq_some_iff _ _).mp hafter
        split at h
        · cases h
        · exact ⟨not_not.mp hcurrency, by omega⟩

theorem enqueueRefundOutbox_ok {draw : RefundDraw} {sale : SaleRow}
    {db' : SalesDb κ} (h : enqueueRefundOutboxInTx draw sale refund db = .ok db') :
    ∃ queue, db.queue.insert? (newQueueItem ⟨.ok (), db.domain.getSyncTerminalId⟩
      ⟨draw.now, draw.rowId, ""⟩ "refund_sale" (.json (refundJson refund)) sale.tenantId
        .critical) = some queue ∧ db' = { db with queue } := by
  unfold enqueueRefundOutboxInTx enqueueOfflineInner at h
  simp only at h
  split at h
  · cases h
  · rename_i queue hqueue
    cases h
    split at hqueue
    · rename_i inserted hinserted
      cases hqueue
      exact ⟨queue, hinserted, rfl⟩
    · cases hqueue

theorem closeRefundOf_tables (crm : Crm κ) (sale : SaleRow) (refund : Refund) (already : Int)
    (db : SalesDb κ) : ∃ kdsOrders kdsLineItems log state,
      closeRefundOf crm sale refund already db =
        { db with
          domain := { db.domain with auditLog := log, crm := state }
          kdsOrders, kdsLineItems } := by
  unfold closeRefundOf DomainTables.closeOwnRefund DomainTables.audit
  cases sale.customerId with
  | none =>
    simp only
    split
    · unfold cancelKdsOrdersForSaleInTx
      split <;> exact ⟨_, _, _, _, rfl⟩
    · exact ⟨_, _, _, _, rfl⟩
  | some customerId =>
    simp only
    split
    · unfold cancelKdsOrdersForSaleInTx
      split <;> exact ⟨_, _, _, _, rfl⟩
    · exact ⟨_, _, _, _, rfl⟩

theorem createRefund_ok {crm : Crm κ} {draw : RefundDraw} {db' : SalesDb κ}
    (h : createRefund crm draw refund db = .ok db') : ∃ sale, Refunded draw refund db db' sale := by
  unfold createRefund at h
  split at h
  · cases h
  · rename_i sale hsale
    refine ⟨sale, ?_⟩
    obtain ⟨already, htotal, h⟩ := Except.of_bind h
    obtain ⟨hcurrency, hbound⟩ := checkRefundTotal_ok htotal
    obtain ⟨claims, hclaims, h⟩ := Except.of_bind h
    obtain ⟨_, hchecked, h⟩ := Except.of_bind h
    obtain ⟨db₁, hrows, h⟩ := Except.of_bind h
    obtain ⟨db₂, hqueue, h⟩ := Except.of_bind h
    obtain ⟨db₃, hcredit, rfl⟩ := Except.of_map h
    unfold coreStep at hrows
    split at hrows
    · cases hrows
    · rename_i domain hinsert
      cases hrows
      obtain ⟨hnonneg, hvalid, refunds, refundLines, hheader, hlines, rfl⟩ :=
        DomainTables.insertRefundRows_ok hinsert
      obtain ⟨queue, hinserted, rfl⟩ := enqueueRefundOutbox_ok hqueue
      have hqty : ∀ line ∈ refund.lines, 0 < line.qty := by
        intro line hline
        exact (hvalid line.payload (List.mem_map.mpr ⟨line, hline, rfl⟩)).qty
      obtain ⟨d₁, log, hcredited, rfl, hdeducted⟩ := creditRefund_ok hqty hcredit
      obtain ⟨kdsOrders, kdsLineItems, log', state, hclosed⟩ :=
        closeRefundOf_tables crm sale refund already
          { db with
            domain := { d₁ with auditLog := log }
            queue }
      rw [hclosed]
      obtain ⟨hclaimed, _, hn, hskus, _⟩ := claimRefundLines_ok hqty hclaims
      have hholds := checkClaims_ok hchecked
      obtain ⟨_, _, _, rfl⟩ := hcredited.frame
      refine ⟨hsale, hcurrency, hbound, hnonneg, hvalid, ?_, hheader, hlines,
        ⟨_, hcredited, rfl, rfl, rfl⟩, hdeducted, hinserted, rfl, rfl, rfl⟩
      intro line hline
      obtain ⟨c, hc, hid, hsku⟩ := hskus line hline
      obtain ⟨sold, hsold, htrim, hunits⟩ := hholds c hc
      have hqtyClaimed := claimedQty_of_mem (hn List.nodup_nil) hc
      rw [hclaimed] at hqtyClaimed
      have hnil : claimedQty [] c.saleLineId = 0 := rfl
      rw [hid] at hsold hunits hqtyClaimed hnil
      rw [hsku] at htrim
      exact ⟨sold, hsold, htrim, by omega⟩

end OzPos
