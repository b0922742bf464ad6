import OzPos.Commerce.RefundReplica

namespace OzPos

variable {κ : Type}

open DomainTables

/-- The same refunds of a sale, in money and in units of each line. -/
structure SameRefunds (o r : DomainTables κ) (saleId : String) : Prop where
  totals : ∀ currency, o.refundedTotal saleId currency = r.refundedTotal saleId currency
  units : ∀ saleLineId, o.refundedUnits saleId saleLineId = r.refundedUnits saleId saleLineId

/-- What the writers of a terminal that sells promise. -/
structure Kept (o : SalesDb κ) (saleId : String) : Prop where
  recorded : DeductionsRecorded o saleId
  linked : o.domain.LinesLinked
  held : ∀ row ∈ o.domain.inventory.rows, 0 ≤ row.qty

/-- A terminal that has the sale and the originator's stock and refunds, and not yet this one. -/
structure Replica (o r : DomainTables κ) (refund : Refund) : Prop where
  stock : DomainTables.SameStock o r
  refunds : SameRefunds o r refund.saleId
  sale : (r.sales.find? refund.saleId).isSome
  location : canonicalDefaultLocation ∈ r.locations
  linked : r.LinesLinked
  header : r.refunds.find? refund.id = none
  lines : ∀ line ∈ refund.lines, r.refundLines.find? line.id = none
  skus : ∀ p ∈ r.products.rows, ∀ q ∈ r.products.rows, trim p.sku = trim q.sku → p.sku = q.sku

variable (crm : Crm κ)

/-- The refund's outbox row, applied by the replica, leaves both terminals alike. -/
def Replicates (draw : RefundDraw) (applyDraw : ApplyDraw) (saleId : String)
    (o' : SalesDb κ) (r : DomainTables κ) : Prop :=
  ∃ item r', o'.queue.find? draw.rowId = some item ∧
    applyRemoteInTx crm applyDraw item r = .ok r' ∧
    DomainTables.SameStock o'.domain r' ∧ SameRefunds o'.domain r' saleId

/-- Each line comes back at the default location only, and names its sku as it was sold. -/
def BackToDefault (o : SalesDb κ) (refund : Refund) : Prop :=
  ∀ line ∈ refund.lines, line.sku = soldSku o refund.saleId line.saleLineId ∧
    ∀ c ∈ creditsOfLine o refund.saleId line, c.location = canonicalDefaultLocation

theorem Kept.legacyHeld {o : SalesDb κ} {saleId : String} (h : Kept o saleId) :
    LegacyHeld o.domain := legacyHeld_of_inventory h.held

namespace DomainTables

theorem closeRefund_tables (sale : SaleRow) (p : RefundPayload) (d : DomainTables κ) :
    ∃ auditLog state, d.closeRefund crm sale p = { d with auditLog, crm := state } := by
  unfold closeRefund
  cases sale.customerId with
  | none => exact ⟨_, _, rfl⟩
  | some customerId => exact ⟨_, _, rfl⟩

theorem refundedTotal_inserted {d d' : DomainTables κ} {row : RefundRow}
    (h : d.refunds.insert? row = some d'.refunds) (saleId currency : String) :
    d'.refundedTotal saleId currency = d.refundedTotal saleId currency +
      if row.saleId = saleId ∧ row.currency = currency then row.totalMinor else 0 := by
  rw [refundedTotal, Table.insert?_rows h]
  simp [refundedTotal]

theorem applyRefundSale_new (now : String) {refund : Refund} {d : DomainTables κ} {sale : SaleRow}
    (hsale : d.sales.find? refund.saleId = some sale) (hnew : d.refunds.find? refund.id = none)
    (htotal : 0 ≤ refund.totalMinor) (hvalid : ∀ line ∈ refund.payload.lines, line.Valid)
    (hn : (refund.payload.lines.map RefundLinePayload.id).Nodup)
    (hlines : ∀ line ∈ refund.lines, d.refundLines.find? line.id = none) :
    ∃ refunds refundLines, d.refunds.insert? (refund.row sale) = some refunds ∧
      refundLines.rows = d.refundLines.rows ++
        refund.payload.lines.map (RefundLinePayload.row refund.id) ∧
      d.applyRefundSale crm now refund.payload =
        (({ d with refunds, refundLines }).creditRefundEffectWithoutSale now
          refund.payload.lines).map (closeRefund crm sale refund.payload) := by
  have hinsert : (d.refunds.insert? (refund.row sale)).isSome := by
    rw [Table.insert?_isSome_iff]
    exact hnew
  obtain ⟨refunds, hrefunds⟩ := Option.isSome_iff_exists.mp hinsert
  have hfree : ∀ line ∈ refund.payload.lines,
      ({ d with refunds } : DomainTables κ).refundLines.find? line.id = none := by
    intro line hline
    obtain ⟨own, hown, rfl⟩ := List.mem_map.mp hline
    exact hlines own hown
  obtain ⟨d₁, hd₁⟩ : ∃ d₁, ({ d with refunds } : DomainTables κ).insertRefundLines refund.id
      refund.payload.lines = .ok d₁ := insertRefundLines_of_new hvalid hn hfree
  obtain ⟨_, refundLines, hrows, rfl⟩ := insertRefundLines_ok hd₁
  refine ⟨refunds, refundLines, hrefunds, hrows, ?_⟩
  have hold : ¬ d.refundAlreadyApplied refund.payload.id = true := by
    change ¬ (d.refunds.find? refund.id).isSome = true
    rw [hnew]
    exact Bool.false_ne_true
  have hfound : d.sales.find? refund.payload.saleId = some sale := hsale
  have hheader : d.insertRefund ⟨refund.payload.id, refund.payload.saleId,
      refund.payload.totalMinor, refund.payload.currency, refund.payload.reason,
      refund.payload.note, refund.payload.processedBy, refund.payload.createdAt,
      sale.tenantId⟩ = .ok { d with refunds } := by
    have hcheck : ¬ (refund.row sale).totalMinor < 0 := not_lt.mpr htotal
    change d.insertRefund (refund.row sale) = _
    rw [insertRefund, if_neg hcheck, hrefunds]
  have hin : ({ d with refunds } : DomainTables κ).insertRefundLines refund.payload.id
      refund.payload.lines = .ok { d with refunds, refundLines } := hd₁
  rw [applyRefundSale, if_neg hold, hfound]
  simp only [applyRefundWithSaleInTx, hheader, hin]
  cases ({ d with refunds, refundLines } : DomainTables κ).creditRefundEffectWithoutSale now
      refund.payload.lines <;> rfl

end DomainTables

section Replay

variable {crm : Crm κ} {draw : RefundDraw} {refund : Refund} {o o' : SalesDb κ}
  {r : DomainTables κ} (hcall : createRefund crm draw refund o = .ok o')
  (ho : Kept o refund.saleId) (hr : Replica o.domain r refund)

include hcall hr

variable (applyDraw : ApplyDraw)

theorem replica_applies :
    ∃ refunds refundLines sale item, r.refunds.insert? (refund.row sale) = some refunds ∧
      refundLines.rows = r.refundLines.rows ++
        refund.payload.lines.map (RefundLinePayload.row refund.id) ∧
      o'.queue.find? draw.rowId = some item ∧
      applyRemoteInTx crm applyDraw item r =
        (({ r with refunds, refundLines }).creditRefundEffectWithoutSale applyDraw.now
          refund.payload.lines).map (closeRefund crm sale refund.payload) := by
  obtain ⟨own, hown⟩ := createRefund_ok hcall
  obtain ⟨sale, hsale⟩ := Option.isSome_iff_exists.mp hr.sale
  have hn : (refund.payload.lines.map RefundLinePayload.id).Nodup := by
    have hunique := o'.domain.refundLines.unique
    rw [hown.lines, List.map_append, List.map_map] at hunique
    exact (List.nodup_append.mp hunique).2.1
  obtain ⟨refunds, refundLines, hrefunds, hrows, happly⟩ := applyRefundSale_new crm applyDraw.now
    hsale hr.header hown.nonneg hown.valid hn hr.lines
  have hitem := Table.find?_insert? hown.queue draw.rowId
  have hrowId : (newQueueItem ⟨.ok (), o.domain.getSyncTerminalId⟩ ⟨draw.now, draw.rowId, ""⟩
      "refund_sale" (.json (refundJson refund)) own.tenantId .critical).id = draw.rowId := rfl
  rw [if_pos hrowId] at hitem
  refine ⟨refunds, refundLines, sale, _, hrefunds, hrows, hitem, ?_⟩
  rw [← happly]
  unfold applyRemoteInTx
  have haction : remoteAction "refund_sale" = .refundSale := by decide
  have hparsed : parsed "invalid refund payload" RefundPayload.read
      (.json (refundJson refund)) = .ok refund.payload := by
    simp [parsed, Payload.doc?, RefundPayload.read_json]
  simp only [newQueueItem, haction, hparsed]
  rfl

include ho

theorem same_refunds {refunds : Table String RefundRow RefundRow.id}
    {refundLines : Table String RefundLineRow RefundLineRow.id} {sale : SaleRow}
    {r' : DomainTables κ} (hrefunds : r.refunds.insert? (refund.row sale) = some refunds)
    (hrows : refundLines.rows = r.refundLines.rows ++
      refund.payload.lines.map (RefundLinePayload.row refund.id))
    (hheader' : r'.refunds = refunds) (hlines' : r'.refundLines = refundLines) :
    SameRefunds o'.domain r' refund.saleId := by
  obtain ⟨own, hown⟩ := createRefund_ok hcall
  subst hheader' hlines'
  refine ⟨?_, ?_⟩
  · intro currency
    rw [refundedTotal_inserted hown.header, refundedTotal_inserted hrefunds,
      hr.refunds.totals]
    rfl
  · intro saleLineId
    rw [refundedUnits_inserted hown.header hown.lines ho.linked,
      refundedUnits_inserted hrefunds hrows hr.linked, hr.refunds.units]
    rfl

theorem replicates_of_default (hdefault : BackToDefault o refund) :
    Replicates crm draw applyDraw refund.saleId o' r := by
  obtain ⟨own, hown⟩ := createRefund_ok hcall
  obtain ⟨refunds, refundLines, sale, item, hrefunds, hrows, hitem, happly⟩ :=
    replica_applies hcall hr applyDraw
  obtain ⟨d₁, hcredited, hinventory, hsummary, hproducts⟩ := hown.credited
  have hqty : ∀ line ∈ refund.lines, 0 < line.qty := fun line hline =>
    (hown.valid line.payload (List.mem_map.mpr ⟨line, hline, rfl⟩)).qty
  have hrestores : ∀ line ∈ refund.lines,
      Restores (creditsOfLine o refund.saleId line) line.sku line.qty := by
    intro line hline
    rw [(hdefault line hline).1]
    exact creditsOfLine_restores hown ho.recorded hline
  have hsame : DomainTables.SameStock
      { o.domain with refunds := o'.domain.refunds, refundLines := o'.domain.refundLines }
      { r with refunds, refundLines } :=
    hr.stock.of_tables rfl rfl rfl rfl rfl rfl
  obtain ⟨r₁, hreplay, hsame₁⟩ := replay_alike applyDraw.now hsame hr.location hqty hrestores
    (fun line hline => (hdefault line hline).2) hcredited
  have hclosed : SameRefunds o'.domain (closeRefund crm sale refund.payload r₁) refund.saleId ∧
      DomainTables.SameStock o'.domain (closeRefund crm sale refund.payload r₁) := by
    obtain ⟨log, state, hclosed⟩ := closeRefund_tables crm sale refund.payload r₁
    obtain ⟨_, _, _, hframe⟩ := (creditRefundEffect_ok hqty hreplay).frame
    rw [hclosed]
    refine ⟨same_refunds hcall ho hr hrefunds hrows ?_ ?_,
      hsame₁.of_tables hproducts hinventory hsummary rfl rfl rfl⟩
    · rw [hframe]
    · rw [hframe]
  refine ⟨item, _, hitem, ?_, hclosed.2, hclosed.1⟩
  have hlines : refund.payload.lines = refund.lines.map RefundLine.payload := rfl
  rw [happly, hlines, hreplay]
  rfl

theorem default_of_replicates (h : Replicates crm draw applyDraw refund.saleId o' r) :
    BackToDefault o refund := by
  obtain ⟨own, hown⟩ := createRefund_ok hcall
  obtain ⟨refunds, refundLines, sale, item, hrefunds, hrows, hitem, happly⟩ :=
    replica_applies hcall hr applyDraw
  obtain ⟨item', r', hitem', hr', hsame', _⟩ := h
  obtain rfl := Option.some.inj (hitem.symm.trans hitem')
  obtain ⟨d₁, hcredited, hinventory, hsummary, hproducts⟩ := hown.credited
  have hqty : ∀ line ∈ refund.lines, 0 < line.qty := fun line hline =>
    (hown.valid line.payload (List.mem_map.mpr ⟨line, hline, rfl⟩)).qty
  rw [happly] at hr'
  obtain ⟨r₁, hreplay, rfl⟩ := Except.of_map hr'
  have hreplayed := creditRefundEffect_ok hqty hreplay
  obtain ⟨log, state, hclosed⟩ := closeRefund_tables crm sale refund.payload r₁
  rw [hclosed] at hsame'
  have hsame₁ : DomainTables.SameStock d₁ r₁ :=
    hsame'.of_tables hproducts.symm hinventory.symm hsummary.symm rfl rfl rfl
  have hrestores : ∀ line ∈ refund.lines, Restores (creditsOfLine o refund.saleId line)
      (soldSku o refund.saleId line.saleLineId) line.qty := fun line hline =>
    creditsOfLine_restores hown ho.recorded hline
  have hknown := hcredited.known
  intro line hline
  refine ⟨?_, ?_⟩
  · -- Both skus are in the replica's catalogue, and differ by padding at most.
    obtain ⟨sold, hsold, htrim, _⟩ := hown.units line hline
    have hsoldSku : soldSku o refund.saleId line.saleLineId = sold.sku := by
      rw [soldSku, hsold]
      rfl
    obtain ⟨c, hc⟩ := List.exists_mem_of_ne_nil _
      ((hrestores line hline).nonempty (hqty line hline))
    have hcknown := hknown c (List.mem_flatMap.mpr ⟨line, hline, hc⟩)
    rw [(hrestores line hline).sku c hc, hsoldSku] at hcknown
    rw [hsoldSku]
    have hsoldKnown : (r.productIdBySku sold.sku).isSome := by
      rw [← hr.stock.catalogue]
      exact hcknown
    have hlineKnown : (r.productIdBySku line.sku).isSome :=
      hreplayed.known (replayedCredit line) (List.mem_map.mpr ⟨line, hline, rfl⟩)
    obtain ⟨p, hp, hpsku⟩ := productOfSku hlineKnown
    obtain ⟨q, hq, hqsku⟩ := productOfSku hsoldKnown
    rw [← hpsku, ← hqsku] at htrim ⊢
    exact hr.skus p hp q hq htrim
  · intro c hc
    by_contra hother
    have hmem : c ∈ refundCredits o refund := List.mem_flatMap.mpr ⟨line, hline, hc⟩
    have hunits : ∀ c ∈ refundCredits o refund, 0 < c.qty := by
      intro k hk
      obtain ⟨l, hl, hkl⟩ := List.mem_flatMap.mp hk
      exact (hrestores l hl).units k hkl
    obtain ⟨a, ha⟩ := Option.isSome_iff_exists.mp (hknown c hmem)
    have hraised := (hcredited.raises ho.legacyHeld hunits a c.location).2 c hmem ha rfl
    obtain ⟨b, hb, halike⟩ := hr.stock.product ha
    have ha₁ : d₁.productIdBySku c.sku = some a :=
      (hcredited.frame.productIdBySku _).trans ha
    have hb₁ : r₁.productIdBySku c.sku = some b :=
      (hreplayed.frame.productIdBySku _).trans hb
    have hkept : r₁.quantityAt b c.location = r.quantityAt b c.location :=
      hreplayed.elsewhere (fun k hk => by
        obtain ⟨l, _, rfl⟩ := List.mem_map.mp hk
        rfl) hother b
    have hafter := (hsame₁.stock c.sku a b ha₁ hb₁).quantity c.location
    have hbefore := halike.quantity c.location
    rw [hafter, hkept, ← hbefore] at hraised
    exact lt_irrefl _ hraised

end Replay

/-- A refund reaches a replica as it happened exactly where all its units go back to the
default location. -/
theorem refund_replicates_iff (crm : Crm κ) (draw : RefundDraw) (applyDraw : ApplyDraw)
    (refund : Refund) (o o' : SalesDb κ) (r : DomainTables κ)
    (hcall : createRefund crm draw refund o = .ok o') (ho : Kept o refund.saleId)
    (hr : Replica o.domain r refund) :
    Replicates crm draw applyDraw refund.saleId o' r ↔ BackToDefault o refund :=
  ⟨default_of_replicates hcall ho hr applyDraw, replicates_of_default hcall ho hr applyDraw⟩

def counterDeductions : Json :=
  .obj [("version", .int 1), ("lines", .arr [.obj [("sale_line_id", .str "line-1"),
    ("sku", .str "SKU-1"), ("deductions", .arr [
      .obj [("location_id", .str canonicalDefaultLocation), ("qty", .int 2)]])]])]

def counterDb : SalesDb Unit :=
  { cafeDb with terms := fun _ => ⟨"IDR", some (.json counterDeductions)⟩ }

def cupDraw : RefundDraw := ⟨"2026-01-02T00:00:00.000Z", "row-1"⟩

def replicaDraw : ApplyDraw := ⟨"2026-01-02T00:01:00.000Z", ""⟩

theorem cafe_line {saleLineId : String} {sold : SaleLineRow}
    (h : soldLineForSaleLineInTx cafeDb.saleLines "sale-1" saleLineId = some sold) :
    saleLineId = "line-1" ∧ sold.sku = "SKU-1" := by
  obtain ⟨hfind, _⟩ := Option.filter_eq_some_iff.mp h
  obtain ⟨hmem, hkey⟩ := (Table.find?_eq_some_iff _ _ _).mp hfind
  obtain rfl := List.mem_singleton.mp hmem
  exact ⟨hkey.symm, rfl⟩

theorem recordedEntry_of {location : String} {qty : Int} (h : 0 < qty) (hfits : qty < 2^63) :
    RecordedEntry (.obj [("location_id", .str location), ("qty", .int qty)]) := by
  refine ⟨location, qty, rfl, ?_, h⟩
  have hread : Json.asI64? (.int qty) = some qty := asI64?_int ⟨by omega, hfits⟩
  exact hread

theorem cafe_kept : Kept cafeDb "sale-1" := by
  refine ⟨?_, ?_, by decide⟩
  · intro column hcolumn saleLineId sold hsold
    obtain ⟨rfl, hsku⟩ := cafe_line hsold
    obtain rfl := Option.some.inj hcolumn
    have hentries : recordedDeductions (recordedLines (.json cafeDeductions)) "line-1" =
        [.obj [("location_id", .str canonicalDefaultLocation), ("qty", .int 1)],
          .obj [("location_id", .str "loc-B"), ("qty", .int 1)]] := by decide +kernel
    rw [hsku, hentries]
    refine ⟨by decide +kernel, List.forall_mem_cons.mpr ⟨?_, List.forall_mem_singleton.mpr ?_⟩⟩
    · exact recordedEntry_of (by omega) (by omega)
    · exact recordedEntry_of (by omega) (by omega)
  · intro row hrow
    cases hrow

theorem counter_kept : Kept counterDb "sale-1" := by
  refine ⟨?_, cafe_kept.linked, cafe_kept.held⟩
  intro column hcolumn saleLineId sold hsold
  obtain ⟨rfl, hsku⟩ := cafe_line hsold
  obtain rfl := Option.some.inj hcolumn
  have hentries : recordedDeductions (recordedLines (.json counterDeductions)) "line-1" =
      [.obj [("location_id", .str canonicalDefaultLocation), ("qty", .int 2)]] := by decide +kernel
  rw [hsku, hentries]
  refine ⟨by decide +kernel, List.forall_mem_singleton.mpr ?_⟩
  exact recordedEntry_of (by omega) (by omega)

theorem cafe_replica : Replica cafeTables cafeTables (cupRefund "ref-1") := by
  refine ⟨DomainTables.SameStock.refl _, ⟨fun _ => rfl, fun _ => rfl⟩, rfl, by decide, ?_, rfl, ?_, by decide⟩
  · intro row hrow
    cases hrow
  · decide

theorem counter_refund_replicates :
    ∃ o', createRefund cafeCrm cupDraw (cupRefund "ref-1") counterDb = .ok o' ∧
      Replicates cafeCrm cupDraw replicaDraw "sale-1" o' cafeTables := by
  have hok : (createRefund cafeCrm cupDraw (cupRefund "ref-1") counterDb).isOk = true := by
    decide +kernel
  cases hcall : createRefund cafeCrm cupDraw (cupRefund "ref-1") counterDb with
  | error e => simp [hcall, Except.isOk, Except.toBool] at hok
  | ok o' =>
    refine ⟨o', rfl, (refund_replicates_iff cafeCrm cupDraw replicaDraw (cupRefund "ref-1")
      counterDb o' cafeTables hcall counter_kept cafe_replica).mpr ?_⟩
    unfold BackToDefault
    decide +kernel

/-- The cup taken at `loc-B` comes back there, and at the default location on the replica. -/
theorem cafe_refund_differs :
    Kept cafeDb "sale-1" ∧ Replica cafeDb.domain cafeTables (cupRefund "ref-1") ∧
    ∃ o', createRefund cafeCrm cupDraw (cupRefund "ref-1") cafeDb = .ok o' ∧
      ¬ Replicates cafeCrm cupDraw replicaDraw "sale-1" o' cafeTables := by
  refine ⟨cafe_kept, cafe_replica, ?_⟩
  have hok : (createRefund cafeCrm cupDraw (cupRefund "ref-1") cafeDb).isOk = true := by
    decide +kernel
  cases hcall : createRefund cafeCrm cupDraw (cupRefund "ref-1") cafeDb with
  | error e => simp [hcall, Except.isOk, Except.toBool] at hok
  | ok o' =>
    refine ⟨o', rfl, ?_⟩
    intro h
    have hdefault := default_of_replicates hcall cafe_kept cafe_replica replicaDraw h
    revert hdefault
    unfold BackToDefault
    decide +kernel

end OzPos
