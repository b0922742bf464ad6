import OzPos.Inventory.TransferLedger

namespace OzPos

open DomainTables

variable {κ : Type}

theorem insertTransferLine_ok {line : StockTransferLine}
    {lines lines' : Table String StockTransferLine StockTransferLine.id}
    (h : insertTransferLine line lines = .ok lines') :
    0 < line.qty ∧ lines'.rows = lines.rows ++ [line] := by
  unfold insertTransferLine at h
  split at h
  · cases h
  · cases hinsert : lines.insert? line with
    | none => simp [hinsert] at h
    | some next =>
      simp only [hinsert, Except.ok.injEq] at h
      rw [← h]
      exact ⟨by omega, Table.insert?_rows hinsert⟩

variable {draw : TransferDraw}

theorem insertTransferLines_ok {n : Nat} {input : List StockTransferLine}
    {lines lines' : Table String StockTransferLine StockTransferLine.id}
    (h : insertTransferLines draw n input lines = .ok lines') :
    ∃ added, lines'.rows = lines.rows ++ added ∧ ∀ line ∈ added,
      line.transferId = draw.transferId ∧ line.receivedQty = 0 ∧ 0 < line.qty := by
  induction input generalizing n lines with
  | nil =>
    cases h
    exact ⟨[], by simp, by simp⟩
  | cons line rest ih =>
    obtain ⟨mid, hfirst, hrest⟩ := Except.of_bind h
    obtain ⟨hqty, hmid⟩ := insertTransferLine_ok hfirst
    obtain ⟨added, hrows, hadded⟩ := ih hrest
    refine ⟨⟨draw.lineId n, draw.transferId, line.sku, line.productName, line.qty, 0⟩ :: added,
      ?_, ?_⟩
    · rw [hrows, hmid, List.append_assoc]
      rfl
    · exact List.forall_mem_cons.mpr ⟨⟨rfl, rfl, hqty⟩, hadded⟩

variable {s next : TransferDb κ}

theorem createTransfer_conserves {input : CreateTransfer} (hs : TransfersSound s)
    (hno : NoLegacy s.domain) (h : createTransfer draw input s = .ok next) : Conserves s next := by
  unfold createTransfer at h
  simp only at h
  split at h
  · cases h
  · split at h
    · cases h
    · cases hinsert : s.transfers.insert? (newTransfer draw input) with
      | none => simp [hinsert] at h
      | some transfers =>
        simp only [hinsert] at h
        obtain ⟨lines, hlines, hnext⟩ := Except.of_map h
        obtain ⟨added, hrows, hadded⟩ := insertTransferLines_ok hlines
        have hfind := Table.find?_insert? hinsert
        have hnew : s.transfers.find? (newTransfer draw input).id = none := by
          rw [← Table.insert?_isSome_iff, hinsert]
          rfl
        have hadds : next.lines.rows = s.lines.rows ++ added := by
          rw [← hnext]
          exact hrows
        have hdomain : next.domain = s.domain := by rw [← hnext]
        have htransfers : next.transfers = transfers := by rw [← hnext]
        apply conserves_added hs hno hdomain hadds
        · intro k t ht
          rw [htransfers]
          have hid : (newTransfer draw input).id ≠ k := by
            intro heq
            rw [heq, ht] at hnew
            cases hnew
          rw [hfind, if_neg hid]
          exact ht
        · intro line hline
          obtain ⟨hid, hzero, hqty⟩ := hadded line hline
          refine ⟨hzero, by omega, newTransfer draw input, ?_, rfl⟩
          rw [htransfers]
          rw [hfind, hid]
          exact if_pos rfl

theorem addTransferLine_conserves {line : StockTransferLine}
    (hline : line.receivedQty = 0) (hs : TransfersSound s) (hno : NoLegacy s.domain)
    (h : addTransferLine line s = .ok next) : Conserves s next := by
  unfold addTransferLine at h
  cases hfind : s.transfers.find? line.transferId with
  | none => simp [hfind] at h
  | some t =>
    simp only [hfind] at h
    split at h
    · cases h
    · rename_i hdraft
      obtain ⟨lines, hinsert, hnext⟩ := Except.of_map h
      obtain ⟨hqty, hrows⟩ := insertTransferLine_ok hinsert
      have hadds : next.lines.rows = s.lines.rows ++ [line] := by
        rw [← hnext]
        exact hrows
      have hdomain : next.domain = s.domain := by rw [← hnext]
      have htransfers : next.transfers = s.transfers := by rw [← hnext]
      apply conserves_added hs hno hdomain hadds
      · intro k t' ht
        rw [htransfers]
        exact ht
      · intro added hadded
        rw [htransfers]
        rw [List.mem_singleton.mp hadded]
        exact ⟨hline, by omega, t, hfind, not_not.mp hdraft⟩

theorem removeTransferLine_ok {lineId : String}
    (h : removeTransferLine lineId s = .ok next) :
    ∃ line t, s.lines.find? lineId = some line ∧ s.transfers.find? line.transferId = some t ∧
      t.status = .draft ∧ next = { s with lines := s.lines.retain (fun row => row.id ≠ lineId) } := by
  unfold removeTransferLine at h
  cases hline : s.lines.find? lineId with
  | none => simp [hline] at h
  | some line =>
    cases hfind : s.transfers.find? line.transferId with
    | none => simp [hline, hfind] at h
    | some t =>
      simp only [hline, hfind] at h
      split at h
      · cases h
      · rename_i hdraft
        exact ⟨line, t, rfl, hfind, not_not.mp hdraft, (Except.ok.inj h).symm⟩

theorem removeTransferLine_conserves {lineId : String} (hs : TransfersSound s)
    (hno : NoLegacy s.domain) (h : removeTransferLine lineId s = .ok next) : Conserves s next := by
  obtain ⟨removed, t, hremoved, hfind, hdraft, rfl⟩ := removeTransferLine_ok h
  have hline : ∀ line ∈ s.lines.rows, line.id = lineId → line = removed := by
    intro line hmem hid
    obtain ⟨hmem', hid'⟩ := (Table.find?_eq_some_iff _ _ _).mp hremoved
    exact line_unique hmem hmem' (hid.trans hid'.symm)
  constructor
  · exact StockOnly.refl _
  · exact hno
  · intro line hmem
    exact hs line (List.mem_of_mem_filter hmem)
  · intro weight measure _
    have hsame : ∀ line ∈ s.lines.rows,
        (if line.id ≠ lineId then
          lineOut weight s.domain (s.transfers.find? line.transferId) line else 0) =
          lineOut weight s.domain (s.transfers.find? line.transferId) line := by
      intro line hmem
      by_cases hid : line.id = lineId
      · rw [hline line hmem hid, hfind, lineOut_of_unsent (by rw [hdraft]; rfl), ite_self]
      · exact if_pos hid
    have hkept : ∀ g : StockTransferLine → Int,
        ((s.lines.rows.filter (fun row => row.id ≠ lineId)).map g).sum =
          (s.lines.rows.map (fun row => if row.id ≠ lineId then g row else 0)).sum := fun g =>
      Grouping.sum_filter (fun row : StockTransferLine => row.id ≠ lineId) g s.lines.rows
    simp only [TransferDb.out, Table.retain, hkept]
    rw [List.map_congr_left hsame]
  · intro line hmem after hafter hid
    rw [line_unique (List.mem_of_mem_filter hafter) hmem hid]
  · intro id t' hfind' hsent
    refine ⟨?_, t', hfind', hsent, rfl⟩
    simp only [TransferDb.goodsOf, TransferDb.linesOf, Table.retain, List.filter_filter]
    congr 1
    apply List.filter_congr
    intro line hmem
    by_cases hid : line.id = lineId
    · have hother : line.transferId ≠ id := by
        intro heq
        rw [← hline line hmem hid, heq, hfind', Option.some.injEq] at hfind
        rw [hfind] at hsent
        exact hsent.1 hdraft
      simp [hother]
    · simp [hid]

variable {id : String}

theorem sendTransfer_ok
    (h : sendTransfer draw id s = .ok next) :
    ∃ t d, s.transfers.find? id = some t ∧ (t.status = .draft ∨ t.status = .pending) ∧
      s.domain.sendLines draw.now t.sourceLocationId
        ((s.linesOf id).insertionSort (fun a b => a.id ≤ b.id)) = .ok d ∧
      next = { s with
        transfers := s.transfers.update id (setSent draw.now) (fun _ => rfl)
        domain := d } := by
  unfold sendTransfer at h
  cases hfind : s.transfers.find? id with
  | none => simp [hfind] at h
  | some t =>
    simp only [hfind] at h
    split at h
    · rename_i hstatus
      obtain ⟨d, hsend, hnext⟩ := Except.of_map h
      exact ⟨t, d, rfl, hstatus, hsend, hnext.symm⟩
    · cases h

theorem sendTransfer_conserves (hs : TransfersSound s) (hno : NoLegacy s.domain)
    (h : sendTransfer draw id s = .ok next) : Conserves s next := by
  obtain ⟨t, d, hfind, hstatus, hsend, hnext⟩ := sendTransfer_ok h
  have hown := linesOf_sound hs hfind
  have hzero : ∀ line ∈ s.linesOf id, line.receivedQty = 0 := by
    intro line hline
    apply (hown line hline).unreceived
    rcases hstatus with hdraft | hpending
    · exact .inl hdraft
    · exact .inr (.inl hpending)
  have hunsent : t.status.dispatched = false := by
    rcases hstatus with hdraft | hpending
    · rw [hdraft]
      rfl
    · rw [hpending]
      rfl
  have hdomain : next.domain = d := by rw [hnext]
  have hstock := sendLines_ok hno hsend
  rw [← hdomain] at hstock
  have htransfers : ∀ k, next.transfers.find? k =
      (s.transfers.find? k).map (fun r => if k = id then setSent draw.now r else r) := by
    intro k
    rw [hnext]
    exact Table.find?_update s.transfers id (setSent draw.now) (fun _ => rfl) k
  apply conserves_restatus hs hfind htransfers
  · rw [hnext]
  · exact hstock
  · intro weight
    have hsource : (setSent draw.now t).sourceLocationId = t.sourceLocationId := rfl
    rw [linesOut_of_unsent hunsent, linesOut_of_unreceived rfl hzero, hsource,
      linePieces_perm (List.perm_insertionSort _ _)]
    omega
  · intro line hline
    have hsound := hown line hline
    refine ⟨hsound.lower, hsound.upper, fun _ => hzero line hline, ?_⟩
    intro hreceived
    cases hreceived
  · intro t
    exact ⟨by simp [setSent], by simp [setSent]⟩
  · intro t
    rfl

theorem cancelTransfer_ok
    (h : cancelTransfer draw id s = .ok next) :
    ∃ t d, s.transfers.find? id = some t ∧
      (t.status = .inTransit ∧
          s.domain.returnLines draw.now t.sourceLocationId (s.linesOf id) = .ok d ∨
        (t.status = .draft ∨ t.status = .pending) ∧ d = s.domain) ∧
      next = { s with
        transfers := s.transfers.update id (setCancelled draw.now) (fun _ => rfl)
        domain := d } := by
  unfold cancelTransfer at h
  cases hfind : s.transfers.find? id with
  | none => simp [hfind] at h
  | some t =>
    simp only [hfind] at h
    split at h
    · cases h
    · rename_i hopen
      obtain ⟨d, hreturn, hnext⟩ := Except.of_map h
      refine ⟨t, d, rfl, ?_, hnext.symm⟩
      split at hreturn
      · rename_i hstatus
        exact .inl ⟨hstatus, hreturn⟩
      · rename_i hstatus
        refine .inr ⟨?_, (Except.ok.inj hreturn).symm⟩
        cases ht : t.status with
        | draft => exact .inl rfl
        | pending => exact .inr rfl
        | inTransit => exact absurd ht hstatus
        | received => simp [ht] at hopen
        | receivedPartial => simp [ht] at hopen
        | cancelled => simp [ht] at hopen

theorem cancelTransfer_conserves (hs : TransfersSound s) (hno : NoLegacy s.domain)
    (h : cancelTransfer draw id s = .ok next) : Conserves s next := by
  obtain ⟨t, d, hfind, hreturn, hnext⟩ := cancelTransfer_ok h
  have hown := linesOf_sound hs hfind
  have hdomain : next.domain = d := by rw [hnext]
  have hlines : next.lines = s.lines := by rw [hnext]
  have hback : (setCancelled draw.now t).status.dispatched = false := rfl
  have htransfers : ∀ k, next.transfers.find? k =
      (s.transfers.find? k).map (fun r => if k = id then setCancelled draw.now r else r) := by
    intro k
    rw [hnext]
    exact Table.find?_update s.transfers id (setCancelled draw.now) (fun _ => rfl) k
  have hsound : ∀ line ∈ s.linesOf id, LineSound (setCancelled draw.now t) line := by
    intro line hline
    have hold := hown line hline
    exact ⟨hold.lower, hold.upper, by simp [setCancelled], by simp [setCancelled]⟩
  have hsent : ∀ t, (setCancelled draw.now t).status.sent := by
    intro t
    exact ⟨by simp [setCancelled], by simp [setCancelled]⟩
  rcases hreturn with ⟨hstatus, hreturn⟩ | ⟨hstatus, hsame⟩
  · have hzero : ∀ line ∈ s.linesOf id, line.receivedQty = 0 := by
      intro line hline
      exact (hown line hline).unreceived (.inr (.inr hstatus))
    have hout : t.status.dispatched = true := by
      rw [hstatus]
      rfl
    have hstock := returnLines_ok hno hreturn
    rw [← hdomain] at hstock
    apply conserves_restatus hs hfind htransfers hlines hstock _ hsound hsent (fun _ => rfl)
    intro weight
    rw [linesOut_of_unsent hback, linesOut_of_unreceived hout hzero]
    omega
  · have hunsent : t.status.dispatched = false := by
      rcases hstatus with hdraft | hpending
      · rw [hdraft]
        rfl
      · rw [hpending]
        rfl
    have hstock : Rebalanced s.domain next.domain (fun _ => 0) := by
      rw [hdomain, hsame]
      exact Rebalanced.refl hno
    apply conserves_restatus hs hfind htransfers hlines hstock _ hsound hsent (fun _ => rfl)
    intro weight
    rw [linesOut_of_unsent hback, linesOut_of_unsent hunsent]
    rfl

/-- What a receipt makes of a line: one of its own has more received, never over its quantity. -/
structure LineGrown (id : String) (line after : StockTransferLine) : Prop where
  same : after = { line with receivedQty := after.receivedQty }
  more : line.receivedQty ≤ after.receivedQty
  upper : line.receivedQty ≤ line.qty → after.receivedQty ≤ line.qty
  other : line.transferId ≠ id → after.receivedQty = line.receivedQty

theorem LineGrown.refl (id : String) (line : StockTransferLine) : LineGrown id line line :=
  ⟨rfl, le_refl _, fun h => h, fun _ => rfl⟩

theorem LineGrown.trans {a b c : StockTransferLine} (h : LineGrown id a b)
    (h' : LineGrown id b c) : LineGrown id a c where
  same := by
    rw [h'.same, h.same]
  more := le_trans h.more h'.more
  upper := by
    intro hupper
    have hqty : b.qty = a.qty := by rw [h.same]
    have hb := h.upper hupper
    rw [← hqty] at hb ⊢
    exact h'.upper hb
  other := by
    intro hid
    have hb : b.transferId = a.transferId := by rw [h.same]
    rw [h'.other (by rw [hb]; exact hid), h.other hid]

/-- Some lines of a dispatched transfer have been received. -/
structure Receiving (id : String) (s next : TransferDb κ) : Prop where
  transfers : next.transfers = s.transfers
  frame : StockOnly s.domain next.domain
  noLegacy : NoLegacy next.domain
  balanced : ∀ weight measure, Gauge weight measure →
    measure next.domain + next.out weight = measure s.domain + s.out weight
  goods : next.lines.rows.map StockTransferLine.goods = s.lines.rows.map StockTransferLine.goods
  grown : ∀ after ∈ next.lines.rows, ∃ line ∈ s.lines.rows, LineGrown id line after

theorem Receiving.refl (id : String) (h : NoLegacy s.domain) : Receiving id s s where
  transfers := rfl
  frame := StockOnly.refl _
  noLegacy := h
  balanced _ _ _ := rfl
  goods := rfl
  grown line hline := ⟨line, hline, LineGrown.refl id line⟩

theorem Receiving.trans {s₁ s₂ s₃ : TransferDb κ} (h : Receiving id s₁ s₂)
    (h' : Receiving id s₂ s₃) : Receiving id s₁ s₃ where
  transfers := h'.transfers.trans h.transfers
  frame := h.frame.trans h'.frame
  noLegacy := h'.noLegacy
  balanced weight measure hgauge :=
    (h'.balanced weight measure hgauge).trans (h.balanced weight measure hgauge)
  goods := h'.goods.trans h.goods
  grown := by
    intro after hafter
    obtain ⟨mid, hmid, hgrown'⟩ := h'.grown after hafter
    obtain ⟨line, hline, hgrown⟩ := h.grown mid hmid
    exact ⟨line, hline, hgrown.trans hgrown'⟩

variable {now : String}

theorem receiveLine_ok {destination : String} {arrived : ReceivedLine}
    (h : receiveLine now id destination arrived s = .ok next) :
    ∃ line d, s.lines.find? arrived.lineId = some line ∧ line.transferId = id ∧
      line.receivedQty ≤ arrived.receivedQty ∧ arrived.receivedQty ≤ line.qty ∧
      (s.domain.shiftStock now line.sku "stock_transfer_in" destination
          (arrived.receivedQty - line.receivedQty) = .ok d ∨
        arrived.receivedQty = line.receivedQty ∧ d = s.domain) ∧
      next = { setReceived arrived.receivedQty arrived.lineId s with domain := d } := by
  unfold receiveLine at h
  cases hline : (s.lines.find? arrived.lineId).filter (fun line => line.transferId = id) with
  | none => simp [hline] at h
  | some line =>
    obtain ⟨hfind, hid⟩ := Option.filter_eq_some_iff.mp hline
    simp only [hline] at h
    split at h
    · cases h
    · split at h
      · cases h
      · split at h
        · cases h
        · split at h
          · obtain ⟨d, hshift, hnext⟩ := Except.of_map h
            exact ⟨line, d, hfind, of_decide_eq_true hid, by omega, by omega, .inl hshift,
              hnext.symm⟩
          · have hsame : arrived.receivedQty = line.receivedQty := by omega
            exact ⟨line, s.domain, hfind, of_decide_eq_true hid, by omega, by omega,
              .inr ⟨hsame, rfl⟩, (Except.ok.inj h).symm⟩

variable {t : TransferRow}

theorem receiveLine_receiving {arrived : ReceivedLine} (hno : NoLegacy s.domain)
    (hfind : s.transfers.find? id = some t) (hdispatched : t.status.dispatched = true)
    (h : receiveLine now id t.destinationLocationId arrived s = .ok next) :
    Receiving id s next := by
  obtain ⟨line, d, hline, hid, hmore, hupper, hshift, rfl⟩ := receiveLine_ok h
  have hstock : Rebalanced s.domain d (fun weight => pieces weight s.domain line.sku
      t.destinationLocationId (arrived.receivedQty - line.receivedQty)) := by
    rcases hshift with hshift | ⟨hsame, rfl⟩
    · exact shiftStock_ok hno hshift
    · apply (Rebalanced.refl hno).congr
      intro weight
      rw [hsame, Int.sub_self, pieces_zero]
  constructor
  · rfl
  · exact hstock.frame
  · exact hstock.noLegacy
  · intro weight measure hgauge
    have hsum := Table.sum_update s.lines
      (fun row => lineOut weight s.domain (s.transfers.find? row.transferId) row)
      (fun row => { row with receivedQty := arrived.receivedQty }) (fun _ => rfl) hline
    have hout : TransferDb.out
        { setReceived arrived.receivedQty arrived.lineId s with domain := d } weight =
        ((setReceived arrived.receivedQty arrived.lineId s).lines.rows.map (fun row =>
          lineOut weight s.domain (s.transfers.find? row.transferId) row)).sum := by
      simp only [TransferDb.out, lineOut_frame hstock.frame]
      rfl
    rw [hout, hstock.gauged weight measure hgauge, TransferDb.out, setReceived, hsum]
    simp only [hid, hfind, lineOut, hdispatched, if_true, pieces_sub]
    omega
  · simp only [setReceived, Table.update, Table.rewriteRows, List.map_map]
    apply List.map_congr_left
    intro row _
    simp only [Function.comp_apply]
    split
    · rfl
    · rfl
  · intro after hafter
    obtain ⟨row, hrow, rfl⟩ := (Table.mem_update s.lines arrived.lineId
      (fun row => { row with receivedQty := arrived.receivedQty }) (fun _ => rfl) after).mp hafter
    refine ⟨row, hrow, ?_⟩
    by_cases hkey : row.id = arrived.lineId
    · have hfound := (Table.find?_eq_some_iff s.lines arrived.lineId row).mpr ⟨hrow, hkey⟩
      rw [hline, Option.some.injEq] at hfound
      subst hfound
      rw [if_pos hkey]
      exact ⟨rfl, hmore, fun _ => hupper, fun hne => absurd hid hne⟩
    · rw [if_neg hkey]
      exact LineGrown.refl id row

variable {arrived : List ReceivedLine}

theorem receiveLines_receiving (hno : NoLegacy s.domain) (hfind : s.transfers.find? id = some t)
    (hdispatched : t.status.dispatched = true)
    (h : receiveLines now id t.destinationLocationId arrived s = .ok next) :
    Receiving id s next := by
  induction arrived generalizing s with
  | nil =>
    cases h
    exact Receiving.refl id hno
  | cons first rest ih =>
    obtain ⟨mid, hfirst, hrest⟩ := Except.of_bind h
    have hmid := receiveLine_receiving hno hfind hdispatched hfirst
    have hfind' : mid.transfers.find? id = some t := by
      rw [hmid.transfers]
      exact hfind
    exact hmid.trans (ih hmid.noLegacy hfind' hrest)

theorem receiveTransfer_ok {receivedBy : String}
    (h : receiveTransfer draw id receivedBy arrived s = .ok next) :
    ∃ t mid, s.transfers.find? id = some t ∧
      (t.status = .inTransit ∨ t.status = .receivedPartial) ∧
      receiveLines draw.now id t.destinationLocationId arrived s = .ok mid ∧
      next = { mid with
        transfers := mid.transfers.update id
          (setReceipt draw.now receivedBy (receiptStatus (mid.linesOf id))) (fun _ => rfl) } := by
  unfold receiveTransfer at h
  cases hfind : s.transfers.find? id with
  | none => simp [hfind] at h
  | some t =>
    simp only [hfind] at h
    split at h
    · rename_i hstatus
      obtain ⟨mid, hlines, hnext⟩ := Except.of_map h
      exact ⟨t, mid, rfl, hstatus, hlines, hnext.symm⟩
    · cases h

theorem receiptStatus_cases (lines : List StockTransferLine) :
    (receiptStatus lines = .received ∧ ∀ line ∈ lines, line.qty ≤ line.receivedQty) ∨
      receiptStatus lines = .receivedPartial ∨
      (receiptStatus lines = .inTransit ∧ ∀ line ∈ lines, line.receivedQty ≤ 0) := by
  unfold receiptStatus
  by_cases hall : lines.all (fun line => line.qty ≤ line.receivedQty) = true
  · rw [if_pos hall]
    exact .inl ⟨rfl, by simpa using hall⟩
  · rw [if_neg hall]
    by_cases hany : lines.any (fun line => 0 < line.receivedQty) = true
    · rw [if_pos hany]
      exact .inr (.inl rfl)
    · rw [if_neg hany]
      exact .inr (.inr ⟨rfl, by simpa using hany⟩)

theorem lineSound_receipt (now receivedBy : String) (t : TransferRow)
    {lines : List StockTransferLine}
    (hbounds : ∀ line ∈ lines, 0 ≤ line.receivedQty ∧ line.receivedQty ≤ line.qty) :
    ∀ line ∈ lines, LineSound (setReceipt now receivedBy (receiptStatus lines) t) line := by
  intro line hline
  obtain ⟨hlower, hupper⟩ := hbounds line hline
  have hstatus : (setReceipt now receivedBy (receiptStatus lines) t).status =
      receiptStatus lines := rfl
  refine ⟨hlower, hupper, ?_, ?_⟩
  · rw [hstatus]
    rcases receiptStatus_cases lines with ⟨heq, _⟩ | heq | ⟨_, hnone⟩
    · simp [heq]
    · simp [heq]
    · intro _
      have hline := hnone line hline
      omega
  · rw [hstatus]
    rcases receiptStatus_cases lines with ⟨_, hfull⟩ | heq | ⟨heq, _⟩
    · intro _
      have hline := hfull line hline
      omega
    · simp [heq]
    · simp [heq]

theorem goodsOf_eq (s : TransferDb κ) (id : String) :
    s.goodsOf id = (s.lines.rows.map StockTransferLine.goods).filter (fun g => g.1 = id) := by
  rw [TransferDb.goodsOf, TransferDb.linesOf, List.filter_map]
  rfl

theorem Receiving.grown_line (h : Receiving id s next) :
    ∀ line ∈ s.lines.rows, ∀ after ∈ next.lines.rows, after.id = line.id →
      line.receivedQty ≤ after.receivedQty := by
  intro line hline after hafter hid
  obtain ⟨old, hold, hgrown⟩ := h.grown after hafter
  have hkey : old.id = line.id := by
    rw [← hid, hgrown.same]
  rw [← line_unique hold hline hkey]
  exact hgrown.more

theorem linesOut_restatus {weight : StockWeight} {d : DomainTables κ} {t' : TransferRow}
    (hdispatched : t'.status.dispatched = t.status.dispatched)
    (hsource : t'.sourceLocationId = t.sourceLocationId)
    (hdestination : t'.destinationLocationId = t.destinationLocationId)
    (lines : List StockTransferLine) : linesOut weight d t' lines = linesOut weight d t lines := by
  simp only [linesOut, lineOut, hdispatched, hsource, hdestination]

theorem receiveTransfer_conserves {receivedBy : String} (hs : TransfersSound s)
    (hno : NoLegacy s.domain) (h : receiveTransfer draw id receivedBy arrived s = .ok next) :
    Conserves s next := by
  obtain ⟨t, mid, hfind, hstatus, hlines, hnext⟩ := receiveTransfer_ok h
  have hdispatched : t.status.dispatched = true := by
    rcases hstatus with htransit | hpart
    · rw [htransit]
      rfl
    · rw [hpart]
      rfl
  have hmid := receiveLines_receiving hno hfind hdispatched hlines
  have hfindMid : mid.transfers.find? id = some t := by
    rw [hmid.transfers]
    exact hfind
  have hbounds : ∀ line ∈ mid.lines.rows, 0 ≤ line.receivedQty ∧ line.receivedQty ≤ line.qty := by
    intro after hafter
    obtain ⟨line, hline, hgrown⟩ := hmid.grown after hafter
    obtain ⟨_, _, hsound⟩ := hs line hline
    have hqty : after.qty = line.qty := by rw [hgrown.same]
    have hmore := hgrown.more
    have hupper := hgrown.upper hsound.upper
    have hlower := hsound.lower
    omega
  have hown : ∀ line ∈ mid.linesOf id, 0 ≤ line.receivedQty ∧ line.receivedQty ≤ line.qty := by
    intro line hline
    exact hbounds line (List.mem_of_mem_filter hline)
  have hreceipt := lineSound_receipt draw.now receivedBy t hown
  have htransfers : ∀ k, next.transfers.find? k = (mid.transfers.find? k).map (fun r =>
      if k = id then setReceipt draw.now receivedBy (receiptStatus (mid.linesOf id)) r else r) := by
    intro k
    rw [hnext]
    exact Table.find?_update mid.transfers id
      (setReceipt draw.now receivedBy (receiptStatus (mid.linesOf id))) (fun _ => rfl) k
  have hlinesMid : next.lines = mid.lines := by rw [hnext]
  have hdomain : next.domain = mid.domain := by rw [hnext]
  have hstill : ∀ r, (setReceipt draw.now receivedBy (receiptStatus (mid.linesOf id)) r).status =
      receiptStatus (mid.linesOf id) := fun _ => rfl
  constructor
  · rw [hdomain]
    exact hmid.frame
  · rw [hdomain]
    exact hmid.noLegacy
  · apply sound_restatus htransfers hlinesMid
    · intro line hline
      exact ⟨t, hfindMid, hreceipt line hline⟩
    · intro after hafter hid
      obtain ⟨line, hline, hgrown⟩ := hmid.grown after hafter
      have hkey : after.transferId = line.transferId := by rw [hgrown.same]
      rw [hkey] at hid
      have hsame : after = line := by
        rw [hgrown.same, hgrown.other hid]
      rw [hsame, hmid.transfers]
      exact hs line hline
  · intro weight measure hgauge
    have hframe : StockOnly mid.domain next.domain := by
      rw [hdomain]
      exact StockOnly.refl _
    have hrestatus := out_restatus hfindMid htransfers hlinesMid hframe weight
    have hdispatched' : (receiptStatus (mid.linesOf id)).dispatched = true := by
      rcases receiptStatus_cases (mid.linesOf id) with ⟨heq, _⟩ | heq | ⟨heq, _⟩
      · rw [heq]
        rfl
      · rw [heq]
        rfl
      · rw [heq]
        rfl
    have hboth : (setReceipt draw.now receivedBy
        (receiptStatus (mid.linesOf id)) t).status.dispatched = t.status.dispatched := by
      rw [hstill, hdispatched', hdispatched]
    rw [linesOut_restatus hboth rfl rfl] at hrestatus
    have hbalanced := hmid.balanced weight measure hgauge
    rw [hdomain]
    omega
  · rw [hlinesMid]
    exact hmid.grown_line
  · intro k t' hfind' ht
    rw [← hmid.transfers] at hfind'
    constructor
    · rw [goodsOf_of_lines hlinesMid, goodsOf_eq, hmid.goods, goodsOf_eq]
    · apply fixed_restatus htransfers _ (fun _ => rfl) hfind' ht
      intro r
      rw [hstill]
      rcases receiptStatus_cases (mid.linesOf id) with ⟨heq, _⟩ | heq | ⟨heq, _⟩
      · simp [heq, TransferStatus.sent]
      · simp [heq, TransferStatus.sent]
      · simp [heq, TransferStatus.sent]

end OzPos
