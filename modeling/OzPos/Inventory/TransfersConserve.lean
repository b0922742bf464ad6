import OzPos.Inventory.TransferSteps
import OzPos.Client.StockMerge

namespace OzPos

open DomainTables

variable {κ : Type}

abbrev TransferEvent := TransferCall × TransferDraw

/-- What is on its way of a product: of the lines of transfers in transit and received in part,
what has not been received. -/
def TransferDb.outstanding (s : TransferDb κ) (item : String) : Int :=
  (s.lines.rows.map (fun line =>
    if (s.transfers.find? line.transferId).any (fun t =>
        t.status = .inTransit || t.status = .receivedPartial) ∧
        s.domain.productIdBySku line.sku = some item then
      line.qty - line.receivedQty
    else 0)).sum

variable {s : TransferDb κ} {draw : TransferDraw}

theorem write_conserves {call : TransferCall} {next : TransferDb κ} (hs : TransfersSound s)
    (hno : NoLegacy s.domain) (h : call.write draw s = .ok next) : Conserves s next := by
  cases call with
  | createTransfer input => exact createTransfer_conserves hs hno h
  | addTransferLine transferId sku productName qty =>
    have hzero : (addedLine draw transferId sku productName qty).receivedQty = 0 := rfl
    exact addTransferLine_conserves hzero hs hno h
  | removeTransferLine lineId => exact removeTransferLine_conserves hs hno h
  | sendTransfer id => exact sendTransfer_conserves hs hno h
  | receiveTransfer id receivedBy arrived => exact receiveTransfer_conserves hs hno h
  | cancelTransfer id => exact cancelTransfer_conserves hs hno h

theorem Conserves.refl (hs : TransfersSound s) (hno : NoLegacy s.domain) : Conserves s s where
  frame := StockOnly.refl _
  noLegacy := hno
  sound := hs
  balanced _ _ _ := rfl
  grown := grown_of_lines rfl
  fixed _ t hfind hsent := ⟨rfl, t, hfind, hsent, rfl⟩

theorem transferStep_cases (s : TransferDb κ) (e : TransferEvent) :
    ((transferMachine κ).step s e).1 = s ∧
        (∃ error, ((transferMachine κ).step s e).2 = .error error) ∨
      ∃ next, e.1.write e.2 s = .ok next ∧
        (transferMachine κ).step s e = (next, e.1.answer e.2 next) := by
  cases hfailure : e.2.failure with
  | some message => exact .inl (by simp [transferMachine, hfailure])
  | none =>
    cases hwrite : e.1.write e.2 s with
    | error error => exact .inl (by simp [transferMachine, hfailure, hwrite])
    | ok next => exact .inr ⟨next, rfl, by simp [transferMachine, hfailure, hwrite]⟩

theorem step_conserves (hs : TransfersSound s) (hno : NoLegacy s.domain)
    (e : TransferEvent) : Conserves s ((transferMachine κ).step s e).1 := by
  rcases transferStep_cases s e with ⟨hsame, _⟩ | ⟨next, hwrite, hstep⟩
  · rw [hsame]
    exact Conserves.refl hs hno
  · rw [hstep]
    exact write_conserves hs hno hwrite

variable {id : String}

theorem getTransfer_ok {t : TransferRow}
    (h : s.transfers.find? id = some t) : ∃ a, getTransfer id s = .ok a := by
  simp [getTransfer, h]

theorem find?_updated {t : Table String TransferRow TransferRow.id}
    {row : TransferRow} (f : TransferRow → TransferRow) (hf : ∀ r, (f r).id = r.id)
    (h : t.find? id = some row) : (t.update id f hf).find? id = some (f row) := by
  rw [Table.find?_update, h]
  simp

theorem answer_of_write {call : TransferCall} {next : TransferDb κ}
    (hs : TransfersSound s) (hno : NoLegacy s.domain) (h : call.write draw s = .ok next) :
    ∃ a, call.answer draw next = .ok a := by
  cases call with
  | createTransfer input => exact ⟨_, rfl⟩
  | addTransferLine transferId sku productName qty => exact ⟨_, rfl⟩
  | removeTransferLine lineId => exact ⟨_, rfl⟩
  | sendTransfer id =>
    obtain ⟨t, d, hfind, _, _, rfl⟩ := sendTransfer_ok h
    exact getTransfer_ok (find?_updated (setSent draw.now) (fun _ => rfl) hfind)
  | receiveTransfer id receivedBy arrived =>
    have hfixed := (receiveTransfer_conserves hs hno h).fixed id
    obtain ⟨t, mid, hfind, hstatus, _, _⟩ := receiveTransfer_ok h
    have hsent : t.status.sent := by
      rcases hstatus with htransit | hpart
      · simp [TransferStatus.sent, htransit]
      · simp [TransferStatus.sent, hpart]
    obtain ⟨_, t', hfind', _⟩ := hfixed t hfind hsent
    exact getTransfer_ok hfind'
  | cancelTransfer id =>
    obtain ⟨t, d, hfind, _, rfl⟩ := cancelTransfer_ok h
    exact getTransfer_ok (find?_updated (setCancelled draw.now) (fun _ => rfl) hfind)

theorem pieces_unitsOf (d : DomainTables κ) (item sku location : String) (n : Int) :
    pieces (unitsOf item) d sku location n =
      if d.productIdBySku sku = some item then n else 0 := by
  unfold pieces
  cases d.productIdBySku sku with
  | none => simp
  | some found =>
    by_cases hitem : found = item
    · simp [unitsOf, hitem]
    · simp [unitsOf, hitem]

theorem out_unitsOf (hs : TransfersSound s) (item : String) :
    s.out (unitsOf item) = s.outstanding item := by
  rw [TransferDb.out, TransferDb.outstanding]
  congr 1
  apply List.map_congr_left
  intro line hline
  obtain ⟨t, hfind, hsound⟩ := hs line hline
  rw [hfind]
  cases hstatus : t.status with
  | draft => simp [lineOut, hstatus, TransferStatus.dispatched]
  | pending => simp [lineOut, hstatus, TransferStatus.dispatched]
  | cancelled => simp [lineOut, hstatus, TransferStatus.dispatched]
  | received =>
    simp [lineOut, hstatus, TransferStatus.dispatched, pieces_unitsOf, hsound.complete hstatus]
  | inTransit =>
    by_cases hitem : s.domain.productIdBySku line.sku = some item
    · simp [lineOut, hstatus, TransferStatus.dispatched, pieces_unitsOf, hitem]
    · simp [lineOut, hstatus, TransferStatus.dispatched, pieces_unitsOf, hitem]
  | receivedPartial =>
    by_cases hitem : s.domain.productIdBySku line.sku = some item
    · simp [lineOut, hstatus, TransferStatus.dispatched, pieces_unitsOf, hitem]
    · simp [lineOut, hstatus, TransferStatus.dispatched, pieces_unitsOf, hitem]

theorem step_units (hs : TransfersSound s) (hno : NoLegacy s.domain)
    (e : TransferEvent) (item : String) :
    ((transferMachine κ).step s e).1.domain.summaryTotal item +
        ((transferMachine κ).step s e).1.outstanding item =
      s.domain.summaryTotal item + s.outstanding item := by
  have hstep := step_conserves hs hno e
  rw [← out_unitsOf hstep.sound, ← out_unitsOf hs]
  exact hstep.balanced (unitsOf item) _ (gauge_summaryTotal item)

theorem run_units (hs : TransfersSound s) (hno : NoLegacy s.domain) (events : List TransferEvent) :
    TransfersSound ((transferMachine κ).run s events) ∧
      NoLegacy ((transferMachine κ).run s events).domain ∧
      ∀ item, ((transferMachine κ).run s events).domain.summaryTotal item +
          ((transferMachine κ).run s events).outstanding item =
        s.domain.summaryTotal item + s.outstanding item := by
  induction events generalizing s with
  | nil => exact ⟨hs, hno, fun _ => rfl⟩
  | cons e events ih =>
    have hstep := step_conserves hs hno e
    obtain ⟨hsound, hlegacy, hunits⟩ := ih hstep.sound hstep.noLegacy
    refine ⟨hsound, hlegacy, ?_⟩
    intro item
    rw [Machine.run_cons, hunits item, step_units hs hno e item]

/-- The sent transfer is there with these goods, the products named as they were. -/
structure Underway (id source : String) (goods : List (String × String × Int))
    (d : DomainTables κ) (s : TransferDb κ) : Prop where
  sound : TransfersSound s
  noLegacy : NoLegacy s.domain
  frame : StockOnly d s.domain
  goods : s.goodsOf id = goods
  row : ∃ t, s.transfers.find? id = some t ∧ t.status.sent ∧ t.sourceLocationId = source

variable {source : String} {goods : List (String × String × Int)} {d : DomainTables κ}

theorem Underway.step (h : Underway id source goods d s)
    (e : TransferEvent) : Underway id source goods d ((transferMachine κ).step s e).1 := by
  have hstep := step_conserves h.sound h.noLegacy e
  obtain ⟨t, hfind, hsent, hsource⟩ := h.row
  obtain ⟨hgoods, t', hfind', hsent', hsource'⟩ := hstep.fixed id t hfind hsent
  exact ⟨hstep.sound, hstep.noLegacy, h.frame.trans hstep.frame, hgoods.trans h.goods, t', hfind',
    hsent', hsource'.trans hsource⟩

theorem Underway.run (h : Underway id source goods d s) (events : List TransferEvent) :
    Underway id source goods d ((transferMachine κ).run s events) := by
  induction events generalizing s with
  | nil => exact h
  | cons e events ih => exact ih (h.step e)

def goodsPieces (weight : StockWeight) (d : DomainTables κ) (location : String)
    (goods : List (String × String × Int)) : Int :=
  (goods.map (fun g => pieces weight d g.2.1 location g.2.2)).sum

theorem linePieces_goods (weight : StockWeight) (d : DomainTables κ) (location : String)
    (s : TransferDb κ) (id : String) :
    linePieces weight d location (s.linesOf id) = goodsPieces weight d location (s.goodsOf id) := by
  rw [linePieces, goodsPieces, TransferDb.goodsOf, List.map_map]
  rfl

def addedAt (s : TransferDb κ) (e : TransferEvent) (item location : String) : Int :=
  ((transferMachine κ).step s e).1.domain.quantityAt item location -
    s.domain.quantityAt item location

variable {a : TransferAnswer}

theorem step_of_answer {e : TransferEvent} (h : ((transferMachine κ).step s e).2 = .ok a) :
    e.1.write e.2 s = .ok ((transferMachine κ).step s e).1 := by
  rcases transferStep_cases s e with ⟨_, error, herror⟩ | ⟨next, hwrite, hstep⟩
  · rw [herror] at h
    cases h
  · rw [hwrite, hstep]

theorem addedAt_send (hs : TransfersSound s) (hno : NoLegacy s.domain)
    (h : ((transferMachine κ).step s (.sendTransfer id, draw)).2 = .ok a) :
    ∃ source goods, Underway id source goods s.domain
        ((transferMachine κ).step s (.sendTransfer id, draw)).1 ∧
      ∀ item location, addedAt s (.sendTransfer id, draw) item location =
        -goodsPieces (unitsAt item location) s.domain source goods := by
  have hwrite : sendTransfer draw id s = .ok _ := step_of_answer h
  have hstep := sendTransfer_conserves hs hno hwrite
  obtain ⟨t, d, hfind, _, hsend, hnext⟩ := sendTransfer_ok hwrite
  have hstock := sendLines_ok hno hsend
  have hlines : ((transferMachine κ).step s (.sendTransfer id, draw)).1.lines = s.lines := by
    rw [hnext]
  have hgoods := goodsOf_of_lines hlines id
  have hrow := find?_updated (setSent draw.now) (fun _ => rfl) hfind
  refine ⟨t.sourceLocationId, s.goodsOf id, ?_, ?_⟩
  · refine ⟨hstep.sound, hstep.noLegacy, hstep.frame, hgoods, setSent draw.now t, ?_, ?_, rfl⟩
    · rw [hnext]
      exact hrow
    · exact ⟨by simp [setSent], by simp [setSent]⟩
  · intro item location
    have hlevel := hstock.gauged (unitsAt item location) _ (gauge_quantityAt item location)
    rw [linePieces_perm (List.perm_insertionSort _ _), linePieces_goods] at hlevel
    rw [addedAt, hnext]
    simp only at hlevel ⊢
    omega

theorem addedAt_cancel (hs : Underway id source goods d s)
    (h : ((transferMachine κ).step s (.cancelTransfer id, draw)).2 = .ok a) :
    ∀ item location, addedAt s (.cancelTransfer id, draw) item location =
      goodsPieces (unitsAt item location) d source goods := by
  have hwrite : cancelTransfer draw id s = .ok _ := step_of_answer h
  obtain ⟨t, d', hfind, hreturn, hnext⟩ := cancelTransfer_ok hwrite
  obtain ⟨t', hfind', hsent, hsource⟩ := hs.row
  rw [hfind, Option.some.injEq] at hfind'
  subst hfind'
  rcases hreturn with ⟨_, hreturn⟩ | ⟨hdraft | hpending, _⟩
  · intro item location
    have hstock := returnLines_ok hs.noLegacy hreturn
    have hlevel := hstock.gauged (unitsAt item location) _ (gauge_quantityAt item location)
    rw [linePieces_frame hs.frame, linePieces_goods, hs.goods, hsource] at hlevel
    rw [addedAt, hnext]
    simp only at hlevel ⊢
    omega
  · exact absurd hdraft hsent.1
  · exact absurd hpending hsent.2

def Answered (s : TransferDb κ) (e : TransferEvent) : Prop :=
  ∃ a, ((transferMachine κ).step s e).2 = .ok a

def ReceivedGrows (s : TransferDb κ) (e : TransferEvent) : Prop :=
  ∀ line ∈ s.lines.rows, ∀ after ∈ ((transferMachine κ).step s e).1.lines.rows,
    after.id = line.id → line.receivedQty ≤ after.receivedQty

def RefusedKeeps (s : TransferDb κ) (e : TransferEvent) : Prop :=
  ∀ error, ((transferMachine κ).step s e).2 = .error error → ((transferMachine κ).step s e).1 = s

/-- A run of transfers conserves the units of every product; what is received grows, up to
the quantity; a cancellation puts back what its sending took; a refusal changes nothing. -/
structure TransfersConserve (s : TransferDb κ) (events : List TransferEvent) : Prop where
  units : ∀ item, ((transferMachine κ).run s events).domain.summaryTotal item +
      ((transferMachine κ).run s events).outstanding item =
    s.domain.summaryTotal item + s.outstanding item
  bounded : ∀ line ∈ ((transferMachine κ).run s events).lines.rows,
    0 ≤ line.receivedQty ∧ line.receivedQty ≤ line.qty
  grows : (transferMachine κ).Along ReceivedGrows s events
  restored : ∀ id sending cancelling before between after,
    events = before ++ (.sendTransfer id, sending) ::
      (between ++ (.cancelTransfer id, cancelling) :: after) →
    Answered ((transferMachine κ).run s before) (.sendTransfer id, sending) →
    Answered ((transferMachine κ).run s (before ++ (.sendTransfer id, sending) :: between))
      (.cancelTransfer id, cancelling) →
    ∀ item location,
      addedAt ((transferMachine κ).run s (before ++ (.sendTransfer id, sending) :: between))
          (.cancelTransfer id, cancelling) item location =
        -addedAt ((transferMachine κ).run s before) (.sendTransfer id, sending) item location
  refused : (transferMachine κ).Along RefusedKeeps s events

theorem refusedKeeps (hs : TransfersSound s) (hno : NoLegacy s.domain)
    (e : TransferEvent) : RefusedKeeps s e := by
  intro error herror
  rcases transferStep_cases s e with ⟨hsame, _⟩ | ⟨next, hwrite, hstep⟩
  · exact hsame
  · obtain ⟨a, hanswer⟩ := answer_of_write hs hno hwrite
    rw [hstep, hanswer] at herror
    cases herror

theorem along_transfers (hs : TransfersSound s) (hno : NoLegacy s.domain)
    (events : List TransferEvent) :
    (transferMachine κ).Along ReceivedGrows s events ∧
      (transferMachine κ).Along RefusedKeeps s events := by
  induction events generalizing s with
  | nil => exact ⟨trivial, trivial⟩
  | cons e events ih =>
    have hstep := step_conserves hs hno e
    obtain ⟨hgrows, hkeeps⟩ := ih hstep.sound hstep.noLegacy
    exact ⟨⟨hstep.grown, hgrows⟩, ⟨refusedKeeps hs hno e, hkeeps⟩⟩

theorem cancel_restores (hs : TransfersSound s) (hno : NoLegacy s.domain)
    {sending cancelling : TransferDraw} {between : List TransferEvent}
    (hsend : Answered s (.sendTransfer id, sending))
    (hcancel : Answered ((transferMachine κ).run s ((.sendTransfer id, sending) :: between))
      (.cancelTransfer id, cancelling)) (item location : String) :
    addedAt ((transferMachine κ).run s ((.sendTransfer id, sending) :: between))
        (.cancelTransfer id, cancelling) item location =
      -addedAt s (.sendTransfer id, sending) item location := by
  obtain ⟨_, hsend⟩ := hsend
  obtain ⟨_, hcancel⟩ := hcancel
  obtain ⟨source, goods, hunderway, htaken⟩ := addedAt_send hs hno hsend
  rw [Machine.run_cons] at hcancel ⊢
  rw [addedAt_cancel (hunderway.run between) hcancel, htaken, Int.neg_neg]

/-- Over every run of transfers, from sound ones and an aggregate that is the sum of the
locations. -/
theorem transfers_conserve (s : TransferDb κ) (hs : TransfersSound s)
    (haggregate : AggregateMatches s.domain) (events : List TransferEvent) :
    TransfersConserve s events := by
  have hno := haggregate.noLegacy
  obtain ⟨hsound, _, hunits⟩ := run_units hs hno events
  obtain ⟨hgrows, hkeeps⟩ := along_transfers hs hno events
  refine ⟨hunits, ?_, hgrows, ?_, hkeeps⟩
  · intro line hline
    obtain ⟨_, _, hline⟩ := hsound line hline
    exact ⟨hline.lower, hline.upper⟩
  · intro id sending cancelling before between after _ hsend hcancel item location
    obtain ⟨hbefore, hlegacy, _⟩ := run_units hs hno before
    rw [Machine.run_append] at hcancel ⊢
    exact cancel_restores hbefore hlegacy hsend hcancel item location

def depotTables : DomainTables Unit :=
  { stockedTables with
    stockSummary := Table.empty.insertNew
      ⟨uuidOf "5", canonicalDefaultLocation, 10, "2026-01-01T00:00:00.000Z"⟩
    locations := [canonicalDefaultLocation, "outlet"] }

def depot : TransferDb Unit := ⟨Table.empty, Table.empty, depotTables⟩

def transferDraw (digit : String) : TransferDraw :=
  ⟨uuidOf digit, fun n => "line-" ++ digit ++ toString n, 0, "2026-01-02", none⟩

def toOutlet (sku : String) (qty : Int) : CreateTransfer :=
  ⟨none, some "outlet", none, none, "", "u-1", [⟨"", "", sku, "Kopi", qty, 0⟩]⟩

def depotRun : List TransferEvent :=
  [(.createTransfer (toOutlet "SKU-1" 4), transferDraw "1"),
    (.sendTransfer (uuidOf "1"), transferDraw "1"),
    (.receiveTransfer (uuidOf "1") "u-2" [⟨"line-10", 1⟩], transferDraw "1"),
    (.createTransfer (toOutlet "SKU-1" 5), transferDraw "2"),
    (.sendTransfer (uuidOf "2"), transferDraw "2"),
    (.cancelTransfer (uuidOf "2"), transferDraw "2"),
    (.receiveTransfer (uuidOf "1") "u-2" [⟨"line-10", 4⟩], transferDraw "1")]

theorem depot_aggregate : AggregateMatches depotTables := by
  intro item
  have hinventory : depotTables.inventory.rows =
      [⟨uuidOf "5", canonicalDefaultLocation, 10, "2026-01-01T00:00:00.000Z"⟩] := rfl
  have hsummary : depotTables.stockSummary.rows =
      [⟨uuidOf "5", canonicalDefaultLocation, 10, "2026-01-01T00:00:00.000Z"⟩] := rfl
  rw [inventoryQty, Table.find?, hinventory, summaryTotal, hsummary]
  by_cases hitem : uuidOf "5" = item
  · simp [hitem]
  · simp [hitem]

theorem depot_transfers_conserve : TransfersConserve depot depotRun ∧
    ((transferMachine Unit).run depot depotRun).domain.quantityAt (uuidOf "5") "outlet" = 4 ∧
    ((transferMachine Unit).run depot depotRun).transfers.rows.map TransferRow.status =
      [.received, .cancelled] :=
  ⟨transfers_conserve depot (by simp [TransfersSound, depot, Table.empty]) depot_aggregate depotRun,
    by decide +kernel, by decide +kernel⟩

end OzPos
