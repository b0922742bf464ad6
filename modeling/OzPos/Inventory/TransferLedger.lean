import OzPos.Inventory.StockTransfers
import OzPos.Library.Outcome
import OzPos.Library.Grouping

namespace OzPos

namespace DomainTables

variable {κ : Type}

/-- The aggregate of every product is the sum of its locations. -/
def AggregateMatches (d : DomainTables κ) : Prop :=
  ∀ item, (d.inventoryQty item).getD 0 = d.summaryTotal item

/-- All stock is at locations: no aggregate is left of the time before them. -/
def NoLegacy (d : DomainTables κ) : Prop := ∀ item, d.legacyStock item = none

variable {d : DomainTables κ}

theorem AggregateMatches.noLegacy (h : AggregateMatches d) : NoLegacy d := by
  intro item
  cases hlegacy : d.legacyStock item with
  | none => rfl
  | some q =>
    obtain ⟨hrows, hinventory, hq⟩ := (legacyStock_eq_some_iff d item q).mp hlegacy
    have hzero := h item
    rw [hinventory, summaryTotal_of_no_rows hrows, Option.getD_some] at hzero
    exact absurd hzero hq

theorem NoLegacy.aggregate (h : NoLegacy d) {item : String}
    (hrows : d.hasLocationRows item = false) : (d.inventoryQty item).getD 0 = 0 := by
  cases hinventory : d.inventoryQty item with
  | none => rfl
  | some q =>
    by_cases hq : q = 0
    · simp [hq]
    · have hlegacy := (legacyStock_eq_some_iff d item q).mpr ⟨hrows, hinventory, hq⟩
      rw [h item] at hlegacy
      cases hlegacy

theorem NoLegacy.onHand (h : NoLegacy d) (item : String) : d.onHand item = d.summaryTotal item := by
  cases hrows : d.hasLocationRows item with
  | true => exact onHand_of_rows hrows
  | false => rw [onHand_of_no_rows hrows, h.aggregate hrows, summaryTotal_of_no_rows hrows]

theorem NoLegacy.level (h : NoLegacy d) (item location : String) :
    d.legacyAwareLocationQty item location = d.quantityAt item location := by
  cases hrows : d.hasLocationRows item with
  | true => exact locationQty_of_rows hrows location
  | false =>
    rw [locationQty_of_no_rows hrows, onHand_of_no_rows hrows, h.aggregate hrows,
      quantityAt_of_no_rows hrows]

variable {d' : DomainTables κ}

theorem NoLegacy.moved {m : StockMove} (h : NoLegacy d) (hm : Moved d d' m) : NoLegacy d' := by
  intro item
  have hrows := hm.rows item
  have hinventory := hm.inventory item
  by_cases hitem : item = m.item
  · have hstored : d'.hasLocationRows item = true := by
      rw [hrows]
      simp [hitem]
    simp [legacyStock, hstored]
  · have hold := h item
    rw [if_neg hitem] at hinventory
    simpa [legacyStock, hrows, hinventory, hitem] using hold

abbrev StockWeight := String → String → Int

variable (weight : StockWeight)

/-- A measure of the stock in which a move counts with the weight of its place. -/
def Gauge (measure : DomainTables κ → Int) : Prop :=
  ∀ d d' m, NoLegacy d → Moved d d' m →
    measure d' = measure d + weight m.item m.location * m.delta

def unitsOf (item : String) : StockWeight := fun other _ => if other = item then 1 else 0

variable (item location : String)

def unitsAt : StockWeight := fun other place =>
  if other = item ∧ place = location then 1 else 0

theorem gauge_summaryTotal (item : String) :
    Gauge (unitsOf item) (fun d : DomainTables κ => d.summaryTotal item) := by
  intro d d' m hno hm
  have honHand := hm.onHand item
  rw [(hno.moved hm).onHand, hno.onHand] at honHand
  simp only [honHand, unitsOf]
  by_cases hitem : item = m.item
  · simp [hitem]
  · simp [hitem, Ne.symm hitem]

theorem gauge_quantityAt :
    Gauge (unitsAt item location) (fun d : DomainTables κ => d.quantityAt item location) := by
  intro d d' m hno hm
  have hquantity := hm.quantity item location
  rw [hno.level] at hquantity
  simp only [hquantity, unitsAt]
  by_cases hcell : item = m.item ∧ location = m.location
  · simp [hcell.1, hcell.2]
  · have hother : ¬ (m.item = item ∧ m.location = location) := by
      intro h
      exact hcell ⟨h.1.symm, h.2.symm⟩
    simp [hcell, hother]

/-- The stock has changed, as every gauge sees it, by `change`. -/
structure Rebalanced (d d' : DomainTables κ) (change : StockWeight → Int) : Prop where
  frame : StockOnly d d'
  noLegacy : NoLegacy d'
  gauged : ∀ weight measure, Gauge weight measure → measure d' = measure d + change weight

theorem Rebalanced.refl (h : NoLegacy d) : Rebalanced d d (fun _ => 0) where
  frame := StockOnly.refl d
  noLegacy := h
  gauged := by simp

theorem Rebalanced.trans {d₁ d₂ d₃ : DomainTables κ} {change change' : StockWeight → Int}
    (h : Rebalanced d₁ d₂ change) (h' : Rebalanced d₂ d₃ change') :
    Rebalanced d₁ d₃ (fun weight => change weight + change' weight) where
  frame := h.frame.trans h'.frame
  noLegacy := h'.noLegacy
  gauged := by
    intro weight measure hgauge
    rw [h'.gauged weight measure hgauge, h.gauged weight measure hgauge]
    omega

theorem Rebalanced.congr {change change' : StockWeight → Int} (h : Rebalanced d d' change)
    (hsame : ∀ weight, change weight = change' weight) : Rebalanced d d' change' where
  frame := h.frame
  noLegacy := h.noLegacy
  gauged := by
    intro weight measure hgauge
    rw [h.gauged weight measure hgauge, hsame]

/-- What `n` pieces of a sku count at a location: nothing where no product has it. -/
def pieces (d : DomainTables κ) (sku location : String) (n : Int) : Int :=
  match d.productIdBySku sku with
  | none => 0
  | some item => weight item location * n

@[simp] theorem pieces_neg (d : DomainTables κ) (sku location : String)
    (n : Int) : pieces weight d sku location (-n) = -pieces weight d sku location n := by
  unfold pieces
  cases d.productIdBySku sku with
  | none => simp
  | some item => exact Int.mul_neg ..

theorem pieces_sub (d : DomainTables κ) (sku location : String)
    (n k : Int) : pieces weight d sku location (n - k) =
      pieces weight d sku location n - pieces weight d sku location k := by
  unfold pieces
  cases d.productIdBySku sku with
  | none => simp
  | some item => exact Int.mul_sub ..

@[simp] theorem pieces_zero (d : DomainTables κ) (sku location : String) :
    pieces weight d sku location 0 = 0 := by
  unfold pieces
  cases d.productIdBySku sku with
  | none => rfl
  | some item => simp

theorem pieces_frame (h : StockOnly d d') (weight : StockWeight) (sku location : String) (n : Int) :
    pieces weight d' sku location n = pieces weight d sku location n := by
  simp only [pieces, h.productIdBySku]

variable {now : String}

theorem shiftStock_ok {sku reason location : String} {delta : Int}
    (hno : NoLegacy d) (h : d.shiftStock now sku reason location delta = .ok d') :
    Rebalanced d d' (fun weight => pieces weight d sku location delta) := by
  unfold shiftStock at h
  cases hsku : d.productIdBySku sku with
  | none => simp [hsku] at h
  | some item =>
    simp only [hsku] at h
    rw [bridge_of_no_legacy now (hno item)] at h
    obtain ⟨⟨level, d₁⟩, hadjust, rfl⟩ := Except.of_map h
    obtain ⟨found, hfound, _, hmoved⟩ := adjustStockAtLocation_ok hadjust
    rw [hsku, Option.some.injEq] at hfound
    subst hfound
    constructor
    · exact hmoved.frame
    · exact hno.moved hmoved
    · intro weight measure hgauge
      simp only [pieces, hsku]
      exact hgauge d d₁ _ hno hmoved

def linePieces (d : DomainTables κ) (location : String) (lines : List StockTransferLine) : Int :=
  (lines.map (fun line => pieces weight d line.sku location line.qty)).sum

theorem linePieces_frame (h : StockOnly d d') (weight : StockWeight)
    (location : String) (lines : List StockTransferLine) :
    linePieces weight d' location lines = linePieces weight d location lines := by
  simp only [linePieces, pieces_frame h]

variable {lines : List StockTransferLine}

theorem linePieces_perm {lines' : List StockTransferLine} (h : lines.Perm lines')
    (weight : StockWeight) (d : DomainTables κ) (location : String) :
    linePieces weight d location lines = linePieces weight d location lines' :=
  (h.map _).sum_eq

theorem mapError_ok_iff {α : Type} {f : CoreError → CoreError} {x : Except CoreError α} {a : α} :
    x.mapError f = .ok a ↔ x = .ok a := by
  cases x with
  | error e => simp [Except.mapError]
  | ok b => simp [Except.mapError]

theorem sendLines_ok {source : String} (hno : NoLegacy d)
    (h : d.sendLines now source lines = .ok d') :
    Rebalanced d d' (fun weight => -linePieces weight d source lines) := by
  induction lines generalizing d with
  | nil =>
    cases h
    exact (Rebalanced.refl hno).congr (fun _ => by simp [linePieces])
  | cons line rest ih =>
    unfold sendLines at h
    split at h
    · cases h
    · obtain ⟨d₁, hshift, hrest⟩ := Except.of_bind h
      have hfirst := shiftStock_ok hno (mapError_ok_iff.mp hshift)
      have hlater := ih hfirst.noLegacy hrest
      apply (hfirst.trans hlater).congr
      intro weight
      rw [linePieces_frame hfirst.frame, pieces_neg]
      simp only [linePieces, List.map_cons, List.sum_cons]
      omega

theorem returnLines_ok {source : String} (hno : NoLegacy d)
    (h : d.returnLines now source lines = .ok d') :
    Rebalanced d d' (fun weight => linePieces weight d source lines) := by
  induction lines generalizing d with
  | nil =>
    cases h
    exact (Rebalanced.refl hno).congr (fun _ => by simp [linePieces])
  | cons line rest ih =>
    unfold returnLines at h
    obtain ⟨d₁, hshift, hrest⟩ := Except.of_bind h
    have hfirst := shiftStock_ok hno hshift
    have hlater := ih hfirst.noLegacy hrest
    apply (hfirst.trans hlater).congr
    intro weight
    rw [linePieces_frame hfirst.frame]
    simp only [linePieces, List.map_cons, List.sum_cons]

end DomainTables

open DomainTables

variable {κ : Type}

def TransferStatus.dispatched : TransferStatus → Bool
  | .draft => false
  | .pending => false
  | .inTransit => true
  | .received => true
  | .receivedPartial => true
  | .cancelled => false

/-- What a line has out in a transfer: its quantity from the source, less what the
destination received. -/
def lineOut (weight : StockWeight) (d : DomainTables κ) (transfer : Option TransferRow)
    (line : StockTransferLine) : Int :=
  match transfer with
  | none => 0
  | some t =>
    if t.status.dispatched then
      pieces weight d line.sku t.sourceLocationId line.qty -
        pieces weight d line.sku t.destinationLocationId line.receivedQty
    else 0

variable (s : TransferDb κ)

def TransferDb.out (weight : StockWeight) : Int :=
  (s.lines.rows.map (fun line =>
    lineOut weight s.domain (s.transfers.find? line.transferId) line)).sum

/-- What a line of such a transfer must have received. -/
structure LineSound (t : TransferRow) (line : StockTransferLine) : Prop where
  lower : 0 ≤ line.receivedQty
  upper : line.receivedQty ≤ line.qty
  unreceived : t.status = .draft ∨ t.status = .pending ∨ t.status = .inTransit →
    line.receivedQty = 0
  complete : t.status = .received → line.receivedQty = line.qty

/-- Every line is of a transfer, and as its status says. -/
def TransfersSound : Prop :=
  ∀ line ∈ s.lines.rows, ∃ t, s.transfers.find? line.transferId = some t ∧ LineSound t line

def StockTransferLine.goods (line : StockTransferLine) : String × String × Int :=
  (line.transferId, line.sku, line.qty)

def TransferDb.goodsOf (id : String) : List (String × String × Int) :=
  (s.linesOf id).map StockTransferLine.goods

/-- The transfer has been sent, whatever became of it. -/
def TransferStatus.sent (status : TransferStatus) : Prop := status ≠ .draft ∧ status ≠ .pending

structure Conserves (s next : TransferDb κ) : Prop where
  frame : StockOnly s.domain next.domain
  noLegacy : NoLegacy next.domain
  sound : TransfersSound next
  balanced : ∀ weight measure, Gauge weight measure →
    measure next.domain + next.out weight = measure s.domain + s.out weight
  grown : ∀ line ∈ s.lines.rows, ∀ after ∈ next.lines.rows, after.id = line.id →
    line.receivedQty ≤ after.receivedQty
  fixed : ∀ id t, s.transfers.find? id = some t → t.status.sent →
    next.goodsOf id = s.goodsOf id ∧ ∃ t', next.transfers.find? id = some t' ∧ t'.status.sent ∧
      t'.sourceLocationId = t.sourceLocationId

theorem lineOut_frame {d d' : DomainTables κ} (h : StockOnly d d') (weight : StockWeight)
    (transfer : Option TransferRow) (line : StockTransferLine) :
    lineOut weight d' transfer line = lineOut weight d transfer line := by
  simp only [lineOut, pieces_frame h]

variable {t : TransferRow} {weight : StockWeight}

theorem lineOut_of_unsent {d : DomainTables κ} (h : t.status.dispatched = false)
    (line : StockTransferLine) : lineOut weight d (some t) line = 0 := by
  simp [lineOut, h]

theorem line_unique {lines : Table String StockTransferLine StockTransferLine.id}
    {a b : StockTransferLine} (ha : a ∈ lines.rows) (hb : b ∈ lines.rows) (hid : a.id = b.id) :
    a = b := by
  have hfirst := (Table.mem_rows_iff lines a).mp ha
  have hsecond := (Table.mem_rows_iff lines b).mp hb
  rw [hid, hsecond, Option.some.injEq] at hfirst
  exact hfirst.symm

def linesOut (weight : StockWeight) (d : DomainTables κ) (t : TransferRow)
    (lines : List StockTransferLine) : Int :=
  (lines.map (fun line => lineOut weight d (some t) line)).sum

theorem linesOut_of_unsent {d : DomainTables κ} (h : t.status.dispatched = false)
    (lines : List StockTransferLine) : linesOut weight d t lines = 0 := by
  induction lines with
  | nil => rfl
  | cons line lines ih =>
    rw [linesOut] at ih
    rw [linesOut, List.map_cons, List.sum_cons, lineOut_of_unsent h, ih]
    rfl

theorem linesOut_of_unreceived {d : DomainTables κ} {lines : List StockTransferLine}
    (hdispatched : t.status.dispatched = true) (hzero : ∀ line ∈ lines, line.receivedQty = 0) :
    linesOut weight d t lines = linePieces weight d t.sourceLocationId lines := by
  rw [linesOut, linePieces]
  congr 1
  apply List.map_congr_left
  intro line hline
  simp [lineOut, hdispatched, hzero line hline]

variable {s next : TransferDb κ} {id : String} {f : TransferRow → TransferRow}

theorem out_restatus (hfind : s.transfers.find? id = some t)
    (htransfers : ∀ k, next.transfers.find? k =
      (s.transfers.find? k).map (fun r => if k = id then f r else r))
    (hlines : next.lines = s.lines) (hframe : StockOnly s.domain next.domain)
    (weight : StockWeight) :
    next.out weight + linesOut weight s.domain t (s.linesOf id) =
      s.out weight + linesOut weight s.domain (f t) (s.linesOf id) := by
  rw [linesOut, linesOut, TransferDb.linesOf, Grouping.sum_filter, Grouping.sum_filter,
    TransferDb.out, hlines, TransferDb.out, ← List.sum_map_add, ← List.sum_map_add]
  congr 1
  apply List.map_congr_left
  intro line _
  rw [htransfers, lineOut_frame hframe]
  by_cases hid : line.transferId = id
  · simp only [hid, hfind, Option.map_some, if_true]
    omega
  · simp [hid]

theorem sound_restatus
    (htransfers : ∀ k, next.transfers.find? k =
      (s.transfers.find? k).map (fun r => if k = id then f r else r))
    (hlines : next.lines = s.lines)
    (hown : ∀ line ∈ s.linesOf id, ∃ t, s.transfers.find? id = some t ∧ LineSound (f t) line)
    (hothers : ∀ line ∈ s.lines.rows, line.transferId ≠ id →
      ∃ t, s.transfers.find? line.transferId = some t ∧ LineSound t line) :
    TransfersSound next := by
  intro line hline
  rw [hlines] at hline
  rw [htransfers]
  by_cases hid : line.transferId = id
  · obtain ⟨t, hfind, hsound⟩ := hown line (List.mem_filter.mpr ⟨hline, by simp [hid]⟩)
    exact ⟨f t, by simp [hid, hfind], hsound⟩
  · obtain ⟨t, hfind, hsound⟩ := hothers line hline hid
    exact ⟨t, by simp [hid, hfind], hsound⟩

theorem fixed_restatus
    (htransfers : ∀ k, next.transfers.find? k =
      (s.transfers.find? k).map (fun r => if k = id then f r else r))
    (hsent : ∀ t, (f t).status.sent) (hsource : ∀ t, (f t).sourceLocationId = t.sourceLocationId)
    {k : String} (hfind : s.transfers.find? k = some t) (ht : t.status.sent) :
    ∃ t', next.transfers.find? k = some t' ∧ t'.status.sent ∧
      t'.sourceLocationId = t.sourceLocationId := by
  rw [htransfers, hfind]
  by_cases hid : k = id
  · exact ⟨f t, by simp [hid], hsent t, hsource t⟩
  · exact ⟨t, by simp [hid], ht, rfl⟩

theorem grown_of_lines (h : next.lines = s.lines) :
    ∀ line ∈ s.lines.rows, ∀ after ∈ next.lines.rows, after.id = line.id →
      line.receivedQty ≤ after.receivedQty := by
  intro line hline after hafter hid
  rw [h] at hafter
  rw [line_unique hafter hline hid]

theorem goodsOf_of_lines (h : next.lines = s.lines) (id : String) :
    next.goodsOf id = s.goodsOf id := by
  rw [TransferDb.goodsOf, TransferDb.linesOf, h]
  rfl

theorem conserves_added {added : List StockTransferLine}
    (hs : TransfersSound s) (hno : NoLegacy s.domain) (hdomain : next.domain = s.domain)
    (hrows : next.lines.rows = s.lines.rows ++ added)
    (hkept : ∀ k t, s.transfers.find? k = some t → next.transfers.find? k = some t)
    (hadded : ∀ line ∈ added, line.receivedQty = 0 ∧ 0 ≤ line.qty ∧
      ∃ t, next.transfers.find? line.transferId = some t ∧ t.status = .draft) :
    Conserves s next where
  frame := by
    rw [hdomain]
    exact StockOnly.refl _
  noLegacy := by
    rw [hdomain]
    exact hno
  sound := by
    intro line hline
    rw [hrows] at hline
    rcases List.mem_append.mp hline with hold | hnew
    · obtain ⟨t, hfind, hsound⟩ := hs line hold
      exact ⟨t, hkept _ t hfind, hsound⟩
    · obtain ⟨hzero, hqty, t, hfind, hdraft⟩ := hadded line hnew
      refine ⟨t, hfind, ?_⟩
      constructor
      · omega
      · omega
      · intro _
        exact hzero
      · intro hreceived
        rw [hdraft] at hreceived
        cases hreceived
  balanced := by
    intro weight measure _
    have hold : s.lines.rows.map (fun line =>
        lineOut weight s.domain (next.transfers.find? line.transferId) line) =
        s.lines.rows.map (fun line =>
          lineOut weight s.domain (s.transfers.find? line.transferId) line) := by
      apply List.map_congr_left
      intro line hline
      obtain ⟨t, hfind, _⟩ := hs line hline
      rw [hfind, hkept _ t hfind]
    have hnew : added.map (fun line =>
        lineOut weight s.domain (next.transfers.find? line.transferId) line) =
        added.map (fun _ => 0) := by
      apply List.map_congr_left
      intro line hline
      obtain ⟨_, _, t, hfind, hdraft⟩ := hadded line hline
      rw [hfind, lineOut_of_unsent (by rw [hdraft]; rfl)]
    rw [TransferDb.out, hrows, hdomain, List.map_append, hold, hnew, List.sum_append]
    simp [TransferDb.out]
  grown := by
    intro line hline after hafter hid
    have hstill : line ∈ next.lines.rows := by
      rw [hrows]
      exact List.mem_append_left _ hline
    rw [line_unique hafter hstill hid]
  fixed := by
    intro id t hfind hsent
    refine ⟨?_, t, hkept id t hfind, hsent, rfl⟩
    have hnone : added.filter (fun line => line.transferId = id) = [] := by
      rw [List.filter_eq_nil_iff]
      intro line hline
      obtain ⟨_, _, t', hfind', hdraft⟩ := hadded line hline
      rw [decide_eq_true_eq]
      intro hid
      rw [hid, hkept id t hfind, Option.some.injEq] at hfind'
      rw [← hfind'] at hdraft
      exact hsent.1 hdraft
    rw [TransferDb.goodsOf, TransferDb.linesOf, hrows, List.filter_append, hnone, List.append_nil]
    rfl

theorem linesOf_sound (hs : TransfersSound s)
    (hfind : s.transfers.find? id = some t) : ∀ line ∈ s.linesOf id, LineSound t line := by
  intro line hline
  obtain ⟨hmem, hid⟩ := List.mem_filter.mp hline
  obtain ⟨t', hfind', hsound⟩ := hs line hmem
  rw [of_decide_eq_true hid, hfind, Option.some.injEq] at hfind'
  rw [hfind']
  exact hsound

theorem conserves_restatus {change : StockWeight → Int}
    (hs : TransfersSound s) (hfind : s.transfers.find? id = some t)
    (htransfers : ∀ k, next.transfers.find? k =
      (s.transfers.find? k).map (fun r => if k = id then f r else r))
    (hlines : next.lines = s.lines) (hstock : Rebalanced s.domain next.domain change)
    (hout : ∀ weight, change weight + linesOut weight s.domain (f t) (s.linesOf id) =
      linesOut weight s.domain t (s.linesOf id))
    (hsound : ∀ line ∈ s.linesOf id, LineSound (f t) line)
    (hsent : ∀ t, (f t).status.sent)
    (hsource : ∀ t, (f t).sourceLocationId = t.sourceLocationId) : Conserves s next where
  frame := hstock.frame
  noLegacy := hstock.noLegacy
  sound := by
    apply sound_restatus htransfers hlines
    · intro line hline
      exact ⟨t, hfind, hsound line hline⟩
    · intro line hline _
      exact hs line hline
  balanced := by
    intro weight measure hgauge
    have hzero := hout weight
    have hrest := out_restatus hfind htransfers hlines hstock.frame weight
    rw [hstock.gauged weight measure hgauge]
    omega
  grown := grown_of_lines hlines
  fixed := by
    intro k t' hfind' ht
    exact ⟨goodsOf_of_lines hlines k, fixed_restatus htransfers hsent hsource hfind' ht⟩

end OzPos
