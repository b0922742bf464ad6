import OzPos.Commerce.LineValues
import OzPos.Library.Drawdown

namespace OzPos

variable {κ : Type}

def Credit.entry (c : Credit) : String × Int := (c.location, c.qty)

namespace DomainTables

def creditedTo (d : DomainTables κ) (item location : String) (credits : List Credit) : Int :=
  (credits.map (fun c =>
    if d.productIdBySku c.sku = some item ∧ c.location = location then c.qty else 0)).sum

theorem Credited.quantity {d d' : DomainTables κ} {credits : List Credit} {item : String}
    (h : Credited d credits d') (hrows : d.hasLocationRows item = true) (location : String) :
    d'.quantityAt item location = d.quantityAt item location + d.creditedTo item location credits := by
  induction h with
  | nil d => simp [creditedTo]
  | @cons d d₁ d' c rest other hsku hfits hmoved hrest ih =>
    have hrows₁ : d₁.hasLocationRows item = true := by
      rw [hmoved.rows, hrows]
      rfl
    have hsame : d₁.creditedTo item location rest = d.creditedTo item location rest := by
      obtain ⟨_, _, _, rfl⟩ := hmoved.frame
      rfl
    have hcons : d.creditedTo item location (c :: rest) =
        (if d.productIdBySku c.sku = some item ∧ c.location = location then c.qty else 0) +
          d.creditedTo item location rest := by
      simp [creditedTo]
    have hmove : d₁.quantityAt item location =
        if item = other ∧ location = c.location then
          d.legacyAwareLocationQty other c.location + c.qty
        else d.quantityAt item location := hmoved.quantity item location
    rw [ih hrows₁, hsame, hcons, hmove, hsku]
    by_cases hcell : item = other ∧ location = c.location
    · obtain ⟨rfl, rfl⟩ := hcell
      rw [if_pos ⟨rfl, rfl⟩, if_pos ⟨rfl, rfl⟩, locationQty_of_rows hrows, Int.add_assoc]
    · rw [if_neg hcell, if_neg, Int.zero_add]
      rintro ⟨hitem, hlocation⟩
      exact hcell ⟨(Option.some.inj hitem).symm, hlocation.symm⟩

end DomainTables

def readDeduction (entry : Json) : Option (String × Int) := (deductionEntry entry).toOption

def recordedEntries (column : Payload) (saleLineId : String) : List (String × Int) :=
  (DomainTables.recordedDeductions (recordedLines column) saleLineId).filterMap readDeduction

/-- The record of a line that was deducted: locations and how many of the units sold each gave. -/
structure TakenAsRecorded (column : Payload) (line : SaleLineRow) : Prop where
  entries : ∀ entry ∈ DomainTables.recordedDeductions (recordedLines column) line.id,
    ∃ e, deductionEntry entry = .ok e ∧ 0 < e.2
  sold : Drawdown.total (recordedEntries column line.id) = line.qty

theorem forwardCredits_entries (sku : String) (entries : List Json) :
    (DomainTables.forwardCredits sku entries).map Credit.entry =
      entries.filterMap readDeduction := by
  unfold DomainTables.forwardCredits
  rw [List.map_filterMap]
  apply List.filterMap_congr
  intro entry _
  unfold DomainTables.entryCredit readDeduction deductionEntry
  cases entry.strAt? "location_id" with
  | none => rfl
  | some location =>
    cases entry.i64At? "qty" with
    | none => rfl
    | some qty => rfl

theorem backwardCredits_entries (sku : String) {entries : List Json}
    (h : ∀ entry ∈ entries, ∃ e, deductionEntry entry = .ok e ∧ 0 < e.2) (n : Int) :
    (DomainTables.backwardCredits sku n entries).map Credit.entry =
      Drawdown.drawn n (entries.filterMap readDeduction) := by
  induction entries generalizing n with
  | nil => rfl
  | cons entry rest ih =>
    obtain ⟨⟨e, hentry, _⟩, hrest⟩ := List.forall_mem_cons.mp h
    have hsome : readDeduction entry = some e := by
      rw [readDeduction, hentry]
      rfl
    rw [List.filterMap_cons_some hsome]
    unfold DomainTables.backwardCredits Drawdown.drawn
    rw [DomainTables.entryCredit_of_entry sku hentry]
    split
    · rfl
    · simp only [List.map_cons, ih hrest]
      rfl

variable {column : Payload} {line : SaleLineRow}

theorem recordedEntries_pos
    (h : TakenAsRecorded column line) : ∀ e ∈ recordedEntries column line.id, 0 < e.2 := by
  intro e he
  obtain ⟨entry, hentry, hread⟩ := List.mem_filterMap.mp he
  obtain ⟨e', hok, hpos⟩ := h.entries entry hentry
  rw [readDeduction, hok] at hread
  cases hread
  exact hpos

theorem recordedQty_eq (h : TakenAsRecorded column line) :
    DomainTables.recordedQty
      (DomainTables.recordedDeductions (recordedLines column) line.id) = line.qty := by
  rw [← h.sold]
  have hentries := h.entries
  unfold recordedEntries DomainTables.recordedQty Drawdown.total
  generalize DomainTables.recordedDeductions (recordedLines column) line.id = deductions at hentries
  rw [List.map_filterMap]
  congr 1
  apply List.filterMap_congr
  intro entry hentry
  obtain ⟨e, hok, _⟩ := hentries entry hentry
  rw [readDeduction, hok]
  unfold deductionEntry at hok
  cases hlocation : entry.strAt? "location_id" with
  | none => simp [hlocation, invalidRefund] at hok
  | some location =>
    cases hqty : entry.i64At? "qty" with
    | none => simp [hlocation, hqty, invalidRefund] at hok
    | some qty =>
      simp only [hlocation, hqty, Except.ok.injEq] at hok
      subst hok
      rfl

theorem lineCredits_amountAt {refunded : RefundLine} (h : TakenAsRecorded column line)
    (hid : refunded.saleLineId = line.id) (location : String) :
    Drawdown.amountAt location
        ((DomainTables.lineCredits (recordedLines column) refunded).map Credit.entry) =
      Drawdown.amountAt location
        (Drawdown.drawn refunded.qty (recordedEntries column line.id).reverse) := by
  have hpos : ∀ e ∈ (recordedEntries column line.id).reverse, 0 < e.2 := by
    intro e he
    exact recordedEntries_pos h e (List.mem_reverse.mp he)
  unfold DomainTables.lineCredits
  simp only
  rw [hid, recordedQty_eq h]
  split
  · rename_i hfull
    rw [forwardCredits_entries, Drawdown.drawn_of_total_le hpos, Drawdown.amountAt_reverse]
    · rfl
    · rw [Drawdown.total_reverse, h.sold]
      exact hfull
  · rw [backwardCredits_entries, List.filterMap_reverse]
    · rfl
    · intro entry hentry
      exact h.entries entry (List.mem_reverse.mp hentry)

def lineRestocks (db : SalesDb κ) (saleId saleLineId : String) (refund : Refund) : List Credit :=
  if refund.saleId = saleId then
    (refund.lines.filter (fun line => line.saleLineId = saleLineId)).flatMap
      (creditsOfLine db saleId)
  else []

variable (crm : Crm κ)

def restocked (crm : Crm κ) (saleId saleLineId : String) :
    SalesDb κ → List (RefundDraw × Refund) → List Credit
  | _, [] => []
  | db, call :: calls =>
    lineRestocks db saleId saleLineId call.2 ++
      restocked crm saleId saleLineId ((refundMachine crm).step db call).1 calls

variable (saleId saleLineId : String)

def refundedQtys (calls : List (RefundDraw × Refund)) : List Int :=
  calls.flatMap (fun call =>
    if call.2.saleId = saleId then
      (call.2.lines.filter (fun line => line.saleLineId = saleLineId)).map RefundLine.qty
    else [])

theorem refundedQtys_append (l r : List (RefundDraw × Refund)) :
    refundedQtys saleId saleLineId (l ++ r) =
      refundedQtys saleId saleLineId l ++ refundedQtys saleId saleLineId r := by
  simp [refundedQtys]

variable {db : SalesDb κ} {saleId : String}

theorem lineRestocks_amountAt (hcolumn : (db.terms saleId).deductionLocations = some column)
    (h : TakenAsRecorded column line) (call : RefundDraw × Refund) (location : String) :
    Drawdown.amountAt location ((lineRestocks db saleId line.id call.2).map Credit.entry) =
      Drawdown.amountAt location (Drawdown.given (refundedQtys saleId line.id [call])
        (recordedEntries column line.id).reverse) := by
  unfold lineRestocks refundedQtys
  rw [List.flatMap_singleton]
  split
  · have hid : ∀ refunded ∈ call.2.lines.filter (fun refunded => refunded.saleLineId = line.id),
        refunded.saleLineId = line.id := by
      intro refunded hrefunded
      exact of_decide_eq_true (List.mem_filter.mp hrefunded).2
    generalize call.2.lines.filter (fun refunded => refunded.saleLineId = line.id) = lines at hid
    induction lines with
    | nil => rfl
    | cons refunded rest ih =>
      obtain ⟨hhere, hrest⟩ := List.forall_mem_cons.mp hid
      have hline := lineCredits_amountAt h hhere location
      have hlater := ih hrest
      unfold Drawdown.given at hlater ⊢
      rw [List.flatMap_cons, List.map_append, Drawdown.amountAt_append, hlater, List.map_cons,
        List.flatMap_cons, Drawdown.amountAt_append, ← hline]
      unfold creditsOfLine
      rw [hcolumn]
  · rfl

theorem refundedQtys_bounds {call : RefundDraw × Refund} {db' : SalesDb κ} {sold : SaleRow}
    (hr : Refunded call.1 call.2 db db' sold)
    (hcolumn : (db.terms saleId).deductionLocations = some column)
    (hrecord : TakenAsRecorded column line) :
    ∀ n ∈ refundedQtys saleId line.id [call], 0 ≤ n ∧ n ≤ line.qty := by
  intro n hn
  unfold refundedQtys at hn
  rw [List.flatMap_singleton] at hn
  split at hn
  · rename_i hsale
    obtain ⟨refunded, hrefunded, rfl⟩ := List.mem_map.mp hn
    obtain ⟨hmem, hid⟩ := List.mem_filter.mp hrefunded
    have hvalid := hr.valid refunded.payload (List.mem_map.mpr ⟨refunded, hmem, rfl⟩)
    rw [← hsale] at hcolumn
    have hbound := hr.deducted column hcolumn refunded hmem
    rw [of_decide_eq_true hid, recordedQty_eq hrecord] at hbound
    exact ⟨hvalid.qty.le, hbound⟩
  · cases hn

theorem restocked_run {sale : SaleRow} {calls : List (RefundDraw × Refund)}
    (h : RefundsKept db saleId sale)
    (hcolumn : (db.terms saleId).deductionLocations = some column)
    (hrecord : TakenAsRecorded column line) (hall : AllAccepted crm db calls) :
    (∀ location, Drawdown.amountAt location
        ((restocked crm saleId line.id db calls).map Credit.entry) =
      Drawdown.amountAt location (Drawdown.given (refundedQtys saleId line.id calls)
        (recordedEntries column line.id).reverse)) ∧
      ((refundMachine crm).run db calls).domain.refundedUnits saleId line.id =
        db.domain.refundedUnits saleId line.id + (refundedQtys saleId line.id calls).sum ∧
      ∀ n ∈ refundedQtys saleId line.id calls, 0 ≤ n ∧ n ≤ line.qty := by
  induction calls generalizing db with
  | nil => simp [restocked, refundedQtys, Drawdown.given]
  | cons call calls ih =>
    obtain ⟨haccepted, hlater⟩ := hall
    obtain ⟨sold, hr⟩ := createRefund_ok (accepted_ok haccepted)
    have hterms : (((refundMachine crm).step db call).1.terms saleId).deductionLocations =
        some column := by
      rw [hr.terms]
      exact hcolumn
    obtain ⟨hamounts, hunits, hqtys⟩ := ih (h.refunded hr) hterms hlater
    have hsplit := refundedQtys_append saleId line.id [call] calls
    rw [List.singleton_append] at hsplit
    rw [hsplit]
    refine ⟨?_, ?_, ?_⟩
    · intro location
      unfold Drawdown.given at hamounts ⊢
      rw [restocked, List.map_append, Drawdown.amountAt_append, hamounts,
        lineRestocks_amountAt hcolumn hrecord, List.flatMap_append, Drawdown.amountAt_append]
      rfl
    · rw [Machine.run_cons, hunits, refundedUnits_refunded hr h.linked, List.sum_append,
        ← Int.add_assoc]
      congr 2
      unfold refundedQtys
      rw [List.flatMap_singleton]
      split
      · exact (Grouping.sum_filter _ RefundLine.qty _).symm
      · rfl
    · intro n hn
      rcases List.mem_append.mp hn with hn | hn
      · exact refundedQtys_bounds hr hcolumn hrecord n hn
      · exact hqtys n hn

/-- A refund moves the stock of products kept by location by its credits. -/
def MovesCredits (db db' : SalesDb κ) (refund : Refund) : Prop :=
  ∀ item location, db.domain.hasLocationRows item = true →
    db'.domain.quantityAt item location = db.domain.quantityAt item location +
      db.domain.creditedTo item location (refundCredits db refund)

theorem refund_movesCredits {draw : RefundDraw} {refund : Refund} {db' : SalesDb κ}
    {sold : SaleRow} (hr : Refunded draw refund db db' sold) : MovesCredits db db' refund := by
  intro item location hrows
  obtain ⟨d₁, hcredited, _, hsummary, _⟩ := hr.credited
  have hmoved := hcredited.quantity hrows location
  unfold DomainTables.quantityAt at hmoved ⊢
  rw [hsummary]
  exact hmoved

/-- No location gets back more of a line than it gave, and once all its units are refunded each
has got back just what it gave. -/
def RestockKept (db : SalesDb κ) (saleId : String) (line : SaleLineRow)
    (column : Payload) (calls : List (RefundDraw × Refund)) : Prop :=
  (∀ location, Drawdown.amountAt location
      ((restocked crm saleId line.id db calls).map Credit.entry) ≤
    Drawdown.amountAt location (recordedEntries column line.id)) ∧
  (((refundMachine crm).run db calls).domain.refundedUnits saleId line.id = line.qty →
    ∀ location, Drawdown.amountAt location
        ((restocked crm saleId line.id db calls).map Credit.entry) =
      Drawdown.amountAt location (recordedEntries column line.id))

/-- Beside each of the quantities in which a line comes back, the others walk back over no more
units of a location than that one leaves there. -/
def WalksFit (line : SaleLineRow) (column : Payload) (qtys : List Int) : Prop :=
  ∀ n ∈ qtys, ∀ location,
    Drawdown.amountAt location
        (Drawdown.given (qtys.erase n) (recordedEntries column line.id).reverse) ≤
      Drawdown.amountAt location
        (Drawdown.drawn (line.qty - n) (recordedEntries column line.id))

theorem walksFit_single (line : SaleLineRow) (column : Payload) (n : Int)
    (h : TakenAsRecorded column line) : WalksFit line column [n] := by
  intro m hm location
  obtain rfl := List.mem_singleton.mp hm
  rw [List.erase_cons_head]
  apply Drawdown.amountAt_nonneg
  exact Drawdown.pos_of_mem_drawn (recordedEntries_pos h)

def cafeLine : SaleLineRow := ⟨"line-1", "sale-1", "SKU-1", 2, 3000⟩

theorem cafe_taken : TakenAsRecorded (.json cafeDeductions) cafeLine := by
  have hread : (DomainTables.recordedDeductions (recordedLines (.json cafeDeductions))
      cafeLine.id).all (fun entry => (readDeduction entry).any (fun e => 0 < e.2)) = true := by
    decide +kernel
  refine ⟨?_, by decide +kernel⟩
  intro entry hentry
  have hany := List.all_eq_true.mp hread entry hentry
  obtain ⟨e, he, hpos⟩ := (Option.any_eq_true _ _).mp hany
  refine ⟨e, ?_, of_decide_eq_true hpos⟩
  unfold readDeduction at he
  cases hok : deductionEntry entry with
  | error _ =>
    rw [hok] at he
    cases he
  | ok e' =>
    rw [hok] at he
    cases he
    rfl

def cupCalls (ids : List String) : List (RefundDraw × Refund) :=
  ids.map (fun id => (⟨"2026-01-02T00:00:00.000Z", id⟩, cupRefund id))

end OzPos
