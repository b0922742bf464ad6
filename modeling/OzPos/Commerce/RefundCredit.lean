import OzPos.Client.StockEffect
import OzPos.Commerce.Refunds
import OzPos.Library.Outcome
import Mathlib.Algebra.Order.BigOperators.Group.List

namespace OzPos

structure Credit where
  (sku location : String)
  qty : Int

def Credit.move (c : Credit) (item : String) : StockMove := ⟨item, c.location, c.qty⟩

variable {κ : Type}

theorem addI64_ok {a b n : Int} (h : addI64 a b = .ok n) : n = a + b := by
  unfold addI64 at h
  split at h
  · rename_i m hm
    cases h
    exact ((checkedI64_eq_some_iff _ _).mp hm).1
  · cases h

theorem sumI64_ok {total n : Int} {qtys : List Int} (h : sumI64 total qtys = .ok n) :
    n = total + qtys.sum := by
  induction qtys generalizing total with
  | nil =>
    cases h
    simp
  | cons qty rest ih =>
    obtain ⟨next, hnext, h⟩ := Except.of_bind h
    have hsum := addI64_ok hnext
    have hrest := ih h
    rw [List.sum_cons]
    omega

namespace DomainTables

/-- The canonical writer has taken the credits one after the other. -/
inductive Credited : DomainTables κ → List Credit → DomainTables κ → Prop where
  | nil (d : DomainTables κ) : Credited d [] d
  | cons {d d₁ d' : DomainTables κ} {c : Credit} {rest : List Credit} {item : String} :
    d.productIdBySku c.sku = some item → Fits d (c.move item) → Moved d d₁ (c.move item) →
    Credited d₁ rest d' → Credited d (c :: rest) d'

variable {d d' : DomainTables κ}

theorem Credited.frame {credits : List Credit} (h : Credited d credits d') : StockOnly d d' := by
  induction h with
  | nil d => exact StockOnly.refl d
  | cons _ _ hmoved _ ih => exact hmoved.frame.trans ih

theorem Credited.append {d₁ : DomainTables κ} {l r : List Credit} (hl : Credited d l d₁)
    (hr : Credited d₁ r d') : Credited d (l ++ r) d' := by
  induction hl with
  | nil d => exact hr
  | cons hsku hfits hmoved _ ih => exact .cons hsku hfits hmoved (ih hr)

variable {now sku : String}

theorem creditAt_ok {location : String} {qty : Int}
    (h : d.creditAt now sku qty location = .ok d') : Credited d [⟨sku, location, qty⟩] d' := by
  unfold creditAt at h
  split at h
  · cases h
  · rename_i level d₁ hadjust
    cases h
    obtain ⟨item, hsku, hfits, hmoved⟩ := adjustStockAtLocation_ok hadjust
    exact .cons hsku hfits hmoved (.nil _)

def entryCredit (sku : String) (entry : Json) : Option Credit :=
  match entry.strAt? "location_id", entry.i64At? "qty" with
  | some location, some qty => some ⟨sku, location, qty⟩
  | _, _ => none

theorem entryCredit_of_entry {entry : Json} {e : String × Int} (sku : String)
    (h : deductionEntry entry = .ok e) : entryCredit sku entry = some ⟨sku, e.1, e.2⟩ := by
  unfold deductionEntry at h
  unfold entryCredit
  cases hlocation : entry.strAt? "location_id" with
  | none => simp [hlocation, invalidRefund] at h
  | some location =>
    cases hqty : entry.i64At? "qty" with
    | none => simp [hlocation, hqty, invalidRefund] at h
    | some qty =>
      simp only [hlocation, hqty, Except.ok.injEq] at h
      rw [← h]

def forwardCredits (sku : String) (entries : List Json) : List Credit :=
  entries.filterMap (entryCredit sku)

def backwardCredits (sku : String) : Int → List Json → List Credit
  | _, [] => []
  | remaining, entry :: rest =>
    if remaining ≤ 0 then []
    else
      match entryCredit sku entry with
      | none => []
      | some c =>
        { c with qty := min c.qty remaining } ::
          backwardCredits sku (remaining - min c.qty remaining) rest

theorem creditForward_ok {entries : List Json} (h : d.creditForward now sku entries = .ok d') :
    Credited d (forwardCredits sku entries) d' := by
  induction entries generalizing d with
  | nil =>
    cases h
    exact .nil _
  | cons entry rest ih =>
    obtain ⟨e, hentry, h⟩ := Except.of_bind h
    obtain ⟨d₁, hcredit, h⟩ := Except.of_bind h
    rw [forwardCredits, List.filterMap_cons, entryCredit_of_entry sku hentry]
    exact (creditAt_ok hcredit).append (ih h)

theorem creditBackward_ok {entries : List Json} {remaining : Int}
    (h : d.creditBackward now sku remaining entries = .ok d') :
    Credited d (backwardCredits sku remaining entries) d' := by
  induction entries generalizing d remaining with
  | nil =>
    cases h
    exact .nil _
  | cons entry rest ih =>
    unfold creditBackward at h
    unfold backwardCredits
    split at h
    · rename_i hdone
      cases h
      rw [if_pos hdone]
      exact .nil _
    · rename_i hmore
      obtain ⟨e, hentry, h⟩ := Except.of_bind h
      obtain ⟨d₁, hcredit, h⟩ := Except.of_bind h
      obtain ⟨left, hleft, h⟩ := Except.of_bind h
      obtain rfl := addI64_ok hleft
      rw [if_neg hmore, entryCredit_of_entry sku hentry]
      have hrest := ih h
      rw [← Int.sub_eq_add_neg] at hrest
      exact (creditAt_ok hcredit).append hrest

theorem refundedQty_nonneg (d : DomainTables κ) (saleId saleLineId excluded : String) :
    0 ≤ d.refundedQtyForSaleLineInTx saleId saleLineId excluded := by
  apply List.sum_nonneg
  intro qty hqty
  obtain ⟨row, _, rfl⟩ := List.mem_map.mp hqty
  split
  · rename_i hrow
    exact hrow.2.1.le
  · exact Int.le_refl 0

theorem alreadyRefundedQty_ok {saleId saleLineId excluded : String} {n : Int}
    (h : d.alreadyRefundedQty saleId saleLineId excluded = .ok n) :
    n = d.refundedQtyForSaleLineInTx saleId saleLineId excluded ∧ 0 ≤ n := by
  have hnonneg := refundedQty_nonneg d saleId saleLineId excluded
  unfold alreadyRefundedQty at h
  split at h
  · cases h
  · rename_i qty hqty
    cases h
    obtain ⟨rfl, _⟩ := (checkedI64_eq_some_iff _ _).mp hqty
    exact ⟨rfl, hnonneg⟩

variable (lines : List Json)

def recordedDeductions (saleLineId : String) : List Json :=
  match (recordedLine lines saleLineId).bind (fun recorded => recorded.get? "deductions") with
  | some (.arr deductions) => deductions
  | _ => []

def recordedQty (deductions : List Json) : Int :=
  (deductions.filterMap (fun e => e.i64At? "qty")).sum

def recordedSku (saleLineId : String) : String :=
  ((recordedLine lines saleLineId).bind (fun recorded => recorded.strAt? "sku")).getD ""

/-- Where a line's units go back to by the deductions of its sale line. -/
def lineCredits (line : RefundLine) : List Credit :=
  let deductions := recordedDeductions lines line.saleLineId
  if recordedQty deductions ≤ line.qty then
    forwardCredits (recordedSku lines line.saleLineId) deductions
  else backwardCredits (recordedSku lines line.saleLineId) line.qty deductions.reverse

theorem creditLineFromDeductions_ok {refund : Refund} {lines : List Json} {line : RefundLine}
    (hqty : 0 < line.qty) (h : d.creditLineFromDeductions now refund lines line = .ok d') :
    Credited d (lineCredits lines line) d' ∧
      line.qty ≤ recordedQty (recordedDeductions lines line.saleLineId) := by
  unfold creditLineFromDeductions at h
  unfold lineCredits recordedDeductions recordedSku
  cases hline : recordedLine lines line.saleLineId with
  | none => simp [hline, invalidRefund] at h
  | some recorded =>
    simp only [hline, Option.bind_some] at h ⊢
    cases hfound : recorded.get? "deductions" with
    | none => simp [hfound, invalidRefund] at h
    | some value =>
      cases value with
      | arr deductions =>
        simp only [hfound] at h ⊢
        obtain ⟨total, htotal, h⟩ := Except.of_bind h
        have hsum := sumI64_ok htotal
        rw [Int.zero_add] at hsum
        rw [if_neg (by omega)] at h
        obtain ⟨already, halready, h⟩ := Except.of_bind h
        obtain ⟨_, hnonneg⟩ := alreadyRefundedQty_ok halready
        cases hafter : checkedI64 (already + line.qty) with
        | none => simp [hafter, invalidRefund] at h
        | some after =>
          obtain ⟨rfl, _⟩ := (checkedI64_eq_some_iff _ _).mp hafter
          simp only [hafter] at h
          split at h
          · cases h
          · rename_i hbound
            have hle : line.qty ≤ recordedQty deductions := by
              unfold recordedQty
              omega
            refine ⟨?_, hle⟩
            cases hsku : (recorded.strAt? "sku").filter (fun sku => trim sku ≠ "") with
            | none =>
              rw [hsku] at h
              cases h
            | some sku =>
              have hnamed : recorded.strAt? "sku" = some sku :=
                (Option.filter_eq_some_iff.mp hsku).1
              rw [hsku] at h
              simp only at h
              rw [hnamed, Option.getD_some]
              unfold recordedQty
              rw [← hsum]
              split at h
              · rename_i hfull
                rw [if_pos hfull]
                exact creditForward_ok h
              · rename_i hpartial
                rw [if_neg hpartial]
                exact creditBackward_ok h
      | _ => simp [hfound, invalidRefund] at h

end DomainTables

def recordedLines (column : Payload) : List Json :=
  match column.value?.bind (fun doc => doc.get? "lines") with
  | some (.arr lines) => lines
  | _ => []

variable (db : SalesDb κ)

def soldSku (saleId saleLineId : String) : String :=
  ((soldLineForSaleLineInTx db.saleLines saleId saleLineId).map SaleLineRow.sku).getD ""

def creditsOfLine (saleId : String) (line : RefundLine) : List Credit :=
  match (db.terms saleId).deductionLocations with
  | none => [⟨soldSku db saleId line.saleLineId, canonicalDefaultLocation, line.qty⟩]
  | some column => DomainTables.lineCredits (recordedLines column) line

def refundCredits (refund : Refund) : List Credit :=
  refund.lines.flatMap (creditsOfLine db refund.saleId)

namespace DomainTables

variable {now : String} {refund : Refund} {d d' : DomainTables κ}

theorem creditLinesFromDeductions_ok {lines : List Json}
    {todo : List RefundLine} (hqty : ∀ line ∈ todo, 0 < line.qty)
    (h : d.creditLinesFromDeductions now refund lines todo = .ok d') :
    Credited d (todo.flatMap (lineCredits lines)) d' ∧
      ∀ line ∈ todo, line.qty ≤ recordedQty (recordedDeductions lines line.saleLineId) := by
  induction todo generalizing d with
  | nil =>
    cases h
    exact ⟨.nil _, by simp⟩
  | cons line rest ih =>
    obtain ⟨d₁, hline, hrest⟩ := Except.of_bind h
    obtain ⟨hhere, hothers⟩ := List.forall_mem_cons.mp hqty
    obtain ⟨hcredited, hle⟩ := creditLineFromDeductions_ok hhere hline
    obtain ⟨hcredited', hle'⟩ := ih hothers hrest
    rw [List.flatMap_cons]
    exact ⟨hcredited.append hcredited', List.forall_mem_cons.mpr ⟨hle, hle'⟩⟩

theorem creditLineToDefault_ok {db : SalesDb κ} {line : RefundLine} (hqty : 0 < line.qty)
    (h : d.creditLineToDefault now refund db.saleLines line = .ok d') :
    Credited d [⟨soldSku db refund.saleId line.saleLineId, canonicalDefaultLocation, line.qty⟩]
      d' := by
  unfold creditLineToDefault at h
  rw [if_neg (by omega)] at h
  unfold soldSku
  cases hsold : soldLineForSaleLineInTx db.saleLines refund.saleId line.saleLineId with
  | none => simp [hsold, invalidRefund] at h
  | some sold =>
    simp only [hsold] at h
    obtain ⟨already, halready, h⟩ := Except.of_bind h
    cases hafter : checkedI64 (already + line.qty) with
    | none => simp [hafter, invalidRefund] at h
    | some after =>
      simp only [hafter] at h
      split at h
      · cases h
      · exact creditAt_ok h

theorem creditLinesToDefault_ok {db : SalesDb κ}
    {todo : List RefundLine} (hqty : ∀ line ∈ todo, 0 < line.qty)
    (h : d.creditLinesToDefault now refund db.saleLines todo = .ok d') :
    Credited d (todo.flatMap (fun line =>
      [⟨soldSku db refund.saleId line.saleLineId, canonicalDefaultLocation, line.qty⟩])) d' := by
  induction todo generalizing d with
  | nil =>
    cases h
    exact .nil _
  | cons line rest ih =>
    obtain ⟨d₁, hline, hrest⟩ := Except.of_bind h
    obtain ⟨hhere, hothers⟩ := List.forall_mem_cons.mp hqty
    rw [List.flatMap_cons]
    exact (creditLineToDefault_ok hhere hline).append (ih hothers hrest)

end DomainTables

theorem creditRefund_ok {now : String} {refund : Refund} {db db' : SalesDb κ}
    (hqty : ∀ line ∈ refund.lines, 0 < line.qty) (h : creditRefund now refund db = .ok db') :
    ∃ d₁ log, DomainTables.Credited db.domain (refundCredits db refund) d₁ ∧
      db' = { db with domain := { d₁ with auditLog := log } } ∧
      ∀ column, (db.terms refund.saleId).deductionLocations = some column →
        ∀ line ∈ refund.lines, line.qty ≤ DomainTables.recordedQty
          (DomainTables.recordedDeductions (recordedLines column) line.saleLineId) := by
  unfold creditRefund at h
  obtain ⟨domain, hdomain, rfl⟩ := Except.of_map h
  unfold refundCredits
  cases hcolumn : (db.terms refund.saleId).deductionLocations with
  | none =>
    simp only [hcolumn] at hdomain
    obtain ⟨d₁, hcredit, rfl⟩ := Except.of_map hdomain
    have hcredited := DomainTables.creditLinesToDefault_ok hqty hcredit
    refine ⟨d₁, _, ?_, rfl, by simp⟩
    unfold creditsOfLine
    rw [hcolumn]
    exact hcredited
  | some column =>
    simp only [hcolumn] at hdomain
    unfold DomainTables.creditRefundFromDeductionLocations at hdomain
    unfold creditsOfLine
    rw [hcolumn]
    split at hdomain
    · cases hdomain
    · rename_i doc hdoc
      split at hdomain
      · rename_i lines hlines
        have hrecorded : recordedLines column = lines := by
          simp [recordedLines, hdoc, hlines]
        obtain ⟨hcredited, hle⟩ := DomainTables.creditLinesFromDeductions_ok hqty hdomain
        refine ⟨domain, domain.auditLog, ?_, rfl, ?_⟩
        · simp only [hrecorded]
          exact hcredited
        · intro other hother
          rw [← Option.some.inj hother, hrecorded]
          exact hle
      · cases hdomain

end OzPos
