import OzPos.Commerce.CustomerSpend
import OzPos.Commerce.LineValues
import OzPos.Commerce.LoyaltyReversals
import Mathlib.Tactic.Linarith

namespace OzPos

def CustomerBook.totalSpent (book : CustomerBook) (customerId : String) : Option Int :=
  (book.customers.find? customerId).bind Customer.totalSpentMinor

def SaleRow.reversals (sale : SaleRow) (calls : List (RefundDraw × Refund)) : List Int :=
  calls.map (fun call => refundBase call.2.totalMinor sale.totalMinor sale.baseTotalMinor)

/-- A completed sale nothing of which is refunded, and what its customer has spent. -/
structure SpendAdded (db : SalesDb CustomerBook) (saleId : String) (sale : SaleRow)
    (customerId : String) (spent : Int) : Prop where
  unrefunded : Unrefunded db saleId sale
  customer : sale.customerId = some customerId
  total : db.domain.crm.totalSpent customerId = some spent
  fits : 0 ≤ spent ∧ spent ≤ i64Max
  added : 0 ≤ sale.earnTotal ∧ sale.earnTotal ≤ i64Max

section Refund

variable {sale : SaleRow} {refundTotal : Int}

theorem refundBase_eq (hadded : 0 ≤ sale.earnTotal ∧ sale.earnTotal ≤ i64Max)
    (h0 : 0 ≤ refundTotal) (hle : refundTotal ≤ sale.totalMinor) :
    refundBase refundTotal sale.totalMinor sale.baseTotalMinor =
      if 0 < sale.totalMinor ∧ sale.earnTotal ≠ sale.totalMinor then
        Rounding.quot sale.totalMinor (refundTotal * sale.earnTotal * 2) (sale.totalMinor * 2)
      else refundTotal := by
  unfold SaleRow.earnTotal at hadded ⊢
  unfold refundBase
  cases hbase : sale.baseTotalMinor with
  | none => simp
  | some base =>
    simp only [hbase, Option.getD_some] at hadded ⊢
    split
    · rename_i hconverts
      have hprod : 0 ≤ refundTotal * base := Int.mul_nonneg h0 hadded.1
      have hcap : refundTotal * base ≤ sale.totalMinor * base :=
        Int.mul_le_mul_of_nonneg_right hle hadded.1
      have hquot : Rounding.quot sale.totalMinor (refundTotal * base * 2) (sale.totalMinor * 2) ≤
          base := by
        apply Rounding.quot_le (by omega) (by omega)
        have hright : sale.totalMinor * 2 * base = sale.totalMinor * base * 2 :=
          Int.mul_right_comm ..
        omega
      rw [Int.tdiv_eq_ediv_of_nonneg (by omega)]
      exact asI64_of_fits (Rounding.quot_nonneg (by omega) (by omega)) (hquot.trans hadded.2)
    · rfl

theorem refundBase_nonneg (hadded : 0 ≤ sale.earnTotal ∧ sale.earnTotal ≤ i64Max)
    (h0 : 0 ≤ refundTotal) (hle : refundTotal ≤ sale.totalMinor) :
    0 ≤ refundBase refundTotal sale.totalMinor sale.baseTotalMinor := by
  rw [refundBase_eq hadded h0 hle]
  split
  · have hprod : 0 ≤ refundTotal * sale.earnTotal := Int.mul_nonneg h0 hadded.1
    exact Rounding.quot_nonneg (by omega) (by omega)
  · exact h0

variable {refund : Refund} {db db' : SalesDb CustomerBook} {draw : RefundDraw}
  {customerId : String} {spent : Int}

theorem crm_closeRefundOf (hcustomer : sale.customerId = some customerId) (already : Int)
    (db : SalesDb CustomerBook) : (closeRefundOf spendCrm sale refund already db).domain.crm =
      reverseCustomerSpendOnRefund db.domain customerId refund.totalMinor sale.totalMinor
        sale.baseTotalMinor := by
  unfold closeRefundOf DomainTables.closeOwnRefund DomainTables.audit
  simp only [hcustomer]
  split
  · unfold cancelKdsOrdersForSaleInTx
    split
    · rfl
    · rfl
  · rfl

theorem crm_refunded (h : createRefund spendCrm draw refund db = .ok db')
    (hfound : db.domain.sales.find? refund.saleId = some sale)
    (hcustomer : sale.customerId = some customerId) :
    db'.domain.crm = reverseCustomerSpendOnRefund db.domain customerId refund.totalMinor
      sale.totalMinor sale.baseTotalMinor := by
  unfold createRefund at h
  rw [hfound] at h
  obtain ⟨already, _, h⟩ := Except.of_bind h
  obtain ⟨_, _, h⟩ := Except.of_bind h
  obtain ⟨_, _, h⟩ := Except.of_bind h
  obtain ⟨db₁, hrows, h⟩ := Except.of_bind h
  obtain ⟨db₂, hqueue, h⟩ := Except.of_bind h
  obtain ⟨db₃, hcredit, rfl⟩ := Except.of_map h
  unfold coreStep at hrows
  split at hrows
  · cases hrows
  · rename_i domain hinsert
    cases hrows
    obtain ⟨_, hvalid, _, _, _, _, rfl⟩ := DomainTables.insertRefundRows_ok hinsert
    obtain ⟨_, _, rfl⟩ := enqueueRefundOutbox_ok hqueue
    have hqty : ∀ line ∈ refund.lines, 0 < line.qty :=
      fun line hline => (hvalid line.payload (List.mem_map_of_mem hline)).qty
    obtain ⟨_, _, hcredited, rfl, _⟩ := creditRefund_ok hqty hcredit
    obtain ⟨_, _, _, rfl⟩ := hcredited.frame
    rw [crm_closeRefundOf hcustomer]
    rfl

theorem totalSpent_refunded (h : createRefund spendCrm draw refund db = .ok db')
    (hfound : db.domain.sales.find? refund.saleId = some sale)
    (hcustomer : sale.customerId = some customerId)
    (htotal : db.domain.crm.totalSpent customerId = some spent)
    (hfits : 0 ≤ spent ∧ spent ≤ i64Max)
    (hnonneg : 0 ≤ refundBase refund.totalMinor sale.totalMinor sale.baseTotalMinor) :
    db'.domain.crm.totalSpent customerId = some (max (spent -
      refundBase refund.totalMinor sale.totalMinor sale.baseTotalMinor) 0) := by
  rw [crm_refunded h hfound hcustomer, CustomerBook.totalSpent]
  have hupdate := Table.find?_update db.domain.crm.customers customerId
    (Customer.spend (fun n => max (n -
      refundBase refund.totalMinor sale.totalMinor sale.baseTotalMinor) 0)) (fun _ => rfl) customerId
  rw [reverseCustomerSpendOnRefund, hupdate]
  unfold CustomerBook.totalSpent at htotal
  cases hrow : db.domain.crm.customers.find? customerId with
  | none =>
    rw [hrow] at htotal
    cases htotal
  | some row =>
    rw [hrow] at htotal
    have hspent : row.totalSpentMinor = some spent := htotal
    simp only [Option.map_some, Option.bind_some, if_pos, Customer.spend, hspent,
      checkedI64_eq_some_iff, true_and]
    unfold i64Max at hfits
    omega

end Refund

variable {db : SalesDb CustomerBook} {saleId : String} {sale : SaleRow} {customerId : String}
  {spent : Int} {calls : List (RefundDraw × Refund)}

theorem reversals_run (h : RefundsKept db saleId sale)
    (hcustomer : sale.customerId = some customerId)
    (htotal : db.domain.crm.totalSpent customerId = some spent)
    (hfits : 0 ≤ spent ∧ spent ≤ i64Max) (hadded : 0 ≤ sale.earnTotal ∧ sale.earnTotal ≤ i64Max)
    (hsale : ∀ call ∈ calls, call.2.saleId = saleId) (hall : AllAccepted spendCrm db calls) :
    ((refundMachine spendCrm).run db calls).domain.crm.totalSpent customerId =
        some (max (spent - (sale.reversals calls).sum) 0) ∧
      ∀ call ∈ calls, 0 ≤ call.2.totalMinor ∧ call.2.totalMinor ≤ sale.totalMinor := by
  induction calls generalizing db spent with
  | nil =>
    refine ⟨?_, by simp⟩
    rw [SaleRow.reversals, List.map_nil, List.sum_nil, Int.sub_zero, Int.max_eq_left hfits.1]
    exact htotal
  | cons call calls ih =>
    obtain ⟨haccepted, hlater⟩ := hall
    obtain ⟨hhere, hothers⟩ := List.forall_mem_cons.mp hsale
    have hcall := accepted_ok haccepted
    obtain ⟨sold, hr⟩ := createRefund_ok hcall
    have hkept := h.refunded hr
    have hfound : db.domain.sales.find? call.2.saleId = some sale := hhere ▸ h.within.found
    have hle : call.2.totalMinor ≤ sale.totalMinor := by
      have hbefore : 0 ≤ db.domain.refundsTotal saleId := by
        apply List.sum_nonneg
        intro x hx
        obtain ⟨row, hrow, rfl⟩ := List.mem_map.mp hx
        split
        · rename_i hof
          exact h.within.nonneg row hrow hof
        · exact Int.le_refl 0
      have hafter := hkept.within.total
      rw [refundsTotal_refunded hr, if_pos hhere] at hafter
      omega
    have hshare := refundBase_nonneg hadded hr.nonneg hle
    have hnext := totalSpent_refunded hcall hfound hcustomer htotal hfits hshare
    obtain ⟨hrun, hrest⟩ := ih hkept hnext (by omega) hothers hlater
    refine ⟨?_, List.forall_mem_cons.mpr ⟨⟨hr.nonneg, hle⟩, hrest⟩⟩
    have hlaterShares : 0 ≤ (sale.reversals calls).sum := by
      apply List.sum_nonneg
      intro x hx
      obtain ⟨later, hmem, rfl⟩ := List.mem_map.mp hx
      exact refundBase_nonneg hadded (hrest later hmem).1 (hrest later hmem).2
    rw [Machine.run_cons, hrun]
    simp only [SaleRow.reversals, List.map_cons, List.sum_cons, Option.some.injEq] at hlaterShares ⊢
    omega

theorem reversals_near (hadded : 0 ≤ sale.earnTotal ∧ sale.earnTotal ≤ i64Max)
    (hrefunds : ∀ call ∈ calls, 0 ≤ call.2.totalMinor ∧ call.2.totalMinor ≤ sale.totalMinor)
    (hsum : (calls.map (fun call => call.2.totalMinor)).sum = sale.totalMinor) :
    (sale.earnTotal = sale.totalMinor → (sale.reversals calls).sum = sale.earnTotal) ∧
      (0 < sale.totalMinor → 2 * |(sale.reversals calls).sum - sale.earnTotal| ≤ calls.length) := by
  have hshares : sale.reversals calls = calls.map (fun call =>
      if 0 < sale.totalMinor ∧ sale.earnTotal ≠ sale.totalMinor then Rounding.quot sale.totalMinor
        (call.2.totalMinor * sale.earnTotal * 2) (sale.totalMinor * 2) else call.2.totalMinor) := by
    apply List.map_congr_left
    intro call hcall
    exact refundBase_eq hadded (hrefunds call hcall).1 (hrefunds call hcall).2
  have hexact : sale.earnTotal = sale.totalMinor → (sale.reversals calls).sum = sale.earnTotal := by
    intro hsame
    simp only [hshares, hsame, ne_eq, not_true_eq_false, and_false, if_false, hsum]
  refine ⟨hexact, ?_⟩
  intro htotal
  by_cases hsame : sale.earnTotal = sale.totalMinor
  · rw [hexact hsame, Int.sub_self, abs_zero]
    omega
  · simp only [hshares, ne_eq, htotal, hsame, not_false_eq_true, and_self, if_true]
    obtain ⟨hlow, hhigh⟩ := Rounding.sum_quot_near sale.totalMinor
      (by omega : 0 < sale.totalMinor * 2)
      (calls.map (fun call => call.2.totalMinor * sale.earnTotal * 2))
    have hparts : (calls.map (fun call => call.2.totalMinor * sale.earnTotal * 2)).sum =
        sale.totalMinor * (2 * sale.earnTotal) := by
      simp only [Int.mul_assoc, Int.mul_comm sale.earnTotal 2]
      rw [List.sum_map_mul_right, hsum]
    rw [hparts, List.length_map, List.map_map] at hlow hhigh
    generalize hshared : (calls.map ((fun n => Rounding.quot sale.totalMinor n
      (sale.totalMinor * 2)) ∘ fun call => call.2.totalMinor * sale.earnTotal * 2)).sum = shares
      at hlow hhigh
    have hsharesEq : (calls.map (fun call => Rounding.quot sale.totalMinor
        (call.2.totalMinor * sale.earnTotal * 2) (sale.totalMinor * 2))).sum = shares := hshared
    rw [hsharesEq]
    have hup : sale.totalMinor * (2 * (shares - sale.earnTotal)) ≤
        sale.totalMinor * calls.length := by linarith
    have hdown : sale.totalMinor * (2 * (sale.earnTotal - shares)) ≤
        sale.totalMinor * calls.length := by linarith
    have hup' := le_of_mul_le_mul_left hup htotal
    have hdown' := le_of_mul_le_mul_left hdown htotal
    rcases abs_cases (shares - sale.earnTotal) with ⟨habs, _⟩ | ⟨habs, _⟩
    · omega
    · omega

/-- Accepted refunds of a completed sale take their shares off what its customer has spent, each
rounded half up by itself, and stop at zero. Refunds of the whole sale take off what it had added
just when the shares add up to it: always without a conversion, and but for half a unit for each
refund with one. -/
theorem spend_reversals (db : SalesDb CustomerBook) (saleId : String) (sale : SaleRow)
    (customerId : String) (spent : Int) (calls : List (RefundDraw × Refund))
    (h : SpendAdded db saleId sale customerId spent)
    (hsale : ∀ call ∈ calls, call.2.saleId = saleId) (hall : AllAccepted spendCrm db calls) :
    (∀ l r, calls = l ++ r →
      ((refundMachine spendCrm).run db l).domain.crm.totalSpent customerId =
        some (max (spent - (sale.reversals l).sum) 0)) ∧
    ((calls.map (fun call => call.2.totalMinor)).sum = sale.totalMinor →
      (((refundMachine spendCrm).run db calls).domain.crm.totalSpent customerId =
          some (spent - sale.earnTotal) ↔
        min spent (sale.reversals calls).sum = sale.earnTotal) ∧
      (sale.earnTotal = sale.totalMinor → (sale.reversals calls).sum = sale.earnTotal) ∧
      (0 < sale.totalMinor →
        2 * |(sale.reversals calls).sum - sale.earnTotal| ≤ calls.length)) := by
  have hprefix : ∀ l r, calls = l ++ r →
      ((refundMachine spendCrm).run db l).domain.crm.totalSpent customerId =
        some (max (spent - (sale.reversals l).sum) 0) := by
    intro l r hsplit
    subst hsplit
    exact (reversals_run h.unrefunded.kept h.customer h.total h.fits h.added
      (fun call hcall => hsale call (List.mem_append_left _ hcall))
      (((refundMachine spendCrm).along_append _ db l r).mp hall).1).1
  refine ⟨ hprefix, ?_⟩
  intro hsum
  obtain ⟨hrun, hrefunds⟩ :=
    reversals_run h.unrefunded.kept h.customer h.total h.fits h.added hsale hall
  refine ⟨?_, reversals_near h.added hrefunds hsum⟩
  rw [hrun, Option.some.injEq]
  omega

def thirdsSale : SaleRow := ⟨"sale-1", "default", none, "completed", 2,
  "2026-01-01T00:00:00.000Z", some "cust-1", 3, some 1⟩

def thirdsDb : SalesDb CustomerBook :=
  { regularDb with
    domain := { regularDb.domain with
      sales := Table.empty.insertNew thirdsSale
      crm := ⟨⟨[⟨"cust-1", some 1⟩], by decide⟩, ["sale-1"]⟩ } }

def unitRefund (id : String) : Refund where
  id := id
  saleId := "sale-1"
  totalMinor := 1
  currency := "IDR"
  reason := "cold"
  note := ""
  processedBy := "user-1"
  createdAt := "2026-01-02T00:00:00.000Z"
  lines := []
  total_fits := by unfold FitsI64; omega
  lines_fit := freeRefund.lines_fit

def unitCalls : List (RefundDraw × Refund) :=
  ["ref-1", "ref-2", "ref-3"].map (fun id => (⟨"2026-01-02T00:00:00.000Z", id⟩, unitRefund id))

theorem thirds_added : SpendAdded thirdsDb "sale-1" thirdsSale "cust-1" 1 where
  unrefunded := by
    refine ⟨rfl, rfl, by decide, ?_, ?_, ?_⟩
    · decide
    · decide
    · intro row hrow
      cases hrow
  customer := rfl
  total := by decide
  fits := by decide
  added := by decide

theorem thirds_reversed_by_shares :
    ((refundMachine spendCrm).run thirdsDb unitCalls).domain.crm.totalSpent "cust-1" =
      some (max (1 - (thirdsSale.reversals unitCalls).sum) 0) :=
  (spend_reversals thirdsDb "sale-1" thirdsSale "cust-1" 1 unitCalls thirds_added (by decide)
    (by decide +kernel)).1 unitCalls [] (List.append_nil _).symm

theorem thirds_take_nothing :
    SpendAdded thirdsDb "sale-1" thirdsSale "cust-1" 1 ∧ AllAccepted spendCrm thirdsDb unitCalls ∧
      (unitCalls.map (fun call => call.2.totalMinor)).sum = thirdsSale.totalMinor ∧
      thirdsSale.earnTotal = 1 ∧
      ((refundMachine spendCrm).run thirdsDb unitCalls).domain.crm.totalSpent "cust-1" = some 1 :=
  ⟨thirds_added, by decide +kernel, by decide, rfl, by decide +kernel⟩

end OzPos
