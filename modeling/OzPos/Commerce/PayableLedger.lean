import OzPos.Commerce.Payables

namespace OzPos

/-- The paid total, the recorded payments and the status of a payable agree. -/
structure PayableSound (r : PayableRecord) : Prop where
  total : r.payable.paidMinor = r.recorded
  nonneg : 0 ≤ r.payable.paidMinor
  le_amount : r.payable.paidMinor ≤ r.payable.amountMinor
  open_iff : r.payable.status ≠ .writtenOff →
    (r.payable.status = .open_ ↔ r.payable.paidMinor = 0)
  partial_iff : r.payable.status ≠ .writtenOff →
    (r.payable.status = .partial_ ↔
      0 < r.payable.paidMinor ∧ r.payable.paidMinor < r.payable.amountMinor)
  paid_iff : r.payable.status ≠ .writtenOff →
    (r.payable.status = .paid ↔ r.payable.paidMinor = r.payable.amountMinor)

/-- A step leaves the payable sound, and one that was settled or written off as it was. -/
def PayableKept (r next : PayableRecord) : Prop :=
  PayableSound next ∧ (r.payable.status.isTerminal = true → next = r)

def overtaken (r : PayableRecord) (draw : PayableDraw) : PayableView → Bool
  | .payment args seen newPaid =>
    lands draw args newPaid r && r.payable.paidMinor ≠ seen.paidMinor
  | .writeOff _ _ => false

/-- What holds of a payable whatever comes between the steps of its calls. -/
structure PayableBounded (r : PayableRecord) : Prop where
  positive : 0 < r.payable.amountMinor
  nonneg : 0 ≤ r.payable.paidMinor
  le_amount : r.payable.paidMinor ≤ r.payable.amountMinor
  le_recorded : r.payable.paidMinor ≤ r.recorded
  status : r.payable.status = .writtenOff ∨
    r.payable.status = PayableStatus.fromAmounts r.payable.paidMinor r.payable.amountMinor

def PayableSeen (r : PayableRecord) : PayableView → Prop
  | .payment args seen newPaid =>
    newPaid = seen.paidMinor + args.amountMinor ∧ 0 < args.amountMinor ∧
      newPaid ≤ seen.amountMinor ∧ seen.amountMinor = r.payable.amountMinor ∧
      0 ≤ seen.paidMinor ∧ seen.paidMinor ≤ r.recorded
  | .writeOff _ _ => True

theorem fromAmounts_open_iff {paid amount : Int} (hpaid : 0 ≤ paid) :
    PayableStatus.fromAmounts paid amount = .open_ ↔ paid = 0 := by
  unfold PayableStatus.fromAmounts
  split
  · simp only [true_iff]
    omega
  · split
    · simp only [reduceCtorEq, false_iff]
      omega
    · simp only [reduceCtorEq, false_iff]
      omega

theorem fromAmounts_partial_iff (paid amount : Int) :
    PayableStatus.fromAmounts paid amount = .partial_ ↔ 0 < paid ∧ paid < amount := by
  unfold PayableStatus.fromAmounts
  split
  · simp only [reduceCtorEq, false_iff]
    omega
  · split
    · simp only [reduceCtorEq, false_iff]
      omega
    · simp only [true_iff]
      omega

theorem fromAmounts_paid_iff {paid amount : Int} (hpositive : 0 < amount) (hle : paid ≤ amount) :
    PayableStatus.fromAmounts paid amount = .paid ↔ paid = amount := by
  unfold PayableStatus.fromAmounts
  split
  · simp only [reduceCtorEq, false_iff]
    omega
  · split
    · simp only [true_iff]
      omega
    · simp only [reduceCtorEq, false_iff]
      omega

variable {r : PayableRecord}

theorem PayableBounded.sound_iff (h : PayableBounded r) :
    PayableSound r ↔ r.payable.paidMinor = r.recorded := by
  constructor
  · exact PayableSound.total
  · intro htotal
    have hstatus : r.payable.status ≠ .writtenOff → r.payable.status =
        PayableStatus.fromAmounts r.payable.paidMinor r.payable.amountMinor := by
      intro hopen
      exact h.status.resolve_left hopen
    constructor
    · exact htotal
    · exact h.nonneg
    · exact h.le_amount
    · intro hopen
      rw [hstatus hopen]
      exact fromAmounts_open_iff h.nonneg
    · intro hopen
      rw [hstatus hopen]
      exact fromAmounts_partial_iff _ _
    · intro hopen
      rw [hstatus hopen]
      exact fromAmounts_paid_iff h.positive h.le_amount

variable {draw : PayableDraw}

theorem payment_written {args : PaymentArgs} {newPaid : Int} (seen : Payable)
    (h : lands draw args newPaid r = true) {next : PayableRecord}
    (hnext : next = (payableCalls.write draw (.payment args seen newPaid) r).1) :
    next.recorded = r.recorded + args.amountMinor ∧
      next.payable.amountMinor = r.payable.amountMinor ∧ next.payable.paidMinor = newPaid ∧
      next.payable.status = PayableStatus.fromAmounts newPaid seen.amountMinor := by
  obtain ⟨done, hwrite, hrows, _, _, hamount, hpaid, hstatus⟩ := writePayment_lands seen h
  have hdone : next = done := by
    rw [hnext]
    simp [payableCalls, PayableView.write, hwrite]
  rw [hdone]
  refine ⟨?_, hamount, hpaid, hstatus⟩
  simp [PayableRecord.recorded, hrows, paymentRow]

theorem payment_refused {args : PaymentArgs} {newPaid : Int} (seen : Payable)
    (h : lands draw args newPaid r = false) :
    (payableCalls.write draw (.payment args seen newPaid) r).1 = r := by
  obtain ⟨e, hwrite⟩ := writePayment_refused seen h
  simp [payableCalls, PayableView.write, hwrite]

theorem writeOff_written (draw : PayableDraw) (tenantId payableId : String) (r : PayableRecord) :
    (payableCalls.write draw (.writeOff tenantId payableId) r).1 = r ∨
      ∃ next, (payableCalls.write draw (.writeOff tenantId payableId) r).1 = next ∧
        r.payable.status.isTerminal = false ∧ next.recorded = r.recorded ∧
        next.payable.amountMinor = r.payable.amountMinor ∧
        next.payable.paidMinor = r.payable.paidMinor ∧ next.payable.status = .writtenOff := by
  cases hwrite : writeWriteOff draw tenantId payableId r with
  | error e =>
    left
    simp [payableCalls, PayableView.write, hwrite]
  | ok done =>
    right
    obtain ⟨next, payment⟩ := done
    obtain ⟨howed, hrows, hpayable⟩ := writeWriteOff_ok hwrite
    refine ⟨next, ?_, owedRow_isTerminal howed, ?_, ?_, ?_, ?_⟩
    · simp [payableCalls, PayableView.write, hwrite]
    · simp [PayableRecord.recorded, hrows]
    · simp [hpayable]
    · simp [hpayable]
    · simp [hpayable]

variable {view : PayableView}

theorem payable_frame (draw : PayableDraw) (hview : PayableSeen r view) :
    (payableCalls.write draw view r).1.payable.amountMinor = r.payable.amountMinor ∧
      r.recorded ≤ (payableCalls.write draw view r).1.recorded := by
  cases view with
  | payment args seen newPaid =>
    cases hlands : lands draw args newPaid r with
    | false =>
      rw [payment_refused seen hlands]
      exact ⟨rfl, le_refl _⟩
    | true =>
      obtain ⟨hrecorded, hamount, _⟩ := payment_written seen hlands rfl
      have hpositive := hview.2.1
      exact ⟨hamount, by omega⟩
  | writeOff tenantId payableId =>
    rcases writeOff_written draw tenantId payableId r with hsame | ⟨next, hnext, _, hrows, hamount, _⟩
    · rw [hsame]
      exact ⟨rfl, le_refl _⟩
    · rw [hnext]
      exact ⟨hamount, le_of_eq hrows.symm⟩

theorem bounded_write (draw : PayableDraw) (h : PayableBounded r) (hview : PayableSeen r view) :
    PayableBounded (payableCalls.write draw view r).1 := by
  have hpositive := h.positive
  cases view with
  | payment args seen newPaid =>
    cases hlands : lands draw args newPaid r with
    | false =>
      rw [payment_refused seen hlands]
      exact h
    | true =>
      obtain ⟨hrecorded, hamount, hpaid, hstatus⟩ := payment_written seen hlands rfl
      obtain ⟨hsum, hargs, hle, hseen, hnonneg, hcovered⟩ := hview
      constructor
      · omega
      · omega
      · omega
      · omega
      · right
        rw [hstatus, hpaid, hamount, hseen]
  | writeOff tenantId payableId =>
    rcases writeOff_written draw tenantId payableId r with
      hsame | ⟨next, hnext, _, hrows, hamount, hpaid, hstatus⟩
    · rw [hsame]
      exact h
    · rw [hnext]
      have hnonneg := h.nonneg
      have hle := h.le_amount
      have hcovered := h.le_recorded
      constructor
      · omega
      · omega
      · omega
      · omega
      · exact .inl hstatus

theorem seen_write {other : PayableView} (draw : PayableDraw) (hview : PayableSeen r view)
    (hother : PayableSeen r other) : PayableSeen (payableCalls.write draw view r).1 other := by
  obtain ⟨hamount, hrecorded⟩ := payable_frame draw hview
  cases other with
  | writeOff tenantId payableId => trivial
  | payment args seen newPaid =>
    obtain ⟨hsum, hargs, hle, hseen, hnonneg, hcovered⟩ := hother
    exact ⟨hsum, hargs, hle, hseen.trans hamount.symm, hnonneg, by omega⟩

theorem seen_read {call : PayableCall} (h : PayableBounded r)
    (hread : payableCalls.read call r = .inr view) : PayableSeen r view := by
  have hcall : call.read r = .ok view := by
    cases hc : call.read r with
    | error e => simp [payableCalls, hc] at hread
    | ok found => simpa [payableCalls, hc] using hread
  cases call with
  | writeOffPayable tenantId payableId =>
    cases hget : getPayable tenantId payableId r with
    | error e => simp [PayableCall.read, hget, Except.bind] at hcall
    | ok seen =>
      simp only [PayableCall.read, hget, Except.bind, invalidPayable] at hcall
      split at hcall
      · cases hcall
        trivial
      · cases hcall
  | recordPayablePayment args =>
    cases hget : getPayable args.tenantId args.payableId r with
    | error e => simp [PayableCall.read, hget, Except.bind] at hcall
    | ok seen =>
      obtain ⟨rfl, _⟩ := getPayable_ok hget
      cases hcheck : checkPayment args r.payable with
      | error e => simp [PayableCall.read, hget, hcheck, Except.bind, Except.map] at hcall
      | ok newPaid =>
        simp only [PayableCall.read, hget, hcheck, Except.bind, Except.map,
          Except.ok.injEq] at hcall
        obtain ⟨hsum, hargs, hle⟩ := checkPayment_ok hcheck
        rw [← hcall]
        exact ⟨hsum, hargs, hle, rfl, h.nonneg, h.le_recorded⟩

theorem payableCalls_bounded :
    payableCalls.Disciplined PayableBounded PayableSeen (fun _ _ _ => True) where
  found := fun _ _ _ h hread => seen_read h hread
  kept := fun _ _ draw h hview _ => bounded_write draw h hview
  stable := fun _ _ draw _ _ hview _ hother => seen_write draw hview hother

theorem payableKept_iff (h : PayableBounded r) (htotal : r.payable.paidMinor = r.recorded)
    (hview : PayableSeen r view) :
    PayableKept r (payableCalls.write draw view r).1 ↔ overtaken r draw view = false := by
  have hnext := bounded_write draw h hview
  unfold PayableKept
  rw [hnext.sound_iff]
  cases view with
  | payment args seen newPaid =>
    cases hlands : lands draw args newPaid r with
    | false =>
      rw [payment_refused seen hlands]
      simp [overtaken, hlands, htotal]
    | true =>
      obtain ⟨hrecorded, _, hpaid, _⟩ := payment_written seen hlands rfl
      have hterminal : r.payable.status.isTerminal = false := by
        simp only [lands, Bool.and_eq_true] at hlands
        exact owedRow_isTerminal hlands.1
      have hsum := hview.1
      simp only [overtaken, hlands, hterminal, hrecorded, hpaid, Bool.true_and, decide_eq_false_iff_not,
        not_not, Bool.false_eq_true, false_implies, and_true]
      omega
  | writeOff tenantId payableId =>
    rcases writeOff_written draw tenantId payableId r with
      hsame | ⟨next, hwritten, hterminal, hrows, _, hpaid, _⟩
    · rw [hsame]
      simp [overtaken, htotal]
    · rw [hwritten]
      simp [overtaken, hterminal, hrows, hpaid, htotal]

theorem payableCalls_fresh :
    payableCalls.Disciplined (fun r => PayableBounded r ∧ r.payable.paidMinor = r.recorded)
      PayableSeen (fun r view draw => overtaken r draw view = false) where
  found := fun _ _ _ h hread => seen_read h.1 hread
  kept := by
    intro r view draw h hview hfresh
    have hnext := bounded_write draw h.1 hview
    exact ⟨hnext, ((payableKept_iff h.1 h.2 hview).mpr hfresh).1.total⟩
  stable := fun _ _ draw _ _ hview _ hother => seen_write draw hview hother

variable {input : NewPayable}

theorem bounded_of_create (h : createPayable draw input = .ok r) :
    PayableBounded r ∧ r.payable.paidMinor = r.recorded := by
  unfold createPayable invalidPayable at h
  split at h
  · cases h
  · split at h
    · cases h
    · split at h
      · cases h
      · rename_i hamount
        split at h
        · cases h
        · cases h
          refine ⟨⟨?_, ?_, ?_, ?_, ?_⟩, ?_⟩
          · simpa using hamount
          · simp
          · simp only
            omega
          · simp [PayableRecord.recorded]
          · simp [PayableStatus.fromAmounts]
          · simp [PayableRecord.recorded]

theorem payable_always_bounded
    (h : createPayable draw input = .ok r) (events : List (CallEvent PayableCall PayableDraw)) :
    PayableBounded (payableCalls.machine.run (.start r) events).shared :=
  payableCalls_bounded.always (bounded_of_create h).1 events

theorem along_payableKept_iff
    (h : createPayable draw input = .ok r) (events : List (CallEvent PayableCall PayableDraw)) :
    payableCalls.machine.Along (payableCalls.Keeps PayableKept) (.start r) events ↔
      payableCalls.machine.Along
        (Calls.AtWrite (fun r view draw => overtaken r draw view = false)) (.start r) events := by
  apply payableCalls_fresh.along_keeps_iff
  · intro s hs
    exact ⟨hs.1.sound_iff.mpr hs.2, fun _ => rfl⟩
  · intro s view d hs hview
    exact payableKept_iff hs.1 hs.2 hview
  · exact bounded_of_create h

/-- Over every interleaving of the steps of any payments and write-offs on a payable, it
stays sound, and unchanged once settled or written off, exactly where no payment lands on a
paid total other than the one it has read. -/
theorem payable_sound_iff (draw : PayableDraw) (input : NewPayable) (r : PayableRecord)
    (h : createPayable draw input = .ok r) (events : List (CallEvent PayableCall PayableDraw)) :
    PayableSound r ∧
      (payableCalls.machine.Along (payableCalls.Keeps PayableKept) (.start r) events ↔
        payableCalls.machine.Along
          (Calls.AtWrite (fun r view draw => overtaken r draw view = false)) (.start r) events) := by
  obtain ⟨hbounded, htotal⟩ := bounded_of_create h
  exact ⟨hbounded.sound_iff.mpr htotal, along_payableKept_iff h events⟩

def payableDraw (rowId : String) : PayableDraw := ⟨rowId, "2026-01-01T00:00:00.000Z", none⟩

def samplePayable : NewPayable := ⟨"default", "sup-1", 1000, "IDR"⟩

def payPayable (amountMinor : Int) : PayableCall :=
  .recordPayablePayment ⟨"default", "p1", amountMinor, "IDR", "cash", none, ""⟩

def orderlyPayments : List (CallEvent PayableCall PayableDraw) :=
  [.read 0 (payPayable 400), .write 0 (payableDraw "t1"), .read 1 (payPayable 300),
    .write 1 (payableDraw "t2"), .read 0 (.writeOffPayable "default" "p1"),
    .write 0 (payableDraw "t3")]

/-- Two part payments of one payable, read before either is written. -/
def crossedPayments : List (CallEvent PayableCall PayableDraw) :=
  [.read 0 (payPayable 400), .read 1 (payPayable 300), .write 0 (payableDraw "t1"),
    .write 1 (payableDraw "t2")]

theorem orderly_payments_sound :
    ∃ r, createPayable (payableDraw "p1") samplePayable = .ok r ∧
      payableCalls.machine.Along (payableCalls.Keeps PayableKept) (.start r) orderlyPayments :=
  ⟨_, rfl, (payable_sound_iff (payableDraw "p1") samplePayable _ rfl orderlyPayments).2.mpr
    (by decide +kernel)⟩

theorem crossed_payments_bounded :
    ∃ r, createPayable (payableDraw "p1") samplePayable = .ok r ∧
      PayableBounded (payableCalls.machine.run (.start r) crossedPayments).shared := by
  have hcreate : createPayable (payableDraw "p1") samplePayable = .ok _ := rfl
  exact ⟨_, hcreate, payable_always_bounded hcreate crossedPayments⟩

theorem crossed_payment_lost :
    ∃ r, createPayable (payableDraw "p1") samplePayable = .ok r ∧
      ¬ payableCalls.machine.Along (payableCalls.Keeps PayableKept) (.start r) crossedPayments := by
  have hcreate : createPayable (payableDraw "p1") samplePayable = .ok _ := rfl
  refine ⟨_, hcreate, ?_⟩
  rw [along_payableKept_iff hcreate]
  decide +kernel

end OzPos
