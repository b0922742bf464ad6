import OzPos.Client.StockMerge
import OzPos.Purchasing.PurchaseOrders

namespace OzPos

open DomainTables

variable {κ : Type}

abbrev PoSystem (κ : Type) := Sessions (PoRecord κ) PoView

abbrev PoEvent := CallEvent PoCall PoDraw

variable (s : PoSystem κ)

def PoReceived : Prop := s.shared.order.status = .received

def PoApproved : Prop := s.shared.order.status = .approved

instance : DecidablePred (PoReceived (κ := κ)) := fun s =>
  inferInstanceAs (Decidable (s.shared.order.status = .received))

instance : DecidablePred (PoApproved (κ := κ)) := fun s =>
  inferInstanceAs (Decidable (s.shared.order.status = .approved))

/-- A step leaves more of some product on hand than it found. -/
def CreditsStock (e : PoEvent) : Prop :=
  ∃ item, s.shared.domain.onHand item < ((poCalls κ).machine.step s e).1.shared.domain.onHand item

/-- An order enters stock once, while approved, and never comes back to be received. -/
structure EntersOnce (s : PoSystem κ) (events : List PoEvent) : Prop where
  once : (poCalls κ).machine.AtMostOnce CreditsStock s events
  approved : (poCalls κ).machine.Along (fun t e => CreditsStock t e → PoApproved t) s events
  closed : (poCalls κ).machine.After PoReceived
    (fun t e => ¬ PoApproved ((poCalls κ).machine.step t e).1) s events

/-- A receive with units to bring in comes to write on an order that is not approved by now,
and the stock takes them. -/
def outOfTurn (r : PoRecord κ) (view : PoView) (draw : PoDraw) : Bool :=
  r.order.status ≠ .approved && view.brings && takesStock draw view r

/-- A transition to approved finds the status it moves away from. -/
def approves (r : PoRecord κ) (view : PoView) (draw : PoDraw) : Bool :=
  match view with
  | .transition current newStatus =>
    newStatus = .approved && draw.failure.isNone && r.order.status = current
  | .receive _ | .receiveWithLines _ _ => false

/-- No receive brings in units but on an approved order, and no transition approves an order
that has been received. -/
structure ReceivedInTurn (s : PoSystem κ) (events : List PoEvent) : Prop where
  receipts : (poCalls κ).machine.Along
    (Calls.AtWrite (fun r view draw => outOfTurn r view draw = false)) s events
  approvals : (poCalls κ).machine.After PoReceived
    (Calls.AtWrite (fun r view draw => approves r view draw = false)) s events

variable {r : PoRecord κ} {view : PoView} {draw : PoDraw}

theorem poCalls_write_error {e : PoError}
    (h : view.write draw r = .error e) : ((poCalls κ).write draw view r).1 = r := by
  simp [poCalls, h]

theorem poCalls_write_ok {next : PoRecord κ}
    (h : view.write draw r = .ok next) : ((poCalls κ).write draw view r).1 = next := by
  simp [poCalls, h]

theorem transition_written (draw : PoDraw) (current newStatus : PoStatus) (r : PoRecord κ) :
    ((poCalls κ).write draw (.transition current newStatus) r).1.domain = r.domain ∧
      ((poCalls κ).write draw (.transition current newStatus) r).1.lines = r.lines ∧
      ((poCalls κ).write draw (.transition current newStatus) r).1.order.status =
        if draw.failure.isNone ∧ r.order.status = current then newStatus
        else r.order.status := by
  cases hfailure : draw.failure with
  | some message => simp [poCalls, PoView.write, writeTransition, hfailure]
  | none =>
    by_cases hcurrent : r.order.status = current
    · simp [poCalls, PoView.write, writeTransition, hfailure, hcurrent]
    · simp [poCalls, PoView.write, writeTransition, hfailure, hcurrent]

theorem receive_cases (draw : PoDraw) (r : PoRecord κ) (hreceives : view.receives = true) :
    (takesStock draw view r = false ∧ ((poCalls κ).write draw view r).1 = r) ∨
      (takesStock draw view r = true ∧
        ((poCalls κ).write draw view r).1.order.status = .received ∧
        SameQuantities r ((poCalls κ).write draw view r).1 ∧
        creditAll draw.now view.credits r.domain =
          .ok ((poCalls κ).write draw view r).1.domain) := by
  cases hwrite : view.write draw r with
  | ok next =>
    right
    rw [poCalls_write_ok hwrite]
    exact receive_written hreceives hwrite
  | error e =>
    left
    refine ⟨?_, poCalls_write_error hwrite⟩
    cases htakes : takesStock draw view r with
    | false => rfl
    | true =>
      obtain ⟨next, hnext⟩ := receive_taken hreceives htakes
      rw [hwrite] at hnext
      cases hnext

def PoSane (r : PoRecord κ) : Prop := ∀ row ∈ r.lines.rows, 0 ≤ row.qty

def PoSeen (_ : PoRecord κ) (view : PoView) : Prop := ∀ c ∈ view.credits, 0 ≤ c.2

theorem lineCredits_nonneg {lines : List PurchaseOrderLine} (h : ∀ line ∈ lines, 0 ≤ line.qty) :
    ∀ c ∈ lineCredits lines, 0 ≤ c.2 := by
  induction lines with
  | nil => simp [lineCredits]
  | cons line rest ih =>
    have hrest := ih (fun row hrow => h row (List.mem_cons_of_mem _ hrow))
    unfold lineCredits
    split
    · exact hrest
    · exact List.forall_mem_cons.mpr ⟨h line (List.mem_cons_self ..), hrest⟩

theorem inputCredits_nonneg (inputs : List ReceivePoLineInput) (lines : List PurchaseOrderLine) :
    ∀ c ∈ inputCredits inputs lines, 0 ≤ c.2 := by
  induction lines with
  | nil => simp [inputCredits]
  | cons line rest ih =>
    unfold inputCredits
    split
    · rename_i hpositive
      exact List.forall_mem_cons.mpr ⟨by simp only; omega, ih⟩
    · exact ih

theorem poSeen_read {call : PoCall} (hr : PoSane r)
    (hread : (poCalls κ).read call r = .inr view) : PoSeen r view := by
  have hordered : ∀ line ∈ r.orderedLines, 0 ≤ line.qty := by
    intro line hline
    rw [PoRecord.orderedLines, List.mem_insertionSort] at hline
    exact hr line hline
  have hcall : call.read r = .ok view := by
    cases hc : call.read r with
    | error e => simp [poCalls, hc] at hread
    | ok found => simpa [poCalls, hc] using hread
  cases view with
  | transition current newStatus => simp [PoSeen, PoView.credits]
  | receiveWithLines lines inputs => exact inputCredits_nonneg inputs lines
  | receive lines =>
    cases call with
    | updatePoStatus id newStatus =>
      simp only [PoCall.read, invalidPo] at hcall
      split at hcall
      · cases hcall
      · split at hcall
        · cases hcall
        · cases hcall
    | receivePurchaseOrder id =>
      simp only [PoCall.read, onlyApproved, invalidPo] at hcall
      split at hcall
      · split at hcall
        · cases hcall
          exact lineCredits_nonneg hordered
        · cases hcall
      · cases hcall
    | receivePurchaseOrderWithLines id inputs =>
      simp only [PoCall.read, onlyApproved, invalidPo] at hcall
      split at hcall
      · split at hcall
        · cases hcall
        · cases hcall
      · cases hcall

theorem poSane_write (draw : PoDraw) (view : PoView) (hr : PoSane r) :
    PoSane ((poCalls κ).write draw view r).1 := by
  cases hreceives : view.receives with
  | false =>
    cases view with
    | transition current newStatus =>
      unfold PoSane
      rw [(transition_written draw current newStatus r).2.1]
      exact hr
    | receive lines => cases hreceives
    | receiveWithLines lines inputs => cases hreceives
  | true =>
    rcases receive_cases draw r hreceives with ⟨_, hsame⟩ | ⟨_, _, hsame, _⟩
    · rw [hsame]
      exact hr
    · intro row hrow
      obtain ⟨old, hold, hqty⟩ := hsame row hrow
      rw [hqty]
      exact hr old hold

theorem poCalls_sane : (poCalls κ).Disciplined PoSane PoSeen (fun _ _ _ => True) where
  found := fun _ _ _ hr hread => poSeen_read hr hread
  kept := fun _ view draw hr _ _ => poSane_write draw view hr
  stable := fun _ _ _ _ _ _ _ hother => hother

theorem write_credits_iff (draw : PoDraw) (hview : PoSeen r view) :
    (∃ item, r.domain.onHand item < ((poCalls κ).write draw view r).1.domain.onHand item) ↔
      view.brings = true ∧ takesStock draw view r = true := by
  cases hreceives : view.receives with
  | false =>
    cases view with
    | transition current newStatus =>
      rw [(transition_written draw current newStatus r).1]
      simp [PoView.brings, PoView.credits]
    | receive lines => cases hreceives
    | receiveWithLines lines inputs => cases hreceives
  | true =>
    rcases receive_cases draw r hreceives with ⟨hrefused, hsame⟩ | ⟨htaken, _, _, hcredit⟩
    · rw [hsame, hrefused]
      simp
    · rw [(creditAll_raised hview hcredit).gained, htaken]
      simp [PoView.brings]

def OnlyRaises (r : PoRecord κ) (view : PoView) (draw : PoDraw) : Prop :=
  ∀ item, r.domain.onHand item ≤ ((poCalls κ).write draw view r).1.domain.onHand item

theorem onlyRaises_of_seen (draw : PoDraw) (hview : PoSeen r view) : OnlyRaises r view draw := by
  intro item
  cases hreceives : view.receives with
  | false =>
    cases view with
    | transition current newStatus => rw [(transition_written draw current newStatus r).1]
    | receive lines => cases hreceives
    | receiveWithLines lines inputs => cases hreceives
  | true =>
    rcases receive_cases draw r hreceives with ⟨-, hsame⟩ | ⟨-, -, -, hcredit⟩
    · rw [hsame]
    · exact (creditAll_raised hview hcredit).mono item

theorem write_approves_iff (draw : PoDraw) (view : PoView) (hr : r.order.status ≠ .approved) :
    ((poCalls κ).write draw view r).1.order.status ≠ .approved ↔ approves r view draw = false := by
  cases hreceives : view.receives with
  | false =>
    cases view with
    | transition current newStatus =>
      rw [(transition_written draw current newStatus r).2.2]
      simp only [approves, Bool.and_eq_false_iff, decide_eq_false_iff_not]
      by_cases hlands : draw.failure.isNone ∧ r.order.status = current
      · simp [hlands]
      · rw [if_neg hlands]
        rw [not_and_or] at hlands
        simp only [hr, ne_eq, not_false_eq_true, true_iff]
        rcases hlands with hfailure | hcurrent
        · exact .inl (.inr (by simpa [Option.isSome_iff_ne_none] using hfailure))
        · exact .inr hcurrent
    | receive lines => cases hreceives
    | receiveWithLines lines inputs => cases hreceives
  | true =>
    have hfalse : approves r view draw = false := by
      cases view with
      | transition current newStatus => cases hreceives
      | receive lines => rfl
      | receiveWithLines lines inputs => rfl
    refine iff_of_true ?_ hfalse
    rcases receive_cases draw r hreceives with ⟨_, hsame⟩ | ⟨_, hreceived, _⟩
    · rw [hsame]
      exact hr
    · simp [hreceived]

theorem step_read (s : PoSystem κ) (session : Nat) (call : PoCall) :
    ((poCalls κ).machine.step s (.read session call)).1.shared = s.shared :=
  Calls.shared_read (poCalls κ) s session call

theorem received_of_credits (s : PoSystem κ) (e : PoEvent) (h : CreditsStock s e) :
    PoReceived ((poCalls κ).machine.step s e).1 := by
  obtain ⟨item, hitem⟩ := h
  cases e with
  | read session call =>
    rw [step_read] at hitem
    omega
  | write session draw =>
    cases hheld : s.held session with
    | none =>
      rw [Calls.shared_write_none (poCalls κ) draw hheld] at hitem
      omega
    | some view =>
      unfold PoReceived
      rw [Calls.shared_write_some (poCalls κ) draw hheld] at hitem ⊢
      simp only at hitem ⊢
      cases hreceives : view.receives with
      | true =>
        rcases receive_cases draw s.shared hreceives with ⟨_, hsame⟩ | ⟨_, hreceived, _⟩
        · rw [hsame] at hitem
          omega
        · exact hreceived
      | false =>
        cases view with
        | transition current newStatus =>
          rw [(transition_written draw current newStatus s.shared).1] at hitem
          omega
        | receive lines => cases hreceives
        | receiveWithLines lines inputs => cases hreceives

theorem approved_entered_iff (s : PoSystem κ) (e : PoEvent) (hs : ¬ PoApproved s) :
    ¬ PoApproved ((poCalls κ).machine.step s e).1 ↔
      Calls.AtWrite (fun r view draw => approves r view draw = false) s e := by
  cases e with
  | read session call =>
    refine iff_of_true ?_ trivial
    unfold PoApproved
    rw [step_read]
    exact hs
  | write session draw =>
    cases hheld : s.held session with
    | none =>
      rw [Calls.shared_write_none (poCalls κ) draw hheld]
      simpa [Calls.AtWrite, hheld] using hs
    | some view =>
      unfold PoApproved
      rw [Calls.shared_write_some (poCalls κ) draw hheld]
      simpa [Calls.AtWrite, hheld] using write_approves_iff draw view hs

theorem along_approved_iff (hr : PoSane r) (events : List PoEvent) :
    (poCalls κ).machine.Along (fun t e => CreditsStock t e → PoApproved t) (.start r) events ↔
      (poCalls κ).machine.Along
        (Calls.AtWrite (fun r view draw => outOfTurn r view draw = false)) (.start r) events := by
  apply (poCalls_sane.conditional _).along_iff
  · rintro s session call _ ⟨item, hitem⟩
    rw [step_read] at hitem
    omega
  · rintro s session draw _ hheld ⟨item, hitem⟩
    rw [Calls.shared_write_none (poCalls κ) draw hheld] at hitem
    omega
  · intro s session view draw hs hheld
    have hcredits := write_credits_iff draw (hs.known session view hheld)
    simp only [CreditsStock, Calls.shared_write_some (poCalls κ) draw hheld, hcredits,
      PoApproved, outOfTurn]
    by_cases happroved : s.shared.order.status = .approved
    · simp [happroved]
    · simp only [happroved, ne_eq, not_false_eq_true, decide_true, Bool.true_and, imp_false,
        not_and, Bool.not_eq_true, Bool.and_eq_false_iff]
      cases view.brings with
      | true => simp
      | false => simp
  · exact hr

theorem entersOnce_iff (hr : PoSane r) (events : List PoEvent) :
    EntersOnce (.start r : PoSystem κ) events ↔ ReceivedInTurn (.start r) events := by
  have hdisjoint : ∀ s : PoSystem κ, PoReceived s → ¬ PoApproved s := by
    intro s hreceived happroved
    rw [PoApproved, hreceived] at happroved
    cases happroved
  have hclosed := Machine.after_away_iff (m := (poCalls κ).machine) hdisjoint approved_entered_iff
    (.start r) events
  have happroved := along_approved_iff hr events
  constructor
  · intro h
    exact ⟨happroved.mp h.approved, hclosed.mp h.closed⟩
  · intro h
    have hneeds := happroved.mpr h.receipts
    have hnever := hclosed.mpr h.approvals
    exact ⟨Machine.atMostOnce_of_closing hdisjoint received_of_credits hneeds hnever, hneeds,
      hnever⟩

variable {lines : List CreatePoLineInput}

theorem poSubtotal_nonneg {subtotal total : Int}
    (h : poSubtotal subtotal lines = .ok total) : ∀ line ∈ lines, 0 ≤ line.qty := by
  induction lines generalizing subtotal with
  | nil => simp
  | cons line rest ih =>
    unfold poSubtotal invalidPo at h
    split at h
    · cases h
    · rename_i hqty
      split at h
      · cases h
      · cases hline : checkedI64 (line.qty * line.unitCostMinor) with
        | none => simp [hline] at h
        | some lineTotal =>
          cases hsum : checkedI64 (subtotal + lineTotal) with
          | none => simp [hline, hsum] at h
          | some next =>
            simp only [hline, hsum] at h
            exact List.forall_mem_cons.mpr ⟨by omega, ih h⟩

theorem insertPoLines_nonneg {n : Nat} {t u : Table String PurchaseOrderLine PurchaseOrderLine.id}
    (hlines : ∀ line ∈ lines, 0 ≤ line.qty) (ht : ∀ row ∈ t.rows, 0 ≤ row.qty)
    (h : insertPoLines draw n lines t = .ok u) : ∀ row ∈ u.rows, 0 ≤ row.qty := by
  induction lines generalizing n t with
  | nil =>
    cases h
    exact ht
  | cons line rest ih =>
    unfold insertPoLines at h
    cases hline : checkedI64 (line.qty * line.unitCostMinor) with
    | none => simp [hline, invalidPo] at h
    | some lineTotal =>
      cases hinsert : t.insert? ⟨draw.lineId n, line.sku, line.productName, line.qty,
          line.unitCostMinor, lineTotal, 0, 0⟩ with
      | none => simp [hline, hinsert] at h
      | some next =>
        simp only [hline, hinsert] at h
        apply ih (fun row hrow => hlines row (List.mem_cons_of_mem _ hrow)) _ h
        rw [Table.insert?_rows hinsert]
        intro row hrow
        rcases List.mem_append.mp hrow with hold | hnew
        · exact ht row hold
        · rw [List.mem_singleton.mp hnew]
          exact hlines line (List.mem_cons_self ..)

theorem poSane_of_create {poNumber : String} {d : DomainTables κ}
    (h : createPurchaseOrder draw poNumber lines d = .ok r) : PoSane r := by
  unfold createPurchaseOrder invalidPo at h
  split at h
  · cases h
  · cases hsum : poSubtotal 0 lines with
    | error e => simp [hsum] at h
    | ok subtotal =>
      simp only [hsum] at h
      split at h
      · cases h
      · cases hrows : insertPoLines draw 0 lines Table.empty with
        | error e => simp [hrows] at h
        | ok rows =>
          simp only [hrows, Except.ok.injEq] at h
          rw [← h]
          exact insertPoLines_nonneg (poSubtotal_nonneg hsum) (by simp [Table.empty]) hrows

/-- Over every interleaving of the steps of any receives and transitions on an order, it
enters stock once, while approved, and never comes back to be received, exactly where no
receipt is out of turn and no transition approves an order that has been received. -/
theorem purchase_order_enters_once_iff (draw : PoDraw) (poNumber : String)
    (lines : List CreatePoLineInput) (d : DomainTables κ) (r : PoRecord κ)
    (h : createPurchaseOrder draw poNumber lines d = .ok r) (events : List PoEvent) :
    EntersOnce (.start r : PoSystem κ) events ↔ ReceivedInTurn (.start r) events :=
  entersOnce_iff (poSane_of_create h) events

/-- No interleaving of receives and transitions, received twice or not, lowers a stock. -/
theorem purchase_order_only_raises (draw : PoDraw) (poNumber : String)
    (lines : List CreatePoLineInput) (d : DomainTables κ) (r : PoRecord κ)
    (h : createPurchaseOrder draw poNumber lines d = .ok r) (events : List PoEvent) :
    (poCalls κ).machine.Along (Calls.AtWrite OnlyRaises) (.start r) events :=
  poCalls_sane.along_always (fun _ _ draw _ => onlyRaises_of_seen draw) (poSane_of_create h) events

def poDraw (now : String) : PoDraw := ⟨"po-1", fun n => "line-" ++ toString n, now, none⟩

def sampleOrder : Except PoError (PoRecord Unit) :=
  createPurchaseOrder (poDraw "2026-01-01") "PO-1" [⟨"SKU-1", "Kopi", 5, 900⟩] stockedTables

def approveOrder : List PoEvent :=
  [.read 0 (.updatePoStatus "po-1" "approved"), .write 0 (poDraw "2026-01-02")]

def orderlyReceipt : List PoEvent :=
  approveOrder ++
    [.read 0 (.receivePurchaseOrderWithLines "po-1" [⟨"line-0", 4, 1⟩]),
      .write 0 (poDraw "2026-01-03"), .read 1 (.receivePurchaseOrder "po-1"),
      .write 1 (poDraw "2026-01-04")]

/-- Two sessions read the approved order before either receives it. -/
def crossedReceipts : List PoEvent :=
  approveOrder ++
    [.read 0 (.receivePurchaseOrder "po-1"), .read 1 (.receivePurchaseOrder "po-1"),
      .write 0 (poDraw "2026-01-03"), .write 1 (poDraw "2026-01-04")]

theorem crossed_receipts_raise : ∃ r, sampleOrder = .ok r ∧
    (poCalls Unit).machine.Along (Calls.AtWrite OnlyRaises) (.start r) crossedReceipts := by
  have hcreate : sampleOrder = .ok _ := rfl
  exact ⟨_, hcreate, purchase_order_only_raises _ _ _ _ _ hcreate crossedReceipts⟩

def reopenedOrder : List PoEvent :=
  approveOrder ++ [.read 0 (.receivePurchaseOrder "po-1"), .write 0 (poDraw "2026-01-03")] ++
    approveOrder

theorem orderly_receipt_enters_once :
    ∃ r, sampleOrder = .ok r ∧ EntersOnce (.start r : PoSystem Unit) orderlyReceipt :=
  ⟨_, rfl, (purchase_order_enters_once_iff (poDraw "2026-01-01") "PO-1"
    [⟨"SKU-1", "Kopi", 5, 900⟩] stockedTables _ rfl orderlyReceipt).mpr
      ⟨by decide +kernel, by decide +kernel⟩⟩

theorem crossed_receipts_enter_twice :
    ∃ r, sampleOrder = .ok r ∧ ¬ EntersOnce (.start r : PoSystem Unit) crossedReceipts ∧
      ¬ EntersOnce (.start r : PoSystem Unit) reopenedOrder := by
  have hcreate : sampleOrder = .ok _ := rfl
  have hiff := entersOnce_iff (poSane_of_create hcreate)
  refine ⟨_, hcreate, ?_, ?_⟩
  · rw [hiff]
    rintro ⟨hreceipts, _⟩
    revert hreceipts
    decide +kernel
  · rw [hiff]
    rintro ⟨_, happrovals⟩
    revert happrovals
    decide +kernel

end OzPos
