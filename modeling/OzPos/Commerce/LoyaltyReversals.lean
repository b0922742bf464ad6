import OzPos.Commerce.LoyaltyAccounts
import OzPos.Library.Rounding
import Mathlib.Algebra.BigOperators.Ring.List
import Mathlib.Algebra.Order.BigOperators.Group.List
import Mathlib.Tactic.Ring

namespace OzPos

namespace LoyaltyEvent

def txnId : LoyaltyEvent → Option String
  | .earn draw _ _ _ | .earnOnCompletion draw _ _ _ | .redeem draw _ _ _ => some draw.txnId
  | .reverse _ _ refundId _ _ => some ("loyalty-reversal-" ++ refundId)
  | .openAccount _ _ | .writeSale _ => none

def earnsFor : LoyaltyEvent → Option String
  | .earn _ _ saleId _ | .earnOnCompletion _ _ saleId _ => some saleId
  | .openAccount _ _ | .redeem _ _ _ _ | .reverse _ _ _ _ _ | .writeSale _ => none

def reverses : LoyaltyEvent → Option String
  | .reverse _ saleId _ _ _ => some saleId
  | .openAccount _ _ | .earn _ _ _ _ | .earnOnCompletion _ _ _ _ | .redeem _ _ _ _
  | .writeSale _ => none

end LoyaltyEvent

def refundTotals (saleId : String) (events : List LoyaltyEvent) : List Int :=
  events.filterMap (fun e =>
    match e with
    | .reverse _ id _ refundTotal _ => if id = saleId then some refundTotal else none
    | _ => none)

namespace LoyaltyDb

def Books (db next : LoyaltyDb) (P : LoyaltyTransaction → Prop) : Prop :=
  next.transactions.rows = db.transactions.rows ∨
    ∃ row, P row ∧ next.transactions.rows = db.transactions.rows ++ [row]

theorem ensureAccount_frame (draw : LoyaltyDraw) (customerId : String) (db : LoyaltyDb) :
    (db.ensureAccount draw customerId).transactions = db.transactions ∧
      (db.ensureAccount draw customerId).sales = db.sales := by
  unfold ensureAccount
  split <;> exact ⟨rfl, rfl⟩

theorem sales_projectPoints (customerId : String) (db : LoyaltyDb) :
    (db.projectPoints customerId).sales = db.sales := by
  unfold projectPoints
  split <;> rfl

theorem inserted_frame {db stored : LoyaltyDb} {row : LoyaltyTransaction}
    (h : db.insertTransaction row = .ok stored) (id now customerId : String)
    (change : LoyaltyAccount → Int × Int × Option String) :
    ((stored.updateAccount id now change).projectPoints customerId).transactions.rows =
        db.transactions.rows ++ [row] ∧
      ((stored.updateAccount id now change).projectPoints customerId).sales = db.sales := by
  obtain ⟨hstored, hrows, _⟩ := insertTransaction_ok h
  constructor
  · rw [(transactions_projectPoints _ _).1]
    exact hrows
  · rw [sales_projectPoints]
    change stored.sales = db.sales
    rw [hstored]

variable (db : LoyaltyDb)

theorem earn_books (draw : LoyaltyDraw) (customerId saleId : String) (totalMinor : Int) :
    (db.earnPointsWithConn draw customerId saleId totalMinor).1.sales = db.sales ∧
      Books db (db.earnPointsWithConn draw customerId saleId totalMinor).1 (fun row =>
        row.id = draw.txnId ∧ row.txnType = .earn ∧ row.saleId = some saleId) := by
  obtain ⟨hrows, hsales⟩ := ensureAccount_frame draw customerId db
  have hopened : Books db (db.ensureAccount draw customerId) (fun row =>
      row.id = draw.txnId ∧ row.txnType = .earn ∧ row.saleId = some saleId) :=
    .inl (congrArg Table.rows hrows)
  unfold earnPointsWithConn
  split
  · exact ⟨rfl, .inl rfl⟩
  · simp only
    split
    · exact ⟨hsales, hopened⟩
    · split
      · exact ⟨hsales, hopened⟩
      · split
        · exact ⟨hsales, hopened⟩
        · split
          · split
            · exact ⟨hsales, hopened⟩
            · exact ⟨hsales, hopened⟩
          · rename_i stored hinsert
            obtain ⟨hall, hsame⟩ := inserted_frame hinsert _ draw.now customerId _
            rw [hrows] at hall
            exact ⟨hsame.trans hsales, .inr ⟨_, And.intro rfl (And.intro rfl rfl), hall⟩⟩

theorem redeem_books (draw : LoyaltyDraw) (customerId : String) (points : Int) (saleId : String) :
    (db.redeemPoints draw customerId points saleId).1.sales = db.sales ∧
      Books db (db.redeemPoints draw customerId points saleId).1 (fun row =>
        row.id = draw.txnId ∧ row.txnType = .redeem) := by
  unfold redeemPoints
  split
  · exact ⟨rfl, .inl rfl⟩
  · split
    · exact ⟨rfl, .inl rfl⟩
    · split
      · exact ⟨rfl, .inl rfl⟩
      · split
        · exact ⟨rfl, .inl rfl⟩
        · split
          · exact ⟨rfl, .inl rfl⟩
          · split
            · exact ⟨rfl, .inl rfl⟩
            · unfold writeRedemption
              simp only
              split
              · split
                · exact ⟨rfl, .inl rfl⟩
                · exact ⟨rfl, .inl rfl⟩
              · rename_i stored hinsert
                split
                · exact ⟨rfl, .inl rfl⟩
                · split
                  · obtain ⟨hall, hsame⟩ := inserted_frame hinsert _ draw.now customerId _
                    exact ⟨hsame, .inr ⟨_, ⟨rfl, rfl⟩, hall⟩⟩
                  · exact ⟨rfl, .inl rfl⟩

theorem reverse_books (now saleId refundId : String) (refundTotal saleTotal : Int) :
    (db.reverseLoyaltyOnRefund now saleId refundId refundTotal saleTotal).1.sales = db.sales ∧
      Books db (db.reverseLoyaltyOnRefund now saleId refundId refundTotal saleTotal).1 (fun row =>
        row.id = "loyalty-reversal-" ++ refundId ∧ row.txnType = .refundReversal ∧
          row.saleId = some saleId) := by
  unfold reverseLoyaltyOnRefund
  split
  · exact ⟨rfl, .inl rfl⟩
  · simp only
    split
    · exact ⟨rfl, .inl rfl⟩
    · split
      · exact ⟨rfl, .inl rfl⟩
      · rename_i stored hinsert
        obtain ⟨hstored, hrows, _⟩ := insertTransaction_ok hinsert
        have hsales : stored.sales = db.sales := by rw [hstored]
        split
        · exact ⟨hsales, .inr ⟨_, ⟨rfl, rfl, rfl⟩, hrows⟩⟩
        · rename_i account _
          obtain ⟨hall, hsame⟩ := inserted_frame hinsert _ now account.customerId _
          exact ⟨hsame, .inr ⟨_, ⟨rfl, rfl, rfl⟩, hall⟩⟩

theorem alreadyReversed_eq (saleId : String) (db : LoyaltyDb) : db.alreadyReversed saleId =
    ((rowsFor db saleId .refundReversal).map (fun t => -t.points)).sum := rfl

theorem rowsFor_append {db next : LoyaltyDb} {row : LoyaltyTransaction}
    (h : next.transactions.rows = db.transactions.rows ++ [row]) (saleId : String)
    (txnType : LoyaltyTxnType) : rowsFor next saleId txnType = rowsFor db saleId txnType ++
      if row.saleId = some saleId ∧ row.txnType = txnType then [row] else [] := by
  unfold rowsFor
  rw [h, List.filter_append]
  congr 1
  by_cases hrow : row.saleId = some saleId ∧ row.txnType = txnType
  · simp [hrow]
  · rw [if_neg hrow, List.filter_cons_of_neg]
    · rfl
    · simpa using hrow

theorem insertTransaction_of_new {db : LoyaltyDb} {row : LoyaltyTransaction} {saleId : String}
    (htype : row.txnType = .refundReversal) (hid : db.transactions.find? row.id = none)
    (haccount : (db.accounts.find? row.accountId).isSome) (hrow : row.saleId = some saleId)
    (hsale : (db.sales.find? saleId).isSome) : ∃ stored, db.insertTransaction row = .ok stored := by
  have hinsert : (db.transactions.insert? row).isSome := by
    rw [Table.insert?_isSome_iff]
    exact hid
  obtain ⟨transactions, ht⟩ := Option.isSome_iff_exists.mp hinsert
  refine ⟨{ db with transactions }, ?_⟩
  unfold insertTransaction
  rw [if_neg (by simp [htype]), ht]
  simp [haccount, hrow, hsale]

theorem reverse_takes {db : LoyaltyDb} {award : LoyaltyTransaction} {saleId : String}
    (haward : db.awardFor saleId = some award)
    (haccount : (db.accounts.find? award.accountId).isSome)
    (hsale : (db.sales.find? saleId).isSome) (now refundId : String)
    (hfresh : db.transactions.find? ("loyalty-reversal-" ++ refundId) = none)
    (refundTotal saleTotal : Int) :
    (db.reverseLoyaltyOnRefund now saleId refundId refundTotal saleTotal).1.alreadyReversed saleId =
      db.alreadyReversed saleId +
        reversalDeduct award (db.alreadyReversed saleId) refundTotal saleTotal := by
  unfold reverseLoyaltyOnRefund
  rw [haward]
  dsimp only
  generalize hdeduct : reversalDeduct award (db.alreadyReversed saleId) refundTotal saleTotal = deduct
  split
  · rename_i hnone
    have hnonneg : 0 ≤ deduct := by
      rw [← hdeduct]
      exact le_max_right _ _
    rw [show deduct = 0 by omega, Int.add_zero]
  · obtain ⟨stored, hinsert⟩ := @insertTransaction_of_new db
      (reversalRow now saleId refundId award.accountId deduct) saleId rfl hfresh haccount rfl hsale
    rw [hinsert]
    dsimp only
    have htakes : ∀ next : LoyaltyDb, next.transactions.rows = db.transactions.rows ++
        [reversalRow now saleId refundId award.accountId deduct] →
        next.alreadyReversed saleId = db.alreadyReversed saleId + deduct := by
      intro next hnext
      rw [alreadyReversed_eq, rowsFor_append hnext, if_pos ⟨rfl, rfl⟩, List.map_append,
        List.sum_append, ← alreadyReversed_eq, List.map_singleton, List.sum_singleton]
      exact congrArg _ (Int.neg_neg deduct)
    split
    · exact htakes _ (insertTransaction_ok hinsert).2.1
    · rename_i account _
      exact htakes _ (inserted_frame hinsert _ now account.customerId _).1

end LoyaltyDb

theorem loyaltyStep_books (db : LoyaltyDb) (e : LoyaltyEvent) :
    (∀ saleId, (db.sales.find? saleId).isSome →
      ((loyaltyMachine.step db e).1.sales.find? saleId).isSome) ∧
    LoyaltyDb.Books db (loyaltyMachine.step db e).1 (fun row => e.txnId = some row.id ∧
      (row.txnType = .earn → e.earnsFor = row.saleId) ∧
      (row.txnType = .refundReversal → e.reverses = row.saleId)) := by
  have hkind : ∀ next : LoyaltyDb, ∀ P Q : LoyaltyTransaction → Prop, (∀ row, P row → Q row) →
      next.sales = db.sales ∧ LoyaltyDb.Books db next P →
      (∀ saleId, (db.sales.find? saleId).isSome → (next.sales.find? saleId).isSome) ∧
        LoyaltyDb.Books db next Q := by
    intro next P Q himp hnext
    obtain ⟨hsales, hbooks⟩ := hnext
    refine ⟨fun saleId hsale => by rw [hsales]; exact hsale, ?_⟩
    rcases hbooks with hsame | ⟨row, hrow, happended⟩
    · exact .inl hsame
    · exact .inr ⟨row, himp row hrow, happended⟩
  cases e with
  | openAccount draw customerId =>
    apply hkind _ (fun _ => False) _ (fun _ h => h.elim)
    obtain ⟨hrows, hsales⟩ := LoyaltyDb.ensureAccount_frame draw customerId db
    simp only [loyaltyMachine, LoyaltyDb.getOrCreateLoyaltyAccount]
    split
    · exact ⟨rfl, .inl rfl⟩
    · split <;> exact ⟨hsales, .inl (congrArg Table.rows hrows)⟩
  | earn draw customerId saleId totalMinor =>
    have hearn := LoyaltyDb.earn_books db draw customerId saleId totalMinor
    simp only [loyaltyMachine, LoyaltyDb.earnPoints]
    split
    · rename_i next t h
      rw [h] at hearn
      apply hkind _ _ _ _ hearn
      intro row hrow
      simp [LoyaltyEvent.txnId, LoyaltyEvent.earnsFor, hrow]
    · exact ⟨fun _ h => h, .inl rfl⟩
    · exact ⟨fun _ h => h, .inl rfl⟩
  | earnOnCompletion draw customerId saleId totalMinor =>
    apply hkind _ _ _ _ (LoyaltyDb.earn_books db draw customerId saleId totalMinor)
    intro row hrow
    simp [LoyaltyEvent.txnId, LoyaltyEvent.earnsFor, hrow]
  | redeem draw customerId points saleId =>
    apply hkind _ _ _ _ (LoyaltyDb.redeem_books db draw customerId points saleId)
    intro row hrow
    simp [LoyaltyEvent.txnId, hrow]
  | reverse now saleId refundId refundTotal saleTotal =>
    apply hkind _ _ _ _ (LoyaltyDb.reverse_books db now saleId refundId refundTotal saleTotal)
    intro row hrow
    simp [LoyaltyEvent.txnId, LoyaltyEvent.reverses, hrow]
  | writeSale sale =>
    refine ⟨?_, .inl rfl⟩
    intro saleId hsale
    change ((db.sales.upsert sale).find? saleId).isSome
    rw [Table.find?_upsert]
    split
    · rfl
    · exact hsale

/-- A sale with an award none of which has been reversed. -/
structure Awarded (db : LoyaltyDb) (saleId : String) (award : LoyaltyTransaction) : Prop where
  sound : LoyaltySound db
  booked : db.awardFor saleId = some award
  earned : 0 < award.points ∧ award.points ≤ i64Max
  sale : (db.sales.find? saleId).isSome
  unreversed : rowsFor db saleId .refundReversal = []

/-- Refunds of a sale among whatever else happens: ids are drawn anew, the sale earns no more, and
its refunds are within its total. -/
structure RefundsFollow (db : LoyaltyDb) (saleId : String) (total : Int)
    (events : List LoyaltyEvent) : Prop where
  drawn : (events.filterMap LoyaltyEvent.txnId).Nodup
  fresh : ∀ id ∈ events.filterMap LoyaltyEvent.txnId, db.transactions.find? id = none
  earned : ∀ e ∈ events, e.earnsFor ≠ some saleId
  ofSale : ∀ e ∈ events, ∀ now refundId refundTotal saleTotal,
    e = .reverse now saleId refundId refundTotal saleTotal → 0 ≤ refundTotal ∧ saleTotal = total
  within : (refundTotals saleId events).sum ≤ total

def reversalShares (award : LoyaltyTransaction) (total : Int) (refunds : List Int) : Int :=
  (refunds.map (fun refundTotal => LoyaltyDb.proportionalPoints award.points refundTotal total)).sum

theorem asI64_of_fits {n : Int} (h0 : 0 ≤ n) (hle : n ≤ i64Max) : asI64 n = n := by
  unfold i64Max at hle
  unfold asI64 i64Min
  omega

variable {total refundTotal : Int}

theorem proportionalPoints_eq {earned : Int} (hearned : 0 < earned)
    (hfits : earned ≤ i64Max) (h0 : 0 ≤ refundTotal) (hle : refundTotal ≤ total) :
    LoyaltyDb.proportionalPoints earned refundTotal total =
      if 0 < total then Rounding.quot total (earned * refundTotal * 2) (total * 2) else 0 := by
  unfold LoyaltyDb.proportionalPoints
  by_cases htotal : 0 < total
  · rw [if_pos htotal]
    by_cases hrefund : 0 < refundTotal
    · have hprod : 0 < earned * refundTotal := Int.mul_pos hearned hrefund
      have hcap : earned * refundTotal ≤ earned * total :=
        Int.mul_le_mul_of_nonneg_left hle hearned.le
      have hquot : Rounding.quot total (earned * refundTotal * 2) (total * 2) ≤ earned := by
        apply Rounding.quot_le (by omega) (by omega)
        rw [Int.mul_comm (total * 2), ← Int.mul_assoc]
        omega
      have hnonneg := Rounding.quot_nonneg (by omega : 0 ≤ earned * refundTotal * 2 + total)
        (by omega : 0 ≤ total * 2)
      rw [if_pos ⟨htotal, hrefund⟩, Int.tdiv_eq_ediv_of_nonneg (by omega)]
      exact asI64_of_fits hnonneg (hquot.trans hfits)
    · obtain rfl : refundTotal = 0 := by omega
      rw [if_neg (fun h => hrefund h.2), Int.mul_zero, Int.zero_mul, Rounding.quot,
        Int.zero_add, Int.ediv_eq_zero_of_lt htotal.le (by omega)]
  · rw [if_neg htotal, if_neg (fun h => htotal h.1)]

theorem proportionalPoints_nonneg {earned : Int} (hearned : 0 < earned)
    (hfits : earned ≤ i64Max) (h0 : 0 ≤ refundTotal) (hle : refundTotal ≤ total) :
    0 ≤ LoyaltyDb.proportionalPoints earned refundTotal total := by
  rw [proportionalPoints_eq hearned hfits h0 hle]
  split
  · have hprod : 0 ≤ earned * refundTotal := Int.mul_nonneg hearned.le h0
    exact Rounding.quot_nonneg (by omega) (by omega)
  · exact Int.le_refl 0

theorem awardFor_eq (saleId : String) (db : LoyaltyDb) : db.awardFor saleId =
    ((rowsFor db saleId .earn).insertionSort (fun a b => a.createdAt ≤ b.createdAt)).head? := rfl

variable {saleId : String} {db : LoyaltyDb} {e : LoyaltyEvent}

theorem rowsFor_step {txnType : LoyaltyTxnType}
    (hearn : txnType = .earn → e.earnsFor ≠ some saleId)
    (hreverse : txnType = .refundReversal → e.reverses ≠ some saleId)
    (hredeem : txnType ≠ .redeem) :
    rowsFor (loyaltyMachine.step db e).1 saleId txnType = rowsFor db saleId txnType := by
  rcases (loyaltyStep_books db e).2 with hsame | ⟨row, ⟨_, hearns, hreverses⟩, happended⟩
  · unfold rowsFor
    rw [hsame]
  · rw [LoyaltyDb.rowsFor_append happended, if_neg, List.append_nil]
    rintro ⟨hsale, rfl⟩
    cases htype : row.txnType with
    | earn => exact hearn htype ((hearns htype).trans hsale)
    | redeem => exact hredeem htype
    | refundReversal => exact hreverse htype ((hreverses htype).trans hsale)

theorem fresh_step {id : String} (hfresh : db.transactions.find? id = none)
    (hother : e.txnId ≠ some id) : (loyaltyMachine.step db e).1.transactions.find? id = none := by
  rw [Table.find?_eq_none_iff] at hfresh ⊢
  rcases (loyaltyStep_books db e).2 with hsame | ⟨row, ⟨hid, _⟩, happended⟩
  · rw [hsame]
    exact hfresh
  · rw [happended]
    intro t ht
    rcases List.mem_append.mp ht with ht | ht
    · exact hfresh t ht
    · obtain rfl := List.mem_singleton.mp ht
      intro heq
      exact hother (by rw [hid, heq])

theorem refundTotals_cons (saleId : String) (e : LoyaltyEvent) (events : List LoyaltyEvent) :
    refundTotals saleId (e :: events) = refundTotals saleId [e] ++ refundTotals saleId events := by
  unfold refundTotals
  rw [← List.filterMap_append]
  rfl

theorem refundTotals_other (h : e.reverses ≠ some saleId) : refundTotals saleId [e] = [] := by
  cases e with
  | reverse now id refundId refundTotal saleTotal =>
    have hne : id ≠ saleId := fun heq => h (congrArg some heq)
    simp [refundTotals, hne]
  | _ => rfl

structure ReversedTo (db : LoyaltyDb) (saleId : String) (award : LoyaltyTransaction)
    (shares : Int) : Prop where
  sound : LoyaltySound db
  booked : db.awardFor saleId = some award
  sale : (db.sales.find? saleId).isSome
  reversed : db.alreadyReversed saleId = min award.points shares

variable {award : LoyaltyTransaction} {shares : Int}

theorem ReversedTo.refund (h : ReversedTo db saleId award shares) (now refundId : String)
    (hfresh : db.transactions.find? ("loyalty-reversal-" ++ refundId) = none)
    (hshare : 0 ≤ LoyaltyDb.proportionalPoints award.points refundTotal total) :
    ReversedTo (loyaltyMachine.step db (.reverse now saleId refundId refundTotal total)).1 saleId
      award (shares + LoyaltyDb.proportionalPoints award.points refundTotal total) := by
  have haccount : (db.accounts.find? award.accountId).isSome := by
    obtain ⟨a, ha, hid⟩ := h.sound.ledger.booked award (LoyaltyDb.mem_of_awardFor h.booked)
    rw [(Table.find?_eq_some_iff db.accounts award.accountId a).mpr ⟨ha, hid⟩]
    rfl
  refine ⟨sound_step h.sound (loyaltyStep_step h.sound _), ?_, (loyaltyStep_books db _).1 _ h.sale, ?_⟩
  · rw [awardFor_eq, rowsFor_step (by simp [LoyaltyEvent.earnsFor]) (by simp) (by simp)]
    exact h.booked
  · refine (LoyaltyDb.reverse_takes h.booked haccount h.sale now refundId hfresh refundTotal
      total).trans ?_
    rw [h.reversed]
    unfold LoyaltyDb.reversalDeduct
    omega

theorem ReversedTo.other (h : ReversedTo db saleId award shares)
    (hearn : e.earnsFor ≠ some saleId) (hreverse : e.reverses ≠ some saleId) :
    ReversedTo (loyaltyMachine.step db e).1 saleId award shares := by
  refine ⟨sound_step h.sound (loyaltyStep_step h.sound e), ?_, (loyaltyStep_books db e).1 _ h.sale, ?_⟩
  · rw [awardFor_eq, rowsFor_step (fun _ => hearn) (by simp) (by simp)]
    exact h.booked
  · rw [LoyaltyDb.alreadyReversed_eq, rowsFor_step (by simp) (fun _ => hreverse) (by simp)]
    exact h.reversed

theorem reversed_run {events : List LoyaltyEvent} (h : ReversedTo db saleId award shares)
    (hearned : 0 < award.points ∧ award.points ≤ i64Max)
    (hdrawn : (events.filterMap LoyaltyEvent.txnId).Nodup)
    (hfresh : ∀ id ∈ events.filterMap LoyaltyEvent.txnId, db.transactions.find? id = none)
    (hearns : ∀ e ∈ events, e.earnsFor ≠ some saleId)
    (hsale : ∀ e ∈ events, ∀ now refundId refundTotal saleTotal,
      e = .reverse now saleId refundId refundTotal saleTotal → 0 ≤ refundTotal ∧ saleTotal = total)
    (hwithin : ∀ r ∈ refundTotals saleId events, r ≤ total) :
    ReversedTo (loyaltyMachine.run db events) saleId award
      (shares + reversalShares award total (refundTotals saleId events)) := by
  induction events generalizing db shares with
  | nil => simpa [refundTotals, reversalShares] using h
  | cons e events ih =>
    obtain ⟨hearn, hearnLater⟩ := List.forall_mem_cons.mp hearns
    obtain ⟨hhere, hsaleLater⟩ := List.forall_mem_cons.mp hsale
    rw [refundTotals_cons] at hwithin ⊢
    have hlater : ∀ r ∈ refundTotals saleId events, r ≤ total := by
      intro r hr
      exact hwithin r (List.mem_append_right _ hr)
    have hsplit : e.txnId.toList ++ events.filterMap LoyaltyEvent.txnId =
        (e :: events).filterMap LoyaltyEvent.txnId := by
      rw [List.filterMap_cons]
      cases e.txnId <;> rfl
    rw [← hsplit] at hdrawn hfresh
    have hfree : ∀ id ∈ events.filterMap LoyaltyEvent.txnId,
        (loyaltyMachine.step db e).1.transactions.find? id = none := by
      intro id hid
      apply fresh_step (hfresh id (List.mem_append_right _ hid))
      intro heq
      exact List.disjoint_of_nodup_append hdrawn (by simp [heq]) hid
    have hnodup := (List.nodup_append.mp hdrawn).2.1
    by_cases hreverse : e.reverses = some saleId
    · cases e with
      | reverse now id refundId refundTotal saleTotal =>
        obtain rfl : id = saleId := Option.some.inj hreverse
        obtain ⟨h0, rfl⟩ := hhere now refundId refundTotal saleTotal rfl
        have hone : refundTotals id [.reverse now id refundId refundTotal saleTotal] =
            [refundTotal] := by
          simp [refundTotals]
        rw [hone] at hwithin ⊢
        have hle := hwithin refundTotal (List.mem_append_left _ (List.mem_singleton_self _))
        have hstep := h.refund now refundId (hfresh _ (List.mem_append_left _ (by simp
          [LoyaltyEvent.txnId]))) (proportionalPoints_nonneg hearned.1 hearned.2 h0 hle)
        have hrun := ih hstep hnodup hfree hearnLater hsaleLater hlater
        rw [Machine.run_cons]
        rw [Int.add_assoc] at hrun
        exact hrun
      | _ => cases hreverse
    · have hrun := ih (h.other hearn hreverse) hnodup hfree hearnLater hsaleLater hlater
      rw [refundTotals_other hreverse, List.nil_append]
      exact hrun

theorem shares_near {refunds : List Int} (hearned : 0 < award.points ∧ award.points ≤ i64Max)
    (htotal : 0 < total) (hrefunds : ∀ r ∈ refunds, 0 ≤ r ∧ r ≤ total) :
    2 * total * reversalShares award total refunds + total * refunds.length ≥
      2 * award.points * refunds.sum + refunds.length := by
  have hshares : reversalShares award total refunds = ((refunds.map (fun r =>
      award.points * r * 2)).map (fun n => Rounding.quot total n (total * 2))).sum := by
    rw [reversalShares, List.map_map]
    apply congrArg List.sum
    apply List.map_congr_left
    intro r hr
    obtain ⟨h0, hle⟩ := hrefunds r hr
    rw [proportionalPoints_eq hearned.1 hearned.2 h0 hle, if_pos htotal]
    rfl
  have hnear := (Rounding.sum_quot_near total (by omega : 0 < total * 2)
    (refunds.map (fun r => award.points * r * 2))).1
  have hsum : (refunds.map (fun r => award.points * r * 2)).sum =
      2 * award.points * refunds.sum := by
    simp only [Int.mul_comm _ (2 : Int), ← Int.mul_assoc]
    exact (List.sum_map_mul_left refunds (fun r => r) (2 * award.points)).trans
      (by rw [List.map_id'])
  have hbias : (total * 2 - total) * (refunds.length : Int) = total * refunds.length := by
    ring
  rw [← hshares, hsum, List.length_map, hbias, Int.mul_comm total 2] at hnear
  omega

theorem refundTotals_nonneg {events : List LoyaltyEvent}
    (hsale : ∀ e ∈ events, ∀ now refundId refundTotal saleTotal,
      e = .reverse now saleId refundId refundTotal saleTotal → 0 ≤ refundTotal ∧ saleTotal = total) :
    ∀ r ∈ refundTotals saleId events, 0 ≤ r := by
  intro r hr
  obtain ⟨e, he, hread⟩ := List.mem_filterMap.mp hr
  split at hread
  · rename_i now id refundId refundTotal saleTotal
    split at hread
    · rename_i hid
      cases hread
      exact (hsale _ he now refundId r saleTotal (by rw [hid])).1
    · cases hread
  · cases hread

/-- Refunds within a sale's total, among whatever else happens: after each of them the points
reversed are the points earned or the sum of the rounded shares, whichever is less. So they are
never more than was earned, and the refunds of the whole sale reverse all of it just when the
rounded shares add up to it; they miss less than half a point each. -/
theorem loyalty_reversals (db : LoyaltyDb) (saleId : String) (award : LoyaltyTransaction)
    (total : Int) (events : List LoyaltyEvent) (h : Awarded db saleId award)
    (hrefunds : RefundsFollow db saleId total events) :
    (∀ l r, events = l ++ r →
      (loyaltyMachine.run db l).alreadyReversed saleId =
          min award.points (reversalShares award total (refundTotals saleId l)) ∧
        (loyaltyMachine.run db l).alreadyReversed saleId ≤ award.points) ∧
    ((refundTotals saleId events).sum = total →
      ((loyaltyMachine.run db events).alreadyReversed saleId = award.points ↔
        award.points ≤ reversalShares award total (refundTotals saleId events)) ∧
      (0 < total → (loyaltyMachine.run db events).alreadyReversed saleId = award.points ∨
        2 * (award.points - (loyaltyMachine.run db events).alreadyReversed saleId) <
          (refundTotals saleId events).length)) := by
  have hstart : ReversedTo db saleId award 0 := by
    refine ⟨h.sound, h.booked, h.sale, ?_⟩
    rw [LoyaltyDb.alreadyReversed_eq, h.unreversed, Int.min_eq_right h.earned.1.le]
    rfl
  have hnonneg := refundTotals_nonneg hrefunds.ofSale
  have hwithin : ∀ r ∈ refundTotals saleId events, r ≤ total := by
    intro r hr
    exact (List.single_le_sum hnonneg r hr).trans hrefunds.within
  have hprefix : ∀ l r, events = l ++ r →
      (loyaltyMachine.run db l).alreadyReversed saleId =
        min award.points (reversalShares award total (refundTotals saleId l)) := by
    intro l r hsplit
    subst hsplit
    have hdrawn := hrefunds.drawn
    rw [List.filterMap_append] at hdrawn
    have htotals : refundTotals saleId (l ++ r) = refundTotals saleId l ++ refundTotals saleId r :=
      List.filterMap_append
    have hrun := reversed_run hstart h.earned (List.nodup_append.mp hdrawn).1
      (fun id hid => hrefunds.fresh id (by
        rw [List.filterMap_append]
        exact List.mem_append_left _ hid))
      (fun e he => hrefunds.earned e (List.mem_append_left _ he))
      (fun e he => hrefunds.ofSale e (List.mem_append_left _ he))
      (fun n hn => hwithin n (by
        rw [htotals]
        exact List.mem_append_left _ hn))
    rw [Int.zero_add] at hrun
    exact hrun.reversed
  have hend := hprefix events [] (List.append_nil events).symm
  refine ⟨?_, ?_⟩
  · intro l r hsplit
    have hhere := hprefix l r hsplit
    exact ⟨hhere, hhere ▸ Int.min_le_left _ _⟩
  · intro hsum
    rw [hend]
    refine ⟨by omega, ?_⟩
    intro htotal
    have hnear := shares_near h.earned htotal (fun r hr => ⟨hnonneg r hr, hwithin r hr⟩)
    have hsome : 0 < (refundTotals saleId events).length := by
      apply List.length_pos_iff.mpr
      intro hnone
      rw [hnone] at hsum
      exact htotal.ne hsum
    rw [hsum] at hnear
    generalize reversalShares award total (refundTotals saleId events) = shares at *
    by_cases hall : award.points ≤ shares
    · left
      omega
    · right
      rw [Int.min_eq_right (by omega)]
      by_contra hmissed
      have hscaled : total * (refundTotals saleId events).length ≤
          total * (2 * (award.points - shares)) :=
        Int.mul_le_mul_of_nonneg_left (by omega) htotal.le
      have hproduct : total * (2 * (award.points - shares)) =
          2 * award.points * total - 2 * total * shares := by ring
      omega

def hundredSale : LoyaltyDb where
  tiers := seededTiers
  customers := Table.empty.insertNew ⟨"c1", 0⟩
  accounts := Table.empty
  transactions := Table.empty
  sales := Table.empty.insertNew ⟨"s1", some "c1", 100, "completed", "USD"⟩

def hundredEarned : LoyaltyDb :=
  loyaltyMachine.run hundredSale [.earn ⟨"a1", "t1", "2026-01-01"⟩ "c1" "s1" 100]

def tenPoints : LoyaltyTransaction := LoyaltyDb.earnRow ⟨"a1", "t1", "2026-01-01"⟩ "a1" "s1" 10

theorem hundred_awarded : Awarded hundredEarned "s1" tenPoints := by
  refine ⟨?_, by decide +kernel, by decide +kernel, by decide +kernel, by decide +kernel⟩
  exact sound_run ⟨rfl, rfl, by decide +kernel⟩ _

def partialRefunds (amounts : List (String × Int)) : List LoyaltyEvent :=
  amounts.map (fun a => .reverse "2026-01-02" "s1" a.1 a.2 100)

theorem partialRefunds_follow {amounts : List (String × Int)}
    (hids : ((partialRefunds amounts).filterMap LoyaltyEvent.txnId).Nodup)
    (hfresh : ∀ id ∈ (partialRefunds amounts).filterMap LoyaltyEvent.txnId,
      hundredEarned.transactions.find? id = none)
    (hamounts : ∀ a ∈ amounts, 0 ≤ a.2)
    (hsum : (refundTotals "s1" (partialRefunds amounts)).sum ≤ 100) :
    RefundsFollow hundredEarned "s1" 100 (partialRefunds amounts) := by
  refine ⟨hids, hfresh, ?_, ?_, hsum⟩
  · intro e he
    obtain ⟨a, _, rfl⟩ := List.mem_map.mp he
    simp [LoyaltyEvent.earnsFor]
  · intro e he now refundId refundTotal saleTotal heq
    obtain ⟨a, ha, rfl⟩ := List.mem_map.mp he
    cases heq
    exact ⟨hamounts a ha, rfl⟩

theorem halves_reversed :
    (loyaltyMachine.run hundredEarned (partialRefunds [("r1", 50), ("r2", 50)])).alreadyReversed
      "s1" = 10 :=
  (((loyalty_reversals hundredEarned "s1" tenPoints 100 (partialRefunds [("r1", 50), ("r2", 50)])
    hundred_awarded (partialRefunds_follow (by decide) (by decide +kernel) (by decide)
      (by decide))).2 (by decide)).1).mpr (by decide +kernel)

/-- Three refunds of about a third reverse three points each of the ten. -/
theorem thirds_keep_a_point :
    Awarded hundredEarned "s1" tenPoints ∧
    RefundsFollow hundredEarned "s1" 100 (partialRefunds [("r1", 33), ("r2", 33), ("r3", 34)]) ∧
    (refundTotals "s1" (partialRefunds [("r1", 33), ("r2", 33), ("r3", 34)])).sum = 100 ∧
    (loyaltyMachine.run hundredEarned
      (partialRefunds [("r1", 33), ("r2", 33), ("r3", 34)])).alreadyReversed "s1" = 9 ∧
    tenPoints.points = 10 := by
  refine ⟨hundred_awarded, partialRefunds_follow (by decide) (by decide +kernel) (by decide)
    (by decide), by decide, by decide +kernel, rfl⟩

end OzPos
