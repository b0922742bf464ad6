import OzPos.Commerce.GiftCards
import OzPos.Library.Run

namespace OzPos

inductive GiftCardSession where
  | idle
  | read (call : GiftCardCall) (card : GiftCard)
  | checked (call : GiftCardCall) (card : GiftCard)

structure GiftCardSystem where
  record : GiftCardRecord
  sessions : Nat → GiftCardSession

inductive GiftCardEvent where
  | read (session : Nat) (call : GiftCardCall)
  | check (session : Nat) (expired : String → Bool)
  | write (session : Nat) (draw : GiftCardDraw)

variable (s : GiftCardSystem)

def GiftCardSystem.setSession (session : Nat) (at_ : GiftCardSession) : GiftCardSystem :=
  { s with sessions := fun n => if n = session then at_ else s.sessions n }

def giftCardMachine :
    Machine GiftCardSystem GiftCardEvent (Option (Except CoreError GiftCardReply)) where
  step s
    | .read session call =>
      match call.read s.record with
      | .error e => (s.setSession session .idle, some (.error e))
      | .ok card => (s.setSession session (.read call card), none)
    | .check session expired =>
      match s.sessions session with
      | .read call card =>
        match call.check expired card s.record with
        | .error e => (s.setSession session .idle, some (.error e))
        | .ok (some row) => (s.setSession session .idle, some (.ok ⟨s.record.card, some row⟩))
        | .ok none => (s.setSession session (.checked call card), none)
      | _ => (s, none)
    | .write session draw =>
      match s.sessions session with
      | .checked call card =>
        match call.write draw card s.record with
        | .error e => (s.setSession session .idle, some (.error e))
        | .ok (next, row) =>
          ({ s.setSession session .idle with record := next }, some (.ok ⟨next.card, row⟩))
      | _ => (s, none)

structure GiftCardSound (r : GiftCardRecord) : Prop where
  nonneg : 0 ≤ r.card.currentBalanceMinor
  total : r.card.currentBalanceMinor = r.ledgerTotal
  last : r.transactions.getLast?.map GiftCardTransaction.balanceAfterMinor =
    some r.card.currentBalanceMinor
  redeemed_iff : r.card.status = .redeemed ↔ r.card.currentBalanceMinor = 0

/-- A redemption's write on a frozen card changes nothing. -/
def SparesFrozen : GiftCardEvent → Prop
  | .write session draw =>
    ∀ key amount saleId card, s.sessions session = .checked (.redeem key amount saleId) card →
      s.record.card.status = .frozen →
        (giftCardMachine.step s (.write session draw)).1.record = s.record
  | _ => True

def KeepsCard (event : GiftCardEvent) : Prop :=
  GiftCardSound (giftCardMachine.step s event).1.record ∧ SparesFrozen s event

/-- A write on a status the call did not see: a redemption that goes through on a card
frozen meanwhile, a top-up read as active on a card redeemed meanwhile. -/
def staleWrite : GiftCardEvent → Bool
  | .write session draw =>
    let now := s.record.card
    match s.sessions session with
    | .checked (.redeem _ amount saleId) card =>
      now.status = .frozen && amount ≤ now.currentBalanceMinor &&
        ledgerAccepts draw (redeemRow draw amount saleId card (now.currentBalanceMinor - amount))
          s.record.transactions
    | .checked (.topUp _ amount) card =>
      card.status = .active && now.status = .redeemed &&
        now.currentBalanceMinor ≤ i64Max - amount &&
        ledgerAccepts draw (topUpRow draw amount card (now.currentBalanceMinor + amount))
          s.record.transactions
    | _ => false
  | _ => false

def GiftCardCall.positive : GiftCardCall → Prop
  | .redeem _ amount _ | .topUp _ amount => 0 < amount
  | .freeze _ | .unfreeze _ => True

def SessionSound : GiftCardSession → Prop
  | .idle => True
  | .read call _ => call.positive
  | .checked call card => call.positive ∧
      ∀ key amount, call = .topUp key amount → card.status = .active ∨ card.status = .frozen

structure GiftCardInvariant (s : GiftCardSystem) : Prop where
  record : GiftCardSound s.record
  sessions : ∀ n, SessionSound (s.sessions n)

variable {r : GiftCardRecord} {card : GiftCard} {call : GiftCardCall}

theorem positive_of_read (h : call.read r = .ok card) : call.positive := by
  cases call with
  | redeem key amount saleId =>
    by_cases hamount : amount ≤ 0
    · simp [GiftCardCall.read, hamount] at h
    · exact not_le.mp hamount
  | topUp key amount =>
    by_cases hamount : amount ≤ 0
    · simp [GiftCardCall.read, hamount] at h
    · exact not_le.mp hamount
  | freeze key => trivial
  | unfreeze key => trivial

variable {amount : Int} {key : String}

theorem status_of_check {expired : String → Bool} {found : Option GiftCardTransaction}
    (h : (GiftCardCall.topUp key amount).check expired card r = .ok found) :
    card.status = .active ∨ card.status = .frozen := by
  by_cases hstatus : card.status ≠ .active ∧ card.status ≠ .frozen
  · simp [GiftCardCall.check, hstatus] at h
  · rw [not_and_or, not_not, not_not] at hstatus
    exact hstatus

variable {s : GiftCardSystem} {session : Nat}

theorem sessions_setSession {at_ : GiftCardSession} (hs : ∀ n, SessionSound (s.sessions n))
    (hat : SessionSound at_) (n : Nat) : SessionSound ((s.setSession session at_).sessions n) := by
  unfold GiftCardSystem.setSession
  by_cases h : n = session
  · simpa [h] using hat
  · simpa [h] using hs n

theorem sessionSound_step (hs : ∀ n, SessionSound (s.sessions n)) (event : GiftCardEvent)
    (n : Nat) : SessionSound ((giftCardMachine.step s event).1.sessions n) := by
  have hidle : SessionSound .idle := trivial
  cases event with
  | read session call =>
    cases hread : call.read s.record with
    | error e => simpa [giftCardMachine, hread] using sessions_setSession hs hidle n
    | ok card =>
      have hat : SessionSound (.read call card) := positive_of_read hread
      simpa [giftCardMachine, hread] using sessions_setSession hs hat n
  | check session expired =>
    cases hat : s.sessions session with
    | idle => simpa [giftCardMachine, hat] using hs n
    | checked call card => simpa [giftCardMachine, hat] using hs n
    | read call card =>
      have hpositive := hs session
      rw [hat] at hpositive
      cases hcheck : call.check expired card s.record with
      | error e => simpa [giftCardMachine, hat, hcheck] using sessions_setSession hs hidle n
      | ok found =>
        cases found with
        | some row => simpa [giftCardMachine, hat, hcheck] using sessions_setSession hs hidle n
        | none =>
          have hsound : SessionSound (.checked call card) := by
            refine ⟨hpositive, ?_⟩
            rintro key amount rfl
            exact status_of_check hcheck
          simpa [giftCardMachine, hat, hcheck] using sessions_setSession hs hsound n
  | write session draw =>
    cases hat : s.sessions session with
    | idle => simpa [giftCardMachine, hat] using hs n
    | read call card => simpa [giftCardMachine, hat] using hs n
    | checked call card =>
      cases hwrite : call.write draw card s.record with
      | error e => simpa [giftCardMachine, hat, hwrite] using sessions_setSession hs hidle n
      | ok done => simpa [giftCardMachine, hat, hwrite] using sessions_setSession hs hidle n

variable {next : GiftCardRecord} {row : GiftCardTransaction}

theorem sound_of_row (hr : GiftCardSound r) (hrows : next.transactions = r.transactions ++ [row])
    (hbalance : next.card.currentBalanceMinor = r.card.currentBalanceMinor + row.amountMinor)
    (hafter : row.balanceAfterMinor = next.card.currentBalanceMinor) :
    GiftCardSound next ↔ 0 ≤ next.card.currentBalanceMinor ∧
      (next.card.status = .redeemed ↔ next.card.currentBalanceMinor = 0) := by
  constructor
  · intro h
    exact ⟨h.nonneg, h.redeemed_iff⟩
  · rintro ⟨hnonneg, hstatus⟩
    refine ⟨hnonneg, ?_, ?_, hstatus⟩
    · have htotal := hr.total
      simp only [GiftCardRecord.ledgerTotal, hrows, List.map_append, List.map_cons, List.map_nil,
        List.sum_append, List.sum_cons, List.sum_nil, add_zero] at htotal ⊢
      omega
    · simp [hrows, hafter]

variable {draw : GiftCardDraw}

theorem sound_redeem {saleId : String} (hr : GiftCardSound r) (hamount : 0 < amount)
    (h : writeRedeem draw amount saleId card r = .ok (next, row)) : GiftCardSound next := by
  obtain ⟨hguard, hbalance, hstatus, hrows, hrow, hafter⟩ := writeRedeem_ok h
  have hold := hr.redeemed_iff
  rw [sound_of_row hr hrows (by omega) hafter, hstatus]
  refine ⟨by omega, ?_⟩
  by_cases hzero : next.card.currentBalanceMinor = 0
  · simp [hzero]
  · rw [if_neg hzero, hold]
    omega

theorem sound_topUp_iff (hr : GiftCardSound r)
    (hamount : 0 < amount) (hread : card.status = .active ∨ card.status = .frozen)
    (h : writeTopUp draw amount card r = .ok (next, row)) :
    GiftCardSound next ↔ ¬ (card.status = .active ∧ r.card.status = .redeemed) := by
  obtain ⟨hbalance, hstatus, hrows, hrow, hafter⟩ := writeTopUp_ok h
  have hnonneg := hr.nonneg
  have hpositive : next.card.currentBalanceMinor ≠ 0 := by omega
  rw [sound_of_row hr hrows (by omega) hafter, hstatus]
  rcases hread with hread | hread
  · simp only [hread, reduceCtorEq, if_false, true_and, hpositive, iff_false]
    constructor
    · exact fun h => h.2
    · exact fun h => ⟨by omega, h⟩
  · simp only [hread, if_true, reduceCtorEq, false_and, not_false_eq_true, iff_true, false_iff]
    exact ⟨by omega, hpositive⟩

theorem sound_status {source target : GiftCardStatus} {verb : String} (hr : GiftCardSound r)
    (hsource : source ≠ .redeemed) (htarget : target ≠ .redeemed)
    (h : writeStatus source target verb draw r = .ok next) : GiftCardSound next := by
  obtain ⟨hfrom, hto, hbalance, hrows⟩ := writeStatus_ok h
  have hold := hr.redeemed_iff
  rw [hfrom] at hold
  refine ⟨?_, ?_, ?_, ?_⟩
  · rw [hbalance]
    exact hr.nonneg
  · rw [hbalance, hr.total, GiftCardRecord.ledgerTotal, GiftCardRecord.ledgerTotal, hrows]
  · rw [hrows, hbalance]
    exact hr.last
  · rw [hto, hbalance, ← hold]
    exact iff_of_false htarget hsource

theorem record_read (s : GiftCardSystem) (session : Nat) (call : GiftCardCall) :
    (giftCardMachine.step s (.read session call)).1.record = s.record := by
  cases hread : call.read s.record with
  | error e => simp [giftCardMachine, hread, GiftCardSystem.setSession]
  | ok card => simp [giftCardMachine, hread, GiftCardSystem.setSession]

theorem record_check (s : GiftCardSystem) (session : Nat) (expired : String → Bool) :
    (giftCardMachine.step s (.check session expired)).1.record = s.record := by
  cases hat : s.sessions session with
  | idle => simp [giftCardMachine, hat]
  | checked call card => simp [giftCardMachine, hat]
  | read call card =>
    cases hcheck : call.check expired card s.record with
    | error e => simp [giftCardMachine, hat, hcheck, GiftCardSystem.setSession]
    | ok found =>
      cases found with
      | none => simp [giftCardMachine, hat, hcheck, GiftCardSystem.setSession]
      | some row => simp [giftCardMachine, hat, hcheck, GiftCardSystem.setSession]

theorem record_write (draw : GiftCardDraw) (hat : s.sessions session = .checked call card) :
    (giftCardMachine.step s (.write session draw)).1.record =
      match call.write draw card s.record with
      | .error _ => s.record
      | .ok done => done.1 := by
  cases hwrite : call.write draw card s.record with
  | error e => simp [giftCardMachine, hat, hwrite, GiftCardSystem.setSession]
  | ok done => simp [giftCardMachine, hat, hwrite]

theorem keepsCard_redeem (h : GiftCardInvariant s) {saleId : String}
    (hat : s.sessions session = .checked (.redeem key amount saleId) card) :
    KeepsCard s (.write session draw) ↔ staleWrite s (.write session draw) = false := by
  have hamount : 0 < amount := by
    have hsession := h.sessions session
    rw [hat] at hsession
    exact hsession.1
  have hpossible := exists_writeRedeem_iff draw amount saleId card s.record
  have hrecord := record_write draw hat
  unfold KeepsCard SparesFrozen
  simp only [hrecord, hat, GiftCardSession.checked.injEq, staleWrite]
  cases hwrite : writeRedeem draw amount saleId card s.record with
  | error e =>
    have hno : ¬ (amount ≤ s.record.card.currentBalanceMinor ∧ ledgerAccepts draw
        (redeemRow draw amount saleId card (s.record.card.currentBalanceMinor - amount))
        s.record.transactions = true) := by
      rw [← hpossible, hwrite]
      simp
    simp only [GiftCardCall.write, hwrite, Except.map]
    refine iff_of_true ⟨h.record, by simp⟩ ?_
    rw [Bool.and_assoc, Bool.and_eq_false_iff]
    exact .inr (by simpa using hno)
  | ok done =>
    obtain ⟨next, row⟩ := done
    have hsound := sound_redeem h.record hamount hwrite
    have hgoes := hpossible.mp ⟨_, hwrite⟩
    have hmoved : next ≠ s.record := by
      intro heq
      have hrows := (writeRedeem_ok hwrite).2.2.2.1
      rw [heq] at hrows
      simpa using congrArg List.length hrows
    simp only [GiftCardCall.write, hwrite, Except.map, hgoes.1, hgoes.2, decide_true,
      Bool.and_true, decide_eq_false_iff_not]
    constructor
    · rintro ⟨_, hspares⟩ hfrozen
      exact hmoved (hspares key amount saleId card ⟨rfl, rfl⟩ hfrozen)
    · intro hfrozen
      exact ⟨hsound, fun _ _ _ _ _ hf => absurd hf hfrozen⟩

theorem keepsCard_topUp (h : GiftCardInvariant s)
    (hat : s.sessions session = .checked (.topUp key amount) card) :
    KeepsCard s (.write session draw) ↔ staleWrite s (.write session draw) = false := by
  have hsession := h.sessions session
  rw [hat] at hsession
  have hread := hsession.2 key amount rfl
  have hpossible := exists_writeTopUp_iff draw amount card s.record
  have hrecord := record_write draw hat
  unfold KeepsCard SparesFrozen
  simp only [hrecord, hat, GiftCardSession.checked.injEq, staleWrite, reduceCtorEq, false_and,
    false_implies, implies_true, and_true]
  cases hwrite : writeTopUp draw amount card s.record with
  | error e =>
    have hno : ¬ (s.record.card.currentBalanceMinor ≤ i64Max - amount ∧ ledgerAccepts draw
        (topUpRow draw amount card (s.record.card.currentBalanceMinor + amount))
        s.record.transactions = true) := by
      rw [← hpossible, hwrite]
      simp
    simp only [GiftCardCall.write, hwrite, Except.map]
    refine iff_of_true h.record ?_
    rw [Bool.and_assoc, Bool.and_eq_false_iff]
    exact .inr (by simpa using hno)
  | ok done =>
    obtain ⟨next, row⟩ := done
    have hsound := sound_topUp_iff h.record hsession.1 hread hwrite
    have hgoes := hpossible.mp ⟨_, hwrite⟩
    simp only [GiftCardCall.write, hwrite, Except.map, hgoes.1, hgoes.2, decide_true,
      Bool.and_true]
    rw [hsound]
    simp

theorem keepsCard_status (h : GiftCardInvariant s)
    {source target : GiftCardStatus} {verb : String}
    (hat : s.sessions session = .checked call card)
    (hcall : ∀ key amount saleId, call ≠ .redeem key amount saleId)
    (hwrite : call.write draw card s.record =
      (writeStatus source target verb draw s.record).map (fun done => (done, none)))
    (hsource : source ≠ .redeemed) (htarget : target ≠ .redeemed) :
    KeepsCard s (.write session draw) := by
  have hrecord := record_write draw hat
  constructor
  · rw [hrecord, hwrite]
    cases hstatus : writeStatus source target verb draw s.record with
    | error e => exact h.record
    | ok next => exact sound_status h.record hsource htarget hstatus
  · intro key amount saleId other hsession
    rw [hat] at hsession
    cases hsession
    exact absurd rfl (hcall key amount saleId)

theorem keepsCard_iff (h : GiftCardInvariant s) (event : GiftCardEvent) :
    KeepsCard s event ↔ staleWrite s event = false := by
  cases event with
  | read session call =>
    refine iff_of_true ⟨?_, trivial⟩ rfl
    rw [record_read]
    exact h.record
  | check session expired =>
    refine iff_of_true ⟨?_, trivial⟩ rfl
    rw [record_check]
    exact h.record
  | write session draw =>
    cases hat : s.sessions session with
    | idle =>
      refine iff_of_true ⟨?_, ?_⟩ (by simp [staleWrite, hat])
      · simpa [giftCardMachine, hat] using h.record
      · intro key amount saleId card hsession
        rw [hat] at hsession
        cases hsession
    | read call card =>
      refine iff_of_true ⟨?_, ?_⟩ (by simp [staleWrite, hat])
      · simpa [giftCardMachine, hat] using h.record
      · intro key amount saleId other hsession
        rw [hat] at hsession
        cases hsession
    | checked call card =>
      cases call with
      | redeem key amount saleId => exact keepsCard_redeem h hat
      | topUp key amount => exact keepsCard_topUp h hat
      | freeze key =>
        refine iff_of_true ?_ (by simp [staleWrite, hat])
        exact keepsCard_status h hat (by simp) rfl (by decide) (by decide)
      | unfreeze key =>
        refine iff_of_true ?_ (by simp [staleWrite, hat])
        exact keepsCard_status h hat (by simp) rfl (by decide) (by decide)

theorem invariant_step {event : GiftCardEvent} (h : GiftCardInvariant s)
    (hfresh : staleWrite s event = false) : GiftCardInvariant (giftCardMachine.step s event).1 where
  record := ((keepsCard_iff h event).mpr hfresh).1
  sessions := sessionSound_step h.sessions event

def issued (r : GiftCardRecord) : GiftCardSystem := ⟨r, fun _ => .idle⟩

theorem sound_of_issue {cardId : String} {input : IssueGiftCardInput}
    (h : issueGiftCard cardId draw input = .ok r) : GiftCardSound r := by
  unfold issueGiftCard at h
  split at h
  · cases h
  · rename_i hamount
    split at h
    · cases h
    · simp only at h
      split at h
      · cases h
      · rename_i transactions hinsert
        have hrows := ((insertTransaction_ok_iff _ _ _ _).mp hinsert).2
        rw [← Except.ok.inj h]
        refine ⟨by simp only; omega, ?_, ?_, ?_⟩
        · simp [GiftCardRecord.ledgerTotal, hrows]
        · simp [hrows]
        · simp only [reduceCtorEq, false_iff]
          omega

theorem along_keepsCard_iff (hr : GiftCardSound r) (events : List GiftCardEvent) :
    giftCardMachine.Along KeepsCard (issued r) events ↔
      giftCardMachine.Along (fun s event => staleWrite s event = false) (issued r) events := by
  apply giftCardMachine.along_iff_of_invariant (fun s event hs hfresh => invariant_step hs hfresh)
  · exact fun s event hs => keepsCard_iff hs event
  · exact ⟨hr, fun _ => trivial⟩

/-- Over every interleaving of the steps of any calls on an issued card, the card stays sound
and no frozen card is redeemed exactly where no write lands on a status its call did not see. -/
theorem gift_card_sound_iff (cardId : String) (draw : GiftCardDraw) (input : IssueGiftCardInput)
    (r : GiftCardRecord) (h : issueGiftCard cardId draw input = .ok r)
    (events : List GiftCardEvent) :
    giftCardMachine.Along KeepsCard (issued r) events ↔
      giftCardMachine.Along (fun s event => staleWrite s event = false) (issued r) events :=
  along_keepsCard_iff (sound_of_issue h) events

def cardDraw (txnId : String) : GiftCardDraw := ⟨txnId, "2026-01-01T00:00:00.000Z", none⟩

def sampleCard : IssueGiftCardInput := ⟨"GC-1", 100, "USD", none⟩

def orderlyCalls : List GiftCardEvent :=
  [.read 0 (.redeem "GC-1" 40 "s1"), .check 0 (fun _ => false), .write 0 (cardDraw "t1"),
    .read 1 (.topUp "GC-1" 15), .check 1 (fun _ => false), .write 1 (cardDraw "t2")]

/-- The card is frozen between the check and the write of a redemption. -/
def freezeBetween : List GiftCardEvent :=
  [.read 0 (.redeem "GC-1" 40 "s1"), .check 0 (fun _ => false),
    .read 1 (.freeze "GC-1"), .check 1 (fun _ => false), .write 1 (cardDraw "t1"),
    .write 0 (cardDraw "t2")]

/-- The card is spent between the check and the write of a top-up. -/
def redeemBetween : List GiftCardEvent :=
  [.read 0 (.topUp "GC-1" 15), .check 0 (fun _ => false),
    .read 1 (.redeem "GC-1" 100 "s1"), .check 1 (fun _ => false), .write 1 (cardDraw "t1"),
    .write 0 (cardDraw "t2")]

theorem orderly_calls_sound :
    ∃ r, issueGiftCard "c1" (cardDraw "t0") sampleCard = .ok r ∧
      giftCardMachine.Along KeepsCard (issued r) orderlyCalls :=
  ⟨_, rfl, (gift_card_sound_iff "c1" (cardDraw "t0") sampleCard _ rfl orderlyCalls).mpr
    (by decide +kernel)⟩

theorem stale_writes_break :
    ∃ r, issueGiftCard "c1" (cardDraw "t0") sampleCard = .ok r ∧
      ¬ giftCardMachine.Along KeepsCard (issued r) freezeBetween ∧
      ¬ giftCardMachine.Along KeepsCard (issued r) redeemBetween := by
  have hissue : issueGiftCard "c1" (cardDraw "t0") sampleCard = .ok _ := rfl
  have hiff := along_keepsCard_iff (sound_of_issue hissue)
  refine ⟨_, hissue, ?_, ?_⟩
  · rw [hiff]
    decide +kernel
  · rw [hiff]
    decide +kernel

end OzPos
