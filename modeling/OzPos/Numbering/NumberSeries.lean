import OzPos.Library.Outcome
import OzPos.Numbering.StatutoryNumbers

namespace OzPos

section Format

theorem toList_toString_ofNat (n : Nat) : (toString (n : Int)).toList = Nat.toDigits 10 n := by
  change n.repr.toList = _
  exact Nat.toList_repr

variable (padding : Int)

theorem toList_padOrdinal (n : Nat) :
    (padOrdinal padding n).toList =
      List.replicate (padding.toNat - (Nat.toDigits 10 n).length) '0' ++ Nat.toDigits 10 n := by
  rw [padOrdinal, String.toList_ofList, toList_toString_ofNat]
  rfl

theorem ofDigitChars_padOrdinal (n : Nat) :
    Nat.ofDigitChars 10 (padOrdinal padding n).toList 0 = n := by
  rw [toList_padOrdinal, Nat.ofDigitChars_append, Nat.ofDigitChars_replicate_zero, Nat.mul_zero,
    Nat.ofDigitChars_ten_toDigits]

theorem padOrdinal_inj {padding padding' : Int} {n m : Nat}
    (h : padOrdinal padding n = padOrdinal padding' m) : n = m := by
  rw [← ofDigitChars_padOrdinal padding n, h, ofDigitChars_padOrdinal]

theorem slash_notMem_padOrdinal (n : Nat) : '/' ∉ (padOrdinal padding n).toList := by
  rw [toList_padOrdinal, List.mem_append, not_or]
  constructor
  · intro h
    exact absurd (List.eq_of_mem_replicate h) (by decide)
  · intro h
    have hdigit := Nat.isDigit_of_mem_toDigits (by omega) (by omega) h
    exact absurd hdigit (by decide)

theorem split_last_slash {l l' r r' : List Char} (hr : '/' ∉ r) (hr' : '/' ∉ r')
    (h : l ++ '/' :: r = l' ++ '/' :: r') : l = l' ∧ r = r' := by
  have hsplit : ∀ front back : List Char, '/' ∉ back →
      (front ++ '/' :: back).reverse.takeWhile (· ≠ '/') = back.reverse := by
    intro front back hback
    rw [List.reverse_append, List.reverse_cons, List.append_assoc,
      List.takeWhile_append_of_pos]
    · simp
    · intro c hc
      have hmem := List.mem_reverse.mp hc
      simp only [ne_eq, decide_eq_true_eq]
      rintro rfl
      exact hback hmem
  have hlast : r = r' := by
    have h₁ := hsplit l r hr
    rw [h, hsplit l' r' hr'] at h₁
    exact (List.reverse_injective h₁).symm
  subst hlast
  exact ⟨List.append_cancel_right h, rfl⟩

theorem toList_formatNumber (numberPrefix : String) (reset : ResetPeriod) (bucket : String)
    (padding value : Int) :
    (formatNumber numberPrefix reset bucket padding value).toList =
      numberPrefix.toList ++ if reset = .never then (padOrdinal padding value).toList
        else bucket.toList ++ '/' :: (padOrdinal padding value).toList := by
  unfold formatNumber
  split
  · rw [String.toList_append]
  · simp [String.toList_append]

theorem formatNumber_inj {numberPrefix bucket bucket' : String} {reset reset' : ResetPeriod}
    {padding padding' : Int} {n m : Nat}
    (h : formatNumber numberPrefix reset bucket padding n =
      formatNumber numberPrefix reset' bucket' padding' m) :
    (reset = .never ↔ reset' = .never) ∧ (reset ≠ .never → bucket = bucket') ∧ n = m := by
  have htail := congrArg String.toList h
  rw [toList_formatNumber, toList_formatNumber] at htail
  have htail := List.append_cancel_left htail
  have hn := slash_notMem_padOrdinal padding n
  have hm := slash_notMem_padOrdinal padding' m
  by_cases hreset : reset = .never
  · by_cases hreset' : reset' = .never
    · rw [if_pos hreset, if_pos hreset'] at htail
      exact ⟨iff_of_true hreset hreset', fun hne => absurd hreset hne,
        padOrdinal_inj (String.toList_inj.mp htail)⟩
    · rw [if_pos hreset, if_neg hreset'] at htail
      rw [htail] at hn
      simp at hn
  · by_cases hreset' : reset' = .never
    · rw [if_neg hreset, if_pos hreset'] at htail
      rw [← htail] at hm
      simp at hm
    · rw [if_neg hreset, if_neg hreset'] at htail
      obtain ⟨hbucket, hdigits⟩ := split_last_slash hn hm htail
      exact ⟨iff_of_false hreset hreset', fun _ => String.toList_inj.mp hbucket,
        padOrdinal_inj (String.toList_inj.mp hdigits)⟩

end Format

namespace FiscalDb

def issuedFor (key : SeriesKey) (db : FiscalDb) : List Issued :=
  db.issued.filter (fun i => i.series = key)

/-- The numbers given out under one reset policy, in one of its periods. -/
def issuedIn (key : SeriesKey) (policy : ResetPeriod) (period : String) (db : FiscalDb) :
    List Issued :=
  (db.issuedFor key).filter (fun i => i.policy = policy && i.period = period)

def seriesKey (locationId documentKind : String) (db : FiscalDb) : Option SeriesKey :=
  (db.locations.lookup locationId).join.bind (fun entity =>
    (DocumentKind.parse documentKind).toOption.map (entity, ·))

def ordinalsTo (n : Nat) : List Int := (List.range n).map (fun k : Nat => (k : Int) + 1)

end FiscalDb

/-- No two sales have one number, and the ordinals of a policy and period are 1, 2, 3 and so on. -/
structure NumbersSound (key : SeriesKey) (db : FiscalDb) : Prop where
  distinct : (db.issuedFor key).Pairwise (fun i j => i.saleId ≠ j.saleId → i.number ≠ j.number)
  consecutive : ∀ policy period, (db.issuedIn key policy period).map Issued.ordinal =
    FiscalDb.ordinalsTo (db.issuedIn key policy period).length

variable (key : SeriesKey) (db : FiscalDb)

variable (s : DocumentNumberSequence)

/-- The counter goes on from the numbers of the policy and period, or starts them. -/
def Continues (policy : ResetPeriod) (period : String) : Prop :=
  (s.periodKey = period → s.currentValue = (db.issuedIn key policy period).length) ∧
    (s.periodKey ≠ period → db.issuedIn key policy period = [])

/-- A number of another prefix, or of another policy with a period of the same name. -/
def Issued.elsewhere (i : Issued) (numberPrefix : String) (policy : ResetPeriod)
    (period : String) : Prop :=
  i.numberPrefix ≠ numberPrefix ∨ (i.policy ≠ policy ∧ i.period = period)

/-- No earlier number from elsewhere reads like the one the series comes to next. -/
def Unspent (saleId : String) (policy : ResetPeriod) (period : String) : Prop :=
  ∀ i ∈ db.issuedFor key, i.saleId ≠ saleId → i.elsewhere s.numberPrefix policy period →
    i.number ≠ formatNumber s.numberPrefix policy period s.padding (s.nextValue period)

/-- Where a committed claim is given a number of the series, the counter goes on rightly, and the
number reads like none from elsewhere. -/
def KeepsNumbers : FiscalEvent → Prop
  | .configure _ _ _ _ _ _ _ => True
  | .claim saleId locationId documentKind now commits =>
    commits = true → db.seriesKey locationId documentKind = some key →
      ∀ s policy db' number, db.sequences.find? key = some s →
        ResetPeriod.parse s.resetPeriod = .ok policy →
        db.issue s policy saleId now = .ok (db', number) →
        Continues key db s policy (policy.periodKeyFor now) ∧
          Unspent key db s saleId policy (policy.periodKeyFor now)

section Claim

variable {db db' : FiscalDb} {s : DocumentNumberSequence} {policy : ResetPeriod}
  {saleId locationId documentKind now : String} {number : Option String} {key : SeriesKey}

def newlyIssued (s : DocumentNumberSequence) (policy : ResetPeriod) (saleId now : String) :
    Issued :=
  ⟨s.key, saleId, s.numberPrefix, policy, now, s.padding, s.nextValue (policy.periodKeyFor now)⟩

theorem issue_ok (h : db.issue s policy saleId now = .ok (db', number)) :
    db'.issued = db.issued ++ [newlyIssued s policy saleId now] := by
  unfold FiscalDb.issue at h
  split at h
  · cases h
  · rename_i value hvalue
    obtain ⟨rfl, _⟩ := (checkedI64_eq_some_iff _ _).mp hvalue
    split at h
    · cases h
    · cases h
      rfl

theorem claim_ok (h : db.claimStatutoryNumberForSale saleId locationId documentKind now =
    .ok (db', number)) :
    db' = db ∨ ∃ key s policy, db.seriesKey locationId documentKind = some key ∧
      db.sequences.find? key = some s ∧ ResetPeriod.parse s.resetPeriod = .ok policy ∧
      db.issue s policy saleId now = .ok (db', number) := by
  unfold FiscalDb.claimStatutoryNumberForSale at h
  split at h
  · cases h
    exact .inl rfl
  · cases h
  · rename_i entity hlocation
    obtain ⟨series, hseries, h⟩ := Except.of_bind h
    obtain ⟨kind, hkind, rfl⟩ := Except.of_map (coreResult_ok hseries)
    cases hfind : db.sequences.find? (entity, kind) with
    | none =>
      rw [hfind] at h
      cases h
      exact .inl rfl
    | some s =>
      simp only [hfind] at h
      obtain ⟨policy, hpolicy, hissue⟩ := Except.of_bind h
      refine .inr ⟨(entity, kind), s, policy, ?_, hfind, coreResult_ok hpolicy, hissue⟩
      simp [FiscalDb.seriesKey, hlocation, hkind, Except.toOption]

theorem claim_of_issue (hkey : db.seriesKey locationId documentKind = some key)
    (hfind : db.sequences.find? key = some s) (hpolicy : ResetPeriod.parse s.resetPeriod = .ok policy)
    (hissue : db.issue s policy saleId now = .ok (db', number)) :
    db.claimStatutoryNumberForSale saleId locationId documentKind now = .ok (db', number) := by
  obtain ⟨entity, hlocation, hkind⟩ := Option.bind_eq_some_iff.mp hkey
  obtain ⟨kind, hparse, rfl⟩ := Option.map_eq_some_iff.mp hkind
  have hlocation := Option.join_eq_some_iff.mp hlocation
  cases hdoc : DocumentKind.parse documentKind with
  | error e =>
    rw [hdoc] at hparse
    cases hparse
  | ok kind' =>
    rw [hdoc] at hparse
    obtain rfl := Option.some.inj hparse
    simp [FiscalDb.claimStatutoryNumberForSale, hlocation, FiscalDb.documentNumberSequence, hdoc,
      Except.map, coreResult, Except.bind, hfind, hpolicy, hissue]

theorem NumbersSound.of_issued (h : db'.issuedFor key = db.issuedFor key) :
    NumbersSound key db' ↔ NumbersSound key db := by
  have hin : ∀ policy period, db'.issuedIn key policy period = db.issuedIn key policy period := by
    intro policy period
    rw [FiscalDb.issuedIn, h, FiscalDb.issuedIn]
  constructor
  · intro hsound
    refine ⟨by rw [← h]; exact hsound.distinct, ?_⟩
    intro policy period
    rw [← hin]
    exact hsound.consecutive policy period
  · intro hsound
    refine ⟨by rw [h]; exact hsound.distinct, ?_⟩
    intro policy period
    rw [hin]
    exact hsound.consecutive policy period

theorem ordinalsTo_succ (n : Nat) :
    FiscalDb.ordinalsTo (n + 1) = FiscalDb.ordinalsTo n ++ [(n : Int) + 1] := by
  simp [FiscalDb.ordinalsTo, List.range_succ]

theorem NumbersSound.ordinal (h : NumbersSound key db) {i : Issued} (hi : i ∈ db.issuedFor key) :
    ∃ n : Nat, n < (db.issuedIn key i.policy i.period).length ∧ i.ordinal = (n + 1 : Nat) := by
  have hmem : i ∈ db.issuedIn key i.policy i.period := by
    simp [FiscalDb.issuedIn, hi]
  have hordinal := List.mem_map_of_mem (f := Issued.ordinal) hmem
  rw [h.consecutive, FiscalDb.ordinalsTo] at hordinal
  obtain ⟨n, hn, hvalue⟩ := List.mem_map.mp hordinal
  exact ⟨n, List.mem_range.mp hn, by rw [← hvalue]; rfl⟩

theorem continues_iff (key : SeriesKey) (db : FiscalDb) (s : DocumentNumberSequence)
    (policy : ResetPeriod) (period : String) :
    Continues key db s policy period ↔
      s.nextValue period = ((db.issuedIn key policy period).length : Int) + 1 := by
  unfold Continues DocumentNumberSequence.nextValue
  rw [← List.length_eq_zero_iff]
  split
  · rename_i hperiod
    simp only [hperiod, true_implies, ne_eq, not_true_eq_false, false_implies, and_true]
    omega
  · rename_i hperiod
    simp only [hperiod, false_implies, ne_eq, not_false_eq_true, true_implies, true_and]
    omega

theorem issued_sound_iff (hsound : NumbersSound key db) (hkey : s.key = key)
    (hissued : db'.issued = db.issued ++ [newlyIssued s policy saleId now]) :
    NumbersSound key db' ↔ Continues key db s policy (policy.periodKeyFor now) ∧
      Unspent key db s saleId policy (policy.periodKeyFor now) := by
  have hfor : db'.issuedFor key = db.issuedFor key ++ [newlyIssued s policy saleId now] := by
    simp [FiscalDb.issuedFor, hissued, newlyIssued, hkey]
  have hin : ∀ policy' period, db'.issuedIn key policy' period = db.issuedIn key policy' period ++
      if policy = policy' ∧ policy.periodKeyFor now = period then
        [newlyIssued s policy saleId now] else [] := by
    intro policy' period
    rw [FiscalDb.issuedIn, hfor, List.filter_append, FiscalDb.issuedIn]
    congr 1
    by_cases hsame : policy = policy' ∧ policy.periodKeyFor now = period
    · obtain ⟨rfl, rfl⟩ := hsame
      simp [newlyIssued, Issued.period]
    · rw [if_neg hsame, List.filter_eq_nil_iff]
      intro i hi
      rw [List.mem_singleton.mp hi]
      simp only [newlyIssued, Issued.period, Bool.and_eq_true]
      rintro ⟨hpolicy, hperiod⟩
      exact hsame ⟨of_decide_eq_true hpolicy, of_decide_eq_true hperiod⟩
  rw [continues_iff]
  constructor
  · intro hafter
    constructor
    · have hordinals := hafter.consecutive policy (policy.periodKeyFor now)
      rw [hin, if_pos ⟨rfl, rfl⟩, List.map_append, hsound.consecutive, List.length_append,
        List.length_singleton, ordinalsTo_succ] at hordinals
      simpa [newlyIssued] using List.append_cancel_left hordinals
    · intro i hi hsale _
      have hpair := hafter.distinct
      rw [hfor, List.pairwise_append] at hpair
      exact hpair.2.2 i hi _ (List.mem_singleton_self _) hsale
  · rintro ⟨hnext, hunspent⟩
    constructor
    · rw [hfor, List.pairwise_append]
      refine ⟨hsound.distinct, List.pairwise_singleton _ _, ?_⟩
      intro i hi j hj hsale
      obtain rfl := List.mem_singleton.mp hj
      intro hsame
      obtain ⟨n, hn, hordinal⟩ := hsound.ordinal hi
      have hvalue : s.nextValue (policy.periodKeyFor now) =
          (((db.issuedIn key policy (policy.periodKeyFor now)).length + 1 : Nat) : Int) := by
        rw [hnext]
        rfl
      by_cases helse : i.elsewhere s.numberPrefix policy (policy.periodKeyFor now)
      · exact hunspent i hi hsale helse hsame
      · obtain ⟨hsameStart, hperiod⟩ := not_or.mp helse
        have hread : formatNumber s.numberPrefix i.policy i.period i.padding (n + 1 : Nat) =
            formatNumber s.numberPrefix policy (policy.periodKeyFor now) s.padding
              ((db.issuedIn key policy (policy.periodKeyFor now)).length + 1 : Nat) := by
          rw [← hordinal, ← hvalue]
          rw [Issued.number, not_not.mp hsameStart] at hsame
          exact hsame
        obtain ⟨hnever, hbucket, hsize⟩ := formatNumber_inj hread
        have hname : i.period = policy.periodKeyFor now := by
          by_cases hi' : i.policy = .never
          · rw [Issued.period, hi', hnever.mp hi', ResetPeriod.periodKeyFor_never,
              ResetPeriod.periodKeyFor_never]
          · exact hbucket hi'
        have hpolicy : i.policy = policy := by
          by_contra hne
          exact hperiod ⟨hne, hname⟩
        rw [hpolicy, hname] at hn
        omega
    · intro policy' period
      rw [hin]
      split
      · rename_i hsame
        obtain ⟨rfl, rfl⟩ := hsame
        rw [List.map_append, hsound.consecutive, List.length_append, List.length_singleton,
          ordinalsTo_succ, ← hnext]
        rfl
      · rw [List.append_nil]
        exact hsound.consecutive policy' period

end Claim

section Run

variable {db db' : FiscalDb} {key : SeriesKey}

theorem upsert_issued {entity documentKind numberPrefix now rowId : String} {reset : ResetPeriod}
    {padding : Int} (h : db.upsertDocumentNumberSequence entity documentKind numberPrefix reset
      padding now rowId = .ok db') : db'.issued = db.issued := by
  obtain ⟨kind, _, h⟩ := Except.of_bind h
  split at h
  · cases h
  · split at h
    · cases h
      rfl
    · split at h
      · cases h
        rfl
      · cases h

theorem configure_sound_iff (key : SeriesKey) (db : FiscalDb)
    (entity documentKind numberPrefix : String) (reset : ResetPeriod) (padding : Int)
    (now rowId : String) :
    NumbersSound key (FiscalEvent.act db
        (.configure entity documentKind numberPrefix reset padding now rowId)) ↔
      NumbersSound key db := by
  simp only [FiscalEvent.act]
  cases hcall : db.upsertDocumentNumberSequence entity documentKind numberPrefix reset padding now
      rowId with
  | error e => rfl
  | ok db' =>
    apply NumbersSound.of_issued
    rw [FiscalDb.issuedFor, FiscalDb.issuedFor]
    simp only [Except.toOption, Option.getD_some, upsert_issued hcall]

theorem claim_sound_iff (hsound : NumbersSound key db) (saleId locationId documentKind now : String)
    (commits : Bool) :
    NumbersSound key (FiscalEvent.act db (.claim saleId locationId documentKind now commits)) ↔
      KeepsNumbers key db (.claim saleId locationId documentKind now commits) := by
  simp only [FiscalEvent.act, KeepsNumbers]
  cases commits with
  | false => simp [hsound]
  | true =>
    simp only [if_true, true_implies]
    cases hclaim : db.claimStatutoryNumberForSale saleId locationId documentKind now with
    | error e =>
      refine iff_of_true hsound ?_
      intro hkey s policy db' number hfind hpolicy hissue
      rw [claim_of_issue hkey hfind hpolicy hissue] at hclaim
      cases hclaim
    | ok answer =>
      obtain ⟨db', number⟩ := answer
      rcases claim_ok hclaim with rfl | ⟨key', s, policy, hkey, hfind, hpolicy, hissue⟩
      · refine iff_of_true hsound ?_
        intro hkey s policy db'' number' hfind hpolicy hissue
        rw [claim_of_issue hkey hfind hpolicy hissue] at hclaim
        cases hclaim
        have hgrown := congrArg List.length (issue_ok hissue)
        simp at hgrown
      · have hsame : s.key = key' := Table.find?_key hfind
        by_cases hours : key' = key
        · subst hours
          refine (issued_sound_iff hsound hsame (issue_ok hissue)).trans ?_
          constructor
          · intro hkeeps _ s' policy' db'' number' hfind' hpolicy' _
            obtain rfl := Option.some.inj (hfind.symm.trans hfind')
            obtain rfl := Except.ok.inj (hpolicy.symm.trans hpolicy')
            exact hkeeps
          · intro hkeeps
            exact hkeeps hkey s policy db' number hfind hpolicy hissue
        · have hother : db'.issuedFor key = db.issuedFor key := by
            rw [FiscalDb.issuedFor, issue_ok hissue, List.filter_append, FiscalDb.issuedFor]
            simp [newlyIssued, hsame, hours]
          refine (NumbersSound.of_issued hother).trans (iff_of_true hsound ?_)
          intro hkey' _ _ _ _ _ _ _
          exact absurd (Option.some.inj (hkey.symm.trans hkey')) hours

theorem numbers_step_iff (hsound : NumbersSound key db) (e : FiscalEvent) :
    NumbersSound key (e.act db) ↔ KeepsNumbers key db e := by
  cases e with
  | configure entity documentKind numberPrefix reset padding now rowId =>
    exact (configure_sound_iff key db entity documentKind numberPrefix reset padding now rowId).trans
      (iff_of_true hsound trivial)
  | claim saleId locationId documentKind now commits =>
    exact claim_sound_iff hsound saleId locationId documentKind now commits

def fiscalMachine : Machine FiscalDb FiscalEvent Unit := ⟨fun db e => (e.act db, ())⟩

/-- The numbers of a series stay sound over a run exactly if every committed claim goes on from
the numbers of its policy and period, and reads like none that was given out elsewhere. -/
theorem numbers_sound_iff (key : SeriesKey) (hsound : NumbersSound key db)
    (events : List FiscalEvent) :
    fiscalMachine.Along (fun db e => NumbersSound key (e.act db)) db events ↔
      fiscalMachine.Along (KeepsNumbers key) db events := by
  have hstep : ∀ d e, NumbersSound key d → KeepsNumbers key d e →
      NumbersSound key (fiscalMachine.step d e).1 :=
    fun _ e hd hok => (numbers_step_iff hd e).mpr hok
  exact fiscalMachine.along_iff_of_invariant hstep (fun _ e hd => numbers_step_iff hd e) db events
    hsound

end Run

instance (i : Issued) (numberPrefix : String) (policy : ResetPeriod) (period : String) :
    Decidable (i.elsewhere numberPrefix policy period) :=
  inferInstanceAs (Decidable (_ ∨ _))

instance (key : SeriesKey) (db : FiscalDb) (s : DocumentNumberSequence) (policy : ResetPeriod)
    (period : String) : Decidable (Continues key db s policy period) :=
  inferInstanceAs (Decidable (
    (s.periodKey = period → s.currentValue = (db.issuedIn key policy period).length) ∧
      (s.periodKey ≠ period → db.issuedIn key policy period = [])))

instance (key : SeriesKey) (db : FiscalDb) (s : DocumentNumberSequence) (saleId : String)
    (policy : ResetPeriod) (period : String) : Decidable (Unspent key db s saleId policy period) :=
  inferInstanceAs (Decidable (∀ i ∈ _, _))

theorem keepsNumbers_of_series {key : SeriesKey} {db : FiscalDb} {s : DocumentNumberSequence}
    (policy : ResetPeriod) (saleId locationId documentKind now : String)
    (hfind : db.sequences.find? key = some s) (hpolicy : ResetPeriod.parse s.resetPeriod = .ok policy)
    (h : Continues key db s policy (policy.periodKeyFor now) ∧
      Unspent key db s saleId policy (policy.periodKeyFor now)) (commits : Bool) :
    KeepsNumbers key db (.claim saleId locationId documentKind now commits) := by
  intro _ _ s' policy' _ _ hfind' hpolicy' _
  obtain rfl := Option.some.inj (hfind.symm.trans hfind')
  obtain rfl := Except.ok.inj (hpolicy.symm.trans hpolicy')
  exact h

def receiptSeries : SeriesKey := ("ent-1", .receipt)

def unnumberedDb : FiscalDb :=
  ⟨["ent-1"], [("loc-1", some "ent-1")], Table.empty, fun _ => none, []⟩

def configureReceipts (reset : ResetPeriod) : FiscalEvent :=
  .configure "ent-1" "receipt" "INV/" reset 4 "2026-09-01T08:00:00.000Z" "seq-1"

def claimReceipt (saleId now : String) : FiscalEvent := .claim saleId "loc-1" "receipt" now true

def monthlyReceipts : List FiscalEvent :=
  [configureReceipts .monthly, claimReceipt "sale-1" "2026-09-26T10:15:00.000Z",
    claimReceipt "sale-2" "2026-09-26T10:16:00.000Z",
    .configure "ent-1" "receipt" "INV/" .monthly 6 "2026-09-30T08:00:00.000Z" "seq-2",
    claimReceipt "sale-3" "2026-10-01T09:00:00.000Z"]

def policyThereAndBack : List FiscalEvent :=
  [configureReceipts .monthly, claimReceipt "sale-1" "2026-09-26T10:15:00.000Z",
    configureReceipts .never, claimReceipt "sale-2" "2026-09-26T10:16:00.000Z",
    configureReceipts .monthly, claimReceipt "sale-3" "2026-09-26T10:17:00.000Z"]

theorem unnumbered_sound : NumbersSound receiptSeries unnumberedDb :=
  ⟨List.Pairwise.nil, fun _ _ => rfl⟩

def receiptRow (currentValue : Int) (periodKey : String) (padding : Int) (updatedAt : String) :
    DocumentNumberSequence :=
  ⟨"seq-1", "ent-1", .receipt, "INV/", currentValue, "monthly", periodKey, padding,
    "2026-09-01T08:00:00.000Z", updatedAt⟩

theorem monthly_receipts_sound : NumbersSound receiptSeries unnumberedDb ∧
    fiscalMachine.Along (fun db e => NumbersSound receiptSeries (e.act db)) unnumberedDb
      monthlyReceipts := by
  refine ⟨unnumbered_sound, (numbers_sound_iff receiptSeries unnumbered_sound monthlyReceipts).mpr
    ⟨trivial, ?_, ?_, trivial, ?_, trivial⟩⟩
  · exact keepsNumbers_of_series (s := receiptRow 0 "2026-09" 4 "2026-09-01T08:00:00.000Z")
      .monthly _ _ _ _ (by decide +kernel) rfl (by decide +kernel) _
  · exact keepsNumbers_of_series (s := receiptRow 1 "2026-09" 4 "2026-09-26T10:15:00.000Z")
      .monthly _ _ _ _ (by decide +kernel) rfl (by decide +kernel) _
  · exact keepsNumbers_of_series (s := receiptRow 2 "2026-09" 6 "2026-09-30T08:00:00.000Z")
      .monthly _ _ _ _ (by decide +kernel) rfl (by decide +kernel) _

theorem policy_change_reissues : NumbersSound receiptSeries unnumberedDb ∧
    ((fiscalMachine.run unnumberedDb policyThereAndBack).statutoryNumbers "sale-1" =
      some "INV/2026-09/0001" ∧
    (fiscalMachine.run unnumberedDb policyThereAndBack).statutoryNumbers "sale-3" =
      some "INV/2026-09/0001") ∧
    ¬ NumbersSound receiptSeries (fiscalMachine.run unnumberedDb policyThereAndBack) := by
  refine ⟨unnumbered_sound, by decide +kernel, ?_⟩
  intro h
  have hordinals := h.consecutive .monthly "2026-09"
  exact absurd hordinals (by decide +kernel)

end OzPos
