import OzPos.Numbering.ReceiptBadges
import OzPos.Numbering.ReceiptDates

namespace OzPos

def TwoHexDigits (index : Int) : Prop := 0 ≤ index ∧ index ≤ 255

structure IndexesFit (tenantId : String) (b : Badges) : Prop where
  rows : ∀ row ∈ b.rows.rows, row.tenantId = tenantId → ∀ i, row.indexId = some i → TwoHexDigits i
  cursor : ∀ n, b.nextValue tenantId = some n → 1 ≤ n

/-- The stored indexes of a tenant are ones the allocator hands out, and no counter is negative. -/
structure CodesFit (tenantId : String) (db : ReceiptDb) : Prop where
  badges : ∀ kind, IndexesFit tenantId (db.badges kind)
  counters : ∀ key n, db.counters key = some n → 0 ≤ n

/-- What a receipt code is made of, and the year its sequence belongs to. -/
structure ReceiptParts where
  (locIdx termIdx staffIdx : Int)
  (yymmdd fiscalYear : String)
  seq : Int

namespace ReceiptParts

def code (p : ReceiptParts) : String :=
  assembleReceiptCode p.locIdx p.termIdx p.yymmdd p.staffIdx p.seq

structure Fits (p : ReceiptParts) : Prop where
  locIdx : TwoHexDigits p.locIdx
  termIdx : TwoHexDigits p.termIdx
  staffIdx : TwoHexDigits p.staffIdx
  yymmdd : p.yymmdd.toList.length = 6
  seq : 1 ≤ p.seq ∧ p.seq ≤ 999999

end ReceiptParts

def MintCall.code (clock : ReceiptClock) (tenantId : String) (db : ReceiptDb) (c : MintCall) :
    Option String :=
  match db.mintReceiptCode clock tenantId c.locationId c.terminalId c.staffUserId c.nowUtc with
  | .ok (_, code, _) => code
  | .error _ => none

def saleCodes (clock : ReceiptClock) (tenantId : String) : ReceiptDb → List MintCall → List String
  | _, [] => []
  | db, c :: rest =>
    (if c.commits then (c.code clock tenantId db).toList else []) ++
      saleCodes clock tenantId (c.act clock tenantId db) rest

def codeDate (code : String) : String := String.ofList ((code.toList.drop 6).take 6)

section Text

theorem length_indexHex (n : Nat) (h : n < 256) : (indexHex n).toList.length = 2 := by
  have hdigits : (Nat.toDigits 16 n).length ≤ 2 :=
    (Nat.length_toDigits_le_iff (by decide) (by decide)).mpr h
  rw [indexHex, String.toList_ofList, List.length_leftpad, List.length_map, Int.toNat_natCast]
  omega

theorem TwoHexDigits.length {index : Int} (h : TwoHexDigits index) :
    (indexHex index).toList.length = 2 := by
  obtain ⟨hlow, hhigh⟩ := h
  obtain ⟨n, rfl⟩ := Int.eq_ofNat_of_zero_le hlow
  exact length_indexHex n (by omega)

theorem length_sequenceTail {seq : Int} (h : 1 ≤ seq ∧ seq ≤ 999999) :
    (sequenceTail seq).toList.length = 6 := by
  obtain ⟨n, rfl⟩ := Int.eq_ofNat_of_zero_le (Int.le_trans (by decide) h.1)
  exact @length_padOrdinal 6 n (by decide) (by omega)

theorem sequenceTail_inj {n m : Int} (hn : 1 ≤ n) (hm : 1 ≤ m)
    (h : sequenceTail n = sequenceTail m) : n = m :=
  @padOrdinal_inj_int 6 n m (by omega) (by omega) h

variable {p q : ReceiptParts}

theorem ReceiptParts.Fits.length (h : p.Fits) : p.code.length = 22 := by
  rw [← String.length_toList]
  simp only [ReceiptParts.code, assembleReceiptCode, String.toList_append, List.length_append,
    h.locIdx.length, h.termIdx.length, h.staffIdx.length, h.yymmdd, length_sequenceTail h.seq]
  rfl

theorem ReceiptParts.Fits.code_inj (hp : p.Fits) (hq : q.Fits) (h : p.code = q.code) :
    indexHex p.termIdx = indexHex q.termIdx ∧ p.yymmdd = q.yymmdd ∧ p.seq = q.seq := by
  have htext := congrArg String.toList h
  simp only [ReceiptParts.code, assembleReceiptCode, String.toList_append] at htext
  obtain ⟨htext, htail⟩ := List.append_inj' htext
    ((length_sequenceTail hp.seq).trans (length_sequenceTail hq.seq).symm)
  obtain ⟨htext, -⟩ := List.append_inj' htext rfl
  obtain ⟨htext, -⟩ := List.append_inj' htext (hp.staffIdx.length.trans hq.staffIdx.length.symm)
  obtain ⟨htext, -⟩ := List.append_inj' htext rfl
  obtain ⟨htext, hdate⟩ := List.append_inj' htext (hp.yymmdd.trans hq.yymmdd.symm)
  obtain ⟨htext, -⟩ := List.append_inj' htext rfl
  obtain ⟨htext, hterm⟩ := List.append_inj' htext (hp.termIdx.length.trans hq.termIdx.length.symm)
  exact ⟨String.toList_inj.mp hterm, String.toList_inj.mp hdate,
    sequenceTail_inj hp.seq.1 hq.seq.1 (String.toList_inj.mp htail)⟩

theorem ReceiptParts.Fits.codeDate (h : p.Fits) : codeDate p.code = p.yymmdd := by
  have htext : p.code.toList =
      ((indexHex p.locIdx).toList ++ "-".toList ++ (indexHex p.termIdx).toList ++ "-".toList) ++
        (p.yymmdd.toList ++ ("-".toList ++ (indexHex p.staffIdx).toList ++ "-".toList ++
          (sequenceTail p.seq).toList)) := by
    simp only [ReceiptParts.code, assembleReceiptCode, String.toList_append, List.append_assoc]
  have hfront : ((indexHex p.locIdx).toList ++ "-".toList ++ (indexHex p.termIdx).toList ++
      "-".toList).length = 6 := by
    simp only [List.length_append, h.locIdx.length, h.termIdx.length]
    rfl
  rw [OzPos.codeDate, htext, List.drop_left' hfront, List.take_left' h.yymmdd,
    String.ofList_toList]

end Text

section Mint

variable {clock : ReceiptClock} {tenantId : String}

variable {i : Int}

theorem IndexesFit.ensured {kind : EntityIndexKind} {entityId : String} {b b' : Badges}
    (hb : IndexesFit tenantId b) (h : b.ensureEntityIndex kind tenantId entityId = .ok (b', i)) :
    IndexesFit tenantId b' ∧ TwoHexDigits i := by
  unfold Badges.ensureEntityIndex at h
  split at h
  · rename_i index hindex
    cases h
    obtain ⟨row, hrow, hid, htenant, hworn⟩ := indexOf_eq_some hindex
    exact ⟨⟨hb.rows, hb.cursor⟩, hb.rows row hrow htenant i hworn⟩
  · obtain ⟨⟨b₁, index⟩, hallocate, h⟩ := Except.of_bind h
    obtain ⟨b₂, hwrite, hanswer⟩ := Except.of_map h
    cases hanswer
    simp only [Badges.allocateEntityIndex] at hallocate
    split at hallocate
    · cases hallocate
    · rename_i hroom
      cases hallocate
      obtain ⟨hnext, hasked, hrows⟩ := writeIndex_ok hwrite
      have hpositive : 2 ≤ ((b.nextValue tenantId).map (· + 1)).getD 2 := by
        cases hcursor : b.nextValue tenantId with
        | none => simp
        | some n =>
          have hn := hb.cursor n hcursor
          simp only [Option.map_some, Option.getD_some]
          omega
      unfold indexIdMax at hroom
      have hfits : TwoHexDigits (((b.nextValue tenantId).map (· + 1)).getD 2 - 1) := by
        unfold TwoHexDigits
        omega
      refine ⟨⟨?_, ?_⟩, hfits⟩
      · intro row' hrow' htenant j hj
        obtain ⟨row, hrow, hid, hsame, hindex⟩ := hrows row' hrow'
        rw [hindex] at hj
        split at hj
        · rw [← Option.some.inj hj]
          exact hfits
        · exact hb.rows row hrow (hsame ▸ htenant) j hj
      · intro n hn
        simp only [hnext, Function.update_self, Option.some.injEq] at hn
        omega

variable {db db' : ReceiptDb}

theorem CodesFit.ensured {kind : EntityIndexKind} {entityId : String}
    (hdb : CodesFit tenantId db) (h : db.ensure kind tenantId entityId = .ok (db', i)) :
    CodesFit tenantId db' ∧ TwoHexDigits i ∧ db'.counters = db.counters ∧
      db'.timezones = db.timezones := by
  obtain ⟨b, hensure, rfl⟩ := ensureAt_ok h
  obtain ⟨hb, hi⟩ := (hdb.badges kind).ensured hensure
  refine ⟨⟨?_, hdb.counters⟩, hi, rfl, rfl⟩
  intro other
  by_cases hother : other = kind
  · rw [hother]
    simpa using hb
  · simpa [Function.update_of_ne hother] using hdb.badges other

theorem CodesFit.staffed {staffUserId : String}
    (hdb : CodesFit tenantId db) (h : db.staffIndex tenantId staffUserId = .ok (db', i)) :
    CodesFit tenantId db' ∧ TwoHexDigits i ∧ db'.counters = db.counters ∧
      db'.timezones = db.timezones := by
  unfold ReceiptDb.staffIndex at h
  split at h
  · cases h
    exact ⟨hdb, ⟨Int.le_refl 0, by decide⟩, rfl, rfl⟩
  · exact hdb.ensured h

def ReceiptDb.receiptOffset (db : ReceiptDb) (locationId : String) : Int :=
  (offsetSeconds ((db.timezones locationId).getD "UTC")).getD 0

def ReceiptDb.lastSeq (db : ReceiptDb) (tenantId terminalIdx fiscalYear : String) : Int :=
  (db.counters (tenantId, terminalIdx, fiscalYear)).getD 0

theorem CodesFit.lastSeq_nonneg (hdb : CodesFit tenantId db)
    (tenant terminalIdx fiscalYear : String) : 0 ≤ db.lastSeq tenant terminalIdx fiscalYear := by
  unfold ReceiptDb.lastSeq
  cases hn : db.counters (tenant, terminalIdx, fiscalYear) with
  | none => exact Int.le_refl 0
  | some n => exact hdb.counters _ n hn

theorem claimReceiptSequence_parts {terminalIdx fiscalYear : String}
    {seq : Int} (h : db.claimReceiptSequence tenantId terminalIdx fiscalYear = .ok (db', seq)) :
    db'.badges = db.badges ∧ db'.timezones = db.timezones ∧
      seq = db.lastSeq tenantId terminalIdx fiscalYear + 1 ∧ seq ≤ 999999 ∧
      db'.counters = Function.update db.counters (tenantId, terminalIdx, fiscalYear) (some seq) := by
  simp only [ReceiptDb.claimReceiptSequence] at h
  split at h
  · cases h
  · rename_i hroom
    unfold sequenceMax at hroom
    cases h
    refine ⟨rfl, rfl, ?_, by omega, rfl⟩
    unfold ReceiptDb.lastSeq
    cases db.counters (tenantId, terminalIdx, fiscalYear) with
    | none => rfl
    | some n => rfl

/-- The parts of a minted code: its date and year those of the location's day, and its number the
next of the series that the year and the terminal's digits key. -/
structure MintedParts (clock : ReceiptClock) (tenantId : String) (c : MintCall)
    (db db' : ReceiptDb) (p : ReceiptParts) : Prop where
  dated : clock.localDate c.nowUtc (db.receiptOffset c.locationId) = .ok (p.yymmdd, p.fiscalYear)
  locIdx : TwoHexDigits p.locIdx
  termIdx : TwoHexDigits p.termIdx
  staffIdx : TwoHexDigits p.staffIdx
  seq : p.seq = db.lastSeq tenantId (indexHex p.termIdx) p.fiscalYear + 1
  seq_le : p.seq ≤ 999999
  counters : db'.counters = Function.update db.counters
    (tenantId, indexHex p.termIdx, p.fiscalYear) (some p.seq)

theorem mint_parts {c : MintCall} {code terminal : Option String}
    (hdb : CodesFit tenantId db)
    (h : db.mintReceiptCode clock tenantId c.locationId c.terminalId c.staffUserId c.nowUtc =
      .ok (db', code, terminal)) :
    CodesFit tenantId db' ∧ db'.timezones = db.timezones ∧
      (code = none ∧ db'.counters = db.counters ∨
        ∃ p, code = some p.code ∧ MintedParts clock tenantId c db db' p) := by
  obtain ⟨⟨db₁, staffIdx⟩, hstaff, h⟩ := Except.of_bind h
  obtain ⟨hfit₁, hstaffIdx, hcounters₁, hzones₁⟩ := hdb.staffed hstaff
  obtain ⟨⟨db₂, locIdx⟩, hlocation, h⟩ := Except.of_bind h
  obtain ⟨hfit₂, hlocIdx, hcounters₂, hzones₂⟩ := hfit₁.ensured hlocation
  cases hterm : c.terminalId with
  | none =>
    simp only [hterm] at h
    cases h
    exact ⟨hfit₂, hzones₂.trans hzones₁, .inl ⟨rfl, hcounters₂.trans hcounters₁⟩⟩
  | some term =>
    simp only [hterm] at h
    obtain ⟨⟨db₃, termIdx⟩, hterminal, h⟩ := Except.of_bind h
    obtain ⟨hfit₃, htermIdx, hcounters₃, hzones₃⟩ := hfit₂.ensured hterminal
    obtain ⟨⟨yymmdd, year⟩, hdate, h⟩ := Except.of_bind h
    obtain ⟨⟨db₄, seq⟩, hclaim, h⟩ := Except.of_map h
    have hzones : db₃.timezones = db.timezones := hzones₃.trans (hzones₂.trans hzones₁)
    have hcounters : db₃.counters = db.counters := hcounters₃.trans (hcounters₂.trans hcounters₁)
    have hdated : clock.localDate c.nowUtc (db.receiptOffset c.locationId) = .ok (yymmdd, year) := by
      simp only [resolveReceiptDate] at hdate
      split at hdate
      · cases hdate
      · rename_i date hlocal
        cases hdate
        rw [ReceiptDb.receiptOffset, ← hzones]
        exact hlocal
    obtain ⟨hbadges, hsameZones, hseq, hle, hclaimed⟩ := claimReceiptSequence_parts hclaim
    rw [ReceiptDb.lastSeq, hcounters] at hseq
    rw [hcounters] at hclaimed
    cases h
    refine ⟨⟨?_, ?_⟩, hsameZones.trans hzones, .inr ⟨⟨locIdx, termIdx, staffIdx, yymmdd, year, seq⟩,
      rfl, ⟨hdated, hlocIdx, htermIdx, hstaffIdx, hseq, hle, hclaimed⟩⟩⟩
    · intro kind
      simp only [hbadges]
      exact hfit₃.badges kind
    · intro key n hn
      simp only [hclaimed] at hn
      by_cases hkey : key = (tenantId, indexHex termIdx, year)
      · rw [hkey, Function.update_self, Option.some.injEq] at hn
        have hnonneg := hdb.lastSeq_nonneg tenantId (indexHex termIdx) year
        unfold ReceiptDb.lastSeq at hnonneg
        have hn : seq = n := hn
        have hseq : seq = (db.counters (tenantId, indexHex termIdx, year)).getD 0 + 1 := hseq
        omega
      · rw [Function.update_of_ne hkey] at hn
        exact hdb.counters key n hn

end Mint

section Runs

variable {tenantId : String}

variable {db : ReceiptDb}

theorem CodesFit.act (hdb : CodesFit tenantId db) (clock : ReceiptClock) (c : MintCall) :
    CodesFit tenantId (c.act clock tenantId db) ∧
      (c.act clock tenantId db).timezones = db.timezones := by
  unfold MintCall.act
  split
  · split
    · rename_i db' answer hcall
      obtain ⟨code, terminal⟩ := answer
      obtain ⟨hfit, hzones, -⟩ := mint_parts hdb hcall
      exact ⟨hfit, hzones⟩
    · exact ⟨hdb, rfl⟩
  · exact ⟨hdb, rfl⟩

theorem CodesFit.run (hdb : CodesFit tenantId db) (clock : ReceiptClock) (calls : List MintCall) :
    CodesFit tenantId ((mintMachine clock tenantId).run db calls) ∧
      ((mintMachine clock tenantId).run db calls).timezones = db.timezones := by
  induction calls generalizing db with
  | nil => exact ⟨hdb, rfl⟩
  | cons c rest ih =>
    obtain ⟨hfit, hzones⟩ := hdb.act clock c
    obtain ⟨hlast, hsame⟩ := ih hfit
    exact ⟨hlast, hsame.trans hzones⟩

/-- All mints of a run date their receipts within a hundred years. -/
def WithinCentury (rfc : Rfc3339) (first : Int) (db : ReceiptDb) (calls : List MintCall) : Prop :=
  ∀ c ∈ calls, ∀ t, rfc.seconds c.nowUtc = .ok t →
    first ≤ yearOfDay (localDay t (db.receiptOffset c.locationId)) ∧
      yearOfDay (localDay t (db.receiptOffset c.locationId)) < first + 100

def PrintsDay (p : ReceiptParts) (day : Int) : Prop :=
  p.yymmdd = yymmdd day ∧ p.fiscalYear = yearText (yearOfDay day)

variable {rfc : Rfc3339} {c : MintCall} {p : ReceiptParts} {db' : ReceiptDb}

theorem MintedParts.day (h : MintedParts rfc.clock tenantId c db db' p) :
    ∃ t, rfc.seconds c.nowUtc = .ok t ∧
      PrintsDay p (localDay t (db.receiptOffset c.locationId)) := by
  obtain ⟨t, ht, hdate⟩ := Except.of_map h.dated
  obtain ⟨hdate, hyear⟩ := Prod.mk.inj hdate
  exact ⟨t, ht, hdate.symm, hyear.symm⟩

theorem MintedParts.fits
    (hdb : CodesFit tenantId db) (h : MintedParts rfc.clock tenantId c db db' p) : p.Fits := by
  obtain ⟨t, ht, hdate, hyear⟩ := h.day
  have hlast := hdb.lastSeq_nonneg tenantId (indexHex p.termIdx) p.fiscalYear
  have hseq := h.seq
  exact ⟨h.locIdx, h.termIdx, h.staffIdx, hdate ▸ length_yymmdd _, by omega, h.seq_le⟩

theorem MintedParts.lastSeq {clock : ReceiptClock} (h : MintedParts clock tenantId c db db' p) :
    db'.lastSeq tenantId (indexHex p.termIdx) p.fiscalYear = p.seq ∧
      ∀ terminalIdx fiscalYear, db.lastSeq tenantId terminalIdx fiscalYear ≤
        db'.lastSeq tenantId terminalIdx fiscalYear := by
  constructor
  · simp [ReceiptDb.lastSeq, h.counters]
  · intro terminalIdx fiscalYear
    have hseq := h.seq
    unfold ReceiptDb.lastSeq at hseq ⊢
    rw [h.counters]
    by_cases hkey : (tenantId, terminalIdx, fiscalYear) =
        (tenantId, indexHex p.termIdx, p.fiscalYear)
    · rw [hkey, Function.update_self, Option.getD_some]
      omega
    · rw [Function.update_of_ne hkey]

theorem code_parts {clock : ReceiptClock} {code : String}
    (hdb : CodesFit tenantId db) (h : c.code clock tenantId db = some code) :
    ∃ p db', code = p.code ∧ MintedParts clock tenantId c db db' p ∧
      (c.commits = true → c.act clock tenantId db = db') := by
  unfold MintCall.code at h
  split at h
  · rename_i db' printed terminal hcall
    obtain ⟨-, -, hparts⟩ := mint_parts hdb hcall
    rcases hparts with ⟨hnone, -⟩ | ⟨p, hcode, hminted⟩
    · rw [hnone] at h
      cases h
    · rw [hcode] at h
      refine ⟨p, db', (Option.some.inj h).symm, hminted, ?_⟩
      intro hcommits
      simp [MintCall.act, hcommits, hcall]
  · cases h

theorem CodesFit.act_lastSeq_le (hdb : CodesFit tenantId db)
    (clock : ReceiptClock) (c : MintCall) (terminalIdx fiscalYear : String) :
    db.lastSeq tenantId terminalIdx fiscalYear ≤
      (c.act clock tenantId db).lastSeq tenantId terminalIdx fiscalYear := by
  unfold MintCall.act
  split
  · split
    · rename_i db' answer hcall
      obtain ⟨code, terminal⟩ := answer
      obtain ⟨-, -, hparts⟩ := mint_parts hdb hcall
      rcases hparts with ⟨-, hcounters⟩ | ⟨p, -, hminted⟩
      · simp [ReceiptDb.lastSeq, hcounters]
      · exact hminted.lastSeq.2 terminalIdx fiscalYear
    · exact Int.le_refl _
  · exact Int.le_refl _

variable {first : Int}

theorem WithinCentury.rest {calls : List MintCall} (hdb : CodesFit tenantId db)
    (h : WithinCentury rfc first db (c :: calls)) :
    WithinCentury rfc first (c.act rfc.clock tenantId db) calls := by
  intro other hother t ht
  have hsame : (c.act rfc.clock tenantId db).receiptOffset other.locationId =
      db.receiptOffset other.locationId := by
    rw [ReceiptDb.receiptOffset, (hdb.act rfc.clock c).2, ReceiptDb.receiptOffset]
  rw [hsame]
  exact h other (List.mem_cons_of_mem c hother) t ht

/-- The parts of a code minted in a run, above what the series had reached before it. -/
structure MintedLater (tenantId : String) (first : Int) (db : ReceiptDb) (p : ReceiptParts) :
    Prop where
  fits : p.Fits
  later : db.lastSeq tenantId (indexHex p.termIdx) p.fiscalYear < p.seq
  day : ∃ day, PrintsDay p day ∧ first ≤ yearOfDay day ∧ yearOfDay day < first + 100

theorem code_later {calls : List MintCall} {code : String} (hdb : CodesFit tenantId db)
    (hcentury : WithinCentury rfc first db (c :: calls))
    (h : c.code rfc.clock tenantId db = some code) :
    ∃ p, code = p.code ∧ MintedLater tenantId first db p := by
  obtain ⟨p, db', hcode, hminted, -⟩ := code_parts hdb h
  obtain ⟨t, ht, hday⟩ := hminted.day
  have hseq := hminted.seq
  exact ⟨p, hcode, hminted.fits hdb, by omega, _, hday, hcentury c List.mem_cons_self t ht⟩

variable (calls : List MintCall)

theorem saleCodes_later (hdb : CodesFit tenantId db) (hcentury : WithinCentury rfc first db calls) :
    ∀ code ∈ saleCodes rfc.clock tenantId db calls,
      ∃ p, code = p.code ∧ MintedLater tenantId first db p := by
  induction calls generalizing db with
  | nil =>
    intro code hcode
    cases hcode
  | cons c rest ih =>
    intro code hcode
    rcases List.mem_append.mp hcode with hhere | hlater
    · split at hhere
      · exact code_later hdb hcentury (by simpa using hhere)
      · cases hhere
    · obtain ⟨p, hp, hminted⟩ := ih (hdb.act rfc.clock c).1 (hcentury.rest hdb) code hlater
      have hle := hdb.act_lastSeq_le rfc.clock c (indexHex p.termIdx) p.fiscalYear
      have hlast := hminted.later
      exact ⟨p, hp, hminted.fits, by omega, hminted.day⟩

theorem same_series {q : ReceiptParts} (hp : p.Fits) (hq : q.Fits)
    (hpday : ∃ day, PrintsDay p day ∧ first ≤ yearOfDay day ∧ yearOfDay day < first + 100)
    (hqday : ∃ day, PrintsDay q day ∧ first ≤ yearOfDay day ∧ yearOfDay day < first + 100)
    (h : p.code = q.code) :
    indexHex p.termIdx = indexHex q.termIdx ∧ p.fiscalYear = q.fiscalYear ∧ p.seq = q.seq := by
  obtain ⟨hterm, hdate, hseq⟩ := hp.code_inj hq h
  obtain ⟨day, ⟨hpdate, hpyear⟩, hlow, hhigh⟩ := hpday
  obtain ⟨day', ⟨hqdate, hqyear⟩, hlow', hhigh'⟩ := hqday
  have hyears := (yymmdd_fields (hpdate.symm.trans (hdate.trans hqdate))).1
  -- within a hundred years the two digits tell the year
  have hsame : yearOfDay day = yearOfDay day' := by omega
  exact ⟨hterm, by rw [hpyear, hqyear, hsame], hseq⟩

theorem saleCodes_nodup (hdb : CodesFit tenantId db) (hcentury : WithinCentury rfc first db calls) :
    (saleCodes rfc.clock tenantId db calls).Nodup := by
  induction calls generalizing db with
  | nil => exact List.nodup_nil
  | cons c rest ih =>
    have hrest := ih (hdb.act rfc.clock c).1 (hcentury.rest hdb)
    unfold saleCodes
    by_cases hcommits : c.commits = true
    · rw [if_pos hcommits]
      cases hcode : c.code rfc.clock tenantId db with
      | none => exact hrest
      | some code =>
        rw [Option.toList_some, List.singleton_append, List.nodup_cons]
        refine ⟨?_, hrest⟩
        intro hagain
        obtain ⟨p, db', hp, hminted, hact⟩ := code_parts hdb hcode
        obtain ⟨q, hq, hlater⟩ :=
          saleCodes_later rest (hdb.act rfc.clock c).1 (hcentury.rest hdb) code hagain
        obtain ⟨t, ht, hday⟩ := hminted.day
        obtain ⟨hterm, hyear, hseq⟩ := same_series (hminted.fits hdb) hlater.fits
          ⟨_, hday, hcentury c List.mem_cons_self t ht⟩ hlater.day (hp.symm.trans hq)
        have habove := hlater.later
        rw [hact hcommits, ← hterm, ← hyear, hminted.lastSeq.1] at habove
        omega
    · rw [if_neg hcommits]
      exact hrest

end Runs

/-- The receipt codes of a tenant's sales within a century are all different, every code has 22
characters, and a code shows the business day of the reports just where both parsers read the
location's timezone alike or its offset leaves the instant on the same day of UTC. -/
theorem receipt_codes_unique_and_dated (rfc : Rfc3339) {tenantId : String} {db : ReceiptDb}
    (hdb : CodesFit tenantId db) :
    (∀ (first : Int) (calls : List MintCall), WithinCentury rfc first db calls →
        (saleCodes rfc.clock tenantId db calls).Nodup) ∧
      (∀ (calls : List MintCall) (c : MintCall) (code : String),
        c.code rfc.clock tenantId ((mintMachine rfc.clock tenantId).run db calls) = some code →
          code.length = 22) ∧
      ∀ (calls : List MintCall) (c : MintCall) (code tz : String) (t offset : Int),
        c.code rfc.clock tenantId ((mintMachine rfc.clock tenantId).run db calls) = some code →
          db.timezones c.locationId = some tz → rfc.seconds c.nowUtc = .ok t →
          reportOffset tz = some offset →
          (codeDate code = yymmdd (localDay t offset) ↔
            ReadAlike tz offset ∨ SameUtcDay t offset) := by
  refine ⟨fun first calls hcentury => saleCodes_nodup calls hdb hcentury, ?_, ?_⟩
  · intro calls c code hcode
    have hreached := (hdb.run rfc.clock calls).1
    obtain ⟨p, db', hp, hminted, -⟩ := code_parts hreached hcode
    rw [hp]
    exact (hminted.fits hreached).length
  · intro calls c code tz t offset hcode htz ht hreport
    obtain ⟨hreached, hzones⟩ := hdb.run rfc.clock calls
    obtain ⟨p, db', hp, hminted, -⟩ := code_parts hreached hcode
    obtain ⟨t', ht', hdate, -⟩ := hminted.day
    rw [ht] at ht'
    obtain rfl := Except.ok.inj ht'
    have hoffset : ((mintMachine rfc.clock tenantId).run db calls).receiptOffset c.locationId =
        (offsetSeconds tz).getD 0 := by
      rw [ReceiptDb.receiptOffset, hzones, htz, Option.getD_some]
    rw [← dated_like_reports_iff rfc hreport ht, DatedLikeReports,
      resolveReceiptDate_eq rfc tz ht, hp, (hminted.fits hreached).codeDate, hdate, hoffset]
    simp

theorem Unminted.fit {tenantId : String} {db : ReceiptDb} (h : Unminted tenantId db)
    (hcounters : ∀ key n, db.counters key = some n → 0 ≤ n) : CodesFit tenantId db where
  badges := by
    intro kind
    constructor
    · intro row hrow htenant i hi
      rw [h.rows kind row hrow htenant] at hi
      cases hi
    · intro n hn
      rw [h.cursors kind] at hn
      cases hn
  counters := hcounters

def eveningRfc : Rfc3339 where
  seconds := fun text =>
    if text = "2026-09-18T17:30:00.000Z" then .ok 1789752600
    else .error "input contains invalid characters"

def lateSale : MintCall := ⟨"loc-1", some "till-1", "user-1", "2026-09-18T17:30:00.000Z", true⟩

theorem offset_receipts_unique_and_dated :
    saleCodes eveningRfc.clock "default" unmintedDb [lateSale, lateSale] =
        ["01-01-260919-01-000001", "01-01-260919-01-000002"] ∧
      (saleCodes eveningRfc.clock "default" unmintedDb [lateSale, lateSale]).Nodup ∧
      (codeDate "01-01-260919-01-000001" = yymmdd (localDay 1789752600 25200) ↔
        ReadAlike "+07:00" 25200 ∨ SameUtcDay 1789752600 25200) := by
  have hfit : CodesFit "default" unmintedDb :=
    unmintedDb_unminted.fit (fun key n hn => by cases hn)
  obtain ⟨hunique, -, hdated⟩ := receipt_codes_unique_and_dated eveningRfc hfit
  refine ⟨by decide +kernel, hunique 2000 _ ?_, ?_⟩
  · intro c hc t ht
    have hcall : c = lateSale := by simpa using hc
    rw [hcall] at ht ⊢
    have hinstant : eveningRfc.seconds lateSale.nowUtc = .ok 1789752600 := by decide +kernel
    rw [hinstant] at ht
    obtain rfl := Except.ok.inj ht
    decide +kernel
  · exact hdated [] lateSale _ "+07:00" 1789752600 25200 (by decide +kernel) rfl
      (by decide +kernel) (by decide +kernel)

def jakartaDb : ReceiptDb := { unmintedDb with timezones := fun _ => some "Asia/Jakarta" }

theorem jakarta_receipt_dated_yesterday :
    lateSale.code eveningRfc.clock "default" jakartaDb = some "01-01-260918-01-000001" ∧
      reportOffset "Asia/Jakarta" = some 25200 ∧
      eveningRfc.seconds lateSale.nowUtc = .ok 1789752600 ∧
      yymmdd (localDay 1789752600 25200) = "260919" ∧
      codeDate "01-01-260918-01-000001" ≠ yymmdd (localDay 1789752600 25200) := by
  decide +kernel

end OzPos
