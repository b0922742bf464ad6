import OzPos.Tax.TaxRates
import OzPos.Library.Newest
import Mathlib.Data.Prod.Lex
import Mathlib.Order.WithBot

namespace OzPos

variable (row : TaxRateRow) (locationId : String) (entity : Option String)

/-- How closely a row's scope covers a location, if it does; a row with both scopes covers none. -/
def TaxRateRow.coverage : Option Nat :=
  match row.locationId, row.legalEntityId with
  | .some l, .none => if l = locationId then some 2 else none
  | .none, .some e => if entity = some e then some 1 else none
  | .none, .none => some 0
  | .some _, .some _ => none

/-- The validity window contains the date; a date that does not parse makes it contain none. -/
def TaxRateRow.InWindow (date : Nat) : Prop :=
  (∀ v ∈ row.effectiveFrom, ∃ d, parseEffectiveDate v = some d ∧ d ≤ date) ∧
    ∀ v ∈ row.effectiveTo, ∃ d, parseEffectiveDate v = some d ∧ date < d

structure TaxRateRow.Eligible (row : TaxRateRow) (locationId : String) (entity : Option String)
    (date : Nat) : Prop where
  active : row.isActive = true
  covers : (row.coverage locationId entity).isSome
  inWindow : row.InWindow date

def TaxRateRow.start : WithBot Nat := row.effectiveFrom.bind parseEffectiveDate

/-- Within one scope: the default first, then the newest start, then the smallest id. -/
def TaxRateRow.rateKey : Bool ×ₗ WithBot Nat ×ₗ Stringᵒᵈ :=
  toLex (row.rate.isDefault, toLex (row.start, OrderDual.toDual row.rate.id))

/-- The closest scope first, and within it the key of the rate. -/
def TaxRateRow.scopedKey : WithBot Nat ×ₗ Bool ×ₗ WithBot Nat ×ₗ Stringᵒᵈ :=
  toLex ((row.coverage locationId entity : WithBot Nat), row.rateKey)

def ScopeTier.rank : ScopeTier → Nat
  | .location => 2
  | .legalEntity => 1
  | .global => 0

theorem inTier_iff (tier : ScopeTier) (locationId : String) (entity : Option String) :
    row.inTier tier locationId entity = true ↔ row.coverage locationId entity = some tier.rank := by
  unfold TaxRateRow.inTier TaxRateRow.coverage
  cases hlocation : row.locationId with
  | none =>
    cases hentity : row.legalEntityId with
    | none => cases tier <;> cases entity <;> simp [TaxRateScope.classify, ScopeTier.rank]
    | some e =>
      cases tier <;> cases entity <;> simp [TaxRateScope.classify, ScopeTier.rank, eq_comm]
  | some l =>
    cases hentity : row.legalEntityId with
    | none => cases tier <;> cases entity <;> simp [TaxRateScope.classify, ScopeTier.rank]
    | some e => cases tier <;> cases entity <;> simp [TaxRateScope.classify]

theorem inWindow_iff (date : Nat) : row.isLive date = true ↔ row.InWindow date := by
  unfold TaxRateRow.isLive windowCovers TaxRateRow.InWindow
  cases row.effectiveFrom with
  | none =>
    cases row.effectiveTo with
    | none => simp
    | some to_ => simp [Option.any_eq_true]
  | some from_ =>
    cases row.effectiveTo with
    | none => simp [Option.any_eq_true]
    | some to_ => simp [Option.any_eq_true]

theorem fromYmdOpt_pos {year month day d : Nat} (h : fromYmdOpt year month day = some d) :
    0 < d := by
  unfold fromYmdOpt at h
  split at h
  · rename_i hdate
    cases h
    omega
  · cases h

theorem parseEffectiveDate_pos {v : String} {d : Nat} (h : parseEffectiveDate v = some d) :
    0 < d := by
  unfold parseEffectiveDate at h
  split at h
  · split at h
    · exact fromYmdOpt_pos h
    · cases h
  · cases h

variable (a b : TaxRateRow)

theorem startDate_lt_iff : a.startDate < b.startDate ↔ a.start < b.start := by
  unfold TaxRateRow.startDate TaxRateRow.start
  cases ha : a.effectiveFrom.bind parseEffectiveDate with
  | none =>
    cases hb : b.effectiveFrom.bind parseEffectiveDate with
    | none => exact iff_of_false (lt_irrefl _) (lt_irrefl (⊥ : WithBot Nat))
    | some d =>
      obtain ⟨v, _, hv⟩ := Option.bind_eq_some_iff.mp hb
      exact iff_of_true (parseEffectiveDate_pos hv) (WithBot.bot_lt_coe d)
  | some d =>
    cases hb : b.effectiveFrom.bind parseEffectiveDate with
    | none => exact iff_of_false (Nat.not_lt_zero d) (WithBot.not_lt_bot (d : WithBot Nat))
    | some e => exact WithBot.coe_lt_coe.symm

theorem startDate_eq_iff : a.startDate = b.startDate ↔ a.start = b.start := by
  rw [le_antisymm_iff, le_antisymm_iff, ← not_lt, ← not_lt, ← not_lt, ← not_lt,
    startDate_lt_iff, startDate_lt_iff]

theorem isBetterThan_iff : a.isBetterThan b = true ↔ b.rateKey < a.rateKey := by
  simp only [TaxRateRow.rateKey, Prod.Lex.toLex_lt_toLex, OrderDual.toDual_lt_toDual,
    TaxRateRow.isBetterThan]
  by_cases hdefault : a.rate.isDefault = b.rate.isDefault
  · by_cases hstart : a.startDate = b.startDate
    · have hsame := (startDate_eq_iff a b).mp hstart
      simp [hdefault, hstart, hsame]
    · have hdiffer : b.start ≠ a.start := fun h => hstart ((startDate_eq_iff a b).mpr h.symm)
      simp [hdefault, hstart, hdiffer, startDate_lt_iff]
  · cases ha : a.rate.isDefault <;> cases hb : b.rate.isDefault <;> simp_all

theorem bestOf_eq_scan (date : Nat) (tier : ScopeTier) (candidates : List TaxRateRow) :
    TaxTables.bestOf locationId entity date tier candidates =
      (candidates.filter (fun c => c.inTier tier locationId entity && c.isLive date)).foldl
        (Newest.scan TaxRateRow.rateKey) none := by
  unfold TaxTables.bestOf
  congr 1
  funext best c
  cases best with
  | none => rfl
  | some b =>
    simp only [Newest.scan]
    by_cases hbetter : c.isBetterThan b = true
    · rw [if_pos hbetter, if_pos ((isBetterThan_iff c b).mp hbetter)]
    · rw [if_neg hbetter, if_neg (fun h => hbetter ((isBetterThan_iff c b).mpr h))]

theorem mem_live_iff {candidates : List TaxRateRow} {locationId : String}
    {entity : Option String} {date : Nat} {tier : ScopeTier} {row : TaxRateRow} :
    row ∈ candidates.filter (fun c => c.inTier tier locationId entity && c.isLive date) ↔
      row ∈ candidates ∧ row.coverage locationId entity = some tier.rank ∧ row.InWindow date := by
  rw [List.mem_filter, Bool.and_eq_true, inTier_iff, inWindow_iff]

theorem exists_tier {row : TaxRateRow} {locationId : String} {entity : Option String}
    (h : (row.coverage locationId entity).isSome) :
    ∃ tier : ScopeTier, row.coverage locationId entity = some tier.rank := by
  unfold TaxRateRow.coverage at h ⊢
  split at h
  · split at h
    · rename_i hsame
      exact ⟨.location, if_pos hsame⟩
    · cases h
  · split at h
    · rename_i hsame
      exact ⟨.legalEntity, if_pos hsame⟩
    · cases h
  · exact ⟨.global, rfl⟩
  · cases h

theorem candidate_of_coverage {row : TaxRateRow} {locationId : String} {entity : Option String}
    (hactive : row.isActive = true) (h : (row.coverage locationId entity).isSome) :
    row.candidate locationId entity = true := by
  unfold TaxRateRow.coverage at h
  unfold TaxRateRow.candidate
  split at h
  · rename_i l hlocation _
    split at h
    · rename_i hsame
      simp [hactive, hlocation, hsame]
    · cases h
  · rename_i e hlocation hentity
    split at h
    · rename_i hsame
      simp [hactive, hlocation, hentity, hsame]
    · cases h
  · rename_i hlocation hentity
    simp [hactive, hlocation, hentity]
  · cases h

namespace TaxTables

variable (t : TaxTables) (locationId : String) (entity : Option String) (date : Nat)

/-- The row of the greatest key among the eligible ones, if there are any. -/
def Resolved : Option TaxRateRow → Prop
  | none => ∀ row ∈ t.taxRates.rows, ¬ row.Eligible locationId entity date
  | some row => row ∈ t.taxRates.rows ∧ row.Eligible locationId entity date ∧
      ∀ other ∈ t.taxRates.rows, other.Eligible locationId entity date → other ≠ row →
        other.scopedKey locationId entity < row.scopedKey locationId entity

def candidatesFor : List TaxRateRow :=
  t.taxRates.rows.filter (fun r => r.candidate locationId entity)

variable {t locationId entity date} {asOf : String}

variable {row : TaxRateRow}

theorem mem_candidatesFor (hrow : row ∈ t.taxRates.rows)
    (h : row.Eligible locationId entity date) : row ∈ t.candidatesFor locationId entity :=
  List.mem_filter.mpr ⟨hrow, candidate_of_coverage h.active h.covers⟩

theorem same_row {a b : TaxRateRow} (ha : a ∈ t.taxRates.rows) (hb : b ∈ t.taxRates.rows)
    (h : a.rate.id = b.rate.id) : a = b := by
  have hfa := (Table.mem_rows_iff _ _).mp ha
  have hfb := (Table.mem_rows_iff _ _).mp hb
  rw [h, hfb] at hfa
  exact (Option.some.inj hfa).symm

theorem key_injective {a b : TaxRateRow} (ha : a ∈ t.taxRates.rows) (hb : b ∈ t.taxRates.rows)
    (h : a.rateKey = b.rateKey) : a = b := by
  have hparts := congrArg ofLex h
  simp only [TaxRateRow.rateKey, ofLex_toLex, Prod.mk.injEq] at hparts
  have hid := congrArg (fun k => (ofLex k).2) hparts.2
  exact same_row ha hb (OrderDual.toDual.injective hid)

theorem resolved_of_tier {tier : ScopeTier} {w : TaxRateRow}
    (hbest : bestOf locationId entity date tier (t.candidatesFor locationId entity) = some w)
    (hcloser : ∀ other : ScopeTier, tier.rank < other.rank →
      bestOf locationId entity date other (t.candidatesFor locationId entity) = none) :
    t.Resolved locationId entity date (some w) := by
  rw [bestOf_eq_scan] at hbest
  obtain ⟨hfrom, _, hgreatest⟩ := Newest.foldl_scan_some hbest
  have hw := hfrom.resolve_left (fun h => by cases h)
  obtain ⟨hcandidate, hcoverage, hwindow⟩ := mem_live_iff.mp hw
  obtain ⟨hrow, hquery⟩ := List.mem_filter.mp hcandidate
  have hactive : w.isActive = true := (Bool.and_eq_true_iff.mp hquery).1
  refine ⟨hrow, ⟨hactive, by rw [hcoverage]; rfl, hwindow⟩, ?_⟩
  intro other hother heligible hne
  obtain ⟨mine, hmine⟩ := exists_tier heligible.covers
  have hlive := @mem_live_iff _ locationId entity date mine other |>.mpr
    ⟨mem_candidatesFor hother heligible, hmine, heligible.inWindow⟩
  simp only [TaxRateRow.scopedKey, Prod.Lex.toLex_lt_toLex, hmine, hcoverage]
  rcases Nat.lt_trichotomy mine.rank tier.rank with hlt | heq | hgt
  · exact .inl (WithBot.coe_lt_coe.mpr hlt)
  · refine .inr ⟨by rw [heq], ?_⟩
    have hle := hgreatest other (mem_live_iff.mpr
      ⟨mem_candidatesFor hother heligible, by rw [hmine, heq], heligible.inWindow⟩)
    exact lt_of_le_of_ne hle (fun h => hne (key_injective hother hrow h))
  · have hnone := hcloser mine hgt
    rw [bestOf_eq_scan] at hnone
    rw [Newest.foldl_scan_none hnone] at hlive
    cases hlive

theorem resolved_none
    (hnone : ∀ tier : ScopeTier,
      bestOf locationId entity date tier (t.candidatesFor locationId entity) = none) :
    t.Resolved locationId entity date none := by
  intro row hrow heligible
  obtain ⟨tier, htier⟩ := exists_tier heligible.covers
  have hlive := @mem_live_iff _ locationId entity date tier row |>.mpr
    ⟨mem_candidatesFor hrow heligible, htier, heligible.inWindow⟩
  have hbest := hnone tier
  rw [bestOf_eq_scan] at hbest
  rw [Newest.foldl_scan_none hbest] at hlive
  cases hlive

theorem resolve_finds (h : parseEffectiveDate asOf = some date) :
    ∃ found, t.Resolved locationId entity date found ∧
      t.resolveTaxRateForLocation locationId entity asOf = .ok (found.map TaxRateRow.rate) := by
  simp only [resolveTaxRateForLocation, h, List.findSome?_cons, List.findSome?_nil]
  rw [← candidatesFor]
  cases hlocation : bestOf locationId entity date .location (t.candidatesFor locationId entity) with
  | some w =>
    refine ⟨some w, resolved_of_tier hlocation ?_, rfl⟩
    intro other hcloser
    cases other <;> simp [ScopeTier.rank] at hcloser
  | none =>
    cases hentity : bestOf locationId entity date .legalEntity
        (t.candidatesFor locationId entity) with
    | some w =>
      refine ⟨some w, resolved_of_tier hentity ?_, rfl⟩
      intro other hcloser
      cases other with
      | location => exact hlocation
      | legalEntity => simp [ScopeTier.rank] at hcloser
      | global => simp [ScopeTier.rank] at hcloser
    | none =>
      cases hglobal : bestOf locationId entity date .global (t.candidatesFor locationId entity) with
      | some w =>
        refine ⟨some w, resolved_of_tier hglobal ?_, rfl⟩
        intro other hcloser
        cases other with
        | location => exact hlocation
        | legalEntity => exact hentity
        | global => simp [ScopeTier.rank] at hcloser
      | none =>
        refine ⟨none, resolved_none ?_, rfl⟩
        intro tier
        cases tier with
        | location => exact hlocation
        | legalEntity => exact hentity
        | global => exact hglobal

theorem resolved_unique {found found' : Option TaxRateRow}
    (h : t.Resolved locationId entity date found) (h' : t.Resolved locationId entity date found') :
    found = found' := by
  cases found with
  | none =>
    cases found' with
    | none => rfl
    | some w => exact absurd h'.2.1 (h w h'.1)
  | some w =>
    cases found' with
    | none => exact absurd h.2.1 (h' w h.1)
    | some w' =>
      by_contra hne
      have hdiffer : w ≠ w' := fun heq => hne (by rw [heq])
      have hlt := h.2.2 w' h'.1 h'.2.1 hdiffer.symm
      exact absurd (h'.2.2 w h.1 h.2.1 hdiffer) (lt_asymm hlt)

theorem resolved_perm {t' : TaxTables} (hperm : t'.taxRates.rows.Perm t.taxRates.rows)
    {found : Option TaxRateRow} (h : t.Resolved locationId entity date found) :
    t'.Resolved locationId entity date found := by
  cases found with
  | none => exact fun row hrow => h row (hperm.mem_iff.mp hrow)
  | some w =>
    exact ⟨hperm.mem_iff.mpr h.1, h.2.1,
      fun other hother => h.2.2 other (hperm.mem_iff.mp hother)⟩

theorem live_candidate_iff :
    (row ∈ t.candidatesFor locationId entity ∧
        ∃ tier, row.inTier tier locationId entity = true ∧ row.isLive date = true) ↔
      row ∈ t.taxRates.rows ∧ row.Eligible locationId entity date := by
  constructor
  · rintro ⟨hcandidate, tier, htier, hlive⟩
    obtain ⟨hrow, hquery⟩ := List.mem_filter.mp hcandidate
    have hcoverage := (inTier_iff _ _ _ _).mp htier
    exact ⟨hrow, (Bool.and_eq_true_iff.mp hquery).1, by rw [hcoverage]; rfl,
      (inWindow_iff _ _).mp hlive⟩
  · rintro ⟨hrow, heligible⟩
    obtain ⟨tier, htier⟩ := exists_tier heligible.covers
    exact ⟨mem_candidatesFor hrow heligible, tier, (inTier_iff _ _ _ _).mpr htier,
      (inWindow_iff _ _).mpr heligible.inWindow⟩

theorem activeRow_eq_some_iff {rateId : String} :
    t.activeRow rateId = some row ↔
      row ∈ t.taxRates.rows ∧ row.rate.id = rateId ∧ row.isActive = true := by
  rw [activeRow, Option.filter_eq_some_iff, Table.find?_eq_some_iff, and_assoc]

theorem applies_of_active (h : parseEffectiveDate asOf = some date) {rateId : String}
    (hrow : t.activeRow rateId = some row) :
    t.taxRateAppliesAt rateId ⟨locationId, asOf⟩ entity =
      .ok ((row.coverage locationId entity).isSome && row.isLive date) := by
  have hdate : TaxSaleScope.asDate ⟨locationId, asOf⟩ = .ok date := by
    simp [TaxSaleScope.asDate, h]
  simp only [taxRateAppliesAt, hrow, TaxRateRow.coverage, TaxRateRow.isLive, hdate]
  cases hlocation : row.locationId with
  | none =>
    cases hentity : row.legalEntityId with
    | none => simp [TaxRateScope.classify, Except.map]
    | some e =>
      by_cases hsame : entity = some e
      · simp [TaxRateScope.classify, hsame, Except.map]
      · simp [TaxRateScope.classify, hsame]
  | some l =>
    cases hentity : row.legalEntityId with
    | none =>
      by_cases hsame : l = locationId
      · simp [TaxRateScope.classify, hsame, Except.map]
      · simp [TaxRateScope.classify, hsame]
    | some e => simp [TaxRateScope.classify]

theorem applies_iff (h : parseEffectiveDate asOf = some date) (rateId : String) :
    ∃ accepted, t.taxRateAppliesAt rateId ⟨locationId, asOf⟩ entity = .ok accepted ∧
      (accepted = true ↔ ∃ row ∈ t.candidatesFor locationId entity, row.rate.id = rateId ∧
        ∃ tier, row.inTier tier locationId entity = true ∧ row.isLive date = true) := by
  have hlive : (∃ row ∈ t.candidatesFor locationId entity, row.rate.id = rateId ∧
      ∃ tier, row.inTier tier locationId entity = true ∧ row.isLive date = true) ↔
      ∃ row ∈ t.taxRates.rows, row.rate.id = rateId ∧ row.Eligible locationId entity date := by
    constructor
    · rintro ⟨row, hcandidate, hid, htier⟩
      obtain ⟨hrow, heligible⟩ := live_candidate_iff.mp ⟨hcandidate, htier⟩
      exact ⟨row, hrow, hid, heligible⟩
    · rintro ⟨row, hrow, hid, heligible⟩
      obtain ⟨hcandidate, htier⟩ := live_candidate_iff.mpr ⟨hrow, heligible⟩
      exact ⟨row, hcandidate, hid, htier⟩
  rw [hlive]
  cases hactive : t.activeRow rateId with
  | none =>
    refine ⟨false, by simp [taxRateAppliesAt, hactive], iff_of_false (by decide) ?_⟩
    rintro ⟨row, hrow, hid, heligible⟩
    have hfound := activeRow_eq_some_iff.mpr ⟨hrow, hid, heligible.active⟩
    rw [hactive] at hfound
    cases hfound
  | some row =>
    obtain ⟨hrow, hid, hon⟩ := activeRow_eq_some_iff.mp hactive
    refine ⟨_, applies_of_active h hactive, ?_⟩
    rw [Bool.and_eq_true, inWindow_iff]
    constructor
    · rintro ⟨hcovers, hwindow⟩
      exact ⟨row, hrow, hid, hon, hcovers, hwindow⟩
    · rintro ⟨other, hother, hsame, heligible⟩
      obtain rfl := same_row hother hrow (hsame.trans hid.symm)
      exact ⟨heligible.covers, heligible.inWindow⟩

/-- The scoped resolution is the greatest of the eligible rows whatever their order, and the filter
on assigned rates accepts just the rows that the walk takes for live candidates of some tier. -/
theorem scoped_resolution_greatest (t : TaxTables) (locationId : String) (entity : Option String)
    (asOf : String) (date : Nat) (h : parseEffectiveDate asOf = some date) :
    (∃ found, t.Resolved locationId entity date found ∧
      ∀ t' : TaxTables, t'.taxRates.rows.Perm t.taxRates.rows →
        t'.resolveTaxRateForLocation locationId entity asOf = .ok (found.map TaxRateRow.rate)) ∧
    ∀ rateId, ∃ accepted, t.taxRateAppliesAt rateId ⟨locationId, asOf⟩ entity = .ok accepted ∧
      (accepted = true ↔ ∃ row ∈ t.candidatesFor locationId entity, row.rate.id = rateId ∧
        ∃ tier, row.inTier tier locationId entity = true ∧ row.isLive date = true) := by
  obtain ⟨found, hresolved, _⟩ := @resolve_finds t locationId entity date asOf h
  refine ⟨⟨found, hresolved, ?_⟩, applies_iff h⟩
  intro t' hperm
  obtain ⟨found', hresolved', hrun⟩ := @resolve_finds t' locationId entity date asOf h
  rw [hrun, resolved_unique hresolved' (resolved_perm hperm hresolved)]

def scopedRow (id : String) (isDefault : Bool) (entity location start : Option String) :
    TaxRateRow :=
  ⟨⟨id, "", 1000, isDefault, false, "", "", tenPercent_nonneg⟩, true, entity, location, start, none, ""⟩

def scopedRates : TaxTables :=
  ⟨((((Table.empty.upsert (scopedRow "r-1" true (some "e-1") (some "l-1") none)).upsert
      (scopedRow "r-2" true none (some "l-1") (some "2026-02-30"))).upsert
      (scopedRow "r-3" false (some "e-1") none (some "2026-01-01"))).upsert
      (scopedRow "r-4" true none none none)), [], [], Table.empty, Table.empty⟩

theorem scoped_rates_resolved :
    ∃ found, scopedRates.Resolved "l-1" (some "e-1") 20260301 found ∧
      ∀ t' : TaxTables, t'.taxRates.rows.Perm scopedRates.taxRates.rows →
        t'.resolveTaxRateForLocation "l-1" (some "e-1") "2026-03-01" =
          .ok (found.map TaxRateRow.rate) :=
  (scoped_resolution_greatest scopedRates "l-1" (some "e-1") "2026-03-01" 20260301
    (by decide +kernel)).1

end TaxTables

end OzPos
