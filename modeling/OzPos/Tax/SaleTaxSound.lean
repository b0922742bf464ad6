import OzPos.Tax.PreviewAgrees
import Mathlib.Algebra.Order.BigOperators.Group.List
import Mathlib.Algebra.Order.Ring.Int

namespace OzPos

theorem addMoney_ok_iff {a b sum : Money} {field message : String}
    (h : 0 ≤ a.minorUnits + b.minorUnits) :
    addMoney a b field message = .ok sum ↔ a.currency = b.currency ∧
      a.minorUnits + b.minorUnits < 2^63 ∧ sum = ⟨a.minorUnits + b.minorUnits, a.currency⟩ := by
  unfold addMoney Money.checkedAdd
  by_cases hsame : a.currency = b.currency
  · rw [if_pos hsame]
    cases hsum : checkedI64 (a.minorUnits + b.minorUnits) with
    | none =>
      have hnot : ¬ a.minorUnits + b.minorUnits < 2^63 := by
        intro hfits
        have hsome := (checkedI64_eq_some_iff _ _).mpr
          ⟨rfl, show -2^63 ≤ a.minorUnits + b.minorUnits by omega, hfits⟩
        rw [hsum] at hsome
        cases hsome
      simpa using fun _ hfits _ => hnot hfits
    | some n =>
      obtain ⟨rfl, _, hfits⟩ := (checkedI64_eq_some_iff _ _).mp hsum
      simp only [Option.map_some, Except.ok.injEq, hsame, true_and]
      exact ⟨fun heq => ⟨hfits, heq.symm⟩, fun heq => heq.2.symm⟩
  · simp [hsame]

variable (currency : String) (amounts : List Int)

def accOf : Option Money :=
  if amounts = [] then none else some ⟨amounts.sum, currency⟩

theorem accOf_snoc (n : Int) :
    accOf currency (amounts ++ [n]) = some ⟨amounts.sum + n, currency⟩ := by
  simp [accOf]

theorem accOf_getD : (accOf currency amounts).getD (.zero currency) = ⟨amounts.sum, currency⟩ := by
  unfold accOf
  split
  · rename_i hnone
    rw [hnone]
    rfl
  · rfl

theorem accumulateMoney_ok_iff {currency other field message : String} {amounts : List Int}
    {n : Int} {acc : Option Money} (hsum : 0 ≤ amounts.sum + n) :
    accumulateMoney (accOf currency amounts) ⟨n, other⟩ field message = .ok acc ↔
      (amounts ≠ [] → currency = other ∧ amounts.sum + n < 2^63) ∧
        acc = accOf other (amounts ++ [n]) := by
  rw [accOf_snoc]
  by_cases hnone : amounts = []
  · subst hnone
    simp [accOf, accumulateMoney, eq_comm]
  · rw [accOf, if_neg hnone]
    simp only [accumulateMoney, Except.map_ok_iff]
    constructor
    · rintro ⟨sum, hadded, rfl⟩
      obtain ⟨hsame, hfits, rfl⟩ := (addMoney_ok_iff hsum).mp hadded
      obtain rfl : currency = other := hsame
      exact ⟨fun _ => ⟨rfl, hfits⟩, rfl⟩
    · rintro ⟨hcan, rfl⟩
      obtain ⟨rfl, hfits⟩ := hcan hnone
      exact ⟨⟨amounts.sum + n, currency⟩, (addMoney_ok_iff hsum).mpr ⟨rfl, hfits, rfl⟩, rfl⟩

def taxSum (entries : List TaxBreakdown) : Int := (entries.map TaxBreakdown.taxMinor).sum

def exclusives (entries : List TaxBreakdown) : List Int :=
  (entries.filter (fun e => !e.isInclusive)).map TaxBreakdown.taxMinor

def addEntries (currency : String) : LineTax → List TaxBreakdown → Except CoreError LineTax
  | s, [] => .ok s
  | s, entry :: rest => (s.add entry currency).bind fun s => addEntries currency s rest

theorem taxSum_nonneg {entries : List TaxBreakdown} (h : ∀ e ∈ entries, 0 ≤ e.taxMinor) :
    0 ≤ taxSum entries := by
  apply List.sum_nonneg
  intro n hn
  obtain ⟨e, he, rfl⟩ := List.mem_map.mp hn
  exact h e he

theorem exclusives_nonneg {entries : List TaxBreakdown} (h : ∀ e ∈ entries, 0 ≤ e.taxMinor) :
    0 ≤ (exclusives entries).sum := by
  apply List.sum_nonneg
  intro n hn
  obtain ⟨e, he, rfl⟩ := List.mem_map.mp hn
  exact h e (List.mem_filter.mp he).1

theorem exclusives_append (xs ys : List TaxBreakdown) :
    exclusives (xs ++ ys) = exclusives xs ++ exclusives ys := by
  simp [exclusives]

@[simp] theorem taxSum_nil : taxSum [] = 0 := rfl

@[simp] theorem taxSum_cons (entry : TaxBreakdown) (rest : List TaxBreakdown) :
    taxSum (entry :: rest) = entry.taxMinor + taxSum rest := rfl

theorem taxSum_append (xs ys : List TaxBreakdown) : taxSum (xs ++ ys) = taxSum xs + taxSum ys := by
  simp [taxSum]

def lineAt (before : List Int) (done : List TaxBreakdown) : LineTax :=
  ⟨⟨taxSum done, currency⟩, accOf currency (before ++ exclusives done), done⟩

theorem LineTax.add_ok_iff {currency other : String} {before : List Int}
    {done : List TaxBreakdown} {entry : TaxBreakdown} {s : LineTax}
    (hdone : ∀ e ∈ done, 0 ≤ e.taxMinor) (hentry : 0 ≤ entry.taxMinor) (hbefore : 0 ≤ before.sum)
    (hfits : before.sum + (exclusives done).sum < 2^63) :
    (lineAt currency before done).add entry other = .ok s ↔
      currency = other ∧ taxSum done + entry.taxMinor < 2^63 ∧
        before.sum + (exclusives (done ++ [entry])).sum < 2^63 ∧
        s = lineAt currency before (done ++ [entry]) := by
  have htax := taxSum_nonneg hdone
  have hexcl := exclusives_nonneg hdone
  simp only [LineTax.add, lineAt, Except.bind_ok_iff, Except.map_ok_iff]
  have hsum : 0 ≤ taxSum done + entry.taxMinor := by omega
  cases hincl : entry.isInclusive with
  | true =>
    have hsame : exclusives (done ++ [entry]) = exclusives done := by
      simp [exclusives, hincl]
    constructor
    · rintro ⟨_, hadded, _, hkept, rfl⟩
      obtain ⟨rfl, hline, rfl⟩ := (addMoney_ok_iff hsum).mp hadded
      obtain rfl := Except.ok.inj hkept
      rw [hsame]
      exact ⟨rfl, hline, hfits, by simp [taxSum_append]⟩
    · rintro ⟨rfl, hline, _, rfl⟩
      refine ⟨_, (addMoney_ok_iff hsum).mpr ⟨rfl, hline, rfl⟩, _, rfl, ?_⟩
      rw [hsame]
      simp [taxSum_append]
  | false =>
    have hmore : exclusives (done ++ [entry]) = exclusives done ++ [entry.taxMinor] := by
      simp [exclusives, hincl]
    have hacc : 0 ≤ (before ++ exclusives done).sum + entry.taxMinor := by
      rw [List.sum_append]
      omega
    rw [hmore, ← List.append_assoc]
    constructor
    · rintro ⟨_, hadded, _, haccepted, rfl⟩
      obtain ⟨rfl, hline, rfl⟩ := (addMoney_ok_iff hsum).mp hadded
      obtain ⟨hcan, rfl⟩ := (accumulateMoney_ok_iff hacc).mp haccepted
      refine ⟨rfl, hline, ?_, by simp [taxSum_append]⟩
      by_cases hnone : before ++ exclusives done = []
      · obtain ⟨rfl, hempty⟩ := List.append_eq_nil_iff.mp hnone
        rw [hempty]
        simp only [List.nil_append, List.sum_nil, List.sum_singleton]
        simp only at hline
        omega
      · have hfit := (hcan hnone).2
        rw [List.sum_append] at hfit ⊢
        simp only [List.sum_singleton]
        omega
    · rintro ⟨rfl, hline, hboth, rfl⟩
      refine ⟨_, (addMoney_ok_iff hsum).mpr ⟨rfl, hline, rfl⟩, _,
        (accumulateMoney_ok_iff hacc).mpr ⟨fun _ => ⟨rfl, ?_⟩, rfl⟩, by simp [taxSum_append]⟩
      rw [List.sum_append] at hboth ⊢
      simp only [List.sum_singleton] at hboth
      omega

theorem addEntries_ok_iff {currency other : String} {before : List Int}
    {done entries : List TaxBreakdown} {s : LineTax} (hdone : ∀ e ∈ done, 0 ≤ e.taxMinor)
    (hentries : ∀ e ∈ entries, 0 ≤ e.taxMinor) (hbefore : 0 ≤ before.sum)
    (hline : taxSum done < 2^63) (hfits : before.sum + (exclusives done).sum < 2^63) :
    addEntries other (lineAt currency before done) entries = .ok s ↔
      (entries ≠ [] → currency = other) ∧ taxSum (done ++ entries) < 2^63 ∧
        before.sum + (exclusives (done ++ entries)).sum < 2^63 ∧
        s = lineAt currency before (done ++ entries) := by
  induction entries generalizing done with
  | nil =>
    simp only [addEntries, List.append_nil, Except.ok.injEq]
    constructor
    · intro h
      exact ⟨fun hne => absurd rfl hne, hline, hfits, h.symm⟩
    · rintro ⟨_, _, _, h⟩
      exact h.symm
  | cons entry rest ih =>
    obtain ⟨hentry, hrest⟩ := List.forall_mem_cons.mp hentries
    have hmore : ∀ e ∈ done ++ [entry], 0 ≤ e.taxMinor := by
      rw [List.forall_mem_append]
      exact ⟨hdone, by simpa using hentry⟩
    have htail := taxSum_nonneg hrest
    have hlast := exclusives_nonneg hrest
    have hassoc : done ++ entry :: rest = done ++ [entry] ++ rest := by simp
    have htax : taxSum (done ++ [entry]) = taxSum done + entry.taxMinor := by
      simp [taxSum_append]
    simp only [addEntries, Except.bind_ok_iff]
    rw [hassoc]
    constructor
    · rintro ⟨next, hadded, hlater⟩
      obtain ⟨rfl, hfirst, hexcl, rfl⟩ := (LineTax.add_ok_iff hdone hentry hbefore hfits).mp hadded
      obtain ⟨_, hall⟩ := (ih hmore hrest (by omega) hexcl).mp hlater
      exact ⟨fun _ => rfl, hall⟩
    · rintro ⟨hcurrency, hsum, hexcl, rfl⟩
      obtain rfl := hcurrency (by simp)
      have hfirst : taxSum done + entry.taxMinor < 2^63 := by
        rw [taxSum_append] at hsum
        omega
      have hexclFirst : before.sum + (exclusives (done ++ [entry])).sum < 2^63 := by
        rw [exclusives_append, List.sum_append] at hexcl
        omega
      refine ⟨_, (LineTax.add_ok_iff hdone hentry hbefore hfits).mpr
        ⟨rfl, hfirst, hexclFirst, rfl⟩, ?_⟩
      exact (ih hmore hrest (by omega) hexclFirst).mpr ⟨fun _ => rfl, hsum, hexcl, rfl⟩

structure TaxSetting where
  tables : TaxTables
  overrides : List TaxTables.LuaOverride
  mode : RoundingMode
  scope : Option TaxSaleScope

namespace TaxSetting

variable (c : TaxSetting)

def rateEntries (lineTotal : Int) : List TaxRate → Except CoreError (List TaxBreakdown)
  | [] => .ok []
  | rate :: rest =>
    (c.tables.rateEntry c.mode lineTotal rate).bind fun entry =>
    (rateEntries lineTotal rest).map (entry :: ·)

def entriesFor (line : SaleTaxLine) (rates : List TaxRate) :
    Except CoreError (List TaxBreakdown × Option String) :=
  match c.overrides.find? (fun o : TaxTables.LuaOverride => o.sku = line.sku) with
  | some o =>
    (c.tables.overrideEntry c.mode line.lineTotal.minorUnits o rates).map fun entry =>
      ([entry], none)
  | none =>
    (c.rateEntries line.lineTotal.minorUnits rates).map fun entries =>
      (entries, rates.head?.map TaxRate.id)

/-- What the configuration and the plugins say of a line by itself: its entries, and the rate
stamped on it. -/
def lineEntries (line : SaleTaxLine) : Except CoreError (List TaxBreakdown × Option String) :=
  (c.tables.resolveBestTaxRatesForSkuAt line.sku c.scope).bind (c.entriesFor line)

variable {c}

variable {rates : List TaxRate}

theorem rateEntries_nonneg {lineTotal : Int} {entries : List TaxBreakdown} (hbase : 0 ≤ lineTotal)
    (h : c.rateEntries lineTotal rates = .ok entries) : ∀ e ∈ entries, 0 ≤ e.taxMinor := by
  induction rates generalizing entries with
  | nil =>
    obtain rfl : [] = entries := Except.ok.inj h
    exact List.forall_mem_nil _
  | cons rate rest ih =>
    obtain ⟨entry, hentry, h⟩ := Except.of_bind h
    obtain ⟨later, hlater, rfl⟩ := Except.of_map h
    obtain ⟨_, _, hentry⟩ := Except.of_bind hentry
    obtain ⟨tax, htax, rfl⟩ := Except.of_map hentry
    rw [List.forall_mem_cons]
    exact ⟨(computeLineTax_spec hbase rate.bps_nonneg htax).1, ih hlater⟩

variable {line : SaleTaxLine}

theorem lineEntries_nonneg {entries : List TaxBreakdown} {rateId : Option String}
    (hbase : 0 ≤ line.lineTotal.minorUnits) (hoverrides : ∀ o ∈ c.overrides, 0 ≤ o.rateBps)
    (h : c.lineEntries line = .ok (entries, rateId)) : ∀ e ∈ entries, 0 ≤ e.taxMinor := by
  obtain ⟨rates, _, h⟩ := Except.of_bind h
  unfold entriesFor at h
  split at h
  · rename_i o hfound
    obtain ⟨entry, hentry, hpair⟩ := Except.of_map h
    obtain ⟨rfl, _⟩ := Prod.mk.inj hpair
    obtain ⟨_, _, hentry⟩ := Except.of_bind hentry
    obtain ⟨tax, htax, rfl⟩ := Except.of_map hentry
    have hbps := hoverrides o (List.mem_of_find?_eq_some hfound)
    simpa using (computeLineTax_spec hbase hbps htax).1
  · obtain ⟨entries', hentries, hpair⟩ := Except.of_map h
    obtain ⟨rfl, _⟩ := Prod.mk.inj hpair
    exact rateEntries_nonneg hbase hentries

theorem addRates_ok_iff {lineTotal : Money} {s s' : LineTax} :
    c.tables.addRates c.mode lineTotal s rates = .ok s' ↔
      ∃ entries, c.rateEntries lineTotal.minorUnits rates = .ok entries ∧
        addEntries lineTotal.currency s entries = .ok s' := by
  induction rates generalizing s with
  | nil => simp [TaxTables.addRates, rateEntries, addEntries]
  | cons rate rest ih =>
    simp only [TaxTables.addRates, rateEntries, Except.bind_ok_iff, Except.map_ok_iff, ih]
    constructor
    · rintro ⟨entry, hentry, next, hadded, later, hlater, hrest⟩
      refine ⟨entry :: later, ⟨entry, hentry, later, hlater, rfl⟩, ?_⟩
      exact Except.bind_ok_iff.mpr ⟨next, hadded, hrest⟩
    · rintro ⟨_, ⟨entry, hentry, later, hlater, rfl⟩, hall⟩
      obtain ⟨next, hadded, hrest⟩ := Except.of_bind hall
      exact ⟨entry, hentry, next, hadded, later, hlater, hrest⟩

theorem taxOfLine_ok_iff {s s' : LineTax} {rateId : Option String} :
    c.tables.taxOfLine c.overrides c.mode line s rates = .ok (s', rateId) ↔
      ∃ entries, c.entriesFor line rates = .ok (entries, rateId) ∧
        addEntries line.lineTotal.currency s entries = .ok s' := by
  cases hfound : c.overrides.find? (fun o : TaxTables.LuaOverride => o.sku = line.sku) with
  | some o =>
    simp only [TaxTables.taxOfLine, entriesFor, hfound, Except.bind_ok_iff, Except.map_ok_iff,
      Prod.mk.injEq]
    constructor
    · rintro ⟨entry, hentry, _, hadded, rfl, rfl⟩
      exact ⟨[entry], ⟨entry, hentry, rfl, rfl⟩, Except.bind_ok_iff.mpr ⟨_, hadded, rfl⟩⟩
    · rintro ⟨_, ⟨entry, hentry, rfl, rfl⟩, hall⟩
      obtain ⟨next, hadded, hrest⟩ := Except.of_bind hall
      exact ⟨entry, hentry, next, hadded, Except.ok.inj hrest, rfl⟩
  | none =>
    simp only [TaxTables.taxOfLine, entriesFor, hfound, Except.map_ok_iff, Prod.mk.injEq,
      addRates_ok_iff]
    constructor
    · rintro ⟨_, ⟨entries, hentries, hall⟩, rfl, rfl⟩
      exact ⟨entries, ⟨entries, hentries, rfl, rfl⟩, hall⟩
    · rintro ⟨_, ⟨entries, hentries, rfl, rfl⟩, hall⟩
      exact ⟨s', ⟨entries, hentries, hall⟩, rfl, rfl⟩

variable (c)

def entries (line : SaleTaxLine) : List TaxBreakdown :=
  ((c.lineEntries line).toOption.map Prod.fst).getD []

def rateId (line : SaleTaxLine) : Option String :=
  (c.lineEntries line).toOption.bind Prod.snd

variable (lines : List SaleTaxLine)

def allEntries : List TaxBreakdown := lines.flatMap c.entries

theorem lineEntries_eq {c : TaxSetting} (h : (c.lineEntries line).toOption.isSome) :
    c.lineEntries line = .ok (c.entries line, c.rateId line) := by
  unfold entries rateId
  cases hentries : c.lineEntries line with
  | error e => simp [hentries, Except.toOption] at h
  | ok pair => rfl

theorem entries_nonneg {c : TaxSetting} (hbase : 0 ≤ line.lineTotal.minorUnits)
    (hoverrides : ∀ o ∈ c.overrides, 0 ≤ o.rateBps) : ∀ e ∈ c.entries line, 0 ≤ e.taxMinor := by
  cases hentries : c.lineEntries line with
  | error e => simp [entries, hentries, Except.toOption]
  | ok pair =>
    have hpair : c.lineEntries line = .ok (pair.1, pair.2) := hentries
    simpa [entries, hentries, Except.toOption] using lineEntries_nonneg hbase hoverrides hpair

theorem allEntries_nonneg {c : TaxSetting} {lines : List SaleTaxLine}
    (hbase : ∀ line ∈ lines, 0 ≤ line.lineTotal.minorUnits)
    (hoverrides : ∀ o ∈ c.overrides, 0 ≤ o.rateBps) : ∀ e ∈ c.allEntries lines, 0 ≤ e.taxMinor := by
  intro e he
  obtain ⟨line, hline, hmem⟩ := List.mem_flatMap.mp he
  exact entries_nonneg (hbase line hline) hoverrides e hmem

theorem allEntries_snoc (before : List SaleTaxLine) (line : SaleTaxLine) :
    c.allEntries (before ++ [line]) = c.allEntries before ++ c.entries line := by
  simp [allEntries]

/-- A line's tax cannot be told, is in another currency than the sale, or overflows. -/
def ChargeRefused (currency : String) (before : List SaleTaxLine) (line : SaleTaxLine) : Prop :=
  (c.lineEntries line).toOption = none ∨
    (c.entries line ≠ [] ∧ currency ≠ line.lineTotal.currency) ∨
    2^63 ≤ taxSum (c.entries line) ∨ 2^63 ≤ (exclusives (c.allEntries (before ++ [line]))).sum

def totalsOf : Int :=
  (lines.map (fun line => line.lineTotal.minorUnits)).sum

/-- A sum over the lines so far overflows, or mixes currencies. -/
def SumsRefused (before : List SaleTaxLine) (line : SaleTaxLine) : Prop :=
  2^63 ≤ taxSum (c.allEntries (before ++ [line])) ∨
    ∃ first ∈ before.head?, first.lineTotal.currency ≠ line.lineTotal.currency ∨
      2^63 ≤ totalsOf (before ++ [line])

def stamp (currency : String) (line : SaleTaxLine) : SaleTaxLine :=
  line.stamped ⟨taxSum (c.entries line), currency⟩ (c.rateId line) (c.entries line)

variable {currency : String}

theorem stampLine_opens {c : TaxSetting} {before after : Option Money} {line' : SaleTaxLine} :
    c.tables.stampLine c.overrides c.mode c.scope currency before line = .ok (line', after) ↔
      ∃ s, (c.lineEntries line).toOption.isSome ∧
        addEntries line.lineTotal.currency ⟨.zero currency, before, []⟩ (c.entries line) = .ok s ∧
        line.stamped s.lineTax (c.rateId line) s.breakdown = line' ∧ s.exclusiveTax = after := by
  simp only [TaxTables.stampLine, Except.bind_ok_iff, Except.map_ok_iff, Prod.exists,
    Prod.mk.injEq]
  constructor
  · rintro ⟨rates, hrates, s, rateId, htax, hstamped, hexcl⟩
    obtain ⟨es, hes, hadded⟩ := taxOfLine_ok_iff.mp htax
    have hline : c.lineEntries line = .ok (es, rateId) := Except.bind_ok_iff.mpr ⟨rates, hrates, hes⟩
    refine ⟨s, by rw [hline]; rfl, ?_⟩
    simpa only [entries, TaxSetting.rateId, hline, Except.toOption, Option.map_some,
      Option.getD_some, Option.bind_some] using ⟨hadded, hstamped, hexcl⟩
  · rintro ⟨s, hsome, hadded, hstamped, hexcl⟩
    obtain ⟨rates, hrates, hes⟩ := Except.of_bind (lineEntries_eq hsome)
    exact ⟨rates, hrates, s, c.rateId line, taxOfLine_ok_iff.mpr ⟨_, hes, hadded⟩, hstamped, hexcl⟩

variable {before : List SaleTaxLine}

theorem stampLine_ok_iff {c : TaxSetting} {line' : SaleTaxLine} {exclusiveTax : Option Money}
    (hoverrides : ∀ o ∈ c.overrides, 0 ≤ o.rateBps)
    (hbefore : ∀ l ∈ before, 0 ≤ l.lineTotal.minorUnits) (hline : 0 ≤ line.lineTotal.minorUnits)
    (hfits : (exclusives (c.allEntries before)).sum < 2^63) :
    c.tables.stampLine c.overrides c.mode c.scope currency
        (accOf currency (exclusives (c.allEntries before))) line = .ok (line', exclusiveTax) ↔
      ¬ c.ChargeRefused currency before line ∧ line' = c.stamp currency line ∧
        exclusiveTax = accOf currency (exclusives (c.allEntries (before ++ [line]))) := by
  have hsum := exclusives_nonneg (allEntries_nonneg hbefore hoverrides)
  have hentries : ∀ e ∈ c.entries line, 0 ≤ e.taxMinor := entries_nonneg hline hoverrides
  have hstart : (⟨.zero currency, accOf currency (exclusives (c.allEntries before)), []⟩ : LineTax)
      = lineAt currency (exclusives (c.allEntries before)) [] := by
    simp [lineAt, Money.zero, exclusives]
  have hadd : ∀ s, addEntries line.lineTotal.currency
      (lineAt currency (exclusives (c.allEntries before)) []) (c.entries line) = .ok s ↔ _ :=
    fun s => addEntries_ok_iff (List.forall_mem_nil _) hentries hsum (by simp)
      (by simpa [exclusives] using hfits)
  simp only [List.nil_append] at hadd
  rw [stampLine_opens, hstart, ChargeRefused, c.allEntries_snoc, exclusives_append,
    List.sum_append]
  constructor
  · rintro ⟨s, hsome, hadded, hstamped, hexcl⟩
    obtain ⟨hcurrency, hsumFits, hexclFits, rfl⟩ := (hadd s).mp hadded
    refine ⟨?_, hstamped.symm, hexcl.symm⟩
    rintro (hnone | ⟨hne, hdiffer⟩ | hover | hover)
    · rw [hnone] at hsome
      cases hsome
    · exact hdiffer (hcurrency hne)
    · omega
    · omega
  · rintro ⟨hnot, rfl, rfl⟩
    rw [not_or, not_or, not_or] at hnot
    obtain ⟨hsome, hcurrency, hsumFits, hexclFits⟩ := hnot
    refine ⟨_, Option.isSome_iff_ne_none.mpr hsome, (hadd _).mpr ⟨?_, by omega, by omega, rfl⟩,
      rfl, rfl⟩
    intro hne
    by_contra hdiffer
    exact hcurrency ⟨hne, hdiffer⟩

/-- The line has the tax of its entries on it already. -/
def Carries (currency : String) (line : SaleTaxLine) : Prop :=
  c.stamp currency line = line

def subtotalOf : Option Money :=
  lines.head?.map (fun first => ⟨totalsOf lines, first.lineTotal.currency⟩)

def passed (currency : String) (before : List SaleTaxLine) : TaxTotals :=
  ⟨accOf currency (before.map (fun line => taxSum (c.entries line))), subtotalOf before,
    accOf currency (exclusives (c.allEntries before))⟩

/-- The total with its exclusive tax overflows, or is in another currency than the sale. -/
def TotalRefused (sale : SaleTax) : Prop :=
  exclusives (c.allEntries sale.lines) ≠ [] ∧
    sale.total.checkedAdd ⟨(exclusives (c.allEntries sale.lines)).sum, sale.currency⟩ = none

/-- Wherever the pass over the sale is first refused, what it has written by then was there
already. -/
def LeavesAlone (sale : SaleTax) (before : List SaleTaxLine) : List SaleTaxLine → Prop
  | [] => c.TotalRefused sale →
      (∀ line ∈ before, c.Carries sale.currency line) ∧
        sale.subtotal = (subtotalOf before).getD (.zero sale.currency) ∧
        sale.taxTotal = ⟨taxSum (c.allEntries before), sale.currency⟩
  | line :: rest =>
    (c.ChargeRefused sale.currency before line → ∀ l ∈ before, c.Carries sale.currency l) ∧
    (¬ c.ChargeRefused sale.currency before line → c.SumsRefused before line →
      ∀ l ∈ before ++ [line], c.Carries sale.currency l) ∧
    (¬ c.ChargeRefused sale.currency before line → ¬ c.SumsRefused before line →
      LeavesAlone sale (before ++ [line]) rest)

theorem sum_entries :
    (lines.map (fun line => taxSum (c.entries line))).sum = taxSum (c.allEntries lines) := by
  induction lines with
  | nil => rfl
  | cons line rest ih =>
    simp only [allEntries, List.flatMap_cons, taxSum_append, List.map_cons, List.sum_cons] at ih ⊢
    rw [ih]

theorem totalsOf_snoc (before : List SaleTaxLine) (line : SaleTaxLine) :
    totalsOf (before ++ [line]) = totalsOf before + line.lineTotal.minorUnits := by
  simp [totalsOf]

theorem totalsOf_nonneg {lines : List SaleTaxLine}
    (h : ∀ line ∈ lines, 0 ≤ line.lineTotal.minorUnits) : 0 ≤ totalsOf lines := by
  apply List.sum_nonneg
  intro n hn
  obtain ⟨line, hline, rfl⟩ := List.mem_map.mp hn
  exact h line hline

theorem accumulate_tax_iff {c : TaxSetting} {currency field message : String}
    {before : List SaleTaxLine} {line : SaleTaxLine} {acc : Option Money}
    (hoverrides : ∀ o ∈ c.overrides, 0 ≤ o.rateBps)
    (hlines : ∀ l ∈ before ++ [line], 0 ≤ l.lineTotal.minorUnits)
    (hline : taxSum (c.entries line) < 2^63) :
    accumulateMoney (c.passed currency before).totalTax (c.stamp currency line).taxAmount
        field message = .ok acc ↔
      taxSum (c.allEntries (before ++ [line])) < 2^63 ∧
        acc = (c.passed currency (before ++ [line])).totalTax := by
  have hsum := taxSum_nonneg (allEntries_nonneg hlines hoverrides)
  rw [c.allEntries_snoc, taxSum_append, ← c.sum_entries] at hsum ⊢
  have hstep := @accumulateMoney_ok_iff currency currency field message _ _ acc hsum
  simp only [passed, stamp, SaleTaxLine.stamped, List.map_append, List.map_cons, List.map_nil]
  rw [hstep]
  constructor
  · rintro ⟨hcan, rfl⟩
    refine ⟨?_, rfl⟩
    by_cases hnone : before.map (fun line => taxSum (c.entries line)) = []
    · rw [hnone]
      simpa using hline
    · exact (hcan hnone).2
  · rintro ⟨hfits, rfl⟩
    exact ⟨fun _ => ⟨rfl, hfits⟩, rfl⟩

theorem accumulate_subtotal_iff {before : List SaleTaxLine} {line : SaleTaxLine}
    {field message : String} {acc : Option Money}
    (hlines : ∀ l ∈ before ++ [line], 0 ≤ l.lineTotal.minorUnits) :
    accumulateMoney (subtotalOf before) line.lineTotal field message = .ok acc ↔
      (∀ first ∈ before.head?, first.lineTotal.currency = line.lineTotal.currency ∧
        totalsOf (before ++ [line]) < 2^63) ∧ acc = subtotalOf (before ++ [line]) := by
  have hsum := totalsOf_nonneg hlines
  rw [totalsOf_snoc] at hsum ⊢
  cases before with
  | nil => simp [subtotalOf, accumulateMoney, totalsOf, eq_comm]
  | cons first before =>
    have hsub : subtotalOf (first :: before ++ [line]) =
        some ⟨totalsOf (first :: before) + line.lineTotal.minorUnits,
          first.lineTotal.currency⟩ := by
      rw [subtotalOf, totalsOf_snoc]
      rfl
    rw [hsub]
    simp only [subtotalOf, List.head?_cons, Option.map_some, accumulateMoney, Except.map_ok_iff,
      Option.mem_def, Option.some.injEq, forall_eq']
    constructor
    · rintro ⟨sum, hadded, rfl⟩
      obtain ⟨hsame, hfits, rfl⟩ := (addMoney_ok_iff hsum).mp hadded
      exact ⟨⟨hsame, hfits⟩, rfl⟩
    · rintro ⟨⟨hsame, hfits⟩, rfl⟩
      exact ⟨_, (addMoney_ok_iff hsum).mpr ⟨hsame, hfits, rfl⟩, rfl⟩

theorem stampLines_cons {c : TaxSetting} {currency : String}
    (hoverrides : ∀ o ∈ c.overrides, 0 ≤ o.rateBps) {before rest : List SaleTaxLine}
    {line : SaleTaxLine} (hlines : ∀ l ∈ before ++ [line], 0 ≤ l.lineTotal.minorUnits)
    (hexcl : (exclusives (c.allEntries before)).sum < 2^63) :
    (c.ChargeRefused currency before line ∧ ∃ e,
      c.tables.stampLines c.overrides c.mode c.scope currency (c.passed currency before)
        (line :: rest) = (.error e, line :: rest)) ∨
    (¬ c.ChargeRefused currency before line ∧ c.SumsRefused before line ∧ ∃ e,
      c.tables.stampLines c.overrides c.mode c.scope currency (c.passed currency before)
        (line :: rest) = (.error e, c.stamp currency line :: rest)) ∨
    (¬ c.ChargeRefused currency before line ∧ ¬ c.SumsRefused before line ∧
      c.tables.stampLines c.overrides c.mode c.scope currency (c.passed currency before)
          (line :: rest) =
        ((c.tables.stampLines c.overrides c.mode c.scope currency
            (c.passed currency (before ++ [line])) rest).1,
          c.stamp currency line :: (c.tables.stampLines c.overrides c.mode c.scope currency
            (c.passed currency (before ++ [line])) rest).2)) := by
  have hbefore : ∀ l ∈ before, 0 ≤ l.lineTotal.minorUnits :=
    fun l hl => hlines l (List.mem_append_left _ hl)
  have hline : 0 ≤ line.lineTotal.minorUnits := hlines line (by simp)
  have hacc : (c.passed currency before).exclusiveTax =
    accOf currency (exclusives (c.allEntries before)) := rfl
  have hsubacc : (c.passed currency before).subtotal = subtotalOf before := rfl
  simp only [TaxTables.stampLines]
  cases hcharge : c.tables.stampLine c.overrides c.mode c.scope currency
      (c.passed currency before).exclusiveTax line with
  | error e =>
    refine .inl ⟨?_, e, rfl⟩
    by_contra hnot
    have hok := (stampLine_ok_iff hoverrides hbefore hline hexcl).mpr ⟨hnot, rfl, rfl⟩
    rw [← hacc, hcharge] at hok
    cases hok
  | ok pair =>
    obtain ⟨stamped, exclusiveTax⟩ := pair
    obtain ⟨hnot, hpair⟩ := (stampLine_ok_iff hoverrides hbefore hline hexcl).mp hcharge
    obtain ⟨rfl, rfl⟩ := hpair
    have hbounds := hnot
    simp only [ChargeRefused, not_or, not_le] at hbounds
    obtain ⟨_, _, hlineFits, _⟩ := hbounds
    have hkept : (c.stamp currency line).lineTotal = line.lineTotal := rfl
    refine .inr ?_
    simp only [hkept]
    cases htotal : accumulateMoney (c.passed currency before).totalTax
        (c.stamp currency line).taxAmount "tax" "sale tax total overflow" with
    | error e =>
      refine .inl ⟨hnot, .inl ?_, e, rfl⟩
      by_contra hfits
      have hok := (@accumulate_tax_iff c currency "tax" "sale tax total overflow" _ _ _ hoverrides
        hlines hlineFits).mpr ⟨not_le.mp hfits, rfl⟩
      rw [htotal] at hok
      cases hok
    | ok totalTax =>
      obtain ⟨htaxFits, rfl⟩ := (accumulate_tax_iff hoverrides hlines hlineFits).mp htotal
      have hsums : c.SumsRefused before line ↔ ¬ ∀ first ∈ before.head?,
          first.lineTotal.currency = line.lineTotal.currency ∧
            totalsOf (before ++ [line]) < 2^63 := by
        simp only [SumsRefused, not_le.mpr htaxFits, false_or, not_forall, not_and_or, not_lt,
          exists_prop, ne_eq]
      cases hsubtotal : accumulateMoney (c.passed currency before).subtotal line.lineTotal
          "subtotal" "sale subtotal overflow" with
      | error e =>
        refine .inl ⟨hnot, hsums.mpr ?_, e, rfl⟩
        intro hfits
        have hok := (@accumulate_subtotal_iff _ _ "subtotal" "sale subtotal overflow" _
          hlines).mpr ⟨hfits, rfl⟩
        rw [← hsubacc, hsubtotal] at hok
        cases hok
      | ok subtotal =>
        obtain ⟨hfits, rfl⟩ := (accumulate_subtotal_iff hlines).mp hsubtotal
        exact .inr ⟨hnot, fun hrefused => hsums.mp hrefused hfits, rfl⟩

theorem carries_snoc {c : TaxSetting} :
    (∀ l ∈ before ++ [line], c.Carries currency l) ↔
      (∀ l ∈ before, c.Carries currency l) ∧ c.stamp currency line = line := by
  simp [or_imp, forall_and, Carries]

variable {sale : SaleTax} {rest : List SaleTaxLine}

theorem leavesAlone_charge {c : TaxSetting} (h : c.ChargeRefused sale.currency before line) :
    c.LeavesAlone sale before (line :: rest) ↔ ∀ l ∈ before, c.Carries sale.currency l := by
  rw [LeavesAlone]
  simp [h]

theorem leavesAlone_sums {c : TaxSetting} (hcharge : ¬ c.ChargeRefused sale.currency before line)
    (h : c.SumsRefused before line) :
    c.LeavesAlone sale before (line :: rest) ↔
      (∀ l ∈ before, c.Carries sale.currency l) ∧ c.stamp sale.currency line = line := by
  rw [LeavesAlone, carries_snoc]
  simp [hcharge, h]

theorem leavesAlone_goes {c : TaxSetting} (hcharge : ¬ c.ChargeRefused sale.currency before line)
    (h : ¬ c.SumsRefused before line) :
    c.LeavesAlone sale before (line :: rest) ↔ c.LeavesAlone sale (before ++ [line]) rest := by
  rw [LeavesAlone]
  simp [hcharge, h]

/-- The pass over the lines to come, after lines it went through: it is refused with lines that
are left alone or not, or it stamps them all. -/
theorem stampLines_spec {c : TaxSetting} {sale : SaleTax}
    (hoverrides : ∀ o ∈ c.overrides, 0 ≤ o.rateBps) {before rest : List SaleTaxLine}
    (hlines : ∀ l ∈ before ++ rest, 0 ≤ l.lineTotal.minorUnits)
    (hexcl : (exclusives (c.allEntries before)).sum < 2^63) :
    (∃ e out, c.tables.stampLines c.overrides c.mode c.scope sale.currency
        (c.passed sale.currency before) rest = (.error e, out) ∧
      (c.LeavesAlone sale before rest ↔
        (∀ l ∈ before, c.Carries sale.currency l) ∧ out = rest)) ∨
    (c.tables.stampLines c.overrides c.mode c.scope sale.currency
        (c.passed sale.currency before) rest =
      (.ok (c.passed sale.currency (before ++ rest)), rest.map (c.stamp sale.currency)) ∧
      (c.LeavesAlone sale before rest ↔ c.LeavesAlone sale (before ++ rest) [])) := by
  induction rest generalizing before with
  | nil => exact .inr ⟨by rw [List.append_nil]; rfl, by rw [List.append_nil]⟩
  | cons line rest ih =>
    rw [show before ++ line :: rest = before ++ [line] ++ rest by simp] at hlines ⊢
    have hsofar : ∀ l ∈ before ++ [line], 0 ≤ l.lineTotal.minorUnits :=
      fun l hl => hlines l (List.mem_append_left _ hl)
    rcases @stampLines_cons c sale.currency hoverrides before rest line hsofar hexcl with
      ⟨hcharge, e, hrun⟩ | ⟨hcharge, hsums, e, hrun⟩ | ⟨hcharge, hsums, hrun⟩
    · exact .inl ⟨e, _, hrun, by simp [leavesAlone_charge hcharge]⟩
    · exact .inl ⟨e, _, hrun, by simp [leavesAlone_sums hcharge hsums]⟩
    · have hnext : (exclusives (c.allEntries (before ++ [line]))).sum < 2^63 := by
        simp only [ChargeRefused, not_or, not_le] at hcharge
        exact hcharge.2.2.2
      rw [leavesAlone_goes hcharge hsums]
      rcases ih hlines hnext with ⟨e, out, hlater, hleaves⟩ | ⟨hlater, hleaves⟩
      · refine .inl ⟨e, c.stamp sale.currency line :: out, by rw [hrun, hlater], ?_⟩
        rw [hleaves, carries_snoc, List.cons.injEq, and_assoc]
      · exact .inr ⟨by rw [hrun, hlater]; rfl, hleaves⟩

end TaxSetting

def SaleTaxLine.breakdown (line : SaleTaxLine) : List TaxBreakdown := line.taxBreakdown.getD []

structure TaxConserved (sale charged : SaleTax) : Prop where
  lineTax : ∀ line ∈ charged.lines, line.taxAmount.minorUnits = taxSum line.breakdown
  taxTotal : charged.taxTotal.minorUnits =
    (charged.lines.map (fun line => line.taxAmount.minorUnits)).sum
  lineTotals : charged.lines.map SaleTaxLine.lineTotal = sale.lines.map SaleTaxLine.lineTotal
  subtotal : charged.subtotal.minorUnits = TaxSetting.totalsOf charged.lines
  total : charged.total.minorUnits =
    sale.total.minorUnits + (exclusives (charged.lines.flatMap SaleTaxLine.breakdown)).sum

variable (c : TaxSetting) (sale : SaleTax)

def TaxSetting.compute : Except CoreError Unit × SaleTax :=
  c.tables.computeSaleTax sale c.overrides c.mode c.scope

/-- Tax is conserved when it succeeds, and a failure leaves the sale as it was. -/
structure SaleTaxSound (c : TaxSetting) (sale : SaleTax) : Prop where
  conserved : (c.compute sale).1 = .ok () → TaxConserved sale (c.compute sale).2
  atomic : ∀ e, (c.compute sale).1 = .error e → (c.compute sale).2 = sale

def TaxSetting.RefusedAtOnce : Prop :=
  (∃ line ∈ sale.lines, line.lineTotal.minorUnits < 0) ∨
    ∃ o ∈ c.overrides, ¬ (0 ≤ o.rateBps ∧ o.rateBps ≤ TaxTables.maxTaxRateBps)

theorem refuseNegativeLines_ok_iff {lines : List SaleTaxLine} :
    TaxTables.refuseNegativeLines lines = .ok () ↔
      ∀ line ∈ lines, 0 ≤ line.lineTotal.minorUnits := by
  induction lines with
  | nil => simp [TaxTables.refuseNegativeLines]
  | cons line rest ih =>
    rw [TaxTables.refuseNegativeLines, List.forall_mem_cons]
    split
    · rename_i hneg
      simp [not_le.mpr hneg]
    · rename_i hnonneg
      rw [ih]
      simp [not_lt.mp hnonneg]

theorem refuseOverrides_ok_iff {overrides : List TaxTables.LuaOverride} :
    TaxTables.refuseOverrides overrides = .ok () ↔
      ∀ o ∈ overrides, 0 ≤ o.rateBps ∧ o.rateBps ≤ TaxTables.maxTaxRateBps := by
  induction overrides with
  | nil => simp [TaxTables.refuseOverrides]
  | cons o rest ih =>
    rw [TaxTables.refuseOverrides, List.forall_mem_cons]
    split
    · rename_i hin
      rw [ih]
      simp [hin]
    · rename_i hout
      simp [hout]

theorem goes_on_iff :
    (TaxTables.refuseNegativeLines sale.lines).bind
        (fun _ => TaxTables.refuseOverrides c.overrides) = .ok () ↔
      (∀ line ∈ sale.lines, 0 ≤ line.lineTotal.minorUnits) ∧
        ∀ o ∈ c.overrides, 0 ≤ o.rateBps ∧ o.rateBps ≤ TaxTables.maxTaxRateBps := by
  rw [Except.bind_ok_iff]
  constructor
  · rintro ⟨⟨⟩, hlines, hoverrides⟩
    exact ⟨refuseNegativeLines_ok_iff.mp hlines, refuseOverrides_ok_iff.mp hoverrides⟩
  · rintro ⟨hlines, hoverrides⟩
    exact ⟨(), refuseNegativeLines_ok_iff.mpr hlines, refuseOverrides_ok_iff.mpr hoverrides⟩

theorem not_refusedAtOnce_iff :
    ¬ c.RefusedAtOnce sale ↔ (∀ line ∈ sale.lines, 0 ≤ line.lineTotal.minorUnits) ∧
      ∀ o ∈ c.overrides, 0 ≤ o.rateBps ∧ o.rateBps ≤ TaxTables.maxTaxRateBps := by
  rw [TaxSetting.RefusedAtOnce, not_or]
  constructor
  · rintro ⟨hlines, hoverrides⟩
    constructor
    · intro line hline
      exact not_lt.mp fun hneg => hlines ⟨line, hline, hneg⟩
    · intro o ho
      by_contra hout
      exact hoverrides ⟨o, ho, hout⟩
  · rintro ⟨hlines, hoverrides⟩
    constructor
    · rintro ⟨line, hline, hneg⟩
      exact not_lt.mpr (hlines line hline) hneg
    · rintro ⟨o, ho, hout⟩
      exact hout (hoverrides o ho)

theorem stamp_breakdown (currency : String) (line : SaleTaxLine) :
    (c.stamp currency line).breakdown = c.entries line := by
  unfold SaleTaxLine.breakdown TaxSetting.stamp SaleTaxLine.stamped
  split
  · rename_i hnone
    exact hnone.symm
  · rfl

def TaxSetting.taxed : SaleTax :=
  { sale with
    lines := sale.lines.map (c.stamp sale.currency)
    subtotal := (TaxSetting.subtotalOf sale.lines).getD (.zero sale.currency)
    taxTotal := ⟨taxSum (c.allEntries sale.lines), sale.currency⟩ }

theorem taxed_conserved {total : Money}
    (htotal : total.minorUnits =
      sale.total.minorUnits + (exclusives (c.allEntries sale.lines)).sum) :
    TaxConserved sale { c.taxed sale with total } := by
  have hkept : (sale.lines.map (c.stamp sale.currency)).map SaleTaxLine.lineTotal =
      sale.lines.map SaleTaxLine.lineTotal := by
    rw [List.map_map]
    rfl
  have hentries : (sale.lines.map (c.stamp sale.currency)).flatMap SaleTaxLine.breakdown =
      c.allEntries sale.lines := by
    rw [List.flatMap_map]
    simp only [stamp_breakdown]
    rfl
  constructor
  · intro line hline
    obtain ⟨old, _, rfl⟩ := List.mem_map.mp hline
    rw [stamp_breakdown]
    rfl
  · simp only [TaxSetting.taxed, List.map_map, ← c.sum_entries]
    rfl
  · exact hkept
  · have hsums : TaxSetting.totalsOf (sale.lines.map (c.stamp sale.currency)) =
        TaxSetting.totalsOf sale.lines := by
      rw [TaxSetting.totalsOf, TaxSetting.totalsOf, List.map_map]
      rfl
    simp only [TaxSetting.taxed, hsums]
    cases hlines : sale.lines with
    | nil => rfl
    | cons first rest => rfl
  · simp only [TaxSetting.taxed, hentries, htotal]

variable {c : TaxSetting}

theorem sound_of_error {sale left : SaleTax} {e : CoreError}
    (h : c.compute sale = (.error e, left)) : SaleTaxSound c sale ↔ left = sale := by
  constructor
  · intro hs
    have hleft := hs.atomic e (by rw [h])
    rwa [h] at hleft
  · intro hleft
    constructor
    · intro hok
      rw [h] at hok
      cases hok
    · intro _ _
      rw [h]
      exact hleft

theorem sound_of_ok {sale charged : SaleTax} (h : c.compute sale = (.ok (), charged))
    (hconserved : TaxConserved sale charged) : SaleTaxSound c sale := by
  constructor
  · intro _
    rw [h]
    exact hconserved
  · intro e he
    rw [h] at he
    cases he

theorem taxed_eq_iff (c : TaxSetting) (sale : SaleTax) :
    c.taxed sale = sale ↔ (∀ line ∈ sale.lines, c.Carries sale.currency line) ∧
      sale.subtotal = (TaxSetting.subtotalOf sale.lines).getD (.zero sale.currency) ∧
      sale.taxTotal = ⟨taxSum (c.allEntries sale.lines), sale.currency⟩ := by
  have hlines : sale.lines.map (c.stamp sale.currency) = sale.lines ↔
      ∀ line ∈ sale.lines, c.Carries sale.currency line := by
    have hsame := @List.map_inj_left _ _ sale.lines (c.stamp sale.currency) id
    rwa [List.map_id] at hsame
  rw [← hlines]
  obtain ⟨lines, currency, total, subtotal, taxTotal⟩ := sale
  simp only [TaxSetting.taxed, SaleTax.mk.injEq, true_and]
  exact ⟨fun h => ⟨h.1, h.2.1.symm, h.2.2.symm⟩, fun h => ⟨h.1, h.2.1.symm, h.2.2.symm⟩⟩

theorem checkedAdd_minor {a b sum : Money} (h : a.checkedAdd b = some sum) :
    sum.minorUnits = a.minorUnits + b.minorUnits := by
  unfold Money.checkedAdd at h
  split at h
  · obtain ⟨n, hn, rfl⟩ := Option.map_eq_some_iff.mp h
    exact ((checkedI64_eq_some_iff _ _).mp hn).1
  · cases h

theorem sound_after_lines {sale : SaleTax}
    (hstart : (TaxTables.refuseNegativeLines sale.lines).bind
      (fun _ => TaxTables.refuseOverrides c.overrides) = .ok ())
    (hrun : c.tables.stampLines c.overrides c.mode c.scope sale.currency ⟨none, none, none⟩
        sale.lines =
      (.ok (c.passed sale.currency sale.lines), sale.lines.map (c.stamp sale.currency))) :
    SaleTaxSound c sale ↔ c.LeavesAlone sale sale.lines [] := by
  have htax : (c.passed sale.currency sale.lines).totalTax.getD (.zero sale.currency) =
      ⟨taxSum (c.allEntries sale.lines), sale.currency⟩ := by
    rw [← c.sum_entries]
    exact accOf_getD _ _
  have hexclusive : (c.passed sale.currency sale.lines).exclusiveTax =
      accOf sale.currency (exclusives (c.allEntries sale.lines)) := rfl
  rw [TaxSetting.LeavesAlone, TaxSetting.TotalRefused]
  by_cases hnone : exclusives (c.allEntries sale.lines) = []
  · rw [accOf, if_pos hnone] at hexclusive
    have hcompute : c.compute sale = (.ok (), c.taxed sale) := by
      simp only [TaxSetting.compute, TaxTables.computeSaleTax, hstart, hrun, htax, hexclusive]
      rfl
    simp only [hnone, ne_eq, not_true_eq_false, false_and, false_implies, iff_true]
    have hconserved := @taxed_conserved c sale sale.total (by simp [hnone])
    exact sound_of_ok hcompute hconserved
  · rw [accOf, if_neg hnone] at hexclusive
    simp only [ne_eq, hnone, not_false_eq_true, true_and]
    cases hsum : sale.total.checkedAdd
        ⟨(exclusives (c.allEntries sale.lines)).sum, sale.currency⟩ with
    | none =>
      have hcompute : c.compute sale =
          (.error (.validation "total" "sale total overflow from exclusive tax"), c.taxed sale) := by
        simp only [TaxSetting.compute, TaxTables.computeSaleTax, hstart, hrun, htax, hexclusive,
          addMoney, hsum]
        rfl
      rw [sound_of_error hcompute, taxed_eq_iff]
      simp only [true_implies]
    | some total =>
      have hcompute : c.compute sale = (.ok (), { c.taxed sale with total }) := by
        simp only [TaxSetting.compute, TaxTables.computeSaleTax, hstart, hrun, htax, hexclusive,
          addMoney, hsum]
        rfl
      simp only [reduceCtorEq, false_implies, iff_true]
      exact sound_of_ok hcompute (taxed_conserved c sale (checkedAdd_minor hsum))

/-- Sale tax is conserved, and atomic exactly when the first refusal of a pass leaves alone what
the pass has written by then. -/
theorem computeSaleTax_sound_iff (c : TaxSetting) (sale : SaleTax) :
    SaleTaxSound c sale ↔ c.RefusedAtOnce sale ∨ c.LeavesAlone sale [] sale.lines := by
  cases hstart : (TaxTables.refuseNegativeLines sale.lines).bind
      (fun _ => TaxTables.refuseOverrides c.overrides) with
  | error e =>
    have hrefused : c.RefusedAtOnce sale := by
      by_contra hnot
      have hok := (goes_on_iff c sale).mpr ((not_refusedAtOnce_iff c sale).mp hnot)
      rw [hstart] at hok
      cases hok
    have hrun : c.compute sale = (.error e, sale) := by
      simp only [TaxSetting.compute, TaxTables.computeSaleTax, hstart]
    simp [sound_of_error hrun, hrefused]
  | ok done =>
    obtain ⟨hlines, hoverrides⟩ := (goes_on_iff c sale).mp hstart
    have hempty : (exclusives (c.allEntries [])).sum < 2^63 := by
      simp [TaxSetting.allEntries, exclusives]
    simp only [(not_refusedAtOnce_iff c sale).mpr ⟨hlines, hoverrides⟩, false_or]
    rcases @TaxSetting.stampLines_spec c sale (fun o ho => (hoverrides o ho).1) [] sale.lines
      hlines hempty with ⟨e, out, hrun, hleaves⟩ | ⟨hrun, hleaves⟩
    · have hnothing : c.passed sale.currency [] = ⟨none, none, none⟩ := rfl
      rw [hnothing] at hrun
      have hcompute : c.compute sale = (.error e, { sale with lines := out }) := by
        simp only [TaxSetting.compute, TaxTables.computeSaleTax, hstart, hrun]
      rw [sound_of_error hcompute, hleaves]
      obtain ⟨lines, currency, total, subtotal, taxTotal⟩ := sale
      simp
    · rw [hleaves]
      exact sound_after_lines hstart hrun

def saleTaxRate : TaxRateRow :=
  ⟨⟨"r-1", "VAT", 1000, true, false, "", "", tenPercent_nonneg⟩, true, none, none, none, none, ""⟩

def vatSetting : TaxSetting :=
  ⟨⟨Table.empty.upsert saleTaxRate, [], [], Table.empty, Table.empty⟩, [], .halfUp, none⟩

def untaxedLine (sku : String) (lineTotal : Int) : SaleTaxLine :=
  ⟨sku, ⟨lineTotal, "USD"⟩, .zero "USD", none, none⟩

def overflowingSale : SaleTax :=
  ⟨[untaxedLine "A" 1000, untaxedLine "B" (2^62)], "USD", ⟨1000 + 2^62, "USD"⟩, .zero "USD",
    .zero "USD"⟩

theorem overflow_leaves_taxed_line : ¬ SaleTaxSound vatSetting overflowingSale := by
  intro hsound
  have hfailed : (vatSetting.compute overflowingSale).1 =
      .error (.validation "tax" "tax multiplication overflow") := by
    decide +kernel
  have hleft := hsound.atomic _ hfailed
  revert hleft
  decide +kernel

end OzPos
