import OzPos.Tax.SaleTax

namespace OzPos

theorem overflowed_ok_iff {field message : String} {o : Option Int} {n : Int} :
    overflowed field message o = .ok n ↔ o = some n := by
  cases o <;> simp [overflowed]

theorem accumulate_ok {acc acc' : Option Int} {amount : Int} {field message : String}
    (h : accumulate acc amount field message = .ok acc') :
    acc'.getD 0 = acc.getD 0 + amount ∧ (amount < 2^63 → acc'.getD 0 < 2^63) := by
  cases acc with
  | none =>
    obtain rfl : some amount = acc' := by simpa [accumulate] using h
    simp
  | some n =>
    obtain ⟨m, hm, rfl⟩ := Except.of_map h
    obtain ⟨rfl, _, hhigh⟩ := (checkedI64_eq_some_iff _ _).mp (overflowed_ok_iff.mp hm)
    simpa using fun _ => hhigh

theorem accumulate_of_fits {acc : Option Int} {amount : Int} (field message : String)
    (hlow : 0 ≤ acc.getD 0) (hamount : 0 ≤ amount) (hfits : acc.getD 0 + amount < 2^63) :
    ∃ acc', accumulate acc amount field message = .ok acc' ∧ acc'.getD 0 = acc.getD 0 + amount := by
  cases acc with
  | none => exact ⟨some amount, rfl, by simp⟩
  | some n =>
    simp only [Option.getD_some] at hlow hfits
    have hchecked : checkedI64 (n + amount) = some (n + amount) :=
      (checkedI64_eq_some_iff _ _).mpr ⟨rfl, by omega, hfits⟩
    exact ⟨some (n + amount), by simp [accumulate, hchecked, overflowed, Except.map], rfl⟩

def RoundingMode.leastTaxed (divisor : Int) : RoundingMode → Int
  | .truncate => divisor
  | .halfUp => divisor - divisor.tdiv 2

theorem quotient_zero {n d : Int} (hn : 0 ≤ n) (hd : 0 < d) :
    0 ≤ n.tdiv d ∧ (n.tdiv d = 0 ↔ n < d) := by
  have hquot : n.tdiv d = n / d := Int.tdiv_eq_ediv_of_nonneg hn
  have hpos : 0 ≤ n / d := Int.ediv_nonneg hn (by omega)
  have hlt : n / d < 1 ↔ n < 1 * d := Int.ediv_lt_iff_lt_mul hd
  omega

theorem RoundingMode.divide_spec {mode : RoundingMode} {numerator divisor tax : Int}
    (hnum : 0 ≤ numerator) (hdiv : 2 ≤ divisor) (h : mode.divide numerator divisor = some tax) :
    0 ≤ tax ∧ (tax = 0 ↔ numerator < mode.leastTaxed divisor) := by
  have hquot := quotient_zero hnum (show 0 < divisor by omega)
  have hhalf : divisor.tdiv 2 = divisor / 2 := Int.tdiv_eq_ediv_of_nonneg (by omega)
  cases mode with
  | truncate =>
    obtain rfl : numerator.tdiv divisor = tax := by simpa [divide] using h
    exact hquot
  | halfUp =>
    simp only [divide] at h
    split at h
    · rename_i hexact
      obtain rfl : numerator.tdiv divisor = tax := by simpa using h
      refine ⟨hquot.1, hquot.2.trans ?_⟩
      simp only [leastTaxed, hhalf]
      constructor
      · intro hlt
        -- an exact division below the divisor divides nothing
        have hmod : numerator.tmod divisor = numerator := Int.tmod_eq_of_lt hnum hlt
        omega
      · omega
    · obtain ⟨n, hn, rfl⟩ := Option.map_eq_some_iff.mp h
      obtain ⟨rfl, -⟩ := (checkedI64_eq_some_iff _ _).mp hn
      have hround := quotient_zero (n := numerator + divisor.tdiv 2) (by omega)
        (show 0 < divisor by omega)
      refine ⟨hround.1, hround.2.trans ?_⟩
      simp only [leastTaxed]
      omega

theorem computeLineTax_spec {baseMinor rateBps tax : Int} {isInclusive : Bool} {mode : RoundingMode}
    (hbase : 0 ≤ baseMinor) (hbps : 0 ≤ rateBps)
    (h : computeLineTax baseMinor rateBps isInclusive mode = .ok tax) :
    0 ≤ tax ∧
      (tax = 0 ↔ baseMinor * rateBps < mode.leastTaxed (taxDivisor rateBps isInclusive)) := by
  obtain ⟨numerator, hnum, h⟩ := Except.of_bind h
  obtain ⟨divisor, hdivisor, h⟩ := Except.of_bind h
  obtain ⟨rfl, -⟩ := (checkedI64_eq_some_iff _ _).mp (overflowed_ok_iff.mp hnum)
  have hdiv : divisor = taxDivisor rateBps isInclusive := by
    cases isInclusive with
    | false => simpa [taxDivisor] using hdivisor.symm
    | true =>
      have hchecked : checkedI64 (10000 + rateBps) = some divisor :=
        overflowed_ok_iff.mp (by simpa using hdivisor)
      simpa [taxDivisor] using ((checkedI64_eq_some_iff _ _).mp hchecked).1
  have htwo : 2 ≤ divisor := by
    rw [hdiv, taxDivisor]
    split <;> omega
  rw [← hdiv]
  exact RoundingMode.divide_spec (Int.mul_nonneg hbase hbps) htwo (overflowed_ok_iff.mp h)

structure TaxShare where
  isInclusive : Bool
  taxMinor : Int

variable (shares : List TaxShare)

def totalShare : Int := (shares.map TaxShare.taxMinor).sum

def exclusiveShare : Int :=
  totalShare (shares.filter (fun s => !s.isInclusive))

def inclusiveShare : Int :=
  totalShare (shares.filter (fun s => s.isInclusive))

@[simp] theorem totalShare_nil : totalShare [] = 0 := rfl

@[simp] theorem totalShare_cons (s : TaxShare) (shares : List TaxShare) :
    totalShare (s :: shares) = s.taxMinor + totalShare shares := rfl

variable (xs ys : List TaxShare)

@[simp] theorem totalShare_append : totalShare (xs ++ ys) = totalShare xs + totalShare ys := by
  simp [totalShare]

@[simp] theorem exclusiveShare_nil : exclusiveShare [] = 0 := rfl

theorem exclusiveShare_cons (s : TaxShare) (shares : List TaxShare) :
    exclusiveShare (s :: shares) =
      (if s.isInclusive then 0 else s.taxMinor) + exclusiveShare shares := by
  cases h : s.isInclusive <;> simp [exclusiveShare, h]

@[simp] theorem exclusiveShare_append :
    exclusiveShare (xs ++ ys) = exclusiveShare xs + exclusiveShare ys := by
  simp [exclusiveShare]

variable {shares : List TaxShare}

theorem totalShare_nonneg (h : ∀ s ∈ shares, 0 ≤ s.taxMinor) : 0 ≤ totalShare shares := by
  induction shares with
  | nil => simp
  | cons s rest ih =>
    have hs := h s (by simp)
    have hrest := ih (fun s hs => h s (by simp [hs]))
    rw [totalShare_cons]
    omega

theorem totalShare_split (shares : List TaxShare) :
    totalShare shares = exclusiveShare shares + inclusiveShare shares := by
  induction shares with
  | nil => rfl
  | cons s rest ih =>
    simp only [exclusiveShare, inclusiveShare] at ih ⊢
    cases h : s.isInclusive <;> simp [h, ih] <;> omega

theorem totalShare_eq_zero (h : ∀ s ∈ shares, 0 ≤ s.taxMinor) :
    totalShare shares = 0 ↔ ∀ s ∈ shares, s.taxMinor = 0 := by
  induction shares with
  | nil => simp
  | cons s rest ih =>
    have hs := h s (by simp)
    have hrest : ∀ s ∈ rest, 0 ≤ s.taxMinor := fun s hs => h s (by simp [hs])
    have hsum := totalShare_nonneg hrest
    rw [totalShare_cons, List.forall_mem_cons, ← ih hrest]
    omega

theorem inclusiveShare_eq_zero (h : ∀ s ∈ shares, 0 ≤ s.taxMinor) :
    inclusiveShare shares = 0 ↔ ¬∃ s ∈ shares, s.isInclusive = true ∧ s.taxMinor ≠ 0 := by
  rw [inclusiveShare, totalShare_eq_zero (fun s hs => h s (List.mem_of_mem_filter hs))]
  simp

theorem exclusiveShare_eq_zero
    (h : ¬∃ s ∈ shares, s.isInclusive = false) : exclusiveShare shares = 0 := by
  have hnone : shares.filter (fun s => !s.isInclusive) = [] := by simpa using h
  rw [exclusiveShare, hnone, totalShare_nil]

namespace TaxTables

variable (t : TaxTables)

def rateShare (mode : RoundingMode) (lineTotal : Int) (rate : TaxRate) :
    Except CoreError TaxShare :=
  (t.effectiveRoundingForRate rate.id mode).bind (fun (effective, _) =>
    (computeLineTax lineTotal rate.rateBps rate.isInclusive effective).map
      (fun tax => ⟨rate.isInclusive, tax⟩))

def rateShares (mode : RoundingMode) (lineTotal : Int) :
    List TaxRate → Except CoreError (List TaxShare)
  | [] => .ok []
  | rate :: rest =>
    (t.rateShare mode lineTotal rate).bind (fun share =>
      (rateShares mode lineTotal rest).map (share :: ·))

def saleShares (mode : RoundingMode) (scope : Option TaxSaleScope) :
    List TaxedLine → Except CoreError (List TaxShare)
  | [] => .ok []
  | line :: rest =>
    (t.resolveBestTaxRatesForSkuAt line.sku scope).bind (fun rates =>
      (t.rateShares mode line.lineTotal rates).bind (fun shares =>
        (saleShares mode scope rest).map (shares ++ ·)))

variable {t}

variable {lineTotal : Int} {rate : TaxRate}

theorem rateShare_spec {mode : RoundingMode}
    {share : TaxShare} (hbase : 0 ≤ lineTotal) (h : t.rateShare mode lineTotal rate = .ok share) :
    0 ≤ share.taxMinor ∧ share.isInclusive = rate.isInclusive ∧
      ∃ effective source, t.effectiveRoundingForRate rate.id mode = .ok (effective, source) ∧
        (share.taxMinor = 0 ↔
          lineTotal * rate.rateBps <
            effective.leastTaxed (taxDivisor rate.rateBps rate.isInclusive)) := by
  obtain ⟨⟨effective, source⟩, hmode, h⟩ := Except.of_bind h
  obtain ⟨tax, htax, rfl⟩ := Except.of_map h
  obtain ⟨hpos, hzero⟩ := computeLineTax_spec hbase rate.bps_nonneg htax
  exact ⟨hpos, rfl, effective, source, hmode, hzero⟩

theorem rateShares_cons {mode : RoundingMode} {rest : List TaxRate}
    (h : t.rateShares mode lineTotal (rate :: rest) = .ok shares) :
    ∃ share later, t.rateShare mode lineTotal rate = .ok share ∧
      t.rateShares mode lineTotal rest = .ok later ∧ shares = share :: later := by
  obtain ⟨share, hshare, h⟩ := Except.of_bind h
  obtain ⟨later, hlater, rfl⟩ := Except.of_map h
  exact ⟨share, later, hshare, hlater, rfl⟩

variable {rates : List TaxRate}

theorem rateShares_nonneg {mode : RoundingMode} (hbase : 0 ≤ lineTotal)
    (h : t.rateShares mode lineTotal rates = .ok shares) : ∀ s ∈ shares, 0 ≤ s.taxMinor := by
  induction rates generalizing shares with
  | nil =>
    obtain rfl : [] = shares := by simpa [rateShares] using h
    simp
  | cons rate rest ih =>
    obtain ⟨share, later, hshare, hlater, rfl⟩ := rateShares_cons h
    rw [List.forall_mem_cons]
    exact ⟨(rateShare_spec hbase hshare).1, ih hlater⟩

theorem saleShares_nonneg {mode : RoundingMode} {scope : Option TaxSaleScope}
    {lines : List TaxedLine} (hnonneg : ∀ line ∈ lines, 0 ≤ line.lineTotal)
    (h : t.saleShares mode scope lines = .ok shares) : ∀ s ∈ shares, 0 ≤ s.taxMinor := by
  induction lines generalizing shares with
  | nil =>
    obtain rfl : [] = shares := by simpa [saleShares] using h
    simp
  | cons line rest ih =>
    obtain ⟨hbase, hrest⟩ := List.forall_mem_cons.mp hnonneg
    obtain ⟨rates, -, h⟩ := Except.of_bind h
    obtain ⟨first, hfirst, h⟩ := Except.of_bind h
    obtain ⟨later, hlater, rfl⟩ := Except.of_map h
    rw [List.forall_mem_append]
    exact ⟨rateShares_nonneg hbase hfirst, ih hrest hlater⟩

theorem addLineTax_ok {s s' : LineState} {entry : TaxBreakdown} (h : addLineTax s entry = .ok s') :
    s'.lineTax = s.lineTax + entry.taxMinor ∧ s'.lineTax < 2^63 ∧
      s'.exclusiveTax.getD 0 =
        s.exclusiveTax.getD 0 + (if entry.isInclusive then 0 else entry.taxMinor) := by
  obtain ⟨lineTax, hline, h⟩ := Except.of_bind h
  obtain ⟨exclusiveTax, hexcl, rfl⟩ := Except.of_map h
  obtain ⟨rfl, -, hhigh⟩ := (checkedI64_eq_some_iff _ _).mp (overflowed_ok_iff.mp hline)
  refine ⟨rfl, hhigh, ?_⟩
  cases hincl : entry.isInclusive with
  | true =>
    obtain rfl : s.exclusiveTax = exclusiveTax := by simpa [hincl] using hexcl
    simp
  | false =>
    rw [hincl] at hexcl
    simpa using (accumulate_ok (by simpa using hexcl)).1

theorem chargeRates_ok {mode : RoundingMode} {s s' : LineState}
    (h : t.chargeRates mode lineTotal s rates = .ok s') (hfits : s.lineTax < 2^63) :
    ∃ shares, t.rateShares mode lineTotal rates = .ok shares ∧
      s'.lineTax = s.lineTax + totalShare shares ∧ s'.lineTax < 2^63 ∧
      s'.exclusiveTax.getD 0 = s.exclusiveTax.getD 0 + exclusiveShare shares := by
  induction rates generalizing s with
  | nil =>
    obtain rfl : s = s' := by simpa [chargeRates] using h
    exact ⟨[], rfl, by simp, hfits, by simp⟩
  | cons rate rest ih =>
    obtain ⟨⟨effective, source⟩, hmode, h⟩ := Except.of_bind h
    obtain ⟨tax, htax, h⟩ := Except.of_bind h
    obtain ⟨next, hnext, h⟩ := Except.of_bind h
    obtain ⟨hline, hhigh, hexcl⟩ := addLineTax_ok hnext
    obtain ⟨shares, hshares, hline', hhigh', hexcl'⟩ := ih h hhigh
    refine ⟨⟨rate.isInclusive, tax⟩ :: shares, ?_, ?_, hhigh', ?_⟩
    · have hshare : t.rateShare mode lineTotal rate = .ok ⟨rate.isInclusive, tax⟩ := by
        simp [rateShare, hmode, htax, Except.bind, Except.map]
      simp [rateShares, hshare, hshares, Except.bind, Except.map]
    · rw [totalShare_cons, hline', hline, Int.add_assoc]
    · rw [exclusiveShare_cons, hexcl', hexcl, Int.add_assoc]

theorem chargeLine_ok {mode : RoundingMode} {scope : Option TaxSaleScope}
    {exclusiveTax exclusiveTax' : Option Int} {line line' : TaxedLine}
    (h : t.chargeLine [] mode scope exclusiveTax line = .ok (line', exclusiveTax')) :
    ∃ rates shares, t.resolveBestTaxRatesForSkuAt line.sku scope = .ok rates ∧
      t.rateShares mode line.lineTotal rates = .ok shares ∧
      line'.lineTotal = line.lineTotal ∧ line'.taxAmount = totalShare shares ∧
      line'.taxAmount < 2^63 ∧
      exclusiveTax'.getD 0 = exclusiveTax.getD 0 + exclusiveShare shares := by
  obtain ⟨rates, hrates, h⟩ := Except.of_bind h
  obtain ⟨⟨s, rateId⟩, hs, h⟩ := Except.of_map h
  obtain ⟨rfl, rfl⟩ := Prod.mk.inj h
  obtain ⟨s, hcharged, hpair⟩ := Except.of_map (by simpa [taxLine] using hs)
  obtain ⟨rfl, rfl⟩ := Prod.mk.inj hpair
  obtain ⟨shares, hshares, hline, hhigh, hexcl⟩ := chargeRates_ok hcharged (by simp)
  exact ⟨rates, shares, hrates, hshares, rfl, by simpa [TaxedLine.stamped] using hline, hhigh, hexcl⟩

theorem chargeLines_ok {mode : RoundingMode} {scope : Option TaxSaleScope}
    {lines : List TaxedLine} {s s' : ChargeState}
    (h : t.chargeLines [] mode scope s lines = .ok s') (hfits : s.totalTax.getD 0 < 2^63) :
    ∃ shares, t.saleShares mode scope lines = .ok shares ∧
      s'.totalTax.getD 0 = s.totalTax.getD 0 + totalShare shares ∧ s'.totalTax.getD 0 < 2^63 ∧
      s'.exclusiveTax.getD 0 = s.exclusiveTax.getD 0 + exclusiveShare shares := by
  induction lines generalizing s with
  | nil =>
    obtain rfl : s = s' := by simpa [chargeLines] using h
    exact ⟨[], rfl, by simp, hfits, by simp⟩
  | cons line rest ih =>
    obtain ⟨⟨line', exclusiveTax⟩, hline, h⟩ := Except.of_bind h
    obtain ⟨totalTax, htotal, h⟩ := Except.of_bind h
    obtain ⟨subtotal, -, h⟩ := Except.of_bind h
    obtain ⟨rates, shares, hrates, hshares, -, htax, hhigh, hexcl⟩ := chargeLine_ok hline
    obtain ⟨hsum, hbound⟩ := accumulate_ok htotal
    obtain ⟨later, hlater, htotal', hhigh', hexcl'⟩ := ih h (hbound hhigh)
    simp only at htotal' hexcl'
    refine ⟨shares ++ later, ?_, ?_, hhigh', ?_⟩
    · simp [saleShares, hrates, hshares, hlater, Except.bind, Except.map]
    · rw [htotal', hsum, htax, totalShare_append, Int.add_assoc]
    · rw [hexcl', hexcl, exclusiveShare_append, Int.add_assoc]

theorem computeSaleTaxForLocation_ok {sale charged : TaxedSale} {mode : RoundingMode}
    {scope : Option TaxSaleScope}
    (h : t.computeSaleTaxForLocation sale [] mode scope = .ok charged) :
    ∃ shares, t.saleShares mode scope sale.lines = .ok shares ∧ totalShare shares < 2^63 ∧
      charged.total = sale.total + exclusiveShare shares ∧
      charged.taxTotal = totalShare shares := by
  obtain ⟨_, -, h⟩ := Except.of_bind h
  obtain ⟨_, -, h⟩ := Except.of_bind h
  obtain ⟨s, hs, h⟩ := Except.of_bind h
  obtain ⟨total, htotal, rfl⟩ := Except.of_map h
  obtain ⟨shares, hshares, htax, hhigh, hexcl⟩ := chargeLines_ok hs (by decide)
  simp only [Option.getD_none, Int.zero_add] at htax hexcl
  refine ⟨shares, hshares, by omega, ?_, htax⟩
  rw [← hexcl]
  cases het : s.exclusiveTax with
  | none => simpa [het] using (show sale.total = total by simpa [het] using htotal).symm
  | some et =>
    rw [het] at htotal
    simpa using ((checkedI64_eq_some_iff _ _).mp (overflowed_ok_iff.mp htotal)).1

theorem previewRates_of {mode : RoundingMode} {s : PreviewState} (hbase : 0 ≤ lineTotal)
    (h : t.rateShares mode lineTotal rates = .ok shares) (hlow : 0 ≤ s.totalTax.getD 0)
    (hfits : s.totalTax.getD 0 + totalShare shares < 2^63) :
    ∃ s', t.previewRates mode lineTotal s rates = .ok s' ∧
      s'.totalTax.getD 0 = s.totalTax.getD 0 + totalShare shares ∧
      s'.hasExclusive = (s.hasExclusive || shares.any (fun s => !s.isInclusive)) := by
  induction rates generalizing s shares with
  | nil =>
    obtain rfl : [] = shares := by simpa [rateShares] using h
    exact ⟨s, rfl, by simp, by simp⟩
  | cons rate rest ih =>
    obtain ⟨share, later, hshare, hlater, rfl⟩ := rateShares_cons h
    have hfirst := (rateShare_spec hbase hshare).1
    have hrest := totalShare_nonneg (rateShares_nonneg hbase hlater)
    obtain ⟨⟨effective, source⟩, hmode, hshare⟩ := Except.of_bind hshare
    obtain ⟨tax, htax, rfl⟩ := Except.of_map hshare
    rw [totalShare_cons] at hfits
    obtain ⟨totalTax, hacc, hsum⟩ := accumulate_of_fits "tax" "cart tax overflow" hlow hfirst
      (by omega)
    obtain ⟨s', hs', hsum', hexcl'⟩ := ih (s := ⟨totalTax, s.hasExclusive || !rate.isInclusive⟩)
      hlater (by simp only; omega) (by simp only; omega)
    refine ⟨s', ?_, ?_, ?_⟩
    · simp [previewRates, hmode, htax, hacc, hs', Except.bind]
    · simp only at hsum hsum'
      simp only [totalShare_cons]
      omega
    · simp [hexcl', Bool.or_assoc]

variable {line : CartLineTaxInput}

theorem saleLines_cons {rest : List CartLineTaxInput}
    {sold : List TaxedLine} (h : saleLines (line :: rest) = some sold) :
    ∃ lineTotal later, line.total = some lineTotal ∧ saleLines rest = some later ∧
      sold = line.saleLine lineTotal :: later := by
  obtain ⟨lineTotal, htotal, h⟩ := Option.bind_eq_some_iff.mp h
  obtain ⟨later, hlater, rfl⟩ := Option.map_eq_some_iff.mp h
  exact ⟨lineTotal, later, htotal, hlater, rfl⟩

theorem lineTotal_checked (h : line.total = some lineTotal) :
    0 < line.qty ∧ lineTotal = line.qty * line.unitPriceMinor ∧
      checkedI64 (line.qty * line.unitPriceMinor) = some lineTotal := by
  simp only [CartLineTaxInput.total] at h
  split at h
  · cases h
  · rename_i hqty
    rw [Int.mul_comm] at h
    exact ⟨by omega, ((checkedI64_eq_some_iff _ _).mp h).1, h⟩

theorem previewLines_of {mode : RoundingMode} {scope : Option TaxSaleScope}
    {lines : List CartLineTaxInput} {sold : List TaxedLine}
    {s : PreviewState} (hsold : saleLines lines = some sold)
    (hnonneg : ∀ line ∈ sold, 0 ≤ line.lineTotal) (h : t.saleShares mode scope sold = .ok shares)
    (hlow : 0 ≤ s.totalTax.getD 0) (hfits : s.totalTax.getD 0 + totalShare shares < 2^63) :
    ∃ s', t.previewLines mode scope s lines = .ok s' ∧
      s'.totalTax.getD 0 = s.totalTax.getD 0 + totalShare shares ∧
      s'.hasExclusive = (s.hasExclusive || shares.any (fun s => !s.isInclusive)) := by
  induction lines generalizing sold shares s with
  | nil =>
    obtain rfl : [] = sold := by simpa [saleLines] using hsold
    obtain rfl : [] = shares := by simpa [saleShares] using h
    exact ⟨s, rfl, by simp, by simp⟩
  | cons line rest ih =>
    obtain ⟨lineTotal, soldLater, htotal, hrestSold, rfl⟩ := saleLines_cons hsold
    obtain ⟨hbase, hlater⟩ := List.forall_mem_cons.mp hnonneg
    obtain ⟨hqty, hmul, hchecked⟩ := lineTotal_checked htotal
    obtain ⟨rates, hrates, h⟩ := Except.of_bind h
    obtain ⟨first, hfirst, h⟩ := Except.of_bind h
    obtain ⟨later, hshares, rfl⟩ := Except.of_map h
    change 0 ≤ lineTotal at hbase
    change t.rateShares mode lineTotal rates = .ok first at hfirst
    have hprice : ¬line.unitPriceMinor < 0 := by
      intro hneg
      have hprod := Int.mul_neg_of_pos_of_neg hqty hneg
      omega
    have hsum := totalShare_nonneg (rateShares_nonneg hbase hfirst)
    have hrest := totalShare_nonneg (saleShares_nonneg hlater hshares)
    rw [totalShare_append] at hfits ⊢
    obtain ⟨next, hnext, htax, hexcl⟩ := previewRates_of hbase hfirst hlow (by omega)
    obtain ⟨s', hs', htax', hexcl'⟩ := ih hrestSold hlater hshares (s := next) (by omega) (by omega)
    refine ⟨s', ?_, by omega, by simp [hexcl', hexcl, Bool.or_assoc]⟩
    have hrates' : t.resolveBestTaxRatesForSkuAt line.sku scope = .ok rates := hrates
    rw [previewLines, if_neg (by omega), if_neg hprice, hchecked]
    simp [overflowed, hrates', hnext, hs', Except.bind]

theorem mem_rateShares {mode : RoundingMode} (h : t.rateShares mode lineTotal rates = .ok shares) :
    (∀ share ∈ shares, ∃ rate ∈ rates, t.rateShare mode lineTotal rate = .ok share) ∧
      ∀ rate ∈ rates, ∃ share ∈ shares, t.rateShare mode lineTotal rate = .ok share := by
  induction rates generalizing shares with
  | nil =>
    obtain rfl : [] = shares := by simpa [rateShares] using h
    simp
  | cons rate rest ih =>
    obtain ⟨first, later, hfirst, hlater, rfl⟩ := rateShares_cons h
    obtain ⟨hfrom, hto⟩ := ih hlater
    constructor
    · rw [List.forall_mem_cons]
      exact ⟨⟨rate, by simp, hfirst⟩, fun share hshare =>
        (hfrom share hshare).imp fun _ h => ⟨by simp [h.1], h.2⟩⟩
    · rw [List.forall_mem_cons]
      exact ⟨⟨first, by simp, hfirst⟩, fun rate hrate =>
        (hto rate hrate).imp fun _ h => ⟨by simp [h.1], h.2⟩⟩

theorem mem_saleShares {mode : RoundingMode} {scope : Option TaxSaleScope}
    {lines : List TaxedLine} (h : t.saleShares mode scope lines = .ok shares) :
    (∀ share ∈ shares, ∃ line ∈ lines, ∃ rates,
      t.resolveBestTaxRatesForSkuAt line.sku scope = .ok rates ∧
        ∃ rate ∈ rates, t.rateShare mode line.lineTotal rate = .ok share) ∧
      ∀ line ∈ lines, ∀ rates, t.resolveBestTaxRatesForSkuAt line.sku scope = .ok rates →
        ∀ rate ∈ rates, ∃ share ∈ shares, t.rateShare mode line.lineTotal rate = .ok share := by
  induction lines generalizing shares with
  | nil =>
    obtain rfl : [] = shares := by simpa [saleShares] using h
    simp
  | cons line rest ih =>
    obtain ⟨rates, hrates, h⟩ := Except.of_bind h
    obtain ⟨first, hfirst, h⟩ := Except.of_bind h
    obtain ⟨later, hlater, rfl⟩ := Except.of_map h
    obtain ⟨hfrom, hto⟩ := ih hlater
    obtain ⟨hfrom', hto'⟩ := mem_rateShares hfirst
    constructor
    · rw [List.forall_mem_append]
      exact ⟨fun share hshare => ⟨line, by simp, rates, hrates, hfrom' share hshare⟩,
        fun share hshare => (hfrom share hshare).imp fun _ h => ⟨by simp [h.1], h.2⟩⟩
    · rw [List.forall_mem_cons]
      constructor
      · intro rates' hrates' rate hrate
        obtain rfl : rates = rates' := Except.ok.inj (hrates.symm.trans hrates')
        exact (hto' rate hrate).imp fun _ h => ⟨by simp [h.1], h.2⟩
      · intro line hline rates hrates rate hrate
        exact (hto line hline rates hrates rate hrate).imp fun _ h => ⟨by simp [h.1], h.2⟩

theorem mem_saleLines {lines : List CartLineTaxInput} {sold : List TaxedLine}
    (h : saleLines lines = some sold) (taxed : TaxedLine) :
    taxed ∈ sold ↔ ∃ line ∈ lines, taxed = line.saleLine (line.qty * line.unitPriceMinor) := by
  induction lines generalizing sold with
  | nil =>
    obtain rfl : [] = sold := by simpa [saleLines] using h
    simp
  | cons line rest ih =>
    obtain ⟨lineTotal, later, htotal, hlater, rfl⟩ := saleLines_cons h
    obtain ⟨-, rfl, -⟩ := lineTotal_checked htotal
    simp [ih hlater]

def RateOn (t : TaxTables) (scope : Option TaxSaleScope) (line : CartLineTaxInput)
    (rate : TaxRate) : Prop :=
  ∃ rates, t.resolveBestTaxRatesForSkuAt line.sku scope = .ok rates ∧ rate ∈ rates

def AddsTax (t : TaxTables) (scope : Option TaxSaleScope) (lines : List CartLineTaxInput) : Prop :=
  ∃ line ∈ lines, ∃ rate, t.RateOn scope line rate ∧ rate.isInclusive = false

/-- Some line's price holds an inclusive tax of at least one minor unit. -/
def EmbedsTax (t : TaxTables) (mode : RoundingMode) (scope : Option TaxSaleScope)
    (lines : List CartLineTaxInput) : Prop :=
  ∃ line ∈ lines, ∃ rate, t.RateOn scope line rate ∧ rate.isInclusive = true ∧
    ∃ effective source, t.effectiveRoundingForRate rate.id mode = .ok (effective, source) ∧
      effective.leastTaxed (10000 + rate.rateBps) ≤
        line.qty * line.unitPriceMinor * rate.rateBps

theorem refuseNegative_ok {lines : List TaxedLine} (h : refuseNegative lines = .ok ()) :
    ∀ line ∈ lines, 0 ≤ line.lineTotal := by
  induction lines with
  | nil => simp
  | cons line rest ih =>
    rw [refuseNegative] at h
    split at h
    · cases h
    · rw [List.forall_mem_cons]
      exact ⟨by omega, ih h⟩

variable {mode : RoundingMode} {scope : Option TaxSaleScope} {lines : List CartLineTaxInput}
  {sold : List TaxedLine} {shares : List TaxShare}

theorem shares_iff (hsold : saleLines lines = some sold)
    (h : t.saleShares mode scope sold = .ok shares) (P : TaxShare → Prop) :
    (∃ share ∈ shares, P share) ↔ ∃ line ∈ lines, ∃ rate, t.RateOn scope line rate ∧
      ∃ share, t.rateShare mode (line.qty * line.unitPriceMinor) rate = .ok share ∧ P share := by
  obtain ⟨hfrom, hto⟩ := mem_saleShares h
  constructor
  · rintro ⟨share, hmem, hP⟩
    obtain ⟨taxed, htaxed, rates, hrates, rate, hrate, hshare⟩ := hfrom share hmem
    obtain ⟨line, hline, rfl⟩ := (mem_saleLines hsold taxed).mp htaxed
    exact ⟨line, hline, rate, ⟨rates, hrates, hrate⟩, share, hshare, hP⟩
  · rintro ⟨line, hline, rate, ⟨rates, hrates, hrate⟩, share, hshare, hP⟩
    have htaxed := (mem_saleLines hsold _).mpr ⟨line, hline, rfl⟩
    obtain ⟨share', hmem, hshare'⟩ := hto _ htaxed rates hrates rate hrate
    obtain rfl : share' = share := Except.ok.inj (hshare'.symm.trans hshare)
    exact ⟨share', hmem, hP⟩

theorem rateShare_exists (hsold : saleLines lines = some sold)
    (h : t.saleShares mode scope sold = .ok shares)
    (hline : line ∈ lines) (hrate : t.RateOn scope line rate) :
    ∃ share, t.rateShare mode (line.qty * line.unitPriceMinor) rate = .ok share := by
  obtain ⟨rates, hrates, hrate⟩ := hrate
  have htaxed := (mem_saleLines hsold _).mpr ⟨line, hline, rfl⟩
  obtain ⟨share, -, hshare⟩ := (mem_saleShares h).2 _ htaxed rates hrates rate hrate
  exact ⟨share, hshare⟩

theorem base_nonneg (hsold : saleLines lines = some sold)
    (hnonneg : ∀ line ∈ sold, 0 ≤ line.lineTotal) (hline : line ∈ lines) :
    0 ≤ line.qty * line.unitPriceMinor :=
  hnonneg _ ((mem_saleLines hsold _).mpr ⟨line, hline, rfl⟩)

theorem addsTax_iff (hsold : saleLines lines = some sold)
    (hnonneg : ∀ line ∈ sold, 0 ≤ line.lineTotal) (h : t.saleShares mode scope sold = .ok shares) :
    t.AddsTax scope lines ↔ ∃ share ∈ shares, share.isInclusive = false := by
  rw [shares_iff hsold h]
  constructor
  · rintro ⟨line, hline, rate, hrate, hexcl⟩
    obtain ⟨share, hshare⟩ := rateShare_exists hsold h hline hrate
    obtain ⟨-, hincl, -⟩ := rateShare_spec (base_nonneg hsold hnonneg hline) hshare
    exact ⟨line, hline, rate, hrate, share, hshare, hincl.trans hexcl⟩
  · rintro ⟨line, hline, rate, hrate, share, hshare, hexcl⟩
    obtain ⟨-, hincl, -⟩ := rateShare_spec (base_nonneg hsold hnonneg hline) hshare
    exact ⟨line, hline, rate, hrate, hincl.symm.trans hexcl⟩

theorem embedsTax_iff (hsold : saleLines lines = some sold)
    (hnonneg : ∀ line ∈ sold, 0 ≤ line.lineTotal) (h : t.saleShares mode scope sold = .ok shares) :
    t.EmbedsTax mode scope lines ↔
      ∃ share ∈ shares, share.isInclusive = true ∧ share.taxMinor ≠ 0 := by
  rw [shares_iff hsold h]
  constructor
  · rintro ⟨line, hline, rate, hrate, hembedded, effective, source, hmode, hleast⟩
    obtain ⟨share, hshare⟩ := rateShare_exists hsold h hline hrate
    obtain ⟨-, hincl, effective', source', hmode', hzero⟩ :=
      rateShare_spec (base_nonneg hsold hnonneg hline) hshare
    obtain ⟨rfl, rfl⟩ := Prod.mk.inj (Except.ok.inj (hmode.symm.trans hmode'))
    refine ⟨line, hline, rate, hrate, share, hshare, hincl.trans hembedded, ?_⟩
    rw [hembedded, taxDivisor, if_pos rfl] at hzero
    omega
  · rintro ⟨line, hline, rate, hrate, share, hshare, hembedded, htax⟩
    obtain ⟨-, hincl, effective, source, hmode, hzero⟩ :=
      rateShare_spec (base_nonneg hsold hnonneg hline) hshare
    rw [← hincl, hembedded, taxDivisor, if_pos rfl] at hzero
    exact ⟨line, hline, rate, hrate, hincl.symm.trans hembedded, effective, source, hmode,
      by omega⟩

/-- With tax on top and tax inside the prices of one cart, the preview adds both. -/
theorem preview_agrees_iff {sale charged : TaxedSale} (hsale : TaxedSale.fromCart lines = some sale)
    (hcharged : t.computeSaleTaxForLocation sale [] mode scope = .ok charged) :
    ∃ preview, t.computeCartTaxForLocation lines mode scope = .ok preview ∧
      (preview.payable sale.total = charged.total ↔
        ¬(t.AddsTax scope lines ∧ t.EmbedsTax mode scope lines)) := by
  obtain ⟨total, -, hsale⟩ := Option.bind_eq_some_iff.mp hsale
  obtain ⟨sold, hsold, rfl⟩ := Option.map_eq_some_iff.mp hsale
  have hnonneg : ∀ line ∈ sold, 0 ≤ line.lineTotal := by
    obtain ⟨_, hrefuse, -⟩ := Except.of_bind hcharged
    exact refuseNegative_ok hrefuse
  obtain ⟨shares, hshares, hfits, htotal, -⟩ := computeSaleTaxForLocation_ok hcharged
  have hpos := saleShares_nonneg hnonneg hshares
  obtain ⟨s, hs, htax, hexcl⟩ := previewLines_of (s := ⟨none, false⟩) hsold hnonneg hshares
    (by simp) (by simpa using hfits)
  refine ⟨⟨s.totalTax.getD 0, s.hasExclusive⟩, ?_, ?_⟩
  · simp [computeCartTaxForLocation, hs, Except.map]
  · rw [addsTax_iff hsold hnonneg hshares, embedsTax_iff hsold hnonneg hshares, htotal]
    have hnothing := inclusiveShare_eq_zero hpos
    have hflag : s.hasExclusive = true ↔ ∃ share ∈ shares, share.isInclusive = false := by
      simp [hexcl]
    have hsum : s.totalTax.getD 0 = exclusiveShare shares + inclusiveShare shares := by
      rw [← totalShare_split, htax]
      simp
    by_cases hadds : ∃ share ∈ shares, share.isInclusive = false
    · simp only [CartTaxResult.payable, if_pos (hflag.mpr hadds), hadds, true_and, ← hnothing]
      omega
    · have hnone := exclusiveShare_eq_zero hadds
      simp only [CartTaxResult.payable, if_neg (mt hflag.mp hadds), hadds, false_and]
      simp [hnone]

end TaxTables

def vatRate : TaxRate := ⟨"vat", "VAT", 1100, false, true, "t", "t", by decide⟩

def serviceRate : TaxRate := ⟨"service", "Service", 1000, true, false, "t", "t", tenPercent_nonneg⟩

def warungTables : TaxTables where
  taxRates := ⟨[⟨vatRate, true, none, none, none, none, ""⟩,
    ⟨serviceRate, true, none, some "jkt", some "2026-01-01", none, "truncate"⟩], by decide⟩
  productTaxes := [⟨"TEA", "vat", "t"⟩]
  categoryTaxes := []
  products := ⟨[⟨"p1", "TEA", none⟩, ⟨"p2", "CUP", none⟩], by decide⟩
  locations := ⟨[⟨"jkt", none⟩], by decide⟩

def warungScope : Option TaxSaleScope := some ⟨"jkt", "2026-02-28"⟩

def cups : TaxedSale := ⟨[⟨"CUP", 10010, 0, none, none⟩], 10010, 0, 0⟩

def cupsCharged : TaxedSale where
  lines := [⟨"CUP", 10010, 1001, some "service",
    some [⟨some "service", 1000, false, 1001, "truncate", "statutory", none⟩]⟩]
  total := 11011
  subtotal := 10010
  taxTotal := 1001

theorem cup_previewed :
    ∃ preview, warungTables.computeCartTaxForLocation [⟨"CUP", 2, 5005⟩] .halfUp warungScope =
        .ok preview ∧
      (preview.payable cups.total = cupsCharged.total ↔
        ¬(warungTables.AddsTax warungScope [⟨"CUP", 2, 5005⟩] ∧
          warungTables.EmbedsTax .halfUp warungScope [⟨"CUP", 2, 5005⟩])) := by
  have hsale : TaxedSale.fromCart [⟨"CUP", 2, 5005⟩] = some cups := by decide +kernel
  have hcharged : warungTables.computeSaleTaxForLocation cups [] .halfUp warungScope =
    .ok cupsCharged := by rfl
  exact TaxTables.preview_agrees_iff hsale hcharged

/-- A cup of tea: 22100 is charged and 23200 previewed. -/
theorem mixed_cart_previewed_higher :
    ¬∀ (t : TaxTables) (mode : RoundingMode) (scope : Option TaxSaleScope)
        (lines : List CartLineTaxInput) (sale charged : TaxedSale),
      TaxedSale.fromCart lines = some sale →
      t.computeSaleTaxForLocation sale [] mode scope = .ok charged →
      ∃ preview, t.computeCartTaxForLocation lines mode scope = .ok preview ∧
        preview.payable sale.total = charged.total := by
  intro h
  obtain ⟨preview, hpreview, hpayable⟩ := h warungTables .halfUp warungScope
    [⟨"TEA", 1, 11100⟩, ⟨"CUP", 1, 10000⟩]
    ⟨[⟨"TEA", 11100, 0, none, none⟩, ⟨"CUP", 10000, 0, none, none⟩], 21100, 0, 0⟩
    ⟨[⟨"TEA", 11100, 1100, some "vat",
        some [⟨some "vat", 1100, true, 1100, "half_up", "preference", none⟩]⟩,
      ⟨"CUP", 10000, 1000, some "service",
        some [⟨some "service", 1000, false, 1000, "truncate", "statutory", none⟩]⟩],
      22100, 21100, 2100⟩ (by decide +kernel) (by rfl)
  have hcomputed : warungTables.computeCartTaxForLocation
      [⟨"TEA", 1, 11100⟩, ⟨"CUP", 1, 10000⟩] .halfUp warungScope = .ok ⟨2100, true⟩ := by rfl
  obtain rfl : ⟨2100, true⟩ = preview := Except.ok.inj (hcomputed.symm.trans hpreview)
  revert hpayable
  decide

end OzPos
