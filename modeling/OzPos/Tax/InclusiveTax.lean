import OzPos.Tax.PreviewAgrees
import OzPos.Library.Rounding
import Mathlib.Algebra.Order.BigOperators.Group.List
import Mathlib.Tactic.Linarith
import Mathlib.Tactic.Ring

namespace OzPos

open Rounding

def RoundingMode.bias (divisor : Int) : RoundingMode → Int
  | .truncate => 0
  | .halfUp => divisor / 2

theorem RoundingMode.bias_bounds (mode : RoundingMode) {divisor : Int} (h : 0 < divisor) :
    0 ≤ mode.bias divisor ∧ 2 * mode.bias divisor ≤ divisor := by
  cases mode with
  | truncate => simp only [bias]; omega
  | halfUp => simp only [bias]; omega

theorem RoundingMode.divide_eq_some_iff (mode : RoundingMode) {numerator divisor q : Int}
    (hnum : 0 ≤ numerator) (hdiv : 0 < divisor) :
    mode.divide numerator divisor = some q ↔
      (mode = .halfUp → ¬ divisor ∣ numerator → numerator + divisor / 2 < 2^63) ∧
        q = quot (mode.bias divisor) numerator divisor := by
  cases mode with
  | truncate => simp [divide, quot, bias, Int.tdiv_eq_ediv_of_nonneg hnum, eq_comm]
  | halfUp =>
    obtain ⟨hbias, hhalf⟩ := halfUp.bias_bounds hdiv
    have htwo : divisor.tdiv 2 = divisor / 2 := Int.tdiv_eq_ediv_of_nonneg (by omega)
    have hmod : numerator.tmod divisor = numerator % divisor := Int.tmod_eq_emod_of_nonneg hnum
    simp only [divide, htwo, hmod]
    by_cases hexact : divisor ∣ numerator
    · rw [if_pos (Int.emod_eq_zero_of_dvd hexact), Int.tdiv_eq_ediv_of_nonneg hnum,
        quot_of_dvd hbias (by omega) hexact]
      simp [hexact, eq_comm]
    · rw [if_neg (fun hzero => hexact (Int.dvd_of_emod_eq_zero hzero))]
      simp only [hexact, not_false_eq_true, true_implies, Option.map_eq_some_iff,
        checkedI64_eq_some_iff]
      have hsum : (numerator + divisor / 2).tdiv divisor =
          quot (halfUp.bias divisor) numerator divisor :=
        Int.tdiv_eq_ediv_of_nonneg (by simp only [bias] at hbias; omega)
      constructor
      · rintro ⟨_, ⟨rfl, _, hfits⟩, rfl⟩
        exact ⟨hfits, hsum⟩
      · rintro ⟨hfits, rfl⟩
        exact ⟨_, ⟨rfl, by simp only [bias] at hbias; omega, hfits⟩, hsum⟩

structure AppliedRate where
  rateBps : Int
  rounding : RoundingMode
  bps_nonneg : 0 ≤ rateBps

namespace AppliedRate

variable (r : AppliedRate)

def inclusiveTax (gross : Int) : Int :=
  quot (r.rounding.bias (10000 + r.rateBps)) (gross * r.rateBps) (10000 + r.rateBps)

def exclusiveTax (net : Int) : Int := quot (r.rounding.bias 10000) (net * r.rateBps) 10000

def remainder (gross : Int) : Int :=
  rest (r.rounding.bias (10000 + r.rateBps)) (gross * r.rateBps) (10000 + r.rateBps)

theorem exclusiveTax_net (gross others : Int) :
    r.exclusiveTax (gross - r.inclusiveTax gross - others) = r.inclusiveTax gross +
      quot (r.rounding.bias 10000) (r.remainder gross - r.rateBps * others) 10000 := by
  have hparts := mul_quot_add_rest (r.rounding.bias (10000 + r.rateBps)) (gross * r.rateBps)
    (10000 + r.rateBps)
  have hnet : (gross - r.inclusiveTax gross - others) * r.rateBps =
      10000 * r.inclusiveTax gross + (r.remainder gross - r.rateBps * others) := by
    simp only [inclusiveTax, remainder]
    linarith
  rw [exclusiveTax, hnet, quot_mul_add _ _ _ (by decide)]

theorem inclusiveTax_nonneg {gross : Int} (h : 0 ≤ gross) : 0 ≤ r.inclusiveTax gross := by
  have hbps := r.bps_nonneg
  have hprod := Int.mul_nonneg h hbps
  have hbias := (r.rounding.bias_bounds (show 0 < 10000 + r.rateBps by omega)).1
  exact quot_nonneg (by omega) (by omega)

theorem inclusiveTax_zero {gross : Int} (h : r.rateBps = 0) : r.inclusiveTax gross = 0 := by
  obtain ⟨hbias, hhalf⟩ := r.rounding.bias_bounds (show (0 : Int) < 10000 by decide)
  rw [inclusiveTax, h, Int.mul_zero, Int.add_zero, quot_of_dvd hbias (by omega) (Int.dvd_zero _)]
  rfl

theorem inclusiveTax_le {gross : Int} (h : 0 ≤ gross) : r.inclusiveTax gross ≤ gross := by
  have hbps := r.bps_nonneg
  have hpos : 0 < 10000 + r.rateBps := by omega
  have hparts := mul_quot_add_rest (r.rounding.bias (10000 + r.rateBps)) (gross * r.rateBps)
    (10000 + r.rateBps)
  have hrest := le_rest (r.rounding.bias (10000 + r.rateBps)) (gross * r.rateBps) hpos
  have hhalf := (r.rounding.bias_bounds hpos).2
  by_contra hover
  have hmore : (10000 + r.rateBps) * (gross + 1) ≤ (10000 + r.rateBps) * r.inclusiveTax gross :=
    Int.mul_le_mul_of_nonneg_left (by omega) (by omega)
  simp only [inclusiveTax] at hmore
  linarith

end AppliedRate

theorem taxDivisor_pos {rateBps : Int} (h : 0 ≤ rateBps) (isInclusive : Bool) :
    0 < taxDivisor rateBps isInclusive := by
  unfold taxDivisor
  split
  · omega
  · decide

theorem computeLineTax_ok_iff {base rateBps tax : Int} {isInclusive : Bool} {mode : RoundingMode}
    (hbase : 0 ≤ base) (hbps : 0 ≤ rateBps) :
    computeLineTax base rateBps isInclusive mode = .ok tax ↔
      base * rateBps < 2^63 ∧ (isInclusive = true → 10000 + rateBps < 2^63) ∧
      (mode = .halfUp → ¬ taxDivisor rateBps isInclusive ∣ base * rateBps →
        base * rateBps + taxDivisor rateBps isInclusive / 2 < 2^63) ∧
      tax = quot (mode.bias (taxDivisor rateBps isInclusive)) (base * rateBps)
        (taxDivisor rateBps isInclusive) := by
  have hprod := Int.mul_nonneg hbase hbps
  have hdivide := fun q => @RoundingMode.divide_eq_some_iff mode (base * rateBps) _ q hprod
    (taxDivisor_pos hbps isInclusive)
  have hdivisor : ∀ d, (if isInclusive then
      overflowed "rate_bps" "inclusive divisor overflow" (checkedI64 (10000 + rateBps))
      else Except.ok 10000) = .ok d ↔
        (isInclusive = true → 10000 + rateBps < 2^63) ∧ taxDivisor rateBps isInclusive = d := by
    intro d
    cases isInclusive with
    | false => simp [taxDivisor]
    | true =>
      simp only [if_true, overflowed_ok_iff, checkedI64_eq_some_iff, taxDivisor, true_implies]
      constructor
      · rintro ⟨rfl, _, hhigh⟩
        exact ⟨hhigh, rfl⟩
      · rintro ⟨hhigh, rfl⟩
        exact ⟨rfl, by omega, hhigh⟩
  simp only [computeLineTax, Except.bind_ok_iff, overflowed_ok_iff, hdivisor,
    checkedI64_eq_some_iff]
  constructor
  · rintro ⟨_, ⟨rfl, _, hhigh⟩, _, ⟨hbound, rfl⟩, htax⟩
    obtain ⟨hround, rfl⟩ := (hdivide tax).mp htax
    exact ⟨hhigh, hbound, hround, rfl⟩
  · rintro ⟨hhigh, hbound, hround, rfl⟩
    exact ⟨_, ⟨rfl, by omega, hhigh⟩, _, ⟨hbound, rfl⟩, (hdivide _).mpr ⟨hround, rfl⟩⟩

variable {gross : Int}

theorem exclusive_of_inclusive (r : AppliedRate) {net tax : Int} (hgross : 0 ≤ gross)
    (hnet : 0 ≤ net) (hle : net ≤ gross - r.inclusiveTax gross)
    (h : computeLineTax gross r.rateBps true r.rounding = .ok tax) :
    computeLineTax net r.rateBps false r.rounding = .ok (r.exclusiveTax net) := by
  have hbps := r.bps_nonneg
  have htax := r.inclusiveTax_nonneg hgross
  obtain ⟨hfits, _, hround, _⟩ := (computeLineTax_ok_iff hgross hbps).mp h
  have hleft : (gross - r.inclusiveTax gross) * r.rateBps =
      gross * r.rateBps - r.inclusiveTax gross * r.rateBps := by
    ring
  have hnetLe : net * r.rateBps ≤ gross * r.rateBps - r.inclusiveTax gross * r.rateBps := by
    rw [← hleft]
    exact Int.mul_le_mul_of_nonneg_right hle hbps
  have htaken := Int.mul_nonneg htax hbps
  refine (computeLineTax_ok_iff hnet hbps).mpr ⟨by omega, fun h => absurd h (by decide), ?_, rfl⟩
  intro hmode hinexact
  have hdivisor : taxDivisor r.rateBps false = 10000 := rfl
  have hgrossDivisor : taxDivisor r.rateBps true = 10000 + r.rateBps := rfl
  rw [hdivisor] at hinexact ⊢
  rw [hgrossDivisor] at hround
  by_cases hexact : (10000 + r.rateBps) ∣ gross * r.rateBps
  · -- the tax is then a 10001st of its numerator at least, which leaves room for the rounding
    have hparts : (10000 + r.rateBps) * r.inclusiveTax gross = gross * r.rateBps := by
      obtain ⟨hbias, hhalf⟩ := r.rounding.bias_bounds (show 0 < 10000 + r.rateBps by omega)
      rw [AppliedRate.inclusiveTax, quot_of_dvd hbias (by omega) hexact,
        Int.mul_ediv_cancel' hexact]
    have hpos : 1 ≤ r.rateBps := by
      by_contra hzero
      have hnone : r.rateBps = 0 := by omega
      rw [hnone, Int.mul_zero] at hinexact
      exact hinexact (Int.dvd_zero _)
    have hshare : 10001 * r.inclusiveTax gross ≤ (10000 + r.rateBps) * r.inclusiveTax gross :=
      Int.mul_le_mul_of_nonneg_right (by omega) htax
    have hten : (10000 + r.rateBps) * r.inclusiveTax gross =
        10000 * r.inclusiveTax gross + r.inclusiveTax gross * r.rateBps := by
      ring
    omega
  · have hroom := hround hmode hexact
    omega

namespace TaxTables

variable (t : TaxTables)

def exclusivesOn (mode : RoundingMode) (net : Int) : List TaxRate → Except CoreError Int
  | [] => .ok 0
  | rate :: rest =>
    (t.effectiveRoundingForRate rate.id mode).bind fun (effective, _) =>
    (computeLineTax net rate.rateBps false effective).bind fun tax =>
    (exclusivesOn mode net rest).map (tax + ·)

def applied (mode : RoundingMode) : List TaxRate → Except CoreError (List AppliedRate)
  | [] => .ok []
  | rate :: rest =>
    (t.effectiveRoundingForRate rate.id mode).bind fun (effective, _) =>
    (applied mode rest).map (⟨rate.rateBps, effective, rate.bps_nonneg⟩ :: ·)

end TaxTables

def inclusiveTaxes (gross : Int) (rates : List AppliedRate) : Int :=
  (rates.map (fun r => r.inclusiveTax gross)).sum

def AppliedRate.slip (r : AppliedRate) (gross : Int) : Int :=
  quot (r.rounding.bias 10000) (r.remainder gross) 10000

/-- The slip when the other rates took their tax from the same gross. -/
def AppliedRate.crossSlip (r : AppliedRate) (gross others : Int) : Int :=
  quot (r.rounding.bias 10000) (r.remainder gross - r.rateBps * others) 10000

variable (rates : List AppliedRate)

def positiveRates : List AppliedRate :=
  rates.filter (fun r => 0 < r.rateBps)

def UnitPerRate (slip : Int) : Prop :=
  -(rates.length : Int) ≤ slip ∧ slip ≤ rates.length

/-- One rate at most is positive and its rounding slips by no more than a unit a rate; or there
are several, and on this amount the rates on one another's tax are lost in the same bound. -/
def TaxEmbeds (gross : Int) (rates : List AppliedRate) : Prop :=
  if (positiveRates rates).length ≤ 1 then
    UnitPerRate rates (rates.map (fun r => r.slip gross)).sum
  else
    inclusiveTaxes gross rates ≤ gross ∧
      UnitPerRate rates (rates.map (fun r =>
        r.crossSlip gross (inclusiveTaxes gross rates - r.inclusiveTax gross))).sum

/-- With net the gross less the line's tax: it is no less than nothing, and the rates put on it as
exclusive ones give the gross back, to a minor unit a rate. -/
structure TaxEmbedded (t : TaxTables) (mode : RoundingMode) (gross : Int) (rates : List TaxRate)
    (lineTax : Int) : Prop where
  net_nonneg : 0 ≤ gross - lineTax
  gives_back : ∃ back, t.exclusivesOn mode (gross - lineTax) rates = .ok back ∧
    -(rates.length : Int) ≤ gross - lineTax + back - gross ∧
      gross - lineTax + back - gross ≤ rates.length

theorem inclusiveTaxes_cons (gross : Int) (r : AppliedRate) (rest : List AppliedRate) :
    inclusiveTaxes gross (r :: rest) = r.inclusiveTax gross + inclusiveTaxes gross rest := rfl

variable {rates : List AppliedRate}

theorem inclusiveTax_le_all (hgross : 0 ≤ gross)
    {r : AppliedRate} (h : r ∈ rates) : r.inclusiveTax gross ≤ inclusiveTaxes gross rates := by
  apply List.single_le_sum
  · intro n hn
    obtain ⟨q, _, rfl⟩ := List.mem_map.mp hn
    exact q.inclusiveTax_nonneg hgross
  · exact List.mem_map.mpr ⟨r, h, rfl⟩

theorem applied_of_shares {t : TaxTables} {mode : RoundingMode} (hgross : 0 ≤ gross)
    {rates : List TaxRate} {shares : List TaxShare} (hincl : ∀ r ∈ rates, r.isInclusive = true)
    (h : t.rateShares mode gross rates = .ok shares) :
    ∃ rs, t.applied mode rates = .ok rs ∧ rs.length = rates.length ∧
      totalShare shares = inclusiveTaxes gross rs ∧
      ∀ net, 0 ≤ net → (∀ r ∈ rs, net ≤ gross - r.inclusiveTax gross) →
        t.exclusivesOn mode net rates = .ok (rs.map (fun r => r.exclusiveTax net)).sum := by
  induction rates generalizing shares with
  | nil =>
    obtain rfl : [] = shares := Except.ok.inj h
    exact ⟨[], rfl, rfl, rfl, fun _ _ _ => rfl⟩
  | cons rate rest ih =>
    obtain ⟨hrate, hrest⟩ := List.forall_mem_cons.mp hincl
    obtain ⟨share, later, hshare, hlater, rfl⟩ := TaxTables.rateShares_cons h
    obtain ⟨rs, happlied, hlength, htotal, hexclusive⟩ := ih hrest hlater
    obtain ⟨⟨effective, source⟩, hmode, hshare⟩ := Except.of_bind hshare
    obtain ⟨tax, htax, rfl⟩ := Except.of_map hshare
    rw [hrate] at htax
    have hextracted : tax = AppliedRate.inclusiveTax ⟨rate.rateBps, effective, rate.bps_nonneg⟩ gross :=
      ((computeLineTax_ok_iff hgross rate.bps_nonneg).mp htax).2.2.2
    refine ⟨⟨rate.rateBps, effective, rate.bps_nonneg⟩ :: rs, ?_, ?_, ?_, ?_⟩
    · simp [TaxTables.applied, hmode, happlied, Except.bind, Except.map]
    · rw [List.length_cons, List.length_cons, hlength]
    · rw [totalShare_cons, inclusiveTaxes_cons, htotal, ← hextracted]
    · intro net hnet hle
      obtain ⟨hfirst, hothers⟩ := List.forall_mem_cons.mp hle
      have hback := exclusive_of_inclusive ⟨rate.rateBps, effective, rate.bps_nonneg⟩ hgross hnet
        hfirst htax
      simp only at hback
      simp [TaxTables.exclusivesOn, hmode, hback, hexclusive net hnet hothers, Except.bind,
        Except.map]

theorem given_back (gross : Int) (rates : List AppliedRate) (all : Int) :
    (rates.map (fun r => r.exclusiveTax (gross - all))).sum = inclusiveTaxes gross rates +
      (rates.map (fun r => r.crossSlip gross (all - r.inclusiveTax gross))).sum := by
  induction rates with
  | nil => rfl
  | cons r rest ih =>
    have hnet : gross - all = gross - r.inclusiveTax gross - (all - r.inclusiveTax gross) := by
      omega
    have hone : r.exclusiveTax (gross - all) = r.inclusiveTax gross +
        r.crossSlip gross (all - r.inclusiveTax gross) := by
      rw [hnet, r.exclusiveTax_net]
      rfl
    simp only [List.map_cons, List.sum_cons, ih, inclusiveTaxes_cons, hone]
    omega

theorem inclusiveTaxes_positive (gross : Int) (rates : List AppliedRate) :
    inclusiveTaxes gross rates = inclusiveTaxes gross (positiveRates rates) := by
  induction rates with
  | nil => rfl
  | cons r rest ih =>
    have hbps := r.bps_nonneg
    rw [inclusiveTaxes_cons, ih]
    by_cases hpos : 0 < r.rateBps
    · simp [positiveRates, hpos, inclusiveTaxes_cons]
    · have hzero : r.rateBps = 0 := by omega
      simp [positiveRates, r.inclusiveTax_zero hzero, hzero]

theorem crossSlip_alone (h : (positiveRates rates).length ≤ 1) {r : AppliedRate} (hr : r ∈ rates) :
    r.crossSlip gross (inclusiveTaxes gross rates - r.inclusiveTax gross) = r.slip gross := by
  have hnone : r.rateBps * (inclusiveTaxes gross rates - r.inclusiveTax gross) = 0 := by
    by_cases hpos : 0 < r.rateBps
    · have hmem : r ∈ positiveRates rates := List.mem_filter.mpr ⟨hr, by simpa using hpos⟩
      obtain ⟨only, honly⟩ := List.length_eq_one_iff.mp
        (Nat.le_antisymm h (List.length_pos_of_mem hmem))
      rw [honly, List.mem_singleton] at hmem
      rw [inclusiveTaxes_positive, honly, hmem]
      simp [inclusiveTaxes]
    · have hzero : r.rateBps = 0 := by
        have hbps := r.bps_nonneg
        omega
      rw [hzero, Int.zero_mul]
  rw [AppliedRate.crossSlip, hnone, Int.sub_zero]
  rfl

theorem inclusiveTaxes_le_alone (hgross : 0 ≤ gross)
    (h : (positiveRates rates).length ≤ 1) : inclusiveTaxes gross rates ≤ gross := by
  rw [inclusiveTaxes_positive]
  cases hpositive : positiveRates rates with
  | nil => exact hgross
  | cons r rest =>
    rw [hpositive] at h
    obtain rfl : rest = [] := List.length_eq_zero_iff.mp (by simpa using h)
    simpa [inclusiveTaxes] using r.inclusiveTax_le hgross

instance decidableTaxEmbeds (gross : Int) (rates : List AppliedRate) :
    Decidable (TaxEmbeds gross rates) := by
  unfold TaxEmbeds UnitPerRate
  infer_instance

def inclusiveRate (id : String) : TaxRate :=
  ⟨id, "", 1000, false, true, "", "", tenPercent_nonneg⟩

def noTaxTables : TaxTables := ⟨Table.empty, [], [], Table.empty, Table.empty⟩

end OzPos
