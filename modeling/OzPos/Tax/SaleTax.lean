import OzPos.Tax.TaxRates

namespace OzPos

structure CartLineTaxInput where
  sku : String
  (qty unitPriceMinor : Int)

structure CartTaxResult where
  taxMinor : Int
  hasExclusive : Bool

/-- The rule its readers follow: tax is added only when an exclusive rate applied. -/
def CartTaxResult.payable (r : CartTaxResult) (subtotal : Int) : Int :=
  if r.hasExclusive then subtotal + r.taxMinor else subtotal

structure TaxBreakdown where
  rateId : Option String
  rateBps : Int
  isInclusive : Bool
  taxMinor : Int
  (rounding roundingSource : String)
  /-- Stamped on override entries only. -/
  rateSource : Option String
  deriving DecidableEq

structure TaxedLine where
  sku : String
  (lineTotal taxAmount : Int)
  taxRateId : Option String
  taxBreakdown : Option (List TaxBreakdown)
  deriving DecidableEq

/-- The fields of a `Sale` that tax reads and writes; all its money has one currency. -/
structure TaxedSale where
  lines : List TaxedLine
  (total subtotal taxTotal : Int)
  deriving DecidableEq

variable (line : CartLineTaxInput)

/-- `CartLine::total`. -/
def CartLineTaxInput.total : Option Int :=
  if line.qty ≤ 0 then none else checkedI64 (line.unitPriceMinor * line.qty)

def cartTotal : Int → List CartLineTaxInput → Option Int
  | acc, [] => some acc
  | acc, line :: rest =>
    line.total.bind (fun t => (checkedI64 (acc + t)).bind (fun acc => cartTotal acc rest))

def CartLineTaxInput.saleLine (lineTotal : Int) : TaxedLine :=
  ⟨line.sku, lineTotal, 0, none, none⟩

def saleLines : List CartLineTaxInput → Option (List TaxedLine)
  | [] => some []
  | line :: rest => line.total.bind (fun t => (saleLines rest).map (line.saleLine t :: ·))

/-- `Sale::from_cart` for a cart without discounts. -/
def TaxedSale.fromCart (lines : List CartLineTaxInput) : Option TaxedSale :=
  (cartTotal 0 lines).bind (fun total =>
    (saleLines lines).map (fun saleLines => ⟨saleLines, total, 0, 0⟩))

/-- `None` starts at the first amount; a later one is added with a check. -/
def accumulate (acc : Option Int) (amount : Int) (field message : String) :
    Except CoreError (Option Int) :=
  match acc with
  | none => .ok (some amount)
  | some acc => (overflowed field message (checkedI64 (acc + amount))).map some

namespace TaxTables

variable (t : TaxTables)

structure PreviewState where
  totalTax : Option Int
  hasExclusive : Bool

def previewRates (mode : RoundingMode) (lineTotal : Int) :
    PreviewState → List TaxRate → Except CoreError PreviewState
  | s, [] => .ok s
  | s, rate :: rest =>
    (t.effectiveRoundingForRate rate.id mode).bind (fun (effective, _) =>
      (computeLineTax lineTotal rate.rateBps rate.isInclusive effective).bind (fun tax =>
        (accumulate s.totalTax tax "tax" "cart tax overflow").bind (fun totalTax =>
          previewRates mode lineTotal ⟨totalTax, s.hasExclusive || !rate.isInclusive⟩ rest)))

def previewLines (mode : RoundingMode) (scope : Option TaxSaleScope) :
    PreviewState → List CartLineTaxInput → Except CoreError PreviewState
  | s, [] => .ok s
  | s, line :: rest =>
    if line.qty < 0 then
      .error (.validation "qty" s!"qty must be positive, got {line.qty}")
    else if line.unitPriceMinor < 0 then
      .error (.validation "price"
        s!"unit price must be non-negative, got {line.unitPriceMinor}")
    else
      (overflowed "tax" "cart line total overflow"
          (checkedI64 (line.qty * line.unitPriceMinor))).bind (fun lineTotal =>
        (t.resolveBestTaxRatesForSkuAt line.sku scope).bind (fun rates =>
          (t.previewRates mode lineTotal s rates).bind (fun s => previewLines mode scope s rest)))

def computeCartTaxForLocation (lines : List CartLineTaxInput) (mode : RoundingMode)
    (scope : Option TaxSaleScope) : Except CoreError CartTaxResult :=
  (t.previewLines mode scope ⟨none, false⟩ lines).map (fun s =>
    ⟨s.totalTax.getD 0, s.hasExclusive⟩)

structure LuaOverride where
  sku : String
  rateBps : Int
  isInclusive : Bool

def maxTaxRateBps : Int := 1000000

structure LineState where
  lineTax : Int
  exclusiveTax : Option Int
  breakdown : List TaxBreakdown

def addLineTax (s : LineState) (entry : TaxBreakdown) : Except CoreError LineState :=
  (overflowed "tax" "line tax overflow" (checkedI64 (s.lineTax + entry.taxMinor))).bind
    (fun lineTax =>
      (if entry.isInclusive then .ok s.exclusiveTax
        else accumulate s.exclusiveTax entry.taxMinor "tax"
          "exclusive tax accumulation overflow").map (fun exclusiveTax =>
            ⟨lineTax, exclusiveTax, s.breakdown ++ [entry]⟩))

def chargeRates (mode : RoundingMode) (lineTotal : Int) :
    LineState → List TaxRate → Except CoreError LineState
  | s, [] => .ok s
  | s, rate :: rest =>
    (t.effectiveRoundingForRate rate.id mode).bind (fun (effective, source) =>
      (computeLineTax lineTotal rate.rateBps rate.isInclusive effective).bind (fun tax =>
        (addLineTax s ⟨some rate.id, rate.rateBps, rate.isInclusive, tax, effective.wireName,
          source, none⟩).bind (fun s => chargeRates mode lineTotal s rest)))

/-- The plugin owns the amount, the winning rate its rounding. -/
def chargeOverride (mode : RoundingMode) (lineTotal : Int) (s : LineState) (o : LuaOverride)
    (rates : List TaxRate) : Except CoreError LineState :=
  (match rates.head? with
    | some winning => t.effectiveRoundingForRate winning.id mode
    | none => .ok (mode, "preference")).bind (fun (effective, source) =>
      (computeLineTax lineTotal o.rateBps o.isInclusive effective).bind (fun tax =>
        addLineTax s ⟨none, o.rateBps, o.isInclusive, tax, effective.wireName, source,
          some "lua_override"⟩))

variable (overrides : List LuaOverride) (mode : RoundingMode) (line : TaxedLine) (s : LineState)

def taxLine (rates : List TaxRate) : Except CoreError (LineState × Option String) :=
  match overrides.find? (fun o : LuaOverride => o.sku = line.sku) with
  | some o => (t.chargeOverride mode line.lineTotal s o rates).map (fun s => (s, none))
  | none =>
    (t.chargeRates mode line.lineTotal s rates).map (fun s => (s, rates.head?.map TaxRate.id))

def TaxedLine.stamped (rateId : Option String) : TaxedLine :=
  { line with
    taxAmount := s.lineTax
    taxRateId := rateId
    taxBreakdown := if s.breakdown = [] then none else some s.breakdown }

def chargeLine (scope : Option TaxSaleScope)
    (exclusiveTax : Option Int) (line : TaxedLine) : Except CoreError (TaxedLine × Option Int) :=
  (t.resolveBestTaxRatesForSkuAt line.sku scope).bind (fun rates =>
    (t.taxLine overrides mode line ⟨0, exclusiveTax, []⟩ rates).map (fun (s, rateId) =>
      (TaxedLine.stamped line s rateId, s.exclusiveTax)))

structure ChargeState where
  lines : List TaxedLine
  (totalTax subtotal exclusiveTax : Option Int)

def chargeLines (overrides : List LuaOverride) (mode : RoundingMode)
    (scope : Option TaxSaleScope) : ChargeState → List TaxedLine → Except CoreError ChargeState
  | s, [] => .ok s
  | s, line :: rest =>
    (t.chargeLine overrides mode scope s.exclusiveTax line).bind (fun (line, exclusiveTax) =>
      (accumulate s.totalTax line.taxAmount "tax" "sale tax total overflow").bind (fun totalTax =>
        (accumulate s.subtotal line.lineTotal "subtotal" "sale subtotal overflow").bind
          (fun subtotal =>
            chargeLines overrides mode scope
              ⟨s.lines ++ [line], totalTax, subtotal, exclusiveTax⟩ rest)))

def refuseNegative : List TaxedLine → Except CoreError Unit
  | [] => .ok ()
  | line :: rest =>
    if line.lineTotal < 0 then
      .error (.validation "line_total"
        s!"line total must be non-negative, got {line.lineTotal}")
    else refuseNegative rest

def refuseOverrides : List LuaOverride → Except CoreError Unit
  | [] => .ok ()
  | o :: rest =>
    if 0 ≤ o.rateBps ∧ o.rateBps ≤ maxTaxRateBps then refuseOverrides rest
    else .error (.validation "rate_bps"
      (s!"Lua tax override for SKU '{o.sku}' must be between 0 and " ++
        s!"{maxTaxRateBps} bps, got {o.rateBps}"))

def computeSaleTaxForLocation (sale : TaxedSale) (overrides : List LuaOverride)
    (mode : RoundingMode) (scope : Option TaxSaleScope) : Except CoreError TaxedSale :=
  (refuseNegative sale.lines).bind (fun _ =>
    (refuseOverrides overrides).bind (fun _ =>
      (t.chargeLines overrides mode scope ⟨[], none, none, none⟩ sale.lines).bind (fun s =>
        (match s.exclusiveTax with
          | some et => overflowed "total" "sale total overflow from exclusive tax"
              (checkedI64 (sale.total + et))
          | none => .ok sale.total).map (fun total =>
            ⟨s.lines, total, s.subtotal.getD 0, s.totalTax.getD 0⟩))))

end TaxTables

structure Money where
  minorUnits : Int
  currency : String
  deriving DecidableEq

def Money.zero (currency : String) : Money := ⟨0, currency⟩

/-- `none` when the currencies differ, or on overflow. -/
def Money.checkedAdd (a b : Money) : Option Money :=
  if a.currency = b.currency then
    (checkedI64 (a.minorUnits + b.minorUnits)).map (fun n => ⟨n, a.currency⟩)
  else none

structure SaleTaxLine where
  sku : String
  (lineTotal taxAmount : Money)
  taxRateId : Option String
  taxBreakdown : Option (List TaxBreakdown)
  deriving DecidableEq

def SaleTaxLine.stamped (line : SaleTaxLine) (lineTax : Money) (rateId : Option String)
    (breakdown : List TaxBreakdown) : SaleTaxLine :=
  { line with
    taxAmount := lineTax
    taxRateId := rateId
    taxBreakdown := if breakdown = [] then none else some breakdown }

/-- The fields of a `Sale` that tax reads and writes, each amount in a currency of its own. -/
structure SaleTax where
  lines : List SaleTaxLine
  currency : String
  (total subtotal taxTotal : Money)
  deriving DecidableEq

def addMoney (a b : Money) (field message : String) : Except CoreError Money :=
  match a.checkedAdd b with
  | none => .error (.validation field message)
  | some sum => .ok sum

def accumulateMoney (acc : Option Money) (amount : Money) (field message : String) :
    Except CoreError (Option Money) :=
  match acc with
  | none => .ok (some amount)
  | some acc => (addMoney acc amount field message).map .some

structure LineTax where
  lineTax : Money
  exclusiveTax : Option Money
  breakdown : List TaxBreakdown

def LineTax.add (s : LineTax) (entry : TaxBreakdown) (currency : String) :
    Except CoreError LineTax :=
  (addMoney s.lineTax ⟨entry.taxMinor, currency⟩ "tax" "line tax overflow").bind fun lineTax =>
  (if entry.isInclusive then .ok s.exclusiveTax
    else accumulateMoney s.exclusiveTax ⟨entry.taxMinor, currency⟩ "tax"
      "exclusive tax accumulation overflow").map fun exclusiveTax =>
    ⟨lineTax, exclusiveTax, s.breakdown ++ [entry]⟩

structure TaxTotals where
  (totalTax subtotal exclusiveTax : Option Money)

namespace TaxTables

variable (t : TaxTables)

def rateEntry (mode : RoundingMode) (lineTotal : Int) (rate : TaxRate) :
    Except CoreError TaxBreakdown :=
  (t.effectiveRoundingForRate rate.id mode).bind fun (effective, source) =>
  (computeLineTax lineTotal rate.rateBps rate.isInclusive effective).map fun tax =>
    ⟨some rate.id, rate.rateBps, rate.isInclusive, tax, effective.wireName, source, none⟩

/-- A plugin's entry: its own amount, in the rounding of the winning rate. -/
def overrideEntry (mode : RoundingMode) (lineTotal : Int) (o : LuaOverride)
    (rates : List TaxRate) : Except CoreError TaxBreakdown :=
  (match rates.head? with
    | some winning => t.effectiveRoundingForRate winning.id mode
    | none => .ok (mode, "preference")).bind fun (effective, source) =>
  (computeLineTax lineTotal o.rateBps o.isInclusive effective).map fun tax =>
    ⟨none, o.rateBps, o.isInclusive, tax, effective.wireName, source, some "lua_override"⟩

def addRates (mode : RoundingMode) (lineTotal : Money) :
    LineTax → List TaxRate → Except CoreError LineTax
  | s, [] => .ok s
  | s, rate :: rest =>
    (t.rateEntry mode lineTotal.minorUnits rate).bind fun entry =>
    (s.add entry lineTotal.currency).bind fun s => addRates mode lineTotal s rest

variable (overrides : List LuaOverride) (mode : RoundingMode)

def taxOfLine (line : SaleTaxLine)
    (s : LineTax) (rates : List TaxRate) : Except CoreError (LineTax × Option String) :=
  match overrides.find? (fun o : LuaOverride => o.sku = line.sku) with
  | some o =>
    (t.overrideEntry mode line.lineTotal.minorUnits o rates).bind fun entry =>
    (s.add entry line.lineTotal.currency).map fun s => (s, none)
  | none =>
    (t.addRates mode line.lineTotal s rates).map fun s => (s, rates.head?.map TaxRate.id)

def stampLine (scope : Option TaxSaleScope) (currency : String) (exclusiveTax : Option Money)
    (line : SaleTaxLine) : Except CoreError (SaleTaxLine × Option Money) :=
  (t.resolveBestTaxRatesForSkuAt line.sku scope).bind fun rates =>
  (t.taxOfLine overrides mode line ⟨.zero currency, exclusiveTax, []⟩ rates).map
    fun (s, rateId) =>
      (line.stamped s.lineTax rateId s.breakdown, s.exclusiveTax)

/-- The loop over the lines, which it stamps in place: with its result, the lines as they are
then. -/
def stampLines (overrides : List LuaOverride) (mode : RoundingMode) (scope : Option TaxSaleScope)
    (currency : String) : TaxTotals → List SaleTaxLine →
      Except CoreError TaxTotals × List SaleTaxLine
  | s, [] => (.ok s, [])
  | s, line :: rest =>
    match t.stampLine overrides mode scope currency s.exclusiveTax line with
    | .error e => (.error e, line :: rest)
    | .ok (line, exclusiveTax) =>
      match accumulateMoney s.totalTax line.taxAmount "tax" "sale tax total overflow" with
      | .error e => (.error e, line :: rest)
      | .ok totalTax =>
        match accumulateMoney s.subtotal line.lineTotal "subtotal" "sale subtotal overflow" with
        | .error e => (.error e, line :: rest)
        | .ok subtotal =>
          let (result, rest) :=
            stampLines overrides mode scope currency ⟨totalTax, subtotal, exclusiveTax⟩ rest
          (result, line :: rest)

def refuseNegativeLines : List SaleTaxLine → Except CoreError Unit
  | [] => .ok ()
  | line :: rest =>
    if line.lineTotal.minorUnits < 0 then
      .error (.validation "line_total"
        s!"line total must be non-negative, got {line.lineTotal.minorUnits}")
    else refuseNegativeLines rest

/-- `compute_sale_tax_for_location(&mut sale, …)`: the result, and the sale as it is left. -/
def computeSaleTax (sale : SaleTax) (overrides : List LuaOverride) (mode : RoundingMode)
    (scope : Option TaxSaleScope) : Except CoreError Unit × SaleTax :=
  match (refuseNegativeLines sale.lines).bind (fun _ => refuseOverrides overrides) with
  | .error e => (.error e, sale)
  | .ok () =>
    match t.stampLines overrides mode scope sale.currency ⟨none, none, none⟩ sale.lines with
    | (.error e, lines) => (.error e, { sale with lines })
    | (.ok s, lines) =>
      let sale := { sale with
        lines := lines
        subtotal := s.subtotal.getD (.zero sale.currency)
        taxTotal := s.totalTax.getD (.zero sale.currency) }
      match s.exclusiveTax with
      | none => (.ok (), sale)
      | some et =>
        match addMoney sale.total et "total" "sale total overflow from exclusive tax" with
        | .error e => (.error e, sale)
        | .ok total => (.ok (), { sale with total })

end TaxTables

end OzPos
