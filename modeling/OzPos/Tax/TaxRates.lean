import OzPos.Client.Tables
import OzPos.Library.Outcome
import Mathlib.Data.List.Sort

namespace OzPos

inductive RoundingMode where
  | truncate
  | halfUp

def RoundingMode.wireName : RoundingMode → String
  | .truncate => "truncate"
  | .halfUp => "half_up"

/-- `none` when the rounded-up numerator overflows; `divisor` is positive. -/
def RoundingMode.divide (numerator divisor : Int) : RoundingMode → Option Int
  | .truncate => some (numerator.tdiv divisor)
  | .halfUp =>
    if numerator.tmod divisor = 0 then some (numerator.tdiv divisor)
    else (checkedI64 (numerator + divisor.tdiv 2)).map (fun n => n.tdiv divisor)

structure TaxRate where
  (id name : String)
  rateBps : Int
  (isDefault isInclusive : Bool)
  (createdAt updatedAt : String)
  /-- `CHECK (rate_bps >= 0)`. -/
  bps_nonneg : 0 ≤ rateBps
  deriving DecidableEq

theorem tenPercent_nonneg : (0 : Int) ≤ 1000 := by decide

structure TaxRateRow where
  rate : TaxRate
  isActive : Bool
  (legalEntityId locationId effectiveFrom effectiveTo : Option String)
  roundingMode : String
  deriving DecidableEq

/-- A row of `product_taxes` or `category_taxes`. -/
structure TaxAssignment where
  (owner taxRateId createdAt : String)

structure TaxedProduct where
  (id sku : String)
  categoryId : Option String

structure TaxedLocation where
  id : String
  legalEntityId : Option String

structure TaxTables where
  taxRates : Table String TaxRateRow (fun r => r.rate.id)
  (productTaxes categoryTaxes : List TaxAssignment)
  products : Table String TaxedProduct TaxedProduct.id
  locations : Table String TaxedLocation TaxedLocation.id

def daysInMonth (year month : Nat) : Nat :=
  if month = 2 then
    if year % 4 = 0 ∧ (year % 100 ≠ 0 ∨ year % 400 = 0) then 29 else 28
  else if month ∈ [4, 6, 9, 11] then 30
  else 31

def fromYmdOpt (year month day : Nat) : Option Nat :=
  -- a date is held as the number its digits spell, which orders as the dates do
  if 1 ≤ month ∧ month ≤ 12 ∧ 1 ≤ day ∧ day ≤ daysInMonth year month then
    some (year * 10000 + month * 100 + day)
  else none

def digitsValue (digits : List Char) : Nat :=
  digits.foldl (fun n c => n * 10 + (c.toNat - '0'.toNat)) 0

/-- Exactly `YYYY-MM-DD`. -/
def parseEffectiveDate (value : String) : Option Nat :=
  match value.toList with
  | [y₁, y₂, y₃, y₄, '-', m₁, m₂, '-', d₁, d₂] =>
    if [y₁, y₂, y₃, y₄, m₁, m₂, d₁, d₂].all Char.isDigit then
      fromYmdOpt (digitsValue [y₁, y₂, y₃, y₄]) (digitsValue [m₁, m₂]) (digitsValue [d₁, d₂])
    else none
  | _ => none

/-- `NaiveDate::MIN`; no date that parses is as early. -/
def naiveDateMin : Nat := 0

def windowCovers (effectiveFrom effectiveTo : Option String) (asOf : Nat) : Bool :=
  let lowerOk :=
    match effectiveFrom with
    | none => true
    | some v => (parseEffectiveDate v).any (fun d => d ≤ asOf)
  if !lowerOk then false
  else
    match effectiveTo with
    | none => true
    | some v => (parseEffectiveDate v).any (fun d => asOf < d)

inductive TaxRateScope where
  | global
  | legalEntity (id : String)
  | location (id : String)
  deriving DecidableEq

def TaxRateScope.classify : Option String → Option String → Option TaxRateScope
  | none, none => some .global
  | some e, none => some (.legalEntity e)
  | none, some l => some (.location l)
  | some _, some _ => none

structure TaxSaleScope where
  (locationId asOf : String)

def invalidAsOf (asOf : String) : CoreError :=
  .validation "as_of" s!"expected a business date 'YYYY-MM-DD', got {asOf.quote}"

def TaxSaleScope.asDate (scope : TaxSaleScope) : Except CoreError Nat :=
  match parseEffectiveDate scope.asOf with
  | some d => .ok d
  | none => .error (invalidAsOf scope.asOf)

inductive ScopeTier where
  | location
  | legalEntity
  | global

namespace TaxRateRow

variable (row : TaxRateRow)

def inTier (tier : ScopeTier) (locationId : String) (legalEntityId : Option String) : Bool :=
  let mine := TaxRateScope.classify row.legalEntityId row.locationId
  match tier with
  | .location => mine = some (.location locationId)
  | .legalEntity =>
    match legalEntityId with
    | none => false
    | some entity => mine = some (.legalEntity entity)
  | .global => mine = some .global

def isLive (asOf : Nat) : Bool :=
  windowCovers row.effectiveFrom row.effectiveTo asOf

def startDate : Nat :=
  (row.effectiveFrom.bind parseEffectiveDate).getD naiveDateMin

def isBetterThan (row other : TaxRateRow) : Bool :=
  if row.rate.isDefault ≠ other.rate.isDefault then row.rate.isDefault
  else if row.startDate ≠ other.startDate then other.startDate < row.startDate
  else row.rate.id < other.rate.id

/-- The `WHERE` of the candidate query. -/
def candidate (locationId : String) (legalEntityId : Option String) : Bool :=
  row.isActive && (row.locationId = some locationId ||
    (row.locationId = none && legalEntityId.isSome && row.legalEntityId = legalEntityId) ||
    (row.locationId = none && row.legalEntityId = none))

end TaxRateRow

namespace TaxTables

variable (t : TaxTables)

def activeRow (id : String) : Option TaxRateRow :=
  (t.taxRates.find? id).filter (fun r => r.isActive)

def getTaxRate (id : String) : Option TaxRate := (t.activeRow id).map TaxRateRow.rate

def getDefaultTaxRate : Option TaxRate :=
  (t.taxRates.rows.find? (fun r => r.rate.isDefault && r.isActive)).map TaxRateRow.rate

variable (locationId : String)

variable (legalEntityId : Option String)

def bestOf (asOf : Nat) (tier : ScopeTier) (candidates : List TaxRateRow) : Option TaxRateRow :=
  (candidates.filter (fun c => c.inTier tier locationId legalEntityId && c.isLive asOf)).foldl
    (fun best c =>
      match best with
      | none => some c
      | some b => if c.isBetterThan b then some c else some b) none

def resolveTaxRateForLocation (asOf : String) : Except CoreError (Option TaxRate) :=
  match parseEffectiveDate asOf with
  | none => .error (invalidAsOf asOf)
  | some asOf =>
    let candidates := t.taxRates.rows.filter (fun r => r.candidate locationId legalEntityId)
    .ok ([ScopeTier.location, .legalEntity, .global].findSome? (fun tier =>
      (bestOf locationId legalEntityId asOf tier candidates).map TaxRateRow.rate))

def locationLegalEntity : Option String :=
  (t.locations.find? locationId).bind TaxedLocation.legalEntityId

variable (rateId : String)

def taxRateAppliesAt (scope : TaxSaleScope) (entityOfScope : Option String) :
    Except CoreError Bool :=
  match t.activeRow rateId with
  | none => .ok false
  | some row =>
    match TaxRateScope.classify row.legalEntityId row.locationId with
    | none => .ok false
    | some mine =>
      let inScope : Bool :=
        match mine with
        | .global => true
        | .location l => l = scope.locationId
        | .legalEntity e => entityOfScope = some e
      if !inScope then .ok false
      else scope.asDate.map (windowCovers row.effectiveFrom row.effectiveTo)

def assigned (rows : List TaxAssignment) (owner : String) : List String :=
  ((rows.filter (fun a => a.owner = owner)).insertionSort
    (fun a b => a.createdAt ≤ b.createdAt)).map TaxAssignment.taxRateId

variable (sku : String)

def getProductTaxRates : List String := assigned t.productTaxes sku

def getCategoryTaxRates (categoryId : String) : List String := assigned t.categoryTaxes categoryId

def productIdBySku : Option String :=
  (t.products.rows.find? (fun p => p.sku = sku)).map TaxedProduct.id

variable (scope : Option TaxSaleScope)

variable (entityOfScope : Option String)

def applies (id : String) : Except CoreError Bool :=
  match scope with
  | none => .ok true
  | some sc => t.taxRateAppliesAt id sc entityOfScope

def liveRates (scope : Option TaxSaleScope) (entityOfScope : Option String) :
    List String → Except CoreError (List TaxRate)
  | [] => .ok []
  | id :: rest =>
    (t.applies scope entityOfScope id).bind (fun ok =>
      if !ok then liveRates scope entityOfScope rest
      else
        match t.getTaxRate id with
        | some rate => (liveRates scope entityOfScope rest).map (rate :: ·)
        | none => liveRates scope entityOfScope rest)

def categoryOfSku : Option String :=
  (t.productIdBySku sku).bind (fun pid => (t.products.find? pid).bind TaxedProduct.categoryId)

def fallbackRate : Except CoreError (Option TaxRate) :=
  match scope with
  | some sc => t.resolveTaxRateForLocation sc.locationId entityOfScope sc.asOf
  | none => .ok t.getDefaultTaxRate

def resolveBestTaxRatesForSkuAt : Except CoreError (List TaxRate) :=
  let entityOfScope := scope.bind (fun s => t.locationLegalEntity s.locationId)
  -- 1. product rates
  (t.liveRates scope entityOfScope (t.getProductTaxRates sku)).bind (fun rates =>
    if rates ≠ [] then .ok rates
    else
      -- 2. category rates
      (match t.categoryOfSku sku with
        | some cid => t.liveRates scope entityOfScope (t.getCategoryTaxRates cid)
        | none => .ok []).bind (fun rates =>
          if rates ≠ [] then .ok rates
          -- 3. the fallback
          else (t.fallbackRate scope entityOfScope).map Option.toList))

/-- The directive of the row itself; a spelling outside the alphabet is an error. -/
def taxRateRoundingMode : Except CoreError (Option RoundingMode) :=
  match t.activeRow rateId with
  | none => .ok none
  | some row =>
    if row.roundingMode = "" then .ok none
    else if row.roundingMode = "half_up" then .ok (some .halfUp)
    else if row.roundingMode = "truncate" then .ok (some .truncate)
    else .error (.validation "rounding_mode"
      (s!"tax rate {rateId} stores rounding_mode {row.roundingMode.quote}, which is " ++
        "outside the statutory alphabet; the 20260929 CHECK refuses " ++
        "writes of it, so this is hand-edited data"))

def effectiveRoundingForRate (preference : RoundingMode) :
    Except CoreError (RoundingMode × String) :=
  (t.taxRateRoundingMode rateId).map (fun directive =>
    match directive with
    | some statutory => (statutory, "statutory")
    | none => (preference, "preference"))

end TaxTables

def overflowed (field message : String) : Option Int → Except CoreError Int
  | some n => .ok n
  | none => .error (.validation field message)

def taxDivisor (rateBps : Int) (isInclusive : Bool) : Int :=
  if isInclusive then 10000 + rateBps else 10000

def computeLineTax (baseMinor rateBps : Int) (isInclusive : Bool) (mode : RoundingMode) :
    Except CoreError Int :=
  (overflowed "tax" "tax multiplication overflow" (checkedI64 (baseMinor * rateBps))).bind
    (fun numerator =>
      (if isInclusive then
          overflowed "rate_bps" "inclusive divisor overflow" (checkedI64 (10000 + rateBps))
        else .ok 10000).bind (fun divisor =>
          overflowed "tax" "tax rounding overflow" (mode.divide numerator divisor)))

end OzPos
