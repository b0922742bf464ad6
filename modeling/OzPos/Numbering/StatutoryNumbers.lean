import OzPos.Commerce.Checkout

namespace OzPos

inductive DocumentKind where
  | receipt
  | invoice
  deriving DecidableEq

namespace DocumentKind

def parse (raw : String) : Except CoreError DocumentKind :=
  match asciiLowercase raw with
  | "receipt" => .ok .receipt
  | "invoice" => .ok .invoice
  | other =>
    .error (.validation "document_kind"
      ("document_kind must be receipt or invoice; got " ++ other.quote))

end DocumentKind

inductive ResetPeriod where
  | never
  | daily
  | monthly
  | yearly
  deriving DecidableEq

/-- `text.get(..n)`: the first `n` bytes, where a character ends there. -/
def leadingBytes : Nat → List Char → Option (List Char)
  | 0, _ => some []
  | _ + 1, [] => none
  | n + 1, c :: rest =>
    if c.utf8Size ≤ n + 1 then (leadingBytes (n + 1 - c.utf8Size) rest).map (c :: ·) else none

namespace ResetPeriod

def parse (raw : String) : Except CoreError ResetPeriod :=
  match asciiLowercase raw with
  | "never" => .ok .never
  | "daily" => .ok .daily
  | "monthly" => .ok .monthly
  | "yearly" => .ok .yearly
  | other =>
    .error (.validation "reset_period"
      ("reset_period must be never, daily, monthly or yearly; got " ++ other.quote))

def asStr : ResetPeriod → String
  | .never => "never"
  | .daily => "daily"
  | .monthly => "monthly"
  | .yearly => "yearly"

def keyLength : ResetPeriod → Nat
  | .never => 0
  | .daily => 10
  | .monthly => 7
  | .yearly => 4

def periodKeyFor (reset : ResetPeriod) (now : String) : String :=
  String.ofList ((leadingBytes reset.keyLength now.toList).getD [])

theorem periodKeyFor_never (now : String) : ResetPeriod.never.periodKeyFor now = "" := by
  simp [periodKeyFor, keyLength, leadingBytes]

end ResetPeriod

/-- A row of `document_number_sequences`, one for an entity and kind. -/
structure DocumentNumberSequence where
  (id legalEntityId : String)
  documentKind : DocumentKind
  numberPrefix : String
  currentValue : Int
  (resetPeriod periodKey : String)
  padding : Int
  (createdAt updatedAt : String)
  deriving DecidableEq

abbrev SeriesKey := String × DocumentKind

variable (s : DocumentNumberSequence)

def DocumentNumberSequence.key : SeriesKey :=
  (s.legalEntityId, s.documentKind)

/-- `{:0>width$}`. -/
def padOrdinal (padding value : Int) : String :=
  String.ofList ((toString value).toList.leftpad padding.toNat '0')

def formatNumber (numberPrefix : String) (reset : ResetPeriod) (bucket : String)
    (padding value : Int) : String :=
  if reset = .never then numberPrefix ++ padOrdinal padding value
  else numberPrefix ++ bucket ++ "/" ++ padOrdinal padding value

structure Issued where
  series : SeriesKey
  (saleId numberPrefix : String)
  policy : ResetPeriod
  now : String
  (padding ordinal : Int)

def Issued.period (i : Issued) : String := i.policy.periodKeyFor i.now

def Issued.number (i : Issued) : String :=
  formatNumber i.numberPrefix i.policy i.period i.padding i.ordinal

/-- `issued` is history: the numbers of the committed sales, in order. -/
structure FiscalDb where
  legalEntities : List String
  locations : List (String × Option String)
  sequences : Table SeriesKey DocumentNumberSequence DocumentNumberSequence.key
  statutoryNumbers : String → Option String
  issued : List Issued

def maxFormatWidth : Int := 65535

namespace FiscalDb

def upsertDocumentNumberSequence (entity documentKind numberPrefix : String) (reset : ResetPeriod)
    (padding : Int) (now rowId : String) (db : FiscalDb) : Except CoreError FiscalDb :=
  (DocumentKind.parse documentKind).bind (fun kind =>
    if padding < 0 then
      .error (.validation "padding" s!"padding must not be negative, got {padding}")
    else
      match db.sequences.find? (entity, kind) with
      | some _ =>
        .ok { db with
          sequences := db.sequences.update (entity, kind)
            (fun s => { s with numberPrefix, resetPeriod := reset.asStr, padding, updatedAt := now })
            (fun _ => rfl) }
      | none =>
        if entity ∈ db.legalEntities then
          .ok { db with
            sequences := db.sequences.insertNew ⟨rowId, entity, kind, numberPrefix, 0,
              reset.asStr, reset.periodKeyFor now, padding, now, now⟩ }
        else .error (.db "FOREIGN KEY constraint failed"))

/-- `document_number_sequence`. -/
def documentNumberSequence (entity documentKind : String) (db : FiscalDb) :
    Except CoreError (Option DocumentNumberSequence) :=
  (DocumentKind.parse documentKind).map (fun kind => db.sequences.find? (entity, kind))

end FiscalDb

/-- `CASE WHEN period_key = ? THEN current_value + 1 ELSE 1 END`. -/
def DocumentNumberSequence.nextValue (bucket : String) : Int :=
  if s.periodKey = bucket then s.currentValue + 1 else 1

namespace FiscalDb

/-- The one statement of a claim, and the stamp. A counter past the integers is a float, which no
reader takes; a width past the formatter's unwinds the transaction. -/
def issue (reset : ResetPeriod) (saleId now : String)
    (db : FiscalDb) : Except CheckoutError (FiscalDb × Option String) :=
  match checkedI64 (s.nextValue (reset.periodKeyFor now)) with
  | none => .error (.core (.db "Invalid column type Real at index: 0, name: current_value"))
  | some value =>
    if maxFormatWidth < s.padding then .error .panicked
    else
      let new : Issued := ⟨s.key, saleId, s.numberPrefix, reset, now, s.padding, value⟩
      .ok ({ db with
        sequences := db.sequences.update s.key
          (fun row => { row with
            currentValue := value, periodKey := reset.periodKeyFor now, updatedAt := now })
          (fun _ => rfl)
        statutoryNumbers := Function.update db.statutoryNumbers saleId (some new.number)
        issued := db.issued ++ [new] }, some new.number)

def claimStatutoryNumberForSale (saleId locationId documentKind now : String) (db : FiscalDb) :
    Except CheckoutError (FiscalDb × Option String) :=
  match db.locations.lookup locationId with
  | none => .ok (db, none)
  | some none =>
    .error (.core (.db "Invalid column type Null at index: 0, name: legal_entity_id"))
  | some (some entity) =>
    (coreResult (db.documentNumberSequence entity documentKind)).bind (fun series =>
      match series with
      | none => .ok (db, none)
      | some s =>
        (coreResult (ResetPeriod.parse s.resetPeriod)).bind (fun reset =>
          db.issue s reset saleId now))

end FiscalDb

inductive FiscalEvent where
  | configure (entity documentKind numberPrefix : String) (reset : ResetPeriod) (padding : Int)
    (now rowId : String)
  | claim (saleId locationId documentKind now : String) (commits : Bool)

/-- A refused call, or a sale whose transaction rolls back, leaves everything as it was. -/
def FiscalEvent.act (db : FiscalDb) : FiscalEvent → FiscalDb
  | .configure entity documentKind numberPrefix reset padding now rowId =>
    (db.upsertDocumentNumberSequence entity documentKind numberPrefix reset padding now
      rowId).toOption.getD db
  | .claim saleId locationId documentKind now commits =>
    if commits then
      match db.claimStatutoryNumberForSale saleId locationId documentKind now with
      | .ok (db, _) => db
      | .error _ => db
    else db

end OzPos
