import OzPos.Client.Settings

namespace OzPos

def indexIdMax : Int := 255

def indexIdNone : Int := 0

inductive EntityIndexKind where
  | location
  | terminal
  | user
  deriving DecidableEq

def EntityIndexKind.asStr : EntityIndexKind → String
  | .location => "location"
  | .terminal => "terminal"
  | .user => "user"

/-- `{value:02X}`. -/
def indexHex (value : Int) : String :=
  String.ofList ((((Nat.toDigits 16 value.toNat).map Char.toUpper).leftpad 2 '0'))

/-- A row of `locations`, `terminals` or `users`. -/
structure BadgeRow where
  (id tenantId : String)
  indexId : Option Int

/-- The table of one kind of entity, with the cursors of its tenants. `asked` is history: the
entities that committed sales have asked an index for. -/
structure Badges where
  rows : Table String BadgeRow BadgeRow.id
  nextValue : String → Option Int
  asked : List String

namespace Badges

variable (kind : EntityIndexKind)

def allocateEntityIndex (tenantId : String) (b : Badges) : Except CoreError (Badges × Int) :=
  let next := ((b.nextValue tenantId).map (· + 1)).getD 2
  let allocated := next - 1
  if indexIdMax < allocated then
    .error (.validation "index_id"
      ("index id exhausted: " ++ kind.asStr ++ " for tenant '" ++ tenantId ++
        "' has reached 255 (0xFF); the two-hex-digit field cannot express another"))
  else
    .ok ({ b with nextValue := Function.update b.nextValue tenantId (some next) }, allocated)

variable (tenantId entityId : String) (b : Badges)

/-- `SELECT index_id FROM … WHERE id = ? AND tenant_id = ?`. -/
def indexOf : Option Int :=
  ((b.rows.find? entityId).filter (fun row => row.tenantId = tenantId)).bind BadgeRow.indexId

def taken (row : BadgeRow) (index : Int) (b : Badges) : Bool :=
  b.rows.rows.any (fun other => other.id ≠ row.id && other.tenantId = row.tenantId &&
    other.indexId = some index)

/-- `UPDATE … SET index_id = ? WHERE id = ?`, whatever the row's tenant. -/
def writeIndex (entityId : String) (index : Int) (b : Badges) : Except CoreError Badges :=
  match b.rows.find? entityId with
  | none => .ok b
  | some row =>
    if b.taken row index then
      .error (.db ("UNIQUE constraint failed: " ++ kind.asStr ++ "s.tenant_id, " ++
        kind.asStr ++ "s.index_id"))
    else
      .ok { b with
        rows := b.rows.update entityId (fun r => { r with indexId := some index }) (fun _ => rfl) }

def ensureEntityIndex : Except CoreError (Badges × Int) :=
  match b.indexOf tenantId entityId with
  | some index => .ok ({ b with asked := b.asked ++ [entityId] }, index)
  | none =>
    (b.allocateEntityIndex kind tenantId).bind (fun (b, index) =>
      (b.writeIndex kind entityId index).map (fun b =>
        ({ b with asked := b.asked ++ [entityId] }, index)))

end Badges

structure PrintedBadge where
  kind : EntityIndexKind
  entityId : String
  index : Int
  deriving DecidableEq

/-- `counters` are the receipt sequences by tenant, terminal index and year. `printed` is
history: the indexes on the receipts of the committed sales. -/
structure ReceiptDb where
  badges : EntityIndexKind → Badges
  timezones : String → Option String
  counters : String × String × String → Option Int
  printed : List PrintedBadge

def sequenceMax : Int := 999999

/-- `{seq:06}`. -/
def sequenceTail (seq : Int) : String :=
  String.ofList ((toString seq).toList.leftpad 6 '0')

def assembleReceiptCode (locIdx termIdx : Int) (yymmdd : String) (staffIdx seq : Int) : String :=
  indexHex locIdx ++ "-" ++ indexHex termIdx ++ "-" ++ yymmdd ++ "-" ++ indexHex staffIdx ++ "-" ++
    sequenceTail seq

/-- `str::parse::<i64>`, whose bounds no caller meets. -/
def parseDigits : List Char → Option Int
  | [] => none
  | chars =>
    if chars.all Char.isDigit then some (Nat.ofDigitChars 10 chars 0) else none

def parseSigned : List Char → Option Int
  | '+' :: rest => parseDigits rest
  | '-' :: rest => (parseDigits rest).map (- ·)
  | chars => parseDigits chars

def unsignedOffset (sign : Int) (rest : List Char) : Option Int :=
  match rest.span (· ≠ ':') with
  | (h, ':' :: m) =>
    (parseSigned h).bind (fun h => (parseSigned m).bind (fun m =>
      if 0 ≤ h ∧ h ≤ 14 ∧ 0 ≤ m ∧ m ≤ 59 then some (sign * (h * 3600 + m * 60)) else none))
  | _ => none

/-- A fixed offset in seconds; `none` for a zone that is not one. -/
def offsetSeconds (tz : String) : Option Int :=
  let tz := trim tz
  if tz = "" || ignoreCaseEq tz "UTC" || ignoreCaseEq tz "Z" then some 0
  else
    match tz.toList with
    | '+' :: rest => unsignedOffset 1 rest
    | '-' :: rest => unsignedOffset (-1) rest
    | _ => none

/-- What the date library makes of a timestamp at an offset, as `%y%m%d` and `%Y`. -/
structure ReceiptClock where
  localDate : (nowUtc : String) → (offsetSecs : Int) → Except String (String × String)

variable (clock : ReceiptClock)

/-- The date and the year of a receipt at the location's own offset, which is within a day. -/
def resolveReceiptDate (nowUtc locationTimezone : String) : Except CoreError (String × String) :=
  match clock.localDate nowUtc ((offsetSeconds locationTimezone).getD 0) with
  | .error e =>
    .error (.validation "receipt_date" ("invalid UTC timestamp '" ++ nowUtc ++ "': " ++ e))
  | .ok date => .ok date

namespace ReceiptDb

def claimReceiptSequence (tenantId terminalIdx fiscalYear : String) (db : ReceiptDb) :
    Except CoreError (ReceiptDb × Int) :=
  let claimed := ((db.counters (tenantId, terminalIdx, fiscalYear)).map (· + 1)).getD 1
  if sequenceMax < claimed then
    .error (.validation "receipt_sequence"
      ("receipt sequence exhausted for terminal '" ++ terminalIdx ++ "' fiscal year '" ++
        fiscalYear ++ "': reached " ++ toString claimed ++
        ", the 6-digit tail cannot exceed 999999"))
  else
    .ok ({ db with
      counters := Function.update db.counters (tenantId, terminalIdx, fiscalYear)
        (some claimed) }, claimed)

def ensure (kind : EntityIndexKind) (tenantId entityId : String) (db : ReceiptDb) :
    Except CoreError (ReceiptDb × Int) :=
  ((db.badges kind).ensureEntityIndex kind tenantId entityId).map (fun (b, index) =>
    ({ db with badges := Function.update db.badges kind b }, index))

/-- An empty user is a kiosk or system sale, printed as the sentinel. -/
def staffIndex (tenantId staffUserId : String) (db : ReceiptDb) :
    Except CoreError (ReceiptDb × Int) :=
  if staffUserId = "" then .ok (db, indexIdNone) else db.ensure .user tenantId staffUserId

def badgesOf (staffUserId locationId terminalId : String) (staffIdx locIdx termIdx : Int) :
    List PrintedBadge :=
  (if staffUserId = "" then [] else [⟨.user, staffUserId, staffIdx⟩]) ++
    [⟨.location, locationId, locIdx⟩, ⟨.terminal, terminalId, termIdx⟩]

/-- The code and the terminal of a sale; without a terminal there is no code. -/
def mintReceiptCode (tenantId locationId : String)
    (terminalId : Option String) (staffUserId nowUtc : String) (db : ReceiptDb) :
    Except CoreError (ReceiptDb × Option String × Option String) :=
  (db.staffIndex tenantId staffUserId).bind (fun (db, staffIdx) =>
    (db.ensure .location tenantId locationId).bind (fun (db, locIdx) =>
      match terminalId with
      | none => .ok (db, none, none)
      | some term =>
        (db.ensure .terminal tenantId term).bind (fun (db, termIdx) =>
          (resolveReceiptDate clock nowUtc ((db.timezones locationId).getD "UTC")).bind (fun (yymmdd, fiscalYear) =>
            (db.claimReceiptSequence tenantId (indexHex termIdx) fiscalYear).map (fun (db, seq) =>
              ({ db with
                printed := db.printed ++
                  badgesOf staffUserId locationId term staffIdx locIdx termIdx },
                some (assembleReceiptCode locIdx termIdx yymmdd staffIdx seq), some term))))))

end ReceiptDb

/-- The mint of one sale, whose transaction commits or rolls back. -/
structure MintCall where
  locationId : String
  terminalId : Option String
  (staffUserId nowUtc : String)
  commits : Bool

def MintCall.act (tenantId : String) (db : ReceiptDb) (c : MintCall) : ReceiptDb :=
  if c.commits then
    match db.mintReceiptCode clock tenantId c.locationId c.terminalId c.staffUserId c.nowUtc with
    | .ok (db, _) => db
    | .error _ => db
  else db

end OzPos
