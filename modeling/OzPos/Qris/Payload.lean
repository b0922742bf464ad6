import OzPos.Qris.Tlv
import OzPos.Client.Settings

namespace OzPos

variable (crc : UInt16)

/-- One shift of CRC-16/CCITT, polynomial `0x1021`. -/
def crcShift : UInt16 :=
  if crc &&& 0x8000 ≠ 0 then (crc <<< 1) ^^^ 0x1021 else crc <<< 1

def crcByte (byte : UInt8) : UInt16 :=
  Nat.iterate crcShift 8 (crc ^^^ (byte.toUInt16 <<< 8))

variable (text : List Char)

def crc16Ccitt : UInt16 :=
  (text.flatMap String.utf8EncodeChar).foldl crcByte 0xFFFF

def hexChar (n : Nat) : Char :=
  if n < 10 then Char.ofNat ('0'.toNat + n) else Char.ofNat ('A'.toNat + (n - 10))

def hexValue? (c : Char) : Option Nat :=
  if c.isDigit then some (c.toNat - '0'.toNat)
  else if 'A' ≤ c ∧ c ≤ 'F' then some (c.toNat - 'A'.toNat + 10)
  else if 'a' ≤ c ∧ c ≤ 'f' then some (c.toNat - 'a'.toNat + 10)
  else none

/-- `{:04X}`. -/
def crcHex : List Char :=
  let n := crc.toNat
  [hexChar (n / 4096), hexChar (n / 256 % 16), hexChar (n / 16 % 16), hexChar (n % 16)]

def hexDigits? : List Char → Nat → Option Nat
  | [], value => some value
  | c :: rest, value => (hexValue? c).bind (fun digit => hexDigits? rest (16 * value + digit))

/-- `u16::from_str_radix(.., 16)` on at most four characters, a leading plus allowed. -/
def parseHex : Option UInt16 :=
  let digits := if text.head? = some '+' then text.tail else text
  if digits = [] then none else (hexDigits? digits 0).map UInt16.ofNat

def appendCrc : List Char :=
  let signed := text ++ ['6', '3', '0', '4']
  signed ++ crcHex (crc16Ccitt signed)

/-- The text cut before its last four bytes; `none` inside a character, where slicing panics. -/
def splitLastFour : List Char → Option (List Char × List Char)
  | [] => none
  | c :: rest =>
    if byteLen (c :: rest) = 4 then some ([], c :: rest)
    else (splitLastFour rest).map (fun parts => (c :: parts.1, parts.2))

/-- `crc::verify`; `none` where it panics. -/
def verifyCrc : Option (Except QrisError Unit) :=
  if byteLen text < 8 then some (.error (.tooShort 8 (byteLen text)))
  else
    match splitLastFour text with
    | none => none
    | some (signed, crcText) =>
      match parseHex crcText with
      | none => some (.error (.crcMismatch 0 0))
      | some expected =>
        if expected ≠ crc16Ccitt signed then
          some (.error (.crcMismatch expected (crc16Ccitt signed)))
        else some (.ok ())

theorem hexChar_spec : ∀ n < 16, hexValue? (hexChar n) = some n ∧ hexChar n ≠ '+' ∧
    (hexChar n).utf8Size = 1 := by decide

theorem parseHex_crcHex : parseHex (crcHex crc) = some crc := by
  have hlt := crc.toNat_lt
  have h1 := hexChar_spec (crc.toNat / 4096) (by omega)
  have h2 := hexChar_spec (crc.toNat / 256 % 16) (by omega)
  have h3 := hexChar_spec (crc.toNat / 16 % 16) (by omega)
  have h4 := hexChar_spec (crc.toNat % 16) (by omega)
  have hvalue : 16 * (16 * (16 * (16 * 0 + crc.toNat / 4096) + crc.toNat / 256 % 16) +
      crc.toNat / 16 % 16) + crc.toNat % 16 = crc.toNat := by omega
  simp only [parseHex, crcHex, List.head?_cons, Option.some.injEq, h1.2.1, if_false, reduceCtorEq,
    hexDigits?, h1.1, h2.1, h3.1, h4.1, Option.bind_some, Option.map_some, hvalue,
    UInt16.ofNat_toNat]

theorem byteLen_append (l r : List Char) : byteLen (l ++ r) = byteLen l + byteLen r := by
  simp [byteLen]

theorem byteLen_crcHex : byteLen (crcHex crc) = 4 := by
  have hlt := crc.toNat_lt
  have h1 := hexChar_spec (crc.toNat / 4096) (by omega)
  have h2 := hexChar_spec (crc.toNat / 256 % 16) (by omega)
  have h3 := hexChar_spec (crc.toNat / 16 % 16) (by omega)
  have h4 := hexChar_spec (crc.toNat % 16) (by omega)
  simp [byteLen, crcHex, h1.2.2, h2.2.2, h3.2.2, h4.2.2]

theorem splitLastFour_append (text last : List Char) (hlast : byteLen last = 4) :
    splitLastFour (text ++ last) = some (text, last) := by
  induction text with
  | nil =>
    cases last with
    | nil => simp [byteLen] at hlast
    | cons c rest => simp [splitLastFour, hlast]
  | cons c text ih =>
    have hpos := Char.utf8Size_pos c
    have hne : byteLen (c :: (text ++ last)) ≠ 4 := by
      have hcons : byteLen (c :: (text ++ last)) = c.utf8Size + byteLen (text ++ last) := by
        simp [byteLen]
      have happend := byteLen_append text last
      omega
    simp [splitLastFour, hne, ih]

theorem verifyCrc_appendCrc : verifyCrc (appendCrc text) = some (.ok ()) := by
  have hhex := byteLen_crcHex (crc16Ccitt (text ++ ['6', '3', '0', '4']))
  have hfour : byteLen ['6', '3', '0', '4'] = 4 := by decide
  have hlen : ¬ byteLen (appendCrc text) < 8 := by
    rw [appendCrc, byteLen_append, byteLen_append, hhex, hfour]
    omega
  unfold verifyCrc
  rw [if_neg hlen, appendCrc, splitLastFour_append _ _ hhex]
  simp [parseHex_crcHex]

inductive InitiationMethod where
  | static
  | dynamic
  deriving DecidableEq

def InitiationMethod.fromWire (s : String) : InitiationMethod :=
  if s = "12" then .dynamic else .static

def InitiationMethod.toWire : InitiationMethod → String
  | .static => "11"
  | .dynamic => "12"

structure MerchantAccountInfo where
  tag : Nat
  guid : String
  merchantPan : Option String
  nmid : String
  criteria : Option String
  extraSubTags : List (Nat × String)
  deriving DecidableEq

namespace MerchantAccountInfo

variable (account : MerchantAccountInfo)

def readSub (t : Tlv) : MerchantAccountInfo :=
  match t.tag with
  | 0 => { account with guid := t.value }
  | 1 => { account with merchantPan := some t.value }
  | 2 => { account with nmid := t.value }
  | 3 => { account with criteria := some t.value }
  | _ => { account with extraSubTags := account.extraSubTags ++ [(t.tag, t.value)] }

def fromNested (tag : Nat) (value : String) : Except QrisError MerchantAccountInfo :=
  (parseTlvs value.toList).map (fun subs => subs.foldl readSub ⟨tag, "", none, "", none, []⟩)

def fields : List Tlv :=
  ⟨0, account.guid⟩ :: (account.merchantPan.toList.map (fun pan => ⟨1, pan⟩) ++
    ⟨2, account.nmid⟩ :: (account.criteria.toList.map (fun criteria => ⟨3, criteria⟩) ++
      account.extraSubTags.map (fun t => ⟨t.1, t.2⟩)))

end MerchantAccountInfo

structure AdditionalData where
  (billNumber mobileNumber storeLabel loyaltyNumber referenceLabel customerLabel : Option String)
  (terminalLabel purpose : Option String)
  extra : List (Nat × String)
  deriving DecidableEq

namespace AdditionalData

def empty : AdditionalData := ⟨none, none, none, none, none, none, none, none, []⟩

variable (data : AdditionalData)

def readSub (t : Tlv) : AdditionalData :=
  match t.tag with
  | 1 => { data with billNumber := some t.value }
  | 2 => { data with mobileNumber := some t.value }
  | 3 => { data with storeLabel := some t.value }
  | 4 => { data with loyaltyNumber := some t.value }
  | 5 => { data with referenceLabel := some t.value }
  | 6 => { data with customerLabel := some t.value }
  | 7 => { data with terminalLabel := some t.value }
  | 8 => { data with purpose := some t.value }
  | _ => { data with extra := data.extra ++ [(t.tag, t.value)] }

def fromNested (value : String) : Except QrisError AdditionalData :=
  (parseTlvs value.toList).map (fun subs => subs.foldl readSub empty)

def labels : List (Nat × Option String) :=
  [(1, data.billNumber), (2, data.mobileNumber), (3, data.storeLabel), (4, data.loyaltyNumber),
    (5, data.referenceLabel), (6, data.customerLabel), (7, data.terminalLabel), (8, data.purpose)]

def fields : List Tlv :=
  data.labels.flatMap (fun label => label.2.toList.map (fun v => ⟨label.1, v⟩)) ++
    data.extra.map (fun t => ⟨t.1, t.2⟩)

def isEmpty (data : AdditionalData) : Bool :=
  data.labels.all (fun label => label.2.isNone) && data.extra.isEmpty

end AdditionalData

inductive Tip where
  | fixed (amount : String)
  | percentage (percent : String)
  deriving DecidableEq

structure QrisPayload where
  initiation : InitiationMethod
  merchantAccounts : List MerchantAccountInfo
  (merchantCategoryCode currency : String)
  amount : Option String
  tip : Option Tip
  (countryCode merchantName merchantCity : String)
  postalCode : Option String
  additionalData : Option AdditionalData
  extra : List (Nat × String)
  deriving DecidableEq

/-- The variables of `from_tlvs`. -/
structure ParseState where
  initiation : InitiationMethod
  merchantAccounts : List MerchantAccountInfo
  (merchantCategoryCode currency : String)
  (amount tipIndicator feeFixed feePercent : Option String)
  (countryCode merchantName merchantCity : String)
  postalCode : Option String
  additionalData : Option AdditionalData
  extra : List (Nat × String)

namespace ParseState

def start : ParseState :=
  { initiation := .static, merchantAccounts := [], merchantCategoryCode := "", currency := "360"
    amount := none, tipIndicator := none, feeFixed := none, feePercent := none
    countryCode := "ID", merchantName := "", merchantCity := "", postalCode := none
    additionalData := none, extra := [] }

def isAccountTag (tag : Nat) : Bool := 26 ≤ tag && tag ≤ 51

variable (s : ParseState)

def read (t : Tlv) : Except QrisError ParseState :=
  if isAccountTag t.tag then
    (MerchantAccountInfo.fromNested t.tag t.value).map
      (fun account => { s with merchantAccounts := s.merchantAccounts ++ [account] })
  else
    match t.tag with
    | 0 => .ok s
    | 1 => .ok { s with initiation := .fromWire t.value }
    | 52 => .ok { s with merchantCategoryCode := t.value }
    | 53 => .ok { s with currency := t.value }
    | 54 => .ok { s with amount := some t.value }
    | 55 => .ok { s with tipIndicator := some t.value }
    | 56 => .ok { s with feeFixed := some t.value }
    | 57 => .ok { s with feePercent := some t.value }
    | 58 => .ok { s with countryCode := t.value }
    | 59 => .ok { s with merchantName := t.value }
    | 60 => .ok { s with merchantCity := t.value }
    | 61 => .ok { s with postalCode := some t.value }
    | 62 => (AdditionalData.fromNested t.value).map
        (fun data => { s with additionalData := some data })
    | 63 => .ok s
    | tag => .ok { s with extra := s.extra ++ [(tag, t.value)] }

def readAll : List Tlv → ParseState → Except QrisError ParseState
  | [], s => .ok s
  | t :: rest, s =>
    match s.read t with
    | .error e => .error e
    | .ok next => readAll rest next

def readTip : Except QrisError (Option Tip) :=
  if s.tipIndicator = some "02" then
    match s.feeFixed with
    | some amount => .ok (some (.fixed amount))
    | none => .error .incompleteTip
  else if s.tipIndicator = some "03" then
    match s.feePercent with
    | some percent => .ok (some (.percentage percent))
    | none => .error .incompleteTip
  else .ok none

def finish : Except QrisError QrisPayload :=
  match s.merchantAccounts with
  | [] => .error .noMerchantAccount
  | first :: _ =>
    if first.nmid = "" then .error .missingNmid
    else
      s.readTip.map (fun tip =>
        { initiation := s.initiation, merchantAccounts := s.merchantAccounts
          merchantCategoryCode := s.merchantCategoryCode, currency := s.currency
          amount := s.amount, tip, countryCode := s.countryCode, merchantName := s.merchantName
          merchantCity := s.merchantCity, postalCode := s.postalCode
          additionalData := s.additionalData, extra := s.extra })

end ParseState

namespace QrisPayload

def fromTlvs (tlvs : List Tlv) : Except QrisError QrisPayload :=
  match ParseState.readAll tlvs .start with
  | .error e => .error e
  | .ok s => s.finish

/-- `QrisPayload::parse`; `none` where the checksum slicing panics. -/
def parse (input : String) : Option (Except QrisError QrisPayload) :=
  match verifyCrc input.toList with
  | none => none
  | some (.error e) => some (.error e)
  | some (.ok ()) =>
    match parseTlvs input.toList with
    | .error e => some (.error e)
    | .ok tlvs => some (fromTlvs tlvs)

def tipFields : Option Tip → List Tlv
  | none => []
  | some (.fixed amount) => [⟨55, "02"⟩, ⟨56, amount⟩]
  | some (.percentage percent) => [⟨55, "03"⟩, ⟨57, percent⟩]

def nestedField (tag : Nat) (fields : List Tlv) : Option Tlv :=
  (encodeFields fields).map (fun text => ⟨tag, String.ofList text⟩)

def accountFields : List MerchantAccountInfo → Option (List Tlv)
  | [] => some []
  | account :: rest =>
    match nestedField account.tag account.fields, accountFields rest with
    | some field, some others => some (field :: others)
    | _, _ => none

def additionalFields : Option AdditionalData → Option (List Tlv)
  | none => some []
  | some data =>
    if data.isEmpty then some [] else (nestedField 62 data.fields).map (fun field => [field])

def fields (p : QrisPayload) : Option (List Tlv) :=
  match accountFields p.merchantAccounts, additionalFields p.additionalData with
  | some accounts, some additional =>
    some (⟨0, "01"⟩ :: ⟨1, p.initiation.toWire⟩ :: (accounts ++
      (⟨52, p.merchantCategoryCode⟩ :: ⟨53, p.currency⟩ ::
        (p.amount.toList.map (fun amount => ⟨54, amount⟩) ++ (tipFields p.tip ++
          (⟨58, p.countryCode⟩ :: ⟨59, p.merchantName⟩ :: ⟨60, p.merchantCity⟩ ::
            (p.postalCode.toList.map (fun code => ⟨61, code⟩) ++
              (additional ++ p.extra.map (fun t => ⟨t.1, t.2⟩)))))))))
  | _, _ => none

/-- `to_qris_string`; `none` where a field is too long and the source panics. -/
def toQrisString (p : QrisPayload) : Option String :=
  (p.fields.bind encodeFields).map (fun text => String.ofList (appendCrc text))

end QrisPayload

structure QrisBuilder where
  (nmid guid merchantPan criteria : Option String)
  extraAccounts : List MerchantAccountInfo
  (merchantCategoryCode currency amount : Option String)
  tip : Option Tip
  (countryCode merchantName merchantCity postalCode : Option String)
  additionalData : AdditionalData
  extra : List (Nat × String)

/-- `parse::<u64>` of decimal digits, a leading plus allowed. -/
def parseU64 (text : List Char) : Option Nat :=
  let digits := if text.head? = some '+' then text.tail else text
  if digits = [] then none
  else
    (digits.foldlM (fun value c => (digit? c).map (fun digit => 10 * value + digit)) 0).filter
      (fun value => value < 2 ^ 64)

/-- `parse_amount`: whole rupiah before the first point. -/
def parseAmount (s : String) : Except QrisError Nat :=
  let trimmed := trim s
  if trimmed = "" then .error (.invalidAmount s)
  else
    match parseU64 (trimmed.toList.takeWhile (· ≠ '.')) with
    | some rupiah => .ok rupiah
    | none => .error (.invalidAmount s)

namespace QrisBuilder

def new : QrisBuilder :=
  { nmid := none, guid := none, merchantPan := none, criteria := none, extraAccounts := []
    merchantCategoryCode := none, currency := none, amount := none, tip := none
    countryCode := none, merchantName := none, merchantCity := none, postalCode := none
    additionalData := .empty, extra := [] }

def fromPayload (p : QrisPayload) : QrisBuilder :=
  let first := p.merchantAccounts.head?
  { nmid := first.map MerchantAccountInfo.nmid, guid := first.map MerchantAccountInfo.guid
    merchantPan := first.bind MerchantAccountInfo.merchantPan
    criteria := first.bind MerchantAccountInfo.criteria
    extraAccounts := p.merchantAccounts.tail
    merchantCategoryCode := some p.merchantCategoryCode, currency := some p.currency
    amount := p.amount, tip := p.tip, countryCode := some p.countryCode
    merchantName := some p.merchantName, merchantCity := some p.merchantCity
    postalCode := p.postalCode, additionalData := p.additionalData.getD .empty, extra := p.extra }

/-- The checks of `build`, in their order; the amount is kept as it was given. -/
def build (b : QrisBuilder) : Except QrisError QrisPayload :=
  match b.nmid, b.merchantName, b.merchantCity, b.merchantCategoryCode with
  | none, _, _, _ => .error .missingNmid
  | some _, none, _, _ => .error (.missingTag 59)
  | some _, some _, none, _ => .error (.missingTag 60)
  | some _, some _, some _, none => .error (.missingTag 52)
  | some nmid, some merchantName, some merchantCity, some merchantCategoryCode =>
    match b.amount.map parseAmount with
    | some (.error e) => .error e
    | _ =>
      .ok
        { initiation := if b.amount.isSome then .dynamic else .static
          merchantAccounts :=
            ⟨26, b.guid.getD "ID.CO.QRIS.WWW", b.merchantPan, nmid, b.criteria, []⟩ ::
              b.extraAccounts
          merchantCategoryCode, currency := b.currency.getD "360", amount := b.amount
          tip := b.tip, countryCode := b.countryCode.getD "ID", merchantName, merchantCity
          postalCode := b.postalCode
          additionalData := if b.additionalData.isEmpty then none else some b.additionalData
          extra := b.extra }

end QrisBuilder

end OzPos
