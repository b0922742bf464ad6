import Mathlib.Algebra.Order.Ring.Int
import Mathlib.Algebra.BigOperators.Group.List.Basic

namespace OzPos

inductive QrisError where
  | tooShort (needed got : Nat)
  | badLength (tag : Nat) (reason : String)
  | crcMismatch (expected computed : UInt16)
  | missingTag (tag : Nat)
  | noMerchantAccount
  | missingNmid
  | invalidAmount (amount : String)
  | incompleteTip
  deriving DecidableEq

variable (text : List Char)

/-- `str::len`: the bytes of the UTF-8 text. -/
def byteLen : Nat := (text.map Char.utf8Size).sum

structure Tlv where
  tag : Nat
  value : String

def digit? (c : Char) : Option Nat := if c.isDigit then some (c.toNat - '0'.toNat) else none

/-- A two-character `parse::<u8>` or `parse::<usize>`, which take a leading plus. -/
def parseTwo (a b : Char) : Option Nat :=
  match digit? b with
  | none => none
  | some low =>
    if a = '+' then some low else (digit? a).map (fun high => 10 * high + low)

/-- The parse loop: what is left to read, and how long the payload is. -/
def parseTlvsFrom (total : Nat) : List Char → Except QrisError (List Tlv)
  | [] => .ok []
  | t1 :: t2 :: l1 :: l2 :: rest =>
    match parseTwo t1 t2 with
    | none => .error (.badLength 0 "tag field is not a 2-digit decimal number")
    | some tag =>
      match parseTwo l1 l2 with
      | none => .error (.badLength tag "length field is not a 2-digit decimal number")
      | some len =>
        if rest.length < len then .error (.badLength tag "length exceeds remaining payload")
        else
          match parseTlvsFrom total (rest.drop len) with
          | .error e => .error e
          | .ok others => .ok (⟨tag, String.ofList (rest.take len)⟩ :: others)
  | short => .error (.tooShort (total - short.length + 4) total)
termination_by text => text.length
decreasing_by
  simp only [List.length_drop, List.length_cons]
  omega

def parseTlvs (payload : List Char) : Except QrisError (List Tlv) :=
  parseTlvsFrom payload.length payload

variable (n : Nat)

def digitChar : Char := Char.ofNat ('0'.toNat + n)

/-- `{:02}`. -/
def twoDigits : List Char :=
  if n < 100 then [digitChar (n / 10), digitChar (n % 10)] else (toString n).toList

/-- A field of the wire format; `none` where the source panics. -/
def encodeField (tag : Nat) (value : List Char) : Option (List Char) :=
  if byteLen value ≤ 99 then some (twoDigits tag ++ twoDigits (byteLen value) ++ value) else none

def encodeFields : List Tlv → Option (List Char)
  | [] => some []
  | field :: rest =>
    match encodeField field.tag field.value.toList, encodeFields rest with
    | some text, some others => some (text ++ others)
    | _, _ => none

def isAscii : Bool := text.all (fun c => c.toNat < 128)

def wideChars : Nat := (text.filter (fun c => 128 ≤ c.toNat)).length

theorem utf8Size_eq_one_iff (c : Char) : c.utf8Size = 1 ↔ c.toNat < 128 :=
  Char.utf8Size_eq_one_iff.trans Nat.lt_succ_iff.symm

theorem length_le_byteLen : text.length ≤ byteLen text := by
  induction text with
  | nil => simp [byteLen]
  | cons c rest ih =>
    have hpos := Char.utf8Size_pos c
    simp only [byteLen, List.map_cons, List.sum_cons, List.length_cons] at ih ⊢
    omega

theorem byteLen_eq_length_iff : byteLen text = text.length ↔ isAscii text = true := by
  induction text with
  | nil => simp [byteLen, isAscii]
  | cons c rest ih =>
    have hpos := Char.utf8Size_pos c
    have hle := length_le_byteLen rest
    have hone := utf8Size_eq_one_iff c
    simp only [byteLen, isAscii, List.map_cons, List.sum_cons, List.length_cons, List.all_cons,
      Bool.and_eq_true, decide_eq_true_eq] at ih hle ⊢
    rw [← ih, ← hone]
    omega

theorem wideChars_append (l r : List Char) : wideChars (l ++ r) = wideChars l + wideChars r := by
  simp [wideChars]

theorem wideChars_eq_zero_iff : wideChars text = 0 ↔ isAscii text = true := by
  simp [wideChars, isAscii, List.length_eq_zero_iff, List.filter_eq_nil_iff]

theorem digit?_digitChar : ∀ n < 10, digit? (digitChar n) = some n := by decide

theorem digitChar_ne_plus : ∀ n < 10, digitChar n ≠ '+' := by decide

theorem digitChar_ascii : ∀ n < 10, (digitChar n).toNat < 128 := by decide

theorem twoDigits_eq (h : n < 100) : twoDigits n = [digitChar (n / 10), digitChar (n % 10)] := by
  simp [twoDigits, h]

theorem parseTwo_twoDigits (h : n < 100) :
    parseTwo (digitChar (n / 10)) (digitChar (n % 10)) = some n := by
  have hhigh := digit?_digitChar (n / 10) (by omega)
  have hlow := digit?_digitChar (n % 10) (by omega)
  have hplus := digitChar_ne_plus (n / 10) (by omega)
  simp only [parseTwo, hlow, hplus, if_false, hhigh, Option.map_some, Option.some.injEq]
  omega

theorem parseTwo_some {a b : Char} {n : Nat} (h : parseTwo a b = some n) :
    n < 100 ∧ a.toNat < 128 ∧ b.toNat < 128 := by
  have hdigit : ∀ c m, digit? c = some m → m < 10 ∧ c.toNat < 128 := by
    intro c m hc
    unfold digit? at hc
    split at hc
    · rename_i hd
      rw [Char.isDigit, Bool.and_eq_true, decide_eq_true_eq, decide_eq_true_eq] at hd
      have hlow : 48 ≤ c.toNat := hd.1
      have hhigh : c.toNat ≤ 57 := hd.2
      have h0 : '0'.toNat = 48 := rfl
      cases hc
      omega
    · cases hc
  unfold parseTwo at h
  cases hb : digit? b with
  | none => simp [hb] at h
  | some low =>
    obtain ⟨hlow, hbascii⟩ := hdigit b low hb
    simp only [hb] at h
    split at h
    · rename_i hplus
      cases h
      rw [hplus]
      exact ⟨by omega, by decide, hbascii⟩
    · cases ha : digit? a with
      | none => simp [ha] at h
      | some high =>
        obtain ⟨hhigh, haascii⟩ := hdigit a high ha
        simp only [ha, Option.map_some, Option.some.injEq] at h
        exact ⟨by omega, haascii, hbascii⟩

variable {total : Nat} {text rest : List Char}

theorem parseTlvsFrom_encodeField {tag : Nat} {value : List Char}
    (htag : tag < 100) (h : encodeField tag value = some text) :
    parseTlvsFrom total (text ++ rest) =
      if (value ++ rest).length < byteLen value then
        .error (.badLength tag "length exceeds remaining payload")
      else
        match parseTlvsFrom total ((value ++ rest).drop (byteLen value)) with
        | .error e => .error e
        | .ok others => .ok (⟨tag, String.ofList ((value ++ rest).take (byteLen value))⟩ :: others) := by
  unfold encodeField at h
  split at h
  · rename_i hlen
    cases h
    rw [twoDigits_eq tag htag, twoDigits_eq (byteLen value) (by omega)]
    simp only [List.cons_append, List.nil_append]
    rw [parseTlvsFrom, parseTwo_twoDigits tag htag,
      parseTwo_twoDigits (byteLen value) (by omega)]
  · cases h

theorem parseTlvsFrom_ascii {tag : Nat} {value : List Char} (htag : tag < 100)
    (hascii : isAscii value = true) (h : encodeField tag value = some text) :
    parseTlvsFrom total (text ++ rest) =
      match parseTlvsFrom total rest with
      | .error e => .error e
      | .ok others => .ok (⟨tag, String.ofList value⟩ :: others) := by
  have hlen := (byteLen_eq_length_iff value).mpr hascii
  rw [parseTlvsFrom_encodeField htag h, hlen, if_neg (by simp), List.drop_left, List.take_left]

variable {fields : List Tlv}

theorem parseTlvsFrom_encodeFields (htags : ∀ f ∈ fields, f.tag < 100)
    (hascii : ∀ f ∈ fields, isAscii f.value.toList = true) (h : encodeFields fields = some text) :
    parseTlvsFrom total (text ++ rest) =
      match parseTlvsFrom total rest with
      | .error e => .error e
      | .ok others => .ok (fields ++ others) := by
  induction fields generalizing text with
  | nil =>
    cases h
    simp only [List.nil_append]
    cases parseTlvsFrom total rest <;> rfl
  | cons field fields ih =>
    cases hf : encodeField field.tag field.value.toList with
    | none => simp [encodeFields, hf] at h
    | some first =>
      cases hl : encodeFields fields with
      | none => simp [encodeFields, hf, hl] at h
      | some others =>
        simp only [encodeFields, hf, hl, Option.some.injEq] at h
        subst h
        have hrest := ih (fun f hm => htags f (List.mem_cons_of_mem _ hm))
          (fun f hm => hascii f (List.mem_cons_of_mem _ hm)) hl
        rw [List.append_assoc, parseTlvsFrom_ascii (htags field (List.mem_cons_self ..))
          (hascii field (List.mem_cons_self ..)) hf, hrest, String.ofList_toList]
        cases parseTlvsFrom total rest with
        | error e => rfl
        | ok tail => rfl

theorem wideChars_parse (h : parseTlvsFrom total text = .ok fields) :
    (fields.map (fun f => wideChars f.value.toList)).sum = wideChars text := by
  fun_induction parseTlvsFrom total text generalizing fields with
  | case1 =>
    cases h
    rfl
  | case2 | case3 | case4 | case5 | case7 => cases h
  | case6 t1 t2 l1 l2 rest tag htag len hlen hshort others hothers ih =>
    cases h
    obtain ⟨-, ht1, ht2⟩ := parseTwo_some htag
    obtain ⟨-, hl1, hl2⟩ := parseTwo_some hlen
    have hhead : wideChars (t1 :: t2 :: l1 :: l2 :: rest) = wideChars rest := by
      simp [wideChars, ht1, ht2, hl1, hl2]
    have hsplit := wideChars_append (rest.take len) (rest.drop len)
    rw [List.take_append_drop] at hsplit
    rw [List.map_cons, List.sum_cons, ih hothers, hhead, hsplit, String.toList_ofList]

theorem parse_tags (h : parseTlvsFrom total text = .ok fields) : ∀ f ∈ fields, f.tag < 100 := by
  fun_induction parseTlvsFrom total text generalizing fields with
  | case1 =>
    cases h
    simp
  | case2 | case3 | case4 | case5 | case7 => cases h
  | case6 t1 t2 l1 l2 rest tag htag len hlen hshort others hothers ih =>
    cases h
    intro f hf
    rcases List.mem_cons.mp hf with rfl | hf
    · exact (parseTwo_some htag).1
    · exact ih hothers f hf

end OzPos
