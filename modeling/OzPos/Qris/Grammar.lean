import OzPos.Qris.Tlv

namespace OzPos

structure WireField where
  (tag1 tag2 len1 len2 : Char)
  value : List Char

def spelledNumber (a b : Char) : Nat := 10 * (digit? a).getD 0 + (digit? b).getD 0

namespace WireField

variable (f : WireField)

def text : List Char := f.tag1 :: f.tag2 :: f.len1 :: f.len2 :: f.value

def tlv : Tlv := ⟨spelledNumber f.tag1 f.tag2, String.ofList f.value⟩

/-- The characters where a number begins are of a kind, those where it ends are digits, and the
value has as many characters as the length says. -/
structure Reads (first : Char → Prop) (f : WireField) : Prop where
  tag1 : first f.tag1
  tag2 : f.tag2.isDigit = true
  len1 : first f.len1
  len2 : f.len2.isDigit = true
  length : spelledNumber f.len1 f.len2 = f.value.length

/-- Two decimal digits of tag, two of length, and the value. -/
def WellFormed : WireField → Prop := Reads (fun c => c.isDigit = true)

/-- As `parse::<u8>` and `parse::<usize>` take it. -/
def Readable : WireField → Prop := Reads (fun c => c = '+' ∨ c.isDigit = true)

def Plain : Prop := f.tag1 ≠ '+' ∧ f.len1 ≠ '+' ∧ isAscii f.value = true

end WireField

variable (payload : List Char)

def TlvGrammar (fields : List Tlv) : Prop :=
  ∃ spelled : List WireField, (∀ f ∈ spelled, f.WellFormed) ∧
    payload = spelled.flatMap WireField.text ∧ fields = spelled.map WireField.tlv

/-- A text is accepted with its fields exactly by the grammar, and encoded back as it was. -/
def ReadAsSpelled : Prop :=
  (∀ fields, parseTlvs payload = .ok fields ↔ TlvGrammar payload fields) ∧
    ∀ fields, parseTlvs payload = .ok fields → encodeFields fields = some payload

/-- A text made of fields has no plus sign where a number begins and no value outside ASCII. -/
def PlainlySpelled : Prop :=
  ∀ spelled : List WireField, (∀ f ∈ spelled, f.Readable) →
    payload = spelled.flatMap WireField.text → ∀ f ∈ spelled, f.Plain

theorem digit?_of_isDigit {c : Char} (h : c.isDigit = true) :
    digit? c = some (c.toNat - '0'.toNat) := if_pos h

theorem digit?_of_not_isDigit {c : Char} (h : ¬ c.isDigit = true) : digit? c = none := if_neg h

theorem digit?_lt (c : Char) : (digit? c).getD 0 < 10 := by
  unfold digit?
  split
  · rename_i h
    rw [Char.isDigit, Bool.and_eq_true, decide_eq_true_eq, decide_eq_true_eq] at h
    have hhigh : c.toNat ≤ 57 := h.2
    have hzero : '0'.toNat = 48 := rfl
    simp only [Option.getD_some]
    omega
  · decide

theorem spelledNumber_lt (a b : Char) : spelledNumber a b < 100 := by
  have ha := digit?_lt a
  have hb := digit?_lt b
  unfold spelledNumber
  omega

theorem parseTwo_eq_some_iff {a b : Char} {n : Nat} :
    parseTwo a b = some n ↔
      (a = '+' ∨ a.isDigit = true) ∧ b.isDigit = true ∧ spelledNumber a b = n := by
  unfold parseTwo spelledNumber
  by_cases hb : b.isDigit = true
  · rw [digit?_of_isDigit hb]
    by_cases hplus : a = '+'
    · have hnone : digit? '+' = none := rfl
      simp [hplus, hb, hnone]
    · by_cases ha : a.isDigit = true
      · simp [hplus, ha, hb, digit?_of_isDigit ha]
      · simp [hplus, ha, digit?_of_not_isDigit ha]
  · simp [hb, digit?_of_not_isDigit hb]

theorem digitChar_digit {c : Char} (h : c.isDigit = true) : digitChar ((digit? c).getD 0) = c := by
  rw [digit?_of_isDigit h, Option.getD_some]
  rw [Char.isDigit, Bool.and_eq_true, decide_eq_true_eq, decide_eq_true_eq] at h
  have hlow : 48 ≤ c.toNat := h.1
  have hzero : '0'.toNat = 48 := rfl
  have hsum : '0'.toNat + (c.toNat - '0'.toNat) = c.toNat := by omega
  unfold digitChar
  rw [hsum, Char.ofNat_toNat]

theorem twoDigits_spelled_iff {a b : Char} (ha : a = '+' ∨ a.isDigit = true)
    (hb : b.isDigit = true) : twoDigits (spelledNumber a b) = [a, b] ↔ a ≠ '+' := by
  rw [twoDigits_eq _ (spelledNumber_lt a b)]
  have hlow := digit?_lt b
  have hhigh : spelledNumber a b / 10 = (digit? a).getD 0 := by
    unfold spelledNumber
    omega
  have hrest : spelledNumber a b % 10 = (digit? b).getD 0 := by
    unfold spelledNumber
    omega
  rw [hhigh, hrest, digitChar_digit hb]
  rcases ha with rfl | ha
  · refine iff_of_false ?_ (fun h => h rfl)
    intro h
    exact absurd (List.cons.inj h).1 (by decide)
  · rw [digitChar_digit ha]
    refine iff_of_true rfl ?_
    rintro rfl
    exact absurd ha (by decide)

namespace WireField

variable {f : WireField} {total : Nat}

theorem WellFormed.readable (h : f.WellFormed) : f.Readable :=
  ⟨.inr h.tag1, h.tag2, .inr h.len1, h.len2, h.length⟩

theorem Readable.wellFormed (h : f.Readable) (hplain : f.Plain) : f.WellFormed :=
  ⟨h.tag1.resolve_left hplain.1, h.tag2, h.len1.resolve_left hplain.2.1, h.len2, h.length⟩

theorem parse_field (h : f.Readable) (rest : List Char) :
    parseTlvsFrom total (f.text ++ rest) =
      match parseTlvsFrom total rest with
      | .error e => .error e
      | .ok others => .ok (f.tlv :: others) := by
  have htag := parseTwo_eq_some_iff.mpr ⟨h.tag1, h.tag2, rfl⟩
  have hlen := parseTwo_eq_some_iff.mpr ⟨h.len1, h.len2, h.length⟩
  simp only [text, List.cons_append]
  rw [parseTlvsFrom, htag, hlen]
  simp only [List.drop_left, List.take_left, List.length_append, Nat.not_lt.mpr (Nat.le_add_right ..),
    if_false]
  rfl

theorem length_written_iff (h : f.Readable) (hlen : byteLen f.value < 100) :
    twoDigits (byteLen f.value) = [f.len1, f.len2] ↔ f.len1 ≠ '+' ∧ isAscii f.value = true := by
  rw [← byteLen_eq_length_iff, ← h.length]
  constructor
  · intro htext
    have hread := parseTwo_twoDigits _ hlen
    rw [twoDigits_eq _ hlen] at htext
    obtain ⟨hfirst, hlast⟩ := List.cons.inj htext
    rw [hfirst, (List.cons.inj hlast).1] at hread
    have hsame := (parseTwo_eq_some_iff.mp hread).2.2
    rw [← twoDigits_eq _ hlen, ← hsame] at htext
    exact ⟨(twoDigits_spelled_iff h.len1 h.len2).mp htext, hsame.symm⟩
  · intro hplain
    rw [hplain.2]
    exact (twoDigits_spelled_iff h.len1 h.len2).mpr hplain.1

theorem encode_field_iff (h : f.Readable) (rest others : List Char) :
    (encodeField f.tlv.tag f.tlv.value.toList).map (· ++ rest) = some (f.text ++ others) ↔
      f.Plain ∧ rest = others := by
  unfold tlv
  dsimp only
  rw [String.toList_ofList]
  unfold encodeField
  have htag := twoDigits_spelled_iff h.tag1 h.tag2
  rw [twoDigits_eq _ (spelledNumber_lt _ _)] at htag ⊢
  by_cases hlen : byteLen f.value ≤ 99
  · have hlength := length_written_iff h (by omega)
    rw [twoDigits_eq _ (by omega)] at hlength ⊢
    simp only [List.cons.injEq, and_true] at htag hlength
    simp only [if_pos hlen, Option.map_some, Option.some.injEq, text, List.cons_append,
      List.nil_append, List.cons.injEq, List.append_cancel_left_eq, Plain, ← htag, ← hlength,
      and_assoc]
  · refine iff_of_false (by simp [hlen]) ?_
    intro hplain
    have hbytes := (byteLen_eq_length_iff f.value).mpr hplain.1.2.2
    have hsmall := spelledNumber_lt f.len1 f.len2
    rw [h.length] at hsmall
    omega

theorem encode_fields_iff {spelled : List WireField} (h : ∀ f ∈ spelled, f.Readable) :
    encodeFields (spelled.map tlv) = some (spelled.flatMap text) ↔ ∀ f ∈ spelled, f.Plain := by
  induction spelled with
  | nil => simp [encodeFields]
  | cons f rest ih =>
    obtain ⟨hf, hrest⟩ := List.forall_mem_cons.mp h
    have ih := ih hrest
    rw [List.forall_mem_cons, ← ih, List.map_cons, List.flatMap_cons]
    cases hothers : encodeFields (rest.map tlv) with
    | none => simp [encodeFields, hothers]
    | some others =>
      rw [Option.some.injEq, ← encode_field_iff hf]
      simp only [encodeFields, hothers]
      cases encodeField f.tlv.tag f.tlv.value.toList <;> simp

end WireField

theorem parseTlvs_ok_iff {payload : List Char} {fields : List Tlv} :
    parseTlvs payload = .ok fields ↔
      ∃ spelled : List WireField, (∀ f ∈ spelled, f.Readable) ∧
        payload = spelled.flatMap WireField.text ∧ fields = spelled.map WireField.tlv := by
  unfold parseTlvs
  generalize payload.length = total
  constructor
  · intro h
    fun_induction parseTlvsFrom total payload generalizing fields with
    | case1 =>
      cases h
      exact ⟨[], by simp, rfl, rfl⟩
    | case2 | case3 | case4 | case5 | case7 => cases h
    | case6 t1 t2 l1 l2 rest tag htag len hlen hshort others hothers ih =>
      cases h
      obtain ⟨spelled, hread, hrest, rfl⟩ := ih hothers
      obtain ⟨ht1, ht2, htag⟩ := parseTwo_eq_some_iff.mp htag
      obtain ⟨hl1, hl2, hlen⟩ := parseTwo_eq_some_iff.mp hlen
      have hvalue : (rest.take len).length = len := by
        rw [List.length_take]
        omega
      refine ⟨⟨t1, t2, l1, l2, rest.take len⟩ :: spelled,
        List.forall_mem_cons.mpr ⟨⟨ht1, ht2, hl1, hl2, hlen.trans hvalue.symm⟩, hread⟩, ?_, ?_⟩
      · simp [WireField.text, ← hrest]
      · simp [WireField.tlv, htag]
  · intro h
    obtain ⟨spelled, hread, rfl, rfl⟩ := h
    induction spelled with
    | nil => simp [parseTlvsFrom]
    | cons f rest ih =>
      obtain ⟨hf, hrest⟩ := List.forall_mem_cons.mp hread
      rw [List.flatMap_cons, WireField.parse_field hf, ih hrest]
      rfl

/-- The parser is the grammar's, and what it reads is encoded back, exactly for a text that
does not read as fields with a plus sign in a number or a value outside ASCII. -/
theorem read_as_spelled_iff (payload : List Char) :
    ReadAsSpelled payload ↔ PlainlySpelled payload := by
  constructor
  · intro h spelled hread htext
    have hparse := parseTlvs_ok_iff.mpr ⟨spelled, hread, htext, rfl⟩
    have hencode := h.2 _ hparse
    rw [htext] at hencode
    exact (WireField.encode_fields_iff hread).mp hencode
  · intro h
    refine ⟨?_, ?_⟩
    · intro fields
      rw [parseTlvs_ok_iff]
      constructor
      · intro hread
        obtain ⟨spelled, hread, htext, hfields⟩ := hread
        have hplain := h spelled hread htext
        exact ⟨spelled, fun f hf => (hread f hf).wellFormed (hplain f hf), htext, hfields⟩
      · intro hformed
        obtain ⟨spelled, hformed, htext, hfields⟩ := hformed
        exact ⟨spelled, fun f hf => (hformed f hf).readable, htext, hfields⟩
    · intro fields hparse
      obtain ⟨spelled, hread, rfl, rfl⟩ := parseTlvs_ok_iff.mp hparse
      exact (WireField.encode_fields_iff hread).mpr (h spelled hread rfl)

/-- A plus sign stands for a digit of the tag. -/
theorem signed_tag_accepted : ¬ ReadAsSpelled "+501x".toList := by
  intro h
  have hparse : parseTlvs "+501x".toList = .ok [⟨5, "x"⟩] := by
    simp [parseTlvs, parseTlvsFrom, parseTwo, digit?]
  exact absurd (h.2 _ hparse) (by decide)

end OzPos
