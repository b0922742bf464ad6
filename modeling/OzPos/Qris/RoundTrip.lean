import OzPos.Qris.Payload

namespace OzPos

/-- Printing does not panic, and the print is read back as the payload. -/
def RoundTrips (p : QrisPayload) : Prop :=
  ∃ text, p.toQrisString = some text ∧ QrisPayload.parse text = some (.ok p)

def wireLength (fields : List Tlv) : Nat :=
  (fields.map (fun f => 4 + f.value.toList.length)).sum

/-- An ASCII text no longer than two digits can say. -/
def TextFits (text : String) : Prop := isAscii text.toList = true ∧ text.toList.length ≤ 99

/-- A nested template of ASCII texts, short enough as a whole. -/
def TemplateFits (fields : List Tlv) : Prop :=
  (∀ f ∈ fields, isAscii f.value.toList = true) ∧ wireLength fields ≤ 99

/-- Tags that `from_tlvs` keeps as unknown. -/
def isExtraTag (tag : Nat) : Bool := tag ≠ 0 && tag ≠ 1 && !(26 ≤ tag && tag ≤ 63)

namespace QrisPayload

def texts (p : QrisPayload) : List String :=
  [p.merchantCategoryCode, p.currency, p.countryCode, p.merchantName, p.merchantCity] ++
    p.amount.toList ++ (tipFields p.tip).map Tlv.value ++ p.postalCode.toList ++ p.extra.map Prod.snd

/-- What a payload has to be for its print to be read back. -/
structure Encodable (p : QrisPayload) : Prop where
  nmid : ∃ first rest, p.merchantAccounts = first :: rest ∧ first.nmid ≠ ""
  accounts : ∀ a ∈ p.merchantAccounts, 26 ≤ a.tag ∧ a.tag ≤ 51 ∧ TemplateFits a.fields ∧
    ∀ t ∈ a.extraSubTags, 3 < t.1 ∧ t.1 < 100
  additional : ∀ d, p.additionalData = some d → d.isEmpty = false ∧ TemplateFits d.fields ∧
    ∀ t ∈ d.extra, (t.1 = 0 ∨ 8 < t.1) ∧ t.1 < 100
  texts : ∀ text ∈ p.texts, TextFits text
  extra : ∀ t ∈ p.extra, isExtraTag t.1 = true ∧ t.1 < 100

end QrisPayload

theorem isAscii_append (l r : List Char) : isAscii (l ++ r) = (isAscii l && isAscii r) := by
  simp [isAscii]

theorem twoDigits_ascii (n : Nat) (h : n < 100) :
    isAscii (twoDigits n) = true ∧ (twoDigits n).length = 2 := by
  have hhigh := digitChar_ascii (n / 10) (by omega)
  have hlow := digitChar_ascii (n % 10) (by omega)
  rw [twoDigits_eq n h]
  simp [isAscii, hhigh, hlow]

theorem encodeField_fits {tag : Nat} {value : String} (htag : tag < 100) (h : TextFits value) :
    ∃ text, encodeField tag value.toList = some text ∧ isAscii text = true ∧
      text.length = 4 + value.toList.length := by
  have hbytes := (byteLen_eq_length_iff value.toList).mpr h.1
  have hlen := h.2
  obtain ⟨htag1, htag2⟩ := twoDigits_ascii tag htag
  obtain ⟨hlen1, hlen2⟩ := twoDigits_ascii (byteLen value.toList) (by omega)
  refine ⟨_, if_pos (by omega), ?_, ?_⟩
  · simp [isAscii_append, htag1, hlen1, h.1]
  · simp [htag2, hlen2]
    omega

variable {fields : List Tlv}

theorem encodeFields_fits (htags : ∀ f ∈ fields, f.tag < 100) (h : ∀ f ∈ fields, TextFits f.value) :
    ∃ text, encodeFields fields = some text ∧ isAscii text = true ∧
      text.length = wireLength fields := by
  induction fields with
  | nil => exact ⟨[], rfl, rfl, rfl⟩
  | cons f fields ih =>
    obtain ⟨first, hfirst, hascii1, hlen1⟩ :=
      encodeField_fits (htags f (List.mem_cons_self ..)) (h f (List.mem_cons_self ..))
    obtain ⟨rest, hrest, hascii2, hlen2⟩ := ih (fun g hg => htags g (List.mem_cons_of_mem _ hg))
      (fun g hg => h g (List.mem_cons_of_mem _ hg))
    refine ⟨first ++ rest, ?_, ?_, ?_⟩
    · simp [encodeFields, hfirst, hrest]
    · rw [isAscii_append, hascii1, hascii2]
      rfl
    · simp [wireLength, hlen1, hlen2]

theorem length_le_wireLength {f : Tlv} (h : f ∈ fields) :
    4 + f.value.toList.length ≤ wireLength fields := by
  induction fields with
  | nil => simp at h
  | cons g fields ih =>
    simp only [wireLength, List.map_cons, List.sum_cons] at ih ⊢
    rcases List.mem_cons.mp h with rfl | h
    · omega
    · have := ih h
      omega

theorem nestedField_fits (tag : Nat) (htags : ∀ f ∈ fields, f.tag < 100) (h : TemplateFits fields) :
    ∃ field, QrisPayload.nestedField tag fields = some field ∧ field.tag = tag ∧
      TextFits field.value ∧ parseTlvs field.value.toList = .ok fields := by
  have hfits : ∀ f ∈ fields, TextFits f.value := by
    intro f hf
    have hlen := length_le_wireLength hf
    have hall := h.2
    exact ⟨h.1 f hf, by omega⟩
  obtain ⟨text, htext, hascii, hlen⟩ := encodeFields_fits htags hfits
  refine ⟨⟨tag, String.ofList text⟩, ?_, rfl, ?_, ?_⟩
  · simp [QrisPayload.nestedField, htext]
  · have hall := h.2
    simp only [TextFits, String.toList_ofList]
    exact ⟨hascii, by omega⟩
  · have hparse : parseTlvsFrom text.length (text ++ []) = _ :=
      parseTlvsFrom_encodeFields htags h.1 htext
    simpa [parseTlvs, parseTlvsFrom] using hparse

namespace MerchantAccountInfo

theorem foldl_extra (extra : List (Nat × String)) (account : MerchantAccountInfo)
    (h : ∀ t ∈ extra, 3 < t.1) :
    (extra.map (fun t => (⟨t.1, t.2⟩ : Tlv))).foldl readSub account =
      { account with extraSubTags := account.extraSubTags ++ extra } := by
  induction extra generalizing account with
  | nil => simp
  | cons t extra ih =>
    have htag := h t (List.mem_cons_self ..)
    have hread : account.readSub ⟨t.1, t.2⟩ =
        { account with extraSubTags := account.extraSubTags ++ [t] } := by
      unfold readSub
      split <;> first | rfl | (simp only at *; omega)
    rw [List.map_cons, List.foldl_cons, hread, ih _ (fun u hu => h u (List.mem_cons_of_mem _ hu))]
    simp

variable (account : MerchantAccountInfo)

theorem foldl_fields (h : ∀ t ∈ account.extraSubTags, 3 < t.1) :
    account.fields.foldl readSub ⟨account.tag, "", none, "", none, []⟩ = account := by
  obtain ⟨tag, guid, pan, nmid, criteria, extra⟩ := account
  cases pan with
  | none =>
    cases criteria with
    | none => simp [fields, readSub, foldl_extra extra _ h]
    | some criteria => simp [fields, readSub, foldl_extra extra _ h]
  | some pan =>
    cases criteria with
    | none => simp [fields, readSub, foldl_extra extra _ h]
    | some criteria => simp [fields, readSub, foldl_extra extra _ h]

theorem fields_tags (h : ∀ t ∈ account.extraSubTags, t.1 < 100) :
    ∀ f ∈ account.fields, f.tag < 100 := by
  intro f hf
  simp only [fields, List.mem_cons, List.mem_append, List.mem_map, Option.mem_toList] at hf
  rcases hf with rfl | ⟨pan, _, rfl⟩ | rfl | ⟨criteria, _, rfl⟩ | ⟨t, ht, rfl⟩
  · exact Nat.zero_lt_succ 99
  · exact Nat.lt_of_sub_pos (Nat.zero_lt_succ 98)
  · exact Nat.lt_of_sub_pos (Nat.zero_lt_succ 97)
  · exact Nat.lt_of_sub_pos (Nat.zero_lt_succ 96)
  · exact h t ht

end MerchantAccountInfo

namespace AdditionalData

theorem foldl_extra (extra : List (Nat × String)) (data : AdditionalData)
    (h : ∀ t ∈ extra, t.1 = 0 ∨ 8 < t.1) :
    (extra.map (fun t => (⟨t.1, t.2⟩ : Tlv))).foldl readSub data =
      { data with extra := data.extra ++ extra } := by
  induction extra generalizing data with
  | nil => simp
  | cons t extra ih =>
    have htag := h t (List.mem_cons_self ..)
    have hread : data.readSub ⟨t.1, t.2⟩ = { data with extra := data.extra ++ [t] } := by
      unfold readSub
      split <;> first | rfl | (simp only at *; omega)
    rw [List.map_cons, List.foldl_cons, hread, ih _ (fun u hu => h u (List.mem_cons_of_mem _ hu))]
    simp

variable (data : AdditionalData)

theorem foldl_label (tag : Nat) (value : Option String) :
    (value.toList.map (fun v => (⟨tag, v⟩ : Tlv))).foldl readSub data =
      value.elim data (fun v => data.readSub ⟨tag, v⟩) := by
  cases value <;> rfl

theorem foldl_fields (h : ∀ t ∈ data.extra, t.1 = 0 ∨ 8 < t.1) :
    data.fields.foldl readSub empty = data := by
  obtain ⟨bill, mobile, store, loyalty, reference, customer, terminal, purpose, extra⟩ := data
  have hlabels : (labels ⟨bill, mobile, store, loyalty, reference, customer, terminal, purpose,
      extra⟩).foldl (fun data label => label.2.elim data (fun v => data.readSub ⟨label.1, v⟩))
        empty =
      ⟨bill, mobile, store, loyalty, reference, customer, terminal, purpose, []⟩ := by
    -- one label after the other, each found or absent
    have hstep : ∀ (start : AdditionalData) (tag : Nat) (value : Option String)
        (set : Option String → AdditionalData), start = set none →
        (∀ v, start.readSub ⟨tag, v⟩ = set (some v)) →
        value.elim start (fun v => start.readSub ⟨tag, v⟩) = set value := by
      intro start tag value set hnone hsome
      cases value with
      | none => exact hnone
      | some v => exact hsome v
    have h1 := hstep empty 1 bill
      (fun v => ⟨v, none, none, none, none, none, none, none, []⟩) rfl (fun _ => rfl)
    have h2 := hstep ⟨bill, none, none, none, none, none, none, none, []⟩ 2 mobile
      (fun v => ⟨bill, v, none, none, none, none, none, none, []⟩) rfl (fun _ => rfl)
    have h3 := hstep ⟨bill, mobile, none, none, none, none, none, none, []⟩ 3 store
      (fun v => ⟨bill, mobile, v, none, none, none, none, none, []⟩) rfl (fun _ => rfl)
    have h4 := hstep ⟨bill, mobile, store, none, none, none, none, none, []⟩ 4 loyalty
      (fun v => ⟨bill, mobile, store, v, none, none, none, none, []⟩) rfl (fun _ => rfl)
    have h5 := hstep ⟨bill, mobile, store, loyalty, none, none, none, none, []⟩ 5 reference
      (fun v => ⟨bill, mobile, store, loyalty, v, none, none, none, []⟩) rfl (fun _ => rfl)
    have h6 := hstep ⟨bill, mobile, store, loyalty, reference, none, none, none, []⟩ 6 customer
      (fun v => ⟨bill, mobile, store, loyalty, reference, v, none, none, []⟩) rfl (fun _ => rfl)
    have h7 := hstep ⟨bill, mobile, store, loyalty, reference, customer, none, none, []⟩ 7 terminal
      (fun v => ⟨bill, mobile, store, loyalty, reference, customer, v, none, []⟩) rfl (fun _ => rfl)
    have h8 := hstep ⟨bill, mobile, store, loyalty, reference, customer, terminal, none, []⟩ 8 purpose
      (fun v => ⟨bill, mobile, store, loyalty, reference, customer, terminal, v, []⟩) rfl (fun _ => rfl)
    simp only [labels, List.foldl_cons, List.foldl_nil]
    rw [h1, h2, h3, h4, h5, h6, h7, h8]
  have hfold : ∀ (pairs : List (Nat × Option String)) (start : AdditionalData),
      (pairs.flatMap (fun label => label.2.toList.map (fun v => (⟨label.1, v⟩ : Tlv)))).foldl
        readSub start =
      pairs.foldl (fun data label => label.2.elim data (fun v => data.readSub ⟨label.1, v⟩))
        start := by
    intro pairs
    induction pairs with
    | nil => exact fun _ => rfl
    | cons label pairs ih =>
      intro start
      rw [List.flatMap_cons, List.foldl_append, foldl_label, ih, List.foldl_cons]
  rw [fields, List.foldl_append, hfold, hlabels, foldl_extra extra _ h]
  simp

theorem fields_tags (h : ∀ t ∈ data.extra, t.1 < 100) : ∀ f ∈ data.fields, f.tag < 100 := by
  intro f hf
  simp only [fields, List.mem_append, List.mem_flatMap, List.mem_map] at hf
  rcases hf with ⟨label, hlabel, v, _, rfl⟩ | ⟨t, ht, rfl⟩
  · have hall : ∀ l ∈ data.labels, l.1 < 100 := by simp [labels]
    exact hall label hlabel
  · exact h t ht

end AdditionalData

theorem readAll_append (l r : List Tlv) (s : ParseState) :
    ParseState.readAll (l ++ r) s =
      match ParseState.readAll l s with
      | .error e => .error e
      | .ok next => ParseState.readAll r next := by
  induction l generalizing s with
  | nil => rfl
  | cons f l ih =>
    simp only [List.cons_append, ParseState.readAll]
    cases ParseState.read s f with
    | error e => rfl
    | ok next => exact ih next

theorem readAll_then {l r : List Tlv} {s next : ParseState}
    (h : ParseState.readAll l s = .ok next) :
    ParseState.readAll (l ++ r) s = ParseState.readAll r next := by
  rw [readAll_append, h]

theorem read_account {account : MerchantAccountInfo} {field : Tlv} (s : ParseState)
    (hlow : 26 ≤ account.tag) (hhigh : account.tag ≤ 51) (htag : field.tag = account.tag)
    (hsubs : ∀ t ∈ account.extraSubTags, 3 < t.1)
    (hparse : parseTlvs field.value.toList = .ok account.fields) :
    s.read field = .ok { s with merchantAccounts := s.merchantAccounts ++ [account] } := by
  have hslot : ParseState.isAccountTag field.tag = true := by
    simp [ParseState.isAccountTag, htag, hlow, hhigh]
  have hnested : MerchantAccountInfo.fromNested field.tag field.value = .ok account := by
    rw [MerchantAccountInfo.fromNested, hparse, htag]
    exact congrArg Except.ok (account.foldl_fields hsubs)
  rw [ParseState.read, if_pos hslot, hnested]
  rfl

theorem accountFields_fits {accounts : List MerchantAccountInfo}
    (h : ∀ a ∈ accounts, 26 ≤ a.tag ∧ a.tag ≤ 51 ∧ TemplateFits a.fields ∧
      ∀ t ∈ a.extraSubTags, 3 < t.1 ∧ t.1 < 100) :
    ∃ fields, QrisPayload.accountFields accounts = some fields ∧
      (∀ f ∈ fields, f.tag < 100 ∧ TextFits f.value) ∧
      ∀ s, ParseState.readAll fields s =
        .ok { s with merchantAccounts := s.merchantAccounts ++ accounts } := by
  induction accounts with
  | nil => exact ⟨[], rfl, by simp, fun s => by simp [ParseState.readAll]⟩
  | cons account accounts ih =>
    obtain ⟨hlow, hhigh, hfits, hsubs⟩ := h account (List.mem_cons_self ..)
    obtain ⟨rest, hrest, hrestFits, hrestRead⟩ := ih (fun a ha => h a (List.mem_cons_of_mem _ ha))
    obtain ⟨field, hfield, htag, hvalue, hparse⟩ := nestedField_fits account.tag
      (account.fields_tags (fun t ht => (hsubs t ht).2)) hfits
    refine ⟨field :: rest, ?_, ?_, ?_⟩
    · simp [QrisPayload.accountFields, hfield, hrest]
    · intro f hf
      rcases List.mem_cons.mp hf with rfl | hf
      · exact ⟨by omega, hvalue⟩
      · exact hrestFits f hf
    · intro s
      have hread := read_account s hlow hhigh htag (fun t ht => (hsubs t ht).1) hparse
      simp [ParseState.readAll, hread, hrestRead]

theorem additionalFields_fits {additional : Option AdditionalData}
    (h : ∀ d, additional = some d → d.isEmpty = false ∧ TemplateFits d.fields ∧
      ∀ t ∈ d.extra, (t.1 = 0 ∨ 8 < t.1) ∧ t.1 < 100) :
    ∃ fields, QrisPayload.additionalFields additional = some fields ∧
      (∀ f ∈ fields, f.tag < 100 ∧ TextFits f.value) ∧
      ∀ s : ParseState, s.additionalData = none → ParseState.readAll fields s =
        .ok { s with additionalData := additional } := by
  cases additional with
  | none =>
    refine ⟨[], rfl, by simp, fun s hs => ?_⟩
    rw [ParseState.readAll, ← hs]
  | some data =>
    obtain ⟨hempty, hfits, hextra⟩ := h data rfl
    obtain ⟨field, hfield, htag, hvalue, hparse⟩ := nestedField_fits 62
      (data.fields_tags (fun t ht => (hextra t ht).2)) hfits
    refine ⟨[field], ?_, ?_, ?_⟩
    · simp [QrisPayload.additionalFields, hempty, hfield]
    · intro f hf
      rw [List.mem_singleton.mp hf]
      exact ⟨by omega, hvalue⟩
    · intro s _
      have hnested : AdditionalData.fromNested field.value = .ok data := by
        rw [AdditionalData.fromNested, hparse]
        exact congrArg Except.ok (data.foldl_fields (fun t ht => (hextra t ht).1))
      have hread : s.read field = .ok { s with additionalData := some data } := by
        rw [ParseState.read, htag, if_neg (by decide), hnested]
        rfl
      simp [ParseState.readAll, hread]

theorem readAll_extra {extra : List (Nat × String)} (h : ∀ t ∈ extra, isExtraTag t.1 = true)
    (s : ParseState) :
    ParseState.readAll (extra.map (fun t => ⟨t.1, t.2⟩)) s =
      .ok { s with extra := s.extra ++ extra } := by
  induction extra generalizing s with
  | nil => simp [ParseState.readAll]
  | cons t extra ih =>
    have htag := h t (List.mem_cons_self ..)
    have hread : s.read ⟨t.1, t.2⟩ = .ok { s with extra := s.extra ++ [t] } := by
      simp only [isExtraTag, Bool.and_eq_true, decide_eq_true_eq, Bool.not_eq_true',
        Bool.and_eq_false_iff, decide_eq_false_iff_not, ne_eq] at htag
      have hslot : ParseState.isAccountTag t.1 = false := by
        simp only [ParseState.isAccountTag, Bool.and_eq_false_iff, decide_eq_false_iff_not]
        omega
      simp only [ParseState.read, hslot, Bool.false_eq_true, if_false]
      split <;> first | rfl | omega
    simp [ParseState.readAll, hread, ih (fun u hu => h u (List.mem_cons_of_mem _ hu))]

namespace QrisPayload

variable (p : QrisPayload)

def headerFields : List Tlv :=
  ⟨52, p.merchantCategoryCode⟩ :: ⟨53, p.currency⟩ ::
    (p.amount.toList.map (fun amount => ⟨54, amount⟩) ++ (tipFields p.tip ++
      (⟨58, p.countryCode⟩ :: ⟨59, p.merchantName⟩ :: ⟨60, p.merchantCity⟩ ::
        p.postalCode.toList.map (fun code => ⟨61, code⟩))))

def printOf (accounts additional : List Tlv) : List Tlv :=
  ⟨0, "01"⟩ :: ⟨1, p.initiation.toWire⟩ :: (accounts ++ (p.headerFields ++
    (additional ++ p.extra.map (fun t => ⟨t.1, t.2⟩))))

theorem fields_eq :
    p.fields =
      match accountFields p.merchantAccounts, additionalFields p.additionalData with
      | some accounts, some additional => some (p.printOf accounts additional)
      | _, _ => none := by
  unfold fields printOf headerFields
  cases accountFields p.merchantAccounts <;> cases additionalFields p.additionalData <;> simp

theorem headerFields_tags : ∀ f ∈ p.headerFields, 52 ≤ f.tag ∧ f.tag ≤ 61 := by
  have htip : ∀ f ∈ tipFields p.tip, 52 ≤ f.tag ∧ f.tag ≤ 61 := by
    cases p.tip with
    | none => simp [tipFields]
    | some tip => cases tip <;> simp [tipFields]
  intro f hf
  simp only [headerFields, List.mem_cons, List.mem_append, List.mem_map] at hf
  rcases hf with rfl | rfl | ⟨v, _, rfl⟩ | hf | rfl | rfl | rfl | ⟨v, _, rfl⟩
  case inr.inr.inr.inl => exact htip f hf
  all_goals exact ⟨by simp, by simp⟩

theorem headerFields_texts (h : ∀ text ∈ p.texts, TextFits text) :
    ∀ f ∈ p.headerFields, TextFits f.value := by
  intro f hf
  apply h
  simp only [headerFields, List.mem_cons, List.mem_append, List.mem_map] at hf
  simp only [texts, List.mem_cons, List.mem_append, List.mem_map]
  rcases hf with rfl | rfl | ⟨v, hv, rfl⟩ | hf | rfl | rfl | rfl | ⟨v, hv, rfl⟩
  · simp
  · simp
  · simp [hv]
  · exact Or.inl (Or.inl (Or.inr ⟨f, hf, rfl⟩))
  · simp
  · simp
  · simp
  · simp [hv]

theorem readAll_header (hnmid : ∃ first rest,
    p.merchantAccounts = first :: rest ∧ first.nmid ≠ "") :
    ∃ s, ParseState.readAll p.headerFields
        { ParseState.start with
          initiation := p.initiation, merchantAccounts := p.merchantAccounts } = .ok s ∧
      s.additionalData = none ∧ s.extra = [] ∧
      ({ s with additionalData := p.additionalData, extra := p.extra } : ParseState).finish =
        .ok p := by
  obtain ⟨first, rest, haccounts, hne⟩ := hnmid
  obtain ⟨initiation, accounts, category, currency, amount, tip, country, name, city, postal,
    additional, extra⟩ := p
  simp only at haccounts
  subst haccounts
  rcases amount with _ | amount <;> rcases tip with _ | ⟨_ | _⟩ <;> rcases postal with _ | postal <;>
    exact ⟨_, rfl, rfl, rfl, by simp [ParseState.finish, hne, ParseState.readTip]; rfl⟩

end QrisPayload

theorem isAscii_crcHex (crc : UInt16) : isAscii (crcHex crc) = true := by
  have hlt := crc.toNat_lt
  have hchar : ∀ n < 16, (hexChar n).toNat < 128 := by decide
  have h1 := hchar (crc.toNat / 4096) (by omega)
  have h2 := hchar (crc.toNat / 256 % 16) (by omega)
  have h3 := hchar (crc.toNat / 16 % 16) (by omega)
  have h4 := hchar (crc.toNat % 16) (by omega)
  simp [isAscii, crcHex, h1, h2, h3, h4]

theorem appendCrc_field (text : List Char) :
    ∃ crc field, isAscii crc = true ∧ isAscii field = true ∧ encodeField 63 crc = some field ∧
      appendCrc text = text ++ field := by
  have hlen : byteLen (crcHex (crc16Ccitt (text ++ ['6', '3', '0', '4']))) = 4 := byteLen_crcHex _
  have hascii := isAscii_crcHex (crc16Ccitt (text ++ ['6', '3', '0', '4']))
  have htag : twoDigits 63 = ['6', '3'] := by decide
  have hfour : twoDigits 4 = ['0', '4'] := by decide
  have hhead : isAscii ['6', '3', '0', '4'] = true := by decide
  refine ⟨_, _, hascii, ?_, if_pos (by omega), ?_⟩
  · rw [hlen, htag, hfour]
    exact (isAscii_append _ _).trans (by rw [hascii]; exact hhead)
  · simp [appendCrc, hlen, htag, hfour]

theorem parse_fields {text : List Char} (htags : ∀ f ∈ fields, f.tag < 100)
    (hascii : ∀ f ∈ fields, isAscii f.value.toList = true)
    (henc : encodeFields fields = some text) :
    ∃ crc, parseTlvs (appendCrc text) = .ok (fields ++ [⟨63, crc⟩]) := by
  obtain ⟨crc, field, hcrc, _, hfield, htext⟩ := appendCrc_field text
  refine ⟨String.ofList crc, ?_⟩
  have hlast : parseTlvsFrom (appendCrc text).length (field ++ []) = _ :=
    parseTlvsFrom_ascii (by omega) hcrc hfield
  rw [parseTlvsFrom, List.append_nil] at hlast
  rw [parseTlvs, htext] at *
  rw [parseTlvsFrom_encodeFields htags hascii henc, hlast]

theorem readAll_print {p : QrisPayload} {accounts additional : List Tlv} {s : ParseState}
    (crc : String)
    (haccounts : ∀ s, ParseState.readAll accounts s =
      .ok { s with merchantAccounts := s.merchantAccounts ++ p.merchantAccounts })
    (hheader : ParseState.readAll p.headerFields
      { ParseState.start with
        initiation := p.initiation, merchantAccounts := p.merchantAccounts } = .ok s)
    (hadditional : ∀ s : ParseState, s.additionalData = none →
      ParseState.readAll additional s = .ok { s with additionalData := p.additionalData })
    (hextra : ∀ t ∈ p.extra, isExtraTag t.1 = true)
    (hnone : s.additionalData = none) (hnil : s.extra = []) :
    ParseState.readAll (p.printOf accounts additional ++ [⟨63, crc⟩]) .start =
      .ok { s with additionalData := p.additionalData, extra := p.extra } := by
  have hinitiation : InitiationMethod.fromWire p.initiation.toWire = p.initiation := by
    cases p.initiation <;> rfl
  have hfirst : ParseState.readAll [⟨0, "01"⟩, ⟨1, p.initiation.toWire⟩] .start =
      .ok { ParseState.start with initiation := p.initiation } := by
    rw [← hinitiation]
    cases p.initiation <;> rfl
  have hslots := haccounts { ParseState.start with initiation := p.initiation }
  have hlast : ∀ s, ParseState.readAll [⟨63, crc⟩] s = .ok s := fun _ => rfl
  have hsplit : p.printOf accounts additional ++ [⟨63, crc⟩] =
      [⟨0, "01"⟩, ⟨1, p.initiation.toWire⟩] ++ (accounts ++ (p.headerFields ++ (additional ++
        (p.extra.map (fun t => ⟨t.1, t.2⟩) ++ [⟨63, crc⟩])))) := by
    simp [QrisPayload.printOf]
  have hdone := readAll_extra hextra { s with additionalData := p.additionalData }
  rw [hsplit, readAll_then hfirst, readAll_then hslots]
  refine (readAll_then hheader).trans ?_
  rw [readAll_then (hadditional s hnone), readAll_then hdone, hlast]
  simp only [hnil, List.nil_append]

theorem encodable_round_trips {p : QrisPayload} (h : p.Encodable) : RoundTrips p := by
  obtain ⟨accounts, haccounts, haccountFits, haccountRead⟩ := accountFields_fits h.accounts
  obtain ⟨additional, hadditional, hadditionalFits, hadditionalRead⟩ :=
    additionalFields_fits h.additional
  obtain ⟨s, hs, hnone, hnil, hfinish⟩ := p.readAll_header h.nmid
  have hread := fun crc => readAll_print crc haccountRead hs hadditionalRead
    (fun t ht => (h.extra t ht).1) hnone hnil
  have hfields := p.fields_eq
  rw [haccounts, hadditional] at hfields
  have hwire : TextFits p.initiation.toWire ∧ TextFits "01" := by
    cases p.initiation <;> exact ⟨⟨by decide, by decide⟩, ⟨by decide, by decide⟩⟩
  have hextra : ∀ f ∈ p.extra.map (fun t => (⟨t.1, t.2⟩ : Tlv)), f.tag < 100 ∧
      TextFits f.value := by
    intro f hf
    obtain ⟨t, ht, rfl⟩ := List.mem_map.mp hf
    refine ⟨(h.extra t ht).2, h.texts t.2 ?_⟩
    simp only [QrisPayload.texts, List.mem_append, List.mem_map]
    exact Or.inr ⟨t, ht, rfl⟩
  have hfit : ∀ f ∈ p.printOf accounts additional, f.tag < 100 ∧ TextFits f.value := by
    intro f hf
    simp only [QrisPayload.printOf, List.mem_cons, List.mem_append] at hf
    rcases hf with rfl | rfl | hf | hf | hf | hf
    · exact ⟨by simp, hwire.2⟩
    · exact ⟨by simp, hwire.1⟩
    · exact haccountFits f hf
    · have := p.headerFields_tags f hf
      exact ⟨by omega, p.headerFields_texts h.texts f hf⟩
    · exact hadditionalFits f hf
    · exact hextra f hf
  obtain ⟨text, henc, _, _⟩ := encodeFields_fits (fun f hf => (hfit f hf).1)
    (fun f hf => (hfit f hf).2)
  obtain ⟨crc, hparse⟩ := parse_fields (fun f hf => (hfit f hf).1)
    (fun f hf => (hfit f hf).2.1) henc
  refine ⟨String.ofList (appendCrc text), ?_, ?_⟩
  · simp [QrisPayload.toQrisString, hfields, henc]
  · rw [QrisPayload.parse, String.toList_ofList, verifyCrc_appendCrc]
    simp only [hparse, QrisPayload.fromTlvs, hread, hfinish]

end OzPos
