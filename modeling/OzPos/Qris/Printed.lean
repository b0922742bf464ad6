import OzPos.Qris.Readback

namespace OzPos

namespace ParseState

def label (s : ParseState) (tag : Nat) : Option String :=
  match tag with
  | 52 => some s.merchantCategoryCode
  | 53 => some s.currency
  | 54 => s.amount
  | 55 => s.tipIndicator
  | 56 => s.feeFixed
  | 57 => s.feePercent
  | 58 => some s.countryCode
  | 59 => some s.merchantName
  | 60 => some s.merchantCity
  | 61 => s.postalCode
  | _ => none

variable {s : ParseState}

theorem read_cases {next : ParseState} {f : Tlv} (h : s.read f = .ok next) :
    (isAccountTag f.tag = true ∧ ∃ a, MerchantAccountInfo.fromNested f.tag f.value = .ok a ∧
      next = { s with merchantAccounts := s.merchantAccounts ++ [a] }) ∨
    (f.tag = 62 ∧ ∃ d, AdditionalData.fromNested f.value = .ok d ∧
      next = { s with additionalData := some d }) ∨
    (isExtraTag f.tag = true ∧ next = { s with extra := s.extra ++ [(f.tag, f.value)] }) ∨
    (isAccountTag f.tag = false ∧ f.tag ≠ 62 ∧ isExtraTag f.tag = false ∧
      next.merchantAccounts = s.merchantAccounts ∧ next.additionalData = s.additionalData ∧
      next.extra = s.extra ∧ ∀ tag, 52 ≤ tag → tag ≤ 61 →
        next.label tag = if f.tag = tag then some f.value else s.label tag) := by
  unfold read at h
  split at h
  · rename_i hslot
    cases hnested : MerchantAccountInfo.fromNested f.tag f.value with
    | error e =>
      rw [hnested] at h
      cases h
    | ok a =>
      rw [hnested] at h
      exact Or.inl ⟨hslot, a, rfl, (Except.ok.inj h).symm⟩
  · rename_i hslot
    split at h
    case h_13 heq =>
      cases hnested : AdditionalData.fromNested f.value with
      | error e =>
        rw [hnested] at h
        cases h
      | ok d =>
        rw [hnested] at h
        exact Or.inr (Or.inl ⟨heq, d, rfl, (Except.ok.inj h).symm⟩)
    case h_15 _ h0 h1 h52 h53 h54 h55 h56 h57 h58 h59 h60 h61 h62 h63 =>
      simp only [isAccountTag, Bool.and_eq_true, decide_eq_true_eq] at hslot
      simp only [imp_false] at h0 h1 h52 h53 h54 h55 h56 h57 h58 h59 h60 h61 h62 h63
      refine Or.inr (Or.inr (Or.inl ⟨?_, (Except.ok.inj h).symm⟩))
      simp only [isExtraTag, Bool.and_eq_true, decide_eq_true_eq, Bool.not_eq_true',
        Bool.and_eq_false_iff, decide_eq_false_iff_not, ne_eq]
      omega
    all_goals
      rename_i heq
      cases h
      refine Or.inr (Or.inr (Or.inr ⟨by simpa using hslot, by omega, by simp [isExtraTag, heq],
        rfl, rfl, rfl, ?_⟩))
      intro tag hlow hhigh
      obtain rfl | rfl | rfl | rfl | rfl | rfl | rfl | rfl | rfl | rfl : tag = 52 ∨ tag = 53 ∨
        tag = 54 ∨ tag = 55 ∨ tag = 56 ∨ tag = 57 ∨ tag = 58 ∨ tag = 59 ∨ tag = 60 ∨ tag = 61 := by
        omega
      all_goals simp [heq, label]

theorem readAll_eq_foldlM (fields : List Tlv) (s : ParseState) :
    readAll fields s = fields.foldlM read s := by
  induction fields generalizing s with
  | nil => rfl
  | cons f fields ih =>
    rw [List.foldlM_cons, readAll]
    cases s.read f with
    | error e => rfl
    | ok next => exact ih next

section

variable {got : List Tlv} {s : ParseState}

variable {tag : Nat}

theorem label_matches {start : ParseState} (h : readAll got start = .ok s) (hlow : 52 ≤ tag)
    (hhigh : tag ≤ 61) (hstart : ∀ v ∈ start.label tag, wideChars v.toList = 0) :
    Matches Eq (s.label tag).toList (valuesOf tag got) := by
  rw [readAll_eq_foldlM] at h
  refine matches_label (overwritten_part (fun s => s.label tag) tag (fun v x => x = some v) ?_ h)
    hstart
  intro s f next hstep
  rcases read_cases hstep with ⟨hslot, a, _, rfl⟩ | ⟨htag, d, _, rfl⟩ | ⟨htag, rfl⟩ |
    ⟨_, _, _, _, _, _, hlabel⟩
  · simp only [isAccountTag, Bool.and_eq_true, decide_eq_true_eq] at hslot
    rw [if_neg (by omega)]
    rfl
  · rw [if_neg (by omega)]
    rfl
  · simp only [isExtraTag, Bool.and_eq_true, decide_eq_true_eq, Bool.not_eq_true',
      Bool.and_eq_false_iff, decide_eq_false_iff_not, ne_eq] at htag
    rw [if_neg (by omega)]
    rfl
  · rw [hlabel tag hlow hhigh]
    split <;> rfl

theorem accounts_read (h : readAll got .start = .ok s) (htag : isAccountTag tag = true) :
    List.Forall₂ (fun text a => MerchantAccountInfo.fromNested tag text = .ok a)
      (valuesOf tag got) (s.merchantAccounts.filter (fun a => a.tag = tag)) := by
  rw [readAll_eq_foldlM] at h
  have hstep : ∀ (s : ParseState) (f : Tlv) (next : ParseState), s.read f = .ok next →
      if f.tag = tag then
        ∃ a, next.merchantAccounts.filter (fun a => a.tag = tag) =
            s.merchantAccounts.filter (fun a => a.tag = tag) ++ [a] ∧
          MerchantAccountInfo.fromNested tag f.value = .ok a
      else next.merchantAccounts.filter (fun a => a.tag = tag) =
        s.merchantAccounts.filter (fun a => a.tag = tag) := by
    intro s f next hstep
    rcases read_cases hstep with ⟨hslot, a, ha, rfl⟩ | ⟨h62, d, _, rfl⟩ | ⟨hextra, rfl⟩ |
      ⟨hslot, _, _, haccounts, _, _, _⟩
    · have hsame := (MerchantAccountInfo.nested_of_fromNested ha).2.1
      split
      · rename_i heq
        subst heq
        exact ⟨a, by simp [hsame], ha⟩
      · rename_i hne
        simp [hsame, hne]
    · simp only [isAccountTag, Bool.and_eq_true, decide_eq_true_eq] at htag
      rw [if_neg (by omega)]
    · simp only [isExtraTag, Bool.and_eq_true, decide_eq_true_eq, Bool.not_eq_true',
        Bool.and_eq_false_iff, decide_eq_false_iff_not, ne_eq] at hextra
      simp only [isAccountTag, Bool.and_eq_true, decide_eq_true_eq] at htag
      rw [if_neg (by omega)]
    · rw [haccounts, if_neg]
      intro heq
      rw [heq, htag] at hslot
      cases hslot
  obtain ⟨more, hmore, hall⟩ := collected_part
    (fun s : ParseState => s.merchantAccounts.filter (fun a => a.tag = tag)) tag
    (fun text a => MerchantAccountInfo.fromNested tag text = .ok a) hstep h
  rw [hmore]
  exact hall

theorem additional_read (h : readAll got .start = .ok s) :
    (valuesOf 62 got = [] ∧ s.additionalData = none) ∨
      ∃ earlier text, valuesOf 62 got = earlier ++ [text] ∧
        ∃ d, s.additionalData = some d ∧ AdditionalData.fromNested text = .ok d := by
  rw [readAll_eq_foldlM] at h
  refine overwritten_part ParseState.additionalData 62
    (fun text x => ∃ d, x = some d ∧ AdditionalData.fromNested text = .ok d) ?_ h
  intro s f next hstep
  rcases read_cases hstep with ⟨hslot, a, ha, rfl⟩ | ⟨h62, d, hd, rfl⟩ | ⟨hextra, rfl⟩ |
    ⟨_, h62, _, _, hadditional, _, _⟩
  · simp only [isAccountTag, Bool.and_eq_true, decide_eq_true_eq] at hslot
    rw [if_neg (by omega)]
  · rw [if_pos h62]
    exact ⟨d, rfl, hd⟩
  · simp only [isExtraTag, Bool.and_eq_true, decide_eq_true_eq, Bool.not_eq_true',
      Bool.and_eq_false_iff, decide_eq_false_iff_not, ne_eq] at hextra
    rw [if_neg (by omega)]
  · rw [if_neg h62, hadditional]

theorem unknown_matches (h : readAll got .start = .ok s) (htag : isExtraTag tag = true) :
    Matches Eq (unknownOf tag s.extra) (valuesOf tag got) := by
  rw [readAll_eq_foldlM] at h
  refine matches_collected (collected_part (fun s => unknownOf tag s.extra) tag Eq ?_ h)
  intro s f next hstep
  simp only [isExtraTag, Bool.and_eq_true, decide_eq_true_eq, Bool.not_eq_true',
    Bool.and_eq_false_iff, decide_eq_false_iff_not, ne_eq] at htag
  rcases read_cases hstep with ⟨hslot, a, ha, rfl⟩ | ⟨h62, d, _, rfl⟩ | ⟨hextra, rfl⟩ |
    ⟨_, _, hextra, _, _, hsame, _⟩
  · simp only [isAccountTag, Bool.and_eq_true, decide_eq_true_eq] at hslot
    rw [if_neg (by omega)]
  · rw [if_neg (by omega)]
  · rw [unknownOf_append, unknownOf_single]
    split
    · exact ⟨f.value, rfl, rfl⟩
    · simp
  · rw [hsame, if_neg]
    intro heq
    rw [heq] at hextra
    simp only [isExtraTag, Bool.and_eq_false_iff, decide_eq_false_iff_not, Bool.not_eq_false',
      Bool.and_eq_true, decide_eq_true_eq, ne_eq] at hextra
    omega

structure TagsInRange (s : ParseState) : Prop where
  accounts : ∀ a ∈ s.merchantAccounts, 26 ≤ a.tag ∧ a.tag ≤ 51 ∧
    ∀ t ∈ a.extraSubTags, 3 < t.1 ∧ t.1 < 100
  additional : ∀ d, s.additionalData = some d → ∀ t ∈ d.extra, (t.1 = 0 ∨ 8 < t.1) ∧ t.1 < 100
  extra : ∀ t ∈ s.extra, isExtraTag t.1 = true ∧ t.1 < 100

theorem tags_in_range (hgot : ∀ f ∈ got, f.tag < 100) (h : readAll got .start = .ok s) :
    s.TagsInRange := by
  rw [readAll_eq_foldlM] at h
  refine foldlM_keeps TagsInRange ?_ ⟨by simp [start], by simp [start], by simp [start]⟩ h
  intro s f next hf hstep hs
  rcases read_cases hstep with ⟨hslot, a, ha, rfl⟩ | ⟨_, d, hd, rfl⟩ | ⟨hextra, rfl⟩ |
    ⟨_, _, _, haccounts, hadditional, hextra, _⟩
  · refine ⟨?_, hs.additional, hs.extra⟩
    intro b hb
    rcases List.mem_append.mp hb with hb | hb
    · exact hs.accounts b hb
    · obtain ⟨_, hsame, hsubs⟩ := MerchantAccountInfo.nested_of_fromNested ha
      simp only [isAccountTag, Bool.and_eq_true, decide_eq_true_eq] at hslot
      rw [List.mem_singleton.mp hb]
      exact ⟨by omega, by omega, hsubs⟩
  · refine ⟨hs.accounts, ?_, hs.extra⟩
    intro e he
    cases he
    exact (AdditionalData.nested_of_fromNested hd).2
  · refine ⟨hs.accounts, hs.additional, ?_⟩
    intro t ht
    rcases List.mem_append.mp ht with ht | ht
    · exact hs.extra t ht
    · rw [List.mem_singleton.mp ht]
      exact ⟨hextra, hgot f hf⟩
  · exact ⟨by rw [haccounts]; exact hs.accounts, by rw [hadditional]; exact hs.additional,
      by rw [hextra]; exact hs.extra⟩

end

theorem readTip_ok {tip : Option Tip} (h : s.readTip = .ok tip) :
    (∀ amount, tip = some (.fixed amount) → s.feeFixed = some amount) ∧
      ∀ percent, tip = some (.percentage percent) → s.feePercent = some percent := by
  unfold readTip at h
  split at h
  · cases hfee : s.feeFixed with
    | none => simp [hfee] at h
    | some amount =>
      simp only [hfee, Except.ok.injEq] at h
      subst h
      simp
  · split at h
    · cases hfee : s.feePercent with
      | none => simp [hfee] at h
      | some percent =>
        simp only [hfee, Except.ok.injEq] at h
        subst h
        simp
    · cases h
      simp

theorem finish_ok {p : QrisPayload} (h : s.finish = .ok p) :
    (∃ first rest, p.merchantAccounts = first :: rest ∧ first.nmid ≠ "") ∧
      s.merchantAccounts = p.merchantAccounts ∧ s.additionalData = p.additionalData ∧
      s.extra = p.extra ∧ s.label 52 = some p.merchantCategoryCode ∧
      s.label 53 = some p.currency ∧ s.label 54 = p.amount ∧ s.label 58 = some p.countryCode ∧
      s.label 59 = some p.merchantName ∧ s.label 60 = some p.merchantCity ∧
      s.label 61 = p.postalCode ∧ s.readTip = .ok p.tip := by
  unfold finish at h
  split at h
  · cases h
  · rename_i first rest haccounts
    split at h
    · cases h
    · rename_i hnmid
      cases htip : s.readTip with
      | error e =>
        rw [htip] at h
        cases h
      | ok tip =>
        rw [htip] at h
        cases h
        exact ⟨⟨first, rest, haccounts, hnmid⟩, rfl, rfl, rfl, rfl, rfl, rfl, rfl, rfl, rfl, rfl,
          rfl⟩

end ParseState

/-- How a read value stands to the printed one: a template reads as what was printed, any other
value is the same text. -/
def Rereads (tag : Nat) (printed text : String) : Prop :=
  if ParseState.isAccountTag tag = true ∨ tag = 62 then
    ∃ fields, Nested fields text ∧ encodeFields fields = some printed.toList
  else printed = text

theorem Rereads.wide_le {tag : Nat} {printed text : String} (h : Rereads tag printed text) :
    wideChars printed.toList ≤ wideChars text.toList := by
  unfold Rereads at h
  split at h
  · obtain ⟨fields, hnested, henc⟩ := h
    exact hnested.wide_le henc
  · rw [h]

theorem not_rereads_longer {tag : Nat} {printed : String} {stolen : List Char}
    (hpos : 0 < wideChars printed.toList) (hne : stolen ≠ []) (hstolen : wideChars stolen = 0) :
    ¬ Rereads tag printed (String.ofList (printed.toList ++ stolen)) := by
  intro h
  unfold Rereads at h
  split at h
  · obtain ⟨fields, hnested, henc⟩ := h
    exact Nested.not_longer henc hpos hstolen hnested
  · have htext := congrArg String.toList h
    rw [String.toList_ofList] at htext
    exact hne (by simpa using htext)

theorem forall₂_join {α β γ : Type} {r : α → γ → Prop} {t : β → γ → Prop} {u : α → β → Prop}
    (hjoin : ∀ a b c, r a c → t b c → u a b) {l : List α} {m : List β} {n : List γ}
    (hl : List.Forall₂ r l n) (hm : List.Forall₂ t m n) : List.Forall₂ u l m := by
  induction hl generalizing m with
  | nil =>
    cases hm
    exact List.Forall₂.nil
  | cons ha _ ih =>
    cases hm with
    | cons hb hrest => exact List.Forall₂.cons (hjoin _ _ _ ha hb) (ih hrest)

namespace QrisPayload

variable {fields : List Tlv}

theorem nestedField_some {tag : Nat} {field : Tlv} (h : nestedField tag fields = some field) :
    field.tag = tag ∧ encodeFields fields = some field.value.toList := by
  unfold nestedField at h
  cases henc : encodeFields fields with
  | none => simp [henc] at h
  | some text =>
    simp only [henc, Option.map_some, Option.some.injEq] at h
    subst h
    exact ⟨rfl, by rw [String.toList_ofList]⟩

variable {accounts : List MerchantAccountInfo}

theorem accountFields_printed (h : accountFields accounts = some fields) :
    List.Forall₂ (fun f a => f.tag = a.tag ∧ encodeFields a.fields = some f.value.toList)
      fields accounts := by
  induction accounts generalizing fields with
  | nil =>
    cases h
    exact List.Forall₂.nil
  | cons a accounts ih =>
    unfold accountFields at h
    split at h
    · rename_i field others hfield hothers
      cases h
      exact List.Forall₂.cons (nestedField_some hfield) (ih hothers)
    · cases h

theorem accountFields_at
    (h : List.Forall₂ (fun f a => f.tag = a.tag ∧ encodeFields a.fields = some f.value.toList)
      fields accounts) (tag : Nat) :
    List.Forall₂ (fun text (a : MerchantAccountInfo) => encodeFields a.fields = some text.toList)
      (valuesOf tag fields) (accounts.filter (fun a => a.tag = tag)) := by
  induction h with
  | nil => exact List.Forall₂.nil
  | @cons f a fields accounts hfa _ ih =>
    obtain ⟨htag, henc⟩ := hfa
    rw [valuesOf_cons, List.filter_cons, htag]
    by_cases heq : a.tag = tag
    · simp only [heq, if_true, decide_true]
      exact List.Forall₂.cons henc ih
    · simp only [heq, if_false, decide_false, Bool.false_eq_true]
      exact ih

theorem accountFields_mem
    (h : List.Forall₂ (fun f a => f.tag = a.tag ∧ encodeFields a.fields = some f.value.toList)
      fields accounts) :
    (∀ f ∈ fields, ∃ a ∈ accounts, f.tag = a.tag) ∧
      ∀ a ∈ accounts, ∃ f ∈ fields, encodeFields a.fields = some f.value.toList := by
  induction h with
  | nil => simp
  | @cons f a fields accounts hfa _ ih =>
    refine ⟨List.forall_mem_cons.mpr ⟨⟨a, List.mem_cons_self .., hfa.1⟩, ?_⟩,
      List.forall_mem_cons.mpr ⟨⟨f, List.mem_cons_self .., hfa.2⟩, ?_⟩⟩
    · intro g hg
      obtain ⟨b, hb, htag⟩ := ih.1 g hg
      exact ⟨b, List.mem_cons_of_mem _ hb, htag⟩
    · intro b hb
      obtain ⟨g, hg, henc⟩ := ih.2 b hb
      exact ⟨g, List.mem_cons_of_mem _ hg, henc⟩

theorem additionalFields_printed {additional : Option AdditionalData}
    (h : additionalFields additional = some fields) :
    (fields = [] ∧ ∀ d, additional = some d → d.isEmpty = true) ∨
      ∃ d f, additional = some d ∧ d.isEmpty = false ∧ fields = [f] ∧ f.tag = 62 ∧
        encodeFields d.fields = some f.value.toList := by
  unfold additionalFields at h
  split at h
  · cases h
    exact Or.inl ⟨rfl, by simp⟩
  · rename_i d
    split at h
    · rename_i hempty
      cases h
      refine Or.inl ⟨rfl, ?_⟩
      intro e he
      cases he
      exact hempty
    · rename_i hfull
      cases hfield : nestedField 62 d.fields with
      | none => simp [hfield] at h
      | some f =>
        simp only [hfield, Option.map_some, Option.some.injEq] at h
        obtain ⟨htag, henc⟩ := nestedField_some hfield
        exact Or.inr ⟨d, f, rfl, by simpa using hfull, h.symm, htag, henc⟩

theorem tipFields_tags (tip : Option Tip) : ∀ f ∈ tipFields tip, 55 ≤ f.tag ∧ f.tag ≤ 57 := by
  rcases tip with _ | ⟨_ | _⟩ <;> simp [tipFields]

theorem header_matches {p : QrisPayload} {s : ParseState} {got : List Tlv}
    (h : ParseState.readAll got .start = .ok s) (hfinish : s.finish = .ok p) {tag : Nat}
    (hlow : 52 ≤ tag) (hhigh : tag ≤ 61) :
    Matches Eq (valuesOf tag p.headerFields) (valuesOf tag got) := by
  have hstart : ∀ v ∈ ParseState.start.label tag, wideChars v.toList = 0 := by
    obtain rfl | rfl | rfl | rfl | rfl | rfl | rfl | rfl | rfl | rfl : tag = 52 ∨ tag = 53 ∨
      tag = 54 ∨ tag = 55 ∨ tag = 56 ∨ tag = 57 ∨ tag = 58 ∨ tag = 59 ∨ tag = 60 ∨ tag = 61 := by
      omega
    all_goals simp [ParseState.start, ParseState.label, wideChars]
  have hlabel := ParseState.label_matches h hlow hhigh hstart
  obtain ⟨_, _, _, _, h52, h53, h54, h58, h59, h60, h61, htip⟩ := ParseState.finish_ok hfinish
  obtain ⟨hfixed, hpercent⟩ := ParseState.readTip_ok htip
  have htips : (tag < 55 ∨ 57 < tag) → valuesOf tag (tipFields p.tip) = [] := by
    intro hne
    apply valuesOf_eq_nil
    intro f hf
    have := tipFields_tags p.tip f hf
    omega
  simp only [headerFields, valuesOf_cons, valuesOf_append, valuesOf_label]
  obtain rfl | rfl | rfl | rfl | rfl | rfl | rfl | rfl | rfl | rfl : tag = 52 ∨ tag = 53 ∨
    tag = 54 ∨ tag = 55 ∨ tag = 56 ∨ tag = 57 ∨ tag = 58 ∨ tag = 59 ∨ tag = 60 ∨ tag = 61 := by
    omega
  case inr.inr.inr.inl =>
    -- the indicator is always ASCII
    apply Matches.ascii
    rcases p.tip with _ | ⟨_ | _⟩ <;> simp [tipFields, wideChars]
  case inr.inr.inr.inr.inl =>
    rcases hp : p.tip with _ | ⟨amount | percent⟩
    · exact Matches.ascii _ _ (by simp [tipFields])
    · have hfee : s.label 56 = some amount := hfixed amount hp
      rw [hfee] at hlabel
      simpa [tipFields] using hlabel
    · exact Matches.ascii _ _ (by simp [tipFields])
  case inr.inr.inr.inr.inr.inl =>
    rcases hp : p.tip with _ | ⟨amount | percent⟩
    · exact Matches.ascii _ _ (by simp [tipFields])
    · exact Matches.ascii _ _ (by simp [tipFields])
    · have hfee : s.label 57 = some percent := hpercent percent hp
      rw [hfee] at hlabel
      simpa [tipFields] using hlabel
  all_goals
    rw [htips (by omega)]
    simp_all

section

variable {p : QrisPayload} {s : ParseState} {got accounts additional : List Tlv}
  (haccounts : accountFields p.merchantAccounts = some accounts)
  (hadditional : additionalFields p.additionalData = some additional)
  (hrange : s.TagsInRange) (hfinish : s.finish = .ok p)
include haccounts hadditional hrange hfinish

theorem valuesOf_print (tag : Nat) :
    (ParseState.isAccountTag tag = true ∧
      valuesOf tag (p.printOf accounts additional) = valuesOf tag accounts) ∨
    (tag = 62 ∧ valuesOf tag (p.printOf accounts additional) = valuesOf tag additional) ∨
    (¬ (ParseState.isAccountTag tag = true ∨ tag = 62) ∧
      (52 ≤ tag ∧ tag ≤ 61 ∧
          valuesOf tag (p.printOf accounts additional) = valuesOf tag p.headerFields ∨
        isExtraTag tag = true ∧
          valuesOf tag (p.printOf accounts additional) = unknownOf tag p.extra ∨
        wideOf (valuesOf tag (p.printOf accounts additional)) = 0)) := by
  obtain ⟨_, hslots, _, hextra, _⟩ := ParseState.finish_ok hfinish
  have hprinted := accountFields_printed haccounts
  have hnoAccount : tag < 26 ∨ 51 < tag → valuesOf tag accounts = [] := by
    intro hout
    apply valuesOf_eq_nil
    intro f hf
    obtain ⟨a, ha, heq⟩ := (accountFields_mem hprinted).1 f hf
    have := hrange.accounts a (by rw [hslots]; exact ha)
    omega
  have hnoHeader : tag < 52 ∨ 61 < tag → valuesOf tag p.headerFields = [] := by
    intro hout
    apply valuesOf_eq_nil
    intro f hf
    have := p.headerFields_tags f hf
    omega
  have hnoData : tag ≠ 62 → valuesOf tag additional = [] := by
    intro hout
    apply valuesOf_eq_nil
    rcases additionalFields_printed hadditional with ⟨rfl, _⟩ | ⟨d, f, _, _, rfl, h62, _⟩
    · simp
    · simpa [h62] using hout.symm
  have hnoExtra : isExtraTag tag = false → unknownOf tag p.extra = [] := by
    intro hout
    apply unknownOf_eq_nil
    intro t ht heq
    have := (hrange.extra t (by rw [hextra]; exact ht)).1
    rw [heq, hout] at this
    cases this
  have hunknown : valuesOf tag (p.extra.map (fun t => ⟨t.1, t.2⟩)) = unknownOf tag p.extra := rfl
  simp only [printOf, valuesOf_cons, valuesOf_append, hunknown]
  by_cases hslot : ParseState.isAccountTag tag = true
  · have hin : 26 ≤ tag ∧ tag ≤ 51 := by simpa [ParseState.isAccountTag] using hslot
    have hout : isExtraTag tag = false := by
      simp [isExtraTag]
      omega
    rw [hnoHeader (by omega), hnoData (by omega), hnoExtra hout, if_neg (by omega),
      if_neg (by omega)]
    exact Or.inl ⟨hslot, by simp⟩
  · have hout : tag < 26 ∨ 51 < tag := by
      simp only [ParseState.isAccountTag, Bool.and_eq_true, decide_eq_true_eq] at hslot
      omega
    rw [hnoAccount hout]
    by_cases h62 : tag = 62
    · subst h62
      rw [hnoHeader (by omega), hnoExtra (by decide), if_neg (by omega), if_neg (by omega)]
      exact Or.inr (Or.inl ⟨rfl, by simp⟩)
    · rw [hnoData h62]
      refine Or.inr (Or.inr ⟨by simp [hslot, h62], ?_⟩)
      by_cases hin : 52 ≤ tag ∧ tag ≤ 61
      · have hnot : isExtraTag tag = false := by
          simp [isExtraTag]
          omega
        rw [hnoExtra hnot, if_neg (by omega), if_neg (by omega)]
        exact Or.inl ⟨hin.1, hin.2, by simp⟩
      · rw [hnoHeader (by omega)]
        cases hx : isExtraTag tag with
        | true =>
          have hne : tag ≠ 0 ∧ tag ≠ 1 := by
            simp only [isExtraTag, Bool.and_eq_true, decide_eq_true_eq, ne_eq] at hx
            exact hx.1
          rw [if_neg (Ne.symm hne.1), if_neg (Ne.symm hne.2)]
          exact Or.inr (Or.inl ⟨rfl, by simp⟩)
        | false =>
          -- tags 0, 1 and 63: the format indicator and the method are ASCII
          rw [hnoExtra hx]
          have hwire : wideChars p.initiation.toWire.toList = 0 := by
            cases p.initiation <;> decide
          have hformat : wideChars "01".toList = 0 := by decide
          refine Or.inr (Or.inr ?_)
          split <;> split <;>
            simp only [List.append_nil, wideOf_cons, wideOf_nil, hwire, hformat, Nat.add_zero]

theorem print_matches (hread : ParseState.readAll got .start = .ok s) (tag : Nat) :
    Matches (Rereads tag) (valuesOf tag (p.printOf accounts additional)) (valuesOf tag got) := by
  obtain ⟨_, hslots, hdata, hextra, _⟩ := ParseState.finish_ok hfinish
  rcases valuesOf_print haccounts hadditional hrange hfinish tag with ⟨hslot, hvalues⟩ |
    ⟨rfl, hvalues⟩ | ⟨hplain, hvalues⟩
  · have hprinted := accountFields_at (accountFields_printed haccounts) tag
    have hback := ParseState.accounts_read hread hslot
    rw [hslots] at hback
    rw [hvalues]
    refine Matches.listed _ _ (forall₂_join ?_ hprinted hback)
    intro v w a henc hnested
    rw [Rereads, if_pos (Or.inl hslot)]
    exact ⟨a.fields, (MerchantAccountInfo.nested_of_fromNested hnested).1, henc⟩
  · rw [hvalues]
    rcases additionalFields_printed hadditional with ⟨rfl, _⟩ | ⟨d, f, hd, _, rfl, h62, henc⟩
    · exact Matches.ascii _ _ rfl
    · rcases ParseState.additional_read hread with ⟨_, hnone⟩ | ⟨earlier, text, hgot, e, he,
        hnested⟩
      · rw [hdata, hd] at hnone
        cases hnone
      · rw [hdata, hd] at he
        cases he
        rw [hgot, valuesOf_cons, if_pos h62]
        refine Matches.last f.value text earlier ?_
        rw [Rereads, if_pos (Or.inr rfl)]
        exact ⟨d.fields, (AdditionalData.nested_of_fromNested hnested).1, henc⟩
  · have heq : ∀ v w, v = w → Rereads tag v w := by
      intro v w hvw
      rw [Rereads, if_neg hplain]
      exact hvw
    rcases hvalues with ⟨hlow, hhigh, hvalues⟩ | ⟨hx, hvalues⟩ | hzero
    · rw [hvalues]
      exact (header_matches hread hfinish hlow hhigh).mono heq
    · have hback := ParseState.unknown_matches hread hx
      rw [hextra] at hback
      rw [hvalues]
      exact hback.mono heq
    · exact Matches.ascii _ _ hzero

end

end QrisPayload

end OzPos
