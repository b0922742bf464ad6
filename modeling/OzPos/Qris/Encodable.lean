import OzPos.Qris.Printed

namespace OzPos

variable {fields : List Tlv}

theorem encodeFields_bytes {text : List Char}
    (h : encodeFields fields = some text) : ∀ f ∈ fields, byteLen f.value.toList ≤ 99 := by
  induction fields generalizing text with
  | nil => simp
  | cons f fields ih =>
    unfold encodeFields at h
    split at h
    · rename_i first rest hfirst hrest
      unfold encodeField at hfirst
      split at hfirst
      · rename_i hlen
        exact List.forall_mem_cons.mpr ⟨hlen, ih hrest⟩
      · cases hfirst
    · cases h

theorem fits_of_ascii {text : List Char} (h : encodeFields fields = some text)
    (hascii : ∀ f ∈ fields, isAscii f.value.toList = true) : ∀ f ∈ fields, TextFits f.value := by
  intro f hf
  have hbytes := encodeFields_bytes h f hf
  rw [(byteLen_eq_length_iff f.value.toList).mpr (hascii f hf)] at hbytes
  exact ⟨hascii f hf, hbytes⟩

theorem ascii_of_wideOf (h : wideOf (fields.map Tlv.value) = 0) :
    ∀ f ∈ fields, isAscii f.value.toList = true := by
  induction fields with
  | nil => simp
  | cons f fields ih =>
    rw [List.map_cons, wideOf_cons] at h
    refine List.forall_mem_cons.mpr ⟨?_, ih (by omega)⟩
    rw [← wideChars_eq_zero_iff]
    omega

theorem templateFits_of_print {text : String}
    (htags : ∀ f ∈ fields, f.tag < 100) (henc : encodeFields fields = some text.toList)
    (hfits : TextFits text) : TemplateFits fields := by
  have hwide := (wideChars_eq_zero_iff text.toList).mpr hfits.1
  rw [wideChars_encodeFields htags henc] at hwide
  have hascii := ascii_of_wideOf hwide
  obtain ⟨print, hprint, _, hlen⟩ := encodeFields_fits htags (fits_of_ascii henc hascii)
  rw [henc, Option.some.injEq] at hprint
  have hshort := hfits.2
  rw [hprint] at hshort
  exact ⟨hascii, by omega⟩

namespace QrisPayload

variable {p : QrisPayload}

theorem texts_printed (accounts additional : List Tlv) {text : String}
    (h : text ∈ p.texts) : ∃ f ∈ p.printOf accounts additional, f.value = text := by
  simp only [texts, List.mem_cons, List.mem_append, List.mem_map, Option.mem_toList,
    List.not_mem_nil, or_false] at h
  have hheader : ∀ f ∈ p.headerFields, f ∈ p.printOf accounts additional := by
    intro f hf
    simp [printOf, hf]
  rcases h with (((((rfl | rfl | rfl | rfl | rfl) | hamount) | ⟨f, hf, rfl⟩) | hpostal) |
    ⟨t, ht, rfl⟩)
  · exact ⟨⟨52, _⟩, hheader _ (by simp [headerFields]), rfl⟩
  · exact ⟨⟨53, _⟩, hheader _ (by simp [headerFields]), rfl⟩
  · exact ⟨⟨58, _⟩, hheader _ (by simp [headerFields]), rfl⟩
  · exact ⟨⟨59, _⟩, hheader _ (by simp [headerFields]), rfl⟩
  · exact ⟨⟨60, _⟩, hheader _ (by simp [headerFields]), rfl⟩
  · exact ⟨⟨54, text⟩, hheader _ (by simp [headerFields, hamount]), rfl⟩
  · exact ⟨f, hheader f (by simp [headerFields, hf]), rfl⟩
  · exact ⟨⟨61, text⟩, hheader _ (by simp [headerFields, hpostal]), rfl⟩
  · refine ⟨⟨t.1, t.2⟩, ?_, rfl⟩
    simp only [printOf, List.mem_cons, List.mem_append, List.mem_map]
    exact Or.inr (Or.inr (Or.inr (Or.inr (Or.inr ⟨t, ht, rfl⟩))))

theorem printOf_tags {s : ParseState} {accounts additional : List Tlv}
    (haccounts : accountFields p.merchantAccounts = some accounts)
    (hadditional : additionalFields p.additionalData = some additional) (hrange : s.TagsInRange)
    (hfinish : s.finish = .ok p) : ∀ f ∈ p.printOf accounts additional, f.tag < 100 := by
  obtain ⟨_, hslots, _, hextra, _⟩ := ParseState.finish_ok hfinish
  intro f hf
  simp only [printOf, List.mem_cons, List.mem_append, List.mem_map] at hf
  rcases hf with rfl | rfl | hf | hf | hf | ⟨t, ht, rfl⟩
  · simp
  · simp
  · obtain ⟨a, ha, heq⟩ := (accountFields_mem (accountFields_printed haccounts)).1 f hf
    have := hrange.accounts a (by rw [hslots]; exact ha)
    omega
  · have := p.headerFields_tags f hf
    omega
  · rcases additionalFields_printed hadditional with ⟨rfl, _⟩ | ⟨d, g, _, _, rfl, h62, _⟩
    · cases hf
    · rw [List.mem_singleton.mp hf]
      omega
  · exact (hrange.extra t (by rw [hextra]; exact ht)).2

theorem encodable_of_read {s : ParseState} {accounts additional got : List Tlv} {text : List Char}
    (haccounts : accountFields p.merchantAccounts = some accounts)
    (hadditional : additionalFields p.additionalData = some additional)
    (henc : encodeFields (p.printOf accounts additional) = some text)
    (hparse : parseTlvs (appendCrc text) = .ok got)
    (hread : ParseState.readAll got .start = .ok s) (hfinish : s.finish = .ok p) : p.Encodable := by
  have hrange := ParseState.tags_in_range (parse_tags hparse) hread
  have htags := printOf_tags haccounts hadditional hrange hfinish
  obtain ⟨hnmid, hslots, hdata, hextra, _⟩ := ParseState.finish_ok hfinish
  obtain ⟨crc, field, _, hfield, _, htext⟩ := appendCrc_field text
  have hascii : ∀ f ∈ p.printOf accounts additional, isAscii f.value.toList = true := by
    rw [parseTlvs, htext] at hparse
    exact ascii_of_matches htags henc hparse ((wideChars_eq_zero_iff field).mpr hfield)
      (fun tag v w hvw => hvw.wide_le)
      (fun tag _ => print_matches haccounts hadditional hrange hfinish hread tag)
      (fun tag v stolen _ hpos hne hstolen => not_rereads_longer hpos hne hstolen)
  have hfits := fits_of_ascii henc hascii
  have hprinted := accountFields_printed haccounts
  refine ⟨hnmid, ?_, ?_, ?_, ?_⟩
  · intro a ha
    obtain ⟨hlow, hhigh, hsubs⟩ := hrange.accounts a (by rw [hslots]; exact ha)
    obtain ⟨f, hf, hfenc⟩ := (accountFields_mem hprinted).2 a ha
    have hf : f ∈ p.printOf accounts additional := by simp [printOf, hf]
    exact ⟨hlow, hhigh, templateFits_of_print (a.fields_tags (fun t ht => (hsubs t ht).2)) hfenc
      (hfits f hf), hsubs⟩
  · intro d hd
    have hunknown := hrange.additional d (by rw [hdata]; exact hd)
    rcases additionalFields_printed hadditional with ⟨hnil, _⟩ | ⟨e, f, he, hfull, hsingle, _, hfenc⟩
    · -- nothing was printed under tag 62, so nothing was read there
      obtain ⟨crc', hback⟩ := parse_fields htags hascii henc
      rw [hback, Except.ok.injEq] at hparse
      have hvalues : valuesOf 62 got = [] := by
        rcases valuesOf_print haccounts hadditional hrange hfinish 62 with ⟨h, _⟩ | ⟨_, h⟩ | ⟨h, _⟩
        · cases h
        · rw [← hparse, valuesOf_append, h, hnil]
          rfl
        · exact absurd (Or.inr rfl) h
      rcases ParseState.additional_read hread with ⟨_, hnone⟩ | ⟨earlier, v, hsome, _⟩
      · rw [hdata, hd] at hnone
        cases hnone
      · rw [hvalues] at hsome
        simp at hsome
    · rw [hd] at he
      cases he
      have hf : f ∈ p.printOf accounts additional := by simp [printOf, hsingle]
      exact ⟨hfull, templateFits_of_print (d.fields_tags (fun t ht => (hunknown t ht).2)) hfenc
        (hfits f hf), hunknown⟩
  · intro v hv
    obtain ⟨f, hf, rfl⟩ := texts_printed accounts additional hv
    exact hfits f hf
  · intro t ht
    exact hrange.extra t (by rw [hextra]; exact ht)

theorem toQrisString_some {print : String} (h : p.toQrisString = some print) :
    ∃ accounts additional text, accountFields p.merchantAccounts = some accounts ∧
      additionalFields p.additionalData = some additional ∧
      encodeFields (p.printOf accounts additional) = some text ∧
      print = String.ofList (appendCrc text) := by
  unfold toQrisString at h
  rw [p.fields_eq] at h
  cases haccounts : accountFields p.merchantAccounts with
  | none => simp [haccounts] at h
  | some accounts =>
    cases hadditional : additionalFields p.additionalData with
    | none => simp [haccounts, hadditional] at h
    | some additional =>
      rw [haccounts, hadditional] at h
      obtain ⟨text, henc, heq⟩ := Option.map_eq_some_iff.mp h
      exact ⟨accounts, additional, text, rfl, rfl, henc, heq.symm⟩

theorem byteLen_of_print {print text : String} (h : p.toQrisString = some print)
    (htext : text ∈ p.texts) : byteLen text.toList ≤ 99 := by
  obtain ⟨accounts, additional, _, _, _, henc, _⟩ := toQrisString_some h
  obtain ⟨f, hf, rfl⟩ := texts_printed accounts additional htext
  exact encodeFields_bytes henc f hf

end QrisPayload

theorem round_trips_encodable {p : QrisPayload} (h : RoundTrips p) : p.Encodable := by
  obtain ⟨print, hprint, hparse⟩ := h
  obtain ⟨accounts, additional, text, haccounts, hadditional, henc, rfl⟩ :=
    QrisPayload.toQrisString_some hprint
  rw [QrisPayload.parse, String.toList_ofList, verifyCrc_appendCrc] at hparse
  cases hgot : parseTlvs (appendCrc text) with
  | error e => simp [hgot] at hparse
  | ok got =>
    simp only [hgot, Option.some.injEq, QrisPayload.fromTlvs] at hparse
    cases hread : ParseState.readAll got .start with
    | error e => simp [hread] at hparse
    | ok s =>
      rw [hread] at hparse
      exact QrisPayload.encodable_of_read haccounts hadditional henc hgot hread hparse

/-- A payload comes back from its print exactly when its texts are ASCII and short enough, its
tags are where they belong, and no template is there without a field. -/
theorem qris_round_trips_iff (p : QrisPayload) : RoundTrips p ↔ p.Encodable :=
  ⟨round_trips_encodable, encodable_round_trips⟩

def shopNamed (name : String) : QrisBuilder :=
  { QrisBuilder.new with
    nmid := some "ID1020030040", merchantName := some name, merchantCity := some "Jakarta"
    merchantCategoryCode := some "5411" }

/-- One accent is enough, and a name of a hundred characters panics. -/
theorem qris_round_trip_fails :
    (∃ p, (shopNamed "Café").build = .ok p ∧ ¬ RoundTrips p) ∧
      ∃ p, (shopNamed (String.ofList (List.replicate 100 'a'))).build = .ok p ∧
        p.toQrisString = none := by
  refine ⟨⟨_, rfl, ?_⟩, ⟨_, rfl, ?_⟩⟩
  · intro h
    have hname := (round_trips_encodable h).texts "Café" (by simp [QrisPayload.texts])
    exact absurd hname.1 (by decide)
  · rw [Option.eq_none_iff_forall_not_mem]
    intro print hprint
    have hlong := QrisPayload.byteLen_of_print hprint (List.mem_append_left _ (List.mem_append_left _
      (List.mem_append_left _ (List.mem_append_left _ (List.mem_of_getElem? (i := 3) rfl)))))
    rw [String.toList_ofList, byteLen, List.map_replicate, List.sum_replicate] at hlong
    exact absurd hlong (by decide)

end OzPos
