import OzPos.Qris.RoundTrip
import OzPos.Qris.Tagged

namespace OzPos

variable (tag : Nat)

def unknownOf (extra : List (Nat × String)) : List String :=
  valuesOf tag (extra.map (fun t => ⟨t.1, t.2⟩))

theorem unknownOf_append (l r : List (Nat × String)) :
    unknownOf tag (l ++ r) = unknownOf tag l ++ unknownOf tag r := by
  simp [unknownOf]

theorem unknownOf_single (t : Nat × String) :
    unknownOf tag [t] = if t.1 = tag then [t.2] else [] := by
  simp [unknownOf]

theorem unknownOf_eq_nil {tag : Nat} {extra : List (Nat × String)}
    (h : ∀ t ∈ extra, t.1 ≠ tag) : unknownOf tag extra = [] := by
  apply valuesOf_eq_nil
  intro f hf
  obtain ⟨t, ht, rfl⟩ := List.mem_map.mp hf
  exact h t ht

theorem valuesOf_label (tag n : Nat) (value : Option String) :
    valuesOf tag (value.toList.map (fun v => ⟨n, v⟩)) = if n = tag then value.toList else [] := by
  cases value <;> simp

theorem foldlM_ok {σ : Type} (read : σ → Tlv → σ) (fields : List Tlv) (s : σ) :
    fields.foldlM (fun s f => (.ok (read s f) : Except QrisError σ)) s =
      .ok (fields.foldl read s) :=
  List.foldlM_pure

namespace MerchantAccountInfo

variable (account : MerchantAccountInfo)

def label (tag : Nat) : Option String :=
  match tag with
  | 0 => some account.guid
  | 1 => account.merchantPan
  | 2 => some account.nmid
  | 3 => account.criteria
  | _ => none

theorem readSub_label (f : Tlv) (tag : Nat) (htag : tag ≤ 3) :
    (account.readSub f).label tag =
      if f.tag = tag then some f.value else account.label tag := by
  obtain rfl | rfl | rfl | rfl : tag = 0 ∨ tag = 1 ∨ tag = 2 ∨ tag = 3 := by omega
  all_goals
    unfold readSub
    split <;> simp_all [label]

theorem readSub_unknown (f : Tlv) :
    (account.readSub f).extraSubTags =
      if 3 < f.tag then account.extraSubTags ++ [(f.tag, f.value)] else account.extraSubTags := by
  unfold readSub
  split
  case h_5 _ h0 h1 h2 h3 =>
    have hhigh : 3 < f.tag := by
      simp only [imp_false] at h0 h1 h2 h3
      omega
    rw [if_pos hhigh]
  all_goals simp_all

theorem readSub_tag (f : Tlv) : (account.readSub f).tag = account.tag := by
  unfold readSub
  split <;> rfl

theorem valuesOf_fields (tag : Nat) (h : ∀ t ∈ account.extraSubTags, 3 < t.1) :
    valuesOf tag account.fields =
      if tag ≤ 3 then (account.label tag).toList else unknownOf tag account.extraSubTags := by
  have hextra : tag ≤ 3 → unknownOf tag account.extraSubTags = [] := fun hle =>
    unknownOf_eq_nil (fun t ht => by have := h t ht; omega)
  have hunknown : valuesOf tag (account.extraSubTags.map (fun t => ⟨t.1, t.2⟩)) =
      unknownOf tag account.extraSubTags := rfl
  simp only [fields, valuesOf_cons, valuesOf_append, valuesOf_label, hunknown]
  by_cases hle : tag ≤ 3
  · rw [if_pos hle, hextra hle]
    obtain rfl | rfl | rfl | rfl : tag = 0 ∨ tag = 1 ∨ tag = 2 ∨ tag = 3 := by omega
    all_goals simp [label]
  · have h0 : 0 ≠ tag := by omega
    have h1 : 1 ≠ tag := by omega
    have h2 : 2 ≠ tag := by omega
    have h3 : 3 ≠ tag := by omega
    simp [hle, h0, h1, h2, h3]

theorem nested_of_fromNested {slot : Nat} {text : String} {account : MerchantAccountInfo}
    (h : fromNested slot text = .ok account) :
    Nested account.fields text ∧ account.tag = slot ∧
      ∀ t ∈ account.extraSubTags, 3 < t.1 ∧ t.1 < 100 := by
  cases hparse : parseTlvs text.toList with
  | error e =>
    rw [fromNested, hparse] at h
    cases h
  | ok got =>
    rw [fromNested, hparse] at h
    have hread := foldlM_ok readSub got ⟨slot, "", none, "", none, []⟩
    have hlast : got.foldl readSub ⟨slot, "", none, "", none, []⟩ = account := Except.ok.inj h
    rw [hlast] at hread
    have hgot := parse_tags hparse
    have hsubs : ∀ t ∈ account.extraSubTags, 3 < t.1 ∧ t.1 < 100 := by
      refine foldlM_keeps (fun a : MerchantAccountInfo =>
        ∀ t ∈ a.extraSubTags, 3 < t.1 ∧ t.1 < 100) ?_ (by simp) hread
      · intro s f next hf hstep hs t ht
        cases hstep
        rw [readSub_unknown] at ht
        split at ht
        · rename_i hhigh
          rcases List.mem_append.mp ht with ht | ht
          · exact hs t ht
          · rw [List.mem_singleton.mp ht]
            exact ⟨hhigh, hgot f hf⟩
        · exact hs t ht
    have hslot : account.tag = slot := by
      refine foldlM_keeps (fun a : MerchantAccountInfo => a.tag = slot) ?_ rfl hread
      · intro s f next _ hstep hs
        cases hstep
        rw [readSub_tag, hs]
    refine ⟨⟨account.fields_tags (fun t ht => (hsubs t ht).2), got, hparse, ?_⟩, hslot, hsubs⟩
    intro tag htag
    rw [valuesOf_fields account tag (fun t ht => (hsubs t ht).1)]
    by_cases hle : tag ≤ 3
    · rw [if_pos hle]
      refine matches_label (overwritten_part (fun a => a.label tag) tag
        (fun v x => x = some v) ?_ hread) ?_
      · intro s f next hstep
        cases hstep
        rw [readSub_label s f tag hle]
        split <;> rfl
      · obtain rfl | rfl | rfl | rfl : tag = 0 ∨ tag = 1 ∨ tag = 2 ∨ tag = 3 := by omega
        all_goals simp [label, wideChars]
    · rw [if_neg hle]
      refine matches_collected (collected_part
        (fun a : MerchantAccountInfo => unknownOf tag a.extraSubTags) tag Eq ?_ hread)
      intro s f next hstep
      cases hstep
      rw [readSub_unknown]
      by_cases hhigh : 3 < f.tag
      · rw [if_pos hhigh, unknownOf_append, unknownOf_single]
        split
        · exact ⟨f.value, rfl, rfl⟩
        · simp
      · rw [if_neg hhigh, if_neg (by omega)]

end MerchantAccountInfo

namespace AdditionalData

variable (data : AdditionalData)

def label (tag : Nat) : Option String :=
  match tag with
  | 1 => data.billNumber
  | 2 => data.mobileNumber
  | 3 => data.storeLabel
  | 4 => data.loyaltyNumber
  | 5 => data.referenceLabel
  | 6 => data.customerLabel
  | 7 => data.terminalLabel
  | 8 => data.purpose
  | _ => none

theorem readSub_label (f : Tlv) (tag : Nat) (hlow : 1 ≤ tag) (hhigh : tag ≤ 8) :
    (data.readSub f).label tag = if f.tag = tag then some f.value else data.label tag := by
  obtain rfl | rfl | rfl | rfl | rfl | rfl | rfl | rfl : tag = 1 ∨ tag = 2 ∨ tag = 3 ∨ tag = 4 ∨
    tag = 5 ∨ tag = 6 ∨ tag = 7 ∨ tag = 8 := by omega
  all_goals
    unfold readSub
    split <;> simp_all [label]

theorem readSub_unknown (f : Tlv) :
    (data.readSub f).extra =
      if f.tag = 0 ∨ 8 < f.tag then data.extra ++ [(f.tag, f.value)] else data.extra := by
  unfold readSub
  split
  case h_9 _ h1 h2 h3 h4 h5 h6 h7 h8 =>
    have hunknown : f.tag = 0 ∨ 8 < f.tag := by
      simp only [imp_false] at h1 h2 h3 h4 h5 h6 h7 h8
      omega
    rw [if_pos hunknown]
  all_goals simp_all

theorem valuesOf_fields (tag : Nat) (h : ∀ t ∈ data.extra, t.1 = 0 ∨ 8 < t.1) :
    valuesOf tag data.fields =
      if 1 ≤ tag ∧ tag ≤ 8 then (data.label tag).toList else unknownOf tag data.extra := by
  have hextra : 1 ≤ tag ∧ tag ≤ 8 → unknownOf tag data.extra = [] := fun hle =>
    unknownOf_eq_nil (fun t ht => by have := h t ht; omega)
  have hunknown : valuesOf tag (data.extra.map (fun t => ⟨t.1, t.2⟩)) =
      unknownOf tag data.extra := rfl
  simp only [fields, labels, List.flatMap_cons, List.flatMap_nil, valuesOf_append, valuesOf_label,
    valuesOf_nil, hunknown]
  by_cases hle : 1 ≤ tag ∧ tag ≤ 8
  · rw [if_pos hle, hextra hle]
    obtain rfl | rfl | rfl | rfl | rfl | rfl | rfl | rfl : tag = 1 ∨ tag = 2 ∨ tag = 3 ∨
      tag = 4 ∨ tag = 5 ∨ tag = 6 ∨ tag = 7 ∨ tag = 8 := by omega
    all_goals simp [label]
  · have hne : ∀ n, 1 ≤ n → n ≤ 8 → n ≠ tag := by
      intro n hlow hhigh heq
      omega
    rw [if_neg hle]
    simp [hne]

theorem nested_of_fromNested {text : String} {data : AdditionalData}
    (h : fromNested text = .ok data) :
    Nested data.fields text ∧ ∀ t ∈ data.extra, (t.1 = 0 ∨ 8 < t.1) ∧ t.1 < 100 := by
  cases hparse : parseTlvs text.toList with
  | error e =>
    rw [fromNested, hparse] at h
    cases h
  | ok got =>
    rw [fromNested, hparse] at h
    have hread := foldlM_ok readSub got empty
    have hlast : got.foldl readSub empty = data := Except.ok.inj h
    rw [hlast] at hread
    have hgot := parse_tags hparse
    have hunknown : ∀ t ∈ data.extra, (t.1 = 0 ∨ 8 < t.1) ∧ t.1 < 100 := by
      refine foldlM_keeps (fun d : AdditionalData =>
        ∀ t ∈ d.extra, (t.1 = 0 ∨ 8 < t.1) ∧ t.1 < 100) ?_ (by simp [empty]) hread
      intro s f next hf hstep hs t ht
      cases hstep
      rw [readSub_unknown] at ht
      split at ht
      · rename_i hrange
        rcases List.mem_append.mp ht with ht | ht
        · exact hs t ht
        · rw [List.mem_singleton.mp ht]
          exact ⟨hrange, hgot f hf⟩
      · exact hs t ht
    refine ⟨⟨data.fields_tags (fun t ht => (hunknown t ht).2), got, hparse, ?_⟩, hunknown⟩
    intro tag htag
    rw [valuesOf_fields data tag (fun t ht => (hunknown t ht).1)]
    by_cases hle : 1 ≤ tag ∧ tag ≤ 8
    · rw [if_pos hle]
      refine matches_label (overwritten_part (fun d => d.label tag) tag
        (fun v x => x = some v) ?_ hread) ?_
      · intro s f next hstep
        cases hstep
        rw [readSub_label s f tag hle.1 hle.2]
        split <;> rfl
      · have hnone : empty.label tag = none := by
          unfold label
          split <;> rfl
        simp [hnone]
    · rw [if_neg hle]
      refine matches_collected (collected_part
        (fun d : AdditionalData => unknownOf tag d.extra) tag Eq ?_ hread)
      intro s f next hstep
      cases hstep
      rw [readSub_unknown]
      by_cases hrange : f.tag = 0 ∨ 8 < f.tag
      · rw [if_pos hrange, unknownOf_append, unknownOf_single]
        split
        · exact ⟨f.value, rfl, rfl⟩
        · simp
      · rw [if_neg hrange, if_neg (by omega)]

end AdditionalData

end OzPos
