import Mathlib.Algebra.BigOperators.Group.Finset.Piecewise
import Mathlib.Algebra.Order.BigOperators.Group.Finset
import OzPos.Qris.Tlv

namespace OzPos

variable (tag : Nat)

def valuesOf (fields : List Tlv) : List String :=
  (fields.filter (fun f => f.tag = tag)).map Tlv.value

def wideOf (values : List String) : Nat := (values.map (fun v => wideChars v.toList)).sum

@[simp] theorem valuesOf_nil : valuesOf tag [] = [] := rfl

@[simp] theorem valuesOf_cons (f : Tlv) (fields : List Tlv) :
    valuesOf tag (f :: fields) =
      if f.tag = tag then f.value :: valuesOf tag fields else valuesOf tag fields := by
  unfold valuesOf
  by_cases h : f.tag = tag <;> simp [h]

@[simp] theorem valuesOf_append (l r : List Tlv) :
    valuesOf tag (l ++ r) = valuesOf tag l ++ valuesOf tag r := by
  simp [valuesOf]

variable {fields : List Tlv}

theorem valuesOf_eq_nil {tag : Nat} (h : ∀ f ∈ fields, f.tag ≠ tag) : valuesOf tag fields = [] := by
  induction fields with
  | nil => rfl
  | cons f fields ih =>
    rw [valuesOf_cons, if_neg (h f (List.mem_cons_self ..)),
      ih (fun g hg => h g (List.mem_cons_of_mem _ hg))]

@[simp] theorem wideOf_nil : wideOf [] = 0 := rfl

@[simp] theorem wideOf_cons (v : String) (values : List String) :
    wideOf (v :: values) = wideChars v.toList + wideOf values := by
  simp [wideOf]

@[simp] theorem wideOf_append (l r : List String) : wideOf (l ++ r) = wideOf l + wideOf r := by
  simp [wideOf]

theorem wideOf_by_tag (h : ∀ f ∈ fields, f.tag < 100) :
    wideOf (fields.map Tlv.value) =
      ∑ tag ∈ Finset.range 100, wideOf (valuesOf tag fields) := by
  induction fields with
  | nil => simp
  | cons f fields ih =>
    have htag : f.tag ∈ Finset.range 100 := Finset.mem_range.mpr (h f (List.mem_cons_self ..))
    have hsplit : ∀ tag, wideOf (valuesOf tag (f :: fields)) =
        (if f.tag = tag then wideChars f.value.toList else 0) + wideOf (valuesOf tag fields) := by
      intro tag
      by_cases heq : f.tag = tag <;> simp [heq]
    rw [List.map_cons, wideOf_cons, ih (fun g hg => h g (List.mem_cons_of_mem _ hg)),
      Finset.sum_congr rfl (fun tag _ => hsplit tag), Finset.sum_add_distrib,
      Finset.sum_ite_eq, if_pos htag]

section Reading

variable {σ ε β : Type} {read : σ → Tlv → Except ε σ}

variable {s last : σ}

theorem foldlM_cons_ok {f : Tlv} (h : (f :: fields).foldlM read s = .ok last) :
    ∃ next, read s f = .ok next ∧ fields.foldlM read next = .ok last := by
  rw [List.foldlM_cons] at h
  cases hread : read s f with
  | error e =>
    rw [hread] at h
    cases h
  | ok next =>
    rw [hread] at h
    exact ⟨next, rfl, h⟩

theorem foldlM_keeps (inv : σ → Prop)
    (hstep : ∀ s f next, f ∈ fields → read s f = .ok next → inv s → inv next) (hs : inv s)
    (h : fields.foldlM read s = .ok last) : inv last := by
  induction fields generalizing s with
  | nil =>
    cases h
    exact hs
  | cons f fields ih =>
    obtain ⟨next, hread, hrest⟩ := foldlM_cons_ok h
    exact ih (fun s g next hg => hstep s g next (List.mem_cons_of_mem _ hg))
      (hstep s f next (List.mem_cons_self ..) hread hs) hrest

theorem overwritten_part (part : σ → β) (tag : Nat) (rel : String → β → Prop)
    (hstep : ∀ s f next, read s f = .ok next →
      if f.tag = tag then rel f.value (part next) else part next = part s) (h : fields.foldlM read s = .ok last) :
    (valuesOf tag fields = [] ∧ part last = part s) ∨
      ∃ earlier v, valuesOf tag fields = earlier ++ [v] ∧ rel v (part last) := by
  induction fields generalizing s with
  | nil =>
    cases h
    exact Or.inl ⟨rfl, rfl⟩
  | cons f fields ih =>
    obtain ⟨next, hread, hrest⟩ := foldlM_cons_ok h
    have hpart := hstep s f next hread
    rcases ih hrest with ⟨hnone, hlast⟩ | ⟨earlier, v, hvalues, hrel⟩
    · by_cases htag : f.tag = tag
      · rw [if_pos htag, ← hlast] at hpart
        exact Or.inr ⟨[], f.value, by simp [htag, hnone], hpart⟩
      · rw [if_neg htag] at hpart
        exact Or.inl ⟨by simp [htag, hnone], hlast.trans hpart⟩
    · by_cases htag : f.tag = tag
      · exact Or.inr ⟨f.value :: earlier, v, by simp [htag, hvalues], hrel⟩
      · exact Or.inr ⟨earlier, v, by simp [htag, hvalues], hrel⟩

theorem collected_part (part : σ → List β) (tag : Nat) (rel : String → β → Prop)
    (hstep : ∀ s f next, read s f = .ok next →
      if f.tag = tag then ∃ x, part next = part s ++ [x] ∧ rel f.value x else part next = part s) (h : fields.foldlM read s = .ok last) :
    ∃ more, part last = part s ++ more ∧ List.Forall₂ rel (valuesOf tag fields) more := by
  induction fields generalizing s with
  | nil =>
    cases h
    exact ⟨[], by simp, List.Forall₂.nil⟩
  | cons f fields ih =>
    obtain ⟨next, hread, hrest⟩ := foldlM_cons_ok h
    have hpart := hstep s f next hread
    obtain ⟨more, hlast, hrel⟩ := ih hrest
    by_cases htag : f.tag = tag
    · rw [if_pos htag] at hpart
      obtain ⟨x, hnext, hx⟩ := hpart
      refine ⟨x :: more, ?_, ?_⟩
      · rw [hlast, hnext, List.append_assoc]
        rfl
      · rw [valuesOf_cons, if_pos htag]
        exact List.Forall₂.cons hx hrel
    · rw [if_neg htag] at hpart
      exact ⟨more, by rw [hlast, hpart], by simpa [htag] using hrel⟩

end Reading

/-- How the values read under a tag stand to the values printed under it: all of them are kept,
or only the last one is, or there was nothing outside ASCII to keep. -/
inductive Matches (rel : String → String → Prop) : List String → List String → Prop where
  | ascii (printed got : List String) : wideOf printed = 0 → Matches rel printed got
  | listed (printed got : List String) : List.Forall₂ rel printed got → Matches rel printed got
  | last (v w : String) (earlier : List String) : rel v w → Matches rel [v] (earlier ++ [w])

theorem Matches.mono {rel other : String → String → Prop} (h : ∀ v w, rel v w → other v w)
    {printed got : List String} (hm : Matches rel printed got) : Matches other printed got := by
  cases hm with
  | ascii _ _ hzero => exact Matches.ascii _ _ hzero
  | listed _ _ hall => exact Matches.listed _ _ (hall.imp h)
  | last v w earlier hvw => exact Matches.last v w earlier (h v w hvw)

section Matching

variable {rel : String → String → Prop}
  (hrel : ∀ v w, rel v w → wideChars v.toList ≤ wideChars w.toList)
include hrel

variable {printed got : List String}

theorem wideOf_le_of_forall₂ (h : List.Forall₂ rel printed got) : wideOf printed ≤ wideOf got := by
  induction h with
  | nil => exact Nat.le_refl _
  | cons hvw _ ih =>
    have := hrel _ _ hvw
    simp only [wideOf_cons]
    omega

theorem Matches.wideOf_le (h : Matches rel printed got) : wideOf printed ≤ wideOf got := by
  cases h with
  | ascii _ _ hzero => omega
  | listed _ _ hall => exact wideOf_le_of_forall₂ hrel hall
  | last v w earlier hvw =>
    have := hrel v w hvw
    simp
    omega

theorem forall₂_at_wide {before : List String} {v w : String}
    (h : List.Forall₂ rel (before ++ v :: printed) (before ++ w :: got))
    (heq : wideOf (before ++ v :: printed) = wideOf (before ++ w :: got)) :
    rel v w ∧ wideChars w.toList = wideChars v.toList := by
  induction before with
  | nil =>
    cases h with
    | cons hvw hrest =>
      have hle := hrel v w hvw
      have hrest := wideOf_le_of_forall₂ hrel hrest
      simp only [List.nil_append, wideOf_cons] at heq
      exact ⟨hvw, by omega⟩
  | cons u before ih =>
    cases h with
    | cons _ hrest => exact ih hrest (by simpa using heq)

theorem Matches.at_wide {before : List String} {v w : String}
    (h : Matches rel (before ++ v :: printed) (before ++ w :: got)) (hpos : 0 < wideChars v.toList)
    (hvw : wideChars v.toList ≤ wideChars w.toList)
    (heq : wideOf (before ++ v :: printed) = wideOf (before ++ w :: got)) :
    rel v w ∧ wideChars w.toList = wideChars v.toList := by
  generalize hp : before ++ v :: printed = p at h
  generalize hg : before ++ w :: got = g at h
  cases h with
  | ascii _ _ hzero =>
    rw [← hp] at hzero
    simp at hzero
    omega
  | listed _ _ hall =>
    rw [← hp, ← hg] at hall
    exact forall₂_at_wide hrel hall heq
  | last v' w' earlier hlast =>
    obtain ⟨rfl, rfl, rfl⟩ : before = [] ∧ v = v' ∧ printed = [] := by
      cases before with
      | nil => simpa using hp
      | cons u before => simp at hp
    cases earlier with
    | nil =>
      obtain ⟨rfl, rfl⟩ : w = w' ∧ got = [] := by simpa using hg
      exact ⟨hlast, by simpa using heq.symm⟩
    | cons u earlier =>
      -- the value of the state would have been written a second time
      obtain ⟨rfl, rfl⟩ : w = u ∧ got = earlier ++ [w'] := by simpa using hg
      have := hrel v w' hlast
      simp at heq
      omega

end Matching

variable {text : List Char}

theorem parse_first_wide {total : Nat} {got : List Tlv} {rest : List Char}
    (htags : ∀ f ∈ fields, f.tag < 100) (henc : encodeFields fields = some text)
    (hparse : parseTlvsFrom total (text ++ rest) = .ok got) :
    (∀ f ∈ fields, isAscii f.value.toList = true) ∨
      ∃ before f after stolen others, fields = before ++ f :: after ∧ stolen ≠ [] ∧
        0 < wideChars f.value.toList ∧
        got = before ++ ⟨f.tag, String.ofList (f.value.toList ++ stolen)⟩ :: others := by
  induction fields generalizing text got with
  | nil => exact Or.inl (by simp)
  | cons f fields ih =>
    cases hf : encodeField f.tag f.value.toList with
    | none => simp [encodeFields, hf] at henc
    | some first =>
      cases hl : encodeFields fields with
      | none => simp [encodeFields, hf, hl] at henc
      | some more =>
        simp only [encodeFields, hf, hl, Option.some.injEq] at henc
        subst henc
        rw [List.append_assoc] at hparse
        have htag := htags f (List.mem_cons_self ..)
        have hrest := fun g hg => htags g (List.mem_cons_of_mem _ hg)
        cases hascii : isAscii f.value.toList with
        | true =>
          rw [parseTlvsFrom_ascii htag hascii hf] at hparse
          cases hmore : parseTlvsFrom total (more ++ rest) with
          | error e =>
            rw [hmore] at hparse
            cases hparse
          | ok others =>
            rw [hmore] at hparse
            cases hparse
            rcases ih hrest hl hmore with hall | ⟨before, g, after, stolen, tail, hfields, hne, hpos,
              hgot⟩
            · exact Or.inl (List.forall_mem_cons.mpr ⟨hascii, hall⟩)
            · refine Or.inr ⟨f :: before, g, after, stolen, tail, ?_, hne, hpos, ?_⟩
              · rw [hfields, List.cons_append]
              · rw [hgot, String.ofList_toList, List.cons_append]
        | false =>
          rw [parseTlvsFrom_encodeField htag hf] at hparse
          split at hparse
          · cases hparse
          · rename_i hfit
            split at hparse
            · cases hparse
            · rename_i others _
              cases hparse
              have hne : byteLen f.value.toList ≠ f.value.toList.length := by
                intro h
                rw [byteLen_eq_length_iff, hascii] at h
                cases h
              have hle := length_le_byteLen f.value.toList
              have hpos : wideChars f.value.toList ≠ 0 := by
                intro h
                rw [wideChars_eq_zero_iff, hascii] at h
                cases h
              have htake : (f.value.toList ++ (more ++ rest)).take (byteLen f.value.toList) =
                  f.value.toList ++ (more ++ rest).take
                    (byteLen f.value.toList - f.value.toList.length) := by
                rw [List.take_append, List.take_of_length_le hle]
              refine Or.inr ⟨[], f, fields, (more ++ rest).take
                (byteLen f.value.toList - f.value.toList.length), others, rfl, ?_, by omega, ?_⟩
              · intro hnil
                have hlen := congrArg List.length hnil
                rw [List.length_take, List.length_nil] at hlen
                rw [List.length_append] at hfit
                omega
              · rw [htake, List.nil_append]

theorem wideChars_twoDigits (n : Nat) (h : n < 100) : wideChars (twoDigits n) = 0 := by
  have hhigh := digitChar_ascii (n / 10) (by omega)
  have hlow := digitChar_ascii (n % 10) (by omega)
  rw [wideChars_eq_zero_iff, twoDigits_eq n h]
  simp [isAscii, hhigh, hlow]

theorem wideChars_encodeFields (htags : ∀ f ∈ fields, f.tag < 100)
    (h : encodeFields fields = some text) : wideChars text = wideOf (fields.map Tlv.value) := by
  induction fields generalizing text with
  | nil =>
    cases h
    rfl
  | cons f fields ih =>
    cases hf : encodeField f.tag f.value.toList with
    | none => simp [encodeFields, hf] at h
    | some first =>
      cases hl : encodeFields fields with
      | none => simp [encodeFields, hf, hl] at h
      | some more =>
        simp only [encodeFields, hf, hl, Option.some.injEq] at h
        subst h
        have hrest := ih (fun g hg => htags g (List.mem_cons_of_mem _ hg)) hl
        unfold encodeField at hf
        split at hf
        · rename_i hlen
          cases hf
          have htag := wideChars_twoDigits f.tag (htags f (List.mem_cons_self ..))
          have hsize := wideChars_twoDigits (byteLen f.value.toList) (by omega)
          simp only [wideChars_append, htag, hsize, List.map_cons, wideOf_cons, hrest]
          omega
        · cases hf

theorem ascii_of_matches {total : Nat} {got : List Tlv} {rest : List Char}
    {rel : Nat → String → String → Prop} (htags : ∀ f ∈ fields, f.tag < 100)
    (henc : encodeFields fields = some text)
    (hparse : parseTlvsFrom total (text ++ rest) = .ok got) (hrest : wideChars rest = 0)
    (hrel : ∀ tag v w, rel tag v w → wideChars v.toList ≤ wideChars w.toList)
    (hmatch : ∀ tag < 100, Matches (rel tag) (valuesOf tag fields) (valuesOf tag got))
    (hlonger : ∀ tag v stolen, tag < 100 → 0 < wideChars v.toList → stolen ≠ [] →
      wideChars stolen = 0 → ¬ rel tag v (String.ofList (v.toList ++ stolen))) :
    ∀ f ∈ fields, isAscii f.value.toList = true := by
  have hgot := parse_tags hparse
  have hwide : wideOf (got.map Tlv.value) = wideOf (fields.map Tlv.value) := by
    have hall := wideChars_parse hparse
    rw [wideChars_append, hrest, wideChars_encodeFields htags henc] at hall
    simpa [wideOf, Function.comp_def] using hall
  have hle : ∀ tag ∈ Finset.range 100,
      wideOf (valuesOf tag fields) ≤ wideOf (valuesOf tag got) := fun tag htag =>
    (hmatch tag (Finset.mem_range.mp htag)).wideOf_le (hrel tag)
  rw [wideOf_by_tag hgot, wideOf_by_tag htags] at hwide
  have heq := (Finset.sum_eq_sum_iff_of_le hle).mp hwide.symm
  rcases parse_first_wide htags henc hparse with hall |
    ⟨before, f, after, stolen, others, hfields, hne, hpos, hread⟩
  · exact hall
  · have htag := htags f (by simp [hfields])
    have hhere := hmatch f.tag htag
    have hsame := heq f.tag (Finset.mem_range.mpr htag)
    rw [hfields, hread] at hhere hsame
    simp only [valuesOf_append, valuesOf_cons, if_true] at hhere hsame
    have hlong : wideChars f.value.toList ≤
        wideChars (String.ofList (f.value.toList ++ stolen)).toList := by
      rw [String.toList_ofList, wideChars_append]
      omega
    obtain ⟨hr, hw⟩ := hhere.at_wide (hrel f.tag) hpos hlong hsame
    rw [String.toList_ofList, wideChars_append] at hw
    exact absurd hr (hlonger f.tag f.value stolen htag hpos hne (by omega))

theorem wideOf_le_of_matches {got : List Tlv} (htags : ∀ f ∈ fields, f.tag < 100)
    (hgot : ∀ f ∈ got, f.tag < 100)
    (hmatch : ∀ tag < 100, Matches Eq (valuesOf tag fields) (valuesOf tag got)) :
    wideOf (fields.map Tlv.value) ≤ wideOf (got.map Tlv.value) := by
  rw [wideOf_by_tag hgot, wideOf_by_tag htags]
  apply Finset.sum_le_sum
  intro tag htag
  exact (hmatch tag (Finset.mem_range.mp htag)).wideOf_le (fun v w hvw => by rw [hvw])

theorem matches_label {last start : Option String} {got : List String}
    (h : (got = [] ∧ last = start) ∨ ∃ earlier v, got = earlier ++ [v] ∧ last = some v)
    (hstart : ∀ v ∈ start, wideChars v.toList = 0) : Matches Eq last.toList got := by
  rcases h with ⟨rfl, rfl⟩ | ⟨earlier, v, rfl, rfl⟩
  · apply Matches.ascii
    cases last with
    | none => rfl
    | some v => simp [hstart v rfl]
  · exact Matches.last v v earlier rfl

theorem matches_collected {last got : List String}
    (h : ∃ more, last = [] ++ more ∧ List.Forall₂ Eq got more) : Matches Eq last got := by
  obtain ⟨more, rfl, hall⟩ := h
  rw [List.forall₂_eq_eq_eq] at hall
  subst hall
  exact Matches.listed _ _ (by rw [List.forall₂_eq_eq_eq])

/-- A nested template stands to a text when what is read from the text is what was printed. -/
structure Nested (fields : List Tlv) (text : String) : Prop where
  tags : ∀ f ∈ fields, f.tag < 100
  reads : ∃ got, parseTlvs text.toList = .ok got ∧
    ∀ tag < 100, Matches Eq (valuesOf tag fields) (valuesOf tag got)

theorem Nested.wide_le {printed text : String} (h : Nested fields text)
    (henc : encodeFields fields = some printed.toList) :
    wideChars printed.toList ≤ wideChars text.toList := by
  obtain ⟨got, hparse, hmatch⟩ := h.reads
  have hle := wideOf_le_of_matches h.tags (parse_tags hparse) hmatch
  have hall := wideChars_parse hparse
  rw [wideChars_encodeFields h.tags henc, ← hall]
  simpa [wideOf, Function.comp_def] using hle

theorem Nested.ascii {printed stolen : List Char} {text : String} (h : Nested fields text)
    (henc : encodeFields fields = some printed) (htext : text.toList = printed ++ stolen)
    (hstolen : wideChars stolen = 0) : ∀ f ∈ fields, isAscii f.value.toList = true := by
  obtain ⟨got, hparse, hmatch⟩ := h.reads
  rw [parseTlvs, htext] at hparse
  refine ascii_of_matches h.tags henc hparse hstolen (fun _ v w hvw => by rw [hvw]) hmatch ?_
  intro tag v stolen _ _ hne _ heq
  have := congrArg String.toList heq
  rw [String.toList_ofList] at this
  exact hne (by simpa using this)

theorem wideOf_eq_zero (h : ∀ f ∈ fields, isAscii f.value.toList = true) :
    wideOf (fields.map Tlv.value) = 0 := by
  induction fields with
  | nil => rfl
  | cons f fields ih =>
    have hf := (wideChars_eq_zero_iff f.value.toList).mpr (h f (List.mem_cons_self ..))
    have hrest := ih (fun g hg => h g (List.mem_cons_of_mem _ hg))
    simp [hf, hrest]

theorem Nested.not_longer {printed : String} {stolen : List Char}
    (henc : encodeFields fields = some printed.toList) (hpos : 0 < wideChars printed.toList)
    (hstolen : wideChars stolen = 0) :
    ¬ Nested fields (String.ofList (printed.toList ++ stolen)) := by
  intro h
  have hascii := h.ascii henc (String.toList_ofList) hstolen
  rw [wideChars_encodeFields h.tags henc, wideOf_eq_zero hascii] at hpos
  omega

end OzPos
