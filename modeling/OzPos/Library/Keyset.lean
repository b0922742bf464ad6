import Mathlib.Data.List.Sort

/-- Keyset paging: rows ordered by a key, one more than the page size fetched to
learn whether another page follows. -/
structure KeysetPage (α : Type) where
  items : List α
  more : Bool

namespace KeysetPage

variable {α κ : Type} [LinearOrder κ]

variable (key : α → κ) (rows : List α)

def ordered : List α :=
  rows.insertionSort (fun a b => key a ≤ key b)

def take (key : α → κ) (size : Nat) (rows : List α) : KeysetPage α :=
  let fetched := (ordered key rows).take (size + 1)
  if size < fetched.length then ⟨fetched.take size, true⟩ else ⟨fetched, false⟩

theorem mem_ordered (r : α) : r ∈ ordered key rows ↔ r ∈ rows :=
  (List.perm_insertionSort _ rows).mem_iff

theorem pairwise_ordered : (ordered key rows).Pairwise (fun a b => key a ≤ key b) := by
  have htotal : Std.Total (fun a b : α => key a ≤ key b) := ⟨fun a b => le_total (key a) (key b)⟩
  have htrans : IsTrans α (fun a b : α => key a ≤ key b) := ⟨fun _ _ _ hab hbc => hab.trans hbc⟩
  exact List.pairwise_insertionSort _ rows

theorem items_eq (size : Nat) (rows : List α) :
    (take key size rows).items = (ordered key rows).take size := by
  unfold take
  by_cases h : size < ((ordered key rows).take (size + 1)).length
  · rw [if_pos h, List.take_take]
    simp
  · rw [if_neg h]
    rw [List.length_take] at h
    have hlen : (ordered key rows).length ≤ size := by omega
    rw [List.take_of_length_le hlen, List.take_of_length_le (by omega)]

theorem more_iff (size : Nat) (rows : List α) :
    (take key size rows).more = true ↔ size < (ordered key rows).length := by
  unfold take
  by_cases h : size < ((ordered key rows).take (size + 1)).length
  · rw [if_pos h]
    rw [List.length_take] at h
    simp; omega
  · rw [if_neg h]
    rw [List.length_take] at h
    simp; omega

variable {key : α → κ} {rows : List α} {size : Nat} {r : α}

theorem mem_of_mem_items (h : r ∈ (take key size rows).items) : r ∈ rows := by
  rw [items_eq] at h
  exact (mem_ordered key rows r).mp (List.mem_of_mem_take h)

theorem lt_of_not_mem (hinj : ∀ a ∈ rows, ∀ b ∈ rows, key a = key b → a = b) (hr : r ∈ rows)
    (hout : r ∉ (take key size rows).items) :
    (take key size rows).more = true ∧ ∀ a ∈ (take key size rows).items, key a < key r := by
  rw [items_eq] at hout ⊢
  have hr' := (mem_ordered key rows r).mpr hr
  have hsplit := List.take_append_drop size (ordered key rows)
  have hdrop : r ∈ (ordered key rows).drop size := by
    rw [← hsplit, List.mem_append] at hr'
    rcases hr' with h | h
    · exact absurd h hout
    · exact h
  constructor
  · rw [more_iff]
    have hpos := List.length_pos_of_mem hdrop
    rw [List.length_drop] at hpos
    omega
  · intro a ha
    have hsorted := pairwise_ordered key rows
    rw [← hsplit, List.pairwise_append] at hsorted
    have hle := hsorted.2.2 a ha r hdrop
    have hmem := (mem_ordered key rows a).mp (List.mem_of_mem_take ha)
    apply lt_of_le_of_ne hle
    intro heq
    have := hinj a hmem r hr heq
    subst this
    exact hout ha

theorem pairwise_lt_ordered (hd : (rows.map key).Nodup) :
    (ordered key rows).Pairwise (fun a b => key a < key b) := by
  have hperm := ((List.perm_insertionSort (fun a b => key a ≤ key b) rows).map key).nodup_iff
  have hne := List.pairwise_map.mp (hperm.mpr hd)
  exact ((pairwise_ordered key rows).and hne).imp (fun h => lt_of_le_of_ne h.1 h.2)

theorem eq_of_pairwise_lt {l r : List α} (hl : l.Pairwise (fun a b => key a < key b))
    (hr : r.Pairwise (fun a b => key a < key b)) (hmem : ∀ a, a ∈ l ↔ a ∈ r) : l = r := by
  have hnl : l.Nodup := hl.imp (fun h heq => absurd (congrArg key heq) (ne_of_lt h))
  have hnr : r.Nodup := hr.imp (fun h heq => absurd (congrArg key heq) (ne_of_lt h))
  have hperm : l.Perm r := (List.perm_ext_iff_of_nodup hnl hnr).mpr hmem
  refine hperm.eq_of_pairwise ?_ hl hr
  intro a b _ _ hab hba
  exact absurd hab (lt_asymm hba)

theorem ordered_filter (hd : (rows.map key).Nodup)
    (p : α → Bool) : ordered key (rows.filter p) = (ordered key rows).filter p := by
  have hd' : ((rows.filter p).map key).Nodup :=
    hd.sublist ((List.filter_sublist).map key)
  have hr : ((ordered key rows).filter p).Pairwise (fun a b => key a < key b) :=
    (pairwise_lt_ordered hd).filter p
  apply eq_of_pairwise_lt (pairwise_lt_ordered hd') hr
  intro a
  simp [mem_ordered]

def beyond (key : α → κ) (rows : List α) : Option κ → List α
  | none => rows
  | some p => rows.filter (fun r => p < key r)

theorem beyond_sublist (key : α → κ) (rows : List α) (start : Option κ) :
    (beyond key rows start).Sublist rows := by
  cases start with
  | none => exact List.Sublist.refl rows
  | some p => exact List.filter_sublist

def next (page : KeysetPage α) : Option α := if page.more then page.items.getLast? else none

/-- Pages asked for one after the other, each from the place that the last row
of the page before is sent as. -/
def follow (key place : α → κ) (size : Nat) (rows : List α) :
    Nat → Option κ → Option (List (List α))
  | 0, _ => none
  | fuel + 1, start =>
    let page := take key size (beyond key rows start)
    match page.next with
    | none => some [page.items]
    | some last => (follow key place size rows fuel (some (place last))).map (page.items :: ·)

theorem next_eq (key : α → κ) (hsize : 0 < size) (rows : List α) :
    (take key size rows).next =
      if size < (ordered key rows).length then (ordered key rows)[size - 1]? else none := by
  unfold next
  rw [items_eq]
  by_cases h : size < (ordered key rows).length
  · rw [if_pos ((more_iff key size rows).mpr h), if_pos h, List.getLast?_eq_getElem?,
      List.length_take, List.getElem?_take]
    rw [if_pos (by omega)]
    congr 1
    omega
  · rw [if_neg h, if_neg]
    rw [more_iff]
    exact h

theorem next_of_more (hsize : 0 < size) (hmore : (take key size rows).more = true) :
    ∃ last, (take key size rows).next = some last ∧ last ∈ (take key size rows).items := by
  have hlen := (more_iff key size rows).mp hmore
  have hnext := next_eq key hsize rows
  rw [if_pos hlen, List.getElem?_eq_getElem (by omega)] at hnext
  refine ⟨_, hnext, ?_⟩
  unfold next at hnext
  rw [if_pos hmore] at hnext
  exact List.mem_of_getLast? hnext

theorem filter_beyond {front back : List α}
    (h : (front ++ r :: back).Pairwise (fun a b => key a < key b)) :
    (front ++ r :: back).filter (fun a => decide (key r < key a)) = back := by
  rw [List.pairwise_append, List.pairwise_cons] at h
  obtain ⟨_, ⟨hback, _⟩, hfront⟩ := h
  have h1 : front.filter (fun a => decide (key r < key a)) = [] := by
    rw [List.filter_eq_nil_iff]
    intro a ha
    have := hfront a ha r (List.mem_cons_self ..)
    simp [le_of_lt this]
  have h2 : back.filter (fun a => decide (key r < key a)) = back := by
    rw [List.filter_eq_self]
    intro a ha
    simp [hback a ha]
  rw [List.filter_append, List.filter_cons_of_neg (by simp), h1, h2]
  rfl

/-- The last row of a page that is not the last page. -/
def IsBoundary (size : Nat) (rows : List α) (r : α) : Prop :=
  ∃ k, size * (k + 1) < rows.length ∧ rows[size * (k + 1) - 1]? = some r

theorem isBoundary_iff (hsize : 0 < size) (hlen : size < rows.length) (r : α) :
    IsBoundary size rows r ↔ rows[size - 1]? = some r ∨ IsBoundary size (rows.drop size) r := by
  constructor
  · rintro ⟨k, hk, hr⟩
    cases k with
    | zero => exact .inl (by simpa using hr)
    | succ k =>
      right
      refine ⟨k, ?_, ?_⟩
      · rw [List.length_drop]
        rw [Nat.mul_succ] at hk
        omega
      · have hpos : 0 < size * (k + 1) := Nat.mul_pos hsize (by omega)
        rw [List.getElem?_drop]
        rw [← hr, Nat.mul_succ size (k + 1)]
        congr 1
        omega
  · rintro (hr | ⟨k, hk, hr⟩)
    · exact ⟨0, by simpa using hlen, by simpa using hr⟩
    · have hpos : 0 < size * (k + 1) := Nat.mul_pos hsize (by omega)
      rw [List.length_drop] at hk
      rw [List.getElem?_drop] at hr
      refine ⟨k + 1, ?_, ?_⟩
      · rw [Nat.mul_succ]
        omega
      · rw [← hr, Nat.mul_succ size (k + 1)]
        congr 1
        omega

theorem ordered_beyond_drop {front back : List α} {last : α}
    (hd : (rows.map key).Nodup) (hsize : 0 < size) (hall : ordered key rows = front ++ back)
    (hlast : back[size - 1]? = some last) :
    ordered key (beyond key rows (some (key last))) = back.drop size := by
  have hsplit : back = back.take (size - 1) ++ last :: back.drop size := by
    have hlt : size - 1 < back.length := by
      rw [List.getElem?_eq_some_iff] at hlast
      exact hlast.1
    have hget : back[size - 1] = last := (List.getElem?_eq_some_iff.mp hlast).2
    have hcons := List.drop_eq_getElem_cons hlt
    rw [hget, show size - 1 + 1 = size by omega] at hcons
    rw [← hcons, List.take_append_drop]
  have hlt := pairwise_lt_ordered hd
  unfold beyond
  rw [ordered_filter hd]
  rw [hall, hsplit, ← List.append_assoc] at hlt ⊢
  exact (filter_beyond hlt).trans (by rw [← hsplit])

variable {place : α → κ}

theorem follow_complete (hd : (rows.map key).Nodup) (hsize : 0 < size) (n : Nat)
    (front back : List α) (start : Option κ) (hall : ordered key rows = front ++ back)
    (hn : back.length ≤ n) (hstart : ordered key (beyond key rows start) = back)
    (hplace : ∀ r, IsBoundary size back r → place r = key r) :
    ∃ pages, follow key place size rows (n + 1) start = some pages ∧ pages.flatten = back := by
  induction n generalizing front back start with
  | zero =>
    have hnil : back = [] := List.eq_nil_of_length_eq_zero (by omega)
    refine ⟨[back], ?_, by simp⟩
    have hnext := next_eq key hsize (beyond key rows start)
    have hitems := items_eq key size (beyond key rows start)
    rw [hstart, hnil] at hnext hitems
    simp [follow, hnext, hitems, hnil]
  | succ n ih =>
    have hnext := next_eq key hsize (beyond key rows start)
    have hitems := items_eq key size (beyond key rows start)
    rw [hstart] at hnext hitems
    by_cases hlen : size < back.length
    · obtain ⟨last, hlast⟩ : ∃ last, back[size - 1]? = some last :=
        ⟨back[size - 1], List.getElem?_eq_getElem (by omega)⟩
      rw [if_pos hlen, hlast] at hnext
      have hb := isBoundary_iff hsize hlen
      have hself : place last = key last := hplace last ((hb last).mpr (.inl hlast))
      have hdrop := ordered_beyond_drop hd hsize hall hlast
      obtain ⟨pages, hpages, hflat⟩ := ih (front ++ back.take size) (back.drop size)
        (some (key last)) (by rw [hall]; simp) (by rw [List.length_drop]; omega) hdrop
        (fun r hr => hplace r ((hb r).mpr (.inr hr)))
      refine ⟨back.take size :: pages, ?_, by simp [hflat]⟩
      unfold follow
      simp only [hnext, hitems, hself, hpages, Option.map_some]
    · rw [if_neg hlen] at hnext
      refine ⟨[back], ?_, by simp⟩
      unfold follow
      simp only [hnext, hitems]
      rw [List.take_of_length_le (by omega)]

theorem follow_prefix {fuel : Nat} {start : Option κ}
    {pages : List (List α)} (h : follow key place size rows fuel start = some pages) :
    (ordered key (beyond key rows start)).take size <+: pages.flatten := by
  cases fuel with
  | zero => simp [follow] at h
  | succ fuel =>
    unfold follow at h
    rw [← items_eq]
    cases hn : (take key size (beyond key rows start)).next with
    | none =>
      simp only [hn, Option.some.injEq] at h
      simp [← h]
    | some last =>
      simp only [hn, Option.map_eq_some_iff] at h
      obtain ⟨later, _, rfl⟩ := h
      simp

theorem follow_restarts {fuel : Nat} {last : α}
    {later : List (List α)} (hd : (rows.map key).Nodup) (hsize : 0 < size) (hlast : last ∈ rows)
    (hlt : place last < key last)
    (h : follow key place size rows fuel (some (place last)) = some later) :
    ∃ first ∈ later.flatten, key first ≤ key last := by
  have hmem : last ∈ ordered key (beyond key rows (some (place last))) := by
    rw [mem_ordered]
    exact List.mem_filter.mpr ⟨hlast, by simp [hlt]⟩
  have hprefix := follow_prefix h
  have hd' : ((beyond key rows (some (place last))).map key).Nodup :=
    hd.sublist ((List.filter_sublist).map key)
  have hsorted := pairwise_lt_ordered hd'
  cases hahead : ordered key (beyond key rows (some (place last))) with
  | nil => simp [hahead] at hmem
  | cons first rest =>
    rw [hahead] at hprefix hmem hsorted
    refine ⟨first, ?_, ?_⟩
    · apply hprefix.subset
      cases size with
      | zero => omega
      | succ size => simp
    · rcases List.mem_cons.mp hmem with rfl | hrest
      · exact le_rfl
      · exact le_of_lt ((List.pairwise_cons.mp hsorted).1 last hrest)

theorem place_eq_of_follow (hd : (rows.map key).Nodup) (hsize : 0 < size)
    (hle : ∀ r, place r ≤ key r) (fuel : Nat) (front back : List α) (start : Option κ)
    (pages : List (List α)) (hall : ordered key rows = front ++ back)
    (hstart : ordered key (beyond key rows start) = back)
    (h : follow key place size rows fuel start = some pages) (hflat : pages.flatten = back)
    (r : α) (hr : IsBoundary size back r) : place r = key r := by
  induction fuel generalizing front back start pages with
  | zero => simp [follow] at h
  | succ fuel ih =>
    have hnext := next_eq key hsize (beyond key rows start)
    have hitems := items_eq key size (beyond key rows start)
    rw [hstart] at hnext hitems
    have hlen : size < back.length := by
      obtain ⟨k, hk, _⟩ := hr
      rw [Nat.mul_succ] at hk
      omega
    obtain ⟨last, hlast⟩ : ∃ last, back[size - 1]? = some last :=
      ⟨back[size - 1], List.getElem?_eq_getElem (by omega)⟩
    rw [if_pos hlen, hlast] at hnext
    unfold follow at h
    simp only [hnext, hitems, Option.map_eq_some_iff] at h
    obtain ⟨later, hlater, rfl⟩ := h
    have hsplit := List.take_append_drop size back
    rw [List.flatten_cons] at hflat
    have hflat' : later.flatten = back.drop size :=
      List.append_cancel_left (hflat.trans hsplit.symm)
    have hsorted := pairwise_lt_ordered hd
    rw [hall, List.pairwise_append] at hsorted
    have hlater_lt : ∀ a ∈ back.drop size, key last < key a := by
      have hback := hsorted.2.1
      rw [← hsplit, List.pairwise_append] at hback
      refine hback.2.2 last (List.mem_iff_getElem?.mpr ⟨size - 1, ?_⟩)
      rw [List.getElem?_take, if_pos (by omega)]
      exact hlast
    have hself : place last = key last := by
      by_contra hne
      have hin : last ∈ rows := by
        rw [← mem_ordered key, hall]
        exact List.mem_append_right _ (List.mem_of_getElem? hlast)
      obtain ⟨first, hfirst, hbefore⟩ := follow_restarts hd hsize hin
        (lt_of_le_of_ne (hle last) hne) hlater
      rw [hflat'] at hfirst
      exact absurd hbefore (not_le_of_gt (hlater_lt first hfirst))
    rcases (isBoundary_iff hsize hlen r).mp hr with hfirst | hbeyond
    · rw [hlast] at hfirst
      cases hfirst
      exact hself
    · rw [hself] at hlater
      exact ih (front ++ back.take size) (back.drop size) (some (key last)) later
        (by rw [hall]; simp) (ordered_beyond_drop hd hsize hall hlast) hlater hflat' hbeyond

end KeysetPage
