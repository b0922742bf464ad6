import OzPos.Commerce.ReplayGuard
import Mathlib.Data.List.Induction

namespace OzPos

/-! The colon-separated keys of the guard, told apart field by field. -/

theorem toList_splitKey (stem : String) (i : Nat) :
    (splitKey stem i).toList = stem.toList ++ ':' :: Nat.toDigits 10 i := by
  have hdigits : (toString i).toList = Nat.toDigits 10 i := Nat.toList_repr
  simp only [splitKey, String.toList_append, hdigits, List.append_assoc]
  rfl

variable (attempt basketKey : String)

theorem toList_rekeyHead :
    (rekeyHead attempt basketKey).toList =
      attempt.toList ++ ':' :: ("rekey".toList ++ ':' :: (basketKey.toList ++ [':', 'v'])) := by
  simp [rekeyHead]

theorem toList_rekeyStem (epoch : Nat) :
    (rekeyStem attempt basketKey epoch).toList =
      (rekeyHead attempt basketKey).toList ++ Nat.toDigits 10 epoch := by
  have hdigits : (toString epoch).toList = Nat.toDigits 10 epoch := Nat.toList_repr
  simp only [rekeyStem, rekeyHead, String.toList_append, hdigits]

theorem colon_notMem_digits (n : Nat) : ':' ∉ Nat.toDigits 10 n := by
  intro h
  have hdigit := Nat.isDigit_of_mem_toDigits (by omega) (by omega) h
  exact absurd hdigit (by decide)

theorem digits_inj {n m : Nat} (h : Nat.toDigits 10 n = Nat.toDigits 10 m) : n = m := by
  rw [← Nat.ofDigitChars_ten_toDigits (n := n), h, Nat.ofDigitChars_ten_toDigits]

theorem cut_colon {x y u v : List Char} (hx : ':' ∉ x) (hy : ':' ∉ y)
    (h : x ++ ':' :: u = y ++ ':' :: v) : x = y ∧ u = v := by
  induction x generalizing y with
  | nil =>
    cases y with
    | nil => simpa using h
    | cons c y =>
      obtain ⟨rfl, -⟩ := List.cons.inj h
      exact absurd (by simp) hy
  | cons c x ih =>
    cases y with
    | nil =>
      obtain ⟨rfl, -⟩ := List.cons.inj h
      exact absurd (by simp) hx
    | cons d y =>
      simp only [List.mem_cons, not_or] at hx hy
      obtain ⟨rfl, hrest⟩ := List.cons.inj h
      obtain ⟨rfl, rfl⟩ := ih hx.2 hy.2 hrest
      exact ⟨rfl, rfl⟩

def IsBasketKey (key : String) : Prop :=
  ∃ kind body : List Char, ':' ∉ kind ∧ ':' ∉ body ∧ key.toList = kind ++ ':' :: body

variable (cart : CartId)

theorem cartBasketKey_isBasketKey : IsBasketKey (cartBasketKey cart) :=
  ⟨"cart".toList, cart.uuid.toList, by decide, cart.colonFree, by simp [cartBasketKey]⟩

theorem colon_notMem_hexByte (b : UInt8) : ':' ∉ hexByte b := by
  have hdigit : ∀ n < 16, Nat.digitChar n ≠ ':' := by decide
  have hb := b.toNat_lt
  have hhigh := hdigit (b.toNat / 16) (by omega)
  have hlow := hdigit (b.toNat % 16) (by omega)
  simp [hexByte, hhigh.symm, hlow.symm]

variable (sha256 : Digest)

variable (args : ShortfallArgs)

theorem colon_notMem_itemsHash : ':' ∉ (itemsHash sha256 args).toList := by
  simp only [itemsHash, String.toList_ofList, List.mem_flatMap, not_exists, not_and]
  intro b _
  exact colon_notMem_hexByte b

theorem toList_shortfallBasketKey :
    (shortfallBasketKey sha256 args).toList =
      "items".toList ++ ':' :: (itemsHash sha256 args).toList := by
  simp [shortfallBasketKey]

theorem toList_cartBasketKey :
    (cartBasketKey cart).toList = "cart".toList ++ ':' :: cart.uuid.toList := by
  simp [cartBasketKey]

theorem basketKey_isBasketKey (sub : Submission) : IsBasketKey (sub.basketKey sha256) := by
  cases sub with
  | completeSaleScoped attempt cartId method splits => exact cartBasketKey_isBasketKey cartId
  | completeSaleWithResolvedShortfalls attempt args =>
    exact ⟨"items".toList, _, by decide, colon_notMem_itemsHash sha256 args,
      toList_shortfallBasketKey sha256 args⟩

theorem cartBasketKey_inj {c d : CartId} (h : cartBasketKey c = cartBasketKey d) : c = d := by
  have htext := congrArg String.toList h
  rw [toList_cartBasketKey, toList_cartBasketKey] at htext
  have huuid := String.toList_injective (cut_colon (by decide) (by decide) htext).2
  cases c
  cases d
  simp_all

theorem cartBasketKey_ne_items (sha256 : Digest) (args : ShortfallArgs) :
    cartBasketKey cart ≠ shortfallBasketKey sha256 args := by
  intro h
  have htext := congrArg String.toList h
  rw [toList_cartBasketKey, toList_shortfallBasketKey] at htext
  exact absurd (cut_colon (by decide) (by decide) htext).1 (by decide)

/-- Where a settlement of an attempt stands: under the attempt itself, or under a basket of it
after so many earlier ones. -/
inductive Slot where
  | base
  | rekey (basketKey : String) (epoch : Nat)

namespace Slot

def Valid : Slot → Prop
  | .base => True
  | .rekey basketKey _ => IsBasketKey basketKey

variable (attempt : AttemptId)

def stem : Slot → String
  | .base => attempt.text
  | .rekey basketKey epoch => rekeyStem attempt.text basketKey epoch

def key (slot : Slot) (i : Nat) : String := splitKey (slot.stem attempt) i

theorem toList_key_base (i : Nat) :
    (base.key attempt i).toList = attempt.text.toList ++ ':' :: Nat.toDigits 10 i :=
  toList_splitKey attempt.text i

theorem toList_key_rekey (basketKey : String) (epoch i : Nat) :
    ((rekey basketKey epoch).key attempt i).toList =
      attempt.text.toList ++ ':' :: ("rekey".toList ++ ':' :: (basketKey.toList ++
        ':' :: ('v' :: Nat.toDigits 10 epoch ++ ':' :: Nat.toDigits 10 i))) := by
  simp only [key, stem, toList_splitKey, toList_rekeyStem, toList_rekeyHead, List.append_assoc,
    List.cons_append, List.nil_append]

variable {a b : AttemptId}

theorem attemptId_ext (h : a.text.toList = b.text.toList) : a = b := by
  have htext := String.toList_injective h
  cases a
  cases b
  simp_all

variable {i : Nat}

theorem base_ne_rekey {basketKey : String} {epoch j : Nat} :
    base.key a i ≠ (rekey basketKey epoch).key b j := by
  intro h
  have htext := congrArg String.toList h
  rw [toList_key_base, toList_key_rekey] at htext
  have hdigits := (cut_colon a.colonFree b.colonFree htext).2
  exact colon_notMem_digits i (by rw [hdigits]; simp)

theorem rekey_fields {k l : String} {u v : List Char} (hk : IsBasketKey k)
    (hl : IsBasketKey l)
    (h : a.text.toList ++ ':' :: ("rekey".toList ++ ':' :: (k.toList ++ ':' :: u)) =
      b.text.toList ++ ':' :: ("rekey".toList ++ ':' :: (l.toList ++ ':' :: v))) :
    a = b ∧ k = l ∧ u = v := by
  obtain ⟨kind, body, hkind, hbody, hktext⟩ := hk
  obtain ⟨kind', body', hkind', hbody', hltext⟩ := hl
  obtain ⟨hattempt, h⟩ := cut_colon a.colonFree b.colonFree h
  have h := (cut_colon (by decide) (by decide) h).2
  simp only [hktext, hltext, List.append_assoc, List.cons_append] at h
  obtain ⟨rfl, hbodies⟩ := cut_colon hkind hkind' h
  obtain ⟨rfl, rfl⟩ := cut_colon hbody hbody' hbodies
  exact ⟨attemptId_ext hattempt, String.toList_injective (hktext.trans hltext.symm), rfl⟩

theorem key_inj {slot other : Slot} {j : Nat} (hslot : slot.Valid) (hother : other.Valid)
    (h : slot.key a i = other.key b j) : a = b ∧ slot = other ∧ i = j := by
  cases slot with
  | base =>
    cases other with
    | base =>
      have htext := congrArg String.toList h
      rw [toList_key_base, toList_key_base] at htext
      obtain ⟨hattempt, hdigits⟩ := cut_colon a.colonFree b.colonFree htext
      exact ⟨attemptId_ext hattempt, rfl, digits_inj hdigits⟩
    | rekey basketKey epoch => exact absurd h base_ne_rekey
  | rekey basketKey epoch =>
    cases other with
    | base => exact absurd h.symm base_ne_rekey
    | rekey basketKey' epoch' =>
      have htext := congrArg String.toList h
      rw [toList_key_rekey, toList_key_rekey] at htext
      obtain ⟨rfl, rfl, hrest⟩ := rekey_fields hslot hother htext
      have hepoch : ∀ n : Nat, ':' ∉ 'v' :: Nat.toDigits 10 n := by
        intro n
        simpa using colon_notMem_digits n
      obtain ⟨hv, hi⟩ := cut_colon (hepoch epoch) (hepoch epoch') hrest
      rw [digits_inj (List.cons.inj hv).2, digits_inj hi]
      exact ⟨rfl, rfl, rfl⟩

theorem toList_head_append (a : AttemptId) (basketKey : String) (t : List Char) :
    (rekeyHead a.text basketKey).toList ++ t =
      a.text.toList ++ ':' :: ("rekey".toList ++ ':' :: (basketKey.toList ++ ':' :: ('v' :: t))) := by
  simp only [toList_rekeyHead, List.append_assoc, List.cons_append, List.nil_append]

theorem rekey_of_head {basketKey : String} {slot : Slot}
    {t : List Char} (hkey : IsBasketKey basketKey) (hslot : slot.Valid)
    (h : (slot.key b i).toList = (rekeyHead a.text basketKey).toList ++ t) :
    a = b ∧ ∃ epoch, slot = .rekey basketKey epoch := by
  rw [toList_head_append] at h
  cases slot with
  | base =>
    rw [toList_key_base] at h
    have hdigits := (cut_colon b.colonFree a.colonFree h).2
    exact absurd (hdigits ▸ by simp) (colon_notMem_digits i)
  | rekey basketKey' epoch =>
    rw [toList_key_rekey] at h
    obtain ⟨rfl, rfl, -⟩ := rekey_fields hslot hkey h
    exact ⟨rfl, epoch, rfl⟩

theorem key_head (a : AttemptId) (basketKey : String) (epoch i : Nat) :
    ((rekey basketKey epoch).key a i).toList = (rekeyHead a.text basketKey).toList ++
      (Nat.toDigits 10 epoch ++ ':' :: Nat.toDigits 10 i) := by
  rw [toList_head_append, toList_key_rekey, List.cons_append]

end Slot

/-- The byte length of the head is its length in characters. -/
def Counted (a : AttemptId) (basketKey : String) : Prop :=
  (rekeyHead a.text basketKey).utf8ByteSize = (rekeyHead a.text basketKey).toList.length

theorem last_two_iff (t : List Char) (i : Nat) :
    (t ++ ':' :: Nat.toDigits 10 i).drop ((t ++ ':' :: Nat.toDigits 10 i).length - 2) = [':', '0'] ↔
      i = 0 := by
  have hpos : 0 < (Nat.toDigits 10 i).length := Nat.length_toDigits_pos
  constructor
  · intro h
    by_cases hone : (Nat.toDigits 10 i).length = 1
    · obtain ⟨d, hd⟩ := List.length_eq_one_iff.mp hone
      have hlast : (t ++ [':', d]).drop ((t ++ [':', d]).length - 2) = [':', d] := by simp
      rw [hd, hlast] at h
      obtain rfl : d = '0' := by simpa using h
      exact digits_inj (hd.trans (by decide : ['0'] = Nat.toDigits 10 0))
    · -- the last two characters are digits
      have hsplit : (t ++ ':' :: Nat.toDigits 10 i).length - 2 =
          (t ++ [':']).length + ((Nat.toDigits 10 i).length - 2) := by
        simp only [List.length_append, List.length_cons, List.length_nil]
        omega
      have hdrop : (t ++ ':' :: Nat.toDigits 10 i).drop
          ((t ++ [':']).length + ((Nat.toDigits 10 i).length - 2)) =
            (Nat.toDigits 10 i).drop ((Nat.toDigits 10 i).length - 2) := by
        rw [← List.drop_drop, show t ++ ':' :: Nat.toDigits 10 i =
          (t ++ [':']) ++ Nat.toDigits 10 i by simp, List.drop_left]
      rw [hsplit, hdrop] at h
      have hcolon : ':' ∈ (Nat.toDigits 10 i).drop ((Nat.toDigits 10 i).length - 2) := by
        rw [h]
        simp
      exact absurd (List.mem_of_mem_drop hcolon) (colon_notMem_digits i)
  · rintro rfl
    simp [Nat.toDigits_zero]

theorem take_head_iff (n : Nat) (head t : List Char) (ht : t ≠ []) :
    (head ++ t).take n = head ↔ n = head.length := by
  constructor
  · intro h
    have hlength := congrArg List.length h
    have hpos := List.length_pos_iff.mpr ht
    rw [List.length_take, List.length_append] at hlength
    omega
  · rintro rfl
    exact List.take_left

theorem countsAs_key_iff (a : AttemptId) (basketKey : String) (epoch i : Nat) :
    countsAs (rekeyHead a.text basketKey) ((Slot.rekey basketKey epoch).key a i) = true ↔
      Counted a basketKey ∧ i = 0 := by
  rw [countsAs, Bool.and_eq_true, decide_eq_true_eq, decide_eq_true_eq, Slot.key_head,
    take_head_iff _ _ _ (by simp), ← List.append_assoc, last_two_iff]
  rfl

variable {basketKey : String} {slot : Slot}

theorem rekey_of_countsAs {a b : AttemptId} {i : Nat} (hkey : IsBasketKey basketKey)
    (hslot : slot.Valid) (h : countsAs (rekeyHead a.text basketKey) (slot.key b i) = true) :
    a = b ∧ ∃ epoch, slot = .rekey basketKey epoch := by
  rw [countsAs, Bool.and_eq_true, decide_eq_true_eq] at h
  obtain ⟨t, ht⟩ := List.take_prefix (rekeyHead a.text basketKey).utf8ByteSize
    (slot.key b i).toList
  rw [h.1] at ht
  exact Slot.rekey_of_head hkey hslot ht.symm

theorem stampedKeys_eq (stem : String) (splits : List PaymentSplitArg) :
    ReplayStore.stampedKeys stem splits = (List.range splits.length).map (splitKey stem) := by
  induction splits using List.reverseRecOn with
  | nil => rfl
  | append_singleton splits split ih =>
    simp only [ReplayStore.stampedKeys, stampAttemptSplitKeys] at ih ⊢
    rw [List.mapIdx_concat, List.filterMap_append, ih, List.length_append, List.length_singleton,
      List.range_succ, List.map_append]
    rfl

/-- The keys of a settlement are the first of one slot. -/
def SettledSale.At (sale : SettledSale) (slot : Slot) : Prop := slot.key sale.attempt 0 ∈ sale.keys

def SettledSale.Stamped (sale : SettledSale) : Prop :=
  ∃ (slot : Slot) (n : Nat), slot.Valid ∧ sale.keys = (List.range n).map (slot.key sale.attempt)

theorem SettledSale.Stamped.mem_keys {sale : SettledSale} (h : sale.Stamped) {key : String}
    (hkey : key ∈ sale.keys) :
    ∃ slot i, slot.Valid ∧ key = slot.key sale.attempt i ∧ sale.At slot := by
  obtain ⟨slot, n, hvalid, hkeys⟩ := h
  rw [hkeys] at hkey
  obtain ⟨i, hi, rfl⟩ := List.mem_map.mp hkey
  have hn := List.mem_range.mp hi
  refine ⟨slot, i, hvalid, rfl, ?_⟩
  rw [At, hkeys]
  exact List.mem_map.mpr ⟨0, List.mem_range.mpr (by omega), rfl⟩

theorem SettledSale.Stamped.of_key {sale : SettledSale} (h : sale.Stamped) {a : AttemptId}
    {i : Nat} (hslot : slot.Valid) (hkey : slot.key a i ∈ sale.keys) :
    sale.attempt = a ∧ sale.At slot := by
  obtain ⟨slot', j, hvalid, heq, hat⟩ := h.mem_keys hkey
  obtain ⟨rfl, rfl, -⟩ := Slot.key_inj hslot hvalid heq
  exact ⟨rfl, hat⟩

theorem countP_elsewhere {a b : AttemptId} (hkey : IsBasketKey basketKey) (hslot : slot.Valid)
    (h : ¬(a = b ∧ ∃ epoch, slot = .rekey basketKey epoch)) (n : Nat) :
    ((List.range n).map (slot.key b)).countP (countsAs (rekeyHead a.text basketKey)) = 0 := by
  rw [List.countP_eq_zero]
  intro key hmem hcounts
  obtain ⟨i, -, rfl⟩ := List.mem_map.mp hmem
  exact h (rekey_of_countsAs hkey hslot hcounts)

theorem countP_own {a : AttemptId} (epoch : Nat) (hcounted : Counted a basketKey) (n : Nat) :
    ((List.range (n + 1)).map ((Slot.rekey basketKey epoch).key a)).countP
      (countsAs (rekeyHead a.text basketKey)) = 1 := by
  have hlater : ((List.range n).map (fun i => (Slot.rekey basketKey epoch).key a (i + 1))).countP
      (countsAs (rekeyHead a.text basketKey)) = 0 := by
    rw [List.countP_eq_zero]
    intro key hmem hcounts
    obtain ⟨i, -, rfl⟩ := List.mem_map.mp hmem
    have hzero := ((countsAs_key_iff a basketKey epoch (i + 1)).mp hcounts).2
    omega
  have hfirst := (countsAs_key_iff a basketKey epoch 0).mpr ⟨hcounted, rfl⟩
  rw [List.range_succ_eq_map, List.map_cons, List.map_map, List.countP_cons_of_pos hfirst]
  exact congrArg (· + 1) hlater

theorem countP_uncounted {a : AttemptId} (epoch : Nat) (hcounted : ¬Counted a basketKey) (n : Nat) :
    ((List.range n).map ((Slot.rekey basketKey epoch).key a)).countP
      (countsAs (rekeyHead a.text basketKey)) = 0 := by
  rw [List.countP_eq_zero]
  intro key hmem hcounts
  obtain ⟨i, -, rfl⟩ := List.mem_map.mp hmem
  exact hcounted ((countsAs_key_iff a basketKey epoch i).mp hcounts).1

namespace ReplayStore

def epochs (s : ReplayStore) (a : AttemptId) (basketKey : String) : Nat :=
  s.countRekeySettlements (rekeyHead a.text basketKey)

/-- The settlements of a basket under an attempt: one for each epoch, all but the last voided. -/
structure Epochs (s : ReplayStore) (a : AttemptId) (basketKey : String) : Prop where
  below : ∀ sale ∈ s.sales, sale.attempt = a → ∀ n, sale.At (.rekey basketKey n) →
    n < s.epochs a basketKey ∨ (s.epochs a basketKey = 0 ∧ n = 0 ∧ ¬Counted a basketKey)
  closed : ∀ sale ∈ s.sales, sale.attempt = a → ∀ n, sale.At (.rekey basketKey n) →
    n + 1 < s.epochs a basketKey → sale.voided = true
  latest : 0 < s.epochs a basketKey →
    ∃ sale ∈ s.sales, sale.attempt = a ∧ sale.At (.rekey basketKey (s.epochs a basketKey - 1))
  counted : 0 < s.epochs a basketKey → Counted a basketKey

structure SalesInv (s : ReplayStore) : Prop where
  stamped : ∀ sale ∈ s.sales, sale.Stamped
  ids : (s.sales.map SettledSale.id).Nodup
  apart : s.sales.Pairwise (fun a b => ∀ key ∈ a.keys, key ∉ b.keys)
  epochs : ∀ a basketKey, IsBasketKey basketKey → s.Epochs a basketKey
  based : ∀ sale ∈ s.sales, ∀ basketKey n, IsBasketKey basketKey →
    sale.At (.rekey basketKey n) → ∃ base ∈ s.sales, base.attempt = sale.attempt ∧ base.At .base

variable {s t : ReplayStore}

theorem epochs_congr (h : t.sales = s.sales) (a : AttemptId)
    (basketKey : String) : t.epochs a basketKey = s.epochs a basketKey := by
  simp only [epochs, countRekeySettlements, paymentKeys, h]

theorem Epochs.congr {a : AttemptId}
    (h : s.Epochs a basketKey) (hsales : t.sales = s.sales) : t.Epochs a basketKey := by
  have hepochs := epochs_congr hsales a basketKey
  constructor
  · rw [hsales, hepochs]
    exact h.below
  · rw [hsales, hepochs]
    exact h.closed
  · rw [hsales, hepochs]
    exact h.latest
  · rw [hepochs]
    exact h.counted

theorem SalesInv.congr (h : s.SalesInv) (hsales : t.sales = s.sales) : t.SalesInv := by
  constructor
  · rw [hsales]
    exact h.stamped
  · rw [hsales]
    exact h.ids
  · rw [hsales]
    exact h.apart
  · intro a basketKey hkey
    exact (h.epochs a basketKey hkey).congr hsales
  · rw [hsales]
    exact h.based

variable {sale : SettledSale}

theorem find?_key {sales : List SettledSale} {key : String}
    (hapart : sales.Pairwise (fun a b => ∀ key ∈ a.keys, key ∉ b.keys)) (hsale : sale ∈ sales)
    (hkey : key ∈ sale.keys) : sales.find? (fun sale => key ∈ sale.keys) = some sale := by
  induction sales with
  | nil => cases hsale
  | cons first rest ih =>
    obtain ⟨hfirst, hrest⟩ := List.pairwise_cons.mp hapart
    rcases List.mem_cons.mp hsale with rfl | hlater
    · simp [hkey]
    · have hother : key ∉ first.keys := fun hmem => hfirst sale hlater key hmem hkey
      simp only [List.find?_cons, hother, decide_false]
      exact ih hrest hlater

theorem SalesInv.find_key (h : s.SalesInv) {key : String} (hsale : sale ∈ s.sales)
    (hkey : key ∈ sale.keys) : s.findSaleByIdempotencyKey key = some sale :=
  find?_key h.apart hsale hkey

theorem find_mem {key : String}
    (h : s.findSaleByIdempotencyKey key = some sale) : sale ∈ s.sales ∧ key ∈ sale.keys :=
  ⟨List.mem_of_find?_eq_some h, by simpa using List.find?_some h⟩

theorem find_none {key : String} (h : s.findSaleByIdempotencyKey key = none) :
    ∀ sale ∈ s.sales, key ∉ sale.keys := by
  simpa [findSaleByIdempotencyKey] using h

theorem salesInv_empty : empty.SalesInv where
  stamped := by simp [empty]
  ids := by simp [empty]
  apart := by simp [empty]
  epochs := by
    intro a basketKey _
    have hzero : empty.epochs a basketKey = 0 := rfl
    constructor
    · simp [empty]
    · simp [empty]
    · simp [hzero]
    · simp [hzero]
  based := by simp [empty]

variable {n : Nat}

theorem at_of_keys (hvalid : slot.Valid)
    (hkeys : sale.keys = (List.range n).map (slot.key sale.attempt)) (other : Slot)
    (hother : other.Valid) (hat : sale.At other) : other = slot ∧ 0 < n := by
  rw [SettledSale.At, hkeys] at hat
  obtain ⟨i, hi, heq⟩ := List.mem_map.mp hat
  have hn := List.mem_range.mp hi
  obtain ⟨-, hslot, -⟩ := Slot.key_inj hvalid hother heq
  exact ⟨hslot.symm, by omega⟩

/-- A new sale that stands at the next epoch of its basket, with the one before it voided. -/
structure Next (s : ReplayStore) (sale : SettledSale) (slot : Slot) (n : Nat) : Prop where
  valid : slot.Valid
  keys : sale.keys = (List.range n).map (slot.key sale.attempt)
  id_fresh : ∀ x ∈ s.sales, x.id ≠ sale.id
  keys_fresh : ∀ key ∈ sale.keys, key ∉ s.paymentKeys
  epoch : ∀ basketKey epoch, slot = .rekey basketKey epoch → epoch = s.epochs sale.attempt basketKey
  closed : ∀ basketKey epoch, slot = .rekey basketKey epoch → 0 < epoch → ∀ x ∈ s.sales,
    x.attempt = sale.attempt → x.At (.rekey basketKey (epoch - 1)) → x.voided = true
  based : ∀ basketKey epoch, slot = .rekey basketKey epoch →
    ∃ base ∈ s.sales, base.attempt = sale.attempt ∧ base.At .base

def append (s : ReplayStore) (sale : SettledSale) : ReplayStore :=
  { s with sales := s.sales ++ [sale] }

theorem epochs_append (s : ReplayStore) (sale : SettledSale) (a : AttemptId) (basketKey : String) :
    (s.append sale).epochs a basketKey =
      s.epochs a basketKey + sale.keys.countP (countsAs (rekeyHead a.text basketKey)) := by
  simp [epochs, countRekeySettlements, paymentKeys, append]

theorem epochs_next (h : s.SalesInv) (hnext : s.Next sale slot n) (a : AttemptId)
    (basketKey : String) (hkey : IsBasketKey basketKey) : (s.append sale).Epochs a basketKey := by
  obtain ⟨hbelow, hclosed, hlatest, hcounted⟩ := h.epochs a basketKey hkey
  have hat : ∀ m, sale.At (.rekey basketKey m) → slot = .rekey basketKey m ∧ 0 < n := by
    intro m hat
    obtain ⟨hslot, hn⟩ := at_of_keys hnext.valid hnext.keys (.rekey basketKey m) hkey hat
    exact ⟨hslot.symm, hn⟩
  have hsplit : ∀ x, x ∈ (s.append sale).sales ↔ x ∈ s.sales ∨ x = sale := by
    intro x
    simp [append]
  by_cases hown : a = sale.attempt ∧ 0 < n ∧ ∃ epoch, slot = .rekey basketKey epoch
  · obtain ⟨rfl, hn, epoch, hslot⟩ := hown
    have hepoch := hnext.epoch basketKey epoch hslot
    obtain ⟨k, rfl⟩ : ∃ k, n = k + 1 := ⟨n - 1, by omega⟩
    have hsale : ∀ m, sale.At (.rekey basketKey m) → m = epoch := by
      intro m hm
      have hsame := (hat m hm).1
      rw [hslot] at hsame
      simpa using hsame.symm
    have hstands : sale.At (.rekey basketKey epoch) := by
      rw [SettledSale.At, hnext.keys, hslot]
      exact List.mem_map.mpr ⟨0, by simp, rfl⟩
    by_cases hseen : Counted sale.attempt basketKey
    · have hcount : (s.append sale).epochs sale.attempt basketKey = epoch + 1 := by
        rw [epochs_append, ← hepoch, hnext.keys, hslot, countP_own epoch hseen k]
      rw [← hepoch] at hbelow hclosed
      constructor
      · intro x hx hattempt m hm
        rw [hcount]
        rcases (hsplit x).mp hx with hold | rfl
        · have hlt := hbelow x hold hattempt m hm
          omega
        · have heq := hsale m hm
          omega
      · intro x hx hattempt m hm hlt
        rw [hcount] at hlt
        rcases (hsplit x).mp hx with hold | rfl
        · by_cases hlast : m + 1 < epoch
          · exact hclosed x hold hattempt m hm hlast
          · obtain rfl : m = epoch - 1 := by omega
            exact hnext.closed basketKey epoch hslot (by omega) x hold hattempt hm
        · have heq := hsale m hm
          omega
      · intro _
        rw [hcount]
        exact ⟨sale, (hsplit sale).mpr (.inr rfl), rfl, hstands⟩
      · intro _
        exact hseen
    · have hzero : s.epochs sale.attempt basketKey = 0 := by
        by_contra hpos
        exact hseen (hcounted (by omega))
      have hcount : (s.append sale).epochs sale.attempt basketKey = 0 := by
        rw [epochs_append, hzero, hnext.keys, hslot, countP_uncounted epoch hseen]
      constructor
      · intro x hx hattempt m hm
        rw [hcount]
        rcases (hsplit x).mp hx with hold | rfl
        · have hlt := hbelow x hold hattempt m hm
          rw [hzero] at hlt
          exact hlt
        · have heq := hsale m hm
          exact .inr ⟨rfl, by omega, hseen⟩
      · intro x _ _ m _ hlt
        rw [hcount] at hlt
        omega
      · intro hpos
        omega
      · intro hpos
        omega
  · -- elsewhere: neither the count nor the settlements of the basket change
    have hcount : (s.append sale).epochs a basketKey = s.epochs a basketKey := by
      rw [epochs_append, hnext.keys]
      by_cases hn : 0 < n
      · rw [countP_elsewhere hkey hnext.valid (fun h => hown ⟨h.1, hn, h.2⟩), Nat.add_zero]
      · obtain rfl : n = 0 := by omega
        rfl
    have hnot : sale.attempt = a → ∀ m, ¬sale.At (.rekey basketKey m) := by
      intro hattempt m hm
      exact hown ⟨hattempt.symm, (hat m hm).2, m, (hat m hm).1⟩
    constructor
    · intro x hx hattempt m hm
      rw [hcount]
      rcases (hsplit x).mp hx with hold | rfl
      · exact hbelow x hold hattempt m hm
      · exact absurd hm (hnot hattempt m)
    · intro x hx hattempt m hm hlt
      rw [hcount] at hlt
      rcases (hsplit x).mp hx with hold | rfl
      · exact hclosed x hold hattempt m hm hlt
      · exact absurd hm (hnot hattempt m)
    · intro hpos
      rw [hcount] at hpos ⊢
      obtain ⟨x, hx, hrest⟩ := hlatest hpos
      exact ⟨x, (hsplit x).mpr (.inl hx), hrest⟩
    · intro hpos
      rw [hcount] at hpos
      exact hcounted hpos

theorem SalesInv.append
    (h : s.SalesInv) (hnext : s.Next sale slot n) : (s.append sale).SalesInv where
  stamped := by
    intro x hx
    rcases List.mem_append.mp hx with hold | hnew
    · exact h.stamped x hold
    · obtain rfl := List.mem_singleton.mp hnew
      exact ⟨slot, n, hnext.valid, hnext.keys⟩
  ids := by
    have hfresh := hnext.id_fresh
    simp only [ReplayStore.append, List.map_append, List.map_cons, List.map_nil]
    refine List.Nodup.append h.ids (List.nodup_singleton _) ?_
    intro id hold hnew
    obtain ⟨x, hx, rfl⟩ := List.mem_map.mp hold
    exact hfresh x hx (List.mem_singleton.mp hnew)
  apart := by
    refine List.pairwise_append.mpr ⟨h.apart, List.pairwise_singleton _ _, ?_⟩
    intro x hx y hy key hold hnew
    obtain rfl := List.mem_singleton.mp hy
    exact hnext.keys_fresh key hnew (List.mem_flatMap.mpr ⟨x, hx, hold⟩)
  epochs := fun a basketKey hkey => epochs_next h hnext a basketKey hkey
  based := by
    intro x hx basketKey m hkey hat
    have hbase : ∃ base ∈ s.sales, base.attempt = x.attempt ∧ base.At .base := by
      rcases List.mem_append.mp hx with hold | hnew
      · exact h.based x hold basketKey m hkey hat
      · obtain rfl := List.mem_singleton.mp hnew
        obtain ⟨hslot, -⟩ := at_of_keys hnext.valid hnext.keys (.rekey basketKey m) hkey hat
        exact hnext.based basketKey m hslot.symm
    obtain ⟨base, hmem, hrest⟩ := hbase
    exact ⟨base, List.mem_append_left _ hmem, hrest⟩

/-- The row of a sale after a void of `saleId`. -/
def voidOf (saleId : String) (sale : SettledSale) : SettledSale :=
  if sale.id = saleId then { sale with voided := true } else sale

variable (saleId : String)

@[simp] theorem voidOf_id (sale : SettledSale) : (voidOf saleId sale).id = sale.id := by
  simp only [voidOf]
  split <;> rfl

@[simp] theorem voidOf_attempt (sale : SettledSale) :
    (voidOf saleId sale).attempt = sale.attempt := by
  simp only [voidOf]
  split <;> rfl

@[simp] theorem voidOf_basket (sale : SettledSale) : (voidOf saleId sale).basket = sale.basket := by
  simp only [voidOf]
  split <;> rfl

@[simp] theorem voidOf_keys (sale : SettledSale) : (voidOf saleId sale).keys = sale.keys := by
  simp only [voidOf]
  split <;> rfl

@[simp] theorem voidOf_at (sale : SettledSale) (slot : Slot) :
    (voidOf saleId sale).At slot ↔ sale.At slot := by
  simp [SettledSale.At]

theorem voidOf_voided (h : sale.voided = true) : (voidOf saleId sale).voided = true := by
  simp only [voidOf]
  split
  · rfl
  · exact h

theorem voidSale_sales (s : ReplayStore) :
    (s.voidSale saleId).sales = s.sales.map (voidOf saleId) := rfl

theorem mem_voidSale {x : SettledSale} :
    x ∈ (s.voidSale saleId).sales ↔ ∃ y ∈ s.sales, voidOf saleId y = x := List.mem_map

theorem epochs_voidSale (s : ReplayStore) (a : AttemptId) (basketKey : String) :
    (s.voidSale saleId).epochs a basketKey = s.epochs a basketKey := by
  have hkeys : (s.voidSale saleId).paymentKeys = s.paymentKeys := by
    simp only [paymentKeys, voidSale_sales, List.flatMap_map, voidOf_keys]
  simp only [epochs, countRekeySettlements, hkeys]

theorem SalesInv.voidSale (h : s.SalesInv) : (s.voidSale saleId).SalesInv where
  stamped := by
    intro x hx
    obtain ⟨y, hy, rfl⟩ := (mem_voidSale saleId).mp hx
    obtain ⟨slot, n, hvalid, hkeys⟩ := h.stamped y hy
    exact ⟨slot, n, hvalid, by simpa only [voidOf_keys, voidOf_attempt] using hkeys⟩
  ids := by
    have hids : (s.voidSale saleId).sales.map SettledSale.id = s.sales.map SettledSale.id := by
      simp [voidSale_sales, Function.comp_def]
    rw [hids]
    exact h.ids
  apart := by
    rw [voidSale_sales, List.pairwise_map]
    exact h.apart.imp (by simp)
  epochs := by
    intro a basketKey hkey
    obtain ⟨hbelow, hclosed, hlatest, hcounted⟩ := h.epochs a basketKey hkey
    constructor
    · intro x hx hattempt n hat
      obtain ⟨y, hy, rfl⟩ := (mem_voidSale saleId).mp hx
      rw [epochs_voidSale]
      exact hbelow y hy (by simpa only [voidOf_attempt] using hattempt) n ((voidOf_at saleId y _).mp hat)
    · intro x hx hattempt n hat hlt
      obtain ⟨y, hy, rfl⟩ := (mem_voidSale saleId).mp hx
      rw [epochs_voidSale] at hlt
      exact voidOf_voided saleId
        (hclosed y hy (by simpa only [voidOf_attempt] using hattempt) n ((voidOf_at saleId y _).mp hat) hlt)
    · intro hpos
      rw [epochs_voidSale] at hpos ⊢
      obtain ⟨y, hy, hattempt, hat⟩ := hlatest hpos
      exact ⟨voidOf saleId y, List.mem_map_of_mem hy, by simpa only [voidOf_attempt] using hattempt,
        (voidOf_at saleId y _).mpr hat⟩
    · intro hpos
      rw [epochs_voidSale] at hpos
      exact hcounted hpos
  based := by
    intro x hx basketKey n hkey hat
    obtain ⟨y, hy, rfl⟩ := (mem_voidSale saleId).mp hx
    obtain ⟨base, hbase, hattempt, hstands⟩ :=
      h.based y hy basketKey n hkey ((voidOf_at saleId y _).mp hat)
    exact ⟨voidOf saleId base, List.mem_map_of_mem hbase, by simpa only [voidOf_attempt] using hattempt,
      (voidOf_at saleId base _).mpr hstands⟩

end ReplayStore

end OzPos
