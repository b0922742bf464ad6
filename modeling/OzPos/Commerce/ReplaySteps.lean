import OzPos.Commerce.ReplayInvariant

namespace OzPos

theorem SettledSale.At.key {sale : SettledSale} {slot : Slot} (h : sale.At slot) {a : AttemptId}
    (ha : sale.attempt = a) : splitKey (slot.stem a) 0 ∈ sale.keys := by
  subst ha
  exact h

namespace ReplayStore

variable (s : ReplayStore) (a : AttemptId)

/-- The attempt of a submission has a sale under its own first key. -/
def HasBase : Prop :=
  ∃ base ∈ s.sales, base.attempt = a ∧ base.At .base

def Answers (basketKey : String) (cart : CartId) (sale : SettledSale) : Prop :=
  sale ∈ s.sales ∧ sale.attempt = a ∧ sale.voided = false ∧
    ((0 < s.epochs a basketKey ∧ sale.At (.rekey basketKey (s.epochs a basketKey - 1))) ∨
      (s.epochs a basketKey = 0 ∧ sale.At .base ∧ s.loadActiveCart cart = none ∧
        s.findSaleByIdempotencyKey (splitKey a.text 0) = some sale))

/-- What is left of a basket before its next settlement under the attempt. -/
structure Reopened (s : ReplayStore) (a : AttemptId) (basketKey : String) (cart : CartId) :
    Prop where
  based : s.HasBase a
  closed : 0 < s.epochs a basketKey → ∀ x ∈ s.sales, x.attempt = a →
    x.At (.rekey basketKey (s.epochs a basketKey - 1)) → x.voided = true
  first : s.epochs a basketKey = 0 → ∀ base, s.findSaleByIdempotencyKey (splitKey a.text 0) =
    some base → base.voided = true ∨ (s.loadActiveCart cart).isSome

def Tells (basketKey : String) (cart : CartId) :
    ReplayVerdict → Prop
  | .replayed sale => s.Answers a basketKey cart sale
  | .fresh => s.epochs a basketKey = 0 ∧ ¬s.HasBase a
  | .rekey stem =>
    stem = (Slot.rekey basketKey (s.epochs a basketKey)).stem a ∧ s.Reopened a basketKey cart

variable {s : ReplayStore}

theorem find_base (h : s.SalesInv) {a : AttemptId} {sale : SettledSale}
    (hfind : s.findSaleByIdempotencyKey (splitKey a.text 0) = some sale) :
    sale ∈ s.sales ∧ sale.attempt = a ∧ sale.At .base := by
  obtain ⟨hmem, hkey⟩ := find_mem hfind
  have hvalid : Slot.base.Valid := trivial
  exact ⟨hmem, (h.stamped sale hmem).of_key hvalid hkey⟩

theorem baseVerdict_tells (h : s.SalesInv) {a : AttemptId} {basketKey : String}
    {cart : CartId} (hzero : s.epochs a basketKey = 0) {verdict : ReplayVerdict}
    (hverdict : baseVerdict s a (some basketKey) (some cart) = .ok verdict) :
    s.Tells a basketKey cart verdict := by
  unfold baseVerdict at hverdict
  cases hfind : s.findSaleByIdempotencyKey (splitKey a.text 0) with
  | none =>
    simp only [hfind, Except.ok.injEq] at hverdict
    subst hverdict
    refine ⟨hzero, ?_⟩
    rintro ⟨base, hmem, rfl, hat⟩
    exact find_none hfind base hmem hat
  | some sale =>
    obtain ⟨hmem, hattempt, hat⟩ := find_base h hfind
    have hrekey : ∀ stem, rekeyStem a.text basketKey (s.epochs a basketKey) = stem →
        (sale.voided = true ∨ (s.loadActiveCart cart).isSome) →
        s.Tells a basketKey cart (.rekey stem) := by
      intro stem hstem hwhy
      refine ⟨hstem.symm, ⟨sale, hmem, hattempt, hat⟩, fun hpos => by omega, ?_⟩
      intro _ base hbase
      rw [hfind] at hbase
      obtain rfl := Option.some.inj hbase
      exact hwhy
    simp only [hfind] at hverdict
    split at hverdict
    · rename_i hvoided
      obtain rfl := Except.ok.inj hverdict
      exact hrekey _ rfl (.inl hvoided)
    · rename_i hstands
      split at hverdict
      · rename_i hlive
        obtain rfl := Except.ok.inj hverdict
        exact hrekey _ rfl (.inr hlive)
      · rename_i hgone
        obtain rfl := Except.ok.inj hverdict
        exact ⟨hmem, hattempt, by simpa using hstands,
          .inr ⟨hzero, hat, by simpa using hgone, hfind⟩⟩

theorem verdict_tells (h : s.SalesInv) (sha256 : Digest) (sub : Submission)
    {verdict : ReplayVerdict} (hverdict : sub.verdict sha256 s = .ok verdict) :
    s.Tells sub.attempt (sub.basketKey sha256) sub.cartId verdict := by
  have hkey := basketKey_isBasketKey sha256 sub
  obtain ⟨-, -, hlatest, -⟩ := h.epochs sub.attempt (sub.basketKey sha256) hkey
  unfold Submission.verdict replayVerdict at hverdict
  simp only at hverdict
  split at hverdict
  · rename_i hpos
    obtain ⟨sale, hmem, hattempt, hat⟩ := hlatest hpos
    have hfind := h.find_key hmem (hat.key hattempt)
    simp only [Slot.stem, epochs] at hfind
    rw [hfind] at hverdict
    simp only at hverdict
    split at hverdict
    · rename_i hvoided
      obtain rfl := Except.ok.inj hverdict
      refine ⟨rfl, ?_, ?_, fun hzero => absurd hpos (by rw [epochs] at hzero; omega)⟩
      · obtain ⟨base, hbase, hsame, hstands⟩ := h.based sale hmem _ _ hkey hat
        exact ⟨base, hbase, hsame.trans hattempt, hstands⟩
      · intro _ x hx hxattempt hxat
        have hsame := (h.find_key hx (hxat.key hxattempt)).symm.trans
          (h.find_key hmem (hat.key hattempt))
        obtain rfl := Option.some.inj hsame
        exact hvoided
    · rename_i hstands
      obtain rfl := Except.ok.inj hverdict
      exact ⟨hmem, hattempt, by simpa using hstands, .inl ⟨hpos, hat⟩⟩
  · rename_i hzero
    exact baseVerdict_tells h (by rw [epochs]; omega) hverdict

def settlement (sub : Submission) (stem : String) (basket : Basket) (draw : SettleDraw) :
    SettledSale :=
  ⟨draw.saleId, sub.attempt, basket, draw.total, false, stampedKeys stem (sub.splits draw.total)⟩

/-- The settlement goes through: neither its id nor a key of it is taken. -/
structure Free (s : ReplayStore) (sale : SettledSale) : Prop where
  id : ∀ x ∈ s.sales, x.id ≠ sale.id
  keys : ∀ key ∈ sale.keys, key ∉ s.paymentKeys

theorem Free.congr {t : ReplayStore} {sale : SettledSale} (h : t.Free sale)
    (hsales : t.sales = s.sales) : s.Free sale := by
  obtain ⟨hid, hkeys⟩ := h
  simp only [paymentKeys, hsales] at hid hkeys
  exact ⟨hid, hkeys⟩

theorem settle_cases (s : ReplayStore) (sub : Submission) (stem : String) (basket : Basket)
    (draw : SettleDraw) :
    (∃ e, s.settle sub stem basket draw = (s, .error e)) ∨
      (s.Free (settlement sub stem basket draw) ∧
        s.settle sub stem basket draw = (s.append (settlement sub stem basket draw),
          .ok ⟨replayReceipt (settlement sub stem basket draw), false⟩)) := by
  unfold settle
  cases draw.failure with
  | some e => exact .inl ⟨e, rfl⟩
  | none =>
    simp only
    split
    · exact .inl ⟨_, rfl⟩
    · rename_i hfree
      simp only [Bool.or_eq_true, not_or, List.any_eq_true, decide_eq_true_eq, not_exists,
        not_and] at hfree
      exact .inr ⟨⟨hfree.1, hfree.2⟩, rfl⟩

def readied (s : ReplayStore) : Submission → ReplayStore
  | .completeSaleScoped _ cartId _ _ => s.deleteActiveCart cartId
  | .completeSaleWithResolvedShortfalls .. => s

theorem readied_sales (s : ReplayStore) (sub : Submission) : (s.readied sub).sales = s.sales := by
  cases sub with
  | completeSaleScoped attempt cartId method splits =>
    simp only [readied, deleteActiveCart]
    split <;> rfl
  | completeSaleWithResolvedShortfalls attempt args => rfl

theorem checkOut_cases (s : ReplayStore) (sub : Submission) (stem : String) (draw : SettleDraw) :
    (∃ t e, s.checkOut sub stem draw = (t, .error e) ∧ (t = s ∨ t = s.readied sub)) ∨
      (∃ basket ∈ s.basketOf sub, s.Free (settlement sub stem basket draw) ∧
        s.checkOut sub stem draw = ((s.readied sub).append (settlement sub stem basket draw),
          .ok ⟨replayReceipt (settlement sub stem basket draw), false⟩)) := by
  cases sub with
  | completeSaleScoped attempt cartId method splits =>
    cases hload : s.loadActiveCart cartId with
    | none =>
      left
      exact ⟨s, .invalid s!"cart not found: {cartId.uuid}", by simp only [checkOut, hload], .inl rfl⟩
    | some basket =>
      have hout : s.checkOut (.completeSaleScoped attempt cartId method splits) stem draw =
          (s.deleteActiveCart cartId).settle (.completeSaleScoped attempt cartId method splits)
            stem basket draw := by
        simp only [checkOut, hload]
      rw [hout]
      rcases settle_cases (s.deleteActiveCart cartId)
        (.completeSaleScoped attempt cartId method splits) stem basket draw with
        ⟨e, he⟩ | ⟨hfree, hok⟩
      · exact .inl ⟨_, e, he, .inr rfl⟩
      · exact .inr ⟨basket, by simp [basketOf, hload], hfree.congr (readied_sales s
          (.completeSaleScoped attempt cartId method splits)), hok⟩
  | completeSaleWithResolvedShortfalls attempt args =>
    rcases settle_cases s (.completeSaleWithResolvedShortfalls attempt args) stem args.basket draw
      with ⟨e, he⟩ | ⟨hfree, hok⟩
    · exact .inl ⟨s, e, he, .inl rfl⟩
    · exact .inr ⟨args.basket, rfl, hfree, hok⟩

def Opens (s : ReplayStore) (a : AttemptId) (basketKey : String) (cart : CartId) (slot : Slot) :
    Prop :=
  (slot = .base ∧ s.epochs a basketKey = 0 ∧ ¬s.HasBase a) ∨
    (slot = .rekey basketKey (s.epochs a basketKey) ∧ s.Reopened a basketKey cart)

/-- A refusal, a replay, or a new sale at the next slot of its basket. -/
inductive Submitted (sha256 : Digest) (s : ReplayStore) (sub : Submission) (draw : SettleDraw) :
    ReplayStore × Except BridgeError CheckoutReceipt → Prop where
  | refused (t : ReplayStore) (e : BridgeError) (ht : t = s ∨ t = s.readied sub) :
    Submitted sha256 s sub draw (t, .error e)
  | replayed (sale : SettledSale) (hverdict : sub.verdict sha256 s = .ok (.replayed sale)) :
    Submitted sha256 s sub draw (s, .ok ⟨replayReceipt sale, true⟩)
  | settled (slot : Slot) (basket : Basket) (hbasket : basket ∈ s.basketOf sub)
    (hopens : s.Opens sub.attempt (sub.basketKey sha256) sub.cartId slot)
    (hfree : s.Free (settlement sub (slot.stem sub.attempt) basket draw)) :
    Submitted sha256 s sub draw
      ((s.readied sub).append (settlement sub (slot.stem sub.attempt) basket draw),
        .ok ⟨replayReceipt (settlement sub (slot.stem sub.attempt) basket draw), false⟩)

variable {sha256 : Digest} {sub : Submission} {slot : Slot}

theorem submitted_checkOut (draw : SettleDraw)
    (hopens : s.Opens sub.attempt (sub.basketKey sha256) sub.cartId slot) :
    Submitted sha256 s sub draw (s.checkOut sub (slot.stem sub.attempt) draw) := by
  rcases checkOut_cases s sub (slot.stem sub.attempt) draw with
    ⟨t, e, hout, ht⟩ | ⟨basket, hbasket, hfree, hout⟩
  · rw [hout]
    exact .refused t e ht
  · rw [hout]
    exact .settled slot basket hbasket hopens hfree

theorem submit_submitted (h : s.SalesInv) (sha256 : Digest) (sub : Submission)
    (draw : SettleDraw) : Submitted sha256 s sub draw (s.submit sha256 sub draw) := by
  unfold submit
  cases hverdict : sub.verdict sha256 s with
  | error e => exact .refused s e (.inl rfl)
  | ok verdict =>
    have htells := verdict_tells h sha256 sub hverdict
    cases verdict with
    | replayed sale => exact .replayed sale hverdict
    | fresh =>
      have hopens : s.Opens sub.attempt (sub.basketKey sha256) sub.cartId .base :=
        .inl ⟨rfl, htells.1, htells.2⟩
      change Submitted sha256 s sub draw (s.checkOut sub (Slot.base.stem sub.attempt) draw)
      exact submitted_checkOut draw hopens
    | rekey stem =>
      obtain ⟨rfl, hreopened⟩ := htells
      change Submitted sha256 s sub draw (s.checkOut sub
        ((Slot.rekey (sub.basketKey sha256)
          (s.epochs sub.attempt (sub.basketKey sha256))).stem sub.attempt) draw)
      exact submitted_checkOut draw (.inr ⟨rfl, hreopened⟩)

theorem settlement_keys (sub : Submission) (slot : Slot) (basket : Basket) (draw : SettleDraw) :
    (settlement sub (slot.stem sub.attempt) basket draw).keys =
      (List.range (sub.splits draw.total).length).map (slot.key sub.attempt) :=
  stampedKeys_eq (slot.stem sub.attempt) (sub.splits draw.total)

variable {basket : Basket}

theorem next_settlement {draw : SettleDraw}
    (hopens : s.Opens sub.attempt (sub.basketKey sha256) sub.cartId slot)
    (hfree : s.Free (settlement sub (slot.stem sub.attempt) basket draw)) :
    s.Next (settlement sub (slot.stem sub.attempt) basket draw) slot
      (sub.splits draw.total).length := by
  obtain ⟨hid, hkeys⟩ := hfree
  rcases hopens with ⟨rfl, -, -⟩ | ⟨rfl, hbased, hclosed, -⟩
  · exact ⟨trivial, settlement_keys sub .base basket draw, hid, hkeys, by simp, by simp, by simp⟩
  · have hkey := basketKey_isBasketKey sha256 sub
    refine ⟨hkey, settlement_keys sub _ basket draw, hid, hkeys, ?_, ?_, ?_⟩
    · intro basketKey epoch hslot
      obtain ⟨rfl, rfl⟩ := Slot.rekey.inj hslot
      rfl
    · intro basketKey epoch hslot hpos x hx hattempt hat
      obtain ⟨rfl, rfl⟩ := Slot.rekey.inj hslot
      exact hclosed hpos x hx hattempt hat
    · intro _ _ _
      exact hbased

/-- What a cart held is known after it was settled. -/
structure CartsInv (s : ReplayStore) : Prop where
  own : ∀ sale ∈ s.sales, ∀ c n, sale.At (.rekey (cartBasketKey c) n) →
    ∃ row, s.retired.find? c = some row ∧ row.basket = sale.basket
  gone : ∀ c row, s.retired.find? c = some row → s.carts.find? c = none

/-- Every sale is still there, for the same basket. -/
def Persists (s t : ReplayStore) : Prop :=
  ∀ x ∈ s.sales, ∃ y ∈ t.sales, y.id = x.id ∧ y.basket = x.basket

theorem Persists.refl (s : ReplayStore) : s.Persists s := fun x hx => ⟨x, hx, rfl, rfl⟩

theorem Persists.trans {t u : ReplayStore} (h : s.Persists t) (h' : t.Persists u) :
    s.Persists u := by
  intro x hx
  obtain ⟨y, hy, hid, hbasket⟩ := h x hx
  obtain ⟨z, hz, hid', hbasket'⟩ := h' y hy
  exact ⟨z, hz, hid'.trans hid, hbasket'.trans hbasket⟩

theorem cartsInv_empty : empty.CartsInv where
  own := by simp [empty]
  gone := by simp [empty, Table.find?, Table.empty]

theorem CartsInv.deleteActiveCart (h : s.CartsInv) (id : CartId) :
    (s.deleteActiveCart id).CartsInv := by
  unfold ReplayStore.deleteActiveCart
  cases hfind : s.carts.find? id with
  | none => exact h
  | some row =>
    have hid := Table.find?_key hfind
    constructor
    · intro sale hsale c n hat
      obtain ⟨old, hold, hbasket⟩ := h.own sale hsale c n hat
      exact ⟨old, by simp [Table.find?_insertNew, hold], hbasket⟩
    · intro c old hold
      simp only [Table.find?_insertNew] at hold
      by_cases hc : c = id
      · subst hc
        exact (Table.find?_eq_none_iff _ _).mpr (by simp [Table.retain])
      · have hother : row.id ≠ c := fun heq => hc (heq.symm.trans hid)
        simp only [hother, if_false, Option.or_none] at hold
        have hcarts := h.gone c old hold
        rw [Table.find?_retain _ _ _ (fun r hr => by simp [hr, hc])]
        exact hcarts

theorem CartsInv.saveActiveCart (h : s.CartsInv) (row : CartRow) :
    (s.saveActiveCart row).CartsInv := by
  unfold ReplayStore.saveActiveCart
  split
  · exact h
  · rename_i hnew
    constructor
    · exact h.own
    · intro c old hold
      have hother : row.id ≠ c := by
        rintro rfl
        exact hnew (by simp [show s.retired.find? row.id = some old from hold])
      rw [Table.find?_upsert, if_neg hother]
      exact h.gone c old hold

theorem CartsInv.voidSale (h : s.CartsInv) (saleId : String) : (s.voidSale saleId).CartsInv where
  own := by
    intro x hx c n hat
    obtain ⟨y, hy, rfl⟩ := (mem_voidSale saleId).mp hx
    rw [voidOf_basket]
    exact h.own y hy c n ((voidOf_at saleId y _).mp hat)
  gone := h.gone

theorem CartsInv.readied (h : s.CartsInv) (sub : Submission) : (s.readied sub).CartsInv := by
  cases sub with
  | completeSaleScoped attempt cartId method splits => exact h.deleteActiveCart cartId
  | completeSaleWithResolvedShortfalls attempt args => exact h

theorem CartsInv.settled_cart (h : s.CartsInv) {attempt : AttemptId}
    {cartId : CartId} {method : String} {splits : Option (List PaymentSplitArg)}
    (hbasket : basket ∈ s.basketOf (.completeSaleScoped attempt cartId method splits)) :
    ∃ row, (s.deleteActiveCart cartId).retired.find? cartId = some row ∧ row.basket = basket := by
  unfold ReplayStore.deleteActiveCart
  simp only [basketOf, loadActiveCart] at hbasket
  cases hfind : s.carts.find? cartId with
  | none =>
    simp only [hfind, Option.map_none, Option.orElse_none, Option.mem_def,
      Option.map_eq_some_iff] at hbasket
    exact hbasket
  | some row =>
    have hretired : s.retired.find? cartId = none := by
      cases hold : s.retired.find? cartId with
      | none => rfl
      | some old => simp [h.gone cartId old hold] at hfind
    have hid := Table.find?_key hfind
    obtain rfl : row.basket = basket := by simpa [hfind] using hbasket
    exact ⟨row, by simp [Table.find?_insertNew, hretired, hid], rfl⟩

theorem CartsInv.settled (h : s.CartsInv) {draw : SettleDraw} (hbasket : basket ∈ s.basketOf sub)
    (hopens : s.Opens sub.attempt (sub.basketKey sha256) sub.cartId slot)
    (hfree : s.Free (settlement sub (slot.stem sub.attempt) basket draw)) :
    ((s.readied sub).append (settlement sub (slot.stem sub.attempt) basket draw)).CartsInv where
  own := by
    intro x hx c n hat
    rcases List.mem_append.mp hx with hold | hnew
    · exact (h.readied sub).own x hold c n hat
    · obtain rfl := List.mem_singleton.mp hnew
      have hnext := next_settlement hopens hfree
      obtain ⟨hslot, -⟩ := at_of_keys hnext.valid hnext.keys
        (.rekey (cartBasketKey c) n) (cartBasketKey_isBasketKey c) hat
      have hkey : cartBasketKey c = sub.basketKey sha256 := by
        rcases hopens with ⟨hbase, -⟩ | ⟨hrekey, -⟩
        · simp [hbase] at hslot
        · rw [hrekey] at hslot
          exact (Slot.rekey.inj hslot).1
      cases sub with
      | completeSaleScoped attempt cartId method splits =>
        obtain rfl := cartBasketKey_inj hkey
        exact h.settled_cart hbasket
      | completeSaleWithResolvedShortfalls attempt args =>
        exact absurd hkey (cartBasketKey_ne_items c sha256 args)
  gone := (h.readied sub).gone

end ReplayStore

end OzPos
