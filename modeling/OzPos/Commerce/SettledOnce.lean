import OzPos.Commerce.ReplaySteps

namespace OzPos

theorem Basket.Same.refl (b : Basket) : b.Same b := ⟨List.Perm.refl _, rfl, rfl, rfl⟩

theorem Basket.Same.symm {b c : Basket} (h : b.Same c) : c.Same b :=
  ⟨h.1.symm, h.2.1.symm, h.2.2.1.symm, h.2.2.2.symm⟩

theorem Basket.Same.trans {b c d : Basket} (h : b.Same c) (h' : c.Same d) : b.Same d :=
  ⟨h.1.trans h'.1, h.2.1.trans h'.2.1, h.2.2.1.trans h'.2.2.1, h.2.2.2.trans h'.2.2.2⟩

namespace ReplayStore

variable {sha256 : Digest} {sub : Submission}

theorem underOwnKey_iff {sale : SettledSale} (hstamped : sale.Stamped) :
    underOwnKey sha256 sub sale = true ↔
      sale.attempt = sub.attempt ∧ ∃ n, sale.At (.rekey (sub.basketKey sha256) n) := by
  have hkey := basketKey_isBasketKey sha256 sub
  simp only [underOwnKey, List.any_eq_true, List.isPrefixOf_iff_prefix]
  constructor
  · rintro ⟨key, hmem, t, ht⟩
    obtain ⟨slot, i, hvalid, rfl, hat⟩ := hstamped.mem_keys hmem
    obtain ⟨hattempt, n, rfl⟩ := Slot.rekey_of_head hkey hvalid ht.symm
    exact ⟨hattempt.symm, n, hat⟩
  · rintro ⟨hattempt, n, hat⟩
    refine ⟨_, hat, ?_⟩
    rw [hattempt, Slot.key_head]
    exact List.prefix_append _ _

theorem nothingRekeyed_iff (sha256 : Digest) (s : ReplayStore) (sub : Submission) :
    nothingRekeyed sha256 s sub = true ↔ s.epochs sub.attempt (sub.basketKey sha256) = 0 := by
  simp [nothingRekeyed, epochs]

variable {s : ReplayStore}

theorem settledFor_of_answers (h : s.SalesInv) (hcarts : s.CartsInv)
    (hguarded : Guarded sha256 s sub) {sale : SettledSale}
    (hanswers : s.Answers sub.attempt (sub.basketKey sha256) sub.cartId sale) :
    s.SettledFor sub sale := by
  obtain ⟨hmem, hattempt, hstands, ⟨hpos, hat⟩ | ⟨hzero, -, hgone, hfind⟩⟩ := hanswers
  · cases sub with
    | completeSaleScoped attempt cartId method splits =>
      obtain ⟨row, hrow, hbasket⟩ := hcarts.own sale hmem cartId _ hat
      have hnone := hcarts.gone cartId row hrow
      refine ⟨row.basket, ?_, hbasket ▸ Basket.Same.refl _⟩
      simp [basketOf, loadActiveCart, hnone, hrow]
    | completeSaleWithResolvedShortfalls attempt args =>
      have hunder : underOwnKey sha256 (.completeSaleWithResolvedShortfalls attempt args) sale =
          true := (underOwnKey_iff (h.stamped sale hmem)).mpr ⟨hattempt, _, hat⟩
      have hseen : nothingRekeyed sha256 s (.completeSaleWithResolvedShortfalls attempt args) =
          false := by
        rw [Bool.eq_false_iff, ne_eq, nothingRekeyed_iff]
        omega
      exact hguarded.hashed rfl hseen sale hmem hunder hstands
  · refine hguarded.answered sale hmem ?_
    have hnothing := (nothingRekeyed_iff sha256 s sub).mpr hzero
    simp [answersByAttempt, hfind, hstands, hgone, hnothing]

theorem settled_apart (h : s.SalesInv) (hguarded : Guarded sha256 s sub) {draw : SettleDraw}
    {slot : Slot} {basket : Basket} (hbasket : basket ∈ s.basketOf sub)
    (hopens : s.Opens sub.attempt (sub.basketKey sha256) sub.cartId slot)
    (hfree : s.Free (settlement sub (slot.stem sub.attempt) basket draw)) :
    ∀ x ∈ s.sales, x.voided = false → x.attempt = sub.attempt → ¬x.basket.Same basket := by
  intro x hx hstands hattempt hsame
  obtain ⟨hbelow, hclosed, -, -⟩ :=
    h.epochs sub.attempt (sub.basketKey sha256) (basketKey_isBasketKey sha256 sub)
  rcases hguarded.known x hx hattempt hstands ⟨basket, hbasket, hsame⟩ with hown | hfirst
  · simp only [answersByBasket, Bool.and_eq_true, underOwnKey_iff (h.stamped x hx)] at hown
    obtain ⟨⟨-, n, hat⟩, hseen⟩ := hown
    by_cases hzero : s.epochs sub.attempt (sub.basketKey sha256) = 0
    · -- the key of the first settlement under the basket is taken
      have hpays : sub.pays = true := by
        simpa [(nothingRekeyed_iff sha256 s sub).mpr hzero] using hseen
      obtain rfl : n = 0 := by
        have hlt := hbelow x hx hattempt n hat
        omega
      rcases hopens with ⟨-, -, hnone⟩ | ⟨rfl, -⟩
      · obtain ⟨base, hbase, hsameattempt, hstem⟩ :=
          h.based x hx _ 0 (basketKey_isBasketKey sha256 sub) hat
        exact hnone ⟨base, hbase, hsameattempt.trans hattempt, hstem⟩
      · rw [hzero] at hfree
        have hlength : 0 < (sub.splits draw.total).length := by
          cases sub with
          | completeSaleScoped attempt cartId method splits =>
            cases splits with
            | none => simp [Submission.splits]
            | some splits =>
              simp only [Submission.pays, ne_eq, Option.some.injEq, decide_eq_true_eq] at hpays
              exact List.length_pos_iff.mpr hpays
          | completeSaleWithResolvedShortfalls attempt args =>
            cases hsplits : args.paymentSplits with
            | none => simp [Submission.splits, hsplits]
            | some splits =>
              simp only [Submission.pays, hsplits, ne_eq, Option.some.injEq,
                decide_eq_true_eq] at hpays
              simpa [Submission.splits, hsplits] using List.length_pos_iff.mpr hpays
        refine hfree.keys ((Slot.rekey (sub.basketKey sha256) 0).key sub.attempt 0) ?_ ?_
        · rw [settlement_keys]
          exact List.mem_map.mpr ⟨0, by simpa using hlength, rfl⟩
        · rw [SettledSale.At, hattempt] at hat
          exact List.mem_flatMap.mpr ⟨x, hx, hat⟩
    · -- it is the latest, which is voided before the next
      have hlt := hbelow x hx hattempt n hat
      by_cases hlast : n + 1 < s.epochs sub.attempt (sub.basketKey sha256)
      · simp [hclosed x hx hattempt n hat hlast] at hstands
      · obtain rfl : n = s.epochs sub.attempt (sub.basketKey sha256) - 1 := by omega
        rcases hopens with ⟨-, hzero', -⟩ | ⟨-, -, hvoided, -⟩
        · exact hzero hzero'
        · simp [hvoided (by omega) x hx hattempt hat] at hstands
  · simp only [answersByAttempt, Bool.and_eq_true, decide_eq_true_eq,
      nothingRekeyed_iff] at hfirst
    obtain ⟨⟨⟨hfind, -⟩, hgone⟩, hzero⟩ := hfirst
    obtain ⟨-, -, hat⟩ := find_base h hfind
    rcases hopens with ⟨-, -, hnone⟩ | ⟨-, -, -, hagain⟩
    · exact hnone ⟨x, hx, hattempt, hat⟩
    · rcases hagain hzero x hfind with hvoided | hlive
      · simp [hvoided] at hstands
      · rw [Option.isNone_iff_eq_none.mp hgone] at hlive
        simp at hlive

structure ReplayInv (s : ReplayStore) : Prop where
  sales : s.SalesInv
  carts : s.CartsInv
  once : s.OneSaleEach

theorem replayInv_empty : empty.ReplayInv :=
  ⟨salesInv_empty, cartsInv_empty, List.Pairwise.nil⟩

theorem OneSaleEach.congr {t : ReplayStore} (h : s.OneSaleEach) (hsales : t.sales = s.sales) :
    t.OneSaleEach := by
  rw [OneSaleEach, hsales]
  exact h

theorem OneSaleEach.voidSale (h : s.OneSaleEach) (saleId : String) :
    (s.voidSale saleId).OneSaleEach := by
  have hback : ∀ x, (voidOf saleId x).voided = false → x.voided = false := by
    intro x hx
    cases hvoided : x.voided with
    | false => rfl
    | true => simp [voidOf_voided saleId hvoided] at hx
  rw [OneSaleEach, voidSale_sales, List.pairwise_map]
  refine h.imp ?_
  intro a b hab ha hb hattempt
  simp only [voidOf_attempt, voidOf_basket] at hattempt ⊢
  exact hab (hback a ha) (hback b hb) hattempt

theorem deleteActiveCart_sales (s : ReplayStore) (id : CartId) :
    (s.deleteActiveCart id).sales = s.sales := by
  unfold deleteActiveCart
  split <;> rfl

theorem saveActiveCart_sales (s : ReplayStore) (row : CartRow) :
    (s.saveActiveCart row).sales = s.sales := by
  unfold saveActiveCart
  split <;> rfl

theorem ReplayInv.readied (h : s.ReplayInv) (sub : Submission) : (s.readied sub).ReplayInv :=
  ⟨h.sales.congr (readied_sales s sub), h.carts.readied sub,
    OneSaleEach.congr h.once (readied_sales s sub)⟩

theorem ReplayInv.submit (h : s.ReplayInv) (draw : SettleDraw) (hguarded : Guarded sha256 s sub) :
    (s.submit sha256 sub draw).1.ReplayInv := by
  have hsubmitted := submit_submitted h.sales sha256 sub draw
  generalize s.submit sha256 sub draw = out at hsubmitted ⊢
  cases hsubmitted with
  | refused t e ht =>
    rcases ht with rfl | rfl
    · exact h
    · exact h.readied sub
  | replayed sale hverdict => exact h
  | settled slot basket hbasket hopens hfree =>
    have hsales : ∀ sale, ((s.readied sub).append sale).sales = (s.append sale).sales := by
      intro sale
      simp only [append, readied_sales]
    refine ⟨(h.sales.append (next_settlement hopens hfree)).congr (hsales _),
      h.carts.settled hbasket hopens hfree, OneSaleEach.congr (s := s.append _) ?_ (hsales _)⟩
    refine List.pairwise_append.mpr ⟨h.once, List.pairwise_singleton _ _, ?_⟩
    intro x hx y hy hstands _ hattempt
    obtain rfl := List.mem_singleton.mp hy
    exact settled_apart h.sales hguarded hbasket hopens hfree x hx hstands hattempt

theorem replayInv_step (sha256 : Digest) (s : ReplayStore) (e : ReplayEvent) (h : s.ReplayInv)
    (hguarded : GuardedStep sha256 s e) : ((replayMachine sha256).step s e).1.ReplayInv := by
  cases e with
  | saveCart row =>
    have hsales := saveActiveCart_sales s row
    exact ⟨h.sales.congr hsales, h.carts.saveActiveCart row, OneSaleEach.congr h.once hsales⟩
  | dropCart id =>
    have hsales := deleteActiveCart_sales s id
    exact ⟨h.sales.congr hsales, h.carts.deleteActiveCart id, OneSaleEach.congr h.once hsales⟩
  | submit sub draw => exact h.submit draw hguarded
  | voidSale saleId =>
    exact ⟨h.sales.voidSale saleId, h.carts.voidSale saleId, OneSaleEach.voidSale h.once saleId⟩

theorem persists_step (sha256 : Digest) (h : s.SalesInv) (e : ReplayEvent) :
    s.Persists ((replayMachine sha256).step s e).1 := by
  have hsame : ∀ t : ReplayStore, t.sales = s.sales → s.Persists t := by
    intro t ht x hx
    exact ⟨x, ht ▸ hx, rfl, rfl⟩
  cases e with
  | saveCart row => exact hsame _ (saveActiveCart_sales s row)
  | dropCart id => exact hsame _ (deleteActiveCart_sales s id)
  | submit sub draw =>
    change s.Persists (s.submit sha256 sub draw).1
    have hsubmitted := submit_submitted h sha256 sub draw
    generalize s.submit sha256 sub draw = out at hsubmitted ⊢
    cases hsubmitted with
    | refused t e ht =>
      rcases ht with rfl | rfl
      · exact Persists.refl t
      · exact hsame _ (readied_sales s sub)
    | replayed sale hverdict => exact Persists.refl s
    | settled slot basket hbasket hopens hfree =>
      intro x hx
      refine ⟨x, List.mem_append_left _ ?_, rfl, rfl⟩
      rw [readied_sales]
      exact hx
  | voidSale saleId =>
    intro x hx
    exact ⟨voidOf saleId x, List.mem_map_of_mem hx, voidOf_id saleId x, voidOf_basket saleId x⟩

theorem persists_run (sha256 : Digest) (h : s.ReplayInv) (events : List ReplayEvent)
    (hguarded : (replayMachine sha256).Along (GuardedStep sha256) s events) :
    s.Persists ((replayMachine sha256).run s events) := by
  induction events generalizing s with
  | nil => exact Persists.refl s
  | cons e events ih =>
    have hnext := replayInv_step sha256 s e h hguarded.1
    exact (persists_step sha256 h.sales e).trans (ih hnext hguarded.2)

theorem receipt_sale (h : s.ReplayInv) {e : ReplayEvent}
    (hguarded : GuardedStep sha256 s e) {receipt : CheckoutReceipt} {basket : Basket}
    (hreceipt : receiptOf sha256 s e = some receipt) (hbasket : submittedBasket s e = some basket) :
    ∃ sale ∈ ((replayMachine sha256).step s e).1.sales,
      sale.id = receipt.result.saleId ∧ sale.basket.Same basket := by
  cases e with
  | saveCart row => simp [receiptOf] at hreceipt
  | dropCart id => simp [receiptOf] at hreceipt
  | voidSale saleId => simp [receiptOf] at hreceipt
  | submit sub draw =>
    change ∃ sale ∈ (s.submit sha256 sub draw).1.sales, _
    simp only [receiptOf] at hreceipt
    simp only [submittedBasket] at hbasket
    have hsubmitted := submit_submitted h.sales sha256 sub draw
    generalize s.submit sha256 sub draw = out at hsubmitted hreceipt ⊢
    cases hsubmitted with
    | refused t e ht => simp [Except.toOption] at hreceipt
    | replayed sale hverdict =>
      obtain rfl := Option.some.inj hreceipt
      have hanswers := verdict_tells h.sales sha256 sub hverdict
      obtain ⟨own, hown, hsame⟩ := settledFor_of_answers h.sales h.carts hguarded hanswers
      rw [hbasket] at hown
      obtain rfl := Option.some.inj hown
      exact ⟨sale, hanswers.1, rfl, hsame⟩
    | settled slot own hown hopens hfree =>
      obtain rfl := Option.some.inj hreceipt
      rw [hbasket] at hown
      obtain rfl := Option.some.inj hown
      exact ⟨_, List.mem_append_right _ (List.mem_singleton.mpr rfl), rfl, Basket.Same.refl _⟩

theorem same_of_ids (h : s.SalesInv) {x y : SettledSale} (hx : x ∈ s.sales)
    (hy : y ∈ s.sales) (hid : x.id = y.id) : x = y :=
  List.inj_on_of_nodup_map h.ids hx hy hid

/-- A run whose submissions are all guarded settles each basket of an attempt once, and answers
with what was settled for the basket. -/
theorem settles_once (sha256 : Digest) (events : List ReplayEvent)
    (hguarded : (replayMachine sha256).Along (GuardedStep sha256) .empty events) :
    SettlesOnce sha256 events where
  once := by
    intro l r hsplit
    rw [hsplit, Machine.along_append] at hguarded
    exact ((replayMachine sha256).run_invariant (replayInv_step sha256) _ l replayInv_empty
      hguarded.1).once
  own := by
    refine (replayMachine sha256).along_of_invariant (replayInv_step sha256) ?_ _ events
      replayInv_empty hguarded
    intro s e h hok
    cases e with
    | submit sub draw =>
      intro sale hverdict
      exact settledFor_of_answers h.sales h.carts hok (verdict_tells h.sales sha256 sub hverdict)
    | saveCart row => trivial
    | dropCart id => trivial
    | voidSale saleId => trivial
  apart := by
    intro l e m e' r hsplit receipt receipt' basket basket' hreceipt hreceipt' hbasket hbasket' hids
    have hruns := hguarded
    rw [hsplit, Machine.along_append, Machine.along_append] at hruns
    obtain ⟨⟨hbefore, hfirst, hmiddle⟩, hsecond, -⟩ := hruns
    rw [Machine.run_append, Machine.run_cons] at hsecond
    have hinv := (replayMachine sha256).run_invariant (replayInv_step sha256) _ l replayInv_empty
      hbefore
    have hinv₁ := replayInv_step sha256 _ e hinv hfirst
    have hinv₂ := (replayMachine sha256).run_invariant (replayInv_step sha256) _ m hinv₁ hmiddle
    rw [Machine.run_append, Machine.run_cons] at hreceipt' hbasket'
    obtain ⟨x, hx, hxid, hxsame⟩ := receipt_sale hinv hfirst hreceipt hbasket
    obtain ⟨y, hy, hyid, hysame⟩ := receipt_sale hinv₂ hsecond hreceipt' hbasket'
    -- the sale of the first receipt is still there when the second is given
    obtain ⟨z, hz, hzid, hzbasket⟩ := ((persists_run sha256 hinv₁ m hmiddle).trans
      (persists_step sha256 hinv₂.sales e')) x hx
    have hinv₃ := replayInv_step sha256 _ e' hinv₂ hsecond
    have hsale : z = y := by
      apply same_of_ids hinv₃.sales hz hy
      rw [hzid, hxid, hyid, hids]
    rw [← hzbasket, hsale] at hxsame
    exact hxsame.symm.trans hysame

end ReplayStore

def teaAttempt : AttemptId := ⟨"A", by decide⟩

def firstCart : CartId := ⟨"c1", by decide⟩

def secondCart : CartId := ⟨"c2", by decide⟩

def teaBasket : Basket := ⟨[⟨"TEA", 1, 500, "USD"⟩], 500, "USD", 0⟩

def teaShortfall : Submission :=
  .completeSaleWithResolvedShortfalls teaAttempt
    ⟨firstCart, [⟨"TEA", 1, 500, none⟩], 500, "USD", 0, "cash", none⟩

/-- Settled, retried, voided, and settled twice more under the basket's own key. -/
def retriedRun : List ReplayEvent :=
  [.saveCart ⟨firstCart, teaBasket⟩,
    .submit (.completeSaleScoped teaAttempt firstCart "cash" none) ⟨"s1", 500, none⟩,
    .submit (.completeSaleScoped teaAttempt firstCart "cash" none) ⟨"s2", 500, none⟩,
    .voidSale "s1", .submit teaShortfall ⟨"s3", 500, none⟩, .submit teaShortfall ⟨"s4", 500, none⟩,
    .voidSale "s3", .submit teaShortfall ⟨"s5", 500, none⟩]

theorem retriedRun_settles_once : SettlesOnce (fun _ => []) retriedRun :=
  ReplayStore.settles_once (fun _ => []) retriedRun (by decide +kernel)

/-- The retry that the payment modal makes: the same basket in a new cart. -/
def recartedRun : List ReplayEvent :=
  [.saveCart ⟨firstCart, teaBasket⟩,
    .submit (.completeSaleScoped teaAttempt firstCart "cash" none) ⟨"s1", 500, none⟩,
    .saveCart ⟨secondCart, teaBasket⟩,
    .submit (.completeSaleScoped teaAttempt secondCart "cash" none) ⟨"s2", 500, none⟩]

theorem recartedRun_settles_twice : ¬SettlesOnce (fun _ => []) recartedRun := by
  intro h
  have hboth : ¬((replayMachine (fun _ => [])).run .empty recartedRun).OneSaleEach := by
    unfold ReplayStore.OneSaleEach
    decide +kernel
  exact hboth (h.once recartedRun [] (by simp))

end OzPos
