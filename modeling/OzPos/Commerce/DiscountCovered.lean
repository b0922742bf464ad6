import OzPos.Commerce.PromotionPaths
import Mathlib.Algebra.Order.BigOperators.Group.List
import Mathlib.Algebra.BigOperators.Ring.List
import Mathlib.Algebra.Order.Ring.Int

namespace OzPos

namespace Promotion

variable (cfg : PromotionSettings) (promo : Promotion)

def rewardOf (line : SaleLine) : Int :=
  if inScope cfg promo line ∧ line.sku = promo.rewardSku.getD (promo.triggerSku.getD "") then
    line.unitMinor * line.qty
  else 0

variable (sale : PricedSale)

/-- The merchandise that a promotion of a type covers: the reward items, the lines of its
category, or all that is to be paid. -/
def coveredValue : PromotionType → Int
  | .buyXGetY => (sale.lines.map (rewardOf cfg promo)).sum
  | .percentage | .fixedAmount =>
    match promo.categoryId with
    | none => sale.totalMinor
    | some _ => (sale.lines.map (baseOf cfg promo)).sum

variable (now : Int)

/-- The computation does not panic, and what it answers is covered. -/
def DiscountCovered (sale : PricedSale) : Prop :=
  computeDiscount cfg now promo sale ≠ .error .panicked ∧
    ∀ t d, checkApplies cfg now promo sale.totalMinor = .ok t →
      computeDiscount cfg now promo sale = .ok d →
      0 ≤ d ∧ d ≤ sale.totalMinor ∧ d ≤ coveredValue cfg promo sale t

/-- The fields of a buy-X-get-Y promotion are in order. -/
def RewardSet : Prop :=
  promo.triggerSku.getD "" ≠ "" ∧ 1 ≤ promo.minQty.getD 1 ∧ 1 ≤ promo.rewardQty.getD 1

/-- The pieces of the trigger and of the reward can be counted. -/
def CountsFit : Prop :=
  FitsI64 (sale.lines.map (countOf cfg promo (promo.triggerSku.getD ""))).sum ∧
    FitsI64 (sale.lines.map
      (countOf cfg promo (promo.rewardSku.getD (promo.triggerSku.getD "")))).sum

/-- The lines of the scope can be added up, one after the other. -/
def BaseFits : Prop :=
  promo.categoryId.isSome →
    ∀ taken, taken <+: sale.lines → FitsI64 (taken.map (baseOf cfg promo)).sum

/-- The amount taken off can be computed: the products it is made of are integers of the
machine. -/
def AmountFits : PromotionType → Prop
  | .percentage => FitsI64 (coveredValue cfg promo sale .percentage * promo.valueMinor)
  | .fixedAmount => True
  | .buyXGetY => RewardSet promo ∧
    ∀ p, sale.lines.foldl (lowest cfg promo (promo.rewardSku.getD (promo.triggerSku.getD ""))) none
        = some p →
      promo.minQty.getD 1 ≤
        (sale.lines.map (countOf cfg promo (promo.triggerSku.getD ""))).sum →
      let perItem := p * min (promo.rewardQty.getD 1) (sale.lines.map
        (countOf cfg promo (promo.rewardSku.getD (promo.triggerSku.getD "")))).sum
      FitsI64 perItem ∧ FitsI64 (perItem * promo.valueMinor)

/-- Where the promotion applies, its pieces can be counted, and where an amount can be computed,
neither the sale nor what is covered is worth less than nothing. -/
def WithinMeans (sale : PricedSale) : Prop :=
  ∀ t, checkApplies cfg now promo sale.totalMinor = .ok t → BaseFits cfg promo sale →
    (t = .buyXGetY → RewardSet promo → CountsFit cfg promo sale) ∧
      (AmountFits cfg promo sale t →
        0 ≤ sale.totalMinor ∧ 0 ≤ coveredValue cfg promo sale t)

variable {cfg promo} {sale : PricedSale}

theorem fitDiscount_ne_panicked (field : String) (n : Int) :
    fitDiscount field n ≠ .error .panicked := by
  intro h
  cases fitOr_error h

theorem checkStarted_ne_panicked : checkStarted cfg now promo ≠ .error .panicked := by
  unfold checkStarted
  split
  · simp
  · split
    · simp [refusePromotion]
    · split <;> simp [refusePromotion]

theorem checkNotExpired_ne_panicked : checkNotExpired cfg now promo ≠ .error .panicked := by
  unfold checkNotExpired
  split
  · simp
  · split
    · simp [refusePromotion]
    · split <;> simp [refusePromotion]

theorem checkMinimumOrder_ne_panicked (total : Int) :
    checkMinimumOrder promo total ≠ .error .panicked := by
  unfold checkMinimumOrder
  dsimp only
  split <;> simp [refusePromotion]

variable (cfg promo) in
theorem checkApplies_ne_panicked (now total : Int) :
    checkApplies cfg now promo total ≠ .error .panicked := by
  unfold checkApplies
  split
  · simp [refusePromotion]
  · split
    · simp [refusePromotion]
    · refine Except.bind_ne_error (checkStarted_ne_panicked now) (fun _ _ => ?_)
      refine Except.bind_ne_error (checkNotExpired_ne_panicked now) (fun _ _ => ?_)
      refine Except.bind_ne_error (checkMinimumOrder_ne_panicked total) (fun _ _ => ?_)
      split <;> simp [refusePromotion]

theorem addToBase_ne_panicked (base : Int) (line : SaleLine) :
    addToBase cfg promo base line ≠ .error .panicked := by
  unfold addToBase
  split
  · exact fitDiscount_ne_panicked _ _
  · simp

variable (cfg promo) in
theorem foldBase_isOk_iff (lines : List SaleLine) {base : Int} (hbase : FitsI64 base) :
    (Except.foldAll (addToBase cfg promo) lines base).isOk = true ↔
      ∀ taken, taken <+: lines → FitsI64 (base + (taken.map (baseOf cfg promo)).sum) := by
  induction lines generalizing base with
  | nil => simpa [Except.foldAll, Except.isOk, Except.toBool] using hbase
  | cons line rest ih =>
    simp only [Except.foldAll, addToBase_eq cfg promo hbase, List.prefix_cons_iff]
    by_cases hnext : FitsI64 (base + baseOf cfg promo line)
    · rw [fitOr_of_fits _ hnext]
      refine (ih hnext).trans ⟨?_, ?_⟩
      · intro h taken htaken
        rcases htaken with rfl | ⟨shorter, rfl, hshorter⟩
        · simpa using hbase
        · simpa [Int.add_assoc] using h shorter hshorter
      · intro h taken htaken
        simpa [Int.add_assoc] using h (line :: taken) (.inr ⟨taken, rfl, htaken⟩)
    · rw [fitOr_of_not_fits _ hnext]
      refine iff_of_false (by simp [Except.bind, Except.isOk, Except.toBool]) ?_
      intro h
      exact hnext (by simpa using h [line] (.inr ⟨[], rfl, List.nil_prefix⟩))

theorem discountBase_isOk_iff :
    (discountBase cfg promo sale).isOk = true ↔ BaseFits cfg promo sale := by
  unfold discountBase BaseFits
  cases hscope : promo.categoryId with
  | none => simp [Except.isOk, Except.toBool]
  | some scope => simpa using foldBase_isOk_iff cfg promo sale.lines sum_zero.2

theorem foldBase_ne_panicked (lines : List SaleLine) (base : Int) :
    Except.foldAll (addToBase cfg promo) lines base ≠ .error .panicked := by
  induction lines generalizing base with
  | nil => simp [Except.foldAll]
  | cons line rest ih =>
    exact Except.bind_ne_error (addToBase_ne_panicked base line) (fun base _ => ih base)

theorem discountBase_ne_panicked : discountBase cfg promo sale ≠ .error .panicked := by
  unfold discountBase
  split
  · simp
  · exact foldBase_ne_panicked sale.lines 0

theorem addToBase_ok {base next : Int} {line : SaleLine}
    (h : addToBase cfg promo base line = .ok next) : next = base + baseOf cfg promo line := by
  unfold addToBase at h
  unfold baseOf
  by_cases hscope : inScope cfg promo line = true
  · rw [if_pos hscope] at h
    rw [if_pos hscope]
    exact (fitOr_ok h).1
  · rw [if_neg hscope] at h
    cases h
    simp [hscope]

theorem foldBase_ok {lines : List SaleLine} {base final : Int}
    (h : Except.foldAll (addToBase cfg promo) lines base = .ok final) :
    final = base + (lines.map (baseOf cfg promo)).sum := by
  induction lines generalizing base with
  | nil =>
    cases h
    simp
  | cons line rest ih =>
    obtain ⟨mid, hmid, hrest⟩ := Except.of_bind h
    rw [ih hrest, addToBase_ok hmid, List.map_cons, List.sum_cons, Int.add_assoc]

theorem discountBase_ok {base : Int} (h : discountBase cfg promo sale = .ok base) :
    base = coveredValue cfg promo sale .percentage := by
  unfold discountBase at h
  unfold coveredValue
  cases hscope : promo.categoryId with
  | none =>
    rw [hscope] at h
    exact (Except.ok.inj h).symm
  | some scope =>
    rw [hscope] at h
    simpa using foldBase_ok h

variable (cfg promo) in
theorem counts_nonneg (sku : String) {lines : List SaleLine}
    (hqty : ∀ line ∈ lines, 0 ≤ line.qty) : 0 ≤ (lines.map (countOf cfg promo sku)).sum := by
  apply List.sum_nonneg
  intro n hn
  obtain ⟨line, hline, rfl⟩ := List.mem_map.mp hn
  exact countOf_nonneg cfg promo sku (hqty line hline)

theorem scan_eq (trigger reward : String) {lines : List SaleLine}
    (hqty : ∀ line ∈ lines, 0 ≤ line.qty) {s : RewardScan} (hs : Counts s) :
    Except.foldAll (scanLine cfg promo trigger reward) lines s =
      (fitOr .panicked (s.triggerQty + (lines.map (countOf cfg promo trigger)).sum)).bind
        (fun triggerQty =>
          (fitOr .panicked (s.rewardQtyInCart + (lines.map (countOf cfg promo reward)).sum)).bind
            (fun rewardQtyInCart =>
              .ok ⟨triggerQty, lines.foldl (lowest cfg promo reward) s.cheapest,
                rewardQtyInCart⟩)) := by
  induction lines generalizing s with
  | nil =>
    simp only [Except.foldAll, List.map_nil, List.sum_nil, Int.add_zero, fitOr_of_fits _ hs.1.2,
      fitOr_of_fits _ hs.2.2]
    rfl
  | cons line rest ih =>
    have hrest : ∀ line ∈ rest, 0 ≤ line.qty :=
      fun other hother => hqty other (List.mem_cons_of_mem line hother)
    have hline : 0 ≤ line.qty := hqty line List.mem_cons_self
    have ht := countOf_nonneg cfg promo trigger hline
    have hr := countOf_nonneg cfg promo reward hline
    simp only [Except.foldAll, List.map_cons, List.sum_cons, List.foldl_cons, ← Int.add_assoc,
      scanLine_eq cfg promo trigger reward hs line,
      ← fitOr_twice _ hs.1.1 ht (counts_nonneg cfg promo trigger hrest),
      ← fitOr_twice _ hs.2.1 hr (counts_nonneg cfg promo reward hrest)]
    cases htrigger : fitOr PromotionError.panicked (s.triggerQty + countOf cfg promo trigger line) with
    | error e => rfl
    | ok t =>
      have hsum := sum_of_fitOr hs.1.1 ht htrigger
      cases hreward : fitOr PromotionError.panicked
          (s.rewardQtyInCart + countOf cfg promo reward line) with
      | error e =>
        -- the only error of either count is the panic
        obtain rfl := fitOr_error hreward
        simp only [Except.bind]
        cases hlast : fitOr PromotionError.panicked
            (t + (rest.map (countOf cfg promo trigger)).sum) with
        | error e =>
          obtain rfl := fitOr_error hlast
          rfl
        | ok n => rfl
      | ok r => exact ih hrest ⟨hsum, sum_of_fitOr hs.2.1 hr hreward⟩

theorem counts_zero : Counts ⟨0, none, 0⟩ := ⟨sum_zero, sum_zero⟩

theorem lowest_le {reward : String} {cheapest : Option Int} {line : SaleLine} {p : Int}
    (h : ∀ q, lowest cfg promo reward cheapest line = some q → p ≤ q) :
    (∀ q, cheapest = some q → p ≤ q) ∧
      (inScope cfg promo line ∧ line.sku = reward → p ≤ line.unitMinor) := by
  unfold lowest at h
  by_cases hcounts : inScope cfg promo line ∧ line.sku = reward
  · rw [if_pos hcounts] at h
    cases cheapest with
    | none => exact ⟨by simp, fun _ => h line.unitMinor rfl⟩
    | some c =>
      have hp := h _ rfl
      refine ⟨?_, ?_⟩
      · intro q hq
        cases hq
        split at hp <;> omega
      · intro _
        split at hp <;> omega
  · rw [if_neg hcounts] at h
    exact ⟨h, fun hline => absurd hline hcounts⟩

theorem foldl_lowest_le {reward : String} {lines : List SaleLine} {cheapest : Option Int} {p : Int}
    (h : ∀ q, lines.foldl (lowest cfg promo reward) cheapest = some q → p ≤ q) :
    (∀ q, cheapest = some q → p ≤ q) ∧
      ∀ line ∈ lines, inScope cfg promo line ∧ line.sku = reward → p ≤ line.unitMinor := by
  induction lines generalizing cheapest with
  | nil => exact ⟨h, by simp⟩
  | cons line rest ih =>
    obtain ⟨hnext, hrest⟩ := ih h
    obtain ⟨hbefore, hline⟩ := lowest_le hnext
    exact ⟨hbefore, List.forall_mem_cons.mpr ⟨hline, hrest⟩⟩

theorem cheapest_le_reward {lines : List SaleLine} {p : Int}
    (hqty : ∀ line ∈ lines, 0 ≤ line.qty)
    (hp : ∀ line ∈ lines, inScope cfg promo line ∧
      line.sku = promo.rewardSku.getD (promo.triggerSku.getD "") → p ≤ line.unitMinor) :
    p * (lines.map (countOf cfg promo (promo.rewardSku.getD (promo.triggerSku.getD "")))).sum ≤
      (lines.map (rewardOf cfg promo)).sum := by
  rw [← List.sum_map_mul_left]
  apply List.sum_le_sum
  intro line hline
  unfold countOf rewardOf
  by_cases hcounts : inScope cfg promo line ∧
      line.sku = promo.rewardSku.getD (promo.triggerSku.getD "")
  · rw [if_pos hcounts, if_pos hcounts]
    exact Int.mul_le_mul_of_nonneg_right (hp line hline hcounts) (hqty line hline)
  · rw [if_neg hcounts, if_neg hcounts, Int.mul_zero]

theorem rewardDiscount_ne_panicked (minQty rewardQty : Int) (s : RewardScan) :
    rewardDiscount promo minQty rewardQty s ≠ .error .panicked := by
  unfold rewardDiscount
  split
  · simp
  · split
    · simp
    · refine Except.bind_ne_error (fitDiscount_ne_panicked _ _) (fun perItem _ => ?_)
      exact Except.map_ne_error (fitDiscount_ne_panicked _ _)

theorem fitDiscount_isOk_iff (field : String) (n : Int) :
    (fitDiscount field n).isOk = true ↔ FitsI64 n := by
  unfold fitDiscount
  by_cases hn : FitsI64 n
  · rw [fitOr_of_fits _ hn]
    exact iff_of_true rfl hn
  · rw [fitOr_of_not_fits _ hn]
    exact iff_of_false Bool.false_ne_true hn

theorem rewardDiscount_isOk_iff (minQty rewardQty : Int) (s : RewardScan) :
    (rewardDiscount promo minQty rewardQty s).isOk = true ↔
      ∀ p, s.cheapest = some p → minQty ≤ s.triggerQty →
        FitsI64 (p * min rewardQty s.rewardQtyInCart) ∧
          FitsI64 (p * min rewardQty s.rewardQtyInCart * promo.valueMinor) := by
  unfold rewardDiscount
  cases hp : s.cheapest with
  | none => simp [Except.isOk, Except.toBool]
  | some p =>
    by_cases hmet : s.triggerQty < minQty
    · simp [hmet, Int.not_le.mpr hmet, Except.isOk, Except.toBool]
    · have hreached : minQty ≤ s.triggerQty := Int.not_lt.mp hmet
      simp only [if_neg hmet, Option.some.injEq, forall_eq', hreached, true_imp_iff]
      rw [Except.isOk_bind_iff (p := FitsI64 (p * min rewardQty s.rewardQtyInCart *
        promo.valueMinor)), fitDiscount_isOk_iff]
      intro perItem hper
      obtain ⟨rfl, -⟩ := fitOr_ok hper
      rw [Except.isOk_map, fitDiscount_isOk_iff]

theorem rewardDiscount_le {minQty rewardQty d value : Int} {s : RewardScan}
    (hrewardQty : 0 ≤ rewardQty) (hcount : 0 ≤ s.rewardQtyInCart) (hvalue : 0 ≤ value)
    (hcheap : ∀ p, s.cheapest = some p → p * s.rewardQtyInCart ≤ value)
    (h : rewardDiscount promo minQty rewardQty s = .ok d) : d ≤ value := by
  unfold rewardDiscount at h
  cases hp : s.cheapest with
  | none =>
    rw [hp] at h
    cases h
    exact hvalue
  | some p =>
    rw [hp] at h
    dsimp only at h
    by_cases hmet : s.triggerQty < minQty
    · rw [if_pos hmet] at h
      cases h
      exact hvalue
    · rw [if_neg hmet] at h
      obtain ⟨perItem, hper, hraw⟩ := Except.of_bind h
      obtain ⟨raw, -, rfl⟩ := Except.of_map hraw
      obtain ⟨rfl, -⟩ := fitOr_ok hper
      have hmin : 0 ≤ min rewardQty s.rewardQtyInCart := by omega
      have hitems : p * min rewardQty s.rewardQtyInCart ≤ value := by
        rcases Int.le_total 0 p with hpos | hneg
        · exact (Int.mul_le_mul_of_nonneg_left (by omega) hpos).trans (hcheap p hp)
        · exact (Int.mul_nonpos_of_nonpos_of_nonneg hneg hmin).trans hvalue
      exact max_le ((min_le_right _ _).trans hitems) hvalue

theorem buyXGetY_eq (hset : RewardSet promo) :
    buyXGetY cfg promo sale =
      (Except.foldAll (scanLine cfg promo (promo.triggerSku.getD "")
        (promo.rewardSku.getD (promo.triggerSku.getD ""))) sale.lines ⟨0, none, 0⟩).bind
          (rewardDiscount promo (promo.minQty.getD 1) (promo.rewardQty.getD 1)) := by
  unfold buyXGetY
  obtain ⟨htrigger, hmin, hreward⟩ := hset
  simp only [if_neg htrigger, if_neg (Int.not_lt.mpr hmin), if_neg (Int.not_lt.mpr hreward)]

variable (cfg sale) in
theorem buyXGetY_of_not_set (hset : ¬ RewardSet promo) :
    ∃ e, buyXGetY cfg promo sale = .error e ∧ e ≠ .panicked := by
  unfold buyXGetY
  dsimp only
  by_cases htrigger : promo.triggerSku.getD "" = ""
  · rw [if_pos htrigger]
    exact ⟨_, rfl, by simp⟩
  · rw [if_neg htrigger]
    by_cases hmin : promo.minQty.getD 1 < 1
    · rw [if_pos hmin]
      exact ⟨_, rfl, by simp⟩
    · rw [if_neg hmin]
      by_cases hreward : promo.rewardQty.getD 1 < 1
      · rw [if_pos hreward]
        exact ⟨_, rfl, by simp⟩
      · exact absurd ⟨htrigger, Int.not_lt.mp hmin, Int.not_lt.mp hreward⟩ hset

theorem buyXGetY_ne_panicked_iff (hqty : ∀ line ∈ sale.lines, 0 ≤ line.qty) :
    buyXGetY cfg promo sale ≠ .error .panicked ↔ (RewardSet promo → CountsFit cfg promo sale) := by
  by_cases hset : RewardSet promo
  · rw [buyXGetY_eq hset, scan_eq _ _ hqty counts_zero]
    simp only [Int.zero_add, hset, true_imp_iff]
    unfold CountsFit
    by_cases ht : FitsI64 (sale.lines.map (countOf cfg promo (promo.triggerSku.getD ""))).sum
    · rw [fitOr_of_fits _ ht]
      by_cases hr : FitsI64 (sale.lines.map
          (countOf cfg promo (promo.rewardSku.getD (promo.triggerSku.getD "")))).sum
      · rw [fitOr_of_fits _ hr]
        exact iff_of_true (rewardDiscount_ne_panicked _ _ _) ⟨ht, hr⟩
      · rw [fitOr_of_not_fits _ hr]
        exact iff_of_false (fun h => h rfl) (fun h => hr h.2)
    · rw [fitOr_of_not_fits _ ht]
      exact iff_of_false (fun h => h rfl) (fun h => ht h.1)
  · obtain ⟨e, he, hne⟩ := buyXGetY_of_not_set cfg sale hset
    rw [he]
    exact iff_of_true (fun h => hne (Except.error.inj h)) (fun h => absurd h hset)

theorem buyXGetY_scanned (hqty : ∀ line ∈ sale.lines, 0 ≤ line.qty) (hset : RewardSet promo)
    (hfit : CountsFit cfg promo sale) :
    buyXGetY cfg promo sale =
      rewardDiscount promo (promo.minQty.getD 1) (promo.rewardQty.getD 1)
        ⟨(sale.lines.map (countOf cfg promo (promo.triggerSku.getD ""))).sum,
          sale.lines.foldl
            (lowest cfg promo (promo.rewardSku.getD (promo.triggerSku.getD ""))) none,
          (sale.lines.map
            (countOf cfg promo (promo.rewardSku.getD (promo.triggerSku.getD "")))).sum⟩ := by
  rw [buyXGetY_eq hset, scan_eq _ _ hqty counts_zero]
  simp only [Int.zero_add, fitOr_of_fits _ hfit.1, fitOr_of_fits _ hfit.2]
  rfl

theorem buyXGetY_le (hqty : ∀ line ∈ sale.lines, 0 ≤ line.qty) (hset : RewardSet promo)
    (hfit : CountsFit cfg promo sale) {d : Int}
    (hvalue : 0 ≤ coveredValue cfg promo sale .buyXGetY)
    (h : buyXGetY cfg promo sale = .ok d) : d ≤ coveredValue cfg promo sale .buyXGetY := by
  rw [buyXGetY_scanned hqty hset hfit] at h
  have hcount := counts_nonneg cfg promo
    (promo.rewardSku.getD (promo.triggerSku.getD "")) hqty
  refine rewardDiscount_le (Int.le_trans (by decide) hset.2.2) hcount hvalue ?_ h
  intro p hp
  have hlow : ∀ q, sale.lines.foldl (lowest cfg promo _) none = some q → p ≤ q :=
    fun q hq => (Option.some.inj (hp.symm.trans hq)).le
  exact cheapest_le_reward hqty (foldl_lowest_le hlow).2

theorem rawDiscount_ne_panicked_iff (hqty : ∀ line ∈ sale.lines, 0 ≤ line.qty) (base : Int)
    (t : PromotionType) :
    rawDiscount cfg promo sale base t ≠ .error .panicked ↔
      (t = .buyXGetY → RewardSet promo → CountsFit cfg promo sale) := by
  cases t with
  | percentage =>
    exact iff_of_true (Except.map_ne_error (fitDiscount_ne_panicked _ _)) (fun h => by cases h)
  | fixedAmount => exact iff_of_true (fun h => by cases h) (fun h => by cases h)
  | buyXGetY => exact (buyXGetY_ne_panicked_iff hqty).trans ⟨fun h _ => h, fun h => h rfl⟩

theorem rawDiscount_isOk_iff (hqty : ∀ line ∈ sale.lines, 0 ≤ line.qty) {base : Int}
    {t : PromotionType} (hbase : discountBase cfg promo sale = .ok base)
    (hfit : t = .buyXGetY → RewardSet promo → CountsFit cfg promo sale) :
    (rawDiscount cfg promo sale base t).isOk = true ↔ AmountFits cfg promo sale t := by
  cases t with
  | percentage =>
    unfold rawDiscount AmountFits
    rw [Except.isOk_map, fitDiscount_isOk_iff, discountBase_ok hbase]
  | fixedAmount => exact iff_of_true rfl trivial
  | buyXGetY =>
    unfold rawDiscount AmountFits
    by_cases hset : RewardSet promo
    · rw [buyXGetY_scanned hqty hset (hfit rfl hset), rewardDiscount_isOk_iff]
      exact (and_iff_right hset).symm
    · obtain ⟨e, he, -⟩ := buyXGetY_of_not_set cfg sale hset
      rw [he]
      exact iff_of_false Bool.false_ne_true (fun h => hset h.1)

theorem rawDiscount_le (hqty : ∀ line ∈ sale.lines, 0 ≤ line.qty) {base raw : Int}
    {t : PromotionType} (hbase : discountBase cfg promo sale = .ok base)
    (hfit : t = .buyXGetY → RewardSet promo → CountsFit cfg promo sale)
    (hvalue : 0 ≤ coveredValue cfg promo sale t)
    (h : rawDiscount cfg promo sale base t = .ok raw) : raw ≤ coveredValue cfg promo sale t := by
  cases t with
  | percentage =>
    obtain ⟨n, -, rfl⟩ := Except.of_map h
    rw [← discountBase_ok hbase]
    exact min_le_right _ _
  | fixedAmount =>
    cases h
    exact (min_le_right _ _).trans (discountBase_ok hbase).le
  | buyXGetY =>
    have hset := ((rawDiscount_isOk_iff hqty hbase hfit).mp ((Except.isOk_iff _).mpr ⟨raw, h⟩)).1
    exact buyXGetY_le hqty hset (hfit rfl hset) hvalue h

/-- After its gates and its base, a discount is covered when it is counted without a panic and
comes out only for a sale, and merchandise, that is not worth less than nothing. -/
theorem covered_of_base {now base : Int} {t : PromotionType}
    (happlies : checkApplies cfg now promo sale.totalMinor = .ok t)
    (hbase : discountBase cfg promo sale = .ok base) :
    DiscountCovered cfg promo now sale ↔
      rawDiscount cfg promo sale base t ≠ .error .panicked ∧
        ∀ raw, rawDiscount cfg promo sale base t = .ok raw →
          0 ≤ sale.totalMinor ∧
            max 0 (min raw sale.totalMinor) ≤ coveredValue cfg promo sale t := by
  have hcompute : computeDiscount cfg now promo sale =
      (rawDiscount cfg promo sale base t).bind (clampToTotal sale.totalMinor) := by
    simp [computeDiscount, happlies, hbase, Except.bind]
  unfold DiscountCovered
  rw [hcompute]
  cases hraw : rawDiscount cfg promo sale base t with
  | error e => simp [Except.bind]
  | ok raw =>
    by_cases htotal : sale.totalMinor < 0
    · have hno : ¬ 0 ≤ sale.totalMinor := Int.not_le.mpr htotal
      simp [Except.bind, clampToTotal, htotal, hno]
    · have hyes : 0 ≤ sale.totalMinor := Int.not_lt.mp htotal
      simp only [Except.bind, clampToTotal, if_neg htotal, happlies]
      constructor
      · intro h
        refine ⟨by simp, ?_⟩
        intro raw' hraw'
        cases hraw'
        exact ⟨hyes, (h.2 t _ rfl rfl).2.2⟩
      · intro h
        refine ⟨by simp, ?_⟩
        intro t' d ht' hd
        cases ht'
        cases hd
        exact ⟨le_max_left _ _, max_le hyes (min_le_right _ _), (h.2 raw rfl).2⟩

end Promotion

theorem Promotion.discount_covered_iff (cfg : PromotionSettings) (promo : Promotion) (now : Int)
    (sale : PricedSale) (hqty : ∀ line ∈ sale.lines, 0 ≤ line.qty) :
    promo.DiscountCovered cfg now sale ↔ promo.WithinMeans cfg now sale := by
  unfold WithinMeans
  cases happlies : checkApplies cfg now promo sale.totalMinor with
  | error e =>
    have hne : e ≠ .panicked :=
      fun h => checkApplies_ne_panicked cfg promo now sale.totalMinor (h ▸ happlies)
    simp [DiscountCovered, computeDiscount, happlies, Except.bind, hne]
  | ok t =>
    rw [← discountBase_isOk_iff]
    cases hbase : discountBase cfg promo sale with
    | error e =>
      have hne : e ≠ .panicked := fun h => discountBase_ne_panicked (h ▸ hbase)
      simp [DiscountCovered, computeDiscount, happlies, hbase, Except.bind, hne, Except.isOk,
        Except.toBool]
    | ok base =>
      rw [covered_of_base happlies hbase, rawDiscount_ne_panicked_iff hqty]
      constructor
      · intro h t' ht' _
        cases ht'
        refine ⟨h.1, ?_⟩
        intro hamount
        obtain ⟨raw, hraw⟩ :=
          (Except.isOk_iff _).mp ((rawDiscount_isOk_iff hqty hbase h.1).mpr hamount)
        obtain ⟨htotal, hcovered⟩ := h.2 raw hraw
        exact ⟨htotal, (le_max_left _ _).trans hcovered⟩
      · intro h
        obtain ⟨hfit, hmeans⟩ := h t rfl rfl
        refine ⟨hfit, ?_⟩
        intro raw hraw
        obtain ⟨htotal, hvalue⟩ := hmeans
          ((rawDiscount_isOk_iff hqty hbase hfit).mp ((Except.isOk_iff _).mpr ⟨raw, hraw⟩))
        have hle := rawDiscount_le hqty hbase hfit hvalue hraw
        exact ⟨htotal, max_le hvalue ((min_le_left _ _).trans hle)⟩

def teaForNothing : Promotion :=
  ⟨"p1", "Tea", "buy_x_get_y", 100, some 1, some "TEA", none, some 1, none, none, 0, none, true⟩

/-- Two lines of free tea with `first` and `second` pieces. -/
def freeTea (first second : Int) : PricedSale :=
  ⟨"s1", 0, "IDR", [⟨"l1", "s1", "TEA", first, 0, 0, 0, none, 0⟩,
    ⟨"l2", "s1", "TEA", second, 0, 0, 0, none, 1⟩]⟩

def uncategorized : PromotionSettings := ⟨fun _ => .ok 0, fun _ => "", fun _ => none⟩

theorem free_tea_uncovered :
    ¬ teaForNothing.DiscountCovered uncategorized 0 (freeTea 9223372036854775807 1) := by
  intro h
  exact h.1 (by decide +kernel)

theorem two_free_teas_covered :
    (∀ line ∈ (freeTea 1 1).lines, 0 ≤ line.qty) ∧
      (teaForNothing.DiscountCovered uncategorized 0 (freeTea 1 1) ↔
        teaForNothing.WithinMeans uncategorized 0 (freeTea 1 1)) :=
  ⟨by decide, Promotion.discount_covered_iff _ _ _ _ (by decide)⟩

end OzPos
