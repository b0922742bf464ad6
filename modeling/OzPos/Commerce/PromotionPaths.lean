import OzPos.Commerce.Promotions

namespace OzPos

variable {ε : Type} {n : Int}

theorem fitOr_of_fits (e : ε) (h : FitsI64 n) : fitOr e n = .ok n := by
  have hn := (checkedI64_eq_some_iff n n).mpr ⟨rfl, h⟩
  simp [fitOr, hn]

theorem fitOr_of_not_fits (e : ε) (h : ¬ FitsI64 n) : fitOr e n = .error e := by
  cases hn : checkedI64 n with
  | none => simp [fitOr, hn]
  | some m => exact absurd ((checkedI64_eq_some_iff n m).mp hn).2 h

theorem fitOr_ok {e : ε} {m : Int} (h : fitOr e n = .ok m) : m = n ∧ FitsI64 n := by
  by_cases hn : FitsI64 n
  · rw [fitOr_of_fits e hn] at h
    cases h
    exact ⟨rfl, hn⟩
  · rw [fitOr_of_not_fits e hn] at h
    cases h

theorem fitOr_error {e e' : ε} (h : fitOr e n = .error e') : e' = e := by
  by_cases hn : FitsI64 n
  · rw [fitOr_of_fits e hn] at h
    cases h
  · rw [fitOr_of_not_fits e hn] at h
    exact (Except.error.inj h).symm

namespace Promotion

variable (cfg : PromotionSettings) (promo : Promotion)

/-- A line no door refuses: nothing on it is negative. -/
def Sane (line : SaleLine) : Prop := 0 ≤ line.qty ∧ 0 ≤ line.lineMinor

def baseOf (line : SaleLine) : Int := if inScope cfg promo line then line.lineMinor else 0

def countOf (sku : String) (line : SaleLine) : Int :=
  if inScope cfg promo line ∧ line.sku = sku then line.qty else 0

def lowest (reward : String) (cheapest : Option Int) (line : SaleLine) : Option Int :=
  if inScope cfg promo line ∧ line.sku = reward then cheaper cheapest line.unitMinor else cheapest

def Sum (n : Int) : Prop := 0 ≤ n ∧ FitsI64 n

theorem baseOf_nonneg {line : SaleLine} (h : Sane line) : 0 ≤ baseOf cfg promo line := by
  unfold baseOf
  split
  · exact h.2
  · exact Int.le_refl 0

theorem countOf_nonneg (sku : String) {line : SaleLine} (h : 0 ≤ line.qty) :
    0 ≤ countOf cfg promo sku line := by
  unfold countOf
  split
  · exact h
  · exact Int.le_refl 0

theorem addToBase_eq {base : Int} (hbase : FitsI64 base) (line : SaleLine) :
    addToBase cfg promo base line =
      fitOr (.core (.validation "line_total" "discount computation overflow"))
        (base + baseOf cfg promo line) := by
  unfold addToBase baseOf
  by_cases hscope : inScope cfg promo line = true
  · simp [hscope, fitDiscount]
  · simp [hscope, fitOr_of_fits _ hbase]

theorem fitOr_twice (e : ε) {s a b : Int} (hs : 0 ≤ s) (ha : 0 ≤ a) (hb : 0 ≤ b) :
    (fitOr e (s + a)).bind (fun n => fitOr e (n + b)) = fitOr e (s + a + b) := by
  by_cases h : FitsI64 (s + a)
  · rw [fitOr_of_fits e h]
    rfl
  · have hlong : ¬ FitsI64 (s + a + b) := by
      unfold FitsI64 at h ⊢
      omega
    rw [fitOr_of_not_fits e h, fitOr_of_not_fits e hlong]
    rfl

theorem sum_of_fitOr {e : ε} {s a : Int} (hs : 0 ≤ s) (ha : 0 ≤ a)
    (h : fitOr e (s + a) = .ok n) : Sum n := by
  obtain ⟨rfl, hfits⟩ := fitOr_ok h
  exact ⟨Int.add_nonneg hs ha, hfits⟩

theorem addToBase_twice {base : Int} (hs : Sum base) {a b : SaleLine} (ha : Sane a) (hb : Sane b) :
    (addToBase cfg promo base a).bind (fun base => addToBase cfg promo base b) =
      fitOr (.core (.validation "line_total" "discount computation overflow"))
        (base + baseOf cfg promo a + baseOf cfg promo b) := by
  have hna := baseOf_nonneg cfg promo ha
  have hnb := baseOf_nonneg cfg promo hb
  rw [← fitOr_twice _ hs.1 hna hnb, addToBase_eq cfg promo hs.2 a]
  cases h : fitOr (PromotionError.core (.validation "line_total" "discount computation overflow"))
      (base + baseOf cfg promo a) with
  | error e => rfl
  | ok n => exact addToBase_eq cfg promo (sum_of_fitOr hs.1 hna h).2 b

theorem addToBase_commutes : Except.Commutes (addToBase cfg promo) Sum Sane where
  kept := by
    intro s a s' hs ha h
    rw [addToBase_eq cfg promo hs.2 a] at h
    exact sum_of_fitOr hs.1 (baseOf_nonneg cfg promo ha) h
  swap := by
    intro s a b hs ha hb
    rw [addToBase_twice cfg promo hs ha hb, addToBase_twice cfg promo hs hb ha, add_right_comm]

def Counts (s : RewardScan) : Prop := Sum s.triggerQty ∧ Sum s.rewardQtyInCart

variable (trigger reward : String)

theorem scanLine_eq {s : RewardScan} (hs : Counts s) (line : SaleLine) :
    scanLine cfg promo trigger reward s line =
      (fitOr .panicked (s.triggerQty + countOf cfg promo trigger line)).bind (fun triggerQty =>
        (fitOr .panicked (s.rewardQtyInCart + countOf cfg promo reward line)).bind
          (fun rewardQtyInCart =>
            .ok ⟨triggerQty, lowest cfg promo reward s.cheapest line, rewardQtyInCart⟩)) := by
  have ht0 : fitOr PromotionError.panicked s.triggerQty = .ok s.triggerQty :=
    fitOr_of_fits _ hs.1.2
  have hr0 : fitOr PromotionError.panicked s.rewardQtyInCart = .ok s.rewardQtyInCart :=
    fitOr_of_fits _ hs.2.2
  unfold scanLine countOf lowest countSku addChecked
  by_cases hscope : inScope cfg promo line = true
  · by_cases ht : line.sku = trigger
    · by_cases hr : line.sku = reward
      · simp [hscope, ht, ← hr]
      · have hr' : ¬ trigger = reward := ht ▸ hr
        simp [hscope, ht, hr', hr0, Except.bind]
    · by_cases hr : line.sku = reward
      · have ht' : ¬ reward = trigger := hr ▸ ht
        simp [hscope, hr, ht', ht0, Except.bind]
      · simp [hscope, ht, hr, ht0, hr0, Except.bind]
  · simp [hscope, ht0, hr0, Except.bind]

theorem cheaper_comm (c : Option Int) (p q : Int) :
    cheaper (cheaper c p) q = cheaper (cheaper c q) p := by
  cases c with
  | none =>
    simp only [cheaper, Option.some.injEq]
    split <;> split <;> omega
  | some c =>
    simp only [cheaper, Option.some.injEq]
    repeat' split
    all_goals omega

theorem lowest_comm (reward : String) (c : Option Int) (a b : SaleLine) :
    lowest cfg promo reward (lowest cfg promo reward c a) b =
      lowest cfg promo reward (lowest cfg promo reward c b) a := by
  unfold lowest
  by_cases ha : inScope cfg promo a ∧ a.sku = reward
  · by_cases hb : inScope cfg promo b ∧ b.sku = reward
    · simp only [if_pos ha, if_pos hb]
      exact cheaper_comm c a.unitMinor b.unitMinor
    · simp only [if_pos ha, if_neg hb]
  · by_cases hb : inScope cfg promo b ∧ b.sku = reward
    · simp only [if_neg ha, if_pos hb]
    · simp only [if_neg ha, if_neg hb]

theorem scanLine_twice {s : RewardScan} (hs : Counts s)
    {a b : SaleLine} (ha : Sane a) (hb : Sane b) :
    (scanLine cfg promo trigger reward s a).bind
        (fun s => scanLine cfg promo trigger reward s b) =
      (fitOr .panicked (s.triggerQty + countOf cfg promo trigger a +
          countOf cfg promo trigger b)).bind (fun triggerQty =>
        (fitOr .panicked (s.rewardQtyInCart + countOf cfg promo reward a +
            countOf cfg promo reward b)).bind (fun rewardQtyInCart =>
          .ok ⟨triggerQty, lowest cfg promo reward (lowest cfg promo reward s.cheapest a) b,
            rewardQtyInCart⟩)) := by
  have hta := countOf_nonneg cfg promo trigger ha.1
  have htb := countOf_nonneg cfg promo trigger hb.1
  have hra := countOf_nonneg cfg promo reward ha.1
  have hrb := countOf_nonneg cfg promo reward hb.1
  rw [scanLine_eq cfg promo trigger reward hs a, ← fitOr_twice _ hs.1.1 hta htb,
    ← fitOr_twice _ hs.2.1 hra hrb]
  cases ht : fitOr PromotionError.panicked (s.triggerQty + countOf cfg promo trigger a) with
  | error e => rfl
  | ok t =>
    have hsum := sum_of_fitOr hs.1.1 hta ht
    cases hr : fitOr PromotionError.panicked (s.rewardQtyInCart + countOf cfg promo reward a) with
    | error e =>
      -- the only error of either count is the panic
      obtain rfl := fitOr_error hr
      simp only [Except.bind]
      cases hlast : fitOr PromotionError.panicked (t + countOf cfg promo trigger b) with
      | error e =>
        obtain rfl := fitOr_error hlast
        rfl
      | ok n => rfl
    | ok r =>
      exact scanLine_eq cfg promo trigger reward ⟨hsum, sum_of_fitOr hs.2.1 hra hr⟩ b

theorem scanLine_commutes : Except.Commutes (scanLine cfg promo trigger reward) Counts Sane where
  kept := by
    intro s line s' hs hline h
    rw [scanLine_eq cfg promo trigger reward hs line] at h
    obtain ⟨t, ht, h⟩ := Except.of_bind h
    obtain ⟨r, hr, h⟩ := Except.of_bind h
    cases h
    exact ⟨sum_of_fitOr hs.1.1 (countOf_nonneg cfg promo trigger hline.1) ht,
      sum_of_fitOr hs.2.1 (countOf_nonneg cfg promo reward hline.1) hr⟩
  swap := by
    intro s a b hs ha hb
    rw [scanLine_twice cfg promo trigger reward hs ha hb,
      scanLine_twice cfg promo trigger reward hs hb ha,
      lowest_comm cfg promo reward s.cheapest a b,
      add_right_comm s.triggerQty, add_right_comm s.rewardQtyInCart]

theorem sum_zero : Sum 0 := by
  unfold Sum FitsI64
  decide

theorem computeDiscount_perm (now : Int) {sale other : PricedSale}
    (htotal : sale.totalMinor = other.totalMinor) (hlines : sale.lines.Perm other.lines)
    (hsane : ∀ line ∈ sale.lines, Sane line) :
    computeDiscount cfg now promo sale = computeDiscount cfg now promo other := by
  have hbase : discountBase cfg promo sale = discountBase cfg promo other := by
    unfold discountBase
    cases promo.categoryId with
    | none => simp [htotal]
    | some scope => exact (addToBase_commutes cfg promo).foldAll_perm hlines hsane 0 sum_zero
  have hscan : buyXGetY cfg promo sale = buyXGetY cfg promo other := by
    simp only [buyXGetY]
    rw [(scanLine_commutes cfg promo _ _).foldAll_perm hlines hsane ⟨0, none, 0⟩
      ⟨sum_zero, sum_zero⟩]
  have hraw (base : Int) (promoType : PromotionType) :
      rawDiscount cfg promo sale base promoType = rawDiscount cfg promo other base promoType := by
    cases promoType with
    | percentage => rfl
    | fixedAmount => rfl
    | buyXGetY => exact hscan
  unfold computeDiscount
  simp only [hbase, hraw, htotal]

end Promotion

namespace PromotionDb

structure Referenced (db : PromotionDb) : Prop where
  lines : ∀ line ∈ db.saleLines.rows, (db.sales.find? line.saleId).isSome
  applications : ∀ a ∈ db.applications.rows, (db.sales.find? a.saleId).isSome

/-- The ids drawn for the records: no two alike, and none of them a stored one. -/
structure Minted (db : PromotionDb) (mint : String → String) : Prop where
  injective : Function.Injective mint
  fresh : ∀ promotionId, db.applications.find? (mint promotionId) = none

/-- What was recorded is what was taken off a total that never went below zero. -/
def Conserved (initial : Int) (saleId : String) (db : PromotionDb) : Prop :=
  ∃ final, db.payable saleId = some final ∧
    initial - final = ((db.recorded saleId).map Prod.snd).sum ∧ 0 ≤ final

def Once (saleId : String) (db : PromotionDb) : Prop :=
  ((db.recorded saleId).map Prod.fst).Nodup

theorem applied_iff (db : PromotionDb) (saleId promotionId : String) :
    db.applied saleId promotionId = true ↔ promotionId ∈ (db.recorded saleId).map Prod.fst := by
  simp only [applied, recorded, List.any_eq_true, decide_eq_true_eq, List.mem_map,
    List.mem_filter]
  constructor
  · intro h
    obtain ⟨a, ha, hsale, hpromo⟩ := h
    exact ⟨(a.promotionId, a.discountMinor), ⟨a, ⟨ha, hsale⟩, rfl⟩, hpromo⟩
  · intro h
    obtain ⟨pair, ⟨a, ⟨ha, hsale⟩, rfl⟩, hpromo⟩ := h
    exact ⟨a, ha, hsale, hpromo⟩

variable {db next : PromotionDb} {app : PromotionApplication}

theorem recorded_append
    (h : next.applications.rows = db.applications.rows ++ [app]) (saleId : String) :
    next.recorded saleId = db.recorded saleId ++
      (if app.saleId = saleId then [(app.promotionId, app.discountMinor)] else []) := by
  unfold recorded
  rw [h, List.filter_append, List.map_append]
  by_cases hs : app.saleId = saleId
  · simp [hs]
  · simp [hs]

theorem find?_reduced (sales : Table String PricedSaleRow PricedSaleRow.id)
    (app : PromotionApplication) (id : String) :
    (sales.update app.saleId (PricedSaleRow.reduced app) (fun _ => rfl)).find? id =
      (sales.find? id).map (fun row => if id = app.saleId then row.reduced app else row) :=
  Table.find?_update sales app.saleId (PricedSaleRow.reduced app) (fun _ => rfl) id

theorem insertApplication_ok_iff (db next : PromotionDb) (app : PromotionApplication) :
    db.insertApplication app = .ok next ↔
      (db.promotions.find? app.promotionId).isSome ∧ (db.sales.find? app.saleId).isSome ∧
      ∃ applications, db.applications.insert? app = some applications ∧
        next = { db with applications } := by
  unfold insertApplication
  by_cases hkeys :
      (db.promotions.find? app.promotionId).isNone ∨ (db.sales.find? app.saleId).isNone
  · rw [if_pos hkeys]
    constructor
    · intro h
      cases h
    · intro h
      obtain ⟨hpromo, hsale, -⟩ := h
      rcases hkeys with hnone | hnone
      · simp [Option.isNone_iff_eq_none.mp hnone] at hpromo
      · simp [Option.isNone_iff_eq_none.mp hnone] at hsale
  · rw [if_neg hkeys]
    rw [not_or] at hkeys
    have hpromo : (db.promotions.find? app.promotionId).isSome := by
      simpa [Option.isSome_iff_ne_none] using hkeys.1
    have hsale : (db.sales.find? app.saleId).isSome := by
      simpa [Option.isSome_iff_ne_none] using hkeys.2
    cases hinsert : db.applications.insert? app with
    | none => simp [fail]
    | some applications => simp [hpromo, hsale, eq_comm]

theorem commitApplication_ok_iff (db next : PromotionDb) (app : PromotionApplication) :
    db.commitApplication app = .ok next ↔
      db.applied app.saleId app.promotionId = false ∧
      (∃ row, db.sales.find? app.saleId = some row ∧ row.status = "pending" ∧
        app.discountMinor ≤ row.totalMinor) ∧
      (db.promotions.find? app.promotionId).isSome ∧
      ∃ applications, db.applications.insert? app = some applications ∧
        next = { db with
          applications
          sales := db.sales.update app.saleId (PricedSaleRow.reduced app) (fun _ => rfl) } := by
  unfold commitApplication
  cases happlied : db.applied app.saleId app.promotionId with
  | true => simp [refuseApplied, refusePromotion]
  | false =>
    cases hrow : db.sales.find? app.saleId with
    | none => simp [fail]
    | some row =>
      by_cases hstatus : row.status = "pending"
      · by_cases hshort : row.totalMinor < app.discountMinor
        · simp [hstatus, hshort, refusePromotion, Int.not_le.mpr hshort]
        · have hcover : app.discountMinor ≤ row.totalMinor := Int.not_lt.mp hshort
          have hreduce (applications) : ({ db with applications } : PromotionDb).reduceTotal app =
              some { db with
                applications
                sales := db.sales.update app.saleId (PricedSaleRow.reduced app)
                  (fun _ => rfl) } := by
            simp [reduceTotal, hrow, hstatus, hcover]
          simp only [Bool.false_eq_true, if_false, hstatus, ne_eq, not_true_eq_false, hshort,
            Except.bind_ok_iff, insertApplication_ok_iff, hrow, Option.isSome_some, true_and,
            Option.some.injEq, exists_eq_left', hcover, and_true]
          constructor
          · intro h
            obtain ⟨mid, ⟨hpromo, applications, hinsert, rfl⟩, hmid⟩ := h
            rw [hreduce applications] at hmid
            exact ⟨hpromo, applications, hinsert, (Except.ok.inj hmid).symm⟩
          · intro h
            obtain ⟨hpromo, applications, hinsert, rfl⟩ := h
            refine ⟨_, ⟨hpromo, applications, hinsert, rfl⟩, ?_⟩
            rw [hreduce applications]
      · simp [hstatus, refusePromotion]

/-- A committed call lowers the total by the discount it records, and nothing else. -/
structure Committed (app : PromotionApplication) (db next : PromotionDb) : Prop where
  unapplied : app.promotionId ∉ (db.recorded app.saleId).map Prod.fst
  covered : ∃ total, db.payable app.saleId = some total ∧ app.discountMinor ≤ total ∧
    next.payable app.saleId = some (total - app.discountMinor)
  others : ∀ saleId, saleId ≠ app.saleId → next.payable saleId = db.payable saleId
  rows : next.applications.rows = db.applications.rows ++ [app]

theorem committed (h : db.commitApplication app = .ok next) : Committed app db next := by
  obtain ⟨happlied, ⟨row, hrow, hstatus, hcover⟩, hpromo, applications, hinsert, rfl⟩ :=
    (commitApplication_ok_iff db next app).mp h
  constructor
  · rw [← applied_iff, happlied]
    exact Bool.false_ne_true
  · refine ⟨row.totalMinor, by simp [payable, hrow], hcover, ?_⟩
    simp only [payable, find?_reduced, hrow, Option.map_some, if_pos]
    rfl
  · intro saleId hother
    simp only [payable, find?_reduced, if_neg hother, Option.map_id']
  · exact Table.insert?_rows hinsert

theorem Committed.conserved (h : Committed app db next) {initial : Int} {saleId : String}
    (hdb : Conserved initial saleId db) : Conserved initial saleId next := by
  obtain ⟨final, hfinal, hsum, hnonneg⟩ := hdb
  by_cases hs : app.saleId = saleId
  · subst hs
    obtain ⟨total, htotal, hcover, hnext⟩ := h.covered
    rw [hfinal] at htotal
    cases htotal
    refine ⟨final - app.discountMinor, hnext, ?_, by omega⟩
    simp only [recorded_append h.rows app.saleId, if_pos, List.map_append, List.sum_append,
      List.map_cons, List.map_nil, List.sum_cons, List.sum_nil, ← hsum]
    omega
  · refine ⟨final, (h.others saleId (Ne.symm hs)).trans hfinal, ?_, hnonneg⟩
    rw [recorded_append h.rows saleId, if_neg hs, List.append_nil]
    exact hsum

theorem Committed.once
    (h : Committed app db next) {saleId : String} (hdb : Once saleId db) : Once saleId next := by
  unfold Once at hdb ⊢
  rw [recorded_append h.rows saleId]
  by_cases hs : app.saleId = saleId
  · subst hs
    rw [if_pos rfl, List.map_append, List.nodup_append]
    refine ⟨hdb, by simp, ?_⟩
    intro a ha b hb hab
    have hpromo : b = app.promotionId := by simpa using hb
    rw [hab, hpromo] at ha
    exact h.unapplied ha
  · rw [if_neg hs, List.append_nil]
    exact hdb

end PromotionDb

theorem applyCalls_disciplined (cfg : PromotionSettings) (initial : Int) (saleId : String) :
    (applyCalls cfg).Disciplined
      (fun db => db.Conserved initial saleId ∧ db.Once saleId) (fun _ _ => True)
      (fun _ _ _ => True) where
  found := fun _ _ _ _ _ => trivial
  stable := fun _ _ _ _ _ _ _ _ => trivial
  kept := by
    intro db app failure hdb hview hok
    simp only [applyCalls]
    cases hcommit : db.commitApplication app with
    | error e => exact hdb
    | ok next =>
      have hdone := PromotionDb.committed hcommit
      cases failure with
      | some e => exact hdb
      | none => exact ⟨hdone.conserved hdb.1, hdone.once hdb.2⟩

end OzPos
