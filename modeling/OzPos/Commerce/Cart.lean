import OzPos.Tax.SaleTax

namespace OzPos

/-- `none` when the currencies differ, or on overflow. -/
def Money.checkedSub (a b : Money) : Option Money :=
  if a.currency = b.currency then
    (checkedI64 (a.minorUnits - b.minorUnits)).map (fun n => ⟨n, a.currency⟩)
  else none

def Money.min (a b : Money) : Option Money :=
  if a.currency = b.currency then some (if a.minorUnits ≤ b.minorUnits then a else b) else none

def Money.checkedMul (a : Money) (scalar : Int) : Option Money :=
  (checkedI64 (a.minorUnits * scalar)).map (fun n => ⟨n, a.currency⟩)

structure Percentage where
  value : Nat
  bounded : value ≤ 100

variable (percent : Percentage)

/-- `complement_apply_to`: the hundreds and the rest apart, so that no product overflows. -/
def Percentage.complementApplyTo (money : Money) : Option Money :=
  let p : Int := 100 - percent.value
  let q := money.minorUnits.tdiv 100
  let r := money.minorUnits.tmod 100
  (checkedI64 (q * p)).bind (fun hi =>
    (checkedI64 (r * p)).bind (fun lo =>
      (checkedI64 (hi + lo.tdiv 100)).map (fun n => ⟨n, money.currency⟩)))

structure CartLine where
  sku : String
  qty : Int
  unitPrice : Money
  overriddenPrice : Option Money

/-- `CartLine::total`; a quantity of nothing fails closed. -/
def CartLine.total (line : CartLine) : Option Money :=
  if line.qty ≤ 0 then none
  else (line.overriddenPrice.getD line.unitPrice).checkedMul line.qty

/-- A cart as its methods leave it: `set_fixed_discount` stores no negative amount. -/
structure Cart where
  currency : String
  lines : List CartLine
  discountPercent : Percentage
  fixedDiscountMinor : Int
  fixed_nonneg : 0 ≤ fixedDiscountMinor

namespace Cart

def new (currency : String) : Cart := ⟨currency, [], ⟨0, by omega⟩, 0, le_refl 0⟩

def setDiscount (cart : Cart) : Cart :=
  { cart with discountPercent := percent, fixedDiscountMinor := 0, fixed_nonneg := le_refl 0 }

/-- `add_line`; `none` stands for its currency mismatch. -/
def addLine (line : CartLine) (cart : Cart) : Option Cart :=
  if line.unitPrice.currency = cart.currency then
    some { cart with lines := cart.lines ++ [line] }
  else none

def sumLines : List CartLine → Money → Option Money
  | [], acc => some acc
  | line :: rest, acc =>
    line.total.bind (fun t => (acc.checkedAdd t).bind (fun acc => sumLines rest acc))

variable (cart : Cart)

def subtotal : Option Money := sumLines cart.lines (.zero cart.currency)

def discounted (subtotal : Money) : Option Money :=
  if 0 < cart.discountPercent.value then cart.discountPercent.complementApplyTo subtotal
  else some subtotal

/-- What is left of an amount once the fixed discount, capped at it, is taken off. -/
def lessFixed (amount : Money) : Option Money :=
  (Money.min ⟨cart.fixedDiscountMinor, cart.currency⟩ amount).bind amount.checkedSub

def total : Option Money :=
  cart.subtotal.bind (fun acc =>
    (cart.discounted acc).bind (fun acc =>
      if 0 < cart.fixedDiscountMinor then cart.lessFixed acc else some acc))

/-- `discount_amount`, which takes the fixed discount off whether there is one or not. -/
def discountAmount : Option Money :=
  cart.subtotal.bind (fun subtotal =>
    if cart.discountPercent.value = 0 ∧ cart.fixedDiscountMinor = 0 then
      some (.zero cart.currency)
    else
      (cart.discounted subtotal).bind (fun discounted =>
        (cart.lessFixed discounted).bind subtotal.checkedSub))

end Cart

theorem tdiv_hundred (m : Int) :
    (0 ≤ m → m.tdiv 100 = m / 100) ∧ (m ≤ 0 → m.tdiv 100 = -(-m / 100)) := by
  refine ⟨fun h => Int.tdiv_eq_ediv_of_nonneg h, fun h => ?_⟩
  rw [← Int.tdiv_eq_ediv_of_nonneg (by omega), Int.neg_tdiv, Int.neg_neg]

variable (x p : Int)

theorem tdiv_share (hp : 0 ≤ p) :
    x.tdiv 100 * p + (x.tmod 100 * p).tdiv 100 = (x * p).tdiv 100 := by
  have hsplit : x * p = x.tmod 100 * p + 100 * (x.tdiv 100 * p) := by
    have h := Int.mul_tdiv_add_tmod x 100
    calc x * p = (100 * x.tdiv 100 + x.tmod 100) * p := by rw [h]
      _ = x.tmod 100 * p + 100 * (x.tdiv 100 * p) := by
        rw [Int.add_mul, Int.mul_assoc, Int.add_comm]
  have hx := tdiv_hundred x
  have hm := tdiv_hundred (x * p)
  have hr := tdiv_hundred (x.tmod 100 * p)
  rcases Int.le_total 0 x with hsign | hsign
  · have hq : 0 ≤ x.tdiv 100 * p := Int.mul_nonneg (Int.tdiv_nonneg hsign (by decide)) hp
    have hrest : 0 ≤ x.tmod 100 * p := Int.mul_nonneg (Int.tmod_nonneg 100 hsign) hp
    omega
  · have hq : x.tdiv 100 * p ≤ 0 := Int.mul_nonpos_of_nonpos_of_nonneg (by omega) hp
    have hrest : x.tmod 100 * p ≤ 0 := Int.mul_nonpos_of_nonpos_of_nonneg (by
      have h := Int.mul_tdiv_add_tmod x 100
      omega) hp
    omega

theorem share_between (hlow : 0 ≤ p) (hhigh : p ≤ 100) :
    min 0 x ≤ (x * p).tdiv 100 ∧ (x * p).tdiv 100 ≤ max 0 x ∧
      ((x * p).tdiv 100 < 0 ↔ x * p ≤ -100) := by
  have hm := tdiv_hundred (x * p)
  rcases Int.le_total 0 x with hsign | hsign
  · have h0 : 0 ≤ x * p := Int.mul_nonneg hsign hlow
    have h100 : x * p ≤ x * 100 := Int.mul_le_mul_of_nonneg_left hhigh hsign
    omega
  · have h0 : x * p ≤ 0 := Int.mul_nonpos_of_nonpos_of_nonneg hsign hlow
    have h100 : x * 100 ≤ x * p := Int.mul_le_mul_of_nonpos_left hsign hhigh
    omega
theorem parts_between (hlow : 0 ≤ p) (hhigh : p ≤ 100) :
    min 0 x ≤ x.tdiv 100 * p ∧ x.tdiv 100 * p ≤ max 0 x ∧
      -9900 ≤ x.tmod 100 * p ∧ x.tmod 100 * p ≤ 9900 := by
  have hsplit := Int.mul_tdiv_add_tmod x 100
  rcases Int.le_total 0 x with hsign | hsign
  · have hq := Int.tdiv_nonneg hsign (show (0 : Int) ≤ 100 by decide)
    have hr := Int.tmod_nonneg 100 hsign
    have hr' := Int.tmod_lt_of_pos x (show (0 : Int) < 100 by decide)
    have h1 := Int.mul_nonneg hq hlow
    have h2 := Int.mul_nonneg hr hlow
    have h3 := Int.mul_le_mul_of_nonneg_left hhigh hq
    have h4 := Int.mul_le_mul_of_nonneg_left hhigh hr
    omega
  · have hq : x.tdiv 100 ≤ 0 := by
      have := (tdiv_hundred x).2 hsign
      omega
    have hr : x.tmod 100 ≤ 0 := by
      have := (tdiv_hundred x).2 hsign
      omega
    have hr' : -100 < x.tmod 100 := by
      have := (tdiv_hundred x).2 hsign
      omega
    have h1 := Int.mul_nonpos_of_nonpos_of_nonneg hq hlow
    have h2 := Int.mul_nonpos_of_nonpos_of_nonneg hr hlow
    have h3 := Int.mul_le_mul_of_nonpos_left hq hhigh
    have h4 := Int.mul_le_mul_of_nonpos_left hr hhigh
    omega

theorem checkedI64_between {n low high : Int} (hlow : -2^63 ≤ low) (hhigh : high < 2^63)
    (h : low ≤ n) (h' : n ≤ high) : checkedI64 n = some n :=
  (checkedI64_eq_some_iff n n).mpr ⟨rfl, by omega, by omega⟩

theorem complementApplyTo_eq (percent : Percentage) {money : Money}
    (hlow : -2^63 ≤ money.minorUnits) (hhigh : money.minorUnits < 2^63) :
    percent.complementApplyTo money =
      some ⟨(money.minorUnits * (100 - percent.value)).tdiv 100, money.currency⟩ := by
  have hbounded := percent.bounded
  have hp : (0 : Int) ≤ 100 - percent.value := by omega
  have hp' : (100 : Int) - percent.value ≤ 100 := by omega
  have hwhole := share_between money.minorUnits _ hp hp'
  have hsum := tdiv_share money.minorUnits _ hp
  obtain ⟨hhi, hhi', hlo, hlo'⟩ := parts_between money.minorUnits _ hp hp'
  unfold Percentage.complementApplyTo
  dsimp only
  have hfirst : checkedI64 (money.minorUnits.tdiv 100 * (100 - percent.value)) = _ :=
    checkedI64_between (by omega) (by omega) hhi hhi'
  have hsecond : checkedI64 (money.minorUnits.tmod 100 * (100 - percent.value)) = _ :=
    checkedI64_between (by decide) (by decide) hlo hlo'
  have hboth : checkedI64 ((money.minorUnits * (100 - percent.value)).tdiv 100) = _ :=
    checkedI64_between (by omega) (by omega) hwhole.1 hwhole.2.1
  rw [hfirst, Option.bind_some, hsecond, Option.bind_some, hsum, hboth, Option.map_some]

namespace Cart

theorem sumLines_some {lines : List CartLine} {acc sum : Money} (h : sumLines lines acc = some sum)
    (hlow : -2^63 ≤ acc.minorUnits) (hhigh : acc.minorUnits < 2^63) :
    sum.currency = acc.currency ∧ -2^63 ≤ sum.minorUnits ∧ sum.minorUnits < 2^63 := by
  induction lines generalizing acc with
  | nil =>
    cases h
    exact ⟨rfl, hlow, hhigh⟩
  | cons line rest ih =>
    obtain ⟨t, _, h⟩ := Option.bind_eq_some_iff.mp h
    obtain ⟨next, hadd, h⟩ := Option.bind_eq_some_iff.mp h
    unfold Money.checkedAdd at hadd
    split at hadd
    · obtain ⟨n, hn, rfl⟩ := Option.map_eq_some_iff.mp hadd
      obtain ⟨rfl, hlow', hhigh'⟩ := (checkedI64_eq_some_iff _ _).mp hn
      have hrest := ih h hlow' hhigh'
      exact hrest
    · cases hadd

variable (cart : Cart)

theorem lessFixed_eq {amount : Money} (hcurrency : amount.currency = cart.currency)
    (hhigh : amount.minorUnits < 2^63) :
    cart.lessFixed amount =
      some ⟨max 0 (amount.minorUnits - cart.fixedDiscountMinor), cart.currency⟩ := by
  have hfixed := cart.fixed_nonneg
  unfold lessFixed Money.min
  rw [if_pos hcurrency.symm, Option.bind_some]
  by_cases hle : cart.fixedDiscountMinor ≤ amount.minorUnits
  · have hfit : checkedI64 (amount.minorUnits - cart.fixedDiscountMinor) = _ :=
      checkedI64_between (by decide : (-2^63 : Int) ≤ 0) hhigh (by omega) (by omega)
    rw [if_pos hle, Money.checkedSub, if_pos hcurrency, hfit, Option.map_some, hcurrency,
      max_eq_right (by omega)]
  · have hfit : checkedI64 (amount.minorUnits - amount.minorUnits) = _ :=
      checkedI64_between (by decide : (-2^63 : Int) ≤ 0) (by decide : (0 : Int) < 2^63) (by omega)
        (by omega)
    rw [if_neg hle, Money.checkedSub, if_pos rfl, hfit, Option.map_some, hcurrency,
      max_eq_left (by omega), Int.sub_self]

theorem discounted_eq {s : Money} (hlow : -2^63 ≤ s.minorUnits) (hhigh : s.minorUnits < 2^63) :
    ∃ d, cart.discounted s = some d ∧ min 0 s.minorUnits ≤ d.minorUnits ∧
      d.minorUnits ≤ max 0 s.minorUnits ∧
      (cart.discountPercent.value = 0 → d = s) ∧
      (0 < cart.discountPercent.value → (d.minorUnits < 0 ↔
        s.minorUnits * (100 - cart.discountPercent.value) ≤ -100)) ∧ d.currency = s.currency := by
  have hbounded := cart.discountPercent.bounded
  unfold discounted
  split
  · rename_i hpercent
    obtain ⟨hwithin, hwithin', hneg⟩ := share_between s.minorUnits
      (100 - cart.discountPercent.value) (by omega) (by omega)
    exact ⟨_, complementApplyTo_eq _ hlow hhigh, hwithin, hwithin', by omega, fun _ => hneg, rfl⟩
  · rename_i hpercent
    exact ⟨s, rfl, by omega, by omega, fun _ => rfl, fun h => absurd h hpercent, rfl⟩

/-- Both methods fail, or neither does, and then their answers make up the subtotal, the total
between nothing and it. -/
def DiscountAccounted : Prop :=
  (cart.total = none ∧ cart.discountAmount = none) ∨
    ∃ subtotal total discount, cart.subtotal = some subtotal ∧ cart.total = some total ∧
      cart.discountAmount = some discount ∧
      total.currency = cart.currency ∧ discount.currency = cart.currency ∧
      total.minorUnits + discount.minorUnits = subtotal.minorUnits ∧
      min 0 subtotal.minorUnits ≤ total.minorUnits ∧
      total.minorUnits ≤ max 0 subtotal.minorUnits

/-- A percentage alone, on lines that come to less than nothing even after it. -/
def PercentOfDebt : Prop :=
  0 < cart.discountPercent.value ∧ cart.fixedDiscountMinor = 0 ∧
    ∃ subtotal, cart.subtotal = some subtotal ∧
      subtotal.minorUnits * (100 - cart.discountPercent.value) ≤ -100

theorem discount_accounted_iff : cart.DiscountAccounted ↔ ¬ cart.PercentOfDebt := by
  cases hsubtotal : cart.subtotal with
  | none =>
    have htotal : cart.total = none := by rw [total, hsubtotal]; rfl
    have hdiscount : cart.discountAmount = none := by rw [discountAmount, hsubtotal]; rfl
    simp [DiscountAccounted, PercentOfDebt, htotal, hdiscount, hsubtotal]
  | some s =>
    have hzero : -2^63 ≤ (Money.zero cart.currency).minorUnits ∧
        (Money.zero cart.currency).minorUnits < 2^63 := ⟨by simp [Money.zero], by simp [Money.zero]⟩
    obtain ⟨hcurrency, hlow, hhigh⟩ := sumLines_some hsubtotal hzero.1 hzero.2
    change s.currency = cart.currency at hcurrency
    obtain ⟨d, hd, hdlow, hdhigh, hwhole, hdebt, hdcurrency⟩ := cart.discounted_eq hlow hhigh
    have hless := cart.lessFixed_eq (hdcurrency.trans hcurrency) (by omega)
    have hfixed := cart.fixed_nonneg
    have hsub : s.checkedSub ⟨max 0 (d.minorUnits - cart.fixedDiscountMinor), cart.currency⟩ =
        some ⟨s.minorUnits - max 0 (d.minorUnits - cart.fixedDiscountMinor), s.currency⟩ := by
      have hfit : checkedI64 (s.minorUnits -
          max 0 (d.minorUnits - cart.fixedDiscountMinor)) = _ :=
        checkedI64_between (show -2^63 ≤ min 0 s.minorUnits by omega)
          (show max 0 s.minorUnits < 2^63 by omega) (by omega) (by omega)
      unfold Money.checkedSub
      dsimp only
      rw [if_pos hcurrency, hfit, Option.map_some]
    have htotal : cart.total = if 0 < cart.fixedDiscountMinor then
        some ⟨max 0 (d.minorUnits - cart.fixedDiscountMinor), cart.currency⟩ else some d := by
      rw [total, hsubtotal, Option.bind_some, hd, Option.bind_some, hless]
    have hdiscount : cart.discountAmount =
        if cart.discountPercent.value = 0 ∧ cart.fixedDiscountMinor = 0 then
          some (.zero cart.currency)
        else some ⟨s.minorUnits - max 0 (d.minorUnits - cart.fixedDiscountMinor), s.currency⟩ := by
      rw [discountAmount, hsubtotal, Option.bind_some, hd, Option.bind_some, hless,
        Option.bind_some, hsub]
    unfold DiscountAccounted PercentOfDebt
    rw [htotal, hdiscount, hsubtotal]
    by_cases hfree : cart.fixedDiscountMinor = 0
    · by_cases hpercent : cart.discountPercent.value = 0
      · obtain rfl := hwhole hpercent
        simp [hfree, hpercent, hcurrency, Money.zero]
      · have hpos : 0 < cart.discountPercent.value := by omega
        have hneg := hdebt hpos
        simp [hfree, hpercent, hpos, hcurrency, hdcurrency, ← hneg]
        omega
    · simp [hfree, show 0 < cart.fixedDiscountMinor by omega, hcurrency]
      omega

end Cart

def depositBack : CartLine := ⟨"deposit", 1, ⟨-1000, "EUR"⟩, none⟩

def refundCart : Cart :=
  { Cart.setDiscount ⟨10, by omega⟩ (Cart.new "EUR") with lines := [depositBack] }

theorem refundCart_unaccounted :
    ((Cart.new "EUR").setDiscount ⟨10, by omega⟩).addLine depositBack = some refundCart ∧
      refundCart.subtotal = some ⟨-1000, "EUR"⟩ ∧ refundCart.total = some ⟨-900, "EUR"⟩ ∧
      refundCart.discountAmount = some ⟨-1000, "EUR"⟩ ∧ ¬ refundCart.DiscountAccounted := by
  have hsubtotal : refundCart.subtotal = some ⟨-1000, "EUR"⟩ := by decide +kernel
  have htotal : refundCart.total = some ⟨-900, "EUR"⟩ := by decide +kernel
  have hdiscount : refundCart.discountAmount = some ⟨-1000, "EUR"⟩ := by decide +kernel
  refine ⟨rfl, hsubtotal, htotal, hdiscount, ?_⟩
  simp [Cart.DiscountAccounted, hsubtotal, htotal, hdiscount]

end OzPos
