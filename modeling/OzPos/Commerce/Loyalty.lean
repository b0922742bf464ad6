import OzPos.Commerce.GiftCards
import Mathlib.Data.List.Sort

namespace OzPos

structure LoyaltyTier where
  (id name : String)
  (minPoints pointsPerUnit earnMultiplierMillionths : Int)
  colour : String

structure LoyaltyAccount where
  (id customerId : String)
  (points lifetimePoints : Int)
  tierId : Option String
  (updatedAt createdAt : String)

inductive LoyaltyTxnType where
  | earn
  | redeem
  | refundReversal
  deriving DecidableEq

structure LoyaltyTransaction where
  (id accountId : String)
  saleId : Option String
  points : Int
  txnType : LoyaltyTxnType
  (description createdAt : String)
  deriving DecidableEq

/-- The column of `customers` that mirrors the account. -/
structure CustomerPoints where
  id : String
  loyaltyPoints : Int

structure LoyaltySale where
  id : String
  customerId : Option String
  totalMinor : Int
  (status currency : String)

def bronze : String := "tier-bronze"

/-- The tiers as seeded and edited: thresholds are unique and not negative, bronze starts at
zero. -/
structure TierTable where
  rows : List LoyaltyTier
  ids : (rows.map LoyaltyTier.id).Nodup
  thresholds : (rows.map LoyaltyTier.minPoints).Nodup
  nonneg : ∀ t ∈ rows, 0 ≤ t.minPoints
  zero : ∃ t ∈ rows, t.id = bronze ∧ t.minPoints = 0

def seededTiers : TierTable where
  rows :=
    [⟨bronze, "Bronze", 0, 10, 1000000, "#cd7f32"⟩,
      ⟨"tier-silver", "Silver", 100, 10, 1250000, "#c0c0c0"⟩,
      ⟨"tier-gold", "Gold", 500, 10, 1500000, "#ffd700"⟩,
      ⟨"tier-platinum", "Platinum", 2000, 10, 2000000, "#e5e4e2"⟩]
  ids := by decide +kernel
  thresholds := by decide +kernel
  nonneg := by decide +kernel
  zero := ⟨_, List.mem_cons_self .., rfl, rfl⟩

def isHexDigit (c : Char) : Bool :=
  c.isDigit || ('a' ≤ c && c ≤ 'f') || ('A' ≤ c && c ≤ 'F')

def validateTierConfig (edit : LoyaltyTier) : Except CoreError Unit :=
  if trim edit.name = "" then .error (.validation "name" "tier name must not be empty")
  else if edit.minPoints < 0 then
    .error (.validation "min_points" "tier threshold must not be negative")
  else if edit.pointsPerUnit ≤ 0 then
    .error (.validation "points_per_unit" "points per unit must be positive")
  else if edit.earnMultiplierMillionths ≤ 0 then
    .error (.validation "earn_multiplier_millionths"
      "earn multiplier must be a positive number of millionths")
  else if edit.colour.utf8ByteSize = 7 ∧ edit.colour.toList.head? = some '#' ∧
      edit.colour.toList.tail.all isHexDigit then .ok ()
  else
    .error (.validation "colour" "colour must be a # followed by six hexadecimal digits")

/-- `update_tier`: the row with the edit's id takes its values. -/
def updateTier (edit : LoyaltyTier) (rows : List LoyaltyTier) :
    Except CoreError (List LoyaltyTier) :=
  if rows.all (fun t => t.id ≠ edit.id) then .error (.notFound "loyalty_tier" edit.id)
  else
    match validateTierConfig edit with
    | .error e => .error e
    | .ok () =>
      if rows.any (fun t => t.id ≠ edit.id && t.minPoints = edit.minPoints) then
        .error (.validation "min_points" "tier thresholds must be unique")
      else if 0 < edit.minPoints ∧ rows.all (fun t => t.id = edit.id || t.minPoints ≠ 0) then
        .error (.validation "min_points" "at least one tier must start at zero points")
      else .ok (rows.map (fun t => if t.id = edit.id then edit else t))

theorem nonneg_of_validate {edit : LoyaltyTier} (h : validateTierConfig edit = .ok ()) :
    0 ≤ edit.minPoints := by
  unfold validateTierConfig at h
  split at h
  · cases h
  · split at h
    · cases h
    · omega

theorem updateTier_keeps (tiers : TierTable) {edit : LoyaltyTier} {rows : List LoyaltyTier}
    (h : updateTier edit tiers.rows = .ok rows) : ∃ edited : TierTable, edited.rows = rows := by
  unfold updateTier at h
  split at h
  · cases h
  · split at h
    · cases h
    · rename_i hvalid
      split at h
      · cases h
      · rename_i hunique
        split at h
        · cases h
        · rename_i hzero
          have hother : ∀ t ∈ tiers.rows, t.id ≠ edit.id → t.minPoints ≠ edit.minPoints := by
            intro t ht hid heq
            exact hunique (List.any_eq_true.mpr ⟨t, ht, by simp [hid, heq]⟩)
          have hsame : ∀ a ∈ tiers.rows, ∀ b ∈ tiers.rows, a.id = b.id → a = b := by
            intro a ha b hb hid
            exact List.inj_on_of_nodup_map tiers.ids ha hb hid
          refine ⟨⟨rows, ?_, ?_, ?_, ?_⟩, rfl⟩
          · rw [← Except.ok.inj h, List.map_map]
            have hids : tiers.rows.map (LoyaltyTier.id ∘ fun t => if t.id = edit.id then edit else t) =
                tiers.rows.map LoyaltyTier.id := by
              apply List.map_congr_left
              intro t _
              by_cases hid : t.id = edit.id
              · simp [hid]
              · simp [hid]
            rw [hids]
            exact tiers.ids
          · rw [← Except.ok.inj h, List.map_map]
            apply List.Nodup.map_on _ (List.Nodup.of_map _ tiers.ids)
            intro a ha b hb heq
            by_cases hida : a.id = edit.id
            · by_cases hidb : b.id = edit.id
              · exact hsame a ha b hb (hida.trans hidb.symm)
              · simp only [Function.comp_apply, hida, hidb, if_true, if_false] at heq
                exact absurd heq.symm (hother b hb hidb)
            · by_cases hidb : b.id = edit.id
              · simp only [Function.comp_apply, hida, hidb, if_true, if_false] at heq
                exact absurd heq (hother a ha hida)
              · simp only [Function.comp_apply, hida, hidb, if_false] at heq
                exact List.inj_on_of_nodup_map tiers.thresholds ha hb heq
          · intro t ht
            rw [← Except.ok.inj h, List.mem_map] at ht
            obtain ⟨old, hold, rfl⟩ := ht
            by_cases hid : old.id = edit.id
            · rw [if_pos hid]
              exact nonneg_of_validate hvalid
            · rw [if_neg hid]
              exact tiers.nonneg old hold
          · obtain ⟨base, hbase, hid, hmin⟩ := tiers.zero
            by_cases hedit : base.id = edit.id
            · refine ⟨edit, ?_, hedit.symm.trans hid, ?_⟩
              · rw [← Except.ok.inj h, List.mem_map]
                exact ⟨base, hbase, by rw [if_pos hedit]⟩
              · -- no other tier starts at zero, so the edit may not leave zero
                have hnonneg := nonneg_of_validate hvalid
                by_contra hpos
                apply hzero
                refine ⟨by omega, ?_⟩
                rw [List.all_eq_true]
                intro t ht
                by_cases hidt : t.id = edit.id
                · simp [hidt]
                · have hne : t.minPoints ≠ 0 := by
                    intro hzero
                    have heq := List.inj_on_of_nodup_map tiers.thresholds ht hbase
                      (hzero.trans hmin.symm)
                    exact hidt (heq ▸ hedit)
                  simp [hne]
            · refine ⟨base, ?_, hid, hmin⟩
              rw [← Except.ok.inj h, List.mem_map]
              exact ⟨base, hbase, by rw [if_neg hedit]⟩

/-- Whatever edits are tried, the tiers keep unique ids and thresholds and a bronze at zero. -/
theorem tiers_edited (tiers : TierTable) (edits : List LoyaltyTier) :
    ∃ edited : TierTable, edited.rows =
      edits.foldl (fun rows edit => (updateTier edit rows).toOption.getD rows) tiers.rows := by
  induction edits generalizing tiers with
  | nil => exact ⟨tiers, rfl⟩
  | cons edit edits ih =>
    cases h : updateTier edit tiers.rows with
    | error e => simpa [h, Except.toOption] using ih tiers
    | ok rows =>
      obtain ⟨next, rfl⟩ := updateTier_keeps tiers h
      simpa [h, Except.toOption] using ih next

structure LoyaltyDb where
  tiers : TierTable
  customers : Table String CustomerPoints CustomerPoints.id
  accounts : Table String LoyaltyAccount LoyaltyAccount.id
  transactions : Table String LoyaltyTransaction LoyaltyTransaction.id
  sales : Table String LoyaltySale LoyaltySale.id

structure LoyaltyDraw where
  (accountId txnId now : String)

def i64Min : Int := -9223372036854775808

/-- `i64::saturating_mul`. -/
def saturatingMul (a b : Int) : Int := max i64Min (min i64Max (a * b))

/-- An `i128` cut to 64 bits by `as i64`. -/
def asI64 (n : Int) : Int := (n - i64Min) % 18446744073709551616 + i64Min

/-- Half up towards +∞; a quotient outside `i64` is `i64::MAX`. -/
def computePoints (base multiplierMillionths : Int) : Int :=
  let den : Int := 100 * 1000000
  let num := base * multiplierMillionths
  let q := num / den
  let r := num % den
  let rounded := if r * 2 ≥ den then q + 1 else q
  if i64Min ≤ rounded ∧ rounded ≤ i64Max then rounded else i64Max

/-- `ORDER BY min_points DESC LIMIT 1` over the tiers reached. -/
def bestTier : List LoyaltyTier → Int → Option LoyaltyTier
  | [], _ => none
  | t :: rest, lifetime =>
    match bestTier rest lifetime with
    | none => if t.minPoints ≤ lifetime then some t else none
    | some best =>
      if t.minPoints ≤ lifetime ∧ best.minPoints ≤ t.minPoints then some t else some best

namespace LoyaltyDb

def accountOf (db : LoyaltyDb) (customerId : String) : Option LoyaltyAccount :=
  db.accounts.rows.find? (fun a => a.customerId = customerId)

def transactionFor (db : LoyaltyDb) (accountId saleId : String) (txnType : LoyaltyTxnType) :
    Option LoyaltyTransaction :=
  db.transactions.rows.find?
    (fun t => t.accountId = accountId && t.saleId = some saleId && t.txnType = txnType)

variable (draw : LoyaltyDraw) (customerId : String) (db : LoyaltyDb)

/-- `INSERT OR IGNORE INTO loyalty_accounts`. -/
def ensureAccount : LoyaltyDb :=
  match db.accountOf customerId with
  | some _ => db
  | none =>
    { db with
      accounts := db.accounts.insertNew
        { id := draw.accountId, customerId, points := 0, lifetimePoints := 0
          tierId := some bronze, updatedAt := draw.now, createdAt := draw.now } }

def getOrCreateLoyaltyAccount : LoyaltyDb × Except CoreError LoyaltyAccount :=
  match db.customers.find? customerId with
  | none => (db, .error (.notFound "customer" customerId))
  | some _ =>
    let db := db.ensureAccount draw customerId
    match db.accountOf customerId with
    | some account => (db, .ok account)
    | none =>
      (db, .error (.internal ("loyalty account insert was ignored but account " ++ customerId ++
        " was not found")))

/-- `INSERT INTO loyalty_transactions`: the primary key, the foreign keys, one earn and
one redeem for each account and sale. -/
def insertTransaction (row : LoyaltyTransaction) (db : LoyaltyDb) : Except CoreError LoyaltyDb :=
  if row.txnType ≠ .refundReversal ∧ db.transactions.rows.any (fun t =>
      t.accountId = row.accountId && t.saleId = row.saleId && t.txnType = row.txnType) then
    .error (.db ("UNIQUE constraint failed: loyalty_transactions.account_id, " ++
      "loyalty_transactions.sale_id"))
  else
    match db.transactions.insert? row with
    | none => .error (.db "UNIQUE constraint failed: loyalty_transactions.id")
    | some transactions =>
      if (db.accounts.find? row.accountId).isSome &&
          row.saleId.all (fun saleId => (db.sales.find? saleId).isSome) then
        .ok { db with transactions }
      else .error (.db "FOREIGN KEY constraint failed")

def updateAccount (id : String) (now : String)
    (change : LoyaltyAccount → Int × Int × Option String) (db : LoyaltyDb) : LoyaltyDb :=
  { db with
    accounts := db.accounts.update id
      (fun a =>
        { a with
          points := (change a).1, lifetimePoints := (change a).2.1, tierId := (change a).2.2
          updatedAt := now })
      (fun _ => rfl) }

variable (points : Int)

def setPoints (customers : Table String CustomerPoints CustomerPoints.id) :
    Table String CustomerPoints CustomerPoints.id :=
  customers.update customerId (fun c => { c with loyaltyPoints := points }) (fun _ => rfl)

/-- `UPDATE customers SET loyalty_points = (SELECT points FROM loyalty_accounts …)`. -/
def projectPoints : LoyaltyDb :=
  match db.accountOf customerId with
  | none => db
  | some account => { db with customers := setPoints customerId account.points db.customers }

/-- The rate of the account's tier, `(10, 1_000_000)` where it has none. -/
def earningRate (account : LoyaltyAccount) : Int × Int :=
  match account.tierId.bind (fun id => db.tiers.rows.find? (fun t => t.id = id)) with
  | some tier => (tier.pointsPerUnit, tier.earnMultiplierMillionths)
  | none => (10, 1000000)

def earnRow (accountId saleId : String) (points : Int) : LoyaltyTransaction :=
  { id := draw.txnId, accountId, saleId := some saleId, points, txnType := .earn
    description := "Earned " ++ toString points ++ " points from purchase", createdAt := draw.now }

variable (tiers : List LoyaltyTier)

def earnChange (points : Int) (a : LoyaltyAccount) : Int × Int × Option String :=
  (a.points + points, a.lifetimePoints + points,
    (bestTier tiers (a.lifetimePoints + points)).map LoyaltyTier.id)

/-- The award on the caller's transaction: what is written before an error stays. -/
def earnPointsWithConn (customerId saleId : String) (totalMinor : Int)
    (db : LoyaltyDb) : LoyaltyDb × Except CoreError (Option LoyaltyTransaction) :=
  match db.customers.find? customerId with
  | none => (db, .error (.notFound "customer" customerId))
  | some _ =>
    let opened := db.ensureAccount draw customerId
    match opened.accountOf customerId with
    | none => (opened, .error (.db "Query returned no rows"))
    | some account =>
      match opened.transactionFor account.id saleId .earn with
      | some existing => (opened, .ok (some existing))
      | none =>
        let rate := opened.earningRate account
        let points := computePoints (saturatingMul totalMinor rate.1) rate.2
        if points ≤ 0 then (opened, .ok none)
        else
          let row := earnRow draw account.id saleId points
          match opened.insertTransaction row with
          | .error e =>
            match opened.transactionFor account.id saleId .earn with
            | some winner => (opened, .ok (some winner))
            | none => (opened, .error e)
          | .ok stored =>
            let paid := stored.updateAccount account.id draw.now
              (earnChange stored.tiers.rows points)
            (paid.projectPoints customerId, .ok (some row))

def earnPoints (customerId saleId : String) (totalMinor : Int)
    (db : LoyaltyDb) : LoyaltyDb × Except CoreError LoyaltyTransaction :=
  match db.earnPointsWithConn draw customerId saleId totalMinor with
  | (next, .ok (some t)) => (next, .ok t)
  | (_, .ok none) =>
    (db, .error (.validation "total_minor" "purchase total too small to earn points"))
  | (_, .error e) => (db, .error e)

def loyaltyRedeemRow (accountId : String) (sale : LoyaltySale) (points : Int) :
    LoyaltyTransaction :=
  { id := draw.txnId, accountId, saleId := some sale.id, points := -points, txnType := .redeem
    description := "Redeemed " ++ toString points ++ " points for " ++
      formatMinor points (giftCardCurrency sale.currency) ++ " discount"
    createdAt := draw.now }

def saturatingAbs (n : Int) : Int := min i64Max n.natAbs

def redeemableSale (customerId saleId : String) (db : LoyaltyDb) : Except CoreError LoyaltySale :=
  match db.sales.find? saleId with
  | none => .error (.notFound "sale" saleId)
  | some sale =>
    if sale.customerId ≠ some customerId then
      .error (.validation "sale_id" "sale does not belong to this customer")
    else if sale.status ≠ "completed" then
      .error (.validation "sale_id" "loyalty points can only be redeemed on a completed sale")
    else if sale.totalMinor < 0 then
      .error (.validation "sale_id" "sale total must not be negative")
    else .ok sale

/-- The transaction of a redemption; one point is one minor unit. -/
def writeRedemption (sale : LoyaltySale) (account : LoyaltyAccount)
    (db : LoyaltyDb) : LoyaltyDb × Except CoreError (LoyaltyTransaction × Int) :=
  let row := loyaltyRedeemRow draw account.id sale points
  match db.insertTransaction row with
  | .error e =>
    match db.transactionFor account.id sale.id .redeem with
    | some existing => (db, .ok (existing, saturatingAbs existing.points))
    | none => (db, .error e)
  | .ok stored =>
    match stored.accounts.find? account.id with
    | none => (db, .error (.validation "points" "insufficient points"))
    | some current =>
      if points ≤ current.points then
        let spent := stored.updateAccount account.id draw.now
          (fun a => (a.points - points, a.lifetimePoints, a.tierId))
        (spent.projectPoints customerId, .ok (row, points))
      else (db, .error (.validation "points" "insufficient points"))

variable (saleId : String)

def redeemPoints (db : LoyaltyDb) : LoyaltyDb × Except CoreError (LoyaltyTransaction × Int) :=
  match db.accountOf customerId with
  | none => (db, .error (.notFound "loyalty_account" customerId))
  | some account =>
    if points ≤ 0 then (db, .error (.validation "points" "points must be positive"))
    else
      match db.redeemableSale customerId saleId with
      | .error e => (db, .error e)
      | .ok sale =>
        match db.transactionFor account.id saleId .redeem with
        | some existing => (db, .ok (existing, saturatingAbs existing.points))
        | none =>
          if account.points < points then
            (db, .error (.validation "points" ("insufficient points: have " ++
              toString account.points ++ ", requested " ++ toString points)))
          else if sale.totalMinor < points then
            (db, .error (.validation "points" "redemption cannot exceed the sale total"))
          else db.writeRedemption draw customerId points sale account

/-- The sale's award: the earliest `earn` row. -/
def awardFor (db : LoyaltyDb) : Option LoyaltyTransaction :=
  let earned := db.transactions.rows.filter (fun t => t.saleId = some saleId && t.txnType = .earn)
  (earned.insertionSort (fun a b => a.createdAt ≤ b.createdAt)).head?

def alreadyReversed (db : LoyaltyDb) : Int :=
  ((db.transactions.rows.filter
    (fun t => t.saleId = some saleId && t.txnType = .refundReversal)).map
      (fun t => -t.points)).sum

/-- Half up, in `i128`, then cut to `i64`. -/
def proportionalPoints (earned refundTotal saleTotal : Int) : Int :=
  if 0 < saleTotal ∧ 0 < refundTotal then
    asI64 ((earned * refundTotal * 2 + saleTotal).tdiv (saleTotal * 2))
  else 0

def reversalDeduct (award : LoyaltyTransaction) (reversed refundTotal saleTotal : Int) : Int :=
  max (min (proportionalPoints award.points refundTotal saleTotal) (award.points - reversed)) 0

def reversalRow (now saleId refundId accountId : String) (deduct : Int) : LoyaltyTransaction :=
  { id := "loyalty-reversal-" ++ refundId, accountId, saleId := some saleId, points := -deduct
    txnType := .refundReversal
    description := "Reversed " ++ toString deduct ++ " points for refund on sale", createdAt := now }

/-- Balance and lifetime floor at zero; a tier is kept where none is reached. -/
def reversalChange (deduct : Int) (a : LoyaltyAccount) : Int × Int × Option String :=
  let lifetime := max (a.lifetimePoints - deduct) 0
  (max (a.points - deduct) 0, lifetime,
    match bestTier tiers lifetime with
    | some tier => some tier.id
    | none => a.tierId)

def reverseLoyaltyOnRefund (now saleId refundId : String) (refundTotal saleTotal : Int)
    (db : LoyaltyDb) : LoyaltyDb × Except CoreError (Option LoyaltyTransaction) :=
  match db.awardFor saleId with
  | none => (db, .ok none)
  | some award =>
    let deduct := reversalDeduct award (db.alreadyReversed saleId) refundTotal saleTotal
    if deduct ≤ 0 then (db, .ok none)
    else
      let row := reversalRow now saleId refundId award.accountId deduct
      match db.insertTransaction row with
      | .error _ => (db, .ok none)
      | .ok stored =>
        let reduced := stored.updateAccount award.accountId now
          (reversalChange stored.tiers.rows deduct)
        match reduced.accounts.find? award.accountId with
        | none => (reduced, .ok (some row))
        | some account => (reduced.projectPoints account.customerId, .ok (some row))

end LoyaltyDb

end OzPos
