import OzPos.Commerce.Loyalty
import OzPos.Library.Run

namespace OzPos

/-- The stored tier is the highest one the lifetime points reach. -/
def TierReached (tiers : TierTable) (a : LoyaltyAccount) : Prop :=
  ∃ t ∈ tiers.rows, a.tierId = some t.id ∧ t.minPoints ≤ a.lifetimePoints ∧
    ∀ s ∈ tiers.rows, s.minPoints ≤ a.lifetimePoints → s.minPoints ≤ t.minPoints

structure AccountSound (tiers : TierTable) (a : LoyaltyAccount) : Prop where
  points : 0 ≤ a.points
  lifetime : 0 ≤ a.lifetimePoints
  tier : TierReached tiers a

/-- One sound account a customer, mirrored in the customer's row. -/
structure AccountsSound (db : LoyaltyDb) : Prop where
  owners : (db.accounts.rows.map LoyaltyAccount.customerId).Nodup
  owned : ∀ a ∈ db.accounts.rows, (db.customers.find? a.customerId).isSome
  accounts : ∀ a ∈ db.accounts.rows, AccountSound db.tiers a
  mirror : ∀ c ∈ db.customers.rows,
    c.loyaltyPoints = ((db.accountOf c.id).map LoyaltyAccount.points).getD 0

/-- Every row is booked on an account; earn and redeem rows are one for each account and sale. -/
structure LedgerSound (db : LoyaltyDb) : Prop where
  booked : ∀ t ∈ db.transactions.rows, ∃ a ∈ db.accounts.rows, a.id = t.accountId
  once : ∀ t ∈ db.transactions.rows, ∀ u ∈ db.transactions.rows, t.txnType ≠ .refundReversal →
    t.txnType = u.txnType → t.accountId = u.accountId → t.saleId = u.saleId → t = u

structure LoyaltySound (db : LoyaltyDb) : Prop where
  accounts : AccountsSound db
  ledger : LedgerSound db

variable {lifetime : Int}

theorem bestTier_none {tiers : List LoyaltyTier} (h : bestTier tiers lifetime = none)
    (t : LoyaltyTier) (ht : t ∈ tiers) : lifetime < t.minPoints := by
  induction tiers with
  | nil => simp at ht
  | cons first rest ih =>
    cases hrest : bestTier rest lifetime with
    | some best =>
      simp only [bestTier, hrest] at h
      split at h <;> cases h
    | none =>
      simp only [bestTier, hrest, ite_eq_right_iff, reduceCtorEq, imp_false, not_le] at h
      rcases List.mem_cons.mp ht with rfl | ht
      · exact h
      · exact ih hrest ht

theorem bestTier_some {tiers : List LoyaltyTier} {best : LoyaltyTier}
    (h : bestTier tiers lifetime = some best) :
    best ∈ tiers ∧ best.minPoints ≤ lifetime ∧
      ∀ s ∈ tiers, s.minPoints ≤ lifetime → s.minPoints ≤ best.minPoints := by
  induction tiers generalizing best with
  | nil => simp [bestTier] at h
  | cons first rest ih =>
    cases hrest : bestTier rest lifetime with
    | none =>
      have hnone := bestTier_none hrest
      simp only [bestTier, hrest] at h
      split at h
      · cases h
        refine ⟨List.mem_cons_self .., ‹_›, ?_⟩
        intro s hs hreached
        rcases List.mem_cons.mp hs with rfl | hs
        · exact le_rfl
        · have := hnone s hs
          omega
      · cases h
    | some prior =>
      obtain ⟨hmem, hreached, hgreatest⟩ := ih hrest
      simp only [bestTier, hrest] at h
      split at h
      · rename_i hfirst
        cases h
        refine ⟨List.mem_cons_self .., hfirst.1, ?_⟩
        intro s hs hle
        rcases List.mem_cons.mp hs with rfl | hs
        · exact le_rfl
        · exact (hgreatest s hs hle).trans hfirst.2
      · rename_i hfirst
        cases h
        refine ⟨List.mem_cons_of_mem _ hmem, hreached, ?_⟩
        intro s hs hle
        rcases List.mem_cons.mp hs with rfl | hs
        · by_contra hlt
          exact hfirst ⟨hle, by omega⟩
        · exact hgreatest s hs hle

theorem exists_bestTier (tiers : TierTable) (h : 0 ≤ lifetime) :
    ∃ t, bestTier tiers.rows lifetime = some t := by
  obtain ⟨base, hmem, _, hzero⟩ := tiers.zero
  cases hbest : bestTier tiers.rows lifetime with
  | some t => exact ⟨t, rfl⟩
  | none =>
    have := bestTier_none hbest base hmem
    omega

theorem tierReached_of_best {tiers : TierTable} {a : LoyaltyAccount} {best : LoyaltyTier}
    (hbest : bestTier tiers.rows a.lifetimePoints = some best) (hid : a.tierId = some best.id) :
    TierReached tiers a := by
  obtain ⟨hmem, hreached, hgreatest⟩ := bestTier_some hbest
  exact ⟨best, hmem, hid, hreached, hgreatest⟩

namespace LoyaltyDb

variable {db : LoyaltyDb}

theorem accountOf_eq_some_iff (h : (db.accounts.rows.map LoyaltyAccount.customerId).Nodup)
    (customerId : String) (a : LoyaltyAccount) :
    db.accountOf customerId = some a ↔ a ∈ db.accounts.rows ∧ a.customerId = customerId :=
  Table.find?_eq_some_iff (⟨db.accounts.rows, h⟩ : Table String LoyaltyAccount _) customerId a

def changed (now : String) (change : LoyaltyAccount → Int × Int × Option String)
    (a : LoyaltyAccount) : LoyaltyAccount :=
  { a with
    points := (change a).1, lifetimePoints := (change a).2.1, tierId := (change a).2.2
    updatedAt := now }

theorem mem_updateAccount (db : LoyaltyDb) (id now : String)
    (change : LoyaltyAccount → Int × Int × Option String) (b : LoyaltyAccount) :
    b ∈ (db.updateAccount id now change).accounts.rows ↔
      ∃ a ∈ db.accounts.rows, b = if a.id = id then changed now change a else a :=
  Table.mem_update db.accounts id (changed now change) (fun _ => rfl) b

theorem mem_setPoints (customerId : String) (points : Int)
    (customers : Table String CustomerPoints CustomerPoints.id) (c : CustomerPoints) :
    c ∈ (setPoints customerId points customers).rows ↔
      ∃ r ∈ customers.rows, c = if r.id = customerId then ⟨r.id, points⟩ else r :=
  Table.mem_update customers customerId (fun c => { c with loyaltyPoints := points })
    (fun _ => rfl) c

theorem owners_updateAccount (db : LoyaltyDb) (id now : String)
    (change : LoyaltyAccount → Int × Int × Option String) :
    (db.updateAccount id now change).accounts.rows.map LoyaltyAccount.customerId =
      db.accounts.rows.map LoyaltyAccount.customerId := by
  unfold updateAccount Table.update Table.rewriteRows
  rw [List.map_map]
  apply List.map_congr_left
  intro a _
  by_cases h : a.id = id
  · simp [h]
  · simp [h]

theorem accountOf_updateAccount (db : LoyaltyDb) (id now : String)
    (change : LoyaltyAccount → Int × Int × Option String) (customerId : String) :
    (db.updateAccount id now change).accountOf customerId =
      (db.accountOf customerId).map (fun a => if a.id = id then changed now change a else a) := by
  unfold accountOf updateAccount Table.update Table.rewriteRows
  rw [List.find?_map]
  congr 1
  apply congrArg (fun p => db.accounts.rows.find? p)
  funext a
  by_cases h : a.id = id
  · simp [h]
  · simp [h]

theorem insertTransaction_ok {stored : LoyaltyDb} {row : LoyaltyTransaction}
    (h : db.insertTransaction row = .ok stored) :
    stored = { db with transactions := stored.transactions } ∧
      stored.transactions.rows = db.transactions.rows ++ [row] ∧
      (∃ a ∈ db.accounts.rows, a.id = row.accountId) ∧
      (row.txnType ≠ .refundReversal → ∀ t ∈ db.transactions.rows, t.txnType = row.txnType →
        t.accountId = row.accountId → t.saleId ≠ row.saleId) := by
  unfold insertTransaction at h
  split at h
  · cases h
  · rename_i hunique
    split at h
    · cases h
    · rename_i transactions hinsert
      split at h
      · rename_i hkeys
        cases h
        refine ⟨rfl, Table.insert?_rows hinsert, ?_, ?_⟩
        · rw [Bool.and_eq_true, Option.isSome_iff_exists] at hkeys
          obtain ⟨⟨a, ha⟩, _⟩ := hkeys
          rw [Table.find?_eq_some_iff] at ha
          exact ⟨a, ha⟩
        · intro htype t ht htypes haccount hsale
          apply hunique
          refine ⟨htype, ?_⟩
          rw [List.any_eq_true]
          exact ⟨t, ht, by simp [htypes, haccount, hsale]⟩
      · cases h

theorem accountsSound_updateAccount {a : LoyaltyAccount} {now : String}
    {change : LoyaltyAccount → Int × Int × Option String} (hdb : AccountsSound db)
    (ha : a ∈ db.accounts.rows) (hchange : AccountSound db.tiers (changed now change a)) :
    AccountsSound ((db.updateAccount a.id now change).projectPoints a.customerId) := by
  have hown : db.accountOf a.customerId = some a :=
    (accountOf_eq_some_iff hdb.owners _ _).mpr ⟨ha, rfl⟩
  have hnow : (db.updateAccount a.id now change).accountOf a.customerId =
      some (changed now change a) := by
    rw [accountOf_updateAccount, hown]
    simp
  have hsame : ∀ b ∈ db.accounts.rows, b.id = a.id → b = a := by
    intro b hb hid
    exact List.inj_on_of_nodup_map db.accounts.unique hb ha hid
  have hresult : (db.updateAccount a.id now change).projectPoints a.customerId =
      { db.updateAccount a.id now change with
        customers := setPoints a.customerId (change a).1 db.customers } := by
    unfold projectPoints
    rw [hnow]
    rfl
  rw [hresult]
  refine ⟨?_, ?_, ?_, ?_⟩
  · change ((db.updateAccount a.id now change).accounts.rows.map _).Nodup
    rw [owners_updateAccount]
    exact hdb.owners
  · intro b hb
    obtain ⟨old, hold, rfl⟩ := (mem_updateAccount db a.id now change b).mp hb
    have hcustomer : (if old.id = a.id then changed now change old else old).customerId =
        old.customerId := by
      by_cases h : old.id = a.id
      · simp [h, changed]
      · simp [h]
    have howned := hdb.owned old hold
    simp only [hcustomer, setPoints, Table.find?_update]
    simpa using howned
  · intro b hb
    obtain ⟨old, hold, rfl⟩ := (mem_updateAccount db a.id now change b).mp hb
    by_cases h : old.id = a.id
    · rw [if_pos h, hsame old hold h]
      exact hchange
    · rw [if_neg h]
      exact hdb.accounts old hold
  · intro c hc
    obtain ⟨old, hold, rfl⟩ := (mem_setPoints a.customerId (change a).1 db.customers c).mp hc
    change _ = (((db.updateAccount a.id now change).accountOf _).map _).getD 0
    by_cases h : old.id = a.customerId
    · simp [h, hnow, changed]
    · rw [if_neg h, hdb.mirror old hold, accountOf_updateAccount]
      cases hother : db.accountOf old.id with
      | none => rfl
      | some b =>
        obtain ⟨hb, howner⟩ := (accountOf_eq_some_iff hdb.owners _ _).mp hother
        have hne : b.id ≠ a.id := by
          intro hid
          exact h (howner.symm.trans (congrArg LoyaltyAccount.customerId (hsame b hb hid)))
        simp [hne]

theorem ledgerSound_insert {stored : LoyaltyDb} {row : LoyaltyTransaction}
    (hdb : LedgerSound db) (hrow : db.insertTransaction row = .ok stored) : LedgerSound stored := by
  obtain ⟨hstored, hrows, hbooked, honce⟩ := insertTransaction_ok hrow
  have haccounts : stored.accounts = db.accounts := by rw [hstored]
  have hmem : ∀ t, t ∈ stored.transactions.rows → t ∈ db.transactions.rows ∨ t = row := by
    intro t ht
    rw [hrows, List.mem_append, List.mem_singleton] at ht
    exact ht
  constructor
  · intro t ht
    rw [haccounts]
    rcases hmem t ht with ht | rfl
    · exact hdb.booked t ht
    · exact hbooked
  · intro t ht u hu hreversal htype haccount hsale
    rcases hmem t ht with ht | rfl
    · rcases hmem u hu with hu | rfl
      · exact hdb.once t ht u hu hreversal htype haccount hsale
      · exact absurd hsale (honce (htype ▸ hreversal) t ht htype haccount)
    · rcases hmem u hu with hu | rfl
      · exact absurd hsale.symm (honce hreversal u hu htype.symm haccount.symm)
      · rfl

theorem transactions_projectPoints (customerId : String) (db : LoyaltyDb) :
    (db.projectPoints customerId).transactions = db.transactions ∧
      (db.projectPoints customerId).accounts = db.accounts := by
  unfold projectPoints
  cases db.accountOf customerId with
  | none => exact ⟨rfl, rfl⟩
  | some a => exact ⟨rfl, rfl⟩

theorem ledgerSound_updateAccount (hdb : LedgerSound db) (id now : String)
    (change : LoyaltyAccount → Int × Int × Option String) (customerId : String) :
    LedgerSound ((db.updateAccount id now change).projectPoints customerId) := by
  obtain ⟨htransactions, haccounts⟩ :=
    transactions_projectPoints customerId (db.updateAccount id now change)
  constructor
  · intro t ht
    rw [htransactions] at ht
    obtain ⟨a, ha, hid⟩ := hdb.booked t ht
    rw [haccounts]
    refine ⟨_, (mem_updateAccount db id now change _).mpr ⟨a, ha, rfl⟩, ?_⟩
    by_cases h : a.id = id
    · simpa [h, changed] using hid
    · simpa [h] using hid
  · rw [htransactions]
    exact hdb.once

/-- A row booked on an account, with the account and its mirror written in step, and what is
written to the account sound. -/
inductive Posts (db : LoyaltyDb) : LoyaltyDb → Prop where
  | intro (row : LoyaltyTransaction) (stored : LoyaltyDb) (a : LoyaltyAccount) (now : String)
      (change : LoyaltyAccount → Int × Int × Option String) (account : a ∈ db.accounts.rows)
      (inserted : db.insertTransaction row = .ok stored)
      (sound : AccountSound db.tiers (changed now change a)) :
      Posts db ((stored.updateAccount a.id now change).projectPoints a.customerId)

theorem sound_posts {next : LoyaltyDb} (hdb : LoyaltySound db) (h : Posts db next) :
    LoyaltySound next := by
  obtain ⟨row, stored, a, now, change, ha, hrow, hchange⟩ := h
  have hledger := ledgerSound_insert hdb.ledger hrow
  obtain ⟨hstored, -, -, -⟩ := insertTransaction_ok hrow
  have haccounts : AccountsSound stored := by
    rw [hstored]
    exact ⟨hdb.accounts.owners, hdb.accounts.owned, hdb.accounts.accounts, hdb.accounts.mirror⟩
  have ha' : a ∈ stored.accounts.rows := by
    rw [hstored]
    exact ha
  have hchange' : AccountSound stored.tiers (changed now change a) := by
    rw [hstored]
    exact hchange
  exact ⟨accountsSound_updateAccount haccounts ha' hchange',
    ledgerSound_updateAccount hledger a.id now change a.customerId⟩

theorem owners_posts {next : LoyaltyDb} (h : Posts db next) :
    next.accounts.rows.map LoyaltyAccount.customerId =
      db.accounts.rows.map LoyaltyAccount.customerId := by
  obtain ⟨row, stored, a, now, change, ha, hrow, hchange⟩ := h
  rw [(transactions_projectPoints _ _).2, owners_updateAccount, (insertTransaction_ok hrow).1]

def newAccount (draw : LoyaltyDraw) (customerId : String) : LoyaltyAccount :=
  ⟨draw.accountId, customerId, 0, 0, some bronze, draw.now, draw.now⟩

theorem newAccount_sound (tiers : TierTable) (draw : LoyaltyDraw) (customerId : String) :
    AccountSound tiers (newAccount draw customerId) := by
  refine ⟨le_rfl, le_rfl, ?_⟩
  obtain ⟨base, hmem, hid, hzero⟩ := tiers.zero
  refine ⟨base, hmem, ?_, ?_, ?_⟩
  · rw [hid]
    rfl
  · exact hzero.le
  · intro s hs hle
    rw [hzero]
    exact hle

theorem ensureAccount_cases (draw : LoyaltyDraw) (customerId : String) (db : LoyaltyDb) :
    db.ensureAccount draw customerId = db ∨
      (db.accountOf customerId = none ∧
        db.ensureAccount draw customerId =
          { db with accounts := (db.ensureAccount draw customerId).accounts } ∧
        (db.ensureAccount draw customerId).accounts.rows =
          db.accounts.rows ++ [newAccount draw customerId]) := by
  unfold ensureAccount
  cases hof : db.accountOf customerId with
  | some a => exact .inl rfl
  | none =>
    cases hid : db.accounts.insert? (newAccount draw customerId) with
    | none =>
      left
      have hsame : db.accounts.insertNew (newAccount draw customerId) = db.accounts := by
        rw [Table.insertNew, hid]
        rfl
      simp only
      exact congrArg (fun accounts => { db with accounts }) hsame
    | some accounts =>
      right
      refine ⟨rfl, rfl, ?_⟩
      have hnew : db.accounts.insertNew (newAccount draw customerId) = accounts := by
        rw [Table.insertNew, hid]
        rfl
      exact (congrArg Table.rows hnew).trans (Table.insert?_rows hid)

theorem sound_ensureAccount (hdb : LoyaltySound db) (draw : LoyaltyDraw)
    {customerId : String} (hcustomer : (db.customers.find? customerId).isSome) :
    LoyaltySound (db.ensureAccount draw customerId) := by
  rcases ensureAccount_cases draw customerId db with hsame | ⟨hnone, hdb', hrows⟩
  · rw [hsame]
    exact hdb
  · have hfree : ∀ a ∈ db.accounts.rows, a.customerId ≠ customerId := by
      intro a ha hid
      have hsome := (accountOf_eq_some_iff hdb.accounts.owners customerId a).mpr ⟨ha, hid⟩
      rw [hnone] at hsome
      cases hsome
    have hmem : ∀ a, a ∈ (db.ensureAccount draw customerId).accounts.rows →
        a ∈ db.accounts.rows ∨ a = newAccount draw customerId := by
      intro a ha
      rw [hrows, List.mem_append, List.mem_singleton] at ha
      exact ha
    have hcustomers : (db.ensureAccount draw customerId).customers = db.customers := by rw [hdb']
    have htiers : (db.ensureAccount draw customerId).tiers = db.tiers := by rw [hdb']
    have htransactions : (db.ensureAccount draw customerId).transactions = db.transactions := by
      rw [hdb']
    refine ⟨⟨?_, ?_, ?_, ?_⟩, ⟨?_, ?_⟩⟩
    · rw [hrows, List.map_append, List.nodup_append]
      refine ⟨hdb.accounts.owners, List.nodup_singleton _, ?_⟩
      rintro owner howner _ hnew rfl
      obtain ⟨a, ha, rfl⟩ := List.mem_map.mp howner
      rw [List.map_singleton, List.mem_singleton] at hnew
      exact hfree a ha hnew
    · intro a ha
      rw [hcustomers]
      rcases hmem a ha with ha | rfl
      · exact hdb.accounts.owned a ha
      · exact hcustomer
    · intro a ha
      rw [htiers]
      rcases hmem a ha with ha | rfl
      · exact hdb.accounts.accounts a ha
      · exact newAccount_sound db.tiers draw customerId
    · intro c hc
      rw [hcustomers] at hc
      rw [hdb.accounts.mirror c hc, accountOf, accountOf, hrows, List.find?_append]
      cases hfind : db.accounts.rows.find? (fun a => a.customerId = c.id) with
      | some a => rfl
      | none =>
        by_cases h : customerId = c.id
        · simp [newAccount, h]
        · simp [newAccount, h]
    · intro t ht
      rw [htransactions] at ht
      obtain ⟨a, ha, hid⟩ := hdb.ledger.booked t ht
      exact ⟨a, by rw [hrows]; exact List.mem_append_left _ ha, hid⟩
    · rw [htransactions]
      exact hdb.ledger.once

theorem earnChange_sound {tiers : TierTable} {a : LoyaltyAccount} {points : Int}
    (ha : AccountSound tiers a) (hpoints : 0 ≤ points) (now : String) :
    AccountSound tiers (changed now (earnChange tiers.rows points) a) := by
  have hp := ha.points
  have hl := ha.lifetime
  have hlifetime : 0 ≤ a.lifetimePoints + points := by omega
  obtain ⟨best, hbest⟩ := exists_bestTier tiers hlifetime
  refine ⟨?_, hlifetime, tierReached_of_best hbest ?_⟩
  · change 0 ≤ a.points + points
    omega
  · simp [changed, earnChange, hbest]

theorem reversalChange_sound {tiers : TierTable} (a : LoyaltyAccount) (deduct : Int)
    (now : String) : AccountSound tiers (changed now (reversalChange tiers.rows deduct) a) := by
  have hlifetime : 0 ≤ max (a.lifetimePoints - deduct) 0 := le_max_right _ _
  obtain ⟨best, hbest⟩ := exists_bestTier tiers hlifetime
  refine ⟨le_max_right _ _, hlifetime, tierReached_of_best hbest ?_⟩
  simp [changed, reversalChange, hbest]

theorem earn_cases (hdb : LoyaltySound db) (draw : LoyaltyDraw)
    (customerId saleId : String) (totalMinor : Int) :
    let opened := db.ensureAccount draw customerId
    let next := (db.earnPointsWithConn draw customerId saleId totalMinor).1
    next = db ∨
      (db.customers.find? customerId).isSome ∧ (next = opened ∨ Posts opened next) := by
  unfold earnPointsWithConn
  cases hcustomer : db.customers.find? customerId with
  | none => exact .inl rfl
  | some c =>
    have hknown : (db.customers.find? customerId).isSome := by rw [hcustomer]; rfl
    have hopened := sound_ensureAccount hdb draw hknown
    right
    refine ⟨rfl, ?_⟩
    simp only
    cases hof : (db.ensureAccount draw customerId).accountOf customerId with
    | none => exact .inl rfl
    | some account =>
      obtain ⟨hmem, rfl⟩ := (accountOf_eq_some_iff hopened.accounts.owners _ _).mp hof
      simp only
      cases hearned : (db.ensureAccount draw account.customerId).transactionFor account.id saleId
          .earn with
      | some existing => exact .inl rfl
      | none =>
        simp only
        split
        · exact .inl rfl
        · rename_i hpoints
          split
          · exact .inl rfl
          · rename_i stored hinsert
            have htiers : stored.tiers = (db.ensureAccount draw account.customerId).tiers := by
              rw [(insertTransaction_ok hinsert).1]
            right
            refine Posts.intro _ _ _ _ _ hmem hinsert ?_
            rw [htiers]
            exact earnChange_sound (hopened.accounts.accounts account hmem)
              (le_of_lt (not_le.mp hpoints)) draw.now

theorem writeRedemption_cases (hdb : LoyaltySound db) (draw : LoyaltyDraw)
    (points : Int) (sale : LoyaltySale) {account : LoyaltyAccount}
    (hmem : account ∈ db.accounts.rows) :
    let next := (db.writeRedemption draw account.customerId points sale account).1
    next = db ∨ Posts db next := by
  unfold writeRedemption
  simp only
  cases hinsert : db.insertTransaction (loyaltyRedeemRow draw account.id sale points) with
  | error e =>
    simp only
    cases db.transactionFor account.id sale.id .redeem with
    | some existing => exact .inl rfl
    | none => exact .inl rfl
  | ok stored =>
    have hstored := (insertTransaction_ok hinsert).1
    have hcurrent : stored.accounts.find? account.id = some account := by
      rw [hstored]
      exact (Table.find?_eq_some_iff _ _ _).mpr ⟨hmem, rfl⟩
    simp only [hcurrent]
    split
    · rename_i hguard
      have haccount := hdb.accounts.accounts account hmem
      right
      refine Posts.intro _ _ _ _ _ hmem hinsert ⟨?_, haccount.lifetime, haccount.tier⟩
      change 0 ≤ account.points - points
      omega
    · exact .inl rfl

theorem redeem_cases (hdb : LoyaltySound db) (draw : LoyaltyDraw)
    (customerId : String) (points : Int) (saleId : String) :
    let next := (db.redeemPoints draw customerId points saleId).1
    next = db ∨ Posts db next := by
  unfold redeemPoints
  cases hof : db.accountOf customerId with
  | none => exact .inl rfl
  | some account =>
    obtain ⟨hmem, rfl⟩ := (accountOf_eq_some_iff hdb.accounts.owners _ _).mp hof
    simp only
    split
    · exact .inl rfl
    · cases db.redeemableSale account.customerId saleId with
      | error e => exact .inl rfl
      | ok sale =>
        simp only
        cases db.transactionFor account.id saleId .redeem with
        | some existing => exact .inl rfl
        | none =>
          simp only
          split
          · exact .inl rfl
          · split
            · exact .inl rfl
            · exact writeRedemption_cases hdb draw points sale hmem

theorem mem_of_awardFor {saleId : String} {award : LoyaltyTransaction}
    (h : db.awardFor saleId = some award) : award ∈ db.transactions.rows := by
  have hmem := List.mem_of_mem_head? h
  rw [List.mem_insertionSort] at hmem
  exact List.mem_of_mem_filter hmem

theorem reverse_cases (hdb : LoyaltySound db) (now saleId refundId : String)
    (refundTotal saleTotal : Int) :
    let next := (db.reverseLoyaltyOnRefund now saleId refundId refundTotal saleTotal).1
    next = db ∨ Posts db next := by
  unfold reverseLoyaltyOnRefund
  cases haward : db.awardFor saleId with
  | none => exact .inl rfl
  | some award =>
    simp only
    split
    · exact .inl rfl
    · split
      · exact .inl rfl
      · rename_i stored hinsert
        obtain ⟨a, ha, hid⟩ := hdb.ledger.booked award (mem_of_awardFor haward)
        have hstored := (insertTransaction_ok hinsert).1
        have htiers : stored.tiers = db.tiers := by rw [hstored]
        have hchanged : (stored.updateAccount a.id now (reversalChange stored.tiers.rows
            (reversalDeduct award (db.alreadyReversed saleId) refundTotal saleTotal))).accounts.find?
              a.id = some (changed now (reversalChange stored.tiers.rows
                (reversalDeduct award (db.alreadyReversed saleId) refundTotal saleTotal)) a) := by
          have hfind : stored.accounts.find? a.id = some a := by
            rw [hstored]
            exact (Table.find?_eq_some_iff _ _ _).mpr ⟨ha, rfl⟩
          unfold updateAccount
          rw [Table.find?_update, hfind]
          simp [changed]
        rw [← hid, hchanged]
        right
        refine Posts.intro _ _ _ _ _ ha hinsert ?_
        rw [htiers]
        exact reversalChange_sound a _ now

end LoyaltyDb

inductive LoyaltyEvent where
  | openAccount (draw : LoyaltyDraw) (customerId : String)
  | earn (draw : LoyaltyDraw) (customerId saleId : String) (totalMinor : Int)
  /-- The award inside a sale's own transaction, which commits whatever the award answers. -/
  | earnOnCompletion (draw : LoyaltyDraw) (customerId saleId : String) (totalMinor : Int)
  | redeem (draw : LoyaltyDraw) (customerId : String) (points : Int) (saleId : String)
  | reverse (now saleId refundId : String) (refundTotal saleTotal : Int)
  | writeSale (sale : LoyaltySale)

def LoyaltyEvent.customer : LoyaltyEvent → Option String
  | .openAccount _ customerId | .earn _ customerId _ _ | .earnOnCompletion _ customerId _ _
  | .redeem _ customerId _ _ => some customerId
  | .reverse _ _ _ _ _ | .writeSale _ => none

def loyaltyMachine : Machine LoyaltyDb LoyaltyEvent (Except CoreError Unit) where
  step db
    | .openAccount draw customerId =>
      let (next, result) := db.getOrCreateLoyaltyAccount draw customerId
      (next, result.map fun _ => ())
    | .earn draw customerId saleId totalMinor =>
      let (next, result) := db.earnPoints draw customerId saleId totalMinor
      (next, result.map fun _ => ())
    | .earnOnCompletion draw customerId saleId totalMinor =>
      let (next, result) := db.earnPointsWithConn draw customerId saleId totalMinor
      (next, result.map fun _ => ())
    | .redeem draw customerId points saleId =>
      let (next, result) := db.redeemPoints draw customerId points saleId
      (next, result.map fun _ => ())
    | .reverse now saleId refundId refundTotal saleTotal =>
      let (next, result) := db.reverseLoyaltyOnRefund now saleId refundId refundTotal saleTotal
      (next, result.map fun _ => ())
    | .writeSale sale => ({ db with sales := db.sales.upsert sale }, .ok ())

/-- What one step does to the accounts: nothing, an account for the named customer, a booking. -/
inductive LoyaltyStep (db : LoyaltyDb) (customer : Option String) : LoyaltyDb → Prop where
  | same (sales : Table String LoyaltySale LoyaltySale.id) :
      LoyaltyStep db customer { db with sales }
  | opened (draw : LoyaltyDraw) (customerId : String) (named : customer = some customerId)
      (known : (db.customers.find? customerId).isSome) :
      LoyaltyStep db customer (db.ensureAccount draw customerId)
  | posted (next : LoyaltyDb) (posts : LoyaltyDb.Posts db next) : LoyaltyStep db customer next
  | earned (draw : LoyaltyDraw) (customerId : String) (named : customer = some customerId)
      (known : (db.customers.find? customerId).isSome) (next : LoyaltyDb)
      (posts : LoyaltyDb.Posts (db.ensureAccount draw customerId) next) :
      LoyaltyStep db customer next

theorem loyaltyStep_earned {db : LoyaltyDb} (hdb : LoyaltySound db) (draw : LoyaltyDraw)
    (customerId saleId : String) (totalMinor : Int) :
    LoyaltyStep db (some customerId) (db.earnPointsWithConn draw customerId saleId totalMinor).1 := by
  rcases LoyaltyDb.earn_cases hdb draw customerId saleId totalMinor with h | ⟨hknown, h | h⟩
  · rw [h]
    exact .same db.sales
  · rw [h]
    exact .opened draw customerId rfl hknown
  · exact .earned draw customerId rfl hknown _ h

theorem loyaltyStep_step {db : LoyaltyDb} (hdb : LoyaltySound db) (event : LoyaltyEvent) :
    LoyaltyStep db event.customer (loyaltyMachine.step db event).1 := by
  cases event with
  | openAccount draw customerId =>
    cases hcustomer : db.customers.find? customerId with
    | none =>
      simp only [loyaltyMachine, LoyaltyDb.getOrCreateLoyaltyAccount, hcustomer]
      exact .same db.sales
    | some c =>
      have hopened : LoyaltyStep db (some customerId) (db.ensureAccount draw customerId) :=
        .opened draw customerId rfl (by rw [hcustomer]; rfl)
      cases hof : (db.ensureAccount draw customerId).accountOf customerId with
      | none =>
        simpa [loyaltyMachine, LoyaltyDb.getOrCreateLoyaltyAccount, LoyaltyEvent.customer, hcustomer,
          hof] using hopened
      | some a =>
        simpa [loyaltyMachine, LoyaltyDb.getOrCreateLoyaltyAccount, LoyaltyEvent.customer, hcustomer,
          hof] using hopened
  | earn draw customerId saleId totalMinor =>
    have hearned := loyaltyStep_earned hdb draw customerId saleId totalMinor
    simp only [loyaltyMachine, LoyaltyDb.earnPoints]
    split
    · rename_i next t h
      rw [h] at hearned
      exact hearned
    · exact .same db.sales
    · exact .same db.sales
  | earnOnCompletion draw customerId saleId totalMinor =>
    exact loyaltyStep_earned hdb draw customerId saleId totalMinor
  | redeem draw customerId points saleId =>
    have hcases := LoyaltyDb.redeem_cases hdb draw customerId points saleId
    simp only [loyaltyMachine]
    rcases hcases with h | h
    · rw [h]
      exact .same db.sales
    · exact .posted _ h
  | reverse now saleId refundId refundTotal saleTotal =>
    have hcases := LoyaltyDb.reverse_cases hdb now saleId refundId refundTotal saleTotal
    simp only [loyaltyMachine]
    rcases hcases with h | h
    · rw [h]
      exact .same db.sales
    · exact .posted _ h
  | writeSale sale => exact .same _

theorem sound_step {db next : LoyaltyDb} {customer : Option String} (hdb : LoyaltySound db)
    (h : LoyaltyStep db customer next) : LoyaltySound next := by
  cases h with
  | same sales =>
    exact ⟨⟨hdb.accounts.owners, hdb.accounts.owned, hdb.accounts.accounts, hdb.accounts.mirror⟩,
      ⟨hdb.ledger.booked, hdb.ledger.once⟩⟩
  | opened draw customerId named known => exact LoyaltyDb.sound_ensureAccount hdb draw known
  | posted next posts => exact LoyaltyDb.sound_posts hdb posts
  | earned draw customerId named known next posts =>
    exact LoyaltyDb.sound_posts (LoyaltyDb.sound_ensureAccount hdb draw known) posts

theorem owner_step {db next : LoyaltyDb} {customer : Option String}
    (h : LoyaltyStep db customer next) (owner : String)
    (howner : owner ∈ next.accounts.rows.map LoyaltyAccount.customerId) :
    owner ∈ db.accounts.rows.map LoyaltyAccount.customerId ∨ customer = some owner := by
  have hopened : ∀ draw customerId, customer = some customerId →
      owner ∈ (db.ensureAccount draw customerId).accounts.rows.map LoyaltyAccount.customerId →
      owner ∈ db.accounts.rows.map LoyaltyAccount.customerId ∨ customer = some owner := by
    intro draw customerId hnamed hmem
    rcases LoyaltyDb.ensureAccount_cases draw customerId db with hsame | ⟨-, -, hrows⟩
    · rw [hsame] at hmem
      exact .inl hmem
    · rw [hrows, List.map_append, List.mem_append, List.map_singleton, List.mem_singleton] at hmem
      rcases hmem with hmem | rfl
      · exact .inl hmem
      · exact .inr hnamed
  cases h with
  | same sales => exact .inl howner
  | opened draw customerId named known => exact hopened draw customerId named howner
  | posted next posts =>
    rw [LoyaltyDb.owners_posts posts] at howner
    exact .inl howner
  | earned draw customerId named known next posts =>
    rw [LoyaltyDb.owners_posts posts] at howner
    exact hopened draw customerId named howner

/-- Nothing earned yet: no account, no ledger row, every customer at zero points. -/
structure NothingEarned (db : LoyaltyDb) : Prop where
  accounts : db.accounts.rows = []
  transactions : db.transactions.rows = []
  customers : ∀ c ∈ db.customers.rows, c.loyaltyPoints = 0

theorem sound_of_nothingEarned {db : LoyaltyDb} (h : NothingEarned db) : LoyaltySound db := by
  refine ⟨⟨?_, ?_, ?_, ?_⟩, ⟨?_, ?_⟩⟩
  · simp [h.accounts]
  · simp [h.accounts]
  · simp [h.accounts]
  · intro c hc
    simp [h.customers c hc, LoyaltyDb.accountOf, h.accounts]
  · simp [h.transactions]
  · simp [h.transactions]

theorem sound_run {start : LoyaltyDb} (hstart : NothingEarned start) (events : List LoyaltyEvent) :
    LoyaltySound (loyaltyMachine.run start events) := by
  have halways : loyaltyMachine.Along (fun _ _ => True) start events := by
    rw [Machine.along_iff_splits]
    exact fun _ _ _ _ => trivial
  exact loyaltyMachine.run_invariant
    (fun db event hdb _ => sound_step hdb (loyaltyStep_step hdb event)) start events
    (sound_of_nothingEarned hstart) halways

theorem owners_run {start : LoyaltyDb} (hstart : LoyaltySound start) (events : List LoyaltyEvent)
    (customerId : String) (hall : ∀ e ∈ events, ∀ named, e.customer = some named → named = customerId)
    (howners : ∀ owner ∈ start.accounts.rows.map LoyaltyAccount.customerId, owner = customerId) :
    ∀ owner ∈ (loyaltyMachine.run start events).accounts.rows.map LoyaltyAccount.customerId,
      owner = customerId := by
  induction events generalizing start with
  | nil => exact howners
  | cons e events ih =>
    have hstep := loyaltyStep_step hstart e
    apply ih (sound_step hstart hstep) (fun d hd => hall d (List.mem_cons_of_mem _ hd))
    intro owner howner
    rcases owner_step hstep owner howner with hold | hnamed
    · exact howners owner hold
    · exact hall e (List.mem_cons_self ..) owner hnamed

theorem length_le_one {α : Type} {rows : List α} (hnodup : rows.Nodup)
    (hsame : ∀ a ∈ rows, ∀ b ∈ rows, a = b) : rows.length ≤ 1 := by
  cases rows with
  | nil => simp
  | cons a rest =>
    cases rest with
    | nil => simp
    | cons b rest =>
      have heq := hsame a (by simp) b (by simp)
      simp [heq] at hnodup

def rowsFor (db : LoyaltyDb) (saleId : String) (txnType : LoyaltyTxnType) :
    List LoyaltyTransaction :=
  db.transactions.rows.filter (fun t => t.saleId = some saleId && t.txnType = txnType)

theorem rowsFor_nodup (db : LoyaltyDb) (saleId : String) (txnType : LoyaltyTxnType) :
    (rowsFor db saleId txnType).Nodup :=
  (List.Nodup.of_map _ db.transactions.unique).filter _

theorem mem_rowsFor {db : LoyaltyDb} {saleId : String} {txnType : LoyaltyTxnType}
    {t : LoyaltyTransaction} (h : t ∈ rowsFor db saleId txnType) :
    t ∈ db.transactions.rows ∧ t.saleId = some saleId ∧ t.txnType = txnType := by
  simpa [rowsFor] using h

structure AccountHolds (db : LoyaltyDb) (customerId : String) (account : LoyaltyAccount) :
    Prop where
  points : 0 ≤ account.points
  mirror : ∃ c ∈ db.customers.rows, c.id = customerId ∧ c.loyaltyPoints = account.points
  tier : TierReached db.tiers account
  once : ∀ saleId txnType, txnType ≠ .refundReversal →
    ((rowsFor db saleId txnType).filter (fun t => t.accountId = account.id)).length ≤ 1

theorem accountHolds_of_sound {db : LoyaltyDb} (hdb : LoyaltySound db) {customerId : String}
    {account : LoyaltyAccount} (h : db.accountOf customerId = some account) :
    AccountHolds db customerId account := by
  obtain ⟨hmem, rfl⟩ := (LoyaltyDb.accountOf_eq_some_iff hdb.accounts.owners _ _).mp h
  have haccount := hdb.accounts.accounts account hmem
  refine ⟨haccount.points, ?_, haccount.tier, ?_⟩
  · obtain ⟨c, hc⟩ := Option.isSome_iff_exists.mp (hdb.accounts.owned account hmem)
    obtain ⟨hcmem, hid⟩ := (Table.find?_eq_some_iff _ _ _).mp hc
    refine ⟨c, hcmem, hid, ?_⟩
    rw [hdb.accounts.mirror c hcmem, hid, h]
    rfl
  · intro saleId txnType htype
    apply length_le_one ((rowsFor_nodup db saleId txnType).filter _)
    intro t ht u hu
    obtain ⟨ht, htaccount⟩ := List.mem_filter.mp ht
    obtain ⟨hu, huaccount⟩ := List.mem_filter.mp hu
    obtain ⟨ht, htsale, httype⟩ := mem_rowsFor ht
    obtain ⟨hu, husale, hutype⟩ := mem_rowsFor hu
    have hsame : t.accountId = u.accountId := by
      rw [of_decide_eq_true htaccount, of_decide_eq_true huaccount]
    exact hdb.ledger.once t ht u hu (httype ▸ htype) (httype.trans hutype.symm) hsame
      (htsale.trans husale.symm)

/-- After any run of earns, redemptions and reversals every customer's account holds; in a run
for one customer a sale has at most one earn row and one redeem row at all. -/
theorem loyalty_account_holds (start : LoyaltyDb) (hstart : NothingEarned start)
    (events : List LoyaltyEvent) (customerId : String) :
    (∀ account, (loyaltyMachine.run start events).accountOf customerId = some account →
      AccountHolds (loyaltyMachine.run start events) customerId account) ∧
    ((∀ e ∈ events, ∀ named, e.customer = some named → named = customerId) →
      ∀ saleId txnType, txnType ≠ .refundReversal →
        (rowsFor (loyaltyMachine.run start events) saleId txnType).length ≤ 1) := by
  have hsound := sound_run hstart events
  constructor
  · intro account h
    exact accountHolds_of_sound hsound h
  · intro hall saleId txnType htype
    have howners := owners_run (sound_of_nothingEarned hstart) events customerId hall
      (by simp [hstart.accounts])
    apply length_le_one (rowsFor_nodup _ _ _)
    intro t ht u hu
    obtain ⟨ht, htsale, httype⟩ := mem_rowsFor ht
    obtain ⟨hu, husale, hutype⟩ := mem_rowsFor hu
    obtain ⟨a, ha, htaccount⟩ := hsound.ledger.booked t ht
    obtain ⟨b, hb, huaccount⟩ := hsound.ledger.booked u hu
    have hab : a.customerId = b.customerId :=
      (howners _ (List.mem_map_of_mem ha)).trans (howners _ (List.mem_map_of_mem hb)).symm
    have heq : a = b := List.inj_on_of_nodup_map hsound.accounts.owners ha hb hab
    have hsame : t.accountId = u.accountId := by rw [← htaccount, ← huaccount, heq]
    exact hsound.ledger.once t ht u hu (httype ▸ htype) (httype.trans hutype.symm) hsame
      (htsale.trans husale.symm)

def loyalCustomer : LoyaltyDb where
  tiers := seededTiers
  customers := Table.empty.insertNew ⟨"c1", 0⟩
  accounts := Table.empty
  transactions := Table.empty
  sales := Table.empty.insertNew ⟨"s1", some "c1", 5000, "completed", "USD"⟩

/-- The sale earns 500 points, 120 of them are redeemed, then half of the sale is refunded. -/
def loyaltyRun : List LoyaltyEvent :=
  [.earn ⟨"a1", "t1", "2026-01-01"⟩ "c1" "s1" 5000,
    .redeem ⟨"a2", "t2", "2026-01-02"⟩ "c1" 120 "s1",
    .reverse "2026-01-03" "s1" "r1" 2500 5000]

theorem loyal_customer_holds :
    ∃ account, (loyaltyMachine.run loyalCustomer loyaltyRun).accountOf "c1" = some account ∧
      account.points = 130 ∧
      AccountHolds (loyaltyMachine.run loyalCustomer loyaltyRun) "c1" account ∧
      (rowsFor (loyaltyMachine.run loyalCustomer loyaltyRun) "s1" .earn).length ≤ 1 := by
  have hstart : NothingEarned loyalCustomer := ⟨rfl, rfl, by decide +kernel⟩
  have hholds := loyalty_account_holds loyalCustomer hstart loyaltyRun "c1"
  refine ⟨_, rfl, by decide +kernel, hholds.1 _ rfl, hholds.2 ?_ "s1" .earn (by decide)⟩
  intro e he named hnamed
  simp only [loyaltyRun, List.mem_cons, List.not_mem_nil, or_false] at he
  rcases he with rfl | rfl | rfl <;> simp_all [LoyaltyEvent.customer]

end OzPos
