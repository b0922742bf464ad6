import OzPos.Client.Snapshot

namespace OzPos

/-- The rows of a server keep the schema's uniqueness rules. -/
structure Snapshot.ServerUnique (snapshot : Snapshot) : Prop where
  productIds : (snapshot.products.map SnapshotProduct.id).Nodup
  productIdsSet : ∀ p ∈ snapshot.products, p.id.isSome
  skus : (snapshot.products.map SnapshotProduct.sku).Nodup
  barcodes : ∀ p ∈ snapshot.products, ∀ q ∈ snapshot.products, p.columns.barcode.isSome →
    p.columns.barcode = q.columns.barcode → p.sku = q.sku
  rateIds : (snapshot.taxRates.map SnapshotTaxRate.id).Nodup
  defaults : ∀ a ∈ snapshot.taxRates, ∀ b ∈ snapshot.taxRates, a.columns.isDefault = true →
    b.columns.isDefault = true → a.columns.legalEntityId = b.columns.legalEntityId →
    a.columns.locationId = b.columns.locationId → a.id = b.id
  userIds : (snapshot.users.map SnapshotUser.id).Nodup
  userIdsSet : ∀ u ∈ snapshot.users, u.id.isSome
  usernames : (snapshot.users.map SnapshotUser.username).Nodup

namespace LocalStore

/-- The unique indexes of the local tables, and the check on a rate's rounding. -/
structure Consistent (s : LocalStore) : Prop where
  products : ∀ a ∈ s.products.rows, ∀ b ∈ s.products.rows, a.sku ≠ b.sku →
    productClash a b = false
  taxRates : ∀ a ∈ s.taxRates.rows, ∀ b ∈ s.taxRates.rows, a.id ≠ b.id → rateClash a b = false
  users : ∀ a ∈ s.users.rows, ∀ b ∈ s.users.rows, a.username ≠ b.username → userClash a b = false
  rounding : ∀ o ∈ s.taxRates.rows, statutoryRounding o.columns.roundingMode = true

/-- The columns that the snapshot carries a value for have it. -/
structure ProductLanded (r : LocalProduct) (p : SnapshotProduct) : Prop where
  columns : r.columns = p.columns
  updatedAt : ∀ t, p.updatedAt = some t → r.updatedAt = t
  priceUpdatedAt : ∀ t, p.priceUpdatedAt = some t → r.priceUpdatedAt = some t

structure RateLanded (o : LocalRate) (r : SnapshotTaxRate) : Prop where
  columns : o.columns = r.columns
  updatedAt : ∀ t, r.updatedAt = some t → o.updatedAt = t

structure UserLanded (r : LocalUser) (u : SnapshotUser) : Prop where
  columns : r.columns = u.columns
  updatedAt : ∀ t, u.updatedAt = some t → r.updatedAt = t

structure Landed (s s' : LocalStore) (snapshot : Snapshot) : Prop where
  products : ∀ p ∈ snapshot.products, ∃ r, s'.products.find? p.sku = some r ∧ ProductLanded r p
  taxRates : ∀ r ∈ snapshot.taxRates, s.snapshotTaxRateScopeIsApplicable r = true →
    ∃ o, s'.taxRates.find? r.id = some o ∧ RateLanded o r
  users : ∀ u ∈ snapshot.users, ∃ r, s'.users.find? u.username = some r ∧ UserLanded r u

/-- The rows that the snapshot does not list are as they were. -/
structure Untouched (s s' : LocalStore) (snapshot : Snapshot) : Prop where
  products : ∀ sku, sku ∉ snapshot.products.map SnapshotProduct.sku →
    s'.products.find? sku = s.products.find? sku
  taxRates : ∀ id, id ∉ snapshot.taxRates.map SnapshotTaxRate.id →
    s'.taxRates.find? id = s.taxRates.find? id
  users : ∀ username, username ∉ snapshot.users.map SnapshotUser.username →
    s'.users.find? username = s.users.find? username

def KeepsPins (s s' : LocalStore) : Prop :=
  ∀ username old, s.users.find? username = some old →
    ∃ new, s'.users.find? username = some new ∧ new.pinHash = old.pinHash

def OneDefault (s : LocalStore) : Prop :=
  ∀ a ∈ s.taxRates.rows, ∀ b ∈ s.taxRates.rows, a.isActive = true → b.isActive = true →
    a.columns.isDefault = true → b.columns.isDefault = true →
    a.columns.legalEntityId = b.columns.legalEntityId →
    a.columns.locationId = b.columns.locationId → a.id = b.id

structure SameSynced (s s' : LocalStore) : Prop where
  products : ∀ sku, (s'.products.find? sku).map (fun r => (r.id, r.columns)) =
    (s.products.find? sku).map (fun r => (r.id, r.columns))
  taxRates : ∀ id, (s'.taxRates.find? id).map LocalRate.columns =
    (s.taxRates.find? id).map LocalRate.columns
  users : ∀ username, (s'.users.find? username).map (fun r => (r.id, r.columns, r.pinHash)) =
    (s.users.find? username).map (fun r => (r.id, r.columns, r.pinHash))

structure Converges (s s' : LocalStore) (snapshot : Snapshot) : Prop where
  landed : s.Landed s' snapshot
  untouched : s.Untouched s' snapshot
  pins : s.KeepsPins s'
  oneDefault : s'.OneDefault
  again : ∀ d, ∃ s'' counts, s'.applySnapshot d snapshot = .ok (s'', counts) ∧
    s'.Landed s'' snapshot ∧ s'.Untouched s'' snapshot ∧ s'.SameSynced s''

/-- A listed product satisfies the checks and the references; where its SKU is new, no stored
product has its id; no stored product of another SKU, unless listed before it, has its
barcode. -/
structure ProductFits (s : LocalStore) (earlier : List SnapshotProduct) (p : SnapshotProduct) :
    Prop where
  price : 0 ≤ p.columns.priceMinor
  category : referenceHolds s.categories p.columns.categoryId = true
  store : referenceHolds s.locations p.columns.storeId = true
  id : s.products.find? p.sku = none → ∀ r ∈ s.products.rows, some r.id ≠ p.id
  barcode : ∀ r ∈ s.products.rows, r.sku ≠ p.sku → r.sku ∉ earlier.map SnapshotProduct.sku →
    p.columns.barcode.isSome → r.columns.barcode ≠ p.columns.barcode

/-- A listed default finds no other stored default of its tier, unless listed before it. -/
structure RateFits (s : LocalStore) (earlier : List SnapshotTaxRate) (r : SnapshotTaxRate) :
    Prop where
  bps : 0 ≤ r.columns.rateBps
  tier : r.columns.isDefault = true → ∀ o ∈ s.taxRates.rows, o.id ≠ r.id →
    o.id ∉ earlier.map SnapshotTaxRate.id → o.columns.isDefault = true →
    o.columns.legalEntityId = r.columns.legalEntityId →
    o.columns.locationId ≠ r.columns.locationId

/-- A listed user has a stored role; where the username is new, no stored user has the id. -/
structure UserFits (s : LocalStore) (u : SnapshotUser) : Prop where
  role : u.columns.roleId ∈ s.roles
  id : s.users.find? u.username = none → ∀ r ∈ s.users.rows, some r.id ≠ u.id

structure Fits (s : LocalStore) (snapshot : Snapshot) : Prop where
  products : Upsert.InTurn s.ProductFits snapshot.products
  taxRates : Upsert.InTurn s.RateFits (s.taxRatesWritten snapshot.taxRates)
  users : ∀ u ∈ snapshot.users, s.UserFits u
  rounding : ∀ r ∈ snapshot.taxRates, s.snapshotTaxRateScopeIsApplicable r = true →
    statutoryRounding r.columns.roundingMode = true

theorem productClash_eq_false_iff (a b : LocalProduct) :
    productClash a b = false ↔
      a.id ≠ b.id ∧ (b.columns.barcode.isSome → a.columns.barcode ≠ b.columns.barcode) := by
  unfold productClash
  cases ha : a.columns.barcode <;> cases hb : b.columns.barcode <;> simp

variable {s : LocalStore} {d : PullDraws} {snapshot : Snapshot}

theorem row_product_columns (t : Table String LocalProduct LocalProduct.sku)
    (p : SnapshotProduct) : ((s.upsertProduct d).row t p).columns = p.columns := by
  simp only [Upsert.row, upsertProduct]
  cases t.find? p.sku <;> rfl

variable {p : SnapshotProduct}

theorem row_product_new {t : Table String LocalProduct LocalProduct.sku} (hset : p.id.isSome)
    (h : t.find? p.sku = none) : some ((s.upsertProduct d).row t p).id = p.id := by
  obtain ⟨id, hid⟩ := Option.isSome_iff_exists.mp hset
  simp [Upsert.row, upsertProduct, h, hid]

theorem row_product_old {t : Table String LocalProduct LocalProduct.sku} {old : LocalProduct}
    (h : t.find? p.sku = some old) : ((s.upsertProduct d).row t p).id = old.id := by
  simp [Upsert.row, upsertProduct, h]

theorem mem_of_split {α : Type} {l earlier later : List α} {n : α} (h : l = earlier ++ n :: later) :
    n ∈ l ∧ ∀ m ∈ earlier, m ∈ l := by
  subst h
  exact ⟨List.mem_append_right _ List.mem_cons_self, fun m hm => List.mem_append_left _ hm⟩

theorem ne_of_split {α β : Type} {f : α → β} {l earlier later : List α} {m n : α}
    (hl : (l.map f).Nodup) (h : l = earlier ++ n :: later) (hm : m ∈ earlier) : f m ≠ f n := by
  rw [h, List.map_append, List.map_cons, List.nodup_append] at hl
  exact hl.2.2 (f m) (List.mem_map.mpr ⟨m, hm, rfl⟩) (f n) List.mem_cons_self

theorem row_product_id (hs : s.Consistent) (hset : p.id.isSome)
    (hnew : s.products.find? p.sku = none → ∀ r ∈ s.products.rows, some r.id ≠ p.id)
    {r : LocalProduct} (hr : r ∈ s.products.rows) (hne : r.sku ≠ p.sku) :
    r.id ≠ ((s.upsertProduct d).row s.products p).id := by
  cases hfind : s.products.find? p.sku with
  | none =>
    intro heq
    apply hnew hfind r hr
    rw [heq]
    exact row_product_new hset hfind
  | some old =>
    rw [row_product_old hfind]
    obtain ⟨hold, hkey⟩ := (s.products.find?_eq_some_iff _ _).mp hfind
    exact ((productClash_eq_false_iff r old).mp
      (hs.products r hr old hold (by rw [hkey]; exact hne))).1

theorem products_clear_iff (hs : s.Consistent) (hsnap : snapshot.ServerUnique) :
    (s.upsertProduct d).Clear s.products snapshot.products ↔
      Upsert.InTurn s.ProductFits snapshot.products := by
  constructor
  · intro hclear earlier p later hsplit
    obtain ⟨hp, hearlier⟩ := mem_of_split hsplit
    obtain ⟨hallowed, hold, hbefore⟩ := hclear earlier p later hsplit
    have hrow : ∀ r ∈ s.products.rows, r.sku ∉ earlier.map SnapshotProduct.sku → r.sku ≠ p.sku →
        productClash r ((s.upsertProduct d).row s.products p) = false := hold
    change (decide (0 ≤ p.columns.priceMinor) && referenceHolds s.categories p.columns.categoryId &&
      referenceHolds s.locations p.columns.storeId) = true at hallowed
    simp only [Bool.and_eq_true, decide_eq_true_eq] at hallowed
    refine ⟨hallowed.1.1, hallowed.1.2, hallowed.2, ?_, ?_⟩
    · intro hfind r hr heq
      have hid := row_product_new (s := s) (d := d) (hsnap.productIdsSet p hp) hfind
      have hne : r.sku ≠ p.sku := (Table.find?_eq_none_iff _ _).mp hfind r hr
      by_cases hlisted : r.sku ∈ earlier.map SnapshotProduct.sku
      · obtain ⟨m, hm, hmsku⟩ := List.mem_map.mp hlisted
        have hfound : s.products.find? m.sku = some r :=
          (s.products.find?_eq_some_iff _ _).mpr ⟨hr, hmsku.symm⟩
        have hclash := ((productClash_eq_false_iff _ _).mp (hbefore m hm)).1
        rw [row_product_old hfound] at hclash
        exact hclash (Option.some.inj (heq.trans hid.symm))
      · exact ((productClash_eq_false_iff _ _).mp (hrow r hr hlisted hne)).1
          (Option.some.inj (heq.trans hid.symm))
    · intro r hr hne hlisted hbarcode
      have hclash := ((productClash_eq_false_iff _ _).mp (hrow r hr hlisted hne)).2
      rw [row_product_columns] at hclash
      exact hclash hbarcode
  · intro hfits earlier p later hsplit
    obtain ⟨hp, hearlier⟩ := mem_of_split hsplit
    have h := hfits earlier p later hsplit
    have hset := hsnap.productIdsSet p hp
    refine ⟨?_, ?_, ?_⟩
    · change (decide (0 ≤ p.columns.priceMinor) &&
        referenceHolds s.categories p.columns.categoryId &&
        referenceHolds s.locations p.columns.storeId) = true
      simp [h.price, h.category, h.store]
    · intro r hr hlisted hne
      apply (productClash_eq_false_iff _ _).mpr
      refine ⟨row_product_id hs hset h.id hr hne, ?_⟩
      rw [row_product_columns]
      exact h.barcode r hr hne hlisted
    · intro m hm
      have hmem := hearlier m hm
      obtain ⟨before, after, hmsplit⟩ := List.append_of_mem hmem
      have hmfits := hfits before m after hmsplit
      have hmset := hsnap.productIdsSet m hmem
      have hne : m.sku ≠ p.sku := ne_of_split hsnap.skus hsplit hm
      apply (productClash_eq_false_iff _ _).mpr
      rw [row_product_columns, row_product_columns]
      constructor
      · cases hfind : s.products.find? m.sku with
        | some old =>
          rw [row_product_old hfind]
          obtain ⟨hold, hkey⟩ := (s.products.find?_eq_some_iff _ _).mp hfind
          exact row_product_id hs hset h.id hold (by rw [hkey]; exact hne)
        | none =>
          cases hpfind : s.products.find? p.sku with
          | some old =>
            rw [row_product_old hpfind]
            obtain ⟨hold, hkey⟩ := (s.products.find?_eq_some_iff _ _).mp hpfind
            exact (row_product_id hs hmset hmfits.id hold (by rw [hkey]; exact hne.symm)).symm
          | none =>
            intro heq
            apply ne_of_split hsnap.productIds hsplit hm
            rw [← row_product_new (s := s) (d := d) hmset hfind,
              ← row_product_new (s := s) (d := d) hset hpfind, heq]
      · intro hbarcode heq
        apply hne
        exact hsnap.barcodes m hmem p hp (by rw [heq]; exact hbarcode) heq

theorem rateClash_eq_false_iff (a b : LocalRate) :
    rateClash a b = false ↔ (b.columns.isDefault = true → a.columns.isDefault = true →
      a.columns.legalEntityId = b.columns.legalEntityId →
      a.columns.locationId ≠ b.columns.locationId) := by
  unfold rateClash
  cases a.columns.isDefault <;> cases b.columns.isDefault <;> simp

theorem row_rate_columns (t : Table String LocalRate LocalRate.id) (r : SnapshotTaxRate) :
    ((upsertTaxRate d).row t r).columns = r.columns := by
  simp only [Upsert.row, upsertTaxRate]
  cases t.find? r.id <;> rfl

variable {rates : List SnapshotTaxRate}

theorem mem_taxRatesWritten {r : SnapshotTaxRate} :
    r ∈ s.taxRatesWritten rates ↔ r ∈ rates ∧ s.snapshotTaxRateScopeIsApplicable r = true ∧
      statutoryRounding r.columns.roundingMode = true := by
  simp [taxRatesWritten]

theorem written_rounding (r : SnapshotTaxRate)
    (hr : r ∈ s.taxRatesWritten rates) (o : Option LocalRate) :
    statutoryRounding ((upsertTaxRate d).stored o r).columns.roundingMode = true := by
  have hmode := (mem_taxRatesWritten.mp hr).2.2
  cases o <;> exact hmode

theorem nodup_taxRatesWritten (h : (rates.map SnapshotTaxRate.id).Nodup) :
    ((s.taxRatesWritten rates).map SnapshotTaxRate.id).Nodup :=
  h.sublist (List.filter_sublist.map _)

theorem rates_clear_iff (hsnap : snapshot.ServerUnique) :
    (upsertTaxRate d).Clear s.taxRates (s.taxRatesWritten snapshot.taxRates) ↔
      Upsert.InTurn s.RateFits (s.taxRatesWritten snapshot.taxRates) := by
  constructor
  · intro hclear earlier r later hsplit
    obtain ⟨hallowed, hold, _⟩ := hclear earlier r later hsplit
    refine ⟨of_decide_eq_true hallowed, ?_⟩
    intro hdefault o ho hne hlisted hodefault
    have hclash := (rateClash_eq_false_iff _ _).mp (hold o ho hlisted hne)
    rw [row_rate_columns] at hclash
    exact hclash hdefault hodefault
  · intro hfits earlier r later hsplit
    obtain ⟨hr, hearlier⟩ := mem_of_split hsplit
    have h := hfits earlier r later hsplit
    refine ⟨decide_eq_true h.bps, ?_, ?_⟩
    · intro o ho hlisted hne
      apply (rateClash_eq_false_iff _ _).mpr
      rw [row_rate_columns]
      exact fun hdefault hodefault => h.tier hdefault o ho hne hlisted hodefault
    · intro m hm
      apply (rateClash_eq_false_iff _ _).mpr
      rw [row_rate_columns, row_rate_columns]
      intro hdefault hmdefault hentity hlocation
      have hne := ne_of_split (nodup_taxRatesWritten hsnap.rateIds) hsplit hm
      apply hne
      exact hsnap.defaults m (mem_taxRatesWritten.mp (hearlier m hm)).1 r
        (mem_taxRatesWritten.mp hr).1 hmdefault hdefault hentity hlocation

variable {u : SnapshotUser} {t : Table String LocalUser LocalUser.username}

theorem row_user_new (hset : u.id.isSome) (h : t.find? u.username = none) :
    some ((s.upsertUser d).row t u).id = u.id := by
  obtain ⟨id, hid⟩ := Option.isSome_iff_exists.mp hset
  simp [Upsert.row, upsertUser, h, hid]

theorem row_user_old {old : LocalUser} (h : t.find? u.username = some old) :
    ((s.upsertUser d).row t u).id = old.id := by
  simp [Upsert.row, upsertUser, h]

theorem userClash_eq_false_iff (a b : LocalUser) : userClash a b = false ↔ a.id ≠ b.id := by
  simp [userClash]

theorem row_user_id (hs : s.Consistent) (hset : u.id.isSome)
    (hnew : s.users.find? u.username = none → ∀ r ∈ s.users.rows, some r.id ≠ u.id)
    {r : LocalUser} (hr : r ∈ s.users.rows) (hne : r.username ≠ u.username) :
    r.id ≠ ((s.upsertUser d).row s.users u).id := by
  cases hfind : s.users.find? u.username with
  | none =>
    intro heq
    apply hnew hfind r hr
    rw [heq]
    exact row_user_new hset hfind
  | some old =>
    rw [row_user_old hfind]
    obtain ⟨hold, hkey⟩ := (s.users.find?_eq_some_iff _ _).mp hfind
    exact (userClash_eq_false_iff r old).mp (hs.users r hr old hold (by rw [hkey]; exact hne))

theorem users_clear_iff (hs : s.Consistent) (hsnap : snapshot.ServerUnique) :
    (s.upsertUser d).Clear s.users snapshot.users ↔ ∀ u ∈ snapshot.users, s.UserFits u := by
  constructor
  · intro hclear u hu
    obtain ⟨earlier, later, hsplit⟩ := List.append_of_mem hu
    obtain ⟨hallowed, hold, hbefore⟩ := hclear earlier u later hsplit
    refine ⟨List.contains_iff_mem.mp hallowed, ?_⟩
    intro hfind r hr heq
    have hid := row_user_new (s := s) (d := d) (hsnap.userIdsSet u hu) hfind
    have hne : r.username ≠ u.username := (Table.find?_eq_none_iff _ _).mp hfind r hr
    by_cases hlisted : r.username ∈ earlier.map SnapshotUser.username
    · obtain ⟨m, hm, hmname⟩ := List.mem_map.mp hlisted
      have hfound : s.users.find? m.username = some r :=
        (s.users.find?_eq_some_iff _ _).mpr ⟨hr, hmname.symm⟩
      have hclash := (userClash_eq_false_iff _ _).mp (hbefore m hm)
      rw [row_user_old hfound] at hclash
      exact hclash (Option.some.inj (heq.trans hid.symm))
    · exact (userClash_eq_false_iff _ _).mp (hold r hr hlisted hne)
        (Option.some.inj (heq.trans hid.symm))
  · intro hfits earlier u later hsplit
    obtain ⟨hu, hearlier⟩ := mem_of_split hsplit
    have h := hfits u hu
    have hset := hsnap.userIdsSet u hu
    refine ⟨List.contains_iff_mem.mpr h.role, ?_, ?_⟩
    · intro r hr _ hne
      exact (userClash_eq_false_iff _ _).mpr (row_user_id hs hset h.id hr hne)
    · intro m hm
      have hmem := hearlier m hm
      have hmfits := hfits m hmem
      have hmset := hsnap.userIdsSet m hmem
      have hne : m.username ≠ u.username := ne_of_split hsnap.usernames hsplit hm
      apply (userClash_eq_false_iff _ _).mpr
      cases hfind : s.users.find? m.username with
      | some old =>
        rw [row_user_old hfind]
        obtain ⟨hold, hkey⟩ := (s.users.find?_eq_some_iff _ _).mp hfind
        exact row_user_id hs hset h.id hold (by rw [hkey]; exact hne)
      | none =>
        cases hufind : s.users.find? u.username with
        | some old =>
          rw [row_user_old hufind]
          obtain ⟨hold, hkey⟩ := (s.users.find?_eq_some_iff _ _).mp hufind
          exact (row_user_id hs hmset hmfits.id hold (by rw [hkey]; exact hne.symm)).symm
        | none =>
          intro heq
          apply ne_of_split hsnap.userIds hsplit hm
          rw [← row_user_new (s := s) (d := d) hmset hfind,
            ← row_user_new (s := s) (d := d) hset hufind, heq]

theorem applySnapshot_ok_iff {s' : LocalStore} {counts : PullCounts} :
    s.applySnapshot d snapshot = .ok (s', counts) ↔
      ∃ products taxRates users,
        (s.upsertProduct d).putAll s.products snapshot.products = some products ∧
        (upsertTaxRate d).putAll s.taxRates (s.taxRatesWritten snapshot.taxRates) = some taxRates ∧
        (s.upsertUser d).putAll s.users snapshot.users = some users ∧
        s' = { s with products := products, taxRates := taxRates, users := users } ∧
        counts = ⟨snapshot.products.length, (s.taxRatesWritten snapshot.taxRates).length,
          snapshot.users.length⟩ := by
  unfold applySnapshot
  cases (s.upsertProduct d).putAll s.products snapshot.products with
  | none => simp
  | some products =>
    cases (upsertTaxRate d).putAll s.taxRates (s.taxRatesWritten snapshot.taxRates) with
    | none => simp
    | some taxRates =>
      cases (s.upsertUser d).putAll s.users snapshot.users with
      | none => simp
      | some users => simp [eq_comm]

theorem row_product_landed (t : Table String LocalProduct LocalProduct.sku)
    (p : SnapshotProduct) : ProductLanded ((s.upsertProduct d).row t p) p where
  columns := row_product_columns t p
  updatedAt := by
    intro time htime
    simp only [Upsert.row, upsertProduct, htime]
    cases t.find? p.sku <;> rfl
  priceUpdatedAt := by
    intro time htime
    simp only [Upsert.row, upsertProduct, htime]
    cases t.find? p.sku <;> rfl

theorem row_rate_landed (t : Table String LocalRate LocalRate.id) (r : SnapshotTaxRate) :
    RateLanded ((upsertTaxRate d).row t r) r where
  columns := row_rate_columns t r
  updatedAt := by
    intro time htime
    simp only [Upsert.row, upsertTaxRate, htime]
    cases t.find? r.id <;> rfl

theorem row_user_columns (t : Table String LocalUser LocalUser.username) (u : SnapshotUser) :
    ((s.upsertUser d).row t u).columns = u.columns := by
  simp only [Upsert.row, upsertUser]
  cases t.find? u.username <;> rfl

theorem row_user_landed (t : Table String LocalUser LocalUser.username) (u : SnapshotUser) :
    UserLanded ((s.upsertUser d).row t u) u where
  columns := row_user_columns t u
  updatedAt := by
    intro time htime
    simp only [Upsert.row, upsertUser, htime]
    cases t.find? u.username <;> rfl

theorem row_user_pinHash {old : LocalUser} (h : t.find? u.username = some old) :
    ((s.upsertUser d).row t u).pinHash = old.pinHash := by
  simp [Upsert.row, upsertUser, h]

section Applied

variable {s' : LocalStore} {counts : PullCounts}
  (hok : s.applySnapshot d snapshot = .ok (s', counts))
include hok

theorem products_applied (hsnap : snapshot.ServerUnique) :
    (∀ p ∈ snapshot.products,
      s'.products.find? p.sku = some ((s.upsertProduct d).row s.products p)) ∧
    ∀ sku, sku ∉ snapshot.products.map SnapshotProduct.sku →
      s'.products.find? sku = s.products.find? sku := by
  obtain ⟨products, _, _, hproducts, _, _, rfl, _⟩ := applySnapshot_ok_iff.mp hok
  exact (s.upsertProduct d).find?_putAll hsnap.skus hproducts

theorem taxRates_applied (hsnap : snapshot.ServerUnique) :
    (∀ r ∈ s.taxRatesWritten snapshot.taxRates,
      s'.taxRates.find? r.id = some ((upsertTaxRate d).row s.taxRates r)) ∧
    ∀ id, id ∉ (s.taxRatesWritten snapshot.taxRates).map SnapshotTaxRate.id →
      s'.taxRates.find? id = s.taxRates.find? id := by
  obtain ⟨_, rates, _, _, hrates, _, rfl, _⟩ := applySnapshot_ok_iff.mp hok
  exact (upsertTaxRate d).find?_putAll (nodup_taxRatesWritten hsnap.rateIds) hrates

theorem users_applied (hsnap : snapshot.ServerUnique) :
    (∀ u ∈ snapshot.users, s'.users.find? u.username = some ((s.upsertUser d).row s.users u)) ∧
    ∀ username, username ∉ snapshot.users.map SnapshotUser.username →
      s'.users.find? username = s.users.find? username := by
  obtain ⟨_, _, users, _, _, husers, rfl, _⟩ := applySnapshot_ok_iff.mp hok
  exact (s.upsertUser d).find?_putAll hsnap.usernames husers

theorem consistent_applied (hs : s.Consistent) : s'.Consistent := by
  obtain ⟨_, _, _, hproducts, hrates, husers, rfl, _⟩ := applySnapshot_ok_iff.mp hok
  exact ⟨(s.upsertProduct d).apart_putAll hs.products hproducts,
    (upsertTaxRate d).apart_putAll hs.taxRates hrates,
    (s.upsertUser d).apart_putAll hs.users husers,
    (upsertTaxRate d).rows_putAll written_rounding hs.rounding hrates⟩

theorem landed_applied (hsnap : snapshot.ServerUnique)
    (hrounding : ∀ r ∈ snapshot.taxRates, s.snapshotTaxRateScopeIsApplicable r = true →
      statutoryRounding r.columns.roundingMode = true) : s.Landed s' snapshot where
  products := fun p hp => ⟨_, (products_applied hok hsnap).1 p hp, row_product_landed _ p⟩
  taxRates := by
    intro r hr happlicable
    have hwritten := mem_taxRatesWritten.mpr ⟨hr, happlicable, hrounding r hr happlicable⟩
    exact ⟨_, (taxRates_applied hok hsnap).1 r hwritten, row_rate_landed _ r⟩
  users := fun u hu => ⟨_, (users_applied hok hsnap).1 u hu, row_user_landed _ u⟩

theorem untouched_applied (hsnap : snapshot.ServerUnique) : s.Untouched s' snapshot where
  products := (products_applied hok hsnap).2
  taxRates := by
    intro id hid
    apply (taxRates_applied hok hsnap).2
    intro hmem
    obtain ⟨r, hr, heq⟩ := List.mem_map.mp hmem
    exact hid (List.mem_map.mpr ⟨r, (mem_taxRatesWritten.mp hr).1, heq⟩)
  users := (users_applied hok hsnap).2

theorem keepsPins_applied (hsnap : snapshot.ServerUnique) : s.KeepsPins s' := by
  intro username old hold
  obtain ⟨hlisted, hother⟩ := users_applied hok hsnap
  by_cases hmem : username ∈ snapshot.users.map SnapshotUser.username
  · obtain ⟨u, hu, rfl⟩ := List.mem_map.mp hmem
    exact ⟨_, hlisted u hu, row_user_pinHash hold⟩
  · exact ⟨old, (hother username hmem).trans hold, rfl⟩

theorem sameSynced_applied (hsnap : snapshot.ServerUnique)
    (hlanded : s.Landed s snapshot) : s.SameSynced s' where
  products := by
    intro sku
    obtain ⟨hlisted, hother⟩ := products_applied hok hsnap
    by_cases hmem : sku ∈ snapshot.products.map SnapshotProduct.sku
    · obtain ⟨p, hp, rfl⟩ := List.mem_map.mp hmem
      obtain ⟨r, hr, hlandedp⟩ := hlanded.products p hp
      rw [hlisted p hp, hr, Option.map_some, Option.map_some, row_product_old hr,
        row_product_columns, hlandedp.columns]
    · rw [hother sku hmem]
  taxRates := by
    intro id
    obtain ⟨hlisted, hother⟩ := taxRates_applied hok hsnap
    by_cases hmem : id ∈ (s.taxRatesWritten snapshot.taxRates).map SnapshotTaxRate.id
    · obtain ⟨r, hr, rfl⟩ := List.mem_map.mp hmem
      obtain ⟨hr', happlicable, _⟩ := mem_taxRatesWritten.mp hr
      obtain ⟨o, ho, hlandedr⟩ := hlanded.taxRates r hr' happlicable
      rw [hlisted r hr, ho, Option.map_some, Option.map_some, row_rate_columns, hlandedr.columns]
    · rw [hother id hmem]
  users := by
    intro username
    obtain ⟨hlisted, hother⟩ := users_applied hok hsnap
    by_cases hmem : username ∈ snapshot.users.map SnapshotUser.username
    · obtain ⟨u, hu, rfl⟩ := List.mem_map.mp hmem
      obtain ⟨r, hr, hlandedu⟩ := hlanded.users u hu
      rw [hlisted u hu, hr, Option.map_some, Option.map_some, row_user_old hr, row_user_columns,
        hlandedu.columns, row_user_pinHash hr]
    · rw [hother username hmem]

theorem applied_again (hs : s.Consistent) (hsnap : snapshot.ServerUnique) (d' : PullDraws) :
    ∃ s'' counts', s'.applySnapshot d' snapshot = .ok (s'', counts') := by
  obtain ⟨products, rates, users, hproducts, hrates, husers, rfl, _⟩ :=
    applySnapshot_ok_iff.mp hok
  obtain ⟨products', hproducts'⟩ := (s.upsertProduct d).putAll_again (v := s.upsertProduct d')
    rfl rfl rfl (fun o p r => by cases o <;> rfl) hsnap.skus hs.products hproducts
  obtain ⟨rates', hrates'⟩ := (upsertTaxRate d).putAll_again (v := upsertTaxRate d')
    rfl rfl rfl (fun o p r => by cases o <;> rfl) (nodup_taxRatesWritten hsnap.rateIds)
    hs.taxRates hrates
  obtain ⟨users', husers'⟩ := (s.upsertUser d).putAll_again (v := s.upsertUser d')
    rfl rfl rfl (fun o p r => by cases o <;> rfl) hsnap.usernames hs.users husers
  exact ⟨_, _, applySnapshot_ok_iff.mpr
    ⟨products', rates', users', hproducts', hrates', husers', rfl, rfl⟩⟩

end Applied

theorem Consistent.oneDefault (hs : s.Consistent) : s.OneDefault := by
  intro a ha b hb _ _ hadefault hbdefault hentity hlocation
  by_contra hne
  exact (rateClash_eq_false_iff a b).mp (hs.taxRates a ha b hb hne) hbdefault hadefault hentity
    hlocation

theorem Consistent.pulls (hs : s.Consistent) (earlier : List (PullDraws × Snapshot)) :
    (s.pulls earlier).Consistent := by
  induction earlier generalizing s with
  | nil => exact hs
  | cons pull rest ih =>
    obtain ⟨d, snapshot⟩ := pull
    rw [LocalStore.pulls]
    cases hok : s.applySnapshot d snapshot with
    | error _ => exact ih hs
    | ok result => exact ih (consistent_applied hok hs)

theorem fits_of_converges {s' : LocalStore} {counts : PullCounts} (hs : s.Consistent)
    (hsnap : snapshot.ServerUnique) (hok : s.applySnapshot d snapshot = .ok (s', counts))
    (hconverges : s.Converges s' snapshot) : s.Fits snapshot := by
  have hs' := consistent_applied hok hs
  obtain ⟨products, rates, users, hproducts, hrates, husers, _, _⟩ := applySnapshot_ok_iff.mp hok
  refine ⟨?_, ?_, ?_, ?_⟩
  · apply (products_clear_iff hs hsnap).mp
    exact ((s.upsertProduct d).putAll_isSome_iff hsnap.skus _).mp ⟨_, hproducts⟩
  · apply (rates_clear_iff hsnap).mp
    exact ((upsertTaxRate d).putAll_isSome_iff (nodup_taxRatesWritten hsnap.rateIds) _).mp
      ⟨_, hrates⟩
  · apply (users_clear_iff hs hsnap).mp
    exact ((s.upsertUser d).putAll_isSome_iff hsnap.usernames _).mp ⟨_, husers⟩
  · intro r hr happlicable
    -- a skipped rate cannot have landed: the stored row passed the table's own check
    obtain ⟨o, ho, hlanded⟩ := hconverges.landed.taxRates r hr happlicable
    rw [← hlanded.columns]
    exact hs'.rounding o ((s'.taxRates.find?_eq_some_iff _ _).mp ho).1

theorem converges_of_fits (hs : s.Consistent) (hsnap : snapshot.ServerUnique)
    (hfits : s.Fits snapshot) :
    ∃ s' counts, s.applySnapshot d snapshot = .ok (s', counts) ∧ s.Converges s' snapshot := by
  obtain ⟨products, hproducts⟩ := ((s.upsertProduct d).putAll_isSome_iff hsnap.skus _).mpr
    ((products_clear_iff hs hsnap).mpr hfits.products)
  obtain ⟨rates, hrates⟩ := ((upsertTaxRate d).putAll_isSome_iff
    (nodup_taxRatesWritten hsnap.rateIds) _).mpr ((rates_clear_iff hsnap).mpr hfits.taxRates)
  obtain ⟨users, husers⟩ := ((s.upsertUser d).putAll_isSome_iff hsnap.usernames _).mpr
    ((users_clear_iff hs hsnap).mpr hfits.users)
  have hok := applySnapshot_ok_iff.mpr
    ⟨products, rates, users, hproducts, hrates, husers, rfl, rfl⟩
  have hlanded := landed_applied hok hsnap hfits.rounding
  refine ⟨_, _, hok, hlanded, untouched_applied hok hsnap, keepsPins_applied hok hsnap,
    (consistent_applied hok hs).oneDefault, ?_⟩
  intro d'
  obtain ⟨s'', counts', hok'⟩ := applied_again hok hs hsnap d'
  refine ⟨s'', counts', hok', landed_applied hok' hsnap hfits.rounding,
    untouched_applied hok' hsnap, sameSynced_applied hok' hsnap ?_⟩
  exact ⟨hlanded.products, hlanded.taxRates, hlanded.users⟩

end LocalStore

def freshStore : LocalStore := ⟨.empty, .empty, .empty, [], [], [], []⟩

def pullDraws : PullDraws := ⟨"2026-01-01", id, id⟩

def listed (id sku barcode : String) : SnapshotProduct :=
  ⟨some id, sku, ⟨sku, 100, "IDR", none, some barcode, false, none, none, none, none, none, true⟩,
    none, none, none⟩

def barcodesBefore : Snapshot := ⟨[listed "1" "A" "11", listed "2" "B" "22"], [], []⟩

def barcodesExchanged : Snapshot := ⟨[listed "1" "A" "22", listed "2" "B" "11"], [], []⟩

theorem freshStore_consistent : freshStore.Consistent := by
  constructor <;> simp [freshStore, Table.empty]

theorem barcodesBefore_unique : barcodesBefore.ServerUnique := by
  constructor <;> decide

theorem barcodesExchanged_unique : barcodesExchanged.ServerUnique := by
  constructor <;> decide

end OzPos
