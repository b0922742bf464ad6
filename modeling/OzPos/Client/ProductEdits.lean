import OzPos.Client.Snapshot
import OzPos.Client.Settings
import OzPos.Library.Versioned

namespace OzPos

/-- The arguments of `update_product`. -/
structure ProductEdit where
  (sku name : String)
  priceMinor : Int
  currency : String
  (categoryId barcode productType : Option String)
  expectedVersion : Option Int

namespace LocalProduct

/-- `price_minor <> ?2 OR currency <> ?3`. -/
def reprices (p : LocalProduct) (e : ProductEdit) : Bool :=
  p.columns.priceMinor ≠ e.priceMinor || p.columns.currency ≠ e.currency

/-- The `SET` list of the update. -/
def edited (now : String) (e : ProductEdit) (p : LocalProduct) : LocalProduct :=
  { p with
    columns :=
      { p.columns with
        name := trim e.name
        priceMinor := e.priceMinor
        currency := e.currency
        categoryId := e.categoryId
        barcode := e.barcode }
    updatedAt := now
    productType := e.productType.getD p.productType
    priceUpdatedAt := if p.reprices e then some now else p.priceUpdatedAt
    version := p.version + 1 }

end LocalProduct

namespace LocalStore

variable (s : LocalStore)

/-- The references and `uq_products_barcode` let the row through. -/
def letsThrough (p : LocalProduct) : Bool :=
  referenceHolds s.categories p.columns.categoryId &&
    !s.products.rows.any (fun r => r.sku ≠ p.sku && productClash r p)

def edit (now : String) (e : ProductEdit) : LocalStore :=
  { s with products := s.products.update e.sku (LocalProduct.edited now e) (fun _ => rfl) }

/-- One immediate transaction. A missing `expected_version` disables the version predicate. -/
def updateProduct (now : String) (e : ProductEdit) : Except CoreError (LocalStore × LocalProduct) :=
  if (trim e.name).isEmpty then
    .error (.validation "name" "name must not be empty")
  else if e.priceMinor < 0 then
    .error (.validation "price" "price must be ≥ 0")
  else
    match s.products.find? e.sku with
    | none => .error (.notFound "product" e.sku)
    | some p =>
      if e.expectedVersion.any (· ≠ p.version) then
        .error (.conflict "product" "version")
      else if s.letsThrough (p.edited now e) then
        .ok (s.edit now e, p.edited now e)
      else .error constraintFailed

end LocalStore

inductive CatalogEvent where
  | read (sku : String)
  | update (now : String) (e : ProductEdit)
  | pull (d : PullDraws) (snapshot : Snapshot)

def catalogMachine : Machine LocalStore CatalogEvent (Except CoreError (Option LocalProduct)) where
  step s
    | .read sku => (s, .ok (s.products.find? sku))
    | .update now e =>
      match s.updateProduct now e with
      | .error err => (s, .error err)
      | .ok (s', p) => (s', .ok (some p))
    | .pull d snapshot =>
      match s.applySnapshot d snapshot with
      | .error err => (s, .error err)
      | .ok (s', _) => (s', .ok none)

variable (s : LocalStore)

def LocalStore.guarded (sku : String) :
    Option (String × Int × String × Option String × Option String) :=
  (s.products.find? sku).map (fun p =>
    (p.columns.name, p.columns.priceMinor, p.columns.currency, p.columns.categoryId,
      p.columns.barcode))

def LocalStore.storedVersion (sku : String) : Int :=
  ((s.products.find? sku).map LocalProduct.version).getD 0

def CatalogEvent.pulls : CatalogEvent → Prop
  | .read _ => False
  | .update _ _ => False
  | .pull _ _ => True

/-- A save whose expected version was read earlier in the run. -/
structure SavesRead (events : List CatalogEvent) (s : LocalStore) (l m r : List CatalogEvent)
    (now : String) (e : ProductEdit) : Prop where
  split : events = l ++ .read e.sku :: (m ++ .update now e :: r)
  read : ∃ p, (catalogMachine.run s l).products.find? e.sku = some p ∧
    e.expectedVersion = some p.version

variable (events : List CatalogEvent)

/-- No save that goes through comes after a change that its read did not see. -/
def LosesNothing : Prop :=
  ∀ l m r now e, SavesRead events s l m r now e →
    (∃ done, (catalogMachine.run s (l ++ .read e.sku :: m)).updateProduct now e = .ok done) →
    catalogMachine.Along (catalogMachine.Leaves (fun s => s.guarded e.sku))
      (catalogMachine.run s l) m

/-- What the save checks in the state that it comes upon. -/
structure LocalStore.Accepts (s : LocalStore) (now : String) (e : ProductEdit) : Prop where
  name : trim e.name ≠ ""
  price : 0 ≤ e.priceMinor
  stored : ∃ p, s.products.find? e.sku = some p ∧ (∀ v, e.expectedVersion = some v → p.version = v) ∧
    s.letsThrough (p.edited now e) = true

/-- No pull between the read and an accepted save changes the product's guarded columns. -/
def PullsLeave : Prop :=
  ∀ l m r now e, SavesRead events s l m r now e →
    (catalogMachine.run s (l ++ .read e.sku :: m)).Accepts now e →
    catalogMachine.Along
      (fun s event => event.pulls → catalogMachine.Leaves (fun s => s.guarded e.sku) s event)
      (catalogMachine.run s l) m

namespace LocalStore

variable {s : LocalStore} {now : String} {e : ProductEdit}

theorem any_ne_eq_false_iff (expected : Option Int) (version : Int) :
    expected.any (· ≠ version) = false ↔ ∀ v, expected = some v → version = v := by
  cases expected with
  | none => simp
  | some v =>
    simp only [Option.any_some, decide_eq_false_iff_not, Decidable.not_not, Option.some.injEq]
    constructor
    · rintro rfl w rfl
      rfl
    · intro h
      exact (h v rfl).symm

theorem updateProduct_ok_iff {s' : LocalStore} {q : LocalProduct} :
    s.updateProduct now e = .ok (s', q) ↔
      s.Accepts now e ∧ ∃ p, s.products.find? e.sku = some p ∧ q = p.edited now e ∧
        s' = s.edit now e := by
  constructor
  · intro h
    unfold updateProduct at h
    by_cases hname : (trim e.name).isEmpty = true
    · rw [if_pos hname] at h
      cases h
    rw [if_neg hname] at h
    by_cases hprice : e.priceMinor < 0
    · rw [if_pos hprice] at h
      cases h
    rw [if_neg hprice] at h
    cases hfind : s.products.find? e.sku with
    | none =>
      simp only [hfind] at h
      cases h
    | some p =>
      simp only [hfind] at h
      cases hversion : e.expectedVersion.any (· ≠ p.version) with
      | true =>
        rw [if_pos hversion] at h
        cases h
      | false =>
        rw [if_neg (by rw [hversion]; exact Bool.false_ne_true)] at h
        by_cases hthrough : s.letsThrough (p.edited now e) = true
        · rw [if_pos hthrough] at h
          cases h
          refine ⟨⟨?_, by omega, p, hfind, ?_, hthrough⟩, p, rfl, rfl, rfl⟩
          · intro hempty
            exact hname (String.isEmpty_iff.mpr hempty)
          · exact (any_ne_eq_false_iff _ _).mp hversion
        · rw [if_neg hthrough] at h
          cases h
  · rintro ⟨⟨hname, hprice, p, hfind, hversion, hthrough⟩, p', hfind', rfl, rfl⟩
    rw [hfind] at hfind'
    cases hfind'
    unfold updateProduct
    rw [if_neg (fun h => hname (String.isEmpty_iff.mp h)), if_neg (by omega)]
    simp only [hfind]
    rw [if_neg (by rw [(any_ne_eq_false_iff _ _).mpr hversion]; exact Bool.false_ne_true),
      if_pos hthrough]

theorem accepts_iff : s.Accepts now e ↔ ∃ done, s.updateProduct now e = .ok done := by
  constructor
  · intro h
    obtain ⟨p, hfind, _⟩ := h.stored
    exact ⟨_, updateProduct_ok_iff.mpr ⟨h, p, hfind, rfl, rfl⟩⟩
  · rintro ⟨⟨s', q⟩, h⟩
    exact (updateProduct_ok_iff.mp h).1

theorem storedVersion_eq {sku : String} {p : LocalProduct} (h : s.products.find? sku = some p) :
    s.storedVersion sku = p.version := by
  simp [storedVersion, h]

end LocalStore

open LocalStore

variable {s : LocalStore} {sku : String}

theorem found_applied {d : PullDraws} {snapshot : Snapshot} {s' : LocalStore}
    {counts : PullCounts} (h : s.applySnapshot d snapshot = .ok (s', counts)) {p : LocalProduct}
    (hp : s.products.find? sku = some p) :
    ∃ q, s'.products.find? sku = some q ∧ q.version = p.version := by
  unfold applySnapshot at h
  cases hproducts : (s.upsertProduct d).putAll s.products snapshot.products with
  | none =>
    simp only [hproducts] at h
    cases h
  | some products =>
    simp only [hproducts] at h
    split at h
    · cases h
    split at h
    · cases h
    cases h
    have hstored : ∀ (o : LocalProduct) n, (s.upsertProduct d).keyOf n = sku →
        o.version = p.version → ((s.upsertProduct d).stored (some o) n).version = p.version :=
      fun _ _ _ ho => ho
    exact (s.upsertProduct d).found_putAll hstored ⟨p, hp, rfl⟩ hproducts

theorem catalog_found (event : CatalogEvent) {p : LocalProduct}
    (hp : s.products.find? sku = some p) :
    ∃ q, (catalogMachine.step s event).1.products.find? sku = some q ∧
      (q.version = p.version ∨ q.version = p.version + 1) ∧
      (q.version = p.version → ¬ event.pulls → q = p) := by
  cases event with
  | read other => exact ⟨p, hp, .inl rfl, fun _ _ => rfl⟩
  | update now e =>
    cases hok : s.updateProduct now e with
    | error err =>
      refine ⟨p, ?_, .inl rfl, fun _ _ => rfl⟩
      simp only [catalogMachine, hok]
      exact hp
    | ok done =>
      obtain ⟨s', q⟩ := done
      obtain ⟨_, _, _, rfl, rfl⟩ := updateProduct_ok_iff.mp hok
      simp only [catalogMachine, hok, edit]
      rw [Table.find?_update _ _ (LocalProduct.edited now e) (fun _ => rfl), hp, Option.map_some]
      refine ⟨_, rfl, ?_, ?_⟩
      · by_cases hsku : sku = e.sku
        · rw [if_pos hsku]
          exact .inr rfl
        · rw [if_neg hsku]
          exact .inl rfl
      · intro hversion _
        by_cases hsku : sku = e.sku
        · rw [if_pos hsku] at hversion
          simp [LocalProduct.edited] at hversion
        · rw [if_neg hsku]
  | pull d snapshot =>
    cases hok : s.applySnapshot d snapshot with
    | error err =>
      refine ⟨p, ?_, .inl rfl, fun _ _ => rfl⟩
      simp only [catalogMachine, hok]
      exact hp
    | ok done =>
      obtain ⟨s', counts⟩ := done
      obtain ⟨q, hq, hversion⟩ := found_applied hok hp
      refine ⟨q, ?_, .inl hversion, fun _ hpull => absurd trivial hpull⟩
      simp only [catalogMachine, hok]
      exact hq

theorem versioned_catalog (sku : String) :
    catalogMachine.Versioned (fun s => (s.products.find? sku).isSome)
      (fun s => s.storedVersion sku) (fun s => s.guarded sku) (fun _ event => event.pulls) where
  inv := by
    intro s event hs
    obtain ⟨p, hp⟩ := Option.isSome_iff_exists.mp hs
    obtain ⟨q, hq, _⟩ := catalog_found event hp
    rw [hq]
    rfl
  le := by
    intro s event hs
    obtain ⟨p, hp⟩ := Option.isSome_iff_exists.mp hs
    obtain ⟨q, hq, hversion, _⟩ := catalog_found event hp
    rw [storedVersion_eq hp, storedVersion_eq hq]
    omega
  kept := by
    intro s event hs hsame hpull
    obtain ⟨p, hp⟩ := Option.isSome_iff_exists.mp hs
    obtain ⟨q, hq, _, hkept⟩ := catalog_found event hp
    rw [storedVersion_eq hp, storedVersion_eq hq] at hsame
    rw [guarded, guarded, hq, hp, hkept hsame hpull]

theorem catalog_read (s : LocalStore) (sku : String) :
    (catalogMachine.step s (.read sku)).1 = s := rfl

theorem saved_leaves_iff {events l m r : List CatalogEvent} {now : String} {e : ProductEdit}
    (hsave : SavesRead events s l m r now e)
    (haccepts : (catalogMachine.run s (l ++ .read e.sku :: m)).Accepts now e) :
    catalogMachine.Along (catalogMachine.Leaves (fun s => s.guarded e.sku))
        (catalogMachine.run s l) m ↔
      catalogMachine.Along
        (fun s event => event.pulls → catalogMachine.Leaves (fun s => s.guarded e.sku) s event)
        (catalogMachine.run s l) m := by
  obtain ⟨p, hp, hexpected⟩ := hsave.read
  obtain ⟨q, hq, hversion, _⟩ := haccepts.stored
  rw [catalogMachine.run_append, catalogMachine.run_cons, catalog_read] at hq
  apply (versioned_catalog e.sku).along_leaves_iff
  · rw [hp]
    rfl
  · rw [storedVersion_eq hp, storedVersion_eq hq]
    exact hversion p.version hexpected

/-- In every run no successful save overwrites a change that its read did not see, if and only
if no pull between a read and an accepted save changes what the save overwrites. -/
theorem losesNothing_iff (s : LocalStore) (events : List CatalogEvent) :
    LosesNothing s events ↔ PullsLeave s events := by
  constructor
  · intro h l m r now e hsave haccepts
    exact (saved_leaves_iff hsave haccepts).mp (h l m r now e hsave (accepts_iff.mp haccepts))
  · intro h l m r now e hsave hok
    have haccepts := accepts_iff.mpr hok
    exact (saved_leaves_iff hsave haccepts).mpr (h l m r now e hsave haccepts)

def teaAt (price : Int) : Snapshot :=
  ⟨[⟨some "1", "TEA", ⟨"Tea", price, "IDR", none, none, false, none, none, none, none, none, true⟩,
    none, none, none⟩], [], []⟩

def teaRenamed : ProductEdit := ⟨"TEA", "Green tea", 100, "IDR", none, none, none, some 1⟩

def repricedMeanwhile : List CatalogEvent :=
  let draws : PullDraws := ⟨"2026-01-01", id, id⟩
  [.pull draws (teaAt 100), .read "TEA", .pull draws (teaAt 120), .update "2026-01-02" teaRenamed]

def noProducts : LocalStore := ⟨.empty, .empty, .empty, [], [], [], []⟩

/-- The save expects the version that was read, goes through, and puts the old price back. -/
theorem repricedMeanwhile_overwrites :
    (catalogMachine.run noProducts (repricedMeanwhile.take 3)).guarded "TEA" =
        some ("Tea", 120, "IDR", none, none) ∧
      (catalogMachine.run noProducts repricedMeanwhile).guarded "TEA" =
        some ("Green tea", 100, "IDR", none, none) ∧
      ¬ LosesNothing noProducts repricedMeanwhile := by
  refine ⟨rfl, rfl, ?_⟩
  intro h
  have hkept := h (repricedMeanwhile.take 1) [.pull ⟨"2026-01-01", id, id⟩ (teaAt 120)] []
    "2026-01-02" teaRenamed ⟨rfl, _, rfl, rfl⟩ ⟨_, rfl⟩
  have hsame : some ("Tea", (120 : Int), "IDR", (none : Option String), (none : Option String)) =
      some ("Tea", 100, "IDR", none, none) := hkept.1
  revert hsame
  decide

end OzPos
