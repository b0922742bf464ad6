import OzPos.Tax.RateEdits
import Mathlib.Data.Fintype.EquivFin

namespace OzPos

namespace RateCall

def own : RateCall → String
  | .createTaxRate id _ _ => id
  | .updateTaxRate _ id _ => id
  | .createTaxRateScoped id _ _ _ _ => id
  | .updateTaxRateScoped _ id _ _ _ => id
  | .deleteTaxRate id => id

def clears : RateCall → Option TaxRateScope
  | .createTaxRate _ _ fields => vacates fields.isDefault .global
  | .updateTaxRate _ _ fields => vacates fields.isDefault .global
  | .createTaxRateScoped _ _ fields scope _ => vacates fields.isDefault scope
  | .updateTaxRateScoped _ _ fields scope _ => vacates fields.isDefault scope
  | .deleteTaxRate _ => none

def claims (s : TaxConfig) : RateCall → Option TaxRateScope
  | .createTaxRate _ _ fields => vacates fields.isDefault .global
  | .updateTaxRate _ id fields =>
    (s.activeRow id).bind (fun row => vacates fields.isDefault row.tier)
  | .createTaxRateScoped _ _ fields scope _ => vacates fields.isDefault scope
  | .updateTaxRateScoped _ _ fields scope _ => vacates fields.isDefault scope
  | .deleteTaxRate _ => none

variable {s next : TaxConfig}

theorem activeRow_find? {id : String} {row : TaxRateRow} (h : s.activeRow id = some row) :
    s.taxRates.find? id = some row ∧ row.isActive = true :=
  Option.filter_eq_some_iff.mp h

variable {c : RateCall}

theorem apply_cases (h : c.apply s = .ok next) :
    (∃ isDefault scope row, row.rate.id = c.own ∧ row.isActive = true ∧
      row.rate.isDefault = isDefault ∧ row.tier = scope ∧ c.clears = vacates isDefault scope ∧
      c.claims s = vacates isDefault scope ∧
      insertRate (tierCleared isDefault scope s.taxRates) row = .ok next.taxRates) ∨
    (∃ isDefault scope row f hf, s.activeRow c.own = some row ∧
      c.clears = vacates isDefault scope ∧
      (∀ r, r.isActive = row.isActive → r.tier = row.tier → (f r).standing = c.claims s) ∧
      (DefaultsIndexed s.taxRates.rows → DefaultsIndexed next.taxRates.rows) ∧
      next.taxRates = (tierCleared isDefault scope s.taxRates).update c.own f hf) := by
  cases c with
  | createTaxRate id now fields =>
    left
    obtain ⟨⟨rate, written⟩, hcall, rfl⟩ := Except.of_map h
    obtain ⟨bps, -, hcall⟩ := Except.of_bind hcall
    obtain ⟨rates, hinsert, hpair⟩ := Except.of_map hcall
    cases hpair
    exact ⟨fields.isDefault, .global, _, rfl, rfl, rfl, rfl, rfl, rfl, hinsert⟩
  | updateTaxRate now id fields =>
    right
    obtain ⟨⟨rate, written⟩, hcall, rfl⟩ := Except.of_map h
    obtain ⟨bps, -, hcall⟩ := Except.of_bind hcall
    cases hrow : s.activeRow id with
    | none => simp [hrow] at hcall
    | some row =>
      simp only [hrow, Option.isNone_some, Bool.false_eq_true, if_false] at hcall
      obtain ⟨rates, hwrite, hpair⟩ := Except.of_map hcall
      cases hpair
      obtain ⟨hindexed, rfl⟩ := indexed_ok_iff.mp hwrite
      refine ⟨fields.isDefault, .global, row, TaxRateRow.renamed fields bps now, fun _ => rfl, hrow,
        rfl, ?_, fun _ => hindexed, rfl⟩
      intro r hactive htier
      have hrowActive := (activeRow_find? hrow).2
      have hd : (r.renamed fields bps now).rate.isDefault = fields.isDefault := rfl
      have ha : (r.renamed fields bps now).isActive = true := hactive.trans hrowActive
      simp [claims, hrow, vacates, TaxRateRow.standing, hd, ha, htier]
  | createTaxRateScoped id now fields scope window =>
    left
    obtain ⟨⟨rate, written⟩, hcall, rfl⟩ := Except.of_map h
    obtain ⟨bps, -, hcall⟩ := Except.of_bind hcall
    obtain ⟨-, -, hcall⟩ := Except.of_bind hcall
    obtain ⟨-, -, hcall⟩ := Except.of_bind hcall
    obtain ⟨rates, hinsert, hpair⟩ := Except.of_map hcall
    cases hpair
    exact ⟨fields.isDefault, scope, _, rfl, rfl, rfl, tier_rescoped _ _ _, rfl, rfl, hinsert⟩
  | updateTaxRateScoped now id fields scope window =>
    right
    obtain ⟨⟨rate, written⟩, hcall, rfl⟩ := Except.of_map h
    obtain ⟨bps, -, hcall⟩ := Except.of_bind hcall
    obtain ⟨-, -, hcall⟩ := Except.of_bind hcall
    obtain ⟨-, -, hcall⟩ := Except.of_bind hcall
    cases hrow : s.activeRow id with
    | none => simp [hrow] at hcall
    | some row =>
      simp only [hrow] at hcall
      obtain ⟨rates, hwrite, hpair⟩ := Except.of_map hcall
      cases hpair
      obtain ⟨hindexed, rfl⟩ := indexed_ok_iff.mp hwrite
      refine ⟨fields.isDefault, scope, row,
        fun row => (row.renamed fields bps now).rescoped scope window, fun _ => rfl, hrow, rfl,
        ?_, fun _ => hindexed, rfl⟩
      intro r hactive _
      have hrowActive := (activeRow_find? hrow).2
      have hd : ((r.renamed fields bps now).rescoped scope window).rate.isDefault =
          fields.isDefault := rfl
      have ha : ((r.renamed fields bps now).rescoped scope window).isActive = true :=
        hactive.trans hrowActive
      simp [claims, vacates, TaxRateRow.standing, hd, ha]
  | deleteTaxRate id =>
    right
    obtain ⟨-, -, hcall⟩ := Except.of_bind h
    obtain ⟨-, -, hcall⟩ := Except.of_bind hcall
    cases hrow : s.activeRow id with
    | none => simp [hrow] at hcall
    | some row =>
      simp only [hrow, Option.isNone_some, Bool.false_eq_true, if_false] at hcall
      cases hcall
      refine ⟨false, .global, row, fun row => { row with isActive := false }, fun _ => rfl, hrow,
        rfl, fun r _ _ => rfl, ?_, rfl⟩
      intro hindexed
      refine indexed_of_same hindexed ?_
      intro a ha
      obtain ⟨old, hold, rfl⟩ := (Table.mem_update s.taxRates id
        (fun row => { row with isActive := false }) (fun _ => rfl) a).mp ha
      refine ⟨old, hold, ?_⟩
      split <;> exact ⟨rfl, rfl, rfl⟩

theorem apply_standings (h : c.apply s = .ok next) :
    standings next.taxRates.rows =
      (standings s.taxRates.rows).place c.own c.clears (c.claims s) := by
  rcases apply_cases h with ⟨isDefault, scope, row, hid, hactive, hdefault, htier, hclears,
    hclaims, hinsert⟩ | ⟨isDefault, scope, row, f, hf, hrow, hclears, hnew, -, hrates⟩
  · rw [hclears, hclaims, ← hid]
    exact standings_insert hactive hdefault htier hinsert
  · rw [hclears, hrates]
    exact standings_update hf (activeRow_find? hrow).1 hnew

theorem apply_indexed (h : c.apply s = .ok next)
    (hindexed : DefaultsIndexed s.taxRates.rows) : DefaultsIndexed next.taxRates.rows := by
  rcases apply_cases h with ⟨_, _, _, -, -, -, -, -, -, hinsert⟩ | ⟨_, _, _, _, _, -, -, -, hkeeps, -⟩
  · exact (insertRate_ok hinsert).2.2
  · exact hkeeps hindexed

def WellFormed (s : TaxConfig) (fields : RateFields) (scope : TaxRateScope)
    (window : TaxRateWindow) : Prop :=
  (validateTaxRateInput fields.name fields.rateBps).isOk = true ∧ window.validate.isOk = true ∧
    (s.validateScopeTarget scope).isOk = true

/-- Another row, archived or not, holds the default of a tier that the call does not clear. -/
def Collides (s : TaxConfig) (id : String) (fields : RateFields) : Prop :=
  fields.isDefault = true ∧ ∃ row ∈ s.activeRow id, row.tier ≠ .global ∧
    ∃ r ∈ s.taxRates.rows, r.rate.isDefault = true ∧ r.tier = row.tier ∧ r.rate.id ≠ id

def Accepted (s : TaxConfig) : RateCall → Prop
  | .createTaxRate id _ fields =>
    (validateTaxRateInput fields.name fields.rateBps).isOk = true ∧ s.taxRates.find? id = none
  | .updateTaxRate _ id fields =>
    (validateTaxRateInput fields.name fields.rateBps).isOk = true ∧
      (s.activeRow id).isSome = true ∧ ¬Collides s id fields
  | .createTaxRateScoped id _ fields scope window =>
    WellFormed s fields scope window ∧ s.taxRates.find? id = none
  | .updateTaxRateScoped _ id fields scope window =>
    WellFormed s fields scope window ∧ (s.activeRow id).isSome = true
  | .deleteTaxRate id =>
    id ∉ s.saleLineRates ∧ (s.ensureScopedCoverageSurvives id).isOk = true ∧
      (s.activeRow id).isSome = true

theorem collides_iff {id : String} {row : TaxRateRow} {fields : RateFields}
    (hrow : s.activeRow id = some row) :
    ¬Collides s id fields ↔ (fields.isDefault = true → row.tier ≠ .global →
      ∀ r ∈ s.taxRates.rows, r.rate.isDefault = true → r.tier = row.tier → r.rate.id = id) := by
  simp [Collides, hrow]

theorem indexed_isOk_iff (rates : TaxRateTable) :
    (indexed rates).isOk = true ↔ DefaultsIndexed rates.rows := by
  rw [Except.isOk_iff]
  constructor
  · rintro ⟨next, h⟩
    exact (indexed_ok_iff.mp h).1
  · intro h
    exact ⟨rates, indexed_ok_iff.mpr ⟨h, rfl⟩⟩

theorem accepted_iff (hindexed : DefaultsIndexed s.taxRates.rows) :
    (c.apply s).isOk = true ↔ c.Accepted s := by
  cases c with
  | createTaxRate id now fields =>
    unfold apply Accepted TaxConfig.createTaxRate
    rw [Except.isOk_map]
    refine Except.isOk_bind_iff (fun bps _ => ?_)
    rw [Except.isOk_map]
    exact insertRate_accepts hindexed rfl rfl
  | updateTaxRate now id fields =>
    unfold apply Accepted TaxConfig.updateTaxRate
    rw [Except.isOk_map]
    refine Except.isOk_bind_iff (fun bps _ => ?_)
    cases hrow : s.activeRow id with
    | none => simp [Except.isOk, Except.toBool]
    | some row =>
      have hwrites := @indexed_update_iff s.taxRates .global fields.isDefault id
        (TaxRateRow.renamed fields bps now) row row.tier (fun _ => rfl) hindexed
        (activeRow_find? hrow).1 (fun _ => rfl)
        (fun r htier => (tier_renamed fields bps now r).trans htier)
      simp only [Option.isNone_some, Bool.false_eq_true, if_false, Except.isOk_map,
        indexed_isOk_iff, Option.isSome_some, true_and]
      rw [collides_iff hrow]
      exact hwrites
  | createTaxRateScoped id now fields scope window =>
    simp only [Accepted, WellFormed, and_assoc]
    unfold apply TaxConfig.createTaxRateScoped
    rw [Except.isOk_map]
    refine Except.isOk_bind_iff (fun bps _ => Except.isOk_bind_iff (fun _ _ =>
      Except.isOk_bind_iff (fun _ _ => ?_)))
    rw [Except.isOk_map]
    exact insertRate_accepts hindexed (tier_rescoped _ _ _) rfl
  | updateTaxRateScoped now id fields scope window =>
    simp only [Accepted, WellFormed, and_assoc]
    unfold apply TaxConfig.updateTaxRateScoped
    rw [Except.isOk_map]
    refine Except.isOk_bind_iff (fun bps _ => Except.isOk_bind_iff (fun _ _ =>
      Except.isOk_bind_iff (fun _ _ => ?_)))
    cases hrow : s.activeRow id with
    | none => simp [Except.isOk, Except.toBool]
    | some row =>
      have hwrites := @indexed_update_iff s.taxRates scope fields.isDefault id
        (fun row => (row.renamed fields bps now).rescoped scope window) row scope
        (fun _ => rfl) hindexed (activeRow_find? hrow).1 (fun _ => rfl)
        (fun r _ => tier_rescoped scope window _)
      simp only [Except.isOk_map, indexed_isOk_iff, Option.isSome_some, iff_true]
      exact hwrites.mpr (fun _ hne => absurd rfl hne)
  | deleteTaxRate id =>
    unfold apply TaxConfig.deleteTaxRate
    have hhistory : (s.blockedByHistory id).isOk = true ↔ id ∉ s.saleLineRates := by
      unfold TaxConfig.blockedByHistory
      by_cases h : id ∈ s.saleLineRates
      · simp [h, Except.isOk, Except.toBool]
      · simp [h, Except.isOk, Except.toBool]
    rw [Accepted, ← hhistory]
    refine Except.isOk_bind_iff (fun _ _ => Except.isOk_bind_iff (fun _ _ => ?_))
    cases s.activeRow id <;> simp [Except.isOk, Except.toBool]

end RateCall

variable (t : TaxTables)

/-- Neither the product nor its category has a rate assigned. -/
def TaxTables.Unassigned (sku : String) : Prop :=
  t.getProductTaxRates sku = [] ∧ ∀ cid ∈ t.categoryOfSku sku, t.getCategoryTaxRates cid = []

/-- The unscoped resolution answers with tenant-global rates only. -/
def TaxTables.UnscopedIsGlobal : Prop :=
  ∀ sku, t.Unassigned sku → ∀ rates, t.resolveBestTaxRatesForSkuAt sku none = .ok rates →
    ∀ rate ∈ rates, ∃ row ∈ t.taxRates.rows, row.rate = rate ∧
      TaxRateScope.classify row.legalEntityId row.locationId = some .global

structure TaxConfig.DefaultsPerTier (s : TaxConfig) : Prop where
  single : ∀ tier, (s.defaultsOf tier).length ≤ 1
  unscoped : s.UnscopedIsGlobal

variable (s : TaxConfig)

def TaxConfig.tierOf (id : String) : Option TaxRateScope :=
  (s.taxRates.find? id).map TaxRateRow.tier

variable (c : RateCall)

/-- Only the tiers that the call's row leaves and enters may change their default. -/
def KeepsOtherTiers : Prop :=
  ∀ tier, s.tierOf c.own ≠ some tier → (rateEdits.step s c).1.tierOf c.own ≠ some tier →
    (rateEdits.step s c).1.defaultsOf tier = s.defaultsOf tier

def TaxConfig.rowsBefore (id : String) : List TaxRateRow :=
  s.taxRates.rows.takeWhile (fun r => r.rate.id ≠ id)

/-- A call that makes a tenant-global row the default finds no scoped default created earlier; one
that makes a scoped row the default clears no other tier than that row's and finds a tenant-global
default created earlier; one that leaves the tenant-global default none finds no scoped default. -/
def GlobalStaysFirst : Option TaxRateScope → Prop
  | some .global => ∀ r ∈ s.rowsBefore c.own, ∀ tier ∈ r.standing, tier = .global
  | some tier => c.clears = some tier ∧ ∃ r ∈ s.rowsBefore c.own, r.standing = some .global
  | none => (∃ r ∈ s.taxRates.rows, r.rate.id = c.own ∧ r.standing = some .global) →
      ∀ r ∈ s.taxRates.rows, ∀ tier ∈ r.standing, tier = .global

def KeepsGlobalFirst : Prop :=
  c.Accepted s → GlobalStaysFirst s c (c.claims s)

instance : Decidable (c.Accepted s) :=
  match c with
  | .createTaxRate _ _ _ => inferInstanceAs (Decidable (_ ∧ _))
  | .updateTaxRate _ id fields =>
    have : Decidable (RateCall.Collides s id fields) := inferInstanceAs (Decidable (_ ∧ _))
    inferInstanceAs (Decidable (_ ∧ _ ∧ ¬RateCall.Collides s id fields))
  | .createTaxRateScoped _ _ _ _ _ => inferInstanceAs (Decidable ((_ ∧ _ ∧ _) ∧ _))
  | .updateTaxRateScoped _ _ _ _ _ => inferInstanceAs (Decidable ((_ ∧ _ ∧ _) ∧ _))
  | .deleteTaxRate _ => inferInstanceAs (Decidable (_ ∧ _ ∧ _))

instance : Decidable (GlobalStaysFirst s c (c.claims s)) :=
  match c.claims s with
  | some .global => inferInstanceAs (Decidable (∀ r ∈ _, ∀ tier ∈ _, _))
  | some (.legalEntity _) => inferInstanceAs (Decidable (_ ∧ ∃ r ∈ _, _))
  | some (.location _) => inferInstanceAs (Decidable (_ ∧ ∃ r ∈ _, _))
  | none => inferInstanceAs (Decidable ((∃ r ∈ _, _ ∧ _) → ∀ r ∈ _, ∀ tier ∈ _, _))

instance : Decidable (KeepsGlobalFirst s c) :=
  inferInstanceAs (Decidable (_ → _))

theorem resolve_unassigned {t : TaxTables} {sku : String} (h : t.Unassigned sku) :
    t.resolveBestTaxRatesForSkuAt sku none = .ok t.getDefaultTaxRate.toList := by
  obtain ⟨hproduct, hcategory⟩ := h
  unfold TaxTables.resolveBestTaxRatesForSkuAt
  cases hcat : t.categoryOfSku sku with
  | none => simp [hproduct, TaxTables.liveRates, Except.bind, TaxTables.fallbackRate, Except.map]
  | some cid =>
    have hnone := hcategory cid hcat
    simp [hproduct, hnone, TaxTables.liveRates, Except.bind, TaxTables.fallbackRate, Except.map]

theorem exists_unassigned : ∃ sku, t.Unassigned sku := by
  obtain ⟨sku, hfresh⟩ := Infinite.exists_notMem_finset
    ((t.productTaxes.map TaxAssignment.owner ++ t.products.rows.map TaxedProduct.sku).toFinset)
  rw [List.mem_toFinset, List.mem_append, not_or] at hfresh
  obtain ⟨howner, hsku⟩ := hfresh
  refine ⟨sku, ?_, ?_⟩
  · have hnone : t.productTaxes.filter (fun a => a.owner = sku) = [] := by
      rw [List.filter_eq_nil_iff]
      intro a ha heq
      exact howner (List.mem_map.mpr ⟨a, ha, by simpa using heq⟩)
    simp [TaxTables.getProductTaxRates, TaxTables.assigned, hnone]
  · have hnone : t.products.rows.find? (fun p => p.sku = sku) = none := by
      rw [List.find?_eq_none]
      intro p hp heq
      exact hsku (List.mem_map.mpr ⟨p, hp, by simpa using heq⟩)
    intro cid hcid
    simp [TaxTables.categoryOfSku, TaxTables.productIdBySku, hnone] at hcid

theorem leading_standing (rows : List TaxRateRow) :
    (standings rows).findSome? Prod.snd =
      (rows.find? (fun r => r.rate.isDefault && r.isActive)).map TaxRateRow.tier := by
  induction rows with
  | nil => rfl
  | cons r rows ih =>
    unfold standings at ih ⊢
    rw [List.map_cons, List.findSome?_cons, List.find?_cons, ih]
    by_cases h : (r.rate.isDefault && r.isActive) = true
    · have hstands : r.standing = some r.tier := by
        rw [TaxRateRow.standing, Bool.and_comm, if_pos h]
      simp [h, hstands]
    · have hstands : r.standing = none := by
        rw [TaxRateRow.standing, Bool.and_comm, if_neg h]
      simp [h, hstands]

theorem unscopedIsGlobal_iff : t.UnscopedIsGlobal ↔ (standings t.taxRates.rows).Leads .global := by
  unfold Standings.Leads
  rw [leading_standing]
  constructor
  · intro h tier htier
    obtain ⟨sku, hsku⟩ := exists_unassigned t
    obtain ⟨row, hfind, rfl⟩ := Option.map_eq_some_iff.mp htier
    have hrate : row.rate ∈ t.getDefaultTaxRate.toList := by
      simp [TaxTables.getDefaultTaxRate, hfind]
    obtain ⟨other, hother, hsame, hglobal⟩ := h sku hsku _ (resolve_unassigned hsku) _ hrate
    have heq : other = row := by
      have hin := List.mem_of_find?_eq_some hfind
      have hfound := (Table.mem_rows_iff t.taxRates row).mp hin
      have hfound' := (Table.mem_rows_iff t.taxRates other).mp hother
      rw [hsame, hfound] at hfound'
      exact (Option.some.inj hfound').symm
    exact heq ▸ (classify_global_iff other).mp hglobal
  · intro h sku hsku rates hrates rate hrate
    rw [resolve_unassigned hsku, Except.ok.injEq] at hrates
    rw [← hrates, Option.mem_toList] at hrate
    obtain ⟨row, hfind, rfl⟩ := Option.map_eq_some_iff.mp hrate
    exact ⟨row, List.mem_of_find?_eq_some hfind, rfl,
      (classify_global_iff row).mpr (h row.tier (by rw [hfind]; rfl))⟩

theorem mem_standings_iff {rows : List TaxRateRow} {id : String} {tier : TaxRateScope} :
    (id, some tier) ∈ standings rows ↔ ∃ r ∈ rows, r.rate.id = id ∧ r.standing = some tier := by
  simp [standings]

variable {s : TaxConfig}

theorem tierOf_of_standing {id : String} {tier : TaxRateScope}
    (h : (id, some tier) ∈ standings s.taxRates.rows) : s.tierOf id = some tier := by
  obtain ⟨r, hr, hid, hstands⟩ := mem_standings_iff.mp h
  have hfind := (Table.find?_eq_some_iff s.taxRates id r).mpr ⟨hr, hid⟩
  rw [TaxConfig.tierOf, hfind, Option.map_some, ((standing_eq_some_iff r tier).mp hstands).2.2]

theorem earlier_standings (s : TaxConfig) (id : String) :
    (standings s.taxRates.rows).earlier id = standings (s.rowsBefore id) := by
  unfold Standings.earlier standings TaxConfig.rowsBefore
  rw [List.takeWhile_map]
  rfl

theorem claims_cases {c : RateCall} (h : c.Accepted s) :
    c.claims s = c.clears ∨
      c.clears = some .global ∧ ∃ tier, c.claims s = some tier ∧ tier ≠ .global := by
  cases c with
  | updateTaxRate now id fields =>
    obtain ⟨row, hrow⟩ := Option.isSome_iff_exists.mp h.2.1
    by_cases hd : fields.isDefault = true
    · by_cases htier : row.tier = .global
      · left
        simp [RateCall.claims, RateCall.clears, hrow, htier]
      · right
        refine ⟨by simp [RateCall.clears, vacates, hd], row.tier, ?_, htier⟩
        simp [RateCall.claims, vacates, hrow, hd]
    · left
      simp [RateCall.claims, RateCall.clears, vacates, hrow, hd]
  | createTaxRate id now fields => exact .inl rfl
  | createTaxRateScoped id now fields scope window => exact .inl rfl
  | updateTaxRateScoped now id fields scope window => exact .inl rfl
  | deleteTaxRate id => exact .inl rfl

theorem step_accepted {c : RateCall} (hindexed : DefaultsIndexed s.taxRates.rows)
    (h : c.Accepted s) : c.apply s = .ok (rateEdits.step s c).1 := by
  obtain ⟨next, hok⟩ := (Except.isOk_iff _).mp ((RateCall.accepted_iff hindexed).mpr h)
  simp [rateEdits, hok]

theorem step_refused {c : RateCall} (hindexed : DefaultsIndexed s.taxRates.rows)
    (h : ¬c.Accepted s) : (rateEdits.step s c).1 = s := by
  have hnot := mt (RateCall.accepted_iff hindexed).mp h
  cases hcall : c.apply s with
  | ok next => exact absurd (by rw [hcall]; rfl) hnot
  | error e => simp [rateEdits, hcall]

theorem step_indexed (c : RateCall) (hindexed : DefaultsIndexed s.taxRates.rows) :
    DefaultsIndexed (rateEdits.step s c).1.taxRates.rows := by
  by_cases h : c.Accepted s
  · exact RateCall.apply_indexed (step_accepted hindexed h) hindexed
  · rw [step_refused hindexed h]
    exact hindexed

theorem step_unscoped_iff (c : RateCall)
    (hindexed : DefaultsIndexed s.taxRates.rows) (hglobal : s.UnscopedIsGlobal) :
    (rateEdits.step s c).1.UnscopedIsGlobal ↔ KeepsGlobalFirst s c := by
  by_cases h : c.Accepted s
  · have hstandings := RateCall.apply_standings (step_accepted hindexed h)
    have hleads := (unscopedIsGlobal_iff s.toTaxTables).mp hglobal
    have hkeys : ((standings s.taxRates.rows).map Prod.fst).Nodup := by
      simpa [standings, Function.comp_def] using s.taxRates.unique
    rw [unscopedIsGlobal_iff, hstandings]
    unfold KeepsGlobalFirst
    simp only [h, true_implies]
    rcases claims_cases h with hsame | ⟨hclears, tier, hclaims, htier⟩
    · rw [← hsame]
      cases hclaims : c.claims s with
      | none =>
        rw [Standings.leads_place_none c.own _ hleads hkeys (defaults_length_le hindexed .global)]
        simp [GlobalStaysFirst, standings]
      | some tier =>
        by_cases htier : tier = .global
        · subst htier
          rw [Standings.leads_place_same, earlier_standings]
          simp [GlobalStaysFirst, standings]
        · rw [Standings.leads_place_other htier _ hleads, earlier_standings]
          cases tier with
          | global => exact absurd rfl htier
          | legalEntity e => simp [GlobalStaysFirst, hsame ▸ hclaims, standings]
          | location l => simp [GlobalStaysFirst, hsame ▸ hclaims, standings]
    · rw [hclears, hclaims]
      have hnot := Standings.not_leads_place (k := c.own) htier (standings s.taxRates.rows)
      cases tier with
      | global => exact absurd rfl htier
      | legalEntity e => simp [GlobalStaysFirst, hclears, hnot]
      | location l => simp [GlobalStaysFirst, hclears, hnot]
  · rw [step_refused hindexed h]
    simp [KeepsGlobalFirst, h, hglobal]

theorem step_keeps_other_tiers {c : RateCall} (hindexed : DefaultsIndexed s.taxRates.rows)
    (hkeeps : KeepsGlobalFirst s c) : KeepsOtherTiers s c := by
  by_cases h : c.Accepted s
  · have hstandings := RateCall.apply_standings (step_accepted hindexed h)
    intro tier hleaves henters
    have hclaims : c.claims s ≠ some tier := by
      intro heq
      refine henters (tierOf_of_standing ?_)
      rw [hstandings, ← heq]
      exact Standings.mem_place _ _ _ _
    have hclears : c.clears ≠ some tier := by
      rcases claims_cases h with hsame | ⟨hclears, other, hother, hne⟩
      · rwa [← hsame]
      · have hcond := hkeeps h
        rw [hother] at hcond
        cases other with
        | global => exact absurd rfl hne
        | legalEntity e => simp [GlobalStaysFirst, hclears] at hcond
        | location l => simp [GlobalStaysFirst, hclears] at hcond
    unfold TaxConfig.defaultsOf
    rw [hstandings]
    exact Standings.holders_place hclears hclaims _ (fun hmem => hleaves (tierOf_of_standing hmem))
  · intro tier _ _
    rw [step_refused hindexed h]

/-- In every state reached there is at most one default to a tier and the unscoped resolution is
tenant-global, and no call has touched another tier than its row's, just when every call keeps a
tenant-global default before every scoped one. -/
theorem defaults_per_tier_iff (s : TaxConfig) (hindexed : DefaultsIndexed s.taxRates.rows)
    (calls : List RateCall) :
    ((∀ l r, calls = l ++ r → (rateEdits.run s l).DefaultsPerTier) ∧
        rateEdits.Along KeepsOtherTiers s calls) ↔
      s.UnscopedIsGlobal ∧ rateEdits.Along KeepsGlobalFirst s calls := by
  let Inv : TaxConfig → Prop := fun s => DefaultsIndexed s.taxRates.rows ∧ s.UnscopedIsGlobal
  have hsingle : ∀ s : TaxConfig, DefaultsIndexed s.taxRates.rows →
      (s.DefaultsPerTier ↔ s.UnscopedIsGlobal) :=
    fun s h => ⟨fun hs => hs.unscoped, fun hs => ⟨defaults_length_le h, hs⟩⟩
  have hstep : ∀ s c, Inv s → KeepsGlobalFirst s c → Inv (rateEdits.step s c).1 :=
    fun s c hs hc => ⟨step_indexed c hs.1, (step_unscoped_iff c hs.1 hs.2).mpr hc⟩
  have hiff : ∀ s c, Inv s →
      ((rateEdits.step s c).1.DefaultsPerTier ↔ KeepsGlobalFirst s c) :=
    fun s c hs => (hsingle _ (step_indexed c hs.1)).trans (step_unscoped_iff c hs.1 hs.2)
  rw [Machine.reached_iff_along, hsingle s hindexed]
  constructor
  · rintro ⟨⟨hs, halong⟩, -⟩
    exact ⟨hs, (rateEdits.along_iff_of_invariant hstep hiff s calls ⟨hindexed, hs⟩).mp halong⟩
  · rintro ⟨hs, halong⟩
    refine ⟨⟨hs, ?_⟩, ?_⟩
    · exact (rateEdits.along_iff_of_invariant hstep hiff s calls ⟨hindexed, hs⟩).mpr halong
    · exact rateEdits.along_of_invariant hstep
        (fun s c hs hc => step_keeps_other_tiers hs.1 hc) s calls ⟨hindexed, hs⟩ halong

def branchOnly : TaxConfig where
  taxRates := Table.empty
  productTaxes := []
  categoryTaxes := []
  products := Table.empty
  locations := ⟨[⟨"branch", none⟩], by decide⟩
  legalEntities := []
  saleLineRates := []

def standardRate : RateFields := ⟨"VAT", 1000, true, false⟩

def branchRate (id : String) : RateCall :=
  .createTaxRateScoped id "t1" ⟨"Branch", 500, true, false⟩ (.location "branch") ⟨none, none⟩

theorem defaults_per_tier_branch :
    (∀ l r, [.createTaxRate "r1" "t0" standardRate, branchRate "r2", .deleteTaxRate "r2"] = l ++ r →
        (rateEdits.run branchOnly l).DefaultsPerTier) ∧
      rateEdits.Along KeepsOtherTiers branchOnly
        [.createTaxRate "r1" "t0" standardRate, branchRate "r2", .deleteTaxRate "r2"] :=
  (defaults_per_tier_iff branchOnly (by decide) _).mpr
    ⟨(unscopedIsGlobal_iff _).mpr (Standings.leads_nil TaxRateScope.global), by decide +kernel⟩

/-- Editing the branch's default through the unscoped update takes the tenant's default away, and
unscoped sales then pay the branch's rate. -/
theorem unscoped_update_of_scoped_default :
    ∃ calls, ¬(∀ l r, calls = l ++ r → (rateEdits.run branchOnly l).DefaultsPerTier) ∧
      ¬rateEdits.Along KeepsOtherTiers branchOnly calls := by
  refine ⟨[.createTaxRate "r1" "t0" standardRate, branchRate "r2",
    .updateTaxRate "t2" "r2" ⟨"Branch", 600, true, false⟩], ?_, ?_⟩
  · intro h
    have hleads := (unscopedIsGlobal_iff _).mp (h _ [] (List.append_nil _).symm).unscoped
    exact absurd (hleads (.location "branch") (by decide +kernel)) (by decide)
  · rintro ⟨-, -, hlast, -⟩
    have hkept := hlast .global (by decide +kernel) (by decide +kernel)
    exact absurd hkept (by decide +kernel)

end OzPos
