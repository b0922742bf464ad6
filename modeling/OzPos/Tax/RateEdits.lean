import OzPos.Tax.SaleTax
import OzPos.Client.Settings
import OzPos.Library.Run
import OzPos.Library.Standings

namespace OzPos

structure TaxConfig extends TaxTables where
  legalEntities : List String
  /-- `sale_lines.tax_rate_id` of the lines that have one. -/
  saleLineRates : List String

structure TaxRateWindow where
  (effectiveFrom effectiveTo : Option String)

abbrev BoundedBps := {bps : Int // 0 ≤ bps ∧ bps ≤ TaxTables.maxTaxRateBps}

def validateTaxRateInput (name : String) (rateBps : Int) : Except CoreError BoundedBps :=
  if trim name = "" then .error (.validation "name" "tax rate name must not be empty")
  else if h : 0 ≤ rateBps ∧ rateBps ≤ TaxTables.maxTaxRateBps then .ok ⟨rateBps, h⟩
  else .error (.validation "rate_bps" s!"rate must be between 0 and {TaxTables.maxTaxRateBps} bps")

def effectiveDate (field : String) : Option String → Except CoreError (Option Nat)
  | none => .ok none
  | some v =>
    match parseEffectiveDate v with
    | some d => .ok (some d)
    | none => .error (.validation field s!"expected a business date 'YYYY-MM-DD', got {v.quote}")

variable (window : TaxRateWindow)

def emptyPeriod : CoreError :=
  let shown : Option String → String := fun date => date.getD ""
  .validation "effective_to"
    (s!"effective_to {shown window.effectiveTo} must fall after effective_from " ++
      s!"{shown window.effectiveFrom}; " ++
      "the end date is exclusive, so equal dates cover no period at all")

def nonemptyPeriod : Option Nat → Option Nat → Except CoreError Unit
  | some start, some stop => if stop ≤ start then .error (emptyPeriod window) else .ok ()
  | _, _ => .ok ()

def TaxRateWindow.validate : Except CoreError Unit :=
  (effectiveDate "effective_from" window.effectiveFrom).bind (fun start =>
    (effectiveDate "effective_to" window.effectiveTo).bind (fun stop =>
      nonemptyPeriod window start stop))

/-- The `(legal_entity_id, location_id)` pair a scope is stored as. -/
def TaxRateScope.scopeColumns : TaxRateScope → Option String × Option String
  | .global => (none, none)
  | .legalEntity id => (some id, none)
  | .location id => (none, some id)

def targetExists (table column id : String) (found : Bool) : Except CoreError Unit :=
  if trim id = "" then
    .error (.validation column s!"{column} must not be empty; NULL means unscoped")
  else if found then .ok ()
  else
    .error (.validation column
      (s!"no {table} {id.quote}: the rate would be scoped to a row that does not exist"))

/-- The unique index on `is_default` that a row's scope columns put it in. -/
def TaxRateRow.tier (row : TaxRateRow) : TaxRateScope :=
  match row.legalEntityId, row.locationId with
  | none, none => .global
  | some e, none => .legalEntity e
  | _, some l => .location l

variable (rows : List TaxRateRow)

/-- The partial unique indexes, one to a tier; archived rows are in them too. -/
def DefaultsIndexed : Prop :=
  rows.Pairwise (fun a b =>
    ¬(a.rate.isDefault = true ∧ b.rate.isDefault = true ∧ a.tier = b.tier))

instance : Decidable (DefaultsIndexed rows) :=
  inferInstanceAs (Decidable (rows.Pairwise _))

abbrev TaxRateTable := Table String TaxRateRow (fun r => r.rate.id)

variable (scope : TaxRateScope) (row : TaxRateRow)

def clearsDefault : Bool :=
  row.rate.isDefault && match scope with
    | .global => row.legalEntityId = none && row.locationId = none
    | .legalEntity entity => row.legalEntityId = some entity && row.locationId = none
    | .location location => row.locationId = some location

def TaxRateRow.cleared : TaxRateRow :=
  if clearsDefault scope row then { row with rate := { row.rate with isDefault := false } }
  else row

theorem TaxRateRow.cleared_id : (row.cleared scope).rate.id = row.rate.id := by
  unfold TaxRateRow.cleared
  split <;> rfl

variable (rates : TaxRateTable)

def clearTierDefault : TaxRateTable :=
  rates.mapRows (TaxRateRow.cleared scope) (TaxRateRow.cleared_id scope)

def tierCleared (isDefault : Bool) (scope : TaxRateScope) (rates : TaxRateTable) : TaxRateTable :=
  if isDefault then clearTierDefault scope rates else rates

/-- A statement that leaves two defaults in one tier is refused, and with it the transaction. -/
def indexed : Except CoreError TaxRateTable :=
  if DefaultsIndexed rates.rows then .ok rates
  else .error (.db "UNIQUE constraint failed: tax_rates.tenant_id")

def insertRate (row : TaxRateRow) : Except CoreError TaxRateTable :=
  match rates.insert? row with
  | none => .error (.db "UNIQUE constraint failed: tax_rates.id")
  | some rates => indexed rates

structure RateFields where
  name : String
  rateBps : Int
  (isDefault isInclusive : Bool)

/-- The columns that the unscoped `UPDATE` sets. -/
def TaxRateRow.renamed (fields : RateFields) (bps : BoundedBps) (now : String)
    (row : TaxRateRow) : TaxRateRow :=
  { row with
    rate := {
      row.rate with
      name := trim fields.name
      rateBps := bps.1
      isDefault := fields.isDefault
      isInclusive := fields.isInclusive
      updatedAt := now
      bps_nonneg := bps.2.1 } }

def TaxRateRow.rescoped (window : TaxRateWindow) (row : TaxRateRow) : TaxRateRow :=
  { row with
    legalEntityId := scope.scopeColumns.1
    locationId := scope.scopeColumns.2
    effectiveFrom := window.effectiveFrom
    effectiveTo := window.effectiveTo }

def newRate (id now : String) (fields : RateFields) (bps : BoundedBps) : TaxRate where
  id := id
  name := trim fields.name
  rateBps := bps.1
  isDefault := fields.isDefault
  isInclusive := fields.isInclusive
  createdAt := now
  updatedAt := now
  bps_nonneg := bps.2.1

namespace TaxConfig

variable (s : TaxConfig)

def validateScopeTarget : TaxRateScope → Except CoreError Unit
  | .global => .ok ()
  | .legalEntity id => targetExists "legal_entities" "legal_entity_id" id (id ∈ s.legalEntities)
  | .location id => targetExists "locations" "location_id" id (s.locations.find? id).isSome

variable (id : String)

def notFoundRate : CoreError := .notFound "tax_rate" id

/-- `id` and `now` are minted by the call. -/
def createTaxRate (id now : String) (fields : RateFields) :
    Except CoreError (TaxRate × TaxConfig) :=
  (validateTaxRateInput fields.name fields.rateBps).bind (fun bps =>
    let rate := newRate id now fields bps
    (insertRate (tierCleared fields.isDefault .global s.taxRates)
        ⟨rate, true, none, none, none, none, ""⟩).map (fun rates =>
      (rate, { s with taxRates := rates })))

def updateTaxRate (now id : String) (fields : RateFields) :
    Except CoreError (TaxRate × TaxConfig) :=
  (validateTaxRateInput fields.name fields.rateBps).bind (fun bps =>
    -- the writer takes every row for a tenant-global one
    let rates := tierCleared fields.isDefault .global s.taxRates
    if (s.activeRow id).isNone then .error (notFoundRate id)
    else
      (indexed (rates.update id (TaxRateRow.renamed fields bps now) (fun _ => rfl))).map
        (fun rates =>
          ({ newRate id now fields bps with createdAt := "" }, { s with taxRates := rates })))

def createTaxRateScoped (id now : String) (fields : RateFields) (scope : TaxRateScope)
    (window : TaxRateWindow) : Except CoreError (TaxRate × TaxConfig) :=
  (validateTaxRateInput fields.name fields.rateBps).bind (fun bps =>
    window.validate.bind (fun _ =>
      (s.validateScopeTarget scope).bind (fun _ =>
        let rate := newRate id now fields bps
        (insertRate (tierCleared fields.isDefault scope s.taxRates)
            (TaxRateRow.rescoped scope window ⟨rate, true, none, none, none, none, ""⟩)).map
          (fun rates => (rate, { s with taxRates := rates })))))

def updateTaxRateScoped (now id : String) (fields : RateFields) (scope : TaxRateScope)
    (window : TaxRateWindow) : Except CoreError (TaxRate × TaxConfig) :=
  (validateTaxRateInput fields.name fields.rateBps).bind (fun bps =>
    window.validate.bind (fun _ =>
      (s.validateScopeTarget scope).bind (fun _ =>
        match s.activeRow id with
        | none => .error (notFoundRate id)
        | some existing =>
          (indexed ((tierCleared fields.isDefault scope s.taxRates).update id
              (fun row => (row.renamed fields bps now).rescoped scope window)
              (fun _ => rfl))).map
            (fun rates =>
              ({ newRate id now fields bps with createdAt := existing.rate.createdAt },
                { s with taxRates := rates })))))

/-- The rows other than `id` that answer for a location at one of its tiers. -/
def covering (id locationId : String) (entity : Option String) : List TaxRateRow :=
  s.taxRates.rows.filter (fun r => r.candidate locationId entity && r.rate.id ≠ id)

def uncovered (id entity : String) : List TaxedLocation :=
  s.locations.rows.filter (fun l =>
    l.legalEntityId = some entity && (s.covering id l.id l.legalEntityId).isEmpty)

def ensureScopedCoverageSurvives : Except CoreError Unit :=
  match s.activeRow id with
  | none => .ok ()
  | some row =>
    match row.locationId, row.legalEntityId with
    | none, none => .ok ()
    | some loc, _ =>
      if s.covering id loc (s.locationLegalEntity loc) = [] then
        .error (.validation "tax_rate"
          (s!"cannot archive tax rate {id}: it is the last row covering location {loc.quote} " ++
            "at the location, entity or global tier; author a replacement for that scope first"))
      else .ok ()
    | none, some ent =>
      if s.uncovered id ent ≠ [] then
        .error (.validation "tax_rate"
          (s!"cannot archive tax rate {id}: it is the last entity-tier row for {ent.quote} and " ++
            s!"{(s.uncovered id ent).length} live location(s) under it would be left with " ++
            "no covering row at any tier; author a replacement first"))
      else .ok ()

def blockedByHistory : Except CoreError Unit :=
  if 0 < s.saleLineRates.count id then
    .error (.validation "tax_rate"
      (s!"cannot archive tax rate {id}: referenced by {s.saleLineRates.count id} " ++
        "historical sale line(s)"))
  else .ok ()

def deleteTaxRate : Except CoreError TaxConfig :=
  (s.blockedByHistory id).bind (fun _ =>
    (s.ensureScopedCoverageSurvives id).bind (fun _ =>
      if (s.activeRow id).isNone then .error (notFoundRate id)
      else
        .ok { s with
          taxRates := s.taxRates.update id (fun row => { row with isActive := false })
            (fun _ => rfl)
          productTaxes := s.productTaxes.filter (fun a => a.taxRateId ≠ id)
          categoryTaxes := s.categoryTaxes.filter (fun a => a.taxRateId ≠ id) }))

end TaxConfig

inductive RateCall where
  | createTaxRate (id now : String) (fields : RateFields)
  | updateTaxRate (now id : String) (fields : RateFields)
  | createTaxRateScoped (id now : String) (fields : RateFields) (scope : TaxRateScope)
      (window : TaxRateWindow)
  | updateTaxRateScoped (now id : String) (fields : RateFields) (scope : TaxRateScope)
      (window : TaxRateWindow)
  | deleteTaxRate (id : String)

def RateCall.apply (s : TaxConfig) : RateCall → Except CoreError TaxConfig
  | .createTaxRate id now fields => (s.createTaxRate id now fields).map Prod.snd
  | .updateTaxRate now id fields => (s.updateTaxRate now id fields).map Prod.snd
  | .createTaxRateScoped id now fields scope window =>
    (s.createTaxRateScoped id now fields scope window).map Prod.snd
  | .updateTaxRateScoped now id fields scope window =>
    (s.updateTaxRateScoped now id fields scope window).map Prod.snd
  | .deleteTaxRate id => s.deleteTaxRate id

def rateEdits : Machine TaxConfig RateCall (Except CoreError Unit) where
  step s c :=
    match c.apply s with
    | .ok next => (next, .ok ())
    | .error e => (s, .error e)

def TaxRateRow.standing (row : TaxRateRow) : Option TaxRateScope :=
  if row.isActive && row.rate.isDefault then some row.tier else none

def standings (rows : List TaxRateRow) : Standings String TaxRateScope :=
  rows.map (fun r => (r.rate.id, r.standing))

def TaxConfig.defaultsOf (s : TaxConfig) (tier : TaxRateScope) : List String :=
  (standings s.taxRates.rows).holders tier

theorem clearsDefault_iff (scope : TaxRateScope) (row : TaxRateRow) :
    clearsDefault scope row = true ↔ row.rate.isDefault = true ∧ row.tier = scope := by
  unfold clearsDefault TaxRateRow.tier
  cases row.legalEntityId with
  | none => cases row.locationId <;> cases scope <;> simp
  | some e => cases row.locationId <;> cases scope <;> simp

theorem classify_global_iff (row : TaxRateRow) :
    TaxRateScope.classify row.legalEntityId row.locationId = some .global ↔
      row.tier = .global := by
  unfold TaxRateRow.tier
  cases row.legalEntityId <;> cases row.locationId <;> simp [TaxRateScope.classify]

@[simp] theorem tier_cleared (scope : TaxRateScope) (row : TaxRateRow) :
    (row.cleared scope).tier = row.tier := by
  unfold TaxRateRow.cleared
  split <;> rfl

@[simp] theorem isActive_cleared (scope : TaxRateScope) (row : TaxRateRow) :
    (row.cleared scope).isActive = row.isActive := by
  unfold TaxRateRow.cleared
  split <;> rfl

theorem isDefault_cleared_iff (scope : TaxRateScope) (row : TaxRateRow) :
    (row.cleared scope).rate.isDefault = true ↔ row.rate.isDefault = true ∧ row.tier ≠ scope := by
  have hclears := clearsDefault_iff scope row
  unfold TaxRateRow.cleared
  by_cases h : clearsDefault scope row = true
  · have htier := (hclears.mp h).2
    simp [h, htier]
  · have hkept : row.rate.isDefault = true → row.tier ≠ scope :=
      fun hdefault htier => h (hclears.mpr ⟨hdefault, htier⟩)
    rw [if_neg h]
    exact ⟨fun hdefault => ⟨hdefault, hkept hdefault⟩, fun hdefault => hdefault.1⟩

theorem standing_eq_some_iff (row : TaxRateRow) (tier : TaxRateScope) :
    row.standing = some tier ↔
      row.isActive = true ∧ row.rate.isDefault = true ∧ row.tier = tier := by
  simp [TaxRateRow.standing, and_assoc]

theorem standing_cleared (scope : TaxRateScope) (row : TaxRateRow) :
    (row.cleared scope).standing = if row.standing = some scope then none else row.standing := by
  apply Option.ext
  intro tier
  have hdefault := isDefault_cleared_iff scope row
  have hold := standing_eq_some_iff row
  rw [standing_eq_some_iff, hdefault, isActive_cleared, tier_cleared]
  by_cases h : row.standing = some scope
  · obtain ⟨-, -, htier⟩ := (hold scope).mp h
    simp [h, htier]
  · rw [if_neg h, hold]
    constructor
    · rintro ⟨hactive, ⟨hdef, -⟩, htier⟩
      exact ⟨hactive, hdef, htier⟩
    · rintro ⟨hactive, hdef, htier⟩
      exact ⟨hactive, ⟨hdef, fun hscope => h ((hold scope).mpr ⟨hactive, hdef, hscope⟩)⟩, htier⟩

variable (isDefault : Bool)

def vacates (scope : TaxRateScope) : Option TaxRateScope :=
  if isDefault then some scope else none

theorem rows_tierCleared (scope : TaxRateScope) (rates : TaxRateTable) :
    (tierCleared isDefault scope rates).rows =
      rates.rows.map (fun r => if isDefault then r.cleared scope else r) := by
  cases isDefault with
  | false => simp [tierCleared]
  | true => rfl

theorem standings_tierCleared (scope : TaxRateScope) (rates : TaxRateTable) :
    standings (tierCleared isDefault scope rates).rows =
      (standings rates.rows).map (Standings.vacate (vacates isDefault scope)) := by
  cases isDefault with
  | false => exact (Standings.map_vacate_none _).symm
  | true =>
    simp only [rows_tierCleared, standings, List.map_map, if_true, vacates]
    apply List.map_congr_left
    intro row _
    simp only [Function.comp_apply, TaxRateRow.cleared_id, standing_cleared, Standings.vacate]
    split <;> rfl

theorem defaultsIndexed_iff (rates : TaxRateTable) :
    DefaultsIndexed rates.rows ↔ ∀ a ∈ rates.rows, ∀ b ∈ rates.rows,
      a.rate.isDefault = true → b.rate.isDefault = true → a.tier = b.tier →
        a.rate.id = b.rate.id := by
  obtain ⟨rows, hkeys⟩ := rates
  dsimp only
  induction rows with
  | nil => simp [DefaultsIndexed]
  | cons r rows ih =>
    obtain ⟨hr, hrest⟩ := List.nodup_cons.mp hkeys
    have hne : ∀ b ∈ rows, r.rate.id ≠ b.rate.id :=
      fun b hb heq => hr (List.mem_map.mpr ⟨b, hb, heq.symm⟩)
    have ih := ih hrest
    unfold DefaultsIndexed at ih ⊢
    rw [List.pairwise_cons, ih]
    constructor
    · rintro ⟨hhead, htail⟩ a ha b hb hda hdb htier
      rcases List.mem_cons.mp ha with rfl | hina
      · rcases List.mem_cons.mp hb with rfl | hinb
        · rfl
        · exact absurd ⟨hda, hdb, htier⟩ (hhead b hinb)
      · rcases List.mem_cons.mp hb with rfl | hinb
        · exact absurd ⟨hdb, hda, htier.symm⟩ (hhead a hina)
        · exact htail a hina b hinb hda hdb htier
    · intro hall
      constructor
      · rintro b hb ⟨hdr, hdb, htier⟩
        exact hne b hb (hall r List.mem_cons_self b (List.mem_cons_of_mem _ hb) hdr hdb htier)
      · intro a ha b hb
        exact hall a (List.mem_cons_of_mem _ ha) b (List.mem_cons_of_mem _ hb)

theorem indexed_ok_iff {rates next : TaxRateTable} :
    indexed rates = .ok next ↔ DefaultsIndexed rates.rows ∧ rates = next := by
  unfold indexed
  by_cases h : DefaultsIndexed rates.rows
  · simp [h]
  · simp [h]

theorem defaults_length_le {rates : TaxRateTable} (h : DefaultsIndexed rates.rows)
    (tier : TaxRateScope) : ((standings rates.rows).holders tier).length ≤ 1 := by
  unfold DefaultsIndexed at h
  unfold Standings.holders standings
  generalize rates.rows = rows at h
  induction rows with
  | nil => simp
  | cons r rows ih =>
    obtain ⟨hhead, htail⟩ := List.pairwise_cons.mp h
    by_cases hr : r.standing = some tier
    · obtain ⟨-, hdefault, htier⟩ := (standing_eq_some_iff r tier).mp hr
      have hnone : ∀ b ∈ rows, b.standing ≠ some tier := by
        intro b hb hstands
        obtain ⟨-, hdb, htb⟩ := (standing_eq_some_iff b tier).mp hstands
        exact hhead b hb ⟨hdefault, hdb, htier.trans htb.symm⟩
      have hempty : (rows.map (fun r => (r.rate.id, r.standing))).filter
          (fun e => e.2 = some tier) = [] := by
        rw [List.filter_eq_nil_iff]
        rintro e he
        obtain ⟨b, hb, rfl⟩ := List.mem_map.mp he
        simpa using hnone b hb
      simp [hr, hempty]
    · simpa [hr] using ih htail

section Statements

variable {rates next : TaxRateTable} {scope : TaxRateScope} {isDefault : Bool}

variable {row : TaxRateRow}

theorem mem_tierCleared (h : row ∈ (tierCleared isDefault scope rates).rows) :
    ∃ old ∈ rates.rows, old.rate.id = row.rate.id ∧ old.tier = row.tier ∧
      old.isActive = row.isActive ∧
      (row.rate.isDefault = true → old.rate.isDefault = true ∧
        (isDefault = true → row.tier ≠ scope)) := by
  rw [rows_tierCleared] at h
  obtain ⟨old, hold, rfl⟩ := List.mem_map.mp h
  refine ⟨old, hold, ?_⟩
  cases isDefault with
  | false => simp
  | true => simp [TaxRateRow.cleared_id, isDefault_cleared_iff]

theorem tierCleared_own {id : String} {r : TaxRateRow} (hrow : rates.find? id = some row)
    (hr : r ∈ (tierCleared isDefault scope rates).rows) (hid : r.rate.id = id) :
    r.isActive = row.isActive ∧ r.tier = row.tier := by
  obtain ⟨old, hold, hoid, hotier, hoactive, -⟩ := mem_tierCleared hr
  have hsome := (Table.find?_eq_some_iff rates id old).mpr ⟨hold, hoid.trans hid⟩
  rw [hrow, Option.some.injEq] at hsome
  subst hsome
  exact ⟨hoactive.symm, hotier.symm⟩

theorem same_id_of_default (hindexed : DefaultsIndexed rates.rows) {a b : TaxRateRow}
    (ha : a ∈ (tierCleared isDefault scope rates).rows)
    (hb : b ∈ (tierCleared isDefault scope rates).rows) (hda : a.rate.isDefault = true)
    (hdb : b.rate.isDefault = true) (heq : a.tier = b.tier) : a.rate.id = b.rate.id := by
  obtain ⟨oldA, holdA, hidA, htierA, -, hA⟩ := mem_tierCleared ha
  obtain ⟨oldB, holdB, hidB, htierB, -, hB⟩ := mem_tierCleared hb
  have htiers : oldA.tier = oldB.tier := by rw [htierA, htierB, heq]
  have hids := (defaultsIndexed_iff rates).mp hindexed oldA holdA oldB holdB (hA hda).1
    (hB hdb).1 htiers
  rw [← hidA, ← hidB, hids]

theorem cleared_mem {old : TaxRateRow} (h : old ∈ rates.rows) (hkept : old.tier ≠ scope) :
    ∃ row ∈ (tierCleared isDefault scope rates).rows, row.rate.id = old.rate.id ∧
      row.tier = old.tier ∧ row.rate.isDefault = old.rate.isDefault := by
  rw [rows_tierCleared]
  refine ⟨_, List.mem_map_of_mem h, ?_⟩
  cases isDefault with
  | false => simp
  | true =>
    have hnot : ¬clearsDefault scope old = true :=
      fun hclears => hkept ((clearsDefault_iff scope old).mp hclears).2
    simp [TaxRateRow.cleared, hnot]

theorem indexed_of_same (hindexed : DefaultsIndexed rates.rows)
    (hsame : ∀ a ∈ next.rows, ∃ b ∈ rates.rows, b.rate.id = a.rate.id ∧ b.tier = a.tier ∧
      b.rate.isDefault = a.rate.isDefault) : DefaultsIndexed next.rows := by
  rw [defaultsIndexed_iff] at hindexed ⊢
  intro a ha b hb hda hdb heq
  obtain ⟨oldA, holdA, hidA, htierA, hdefaultA⟩ := hsame a ha
  obtain ⟨oldB, holdB, hidB, htierB, hdefaultB⟩ := hsame b hb
  rw [← hidA, ← hidB]
  exact hindexed oldA holdA oldB holdB (hdefaultA.trans hda) (hdefaultB.trans hdb)
    (by rw [htierA, htierB, heq])

theorem insertRate_ok (h : insertRate rates row = .ok next) :
    rates.find? row.rate.id = none ∧ next.rows = rates.rows ++ [row] ∧
      DefaultsIndexed next.rows := by
  unfold insertRate at h
  cases hinsert : rates.insert? row with
  | none => simp [hinsert] at h
  | some inserted =>
    simp only [hinsert] at h
    obtain ⟨hindexed, rfl⟩ := indexed_ok_iff.mp h
    refine ⟨?_, Table.insert?_rows hinsert, hindexed⟩
    rw [← Table.insert?_isSome_iff, hinsert]
    rfl

theorem find?_tierCleared_none {id : String} :
    (tierCleared isDefault scope rates).find? id = none ↔ rates.find? id = none := by
  cases isDefault with
  | false => rfl
  | true =>
    have hfind := Table.find?_mapRows rates (TaxRateRow.cleared scope)
      (TaxRateRow.cleared_id scope) id
    rw [show tierCleared true scope rates = clearTierDefault scope rates from rfl,
      clearTierDefault, hfind, Option.map_eq_none_iff]

theorem insertRate_accepts (hindexed : DefaultsIndexed rates.rows)
    (htier : row.tier = scope) (hdefault : row.rate.isDefault = isDefault) :
    (insertRate (tierCleared isDefault scope rates) row).isOk = true ↔
      rates.find? row.rate.id = none := by
  rw [Except.isOk_iff]
  constructor
  · rintro ⟨written, h⟩
    exact find?_tierCleared_none.mp (insertRate_ok h).1
  intro hfresh
  have hnone := (@find?_tierCleared_none rates scope isDefault row.rate.id).mpr hfresh
  have hsome := (Table.insert?_isSome_iff _ row).mpr hnone
  obtain ⟨inserted, hinsert⟩ := Option.isSome_iff_exists.mp hsome
  refine ⟨inserted, ?_⟩
  unfold insertRate
  rw [hinsert]
  refine indexed_ok_iff.mpr ⟨?_, rfl⟩
  rw [defaultsIndexed_iff, Table.insert?_rows hinsert]
  have hnew : ∀ a ∈ (tierCleared isDefault scope rates).rows, a.rate.isDefault = true →
      row.rate.isDefault = true → a.tier ≠ row.tier := by
    intro a ha hda hdr heq
    obtain ⟨_, _, _, _, _, hkept⟩ := mem_tierCleared ha
    exact (hkept hda).2 (hdefault ▸ hdr) (heq.trans htier)
  intro a ha b hb hda hdb heq
  rcases List.mem_append.mp ha with hina | hina
  · rcases List.mem_append.mp hb with hinb | hinb
    · exact same_id_of_default hindexed hina hinb hda hdb heq
    · rw [List.mem_singleton.mp hinb] at hdb heq
      exact absurd heq (hnew a hina hda hdb)
  · rw [List.mem_singleton.mp hina] at hda heq ⊢
    rcases List.mem_append.mp hb with hinb | hinb
    · exact absurd heq.symm (hnew b hinb hdb hda)
    · rw [List.mem_singleton.mp hinb]

theorem indexed_update_iff {id : String} {f : TaxRateRow → TaxRateRow} {row : TaxRateRow}
    {tier : TaxRateScope} (hf : ∀ r, (f r).rate.id = r.rate.id)
    (hindexed : DefaultsIndexed rates.rows) (hrow : rates.find? id = some row)
    (hdefault : ∀ r, (f r).rate.isDefault = isDefault)
    (htier : ∀ r, r.tier = row.tier → (f r).tier = tier) :
    DefaultsIndexed ((tierCleared isDefault scope rates).update id f hf).rows ↔
      (isDefault = true → tier ≠ scope →
        ∀ r ∈ rates.rows, r.rate.isDefault = true → r.tier = tier → r.rate.id = id) := by
  obtain ⟨hin, hid⟩ := (Table.find?_eq_some_iff rates id row).mp hrow
  -- the row under the id, before the update
  have hown : ∀ r ∈ (tierCleared isDefault scope rates).rows, r.rate.id = id →
      (f r).tier = tier := fun r hr hrid => htier r (tierCleared_own hrow hr hrid).2
  -- another default of a tier that was not cleared
  have hother : (isDefault = true → tier ≠ scope →
      ∀ r ∈ rates.rows, r.rate.isDefault = true → r.tier = tier → r.rate.id = id) →
      ∀ r ∈ (tierCleared isDefault scope rates).rows, isDefault = true →
        r.rate.isDefault = true → r.tier = tier → r.rate.id = id := by
    intro hall r hr hd hdr hrt
    obtain ⟨old, hold, hoid, hotier, -, hkept⟩ := mem_tierCleared hr
    obtain ⟨hdo, hne⟩ := hkept hdr
    rw [← hoid]
    exact hall hd (hrt ▸ hne hd) old hold hdo (hotier.trans hrt)
  rw [defaultsIndexed_iff]
  constructor
  · intro hall hd hne r hr hdr hrt
    obtain ⟨own, hinOwn, hidOwn⟩ : ∃ own ∈ (tierCleared isDefault scope rates).rows,
        own.rate.id = id := by
      rw [rows_tierCleared]
      refine ⟨_, List.mem_map_of_mem hin, ?_⟩
      cases isDefault with
      | false => exact hid
      | true => exact (TaxRateRow.cleared_id scope row).trans hid
    obtain ⟨kept, hinKept, hidKept, htierKept, hdKept⟩ :=
      @cleared_mem rates scope isDefault r hr (hrt ▸ hne)
    by_contra hrid
    have hkept : kept.rate.id ≠ id := hidKept ▸ hrid
    have hmemOwn := (Table.mem_update _ id f hf (f own)).mpr ⟨own, hinOwn, by rw [if_pos hidOwn]⟩
    have hmemKept := (Table.mem_update _ id f hf kept).mpr ⟨kept, hinKept, by rw [if_neg hkept]⟩
    have hids := hall _ hmemOwn _ hmemKept ((hdefault own).trans hd) (hdKept.trans hdr)
      ((hown own hinOwn hidOwn).trans (hrt.symm.trans htierKept.symm))
    exact hkept (by rw [← hids, hf, hidOwn])
  · intro hall a ha b hb hda hdb heq
    have hother := hother hall
    obtain ⟨oldA, holdA, rfl⟩ := (Table.mem_update _ id f hf a).mp ha
    obtain ⟨oldB, holdB, rfl⟩ := (Table.mem_update _ id f hf b).mp hb
    by_cases hA : oldA.rate.id = id
    · rw [if_pos hA] at hda heq ⊢
      have htierA := hown oldA holdA hA
      by_cases hB : oldB.rate.id = id
      · rw [if_pos hB, hf, hf, hA, hB]
      · rw [if_neg hB] at hdb heq ⊢
        exact absurd (hother oldB holdB ((hdefault oldA).symm.trans hda) hdb
          (heq.symm.trans htierA)) hB
    · rw [if_neg hA] at hda heq ⊢
      by_cases hB : oldB.rate.id = id
      · rw [if_pos hB] at hdb heq ⊢
        have htierB := hown oldB holdB hB
        exact absurd (hother oldA holdA ((hdefault oldB).symm.trans hdb) hda
          (heq.trans htierB)) hA
      · rw [if_neg hB] at hdb heq ⊢
        exact same_id_of_default hindexed holdA holdB hda hdb heq

theorem standings_update {id : String} {f : TaxRateRow → TaxRateRow} {new : Option TaxRateScope}
    (hf : ∀ r, (f r).rate.id = r.rate.id) (hrow : rates.find? id = some row)
    (hnew : ∀ r, r.isActive = row.isActive → r.tier = row.tier → (f r).standing = new) :
    standings ((tierCleared isDefault scope rates).update id f hf).rows =
      (standings rates.rows).place id (vacates isDefault scope) new := by
  have hkeys : (standings rates.rows).map Prod.fst = rates.rows.map (fun r => r.rate.id) := by
    simp [standings, Function.comp_def]
  obtain ⟨hin, hid⟩ := (Table.find?_eq_some_iff rates id row).mp hrow
  have hmem : id ∈ (standings rates.rows).map Prod.fst := by
    rw [hkeys]
    exact List.mem_map.mpr ⟨row, hin, hid⟩
  have hnodup : ((standings rates.rows).map Prod.fst).Nodup := hkeys ▸ rates.unique
  have hsplit : ∀ e : String × Option TaxRateScope,
      (if e.1 = id then (id, new) else Standings.vacate (vacates isDefault scope) e) =
        (fun e : String × Option TaxRateScope => if e.1 = id then (id, new) else e)
          (Standings.vacate (vacates isDefault scope) e) := by
    intro e
    have hkey : (Standings.vacate (vacates isDefault scope) e).1 = e.1 := by
      unfold Standings.vacate
      split <;> rfl
    simp only [hkey]
  rw [Standings.place_of_mem _ _ _ _ hnodup hmem, List.map_congr_left (fun e _ => hsplit e)]
  have hcleared := standings_tierCleared isDefault scope rates
  have hmap : ((standings rates.rows).map (Standings.vacate (vacates isDefault scope))).map
      (fun e => if e.1 = id then (id, new) else e) =
      (standings (tierCleared isDefault scope rates).rows).map
        (fun e => if e.1 = id then (id, new) else e) := by rw [hcleared]
  rw [List.map_map] at hmap
  refine Eq.trans ?_ hmap.symm
  unfold standings Table.update Table.rewriteRows
  simp only [List.map_map]
  apply List.map_congr_left
  intro r hr
  by_cases hrid : r.rate.id = id
  · obtain ⟨hactive, htier⟩ := tierCleared_own hrow hr hrid
    simp [hrid, hf, hnew r hactive htier]
  · simp [hrid]

theorem standings_insert (hactive : row.isActive = true)
    (hdefault : row.rate.isDefault = isDefault) (htier : row.tier = scope)
    (h : insertRate (tierCleared isDefault scope rates) row = .ok next) :
    standings next.rows = (standings rates.rows).place row.rate.id (vacates isDefault scope)
      (vacates isDefault scope) := by
  obtain ⟨hfresh, hrows, -⟩ := insertRate_ok h
  have hcleared := standings_tierCleared isDefault scope rates
  have hnotMem : row.rate.id ∉ (standings rates.rows).map Prod.fst := by
    intro hmem
    rw [standings, List.map_map] at hmem
    obtain ⟨r, hr, hid⟩ := List.mem_map.mp hmem
    exact (Table.find?_eq_none_iff _ _).mp (find?_tierCleared_none.mp hfresh) r hr hid
  have hstands : row.standing = vacates isDefault scope := by
    simp [TaxRateRow.standing, hactive, hdefault, htier, vacates]
  rw [Standings.place_of_notMem _ _ _ _ hnotMem, ← hcleared, hrows]
  simp [standings, hstands]

end Statements

@[simp] theorem tier_rescoped (scope : TaxRateScope) (window : TaxRateWindow) (row : TaxRateRow) :
    (row.rescoped scope window).tier = scope := by cases scope <;> rfl

@[simp] theorem tier_renamed (fields : RateFields) (bps : BoundedBps) (now : String)
    (row : TaxRateRow) : (row.renamed fields bps now).tier = row.tier := rfl

end OzPos
