import OzPos.Access.Assignments

namespace OzPos

inductive AuthEvent where
  | setAssignment (userId roleId : String) (spec : AssignmentSpec)
  | updateUser (id displayName roleId : String) (isActive : Bool) (refused : Option CoreError)
  | requirePermissionScoped (userId required : String) (branch workspace : Option String)
  | requirePermissionForResource (userId required : String) (scopeType : ScopeType)
    (scopeId : String)

/-- The store, and beside it the last spec written for each user. -/
structure AuthState where
  store : AuthStore
  written : String → Option AssignmentSpec

namespace AuthState

/-- A store as it is found: what its rows read as stands for what was written. -/
def start (s : AuthStore) : AuthState :=
  ⟨s, fun userId => (s.assignmentForUser userId).bind Assignment.toSpec⟩

def write (st : AuthState) (userId : String) (spec : AssignmentSpec) (s : AuthStore) : AuthState :=
  ⟨s, fun other => if other = userId then some spec else st.written other⟩

def synced (st : AuthState) (userId : String) (s : AuthStore) : AuthState :=
  if (st.store.assignments.find? userId).isNone then st.write userId .orgWide s
  else ⟨s, st.written⟩

end AuthState

variable (catalog : PermissionCatalog) (st : AuthState)

def authStep :
    AuthEvent → AuthState × Except AuthError Unit
  | .setAssignment userId roleId spec =>
    match st.store.writeAssignmentScopeOn userId roleId spec with
    | .error e => (st, .error (.core e))
    | .ok s => (st.write userId spec s, .ok ())
  | .updateUser id displayName roleId isActive refused =>
    match st.store.updateUser id displayName roleId isActive refused with
    | .error e => (st, .error (.core e))
    | .ok s => (st.synced id s, .ok ())
  | .requirePermissionScoped userId required branch workspace =>
    (st, st.store.requirePermissionScoped catalog userId required branch workspace)
  | .requirePermissionForResource userId required scopeType scopeId =>
    (st, st.store.requirePermissionForResource catalog userId required scopeType scopeId)

def authMachine :
    Machine AuthState AuthEvent (Except AuthError Unit) := ⟨authStep catalog⟩

/-- A user with a row passes a gate only where the row parses and the spec last written takes
the request. -/
def FailsClosed (event : AuthEvent) : Prop :=
  (authStep catalog st event).2 = .ok () →
    match event with
    | .requirePermissionScoped userId _ branch workspace =>
      ∀ row, st.store.assignments.find? userId = some row →
        row.Parses ∧ ∃ spec, st.written userId = some spec ∧ spec.Admits branch workspace
    | .requirePermissionForResource userId _ scopeType scopeId =>
      ∀ row, st.store.assignments.find? userId = some row →
        row.Parses ∧ ∃ spec, st.written userId = some spec ∧ spec.Names st.store scopeType scopeId
    | _ => True

/-- The row of a user and the dimension rows hold the spec. -/
structure AuthStore.Stores (s : AuthStore) (row : AssignmentRow) (spec : AssignmentSpec) :
    Prop where
  mode : ScopeMode.parse row.scopeMode = some spec.scopeMode
  type : row.scopeType.bind ScopeType.parse = some spec.scopeType
  id : row.scopeId = spec.scopeId
  branchesAll : (row.branchScope != "list") = spec.branchesAll
  workspacesAll : (row.workspaceScope != "list") = spec.workspacesAll
  branches : spec.branchesAll = false → ∀ v, v ∈ s.branches.idsFor row.userId ↔ v ∈ spec.branches
  workspaces : spec.workspacesAll = false →
    ∀ v, v ∈ s.workspaces.idsFor row.userId ↔ v ∈ spec.workspaces

/-- Every row that parses holds the spec last written for its user. -/
def AuthState.KeepsSpecs : Prop :=
  ∀ userId row, st.store.assignments.find? userId = some row → row.Parses →
    ∃ spec, st.written userId = some spec ∧ st.store.Stores row spec

namespace AssignmentRow

variable (row : AssignmentRow)

/-- The mode and the type can be read, and so the row is loaded. -/
def Legible : Prop :=
  (ScopeMode.parse row.scopeMode).isSome ∧ (row.scopeType.bind ScopeType.parse).isSome

instance : Decidable row.Legible := inferInstanceAs (Decidable (_ ∧ _))

theorem Parses.legible {row : AssignmentRow} (h : row.Parses) : row.Legible := ⟨h.1, h.2.2.2⟩

/-- A dimension column that is not the text `list` takes every request. -/
def ColumnsAdmit (s : AuthStore) (branch workspace : Option String) : Prop :=
  row.scopeMode = "global" ∨
    AssignmentSpec.DimensionAdmits (row.branchScope != "list") (s.branches.idsFor row.userId)
      branch ∧
    AssignmentSpec.DimensionAdmits (row.workspaceScope != "list")
      (s.workspaces.idsFor row.userId) workspace

def ColumnsName (s : AuthStore) (scopeType : ScopeType) (scopeId : String) : Prop :=
  row.scopeType = some "organization" ∨
    row.scopeType = some scopeType.asStr ∧ row.scopeId = some scopeId ∨
    row.scopeType = some "legal_entity" ∧ scopeType = .location ∧
      ∃ entity, row.scopeId = some entity ∧ s.locationLegalEntityId scopeId = some entity

end AssignmentRow

theorem ScopeMode.parse_eq_some_iff (s : String) (m : ScopeMode) : parse s = some m ↔ s = m.asStr :=
  ⟨parse_eq_some, fun h => by rw [h, parse_asStr]⟩

theorem ScopeType.parse_eq_some_iff (s : String) (t : ScopeType) :
    parse s = some t ↔ s = t.asStr := by
  constructor
  · intro h
    unfold parse at h
    split at h
    · cases h
      assumption
    · split at h
      · cases h
        assumption
      · split at h
        · cases h
          assumption
        · cases h
  · intro h
    rw [h, parse_asStr]

namespace AuthStore

variable {s : AuthStore} {row : AssignmentRow} {spec : AssignmentSpec}

theorem Stores.columnsAdmit_iff (h : s.Stores row spec) (branch workspace : Option String) :
    row.ColumnsAdmit s branch workspace ↔ spec.Admits branch workspace := by
  have hmode := (ScopeMode.parse_eq_some_iff _ _).mp h.mode
  have hdim : ∀ (all : Bool) (ids ids' : List String) (requested : Option String),
      (all = false → ∀ v, v ∈ ids ↔ v ∈ ids') →
      (AssignmentSpec.DimensionAdmits all ids requested ↔
        AssignmentSpec.DimensionAdmits all ids' requested) := by
    intro all ids ids' requested hids
    cases all with
    | true => simp [AssignmentSpec.DimensionAdmits]
    | false => simp [AssignmentSpec.DimensionAdmits, hids rfl]
  unfold AssignmentRow.ColumnsAdmit AssignmentSpec.Admits
  rw [h.branchesAll, h.workspacesAll, hdim _ _ _ branch h.branches,
    hdim _ _ _ workspace h.workspaces, hmode]
  cases spec.scopeMode with
  | global => simp [ScopeMode.asStr]
  | scoped_ => simp [ScopeMode.asStr]

theorem Stores.columnsName_iff (h : s.Stores row spec) (scopeType : ScopeType) (scopeId : String) :
    row.ColumnsName s scopeType scopeId ↔ spec.Names s scopeType scopeId := by
  obtain ⟨text, htext, hparse⟩ := Option.bind_eq_some_iff.mp h.type
  have htype := (ScopeType.parse_eq_some_iff _ _).mp hparse
  unfold AssignmentRow.ColumnsName AssignmentSpec.Names
  rw [htext, htype, h.id]
  cases spec.scopeType with
  | organization => simp [ScopeType.asStr]
  | legalEntity => cases scopeType <;> simp [ScopeType.asStr]
  | location => cases scopeType <;> simp [ScopeType.asStr]

variable {userId : String}

theorem assignmentForUser_legible (hrow : s.assignments.find? userId = some row) (h : row.Legible) :
    ∃ a spec, s.assignmentForUser userId = some a ∧ a.roleId = row.roleId ∧
      a.toSpec = some spec ∧ s.Stores row spec := by
  obtain ⟨mode, hmode⟩ := Option.isSome_iff_exists.mp h.1
  obtain ⟨type, htype⟩ := Option.isSome_iff_exists.mp h.2
  have hkey := Table.find?_key hrow
  have hload : s.assignmentForUser userId = some ⟨userId, row.roleId, mode,
      row.branchScope != "list", s.branches.idsFor userId, row.workspaceScope != "list",
      s.workspaces.idsFor userId, some type, row.scopeId⟩ := by
    simp [assignmentForUser, hrow, hmode, htype]
  refine ⟨_, _, hload, rfl, rfl, ?_⟩
  exact ⟨hmode, htype, rfl, rfl, rfl, fun _ v => by rw [hkey], fun _ v => by rw [hkey]⟩

theorem assignmentForUser_illegible (hrow : s.assignments.find? userId = some row)
    (h : ¬ row.Legible) : s.assignmentForUser userId = none := by
  unfold assignmentForUser
  rw [hrow]
  cases hmode : ScopeMode.parse row.scopeMode with
  | none => simp only [hmode]
  | some mode =>
    cases htype : row.scopeType.bind ScopeType.parse with
    | none => simp only [hmode, htype]
    | some type => exact absurd ⟨by simp [hmode], by simp [htype]⟩ h

/-- What a gate asks of a row: of one that is not loaded, only the permission of the user's own
role. -/
def LetsThrough (catalog : PermissionCatalog) (s : AuthStore) (userId required : String)
    (row : AssignmentRow) (admitted : Prop) : Prop :=
  if row.Legible then admitted ∧ s.Grants catalog userId required row.roleId
  else s.Grants catalog userId required (s.roleFor userId none)

theorem requirePermissionScoped_iff_letsThrough (catalog : PermissionCatalog)
    (hrow : s.assignments.find? userId = some row)
    (required : String) (branch workspace : Option String) :
    s.requirePermissionScoped catalog userId required branch workspace = .ok () ↔
      s.LetsThrough catalog userId required row (row.ColumnsAdmit s branch workspace) := by
  rw [requirePermissionScoped_ok_iff]
  unfold LetsThrough
  by_cases hlegible : row.Legible
  · obtain ⟨a, spec, ha, hrole, hspec, hstores⟩ := assignmentForUser_legible hrow hlegible
    rw [if_pos hlegible, ha, hstores.columnsAdmit_iff, ← a.matchesScope_iff hspec]
    simp [roleFor, hrole]
  · rw [if_neg hlegible, assignmentForUser_illegible hrow hlegible]
    simp

theorem requirePermissionForResource_iff_letsThrough (catalog : PermissionCatalog)
    (hrow : s.assignments.find? userId = some row) (required : String) (scopeType : ScopeType)
    (scopeId : String) :
    s.requirePermissionForResource catalog userId required scopeType scopeId = .ok () ↔
      s.LetsThrough catalog userId required row (row.ColumnsName s scopeType scopeId) := by
  rw [requirePermissionForResource_ok_iff]
  unfold LetsThrough
  by_cases hlegible : row.Legible
  · obtain ⟨a, spec, ha, hrole, hspec, hstores⟩ := assignmentForUser_legible hrow hlegible
    rw [if_pos hlegible, ha, hstores.columnsName_iff, ← s.resourceCoveredBy_iff hspec]
    simp [roleFor, hrole]
  · rw [if_neg hlegible, assignmentForUser_illegible hrow hlegible]
    simp

theorem replaceDimension_ok_iff {t u : ScopeEntries} {values : List String} :
    replaceDimension t userId values = .ok u ↔ t.replaceFor userId values = some u := by
  unfold replaceDimension
  cases t.replaceFor userId values <;> simp

variable {s' : AuthStore} {roleId : String}

theorem writeAssignmentScopeOn_ok (h : s.writeAssignmentScopeOn userId roleId spec = .ok s') :
    ∃ branches workspaces, s.branches.replaceFor userId spec.branches = some branches ∧
      s.workspaces.replaceFor userId spec.workspaces = some workspaces ∧
      s' = { s with
        assignments := s.assignments.upsert (rowOf userId roleId spec)
        branches := branches
        workspaces := workspaces } := by
  unfold writeAssignmentScopeOn at h
  obtain ⟨_, _, h⟩ := Except.of_do h
  obtain ⟨_, _, h⟩ := Except.of_do h
  obtain ⟨branches, hbranches, h⟩ := Except.of_do h
  obtain ⟨_, _, h⟩ := Except.of_do h
  obtain ⟨workspaces, hworkspaces, h⟩ := Except.of_do h
  cases h
  exact ⟨branches, workspaces, replaceDimension_ok_iff.mp hbranches,
    replaceDimension_ok_iff.mp hworkspaces, rfl⟩

theorem updateUser_ok {id displayName : String} {isActive : Bool} {refused : Option CoreError}
    (h : s.updateUser id displayName roleId isActive refused = .ok s') :
    ∃ users, s' = syncRole { s with users := users } id roleId := by
  unfold updateUser at h
  obtain ⟨_, _, h⟩ := Except.of_do h
  obtain ⟨_, _, h⟩ := Except.of_do h
  obtain ⟨_, _, h⟩ := Except.of_do h
  obtain ⟨_, _, h⟩ := Except.of_do h
  cases h
  exact ⟨_, rfl⟩

theorem Stores.of_ids {row' : AssignmentRow} (h : s.Stores row spec)
    (hrow : row' = { row with roleId := roleId })
    (hbranches : ∀ v, v ∈ s'.branches.idsFor row.userId ↔ v ∈ s.branches.idsFor row.userId)
    (hworkspaces : ∀ v, v ∈ s'.workspaces.idsFor row.userId ↔ v ∈ s.workspaces.idsFor row.userId) :
    s'.Stores row' spec := by
  subst hrow
  exact ⟨h.mode, h.type, h.id, h.branchesAll, h.workspacesAll,
    fun hall v => (hbranches v).trans (h.branches hall v),
    fun hall v => (hworkspaces v).trans (h.workspaces hall v)⟩

end AuthStore

theorem scopeText_bne (all : Bool) : (AuthStore.scopeText all != "list") = all := by
  cases all <;> decide

theorem stores_defaultRow (s : AuthStore) (id roleId : String) :
    s.Stores (AuthStore.defaultRow id roleId) .orgWide where
  mode := ScopeMode.parse_asStr .global
  type := ScopeType.parse_asStr .organization
  id := rfl
  branchesAll := scopeText_bne true
  workspacesAll := scopeText_bne true
  branches := by intro hall; cases hall
  workspaces := by intro hall; cases hall

theorem keepsSpecs_start (s : AuthStore) : (AuthState.start s).KeepsSpecs := by
  intro userId row hrow hparses
  obtain ⟨a, spec, ha, _, hspec, hstores⟩ :=
    AuthStore.assignmentForUser_legible hrow hparses.legible
  have hload : s.assignmentForUser userId = some a := ha
  refine ⟨spec, ?_, hstores⟩
  change (s.assignmentForUser userId).bind Assignment.toSpec = some spec
  rw [hload]
  exact hspec

variable {st : AuthState}

theorem keepsSpecs_setAssignment (h : st.KeepsSpecs) {userId roleId : String}
    {spec : AssignmentSpec} {s' : AuthStore}
    (hok : st.store.writeAssignmentScopeOn userId roleId spec = .ok s') :
    (st.write userId spec s').KeepsSpecs := by
  obtain ⟨branches, workspaces, hbranches, hworkspaces, rfl⟩ :=
    AuthStore.writeAssignmentScopeOn_ok hok
  intro other row hrow hparses
  change (st.store.assignments.upsert (AuthStore.rowOf userId roleId spec)).find? other = some row
    at hrow
  rw [Table.find?_upsert] at hrow
  change (if userId = other then _ else _) = _ at hrow
  by_cases hother : userId = other
  · subst hother
    rw [if_pos rfl] at hrow
    cases hrow
    refine ⟨spec, if_pos rfl, ?_⟩
    constructor
    · exact ScopeMode.parse_asStr _
    · exact ScopeType.parse_asStr _
    · rfl
    · exact scopeText_bne _
    · exact scopeText_bne _
    · intro _ v
      exact (ScopeEntries.mem_idsFor_replaceFor hbranches userId v).trans (by rw [if_pos rfl])
    · intro _ v
      exact (ScopeEntries.mem_idsFor_replaceFor hworkspaces userId v).trans (by rw [if_pos rfl])
  · rw [if_neg hother] at hrow
    obtain ⟨written, hwritten, hstores⟩ := h other row hrow hparses
    have hkey := Table.find?_key hrow
    refine ⟨written, (if_neg (Ne.symm hother)).trans hwritten, hstores.of_ids rfl ?_ ?_⟩
    · intro v
      rw [hkey]
      exact (ScopeEntries.mem_idsFor_replaceFor hbranches other v).trans
        (by rw [if_neg (Ne.symm hother)])
    · intro v
      rw [hkey]
      exact (ScopeEntries.mem_idsFor_replaceFor hworkspaces other v).trans
        (by rw [if_neg (Ne.symm hother)])

theorem keepsSpecs_updateUser (h : st.KeepsSpecs)
    {id displayName roleId : String} {isActive : Bool} {refused : Option CoreError}
    {s' : AuthStore} (hok : st.store.updateUser id displayName roleId isActive refused = .ok s') :
    (st.synced id s').KeepsSpecs := by
  obtain ⟨users, rfl⟩ := AuthStore.updateUser_ok hok
  intro other row hrow hparses
  unfold AuthState.synced
  unfold AuthStore.syncRole at hrow ⊢
  cases hfound : st.store.assignments.find? id with
  | none =>
    simp only [AuthState.synced, hfound, Option.isNone_none, if_true, AuthState.write] at hrow ⊢
    rw [Table.find?_insertNew] at hrow
    cases hold : st.store.assignments.find? other with
    | some old =>
      rw [hold, Option.some_or] at hrow
      cases hrow
      have hne : other ≠ id := by
        rintro rfl
        rw [hfound] at hold
        cases hold
      obtain ⟨written, hwritten, hstores⟩ := h other row hold hparses
      exact ⟨written, (if_neg hne).trans hwritten, hstores.of_ids rfl (fun _ => .rfl) (fun _ => .rfl)⟩
    | none =>
      rw [hold, Option.none_or] at hrow
      split at hrow
      · rename_i hid
        cases hrow
        refine ⟨.orgWide, if_pos hid.symm, ?_⟩
        exact stores_defaultRow _ id roleId
      · cases hrow
  | some current =>
    simp only [AuthState.synced, hfound, Option.isNone_some, Bool.false_eq_true, if_false]
      at hrow ⊢
    rw [Table.find?_update _ id (fun row : AssignmentRow => { row with roleId := roleId })
      (fun _ => rfl)] at hrow
    obtain ⟨old, hold, rfl⟩ := Option.map_eq_some_iff.mp hrow
    by_cases hid : other = id
    · rw [if_pos hid] at hparses ⊢
      obtain ⟨written, hwritten, hstores⟩ := h other old hold hparses
      exact ⟨written, hwritten, hstores.of_ids rfl (fun _ => .rfl) (fun _ => .rfl)⟩
    · rw [if_neg hid] at hparses ⊢
      obtain ⟨written, hwritten, hstores⟩ := h other old hold hparses
      exact ⟨written, hwritten, hstores.of_ids rfl (fun _ => .rfl) (fun _ => .rfl)⟩

variable (catalog : PermissionCatalog)

theorem keepsSpecs_step (h : st.KeepsSpecs)
    (event : AuthEvent) : (authStep catalog st event).1.KeepsSpecs := by
  cases event with
  | setAssignment userId roleId spec =>
    simp only [authStep]
    cases hok : st.store.writeAssignmentScopeOn userId roleId spec with
    | error e => exact h
    | ok s => exact keepsSpecs_setAssignment h hok
  | updateUser id displayName roleId isActive refused =>
    simp only [authStep]
    cases hok : st.store.updateUser id displayName roleId isActive refused with
    | error e => exact h
    | ok s => exact keepsSpecs_updateUser h hok
  | requirePermissionScoped userId required branch workspace => exact h
  | requirePermissionForResource userId required scopeType scopeId => exact h

/-- A gate comes upon a row that parses, or upon one that what it asks still stops. -/
def Stopped (st : AuthState) : AuthEvent → Prop
  | .requirePermissionScoped userId required branch workspace =>
    ∀ row, st.store.assignments.find? userId = some row → row.Parses ∨
      ¬ st.store.LetsThrough catalog userId required row
        (row.ColumnsAdmit st.store branch workspace)
  | .requirePermissionForResource userId required scopeType scopeId =>
    ∀ row, st.store.assignments.find? userId = some row → row.Parses ∨
      ¬ st.store.LetsThrough catalog userId required row
        (row.ColumnsName st.store scopeType scopeId)
  | _ => True

theorem AuthStore.LetsThrough.admitted {catalog : PermissionCatalog} {s : AuthStore}
    {userId required : String} {row : AssignmentRow} {admitted : Prop}
    (h : s.LetsThrough catalog userId required row admitted) (hlegible : row.Legible) :
    admitted := by
  unfold LetsThrough at h
  rw [if_pos hlegible] at h
  exact h.1

theorem failsClosed_iff_stopped (h : st.KeepsSpecs)
    (event : AuthEvent) : FailsClosed catalog st event ↔ Stopped catalog st event := by
  cases event with
  | setAssignment userId roleId spec => simp [FailsClosed, Stopped]
  | updateUser id displayName roleId isActive refused => simp [FailsClosed, Stopped]
  | requirePermissionScoped userId required branch workspace =>
    simp only [FailsClosed, Stopped, authStep]
    constructor
    · intro hclosed row hrow
      rw [AuthStore.requirePermissionScoped_iff_letsThrough catalog hrow] at hclosed
      by_cases hthrough : st.store.LetsThrough catalog userId required row
          (row.ColumnsAdmit st.store branch workspace)
      · exact .inl (hclosed hthrough row hrow).1
      · exact .inr hthrough
    · intro hstopped hpass row hrow
      rw [AuthStore.requirePermissionScoped_iff_letsThrough catalog hrow] at hpass
      rcases hstopped row hrow with hparses | hnot
      · obtain ⟨spec, hwritten, hstores⟩ := h userId row hrow hparses
        exact ⟨hparses, spec, hwritten,
          (hstores.columnsAdmit_iff branch workspace).mp (hpass.admitted hparses.legible)⟩
      · exact absurd hpass hnot
  | requirePermissionForResource userId required scopeType scopeId =>
    simp only [FailsClosed, Stopped, authStep]
    constructor
    · intro hclosed row hrow
      rw [AuthStore.requirePermissionForResource_iff_letsThrough catalog hrow] at hclosed
      by_cases hthrough : st.store.LetsThrough catalog userId required row
          (row.ColumnsName st.store scopeType scopeId)
      · exact .inl (hclosed hthrough row hrow).1
      · exact .inr hthrough
    · intro hstopped hpass row hrow
      rw [AuthStore.requirePermissionForResource_iff_letsThrough catalog hrow] at hpass
      rcases hstopped row hrow with hparses | hnot
      · obtain ⟨spec, hwritten, hstores⟩ := h userId row hrow hparses
        exact ⟨hparses, spec, hwritten,
          (hstores.columnsName_iff scopeType scopeId).mp (hpass.admitted hparses.legible)⟩
      · exact absurd hpass hnot

/-- A run of writes and gates fails closed, if and only if each gate comes upon a row that
parses or that the rest of what it asks stops. -/
theorem failsClosed_iff (s : AuthStore) (events : List AuthEvent) :
    (authMachine catalog).Along (FailsClosed catalog) (.start s) events ↔
      (authMachine catalog).Along (Stopped catalog) (.start s) events :=
  (authMachine catalog).along_iff_of_invariant
    (fun _ event h _ => keepsSpecs_step catalog h event)
    (fun _ event h => failsClosed_iff_stopped catalog h event) _ events (keepsSpecs_start s)

/-- A cashier bound to one branch, in a row whose mode is spelled with a capital. -/
def misspelledScope : AuthStore where
  users := ⟨[⟨"u-1", "role-staff", true, false⟩], by decide⟩
  roles := ⟨[⟨"role-staff", "Staff", "[\"sales:process\"]", false⟩], by decide⟩
  assignments :=
    ⟨[⟨"u-1", "role-staff", "Scoped", "list", "all", some "location", some "store-a"⟩], by decide⟩
  branches := ⟨[⟨"u-1", "store-a"⟩], by decide⟩
  workspaces := ⟨[], by decide⟩
  workspaceKeys := []
  locations := ⟨[⟨"store-a", none⟩, ⟨"store-b", none⟩], by decide⟩

def salesCatalog : PermissionCatalog where
  isRegistered key := key = "sales:process"
  readGrants text := if text = "[\"sales:process\"]" then some ["sales:process"] else none

def otherBranch : AuthEvent :=
  .requirePermissionScoped "u-1" "sales:process" (some "store-b") none

theorem misspelledScope_passes :
    (authStep salesCatalog (.start misspelledScope) otherBranch).2 = .ok () ∧
      ¬ (authMachine salesCatalog).Along (FailsClosed salesCatalog) (.start misspelledScope)
        [otherBranch] := by
  have hpass : (authStep salesCatalog (.start misspelledScope) otherBranch).2 = .ok () := by rfl
  refine ⟨hpass, ?_⟩
  rintro ⟨hclosed, _⟩
  obtain ⟨hparses, _⟩ := hclosed hpass _ (by rfl)
  exact absurd hparses (by decide)

end OzPos
