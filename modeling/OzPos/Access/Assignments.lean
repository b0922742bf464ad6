import OzPos.Access.InstanceAccess
import OzPos.Client.Settings
import OzPos.Library.Outcome
import OzPos.Library.Run

namespace OzPos

inductive ScopeMode where
  | global
  | scoped_
  deriving DecidableEq

inductive ScopeType where
  | organization
  | legalEntity
  | location
  deriving DecidableEq

namespace ScopeMode

def asStr : ScopeMode → String
  | global => "global"
  | scoped_ => "scoped"

def parse (s : String) : Option ScopeMode :=
  if s = "global" then some global else if s = "scoped" then some scoped_ else none

@[simp] theorem parse_asStr (m : ScopeMode) : parse m.asStr = some m := by
  cases m <;> decide

theorem parse_eq_some {s : String} {m : ScopeMode} (h : parse s = some m) : s = m.asStr := by
  unfold parse at h
  split at h
  · cases h
    assumption
  · split at h
    · cases h
      assumption
    · cases h

end ScopeMode

namespace ScopeType

def asStr : ScopeType → String
  | organization => "organization"
  | legalEntity => "legal_entity"
  | location => "location"

def parse (s : String) : Option ScopeType :=
  if s = "organization" then some organization
  else if s = "legal_entity" then some legalEntity
  else if s = "location" then some location
  else none

@[simp] theorem parse_asStr (t : ScopeType) : parse t.asStr = some t := by
  cases t <;> decide

end ScopeType

structure AssignmentSpec where
  scopeMode : ScopeMode
  branchesAll : Bool
  branches : List String
  workspacesAll : Bool
  workspaces : List String
  scopeType : ScopeType
  scopeId : Option String

namespace AssignmentSpec

def orgWide : AssignmentSpec := ⟨.global, true, [], true, [], .organization, none⟩

def validateResourcePair (spec : AssignmentSpec) : Except CoreError Unit :=
  match spec.scopeType, spec.scopeId with
  | .organization, none => .ok ()
  | .organization, some _ =>
    .error (.validation "scope_id" "organization scope must not carry a scope_id")
  | t, id =>
    if id.getD "" = "" then
      .error (.validation "scope_id" (t.asStr ++ " scope requires a non-empty scope_id"))
    else .ok ()

end AssignmentSpec

/-- A row of `assignments`, with the texts that its scope columns hold. -/
structure AssignmentRow where
  (userId roleId scopeMode branchScope workspaceScope : String)
  (scopeType scopeId : Option String)

/-- A row of `assignment_branches` or of `assignment_workspaces`. -/
structure ScopeEntry where
  (userId value : String)

def ScopeEntry.pair (e : ScopeEntry) : String × String := (e.userId, e.value)

abbrev ScopeEntries : Type := Table (String × String) ScopeEntry ScopeEntry.pair

namespace ScopeEntries

variable (t : ScopeEntries)

/-- `branch_ids_for` and `workspace_keys_for`. -/
def idsFor (userId : String) : List String :=
  KeysetPage.ordered id ((t.rows.filter (fun e => e.userId = userId)).map ScopeEntry.value)

def insertAll (t : ScopeEntries) (userId : String) : List String → Option ScopeEntries
  | [] => some t
  | value :: values =>
    match t.insert? ⟨userId, value⟩ with
    | none => none
    | some u => insertAll u userId values

/-- The deletion of a user's rows and the insertion of others; `none` is a repeated one. -/
def replaceFor (userId : String) (values : List String) : Option ScopeEntries :=
  insertAll (t.retain (fun e => e.userId ≠ userId)) userId values

theorem rows_insertAll {userId : String} {values : List String} {t u : ScopeEntries}
    (h : insertAll t userId values = some u) :
    u.rows = t.rows ++ values.map (fun value => ⟨userId, value⟩) := by
  induction values generalizing t with
  | nil =>
    cases h
    simp
  | cons value values ih =>
    simp only [insertAll] at h
    cases hins : t.insert? ⟨userId, value⟩ with
    | none =>
      rw [hins] at h
      cases h
    | some t' =>
      rw [hins] at h
      rw [ih h, Table.insert?_rows hins]
      simp

theorem mem_idsFor (userId value : String) :
    value ∈ t.idsFor userId ↔ ∃ e ∈ t.rows, e.userId = userId ∧ e.value = value := by
  unfold idsFor
  rw [KeysetPage.mem_ordered]
  simp [and_assoc]

theorem mem_idsFor_replaceFor {t u : ScopeEntries} {userId : String} {values : List String}
    (h : t.replaceFor userId values = some u) (other value : String) :
    value ∈ u.idsFor other ↔ if other = userId then value ∈ values else value ∈ t.idsFor other := by
  simp only [mem_idsFor, rows_insertAll h, Table.retain]
  by_cases hother : other = userId
  · subst hother
    rw [if_pos rfl]
    constructor
    · rintro ⟨e, he, hu, hv⟩
      rcases List.mem_append.mp he with hold | hnew
      · have hne := (List.mem_filter.mp hold).2
        simp [hu] at hne
      · obtain ⟨v, hmem, rfl⟩ := List.mem_map.mp hnew
        exact hv ▸ hmem
    · intro hmem
      exact ⟨⟨other, value⟩, List.mem_append_right _ (List.mem_map.mpr ⟨value, hmem, rfl⟩),
        rfl, rfl⟩
  · rw [if_neg hother]
    constructor
    · rintro ⟨e, he, hu, hv⟩
      rcases List.mem_append.mp he with hold | hnew
      · exact ⟨e, (List.mem_filter.mp hold).1, hu, hv⟩
      · obtain ⟨v, _, rfl⟩ := List.mem_map.mp hnew
        exact absurd hu.symm hother
    · rintro ⟨e, he, hu, hv⟩
      have hkeep : decide (e.userId ≠ userId) = true := by simp [hu, hother]
      exact ⟨e, List.mem_append_left _ (List.mem_filter.mpr ⟨he, hkeep⟩), hu, hv⟩

end ScopeEntries

/-- A row of `roles`; `permissions` is the JSON text. -/
structure Role where
  (id name permissions : String)
  deleted : Bool

/-- A row of `locations`, as the downward walk reads it. -/
structure LocationRow where
  id : String
  legalEntityId : Option String

structure AuthStore where
  users : UserTable
  roles : Table String Role Role.id
  assignments : Table String AssignmentRow AssignmentRow.userId
  (branches workspaces : ScopeEntries)
  workspaceKeys : List String
  locations : Table String LocationRow LocationRow.id

structure Assignment where
  (userId roleId : String)
  scopeMode : ScopeMode
  branchesAll : Bool
  branches : List String
  workspacesAll : Bool
  workspaces : List String
  scopeType : Option ScopeType
  scopeId : Option String

namespace Assignment

/-- Whether a dimension that is explicit `all` or a list takes the request's id. -/
def dimensionOk (all : Bool) (ids : List String) (requested : Option String) : Bool :=
  all || requested.any ids.contains

def matchesScope (a : Assignment) (branch workspace : Option String) : Bool :=
  match a.scopeMode with
  | .global => true
  | .scoped_ =>
    dimensionOk a.branchesAll a.branches branch &&
      dimensionOk a.workspacesAll a.workspaces workspace

def coversResource (a : Assignment) (scopeType : ScopeType) (scopeId : String) : Bool :=
  match a.scopeType, a.scopeId with
  | some .organization, _ => true
  | some .legalEntity, some id => scopeType = .legalEntity && id = scopeId
  | some .location, some id => scopeType = .location && id = scopeId
  | _, _ => false

end Assignment

namespace AuthStore

variable (s : AuthStore)

def locationLegalEntityId (locationId : String) : Option String :=
  (s.locations.find? locationId).bind LocationRow.legalEntityId

/-- `none` is a user without a row, and a row whose mode or type cannot be read. -/
def assignmentForUser (userId : String) : Option Assignment :=
  match s.assignments.find? userId with
  | none => none
  | some row =>
    match ScopeMode.parse row.scopeMode with
    | none => none
    | some scopeMode =>
      match row.scopeType.bind ScopeType.parse with
      | none => none
      | some scopeType =>
        some ⟨userId, row.roleId, scopeMode, row.branchScope != "list", s.branches.idsFor userId,
          row.workspaceScope != "list", s.workspaces.idsFor userId, some scopeType, row.scopeId⟩

def resourceCoveredBy (a : Assignment) (scopeType : ScopeType) (scopeId : String) : Bool :=
  if scopeType = .location && a.scopeType = some .legalEntity then
    let entity := s.locationLegalEntityId scopeId
    entity.isSome && entity = a.scopeId
  else a.coversResource scopeType scopeId

/-- The `all` flag of a dimension as its column holds it. -/
def scopeText (all : Bool) : String := if all then "all" else "list"

variable (userId roleId : String)

variable (spec : AssignmentSpec)

def rowOf : AssignmentRow where
  userId := userId
  roleId := roleId
  scopeMode := spec.scopeMode.asStr
  branchScope := scopeText spec.branchesAll
  workspaceScope := scopeText spec.workspacesAll
  scopeType := some spec.scopeType.asStr
  scopeId := spec.scopeId

def foreignKeyFailed : CoreError := .db "FOREIGN KEY constraint failed"

def requireParents (present : Bool) : Except CoreError Unit :=
  if present then .ok () else .error foreignKeyFailed

def uniqueFailed : CoreError := .db "UNIQUE constraint failed"

def replaceDimension (t : ScopeEntries) (userId : String) (values : List String) :
    Except CoreError ScopeEntries :=
  match t.replaceFor userId values with
  | none => .error uniqueFailed
  | some u => .ok u

def writeAssignmentScopeOn :
    Except CoreError AuthStore := do
  spec.validateResourcePair
  requireParents ((s.users.find? userId).isSome && (s.roles.find? roleId).isSome)
  let branches ← replaceDimension s.branches userId spec.branches
  requireParents (spec.workspaces.all s.workspaceKeys.contains)
  let workspaces ← replaceDimension s.workspaces userId spec.workspaces
  return { s with
    assignments := s.assignments.upsert (rowOf userId roleId spec)
    branches := branches
    workspaces := workspaces }

def requireAssignableRole (roleId : String) : Except CoreError Unit :=
  match s.roles.find? roleId with
  | none => .error (.validation "role_id" ("role '" ++ roleId ++ "' does not exist"))
  | some role =>
    if role.deleted then
      .error (.validation "role_id"
        ("role '" ++ roleId ++ "' is in the trash; restore it before assigning it"))
    else .ok ()

def defaultRow : AssignmentRow :=
  ⟨userId, roleId, "global", "all", "all", some "organization", none⟩

/-- `INSERT … ON CONFLICT(user_id) DO UPDATE SET role_id`, the other columns at their defaults. -/
def syncRole : AuthStore :=
  match s.assignments.find? userId with
  | none => { s with assignments := s.assignments.insertNew (defaultRow userId roleId) }
  | some _ =>
    { s with
      assignments := s.assignments.update userId (fun row => { row with roleId := roleId })
        (fun _ => rfl) }

def requireDisplayName (displayName : String) : Except CoreError Unit :=
  if trim displayName = "" then
    .error (.validation "display_name" "display name must not be empty")
  else .ok ()

/-- The `UPDATE … WHERE id = ? AND deleted_at IS NULL` that must find its row. -/
def requireLiveUser (id : String) : Except CoreError Unit :=
  match s.users.find? id with
  | none => .error (.notFound "user" id)
  | some user => if user.deleted then .error (.notFound "user" id) else .ok ()

def notRefused : Option CoreError → Except CoreError Unit
  | none => .ok ()
  | some e => .error e

def setUser (id roleId : String) (isActive : Bool) : UserTable :=
  s.users.update id (fun u => { u with roleId := roleId, isActive := isActive }) (fun _ => rfl)

/-- `update_user`; `refused` is what else stops it: a taken username, a full plan. -/
def updateUser (id displayName roleId : String) (isActive : Bool)
    (refused : Option CoreError) : Except CoreError AuthStore := do
  requireDisplayName displayName
  s.requireAssignableRole roleId
  s.requireLiveUser id
  notRefused refused
  return syncRole { s with users := s.setUser id roleId isActive } id roleId

end AuthStore

inductive AuthError where
  | core (e : CoreError)
  | permissionDenied (message : String)

/-- The permission registry, and the JSON reader of a role's grants. -/
structure PermissionCatalog where
  isRegistered : String → Bool
  readGrants : String → Option (List String)

def permissionDomain (required : String) : String :=
  String.ofList (required.toList.takeWhile (fun c => c ≠ ':'))

def hasPermission (granted : List String) (required : String) : Bool :=
  granted.any (fun p => p = "*" || p = required || p = permissionDomain required ++ ":*")

namespace Role

def hasPermission (role : Role) (catalog : PermissionCatalog) (required : String) : Bool :=
  OzPos.hasPermission ((catalog.readGrants role.permissions).getD []) required

def authorize (role : Role) (catalog : PermissionCatalog) (required : String) :
    Except AuthError Unit :=
  if role.hasPermission catalog required then .ok ()
  else .error (.permissionDenied ("permission denied: '" ++ required ++ "' — role '" ++ role.name ++
    "' lacks this permission"))

end Role

namespace AuthStore

variable (catalog : PermissionCatalog)

variable (s : AuthStore) (userId required : String)

variable (assignment : Option Assignment)

def authorizeWith : Except AuthError Unit :=
  if !catalog.isRegistered required then
    .error (.permissionDenied ("unknown permission: " ++ required))
  else
    match s.users.find? userId with
    | none => .error (.permissionDenied "user not found")
    | some user =>
      if !user.isActive then .error (.permissionDenied "user is inactive")
      else
        let roleId := (assignment.map Assignment.roleId).getD user.roleId
        match s.roles.find? roleId with
        | none => .error (.permissionDenied ("role " ++ roleId ++ " not found"))
        | some role => role.authorize catalog required

variable (branch workspace : Option String)

def requirePermissionScoped : Except AuthError Unit :=
  let assignment := s.assignmentForUser userId
  if assignment.any (fun a => !a.matchesScope branch workspace) then
    .error (.permissionDenied ("branch/workspace out of scope for user " ++ userId))
  else s.authorizeWith catalog userId required assignment

variable (scopeType : ScopeType) (scopeId : String)

def requirePermissionForResource : Except AuthError Unit :=
  let assignment := s.assignmentForUser userId
  if assignment.any (fun a => !s.resourceCoveredBy a scopeType scopeId) then
    .error (.permissionDenied ("resource " ++ scopeId ++ " out of scope for user " ++ userId))
  else s.authorizeWith catalog userId required assignment

/-- The role, where it is found, grants an active user the registered permission. -/
def Grants (userId required roleId : String) : Prop :=
  catalog.isRegistered required = true ∧
    (∃ user, s.users.find? userId = some user ∧ user.isActive = true) ∧
    ∃ role, s.roles.find? roleId = some role ∧ role.hasPermission catalog required = true

/-- The role that the gate turns to: the assignment's, else the user's own. -/
def roleFor (userId : String) (assignment : Option Assignment) : String :=
  match assignment with
  | some a => a.roleId
  | none => ((s.users.find? userId).map StaffUser.roleId).getD ""

theorem authorizeWith_ok_iff :
    s.authorizeWith catalog userId required assignment = .ok () ↔
      s.Grants catalog userId required (s.roleFor userId assignment) := by
  unfold authorizeWith Grants roleFor
  cases hreg : catalog.isRegistered required with
  | false => simp
  | true =>
    cases huser : s.users.find? userId with
    | none => simp
    | some user =>
      cases hactive : user.isActive with
      | false => simp [hactive]
      | true =>
        have hrole : (assignment.map Assignment.roleId).getD user.roleId =
            (match assignment with
              | some a => a.roleId
              | none => ((some user).map StaffUser.roleId).getD "") := by
          cases assignment <;> rfl
        simp only [hrole, Bool.not_true, Bool.false_eq_true, if_false, Option.some.injEq,
          exists_eq_left', hactive, true_and]
        generalize (match assignment with
          | some a => a.roleId
          | none => ((some user).map StaffUser.roleId).getD "") = roleId
        cases hfind : s.roles.find? roleId with
        | none => simp
        | some role => simp [Role.authorize]

theorem requirePermissionScoped_ok_iff :
    s.requirePermissionScoped catalog userId required branch workspace = .ok () ↔
      (∀ a, s.assignmentForUser userId = some a → a.matchesScope branch workspace = true) ∧
        s.Grants catalog userId required (s.roleFor userId (s.assignmentForUser userId)) := by
  rw [← authorizeWith_ok_iff]
  unfold requirePermissionScoped
  cases s.assignmentForUser userId with
  | none => simp
  | some a => cases h : a.matchesScope branch workspace <;> simp [h]

theorem requirePermissionForResource_ok_iff :
    s.requirePermissionForResource catalog userId required scopeType scopeId = .ok () ↔
      (∀ a, s.assignmentForUser userId = some a →
        s.resourceCoveredBy a scopeType scopeId = true) ∧
        s.Grants catalog userId required (s.roleFor userId (s.assignmentForUser userId)) := by
  rw [← authorizeWith_ok_iff]
  unfold requirePermissionForResource
  cases s.assignmentForUser userId with
  | none => simp
  | some a => cases h : s.resourceCoveredBy a scopeType scopeId <;> simp [h]

end AuthStore

namespace AssignmentRow

/-- Each scope column holds one of the texts that the writers store. -/
def Parses (row : AssignmentRow) : Prop :=
  (ScopeMode.parse row.scopeMode).isSome ∧ (row.branchScope = "all" ∨ row.branchScope = "list") ∧
    (row.workspaceScope = "all" ∨ row.workspaceScope = "list") ∧
    (row.scopeType.bind ScopeType.parse).isSome

instance (row : AssignmentRow) : Decidable row.Parses :=
  inferInstanceAs (Decidable (_ ∧ _ ∧ _ ∧ _))

end AssignmentRow

namespace AssignmentSpec

/-- What an explicit `all` or a list says of a request. -/
def DimensionAdmits (all : Bool) (ids : List String) (requested : Option String) : Prop :=
  all = true ∨ ∃ id, requested = some id ∧ id ∈ ids

variable (spec : AssignmentSpec)

/-- Both dimensions take the request; an org-level spec has none to ask. -/
def Admits (branch workspace : Option String) : Prop :=
  spec.scopeMode = .global ∨
    DimensionAdmits spec.branchesAll spec.branches branch ∧
      DimensionAdmits spec.workspacesAll spec.workspaces workspace

/-- The spec names the organization, the resource itself, or the legal entity of the
location. -/
def Names (s : AuthStore) (scopeType : ScopeType) (scopeId : String) : Prop :=
  spec.scopeType = .organization ∨
    spec.scopeType = scopeType ∧ spec.scopeId = some scopeId ∨
    spec.scopeType = .legalEntity ∧ scopeType = .location ∧
      ∃ entity, spec.scopeId = some entity ∧ s.locationLegalEntityId scopeId = some entity

end AssignmentSpec

theorem Assignment.dimensionOk_iff (all : Bool) (ids : List String) (requested : Option String) :
    dimensionOk all ids requested = true ↔ AssignmentSpec.DimensionAdmits all ids requested := by
  unfold dimensionOk AssignmentSpec.DimensionAdmits
  cases requested with
  | none => simp
  | some id => simp

def Assignment.toSpec (a : Assignment) : Option AssignmentSpec :=
  a.scopeType.map (fun scopeType =>
    ⟨a.scopeMode, a.branchesAll, a.branches, a.workspacesAll, a.workspaces, scopeType, a.scopeId⟩)

theorem Assignment.matchesScope_iff {a : Assignment} {spec : AssignmentSpec}
    (h : a.toSpec = some spec) (branch workspace : Option String) :
    a.matchesScope branch workspace = true ↔ spec.Admits branch workspace := by
  obtain ⟨scopeType, _, rfl⟩ := Option.map_eq_some_iff.mp h
  unfold matchesScope AssignmentSpec.Admits
  cases hmode : a.scopeMode with
  | global => simp
  | scoped_ => simp [dimensionOk_iff]

theorem AuthStore.resourceCoveredBy_iff (s : AuthStore) {a : Assignment} {spec : AssignmentSpec}
    (h : a.toSpec = some spec) (scopeType : ScopeType) (scopeId : String) :
    s.resourceCoveredBy a scopeType scopeId = true ↔ spec.Names s scopeType scopeId := by
  obtain ⟨own, hown, rfl⟩ := Option.map_eq_some_iff.mp h
  unfold resourceCoveredBy Assignment.coversResource AssignmentSpec.Names
  simp only [hown]
  cases own with
  | organization => simp
  | legalEntity =>
    cases scopeType with
    | organization => cases a.scopeId <;> simp
    | legalEntity => cases a.scopeId <;> simp
    | location =>
      cases hentity : s.locationLegalEntityId scopeId with
      | none => simp
      | some entity => cases a.scopeId <;> simp [eq_comm]
  | location =>
    cases scopeType with
    | organization => cases a.scopeId <;> simp
    | legalEntity => cases a.scopeId <;> simp
    | location => cases a.scopeId <;> simp

end OzPos
