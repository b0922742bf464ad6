import OzPos.Library.Table
import Mathlib.Data.Prod.Lex
import Mathlib.Data.String.Basic
import OzPos.Library.Keyset

namespace OzPos

def ownerRole : String := "role-owner"

/-- The columns of a `users` row that the staff count, its writers and the access checks read. -/
structure StaffUser where
  (id roleId : String)
  (isActive deleted : Bool)

abbrev UserTable : Type := Table String StaffUser StaffUser.id

/-- A row of `workspace_instances` as the access checks read it; any text is a status. -/
structure InstanceRow where
  (id typeKey locationId purposeKey name status : String)

/-- A row of `user_location_access`. -/
structure LocationAccess where
  (userId locationId : String)

/-- A row of `user_workspace_instances`. -/
structure InstanceAssignment where
  (userId instanceId : String)
  isDefault : Bool

/-- A row of `role_workspace_types`. -/
structure TypeGrant where
  (roleId typeKey : String)

/-- A row of `workspace_types`. -/
structure WorkspaceType where
  key : String
  sortOrder : Int

def LocationAccess.pair (a : LocationAccess) : String × String := (a.userId, a.locationId)

def InstanceAssignment.pair (a : InstanceAssignment) : String × String := (a.userId, a.instanceId)

def TypeGrant.pair (g : TypeGrant) : String × String := (g.roleId, g.typeKey)

/-- The tables of the access checks, with the foreign keys that they rely on. -/
structure AccessStore where
  users : UserTable
  locationAccess : Table (String × String) LocationAccess LocationAccess.pair
  assignments : Table (String × String) InstanceAssignment InstanceAssignment.pair
  grants : Table (String × String) TypeGrant TypeGrant.pair
  types : Table String WorkspaceType WorkspaceType.key
  instances : Table String InstanceRow InstanceRow.id
  typed : ∀ r ∈ instances.rows, (types.find? r.typeKey).isSome
  assigned : ∀ a ∈ assignments.rows, (instances.find? a.instanceId).isSome

structure WorkspaceDto where
  (instanceId typeKey storeId purposeKey name : String)
  isDefault : Bool

def bypassRoles : List String :=
  ["role-owner", "role-admin", "admin", "role-manager", "role-auditor", "manager", "auditor"]

namespace AccessStore

variable (s : AccessStore)

/-- A user without `user_location_access` rows has access to every store. -/
def storeAccessible (userId storeId : String) : Bool :=
  if s.locationAccess.rows.any (fun a => a.userId = userId) then
    (s.locationAccess.find? (userId, storeId)).isSome
  else true

def isDefaultFor (userId instanceId : String) : Bool :=
  ((s.assignments.find? (userId, instanceId)).map InstanceAssignment.isDefault).getD false

variable (userId : String)

def mapInstanceDto (r : InstanceRow) : WorkspaceDto :=
  ⟨r.id, r.typeKey, r.locationId, r.purposeKey, r.name, s.isDefaultFor userId r.id⟩

def joinType (r : InstanceRow) : Option (WorkspaceType × InstanceRow) :=
  (s.types.find? r.typeKey).map (fun t => (t, r))

def sortKey (p : WorkspaceType × InstanceRow) : Int ×ₗ String := toLex (p.1.sortOrder, p.2.name)

/-- `instance_dto_sql` with a `WHERE`, ordered by the type's sort order and the name. -/
def instanceDtos (wanted : InstanceRow → Bool) : List WorkspaceDto :=
  (KeysetPage.ordered sortKey ((s.instances.rows.filter wanted).filterMap s.joinType)).map
    (fun p => s.mapInstanceDto userId p.2)

def listStoreInstances (storeId : String) (userId : Option String) : List WorkspaceDto :=
  s.instanceDtos (userId.getD "") (fun r => r.locationId = storeId && r.status = "active")

def listInstancesByIds (instanceIds : List String) (storeId userId : String) : List WorkspaceDto :=
  s.instanceDtos userId
    (fun r => instanceIds.contains r.id && r.locationId = storeId && r.status = "active")

def listStoreInstancesByRole (roleId storeId : String)
    (userId : Option String) : List WorkspaceDto :=
  s.instanceDtos (userId.getD "")
    (fun r => r.locationId = storeId && (s.grants.find? (roleId, r.typeKey)).isSome &&
      r.status = "active")

def getUserWorkspaceInstanceIds : List String :=
  (s.assignments.rows.filter (fun a => a.userId = userId)).map InstanceAssignment.instanceId

def listForStaff (roleId : String) (userId : Option String) (storeId : String) :
    List WorkspaceDto :=
  match userId with
  | none => s.listStoreInstancesByRole roleId storeId userId
  | some uid =>
    let instanceIds := s.getUserWorkspaceInstanceIds uid
    if instanceIds.isEmpty then s.listStoreInstancesByRole roleId storeId userId
    else s.listInstancesByIds instanceIds storeId uid

def listWorkspaces (roleId : String) (userId : Option String)
    (storeId : String) : List WorkspaceDto :=
  if userId.any (fun uid => !s.storeAccessible uid storeId) then []
  else if bypassRoles.contains roleId then s.listStoreInstances storeId userId
  else s.listForStaff roleId userId storeId

def boundIdentity (claimedRoleId userId : String) : Bool :=
  match s.users.find? userId with
  | none => false
  | some user => user.isActive && user.roleId = claimedRoleId

def verifyInstanceAccess (claimedRoleId userId instanceId storeId : String) : Bool :=
  if !s.boundIdentity claimedRoleId userId then false
  else if !s.storeAccessible userId storeId then false
  else if bypassRoles.contains claimedRoleId then
    s.instances.rows.any (fun r => r.id = instanceId && r.locationId = storeId &&
      r.status = "active")
  else if (s.assignments.find? (userId, instanceId)).isSome then true
  else s.instances.rows.any (fun r => r.id = instanceId && r.locationId = storeId &&
    r.status = "active" && (s.grants.find? (claimedRoleId, r.typeKey)).isSome)

end AccessStore

namespace AccessStore

variable (s : AccessStore)

def Placed (instanceId storeId : String) : Prop :=
  ∃ r ∈ s.instances.rows, r.id = instanceId ∧ r.locationId = storeId ∧ r.status = "active"

variable (userId instanceId : String)

def Assigned : Prop :=
  (s.assignments.find? (userId, instanceId)).isSome

def HasList (userId : String) : Prop :=
  ∃ a ∈ s.assignments.rows, a.userId = userId

/-- The role has a grant for the type of the instance. -/
def Granted (roleId instanceId : String) : Prop :=
  ∃ r ∈ s.instances.rows, r.id = instanceId ∧ (s.grants.find? (roleId, r.typeKey)).isSome

variable (roleId userId instanceId storeId : String)

/-- The instance is on the menu of the role, the user and the store. -/
def Listed : Prop :=
  ∃ d ∈ s.listWorkspaces roleId (some userId) storeId, d.instanceId = instanceId

theorem assigned_iff :
    s.Assigned userId instanceId ↔
      ∃ a ∈ s.assignments.rows, a.userId = userId ∧ a.instanceId = instanceId := by
  unfold Assigned
  rw [Table.isSome_find?_iff]
  simp [InstanceAssignment.pair]

theorem Assigned.hasList {s : AccessStore} {userId instanceId : String}
    (h : s.Assigned userId instanceId) : s.HasList userId := by
  obtain ⟨a, ha, hu, _⟩ := (s.assigned_iff userId instanceId).mp h
  exact ⟨a, ha, hu⟩

theorem mem_getUserWorkspaceInstanceIds :
    instanceId ∈ s.getUserWorkspaceInstanceIds userId ↔ s.Assigned userId instanceId := by
  rw [assigned_iff]
  simp [getUserWorkspaceInstanceIds, and_assoc]

theorem isEmpty_getUserWorkspaceInstanceIds (userId : String) :
    (s.getUserWorkspaceInstanceIds userId).isEmpty = true ↔ ¬ s.HasList userId := by
  simp [getUserWorkspaceInstanceIds, HasList]

theorem placed_and_granted_iff (roleId instanceId storeId : String) :
    (∃ r ∈ s.instances.rows, r.id = instanceId ∧ r.locationId = storeId ∧ r.status = "active" ∧
      (s.grants.find? (roleId, r.typeKey)).isSome) ↔
    s.Placed instanceId storeId ∧ s.Granted roleId instanceId := by
  constructor
  · rintro ⟨r, hr, hid, hloc, hact, hg⟩
    exact ⟨⟨r, hr, hid, hloc, hact⟩, ⟨r, hr, hid, hg⟩⟩
  · rintro ⟨⟨r, hr, hid, hloc, hact⟩, ⟨r', hr', hid', hg⟩⟩
    have hsame : r' = r := by
      have h := (s.instances.mem_rows_iff r).mp hr
      have h' := (s.instances.mem_rows_iff r').mp hr'
      rw [hid] at h
      rw [hid', h] at h'
      exact (Option.some.inj h').symm
    rw [hsame] at hg
    exact ⟨r, hr, hid, hloc, hact, hg⟩

theorem mem_instanceDtos (wanted : InstanceRow → Bool) :
    (∃ d ∈ s.instanceDtos userId wanted, d.instanceId = instanceId) ↔
      ∃ r ∈ s.instances.rows, r.id = instanceId ∧ wanted r = true := by
  unfold instanceDtos
  constructor
  · rintro ⟨d, hd, hid⟩
    obtain ⟨p, hp, rfl⟩ := List.mem_map.mp hd
    rw [KeysetPage.mem_ordered, List.mem_filterMap] at hp
    obtain ⟨r, hr, hjoin⟩ := hp
    obtain ⟨t, _, rfl⟩ := Option.map_eq_some_iff.mp hjoin
    obtain ⟨hmem, hwanted⟩ := List.mem_filter.mp hr
    exact ⟨r, hmem, hid, hwanted⟩
  · rintro ⟨r, hmem, hid, hwanted⟩
    obtain ⟨t, ht⟩ := Option.isSome_iff_exists.mp (s.typed r hmem)
    have hjoin : s.joinType r = some (t, r) := by
      unfold joinType
      rw [ht]; rfl
    refine ⟨s.mapInstanceDto userId r, List.mem_map.mpr ⟨(t, r), ?_, rfl⟩, hid⟩
    rw [KeysetPage.mem_ordered, List.mem_filterMap]
    exact ⟨r, List.mem_filter.mpr ⟨hmem, hwanted⟩, hjoin⟩

theorem listStoreInstances_iff (userId instanceId storeId : String) :
    (∃ d ∈ s.listStoreInstances storeId (some userId), d.instanceId = instanceId) ↔
      s.Placed instanceId storeId := by
  unfold listStoreInstances
  rw [mem_instanceDtos]
  simp [Placed]

theorem listInstancesByIds_iff (ids : List String) (userId instanceId storeId : String) :
    (∃ d ∈ s.listInstancesByIds ids storeId userId, d.instanceId = instanceId) ↔
      instanceId ∈ ids ∧ s.Placed instanceId storeId := by
  unfold listInstancesByIds
  rw [mem_instanceDtos]
  constructor
  · rintro ⟨r, hr, rfl, hwanted⟩
    simp at hwanted
    exact ⟨hwanted.1.1, r, hr, rfl, hwanted.1.2, hwanted.2⟩
  · rintro ⟨hmem, r, hr, rfl, hloc, hact⟩
    exact ⟨r, hr, rfl, by simp [hmem, hloc, hact]⟩

theorem listStoreInstancesByRole_iff :
    (∃ d ∈ s.listStoreInstancesByRole roleId storeId (some userId), d.instanceId = instanceId) ↔
      s.Placed instanceId storeId ∧ s.Granted roleId instanceId := by
  unfold listStoreInstancesByRole
  rw [mem_instanceDtos, ← placed_and_granted_iff]
  constructor
  · rintro ⟨r, hr, hid, hwanted⟩
    simp at hwanted
    exact ⟨r, hr, hid, hwanted.1.1, hwanted.2, hwanted.1.2⟩
  · rintro ⟨r, hr, hid, hloc, hact, hg⟩
    exact ⟨r, hr, hid, by simp [hloc, hact, hg]⟩

theorem listForStaff_iff :
    (∃ d ∈ s.listForStaff roleId (some userId) storeId, d.instanceId = instanceId) ↔
      s.Placed instanceId storeId ∧
        (s.HasList userId ∧ s.Assigned userId instanceId ∨
          ¬ s.HasList userId ∧ s.Granted roleId instanceId) := by
  simp only [listForStaff]
  by_cases hlist : s.HasList userId
  · have hne : ¬ (s.getUserWorkspaceInstanceIds userId).isEmpty = true := by
      rw [isEmpty_getUserWorkspaceInstanceIds]
      exact fun h => h hlist
    rw [if_neg hne, listInstancesByIds_iff, mem_getUserWorkspaceInstanceIds]
    simp [hlist, and_comm]
  · rw [if_pos ((s.isEmpty_getUserWorkspaceInstanceIds userId).mpr hlist),
      listStoreInstancesByRole_iff]
    simp [hlist]

theorem listed_iff :
    s.Listed roleId userId instanceId storeId ↔
      s.storeAccessible userId storeId = true ∧ s.Placed instanceId storeId ∧
        (roleId ∈ bypassRoles ∨ s.HasList userId ∧ s.Assigned userId instanceId ∨
          ¬ s.HasList userId ∧ s.Granted roleId instanceId) := by
  unfold Listed listWorkspaces
  cases hopen : s.storeAccessible userId storeId with
  | false => simp [hopen]
  | true =>
    by_cases hbypass : roleId ∈ bypassRoles
    · simp only [hopen, Option.any_some, Bool.not_true, Bool.false_eq_true, if_false,
        List.contains_iff_mem, if_pos hbypass, listStoreInstances_iff]
      simp [hbypass]
    · simp only [hopen, Option.any_some, Bool.not_true, Bool.false_eq_true, if_false,
        List.contains_iff_mem, if_neg hbypass, listForStaff_iff]
      simp [hbypass]

theorem boundIdentity_iff (roleId userId : String) :
    s.boundIdentity roleId userId = true ↔
      ∃ user, s.users.find? userId = some user ∧ user.isActive = true ∧ user.roleId = roleId := by
  unfold boundIdentity
  cases h : s.users.find? userId with
  | none => simp
  | some user => simp

theorem verifyInstanceAccess_iff :
    s.verifyInstanceAccess roleId userId instanceId storeId = true ↔
      s.boundIdentity roleId userId = true ∧ s.storeAccessible userId storeId = true ∧
        (roleId ∈ bypassRoles ∧ s.Placed instanceId storeId ∨
          roleId ∉ bypassRoles ∧ (s.Assigned userId instanceId ∨
            s.Placed instanceId storeId ∧ s.Granted roleId instanceId)) := by
  rw [← placed_and_granted_iff]
  unfold verifyInstanceAccess
  cases hid : s.boundIdentity roleId userId with
  | false => simp
  | true =>
    cases hopen : s.storeAccessible userId storeId with
    | false => simp
    | true =>
      by_cases hbypass : roleId ∈ bypassRoles
      · simp [hbypass, Placed, and_assoc]
      · by_cases hassigned : s.Assigned userId instanceId
        · have hsome := hassigned
          unfold Assigned at hsome
          simp [hbypass, hassigned, hsome]
        · have hnone := hassigned
          unfold Assigned at hnone
          simp [hbypass, hassigned, hnone, and_assoc]

/-- For a role without bypass: an assigned instance is an active one of the store, and a user
with a list of their own has no grant for an active instance of the store off that list. -/
def ListDecides : Prop :=
  (s.Assigned userId instanceId → s.Placed instanceId storeId) ∧
    (s.HasList userId → s.Placed instanceId storeId → s.Granted roleId instanceId →
      s.Assigned userId instanceId)

end AccessStore

/-- The guard opens exactly what the menu shows, if and only if, where the user reaches the
store with a role without bypass, their list decides. -/
theorem accessAgrees_iff (s : AccessStore) (roleId userId instanceId storeId : String) :
    (s.verifyInstanceAccess roleId userId instanceId storeId = true ↔
      (∃ user, s.users.find? userId = some user ∧ user.isActive = true ∧ user.roleId = roleId) ∧
        ∃ d ∈ s.listWorkspaces roleId (some userId) storeId, d.instanceId = instanceId) ↔
      (s.boundIdentity roleId userId = true → s.storeAccessible userId storeId = true →
        roleId ∉ bypassRoles → s.ListDecides roleId userId instanceId storeId) := by
  rw [← s.boundIdentity_iff, s.verifyInstanceAccess_iff]
  change (_ ↔ _ ∧ s.Listed roleId userId instanceId storeId) ↔ _
  rw [s.listed_iff]
  have hlist : s.Assigned userId instanceId → s.HasList userId := AccessStore.Assigned.hasList
  unfold AccessStore.ListDecides
  by_cases hbypass : roleId ∈ bypassRoles
  · simp [hbypass]
  · simp only [hbypass, false_and, false_or, not_false_eq_true, true_and, forall_true_left]
    by_cases hassigned : s.Assigned userId instanceId
    · simp only [hassigned, hlist hassigned, true_or, not_true_eq_false, false_and, or_false,
        and_true, forall_true_left, implies_true]
      tauto
    · simp only [hassigned, false_or, and_false, false_implies, true_and]
      tauto

def awayAssigned : AccessStore where
  users := ⟨[⟨"u-1", "role-cashier", true, false⟩], by decide⟩
  locationAccess := ⟨[], by decide⟩
  assignments := ⟨[⟨"u-1", "inst-1", true⟩], by decide⟩
  grants := ⟨[], by decide⟩
  types := ⟨[⟨"store-pos", 1⟩], by decide⟩
  instances := ⟨[⟨"inst-1", "store-pos", "store-a", "general", "Till", "active"⟩], by decide⟩
  typed := by decide
  assigned := by decide

theorem awayAssigned_opens :
    awayAssigned.verifyInstanceAccess "role-cashier" "u-1" "inst-1" "store-b" = true ∧
      awayAssigned.listWorkspaces "role-cashier" (some "u-1") "store-b" = [] ∧
      ¬ (awayAssigned.verifyInstanceAccess "role-cashier" "u-1" "inst-1" "store-b" = true ↔
        (∃ user, awayAssigned.users.find? "u-1" = some user ∧ user.isActive = true ∧
          user.roleId = "role-cashier") ∧
        ∃ d ∈ awayAssigned.listWorkspaces "role-cashier" (some "u-1") "store-b",
          d.instanceId = "inst-1") := by
  have hopens : awayAssigned.verifyInstanceAccess "role-cashier" "u-1" "inst-1" "store-b" = true := by
    decide
  have hmenu : awayAssigned.listWorkspaces "role-cashier" (some "u-1") "store-b" = [] := by decide
  refine ⟨hopens, hmenu, ?_⟩
  rw [hmenu]
  intro h
  obtain ⟨_, d, hd, _⟩ := h.mp hopens
  simp at hd

end OzPos
