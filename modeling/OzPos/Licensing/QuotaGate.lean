import OzPos.Access.InstanceAccess
import OzPos.Library.Sessions
import OzPos.Licensing.Instances

namespace OzPos

structure CatalogProduct where
  (id sku : String)

structure QuotaStore where
  users : Table String StaffUser StaffUser.id
  products : Table String CatalogProduct CatalogProduct.id
  instances : InstanceTable

/-- The dimensions that the gate of a single creation is asked for. -/
inductive QuotaDimension where
  | staff
  | products
  deriving DecidableEq

/-- `is_active = 1 AND role_id != OWNER`. -/
def StaffUser.isStaff (u : StaffUser) : Bool := u.isActive && u.roleId != ownerRole

namespace QuotaStore

def countStaffUsers (s : QuotaStore) : Int := s.users.count StaffUser.isStaff

def countProducts (s : QuotaStore) : Int := s.products.rows.length

end QuotaStore

namespace QuotaDimension

def limitFor : QuotaDimension → SubscriptionTier → Option Int
  | staff, tier => tier.maxStaffUsers
  | products, tier => tier.maxProducts

def quotaCount : QuotaDimension → QuotaStore → Int
  | staff, s => s.countStaffUsers
  | products, s => s.countProducts

def quotaLimitError : QuotaDimension → SubscriptionTier → Int → Int → QuotaError
  | staff, tier, limit, current => .staffLimit tier.name limit current
  | products, tier, limit, current => .productLimit tier.name limit current

end QuotaDimension

abbrev ArmedQuota : Type := Option (QuotaDimension × SubscriptionTier)

def takeArmedQuota (armed : ArmedQuota) (dimension : QuotaDimension) : Option SubscriptionTier :=
  match armed with
  | none => none
  | some (armedDim, tier) => if armedDim = dimension then some tier else none

variable (dimension : QuotaDimension) (tier : SubscriptionTier)

def ensureQuotaAllows (additional : Int) (s : QuotaStore) : Except DoorError ArmedQuota :=
  match dimension.limitFor tier with
  | none => .ok (some (dimension, tier))
  | some limit =>
    let current := dimension.quotaCount s
    if limit < current + additional then
      .error (dimension.quotaLimitError tier limit current).toDoor
    else .ok (some (dimension, tier))

def enforceCreationQuota (s : QuotaStore) : Except DoorError ArmedQuota :=
  ensureQuotaAllows dimension tier 1 s

def recheck (armed : ArmedQuota) (dimension : QuotaDimension) (s : QuotaStore) :
    Except DoorError QuotaStore :=
  match takeArmedQuota armed dimension with
  | none => .ok s
  | some tier =>
    match dimension.limitFor tier with
    | none => .ok s
    | some limit =>
      let current := dimension.quotaCount s
      if limit < current then
        .error (dimension.quotaLimitError tier limit (current - 1)).toDoor
      else .ok s

/-- What a write draws: a minted id, the clock, and the failures of the steps before and after
the second count that the model leaves out. -/
structure QuotaDraw where
  (newId now : String)
  (early late : Option DoorError)

def failWith (failure : Option DoorError) (s : QuotaStore) : Except DoorError QuotaStore :=
  match failure with
  | none => .ok s
  | some e => .error e

def createUserWithProfile (roleId : String) (armed : ArmedQuota) (draw : QuotaDraw)
    (s : QuotaStore) : Except DoorError QuotaStore := do
  let s ← failWith draw.early s
  match s.users.insert? ⟨draw.newId, roleId, true, false⟩ with
  | none => .error (.core (.conflict "user" "username"))
  | some users =>
    let s ← recheck armed .staff { s with users := users }
    failWith draw.late s

def createProductWithAttributes (sku : String) (armed : ArmedQuota) (draw : QuotaDraw)
    (s : QuotaStore) : Except DoorError QuotaStore := do
  let s ← failWith draw.early s
  if s.products.rows.any (fun p => p.sku = trim sku) then
    .error (.core (.conflict "product" "sku or barcode"))
  else
    match s.products.insert? ⟨draw.newId, trim sku⟩ with
    | none => .error (.core (.conflict "product" "sku or barcode"))
    | some products =>
      let s ← recheck armed .products { s with products := products }
      failWith draw.late s

structure UpdateStaffArgs where
  (id roleId : String)
  isActive : Bool

/-- `WHERE id = ?1 AND deleted_at IS NULL`. -/
def QuotaStore.liveUser? (s : QuotaStore) (id : String) : Option StaffUser :=
  (s.users.find? id).filter (fun u => !u.deleted)

namespace UpdateStaffArgs

variable (args : UpdateStaffArgs)

def apply (u : StaffUser) : StaffUser :=
  if u.deleted then u else { u with roleId := args.roleId, isActive := args.isActive }

theorem id_apply (u : StaffUser) : (args.apply u).id = u.id := by
  unfold apply
  split <;> rfl

def update (s : QuotaStore) : QuotaStore :=
  { s with users := s.users.update args.id args.apply args.id_apply }

def reactivating (s : QuotaStore) : Bool :=
  args.isActive && (s.liveUser? args.id).any (fun u => !u.isActive)

def armReactivation (tier : SubscriptionTier) (s : QuotaStore) : Except DoorError ArmedQuota :=
  if args.reactivating s then enforceCreationQuota .staff tier s else .ok none

/-- `update_staff_scoped`: the gate, the write and the second count in one transaction. -/
def updateStaffScoped (tier : SubscriptionTier) (draw : QuotaDraw) (s : QuotaStore) :
    Except DoorError QuotaStore := do
  let s ← failWith draw.early s
  let armed ← args.armReactivation tier s
  match s.liveUser? args.id with
  | none => .error (.core (.notFound "user" args.id))
  | some _ =>
    let s ← recheck armed .staff (args.update s)
    failWith draw.late s

end UpdateStaffArgs

structure WorkspaceCreation where
  (id typeKey storeId name : String)
  purposeKey : Option String

/-- What an Apply asks of the workspaces of its branch; `warehouseNodes` are those of the
diagram it comes with. -/
structure TopologyDiff where
  storeId : String
  warehouseNodes : Nat
  creations : List WorkspaceCreation
  (updates archives : List String)

def WorkspaceCreation.purpose (c : WorkspaceCreation) : String := c.purposeKey.getD "general"

def WorkspaceCreation.row (now : String) (c : WorkspaceCreation) : WorkspaceInstance :=
  ⟨c.id, c.typeKey, c.storeId, c.name, c.purpose, .active, some now⟩

namespace TopologyDiff

variable (diff : TopologyDiff)

def validateStore : List WorkspaceCreation → Except DoorError Unit
  | [] => .ok ()
  | c :: rest =>
    if c.storeId ≠ diff.storeId then
      .error (.topologyValidation "workspace-store-mismatch"
        ("workspace " ++ c.id ++ " must be compiled to Branch Location " ++ diff.storeId))
    else validateStore rest

variable (tier : SubscriptionTier)

def validateWarehouseQuota : Except DoorError Unit :=
  match tier.maxWarehouses with
  | none => .ok ()
  | some limit =>
    if limit < diff.warehouseNodes then
      .error (.permissionDenied ("topology warehouse quota exceeded: limit " ++ toString limit))
    else .ok ()

def validateCreations (tier : SubscriptionTier) : List WorkspaceCreation → Except DoorError Unit
  | [] => .ok ()
  | c :: rest =>
    if trim c.id = "" || trim c.typeKey = "" || trim c.storeId = "" || trim c.name = "" then
      .error (.invalid "workspace creation requires non-empty id, type_key, store_id, and name")
    else if c.storeId ≠ diff.storeId then
      .error (.permissionDenied ("workspace '" ++ c.id ++ "' store_id '" ++ c.storeId ++
        "' does not match topology branch store '" ++ diff.storeId ++ "'"))
    else if !tier.allowsWorkspaceType c.typeKey then
      .error (.permissionDenied ("subscription tier does not allow workspace type " ++ c.typeKey))
    else if trim c.purpose = "" then .error (.invalid "workspace purpose_key must not be empty")
    else validateCreations tier rest

variable (t : InstanceTable)

def validateOwners (t : InstanceTable) (missing foreign : String) :
    List String → Except DoorError Unit
  | [] => .ok ()
  | id :: rest =>
    match t.find? id with
    | none =>
      .error (.permissionDenied ("workspace '" ++ id ++ "' not found in store '" ++ diff.storeId ++
        "'" ++ missing))
    | some r =>
      if r.storeId ≠ diff.storeId then
        .error (.permissionDenied ("workspace '" ++ id ++ "' is in store '" ++ r.storeId ++
          "' but topology targets store '" ++ diff.storeId ++ "'" ++ foreign))
      else validateOwners t missing foreign rest

/-- The archived ids, each once, whose instance is active: of whatever type. -/
def archivedActive : Int :=
  (diff.archives.dedup.filter (fun id => (t.find? id).any (fun r => r.status = .active))).length

def projected : Int :=
  countActivePosInstances t diff.storeId - diff.archivedActive t + diff.creations.length

/-- The register budget of an Apply, asked of every creation in it. -/
def checkQuota : Except DoorError Unit :=
  if diff.creations.isEmpty then .ok ()
  else
    match tier.maxPosInstances with
    | none => .ok ()
    | some limit =>
      if limit < diff.projected t then
        .error (.permissionDenied ("workspace instance quota exceeded: limit " ++ toString limit ++
          ", current " ++ toString (countActivePosInstances t diff.storeId) ++ ", archived " ++
          toString (diff.archivedActive t) ++ ", requested " ++ toString diff.creations.length ++
          ", projected " ++ toString (diff.projected t)))
      else .ok ()

/-- All that `apply_topology_diff` checks before its transaction. -/
def gate : Except DoorError Unit := do
  diff.validateStore diff.creations
  diff.validateWarehouseQuota tier
  diff.validateCreations tier diff.creations
  diff.validateOwners t " — it may have been created in a different store" "" diff.updates
  diff.validateOwners t " for archive" " for archive" diff.archives
  diff.checkQuota tier t

end TopologyDiff

def insertCreations (now : String) : List WorkspaceCreation → InstanceTable →
    Except DoorError InstanceTable
  | [], t => .ok t
  | c :: rest, t =>
    match t.insert? (c.row now) with
    | none => .error (.internal ("workspace instance already exists: " ++ c.id))
    | some t => insertCreations now rest t

def archiveAll : List String → InstanceTable → Except DoorError InstanceTable
  | [], t => .ok t
  | id :: rest, t => (archiveInstance id t).bind (archiveAll rest)

/-- The transaction of `apply_topology_diff`. -/
def applyTopologyDiff (diff : TopologyDiff) (draw : QuotaDraw) (s : QuotaStore) :
    Except DoorError QuotaStore := do
  let s ← failWith draw.early s
  let t ← insertCreations draw.now diff.creations s.instances
  let t ← archiveAll diff.archives t
  failWith draw.late { s with instances := t }

def createInstance (args : CreateWorkspaceInstanceArgs) (draw : QuotaDraw) (s : QuotaStore) :
    Except DoorError QuotaStore := do
  let s ← failWith draw.early s
  let t ← createWorkspaceInstanceWithPurpose args draw.now s.instances
  failWith draw.late { s with instances := t }

inductive QuotaCall where
  | createStaff (roleId : String)
  | updateStaff (args : UpdateStaffArgs)
  | createProduct (sku : String)
  | createInstance (args : CreateWorkspaceInstanceArgs)
  | applyTopology (diff : TopologyDiff)

/-- What a call goes into its write with: its arguments, and what its gate has armed. -/
inductive QuotaView where
  | createStaff (roleId : String) (armed : ArmedQuota)
  | updateStaff (args : UpdateStaffArgs)
  | createProduct (sku : String) (armed : ArmedQuota)
  | createInstance (args : CreateWorkspaceInstanceArgs)
  | applyTopology (diff : TopologyDiff)

def QuotaCall.gate (plan : Plan) (s : QuotaStore) : QuotaCall → Except DoorError QuotaView
  | .createStaff roleId =>
    (enforceCreationQuota .staff plan.tier s).map (QuotaView.createStaff roleId)
  -- Its gate stands inside the transaction of the write.
  | .updateStaff args => .ok (.updateStaff args)
  | .createProduct sku =>
    (enforceCreationQuota .products plan.tier s).map (QuotaView.createProduct sku)
  | .createInstance args =>
    (enforceInstanceQuota plan args.typeKey args.storeId s.instances).map
      (fun _ => .createInstance args)
  | .applyTopology diff => (diff.gate plan.tier s.instances).map (fun _ => .applyTopology diff)

def QuotaView.write (plan : Plan) (draw : QuotaDraw) (s : QuotaStore) :
    QuotaView → Except DoorError QuotaStore
  | .createStaff roleId armed => createUserWithProfile roleId armed draw s
  | .updateStaff args => args.updateStaffScoped plan.tier draw s
  | .createProduct sku armed => createProductWithAttributes sku armed draw s
  | .createInstance args => OzPos.createInstance args draw s
  | .applyTopology diff => applyTopologyDiff diff draw s

def quotaDoors (plan : Plan) :
    Calls QuotaStore QuotaCall QuotaView QuotaDraw (Except DoorError Unit) where
  read call s :=
    match call.gate plan s with
    | .error e => .inl (.error e)
    | .ok view => .inr view
  write draw view s :=
    match view.write plan draw s with
    | .error e => (s, .error e)
    | .ok t => (t, .ok ())

end OzPos
