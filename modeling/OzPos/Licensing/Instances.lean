import OzPos.Library.Counting
import OzPos.Library.Outcome
import OzPos.Licensing.Subscription
import OzPos.Library.Keyset
import OzPos.Library.Run
import Mathlib.Order.WithBot

namespace OzPos

inductive InstanceStatus where
  | active
  | quotaSuspended
  | archived
  deriving DecidableEq

/-- A row of `workspace_instances`; `storeId` is its `location_id`. -/
structure WorkspaceInstance where
  (id typeKey storeId name purposeKey : String)
  status : InstanceStatus
  lastAccessedAt : Option String
  deriving DecidableEq

abbrev InstanceTable : Type := Table String WorkspaceInstance WorkspaceInstance.id

inductive QuotaError where
  | registerLimit (tier : String) (limit current : Int)
  | typeNotAllowed (tier typeKey : String)
  | staffLimit (tier : String) (limit current : Int)
  | warehouseLimit (tier : String) (limit current : Int)
  | productLimit (tier : String) (limit current : Int)
  | kdsScreenLimit (tier : String) (limit current : Int)

/-- The errors of the doors: a store's own, those of the subscription, those of a command. -/
inductive DoorError where
  | core (e : CoreError)
  | subscriptionLimitExceeded (message : String)
  | permissionDenied (message : String)
  | invalid (message : String)
  | internal (message : String)
  | topologyValidation (code message : String)
  deriving DecidableEq

namespace QuotaError

def limitText (tier : String) (limit current : Int) (what has : String) : String :=
  "Your " ++ tier ++ " tier allows maximum " ++ toString limit ++ what ++ has ++ toString current ++
    ". Upgrade to add more."

def display : QuotaError → String
  | registerLimit tier limit current =>
    limitText tier limit current " registers per store. " "This store already has "
  | typeNotAllowed tier typeKey =>
    "The '" ++ typeKey ++ "' workspace type requires a higher tier. Your current tier is " ++ tier ++
      "."
  | staffLimit tier limit current =>
    limitText tier limit current " staff users. " "You currently have "
  | warehouseLimit tier limit current =>
    limitText tier limit current " warehouse locations. " "You currently have "
  | productLimit tier limit current =>
    limitText tier limit current " products. " "You currently have "
  | kdsScreenLimit tier limit current =>
    limitText tier limit current " KDS screens. " "You currently have "

def toDoor (e : QuotaError) : DoorError := .subscriptionLimitExceeded e.display

end QuotaError

/-- What a check of a subscription knows of it: the effective tier and the types that its
signed payload allows. -/
structure Plan where
  tier : SubscriptionTier
  allows : String → Bool

variable (status : InstanceStatus)

/-- `status NOT IN ('archived', 'quota_suspended')`. -/
def InstanceStatus.counts : Bool :=
  status != .archived && status != .quotaSuspended

@[simp] theorem InstanceStatus.counts_active : InstanceStatus.active.counts = true := rfl

@[simp] theorem InstanceStatus.counts_quotaSuspended :
    InstanceStatus.quotaSuspended.counts = false := rfl

@[simp] theorem InstanceStatus.counts_archived : InstanceStatus.archived.counts = false := rfl

theorem InstanceStatus.counts_iff : status.counts = true ↔ status = .active := by
  cases status with
  | active => simp
  | quotaSuspended => simp
  | archived => simp

def countedAt (ofType : String → Bool) (storeId : String) (r : WorkspaceInstance) : Bool :=
  r.storeId = storeId && ofType r.typeKey && r.status.counts

variable {storeId : String} {r : WorkspaceInstance}

theorem countedAt_iff {ofType : String → Bool} :
    countedAt ofType storeId r = true ↔
      r.storeId = storeId ∧ ofType r.typeKey = true ∧ r.status = .active := by
  simp [countedAt, InstanceStatus.counts_iff, and_assoc]

variable (t : InstanceTable)

def countActivePosInstances (storeId : String) : Int :=
  t.count (countedAt isPosType storeId)

def isWarehouseType (typeKey : String) : Bool := typeKey = warehouseType

def isKdsType (typeKey : String) : Bool := typeKey = kdsType

def countActiveWarehouseInstances (storeId : String) : Int :=
  t.count (countedAt isWarehouseType storeId)

def countActiveKdsInstances (storeId : String) : Int :=
  t.count (countedAt isKdsType storeId)

/-- `n` does not pass a cap; `none` is no cap. -/
def Within (cap : Option Int) (n : Int) : Prop := ∀ limit, cap = some limit → n ≤ limit

instance decidableWithin (n : Int) : (cap : Option Int) → Decidable (Within cap n)
  | none => isTrue (by intro limit h; cases h)
  | some limit =>
    decidable_of_iff (n ≤ limit) (by
      unfold Within
      simp)

theorem Within.mono {cap : Option Int} {n m : Int} (h : Within cap n) (hle : m ≤ n) :
    Within cap m := by
  intro limit hcap
  have hn := h limit hcap
  omega

/-- `if let Some(limit) = limit && current >= limit`. -/
def refuseAt (limit : Option Int) (current : Int) (error : Int → Int → QuotaError) :
    Except DoorError Unit :=
  match limit with
  | none => .ok ()
  | some limit => if limit ≤ current then .error (error limit current).toDoor else .ok ()

variable (plan : Plan)

def Plan.payloadWidened : Bool :=
  !plan.tier.allowsWorkspaceType kdsType && plan.allows kdsType

def Plan.kdsCap : Option Int :=
  plan.tier.maxKdsScreens.map (fun limit => if plan.payloadWidened then 2 else limit)

def enforceInstanceQuota (typeKey storeId : String) (t : InstanceTable) : Except DoorError Unit :=
  if !plan.allows typeKey then
    .error (QuotaError.typeNotAllowed plan.tier.name typeKey).toDoor
  else if isPosType typeKey then
    refuseAt plan.tier.maxPosInstances (countActivePosInstances t storeId)
      (.registerLimit plan.tier.name)
  else if isWarehouseType typeKey then
    refuseAt plan.tier.maxWarehouses (countActiveWarehouseInstances t storeId)
      (.warehouseLimit plan.tier.name)
  else if isKdsType typeKey then
    refuseAt plan.kdsCap (countActiveKdsInstances t storeId) (.kdsScreenLimit plan.tier.name)
  else .ok ()

structure CreateWorkspaceInstanceArgs where
  (id typeKey storeId name purposeKey : String)

namespace CreateWorkspaceInstanceArgs

variable (args : CreateWorkspaceInstanceArgs)

def blank? (field message value : String) : Except DoorError Unit :=
  if trim value = "" then .error (.core (.validation field message)) else .ok ()

def validate : Except DoorError Unit := do
  blank? "id" "workspace instance id must not be empty" args.id
  blank? "type_key" "type_key must not be empty" args.typeKey
  blank? "store_id" "store_id must not be empty" args.storeId
  blank? "name" "workspace instance name must not be empty" args.name
  blank? "purpose_key" "workspace instance purpose_key must not be empty" args.purposeKey

def row (now : String) : WorkspaceInstance :=
  ⟨args.id, args.typeKey, args.storeId, args.name, args.purposeKey, .active, some now⟩

end CreateWorkspaceInstanceArgs

def createWorkspaceInstanceWithPurpose (args : CreateWorkspaceInstanceArgs) (now : String)
    (t : InstanceTable) : Except DoorError InstanceTable := do
  args.validate
  match t.insert? (args.row now) with
  | none => .error (.core (.conflict "workspace instance" "id"))
  | some t => .ok t

def WorkspaceInstance.archived (r : WorkspaceInstance) : WorkspaceInstance :=
  { r with status := .archived }

def archiveInstance (instanceId : String) (t : InstanceTable) : Except DoorError InstanceTable :=
  match t.find? instanceId with
  | none => .error (.core (.notFound "workspace instance" instanceId))
  | some _ => .ok (t.update instanceId WorkspaceInstance.archived (fun _ => rfl))

variable {t : InstanceTable}

theorem createWorkspaceInstance_ok_iff {args : CreateWorkspaceInstanceArgs} {now : String}
    {u : InstanceTable} :
    createWorkspaceInstanceWithPurpose args now t = .ok u ↔
      args.validate = .ok () ∧ t.insert? (args.row now) = some u := by
  have hbind : createWorkspaceInstanceWithPurpose args now t = args.validate.bind (fun _ =>
    match t.insert? (args.row now) with
    | none => .error (.core (.conflict "workspace instance" "id"))
    | some t => .ok t) := rfl
  rw [hbind, Except.bind_ok_iff]
  cases t.insert? (args.row now) with
  | none => simp
  | some v =>
    constructor
    · rintro ⟨_, hvalid, h⟩
      exact ⟨hvalid, congrArg some (Except.ok.inj h)⟩
    · rintro ⟨hvalid, h⟩
      exact ⟨(), hvalid, congrArg Except.ok (Option.some.inj h)⟩

theorem archiveInstance_ok_iff {instanceId : String} {u : InstanceTable} :
    archiveInstance instanceId t = .ok u ↔
      (t.find? instanceId).isSome ∧
        u = t.update instanceId WorkspaceInstance.archived (fun _ => rfl) := by
  unfold archiveInstance
  cases t.find? instanceId with
  | none => simp
  | some r => simp [eq_comm]

namespace WorkspaceInstance

/-- `last_accessed_at` in the order of the column: `NULL` comes first. -/
def accessed (r : WorkspaceInstance) : WithBot String := r.lastAccessedAt

def setStatus (status : InstanceStatus) (r : WorkspaceInstance) : WorkspaceInstance :=
  { r with status := status }

theorem id_setStatus (status : InstanceStatus) (r : WorkspaceInstance) :
    (r.setStatus status).id = r.id := rfl

def touched (now : String) (r : WorkspaceInstance) : WorkspaceInstance :=
  { r with lastAccessedAt := some now }

end WorkspaceInstance

/-- `location_id = ?1 AND status = 'active'`. -/
def activeAt (storeId : String) (r : WorkspaceInstance) : Bool :=
  r.storeId = storeId && r.status = .active

def suspendedAt (storeId : String) (r : WorkspaceInstance) : Bool :=
  r.storeId = storeId && r.status = .quotaSuspended

/-- `ORDER BY last_accessed_at ASC`, of a store's active instances. -/
def leastRecentActive (storeId : String) (t : InstanceTable) : List WorkspaceInstance :=
  KeysetPage.ordered WorkspaceInstance.accessed (t.rows.filter (activeAt storeId))

/-- `ORDER BY last_accessed_at DESC`, of its suspended ones. -/
def mostRecentSuspended (storeId : String) (t : InstanceTable) : List WorkspaceInstance :=
  KeysetPage.ordered (fun r => OrderDual.toDual r.accessed) (t.rows.filter (suspendedAt storeId))

/-- `UPDATE … SET status = … WHERE id IN (…)`. -/
def setStatusOf (chosen : List WorkspaceInstance) (status : InstanceStatus) (t : InstanceTable) :
    InstanceTable :=
  t.updateWhere (fun r => (chosen.map WorkspaceInstance.id).contains r.id)
    (WorkspaceInstance.setStatus status) (WorkspaceInstance.id_setStatus status)

def suspendSurplusInstances (storeId : String) (tier : SubscriptionTier) (t : InstanceTable) :
    InstanceTable × Nat :=
  match tier.maxPosInstances with
  | none => (t, 0)
  | some limit =>
    let surplus := max (t.count (activeAt storeId) - limit) 0
    if surplus = 0 then (t, 0)
    else
      let chosen := (leastRecentActive storeId t).take surplus.toNat
      (setStatusOf chosen .quotaSuspended t, chosen.length)

def autoRecoverInstances (storeId : String) (tier : SubscriptionTier) (t : InstanceTable) :
    InstanceTable × Nat :=
  match tier.maxPosInstances with
  | none =>
    (t.updateWhere (suspendedAt storeId) (WorkspaceInstance.setStatus .active) (fun _ => rfl),
      (t.rows.filter (suspendedAt storeId)).length)
  | some limit =>
    let slotsAvailable := max (limit - t.count (activeAt storeId)) 0
    if slotsAvailable = 0 then (t, 0)
    else
      let chosen := (mostRecentSuspended storeId t).take slotsAvailable.toNat
      (setStatusOf chosen .active t, chosen.length)

def touchInstanceAccess (instanceId now : String) (t : InstanceTable) : InstanceTable :=
  t.update instanceId (WorkspaceInstance.touched now) (fun _ => rfl)

inductive InstanceEvent where
  | create (plan : Plan) (args : CreateWorkspaceInstanceArgs) (now : String)
  | archive (id : String)
  | touch (id now : String)
  | suspend (storeId : String) (tier : SubscriptionTier)
  | recover (storeId : String) (tier : SubscriptionTier)

def createGated (plan : Plan) (args : CreateWorkspaceInstanceArgs) (now : String)
    (t : InstanceTable) : Except DoorError InstanceTable := do
  enforceInstanceQuota plan args.typeKey args.storeId t
  createWorkspaceInstanceWithPurpose args now t

def instanceMachine : Machine InstanceTable InstanceEvent (Except DoorError (Option Nat)) where
  step t
    | .create plan args now =>
      match createGated plan args now t with
      | .error e => (t, .error e)
      | .ok u => (u, .ok none)
    | .archive id =>
      match archiveInstance id t with
      | .error e => (t, .error e)
      | .ok u => (u, .ok none)
    | .touch id now => (touchInstanceAccess id now t, .ok none)
    | .suspend storeId tier =>
      let done := suspendSurplusInstances storeId tier t
      (done.1, .ok (some done.2))
    | .recover storeId tier =>
      let done := autoRecoverInstances storeId tier t
      (done.1, .ok (some done.2))

theorem activeAt_iff : activeAt storeId r = true ↔ r.storeId = storeId ∧ r.status = .active := by
  simp [activeAt]

theorem suspendedAt_iff :
    suspendedAt storeId r = true ↔ r.storeId = storeId ∧ r.status = .quotaSuspended := by
  simp [suspendedAt]

theorem countedAt_eq (ofType : String → Bool) (storeId : String) (r : WorkspaceInstance) :
    countedAt ofType storeId r = (activeAt storeId r && ofType r.typeKey) := by
  rw [Bool.eq_iff_iff, countedAt_iff, Bool.and_eq_true, activeAt_iff]
  constructor
  · rintro ⟨hstore, htype, hactive⟩
    exact ⟨⟨hstore, hactive⟩, htype⟩
  · rintro ⟨⟨hstore, hactive⟩, htype⟩
    exact ⟨hstore, htype, hactive⟩

theorem maxPosInstances_nonneg {tier : SubscriptionTier} {limit : Int}
    (h : tier.maxPosInstances = some limit) : 0 ≤ limit := by
  cases tier <;> simp [SubscriptionTier.maxPosInstances] at h <;> omega

theorem registers_le_active (t : InstanceTable) (storeId : String) :
    countActivePosInstances t storeId ≤ t.count (activeAt storeId) := by
  apply Table.count_mono
  intro r hr hcounted
  rw [countedAt_eq] at hcounted
  exact (Bool.and_eq_true_iff.mp hcounted).1

theorem mem_leastRecentActive :
    r ∈ leastRecentActive storeId t ↔ r ∈ t.rows ∧ activeAt storeId r = true := by
  rw [leastRecentActive, KeysetPage.mem_ordered, List.mem_filter]

theorem mem_mostRecentSuspended :
    r ∈ mostRecentSuspended storeId t ↔ r ∈ t.rows ∧ suspendedAt storeId r = true := by
  rw [mostRecentSuspended, KeysetPage.mem_ordered, List.mem_filter]

theorem nodup_ordered {κ : Type} [LinearOrder κ] (key : WorkspaceInstance → κ)
    (p : WorkspaceInstance → Bool) (t : InstanceTable) :
    (KeysetPage.ordered key (t.rows.filter p)).Nodup :=
  (List.perm_insertionSort _ _).nodup_iff.mpr ((List.Nodup.of_map _ t.unique).filter _)

theorem length_leastRecentActive (storeId : String) (t : InstanceTable) :
    ((leastRecentActive storeId t).length : Int) = t.count (activeAt storeId) := by
  rw [leastRecentActive, KeysetPage.ordered, List.length_insertionSort, Table.count,
    List.countP_eq_length_filter]

def surplusActive (storeId : String) (tier : SubscriptionTier) (t : InstanceTable) :
    List WorkspaceInstance :=
  match tier.maxPosInstances with
  | none => []
  | some limit =>
    (leastRecentActive storeId t).take (max (t.count (activeAt storeId) - limit) 0).toNat

theorem setStatusOf_nil (status : InstanceStatus) (t : InstanceTable) :
    setStatusOf [] status t = t := by
  cases t
  simp [setStatusOf, Table.updateWhere]

theorem suspendSurplus_eq (storeId : String) (tier : SubscriptionTier) (t : InstanceTable) :
    (suspendSurplusInstances storeId tier t).1 =
      setStatusOf (surplusActive storeId tier t) .quotaSuspended t := by
  unfold suspendSurplusInstances surplusActive
  cases tier.maxPosInstances with
  | none => rw [setStatusOf_nil]
  | some limit =>
    by_cases h : max (t.count (activeAt storeId) - limit) 0 = 0
    · simp only [h, if_true]
      rw [Int.toNat_zero, List.take_zero, setStatusOf_nil]
    · simp only [h, if_false]

end OzPos
