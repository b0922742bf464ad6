import OzPos.Licensing.QuotaGate

namespace OzPos

/-- What is saved under a topology key: the revision that is read from it, and the rest of it. -/
structure SavedTopology where
  revision : Nat
  diagram : String
  deriving DecidableEq

structure WorkspaceApplySnapshot where
  (id name purposeKey : String)
  status : InstanceStatus
  deriving DecidableEq

structure WorkspaceUpdate where
  (id name : String)
  purposeKey : Option String

/-- The journal of an Apply, in the settings of the global database. -/
structure TopologyApplyRecovery where
  storeId : String
  topologyBranchId : Option String
  creations : List WorkspaceCreation
  snapshots : List WorkspaceApplySnapshot
  (previousTopology desiredTopology : Option SavedTopology)

/-- The two databases of an Apply: the instances of its store, and of the global database the
diagrams, by branch, with the one journal. -/
structure TopologyWorld where
  instances : InstanceTable
  topologies : Option String → Option SavedTopology
  journal : Option TopologyApplyRecovery

abbrev Halt : Type := Option DoorError

/-- What a caller sees of a call; nothing of one that crashed. -/
abbrev Answer (α : Type) : Type := Option (Except DoorError α)

def halted {α : Type} (halt : Halt) : Answer α := halt.map Except.error

inductive RecoveryStep where
  | compensate
  | restore
  | clear

abbrev Cut : Type := Option (RecoveryStep × Halt)

def ended (cut : Cut) : Answer Unit :=
  match cut with
  | none => some (.ok ())
  | some (_, halt) => halted halt

namespace WorkspaceInstance

def snapshot (r : WorkspaceInstance) : WorkspaceApplySnapshot :=
  ⟨r.id, r.name, r.purposeKey, r.status⟩

def renamed (name : String) (r : WorkspaceInstance) : WorkspaceInstance := { r with name := name }

def repurposed (purposeKey : String) (r : WorkspaceInstance) : WorkspaceInstance :=
  { r with purposeKey := purposeKey }

/-- `SET name = ?2, …, purpose_key = ?5, status = ?6`. -/
def restored (s : WorkspaceApplySnapshot) (r : WorkspaceInstance) : WorkspaceInstance :=
  { r with name := s.name, purposeKey := s.purposeKey, status := s.status }

end WorkspaceInstance

/-- `snapshot_workspace_rows`, of the ids in one order of its hash set. -/
def snapshotWorkspaceRows (t : InstanceTable) :
    List String → Except DoorError (List WorkspaceApplySnapshot)
  | [] => .ok []
  | id :: rest =>
    match t.find? id with
    | none => .error (.internal ("snapshot workspace " ++ id ++ ": Query returned no rows"))
    | some r => (snapshotWorkspaceRows t rest).map (r.snapshot :: ·)

def deleteCreations : List WorkspaceCreation → InstanceTable → InstanceTable
  | [], t => t
  | c :: rest, t => deleteCreations rest (t.retain (fun r => r.id ≠ c.id))

def restoreSnapshots : List WorkspaceApplySnapshot → InstanceTable → InstanceTable
  | [], t => t
  | s :: rest, t =>
    restoreSnapshots rest (t.update s.id (WorkspaceInstance.restored s) (fun _ => rfl))

namespace TopologyWorld

variable (branchId : Option String)

def setTopology (saved : Option SavedTopology) (w : TopologyWorld) : TopologyWorld :=
  { w with topologies := fun b => if b = branchId then saved else w.topologies b }

def cleared (w : TopologyWorld) : TopologyWorld := { w with journal := none }

def currentTopologyRevision (w : TopologyWorld) : Nat :=
  ((w.topologies branchId).map SavedTopology.revision).getD 0

end TopologyWorld

namespace TopologyApplyRecovery

variable (j : TopologyApplyRecovery)

variable (w : TopologyWorld)

def compensateWorkspaceDiff : TopologyWorld :=
  { w with instances := restoreSnapshots j.snapshots (deleteCreations j.creations w.instances) }

def restoreTopologySetting : TopologyWorld :=
  w.setTopology j.topologyBranchId j.previousTopology

/-- The compensation of the store, the diagram put back and the journal cleared, each in a
transaction of its own. -/
def compensate (cut : Cut) (w : TopologyWorld) : TopologyWorld :=
  match cut with
  | some (.compensate, _) => w
  | some (.restore, _) => j.compensateWorkspaceDiff w
  | some (.clear, _) => j.restoreTopologySetting (j.compensateWorkspaceDiff w)
  | none => (j.restoreTopologySetting (j.compensateWorkspaceDiff w)).cleared

/-- The diagram of the Apply stands: it crashed after the global commit. -/
def finished : Bool :=
  j.desiredTopology.isSome && w.topologies j.topologyBranchId = j.desiredTopology

end TopologyApplyRecovery

def recoverPendingTopologyApply (expectedStoreId : String) (cut : Cut) (w : TopologyWorld) :
    TopologyWorld × Answer Unit :=
  match w.journal with
  | none => (w, ended cut)
  | some j =>
    if j.storeId ≠ expectedStoreId then
      (w, some (.error (.internal ("topology Apply recovery is pending for store " ++ j.storeId ++
        ", not " ++ expectedStoreId))))
    else if j.finished w then
      match cut with
      | none => (w.cleared, ended cut)
      | some _ => (w, ended cut)
    else (j.compensate cut w, ended cut)

/-- A request of `apply_topology_diff`; `branchProfileId` is what `semantic_branch_profile_id`
reads from its nodes and wires, `diagram` their text. -/
structure TopologyApply where
  branchId : Option String
  sessionStoreId : String
  branchProfileId : Option String
  baseRevision : Nat
  diagram : String
  warehouseNodes : Nat
  creations : List WorkspaceCreation
  updates : List WorkspaceUpdate
  archives : List String

/-- What an Apply draws: the subscription's tier, the clock, and where it is cut short. `refusal`
is one of the checks before the journal that the model leaves out, `save` a failure of the
transaction that saves the diagram. -/
structure TopologyDraw where
  tier : SubscriptionTier
  now : String
  opening : Cut
  refusal : Option DoorError
  (atStore atSave : Option Halt)
  save : Option DoorError
  undo : Cut
  afterSave : Option Halt

def updateWorkspaceInstance (instanceId name : String) (t : InstanceTable) :
    Except DoorError InstanceTable :=
  if trim name = "" then
    .error (.core (.validation "name" "workspace instance name must not be empty"))
  else
    match t.find? instanceId with
    | none => .error (.core (.notFound "workspace instance" instanceId))
    | some _ => .ok (t.update instanceId (WorkspaceInstance.renamed name) (fun _ => rfl))

def setPurpose (instanceId : String) (purposeKey : Option String) (t : InstanceTable) :
    Except DoorError InstanceTable :=
  match purposeKey with
  | none => .ok t
  | some purpose =>
    if trim purpose = "" then .error (.invalid "workspace purpose_key must not be empty")
    else .ok (t.update instanceId (WorkspaceInstance.repurposed purpose) (fun _ => rfl))

def updateAll : List WorkspaceUpdate → InstanceTable → Except DoorError InstanceTable
  | [], t => .ok t
  | u :: rest, t => do
    let t ← updateWorkspaceInstance u.id u.name t
    let t ← setPurpose u.id u.purposeKey t
    updateAll rest t

/-- `revision.saturating_add(1)` of a `u64`. -/
def nextRevision (revision : Nat) : Nat := min (revision + 1) (2 ^ 64 - 1)

namespace TopologyApply

variable (a : TopologyApply) (d : TopologyDraw)

def effectiveStoreId : String := a.branchProfileId.getD a.sessionStoreId

def diff : TopologyDiff :=
  ⟨a.effectiveStoreId, a.warehouseNodes, a.creations, a.updates.map WorkspaceUpdate.id, a.archives⟩

def touched : List String := (a.updates.map WorkspaceUpdate.id ++ a.archives).dedup

def desired : SavedTopology := ⟨nextRevision a.baseRevision, a.diagram⟩

variable (w : TopologyWorld)

def checkRevision : Except DoorError Unit :=
  let current := w.currentTopologyRevision a.branchId
  if current ≠ a.baseRevision then
    .error (.topologyValidation "topology-revision-conflict"
      ("topology revision conflict: expected " ++ toString a.baseRevision ++ ", current " ++
        toString current))
  else .ok ()

def checkBranchId : Except DoorError Unit :=
  match a.branchId, a.branchProfileId with
  | some requested, some profile =>
    if requested ≠ profile then
      .error (.topologyValidation "branch-id-mismatch"
        ("topology branch " ++ requested ++ " does not match Branch Location " ++ profile))
    else .ok ()
  | _, _ => .ok ()

def refuse : Except DoorError Unit :=
  match d.refusal with
  | none => .ok ()
  | some e => .error e

def prepare : Except DoorError TopologyApplyRecovery := do
  refuse d
  a.checkRevision w
  let snapshots ← snapshotWorkspaceRows w.instances a.touched
  a.checkBranchId
  a.diff.validateStore a.creations
  a.diff.validateWarehouseQuota d.tier
  return ⟨a.effectiveStoreId, a.branchId, a.creations, snapshots, w.topologies a.branchId,
    some a.desired⟩

/-- The checks that stand between the journal and the transaction of the store. -/
def validate (t : InstanceTable) : Except DoorError Unit := do
  a.diff.validateCreations d.tier a.creations
  a.diff.validateOwners t " — it may have been created in a different store" ""
    (a.updates.map WorkspaceUpdate.id)
  a.diff.validateOwners t " for archive" " for archive" a.archives
  a.diff.checkQuota d.tier t

def workspaceWrites (t : InstanceTable) : Except DoorError InstanceTable := do
  a.validate d t
  let t ← insertCreations d.now a.creations t
  let t ← updateAll a.updates t
  archiveAll a.archives t

/-- `save_topology_json_at_key_with_registries`: the diagram saved and the journal removed. -/
def saveTopology : Except DoorError TopologyWorld := do
  match d.save with
  | some e => .error e
  | none =>
    a.checkRevision w
    let saved := ⟨nextRevision (w.currentTopologyRevision a.branchId), a.diagram⟩
    return (w.setTopology a.branchId (some saved)).cleared

def answerSaved : Answer Nat :=
  match d.afterSave with
  | some halt => halted halt
  | none => some (.ok (w.currentTopologyRevision a.branchId))

variable (j : TopologyApplyRecovery)

def saveDiagram (w : TopologyWorld) : TopologyWorld × Answer Nat :=
  match d.atSave with
  | some halt => (w, halted halt)
  | none =>
    match a.saveTopology d w with
    | .ok w => (w, a.answerSaved d w)
    | .error e =>
      match d.undo with
      | none => (j.compensate none w, some (.error e))
      | some (step, halt) => (j.compensate (some (step, halt)) w, halted halt)

def applyJournaled (w : TopologyWorld) : TopologyWorld × Answer Nat :=
  match d.atStore with
  | some halt => (w, halted halt)
  | none =>
    match a.workspaceWrites d w.instances with
    | .error e => (w, some (.error e))
    | .ok t => a.saveDiagram d j { w with instances := t }

def applyTopologyDiff : TopologyWorld × Answer Nat :=
  match recoverPendingTopologyApply a.effectiveStoreId d.opening w with
  | (w, none) => (w, none)
  | (w, some (.error e)) => (w, some (.error e))
  | (w, some (.ok ())) =>
    match a.prepare d w with
    | .error e => (w, some (.error e))
    | .ok j => a.applyJournaled d j { w with journal := some j }

end TopologyApply

/-- The writers of instances other than an Apply; the ids of `setStatus` are those that a
suspension or a recovery of suspended instances picks. -/
inductive WorkspaceEdit where
  | create (args : CreateWorkspaceInstanceArgs) (now : String)
  | update (id name : String)
  | archive (id : String)
  | setStatus (ids : List String) (status : InstanceStatus)
  | touch (id now : String)

namespace WorkspaceEdit

def write (t : InstanceTable) : WorkspaceEdit → Except DoorError InstanceTable
  | create args now => createWorkspaceInstanceWithPurpose args now t
  | update id name => updateWorkspaceInstance id name t
  | archive id => archiveInstance id t
  | setStatus ids status =>
    .ok (t.updateWhere (fun r => ids.contains r.id) (WorkspaceInstance.setStatus status)
      (WorkspaceInstance.id_setStatus status))
  | touch id now => .ok (touchInstanceAccess id now t)

def apply (t : InstanceTable) (e : WorkspaceEdit) : InstanceTable :=
  match e.write t with
  | .ok u => u
  | .error _ => t

variable (edits : List WorkspaceEdit)

def applyAll (t : InstanceTable) : InstanceTable :=
  edits.foldl apply t

variable (r : WorkspaceInstance)

def onRow : WorkspaceEdit → WorkspaceInstance
  | create _ _ => r
  | update id name => if r.id = id ∧ trim name ≠ "" then r.renamed name else r
  | archive id => if r.id = id then r.archived else r
  | setStatus ids status => if r.id ∈ ids then r.setStatus status else r
  | touch id now => if r.id = id then r.touched now else r

def expected : WorkspaceInstance :=
  edits.foldl onRow r

def brings : WorkspaceEdit → Option String
  | create args _ => if args.validate = .ok () then some args.id else none
  | _ => none

end WorkspaceEdit

def TopologyWorld.edited (edits : List WorkspaceEdit) (w : TopologyWorld) : TopologyWorld :=
  { w with instances := WorkspaceEdit.applyAll edits w.instances }

def recoverRuns : List (String × Cut) → TopologyWorld → TopologyWorld
  | [], w => w
  | (expectedStoreId, cut) :: rest, w =>
    recoverRuns rest (recoverPendingTopologyApply expectedStoreId cut w).1

end OzPos
