import OzPos.Licensing.QuotaWrites

namespace OzPos

/-- The types of instances that have a cap of their own in a store. -/
inductive InstanceKind where
  | pos
  | warehouse
  | kds
  deriving DecidableEq

namespace InstanceKind

def includes : InstanceKind → String → Bool
  | pos => isPosType
  | warehouse => isWarehouseType
  | kds => isKdsType

def all : List InstanceKind := [pos, warehouse, kds]

theorem mem_all (kind : InstanceKind) : kind ∈ all := by
  cases kind with
  | pos => decide
  | warehouse => decide
  | kds => decide

def count (kind : InstanceKind) (t : InstanceTable) (storeId : String) : Int :=
  t.count (countedAt kind.includes storeId)

end InstanceKind

def Plan.cap (plan : Plan) : InstanceKind → Option Int
  | .pos => plan.tier.maxPosInstances
  | .warehouse => plan.tier.maxWarehouses
  | .kds => plan.kdsCap

structure WithinCaps (plan : Plan) (s : QuotaStore) : Prop where
  staff : Within plan.tier.maxStaffUsers s.countStaffUsers
  products : Within plan.tier.maxProducts s.countProducts
  instances : ∀ kind storeId, Within (plan.cap kind) (InstanceKind.count kind s.instances storeId)

/-- An update of an active owner, left active, to a role of the staff. -/
def UpdateStaffArgs.joinsStaff (args : UpdateStaffArgs) (s : QuotaStore) : Bool :=
  args.isActive && args.roleId != ownerRole &&
    (s.liveUser? args.id).any (fun u => u.isActive && u.roleId = ownerRole)

namespace TopologyDiff

variable (diff : TopologyDiff)

def kept (kind : InstanceKind) (t : InstanceTable) : Int :=
  t.count (fun r => countedAt kind.includes diff.storeId r && !diff.archives.contains r.id)

def created (kind : InstanceKind) : Int :=
  diff.creations.countP (fun c => kind.includes c.typeKey && !diff.archives.contains c.id)

end TopologyDiff

variable (plan : Plan) (s : QuotaStore)

/-- The room that a write is to find: an owner that joins the staff, an instance at its
creation rather than at its gate, an Apply for each kind of what it creates. -/
def RoomFor : QuotaView → Prop
  | .createStaff _ _ | .createProduct _ _ => True
  | .updateStaff args =>
    args.joinsStaff s = true → Within plan.tier.maxStaffUsers (s.countStaffUsers + 1)
  | .createInstance args =>
    args.validate.isOk = true → s.instances.find? args.id = none →
      ∀ kind ∈ InstanceKind.all, kind.includes args.typeKey = true →
        Within (plan.cap kind) (kind.count s.instances args.storeId + 1)
  | .applyTopology diff =>
    diff.Applies s.instances →
      ∀ kind ∈ InstanceKind.all,
        Within (plan.cap kind) (diff.kept kind s.instances + diff.created kind)

instance : (view : QuotaView) → Decidable (RoomFor plan s view)
  | .createStaff _ _ | .createProduct _ _ => isTrue trivial
  | .updateStaff args => inferInstanceAs (Decidable (args.joinsStaff s = true → Within _ _))
  | .createInstance args =>
    inferInstanceAs (Decidable (args.validate.isOk = true → s.instances.find? args.id = none →
      ∀ kind ∈ InstanceKind.all, kind.includes args.typeKey = true → Within _ _))
  | .applyTopology diff =>
    inferInstanceAs (Decidable (diff.Applies s.instances →
      ∀ kind ∈ InstanceKind.all, Within _ _))

def FindsRoom (view : QuotaView) (draw : QuotaDraw) : Prop :=
  draw.early = none → draw.late = none → RoomFor plan s view

instance (view : QuotaView) (draw : QuotaDraw) : Decidable (FindsRoom plan s view draw) :=
  inferInstanceAs (Decidable (_ → _ → _))

def PassedGate : QuotaView → Prop
  | .createStaff _ armed => armed = some (.staff, plan.tier)
  | .createProduct _ armed => armed = some (.products, plan.tier)
  | .applyTopology diff => ∀ c ∈ diff.creations, c.storeId = diff.storeId
  | .updateStaff _ | .createInstance _ => True

theorem validateStore_ok {diff : TopologyDiff} {creations : List WorkspaceCreation}
    (h : diff.validateStore creations = .ok ()) : ∀ c ∈ creations, c.storeId = diff.storeId := by
  induction creations with
  | nil => simp
  | cons c rest ih =>
    unfold TopologyDiff.validateStore at h
    by_cases hstore : c.storeId = diff.storeId
    · rw [if_neg (not_not.mpr hstore)] at h
      simp only [List.mem_cons, forall_eq_or_imp]
      exact ⟨hstore, ih h⟩
    · rw [if_pos hstore] at h
      cases h

variable {s : QuotaStore} {plan : Plan}

theorem passedGate {call : QuotaCall} {view : QuotaView}
    (h : call.gate plan s = .ok view) : PassedGate plan view := by
  cases call with
  | createStaff roleId =>
    obtain ⟨armed, hgate, rfl⟩ := Except.of_map h
    exact (enforceCreationQuota_ok_iff.mp hgate).1
  | createProduct sku =>
    obtain ⟨armed, hgate, rfl⟩ := Except.of_map h
    exact (enforceCreationQuota_ok_iff.mp hgate).1
  | updateStaff args =>
    cases h
    trivial
  | createInstance args =>
    obtain ⟨_, -, rfl⟩ := Except.of_map h
    trivial
  | applyTopology diff =>
    obtain ⟨_, hgate, rfl⟩ := Except.of_map h
    obtain ⟨_, hstore, -⟩ := Except.of_do hgate
    exact validateStore_ok hstore

variable {t : QuotaStore}

theorem withinCaps_iff_instances (hs : WithinCaps plan s)
    (husers : t.users = s.users) (hproducts : t.products = s.products) :
    WithinCaps plan t ↔
      ∀ kind storeId, Within (plan.cap kind) (InstanceKind.count kind t.instances storeId) := by
  constructor
  · intro h
    exact h.instances
  · intro h
    refine ⟨?_, ?_, h⟩
    · rw [QuotaStore.countStaffUsers, husers]
      exact hs.staff
    · rw [QuotaStore.countProducts, hproducts]
      exact hs.products

variable {draw : QuotaDraw}

theorem within_createInstance_iff {args : CreateWorkspaceInstanceArgs} (hs : WithinCaps plan s)
    (h : createInstance args draw s = .ok t) :
    WithinCaps plan t ↔ ∀ kind ∈ InstanceKind.all, kind.includes args.typeKey = true →
      Within (plan.cap kind) (kind.count s.instances args.storeId + 1) := by
  obtain ⟨-, -, -, u, hinsert, rfl⟩ := createInstance_ok_iff.mp h
  have hcount : ∀ (kind : InstanceKind) storeId, kind.count u storeId =
      kind.count s.instances storeId +
        if countedAt kind.includes storeId (args.row draw.now) then 1 else 0 :=
    fun kind storeId => Table.count_insert? hinsert _
  rw [withinCaps_iff_instances (t := { s with instances := u }) hs rfl rfl]
  constructor
  · intro hwithin kind hkind htype
    have hnew := hwithin kind args.storeId
    have hcounted : countedAt kind.includes args.storeId (args.row draw.now) = true :=
      countedAt_iff.mpr ⟨rfl, htype, rfl⟩
    rw [hcount, if_pos hcounted] at hnew
    exact hnew
  · intro hroom kind storeId
    rw [hcount]
    by_cases hnew : countedAt kind.includes storeId (args.row draw.now) = true
    · obtain ⟨hstore, htype, -⟩ := countedAt_iff.mp hnew
      rw [if_pos hnew, ← hstore]
      exact hroom kind (InstanceKind.mem_all kind) htype
    · rw [if_neg hnew, Int.add_zero]
      exact hs.instances kind storeId

theorem within_applyTopology_iff {diff : TopologyDiff} (hs : WithinCaps plan s)
    (hstore : ∀ c ∈ diff.creations, c.storeId = diff.storeId)
    (h : applyTopologyDiff diff draw s = .ok t) :
    WithinCaps plan t ↔ ∀ kind ∈ InstanceKind.all,
      Within (plan.cap kind) (diff.kept kind s.instances + diff.created kind) := by
  have hcount : ∀ (kind : InstanceKind) storeId, kind.count t.instances storeId = _ :=
    fun kind storeId => count_applyTopologyDiff h kind.includes storeId
  have hhere : ∀ kind : InstanceKind, kind.count t.instances diff.storeId =
      diff.kept kind s.instances + diff.created kind := by
    intro kind
    rw [hcount, TopologyDiff.kept, TopologyDiff.created]
    congr 2
    apply List.countP_congr
    intro c hc
    simp [hstore c hc]
  obtain ⟨husers, hproducts, -⟩ := applyTopologyDiff_ok h
  rw [withinCaps_iff_instances hs husers hproducts]
  constructor
  · intro hwithin kind hkind
    rw [← hhere]
    exact hwithin kind diff.storeId
  · intro hroom kind storeId
    by_cases hsame : storeId = diff.storeId
    · rw [hsame, hhere]
      exact hroom kind (InstanceKind.mem_all kind)
    · have hcreated : diff.creations.countP (fun c => c.storeId = storeId &&
          kind.includes c.typeKey && !diff.archives.contains c.id) = 0 := by
        rw [List.countP_eq_zero]
        intro c hc
        simp [hstore c hc, Ne.symm hsame]
      rw [hcount, hcreated]
      apply (hs.instances kind storeId).mono
      have hmono := Table.count_mono s.instances (p := fun r => countedAt kind.includes storeId r &&
        !diff.archives.contains r.id) (q := countedAt kind.includes storeId) (by
          intro r hr hboth
          exact (Bool.and_eq_true_iff.mp hboth).1)
      unfold InstanceKind.count
      omega

theorem withinCaps_iff_staff (hs : WithinCaps plan s)
    (hproducts : t.products = s.products) (hinstances : t.instances = s.instances) :
    WithinCaps plan t ↔ Within plan.tier.maxStaffUsers t.countStaffUsers := by
  constructor
  · intro h
    exact h.staff
  · intro h
    refine ⟨h, ?_, ?_⟩
    · rw [QuotaStore.countProducts, hproducts]
      exact hs.products
    · rw [hinstances]
      exact hs.instances

theorem withinCaps_of_products (hs : WithinCaps plan s)
    (husers : t.users = s.users) (hinstances : t.instances = s.instances)
    (h : Within plan.tier.maxProducts t.countProducts) : WithinCaps plan t := by
  refine ⟨?_, h, ?_⟩
  · rw [QuotaStore.countStaffUsers, husers]
    exact hs.staff
  · rw [hinstances]
    exact hs.instances

theorem liveUser_eq_some {id : String} {u : StaffUser}
    (h : s.liveUser? id = some u) : s.users.find? id = some u ∧ u.deleted = false := by
  unfold QuotaStore.liveUser? at h
  rw [Option.filter_eq_some_iff] at h
  simpa using h

variable {args : UpdateStaffArgs}

theorem countStaffUsers_update {u : StaffUser} (h : s.liveUser? args.id = some u) :
    (args.update s).countStaffUsers =
      s.countStaffUsers - (if u.isStaff then 1 else 0) +
        if args.isActive && args.roleId != ownerRole then 1 else 0 := by
  obtain ⟨hfind, hdeleted⟩ := liveUser_eq_some h
  have happly : (args.apply u).isStaff = (args.isActive && args.roleId != ownerRole) := by
    simp [UpdateStaffArgs.apply, hdeleted, StaffUser.isStaff]
  rw [← happly]
  exact Table.count_update s.users StaffUser.isStaff args.apply args.id_apply hfind

theorem joinsStaff_ungated (h : args.joinsStaff s = true) :
    args.reactivating s = false ∧ (s.liveUser? args.id).isSome := by
  unfold UpdateStaffArgs.joinsStaff at h
  unfold UpdateStaffArgs.reactivating
  cases hlive : s.liveUser? args.id with
  | none => simp [hlive] at h
  | some u =>
    simp only [hlive, Option.any_some, Bool.and_eq_true] at h
    simp [h.2.1]

theorem within_updateStaff_iff (hs : WithinCaps plan s)
    (h : args.updateStaffScoped plan.tier draw s = .ok t) :
    WithinCaps plan t ↔
      (args.joinsStaff s = true → Within plan.tier.maxStaffUsers (s.countStaffUsers + 1)) := by
  obtain ⟨-, -, hlive, rfl, hre⟩ := updateStaff_ok_iff.mp h
  obtain ⟨u, hlive⟩ := Option.isSome_iff_exists.mp hlive
  have hcount := countStaffUsers_update hlive
  have hfits := hs.staff
  rw [withinCaps_iff_staff (t := args.update s) hs rfl rfl]
  unfold UpdateStaffArgs.reactivating at hre
  unfold UpdateStaffArgs.joinsStaff
  simp only [hlive, Option.any_some] at hre ⊢
  cases hstaff : args.isActive && args.roleId != ownerRole with
  | false =>
    -- The update leaves no one the staff did not count.
    rw [hstaff] at hcount
    have hle : (args.update s).countStaffUsers ≤ s.countStaffUsers := by
      rw [hcount, if_neg Bool.false_ne_true]
      by_cases hu : u.isStaff = true
      · rw [if_pos hu]
        omega
      · rw [if_neg hu]
        omega
    simp [hfits.mono hle]
  | true =>
    rw [hstaff] at hcount
    have hactive : args.isActive = true := (Bool.and_eq_true_iff.mp hstaff).1
    cases hu : u.isActive with
    | false =>
      have hwithin := (hre (by simp [hactive, hu])).2
      simp [hwithin]
    | true =>
      by_cases howner : u.roleId = ownerRole
      · have hstaffed : u.isStaff = false := by simp [StaffUser.isStaff, howner]
        rw [hstaffed, if_neg Bool.false_ne_true, if_pos rfl, sub_zero] at hcount
        rw [hcount]
        simp [howner]
      · have hstaffed : u.isStaff = true := by simp [StaffUser.isStaff, hu, howner]
        rw [hstaffed, if_pos rfl, sub_add_cancel] at hcount
        rw [hcount]
        simp [howner, hfits]

theorem withinCaps_write_iff {view : QuotaView} (draw : QuotaDraw)
    (hs : WithinCaps plan s) (hview : PassedGate plan view) :
    WithinCaps plan ((quotaDoors plan).write draw view s).1 ↔ FindsRoom plan s view draw := by
  unfold quotaDoors
  cases hwrite : view.write plan draw s with
  | error e =>
    simp only [hwrite]
    have hfailed : ¬ ∃ t, view.write plan draw s = .ok t := by simp [hwrite]
    refine iff_of_true hs ?_
    intro hearly hlate
    cases view with
    | createStaff roleId armed => trivial
    | createProduct sku armed => trivial
    | updateStaff args =>
      intro hjoins
      obtain ⟨hre, hlive⟩ := joinsStaff_ungated hjoins
      exact absurd ⟨_, updateStaff_ok_iff.mpr ⟨hearly, hlate, hlive, rfl, by simp [hre]⟩⟩ hfailed
    | createInstance args =>
      intro hvalid hfree
      have hsome : (s.instances.insert? (args.row draw.now)).isSome :=
        (Table.insert?_isSome_iff s.instances (args.row draw.now)).mpr hfree
      obtain ⟨u, hinsert⟩ := Option.isSome_iff_exists.mp hsome
      have hok : args.validate = .ok () := by
        cases h : args.validate with
        | error e => simp [h, Except.isOk, Except.toBool] at hvalid
        | ok u => rfl
      exact absurd ⟨_, createInstance_ok_iff.mpr ⟨hearly, hlate, hok, u, hinsert, rfl⟩⟩ hfailed
    | applyTopology diff =>
      intro happlies
      exact absurd (applyTopologyDiff_isOk_iff.mpr ⟨hearly, hlate, happlies⟩) hfailed
  | ok t =>
    simp only [hwrite]
    cases view with
    | createStaff roleId armed =>
      obtain ⟨hproducts, hinstances, hwithin⟩ := createUser_ok hwrite
      refine iff_of_true ?_ (fun _ _ => trivial)
      rw [withinCaps_iff_staff hs hproducts hinstances]
      have harmed : armed = some (.staff, plan.tier) := hview
      rw [harmed] at hwithin
      exact hwithin plan.tier (takeArmedQuota_same _ _)
    | createProduct sku armed =>
      obtain ⟨husers, hinstances, hwithin⟩ := createProduct_ok hwrite
      refine iff_of_true ?_ (fun _ _ => trivial)
      apply withinCaps_of_products hs husers hinstances
      have harmed : armed = some (.products, plan.tier) := hview
      rw [harmed] at hwithin
      exact hwithin plan.tier (takeArmedQuota_same _ _)
    | updateStaff args =>
      obtain ⟨hearly, hlate, -⟩ := updateStaff_ok_iff.mp hwrite
      rw [within_updateStaff_iff hs hwrite]
      simp [FindsRoom, RoomFor, hearly, hlate]
    | createInstance args =>
      obtain ⟨hearly, hlate, hvalid, u, hinsert, -⟩ := createInstance_ok_iff.mp hwrite
      have hfree : s.instances.find? args.id = none := by
        have hsome : (s.instances.insert? (args.row draw.now)).isSome := by simp [hinsert]
        exact (Table.insert?_isSome_iff s.instances (args.row draw.now)).mp hsome
      have hok : args.validate.isOk = true := by rw [hvalid]; rfl
      rw [within_createInstance_iff hs hwrite]
      simp only [FindsRoom, RoomFor, hearly, hlate, hok, hfree, forall_true_left]
    | applyTopology diff =>
      obtain ⟨hearly, hlate, happlies⟩ := applyTopologyDiff_isOk_iff.mp ⟨t, hwrite⟩
      rw [within_applyTopology_iff hs hview hwrite]
      simp only [FindsRoom, RoomFor, hearly, hlate, happlies, forall_true_left]

theorem quotaDoors_disciplined (plan : Plan) :
    (quotaDoors plan).Disciplined (WithinCaps plan) (fun _ view => PassedGate plan view)
      (FindsRoom plan) where
  found := by
    intro s call view hs hread
    cases hgate : call.gate plan s with
    | error e => simp [quotaDoors, hgate] at hread
    | ok found =>
      simp only [quotaDoors, hgate, Sum.inr.injEq] at hread
      rw [← hread]
      exact passedGate hgate
  kept := fun s view draw hs hview hroom => (withinCaps_write_iff draw hs hview).mpr hroom
  stable := fun s view draw other hs hview hroom hother => hother

/-- The states that a run of the doors comes through, the start and the last included. -/
def QuotasHold (plan : Plan) (s : QuotaStore) (events : List (CallEvent QuotaCall QuotaDraw)) :
    Prop :=
  ∀ l r, events = l ++ r →
    WithinCaps plan ((quotaDoors plan).machine.run (.start s) l).shared

theorem quotasHold_iff (plan : Plan) {s : QuotaStore} (hs : WithinCaps plan s)
    (events : List (CallEvent QuotaCall QuotaDraw)) :
    QuotasHold plan s events ↔
      (quotaDoors plan).machine.Along (Calls.AtWrite (FindsRoom plan)) (.start s) events := by
  have hkeeps := (quotaDoors_disciplined plan).along_keeps_iff (P := fun _ t => WithinCaps plan t)
    (fun _ h => h) (fun s view draw => withinCaps_write_iff draw) hs events
  unfold QuotasHold
  rw [(quotaDoors plan).machine.reached_iff_along (fun t => WithinCaps plan t.shared), ← hkeeps]
  exact and_iff_right hs

def emptyQuotaStore : QuotaStore := ⟨Table.empty, Table.empty, Table.empty⟩

theorem withinCaps_empty (plan : Plan) : WithinCaps plan emptyQuotaStore := by
  have hcaps : ∀ cap : Option Int, (∀ limit, cap = some limit → 0 ≤ limit) → Within cap 0 :=
    fun _ h => h
  refine ⟨hcaps _ ?_, hcaps _ ?_, fun kind storeId => hcaps _ ?_⟩
  · cases plan.tier <;> simp [SubscriptionTier.maxStaffUsers]
  · cases plan.tier <;> simp [SubscriptionTier.maxProducts]
  · cases kind with
    | pos => cases h : plan.tier <;> simp [Plan.cap, h, SubscriptionTier.maxPosInstances]
    | warehouse => cases h : plan.tier <;> simp [Plan.cap, h, SubscriptionTier.maxWarehouses]
    | kds =>
      intro limit hlimit
      simp only [Plan.cap, Plan.kdsCap, Option.map_eq_some_iff] at hlimit
      obtain ⟨screens, hscreens, rfl⟩ := hlimit
      split
      · decide
      · cases h : plan.tier <;> simp [h, SubscriptionTier.maxKdsScreens] at hscreens <;> omega

def freePlan : Plan := ⟨.free, SubscriptionTier.free.allowsWorkspaceType⟩

def quotaDraw (newId : String) : QuotaDraw := ⟨newId, "2026-09-30T08:00:00.000Z", none, none⟩

/-- Two sessions pass the gate of the one staff member of a free plan. -/
def racedStaffRun : List (CallEvent QuotaCall QuotaDraw) :=
  [.read 1 (.createStaff "role-cashier"), .read 2 (.createStaff "role-cashier"),
    .write 1 (quotaDraw "user-1"), .write 2 (quotaDraw "user-2")]

theorem racedStaffRun_holds : QuotasHold freePlan emptyQuotaStore racedStaffRun :=
  (quotasHold_iff freePlan (withinCaps_empty freePlan) racedStaffRun).mpr (by decide +kernel)

def proPlan : Plan := ⟨.pro, SubscriptionTier.pro.allowsWorkspaceType⟩

def kdsCreation (id : String) : WorkspaceCreation := ⟨id, "kds", "store-1", "Kitchen", none⟩

/-- One Apply of three KDS screens, on a plan of two for a store and five registers. -/
def kdsApplyRun : List (CallEvent QuotaCall QuotaDraw) :=
  [.read 1 (.applyTopology ⟨"store-1", 0, [kdsCreation "kds-1", kdsCreation "kds-2",
      kdsCreation "kds-3"], [], []⟩),
    .write 1 (quotaDraw "unused")]

theorem kdsApplyRun_exceeds_cap :
    WithinCaps proPlan emptyQuotaStore ∧ ¬ QuotasHold proPlan emptyQuotaStore kdsApplyRun := by
  refine ⟨withinCaps_empty proPlan, ?_⟩
  intro h
  have hkds := (h kdsApplyRun [] (by simp)).instances .kds "store-1" 2 (by decide)
  revert hkds
  decide +kernel

end OzPos
