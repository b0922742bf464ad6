import OzPos.Licensing.QuotaGate

namespace OzPos

variable {s t : QuotaStore}

theorem failWith_ok_iff {failure : Option DoorError} :
    failWith failure s = .ok t ↔ failure = none ∧ s = t := by
  cases failure with
  | none => simp [failWith]
  | some e => simp [failWith]

variable {armed : ArmedQuota}

theorem recheck_ok_iff {dimension : QuotaDimension} :
    recheck armed dimension s = .ok t ↔
      s = t ∧ ∀ tier, takeArmedQuota armed dimension = some tier →
        Within (dimension.limitFor tier) (dimension.quotaCount s) := by
  unfold recheck
  cases takeArmedQuota armed dimension with
  | none => simp
  | some tier =>
    simp only [Option.some.injEq, forall_eq', Within]
    cases dimension.limitFor tier with
    | none => simp
    | some limit =>
      by_cases h : limit < dimension.quotaCount s
      · simp [h]
      · simp only [h, if_false, Except.ok.injEq, Option.some.injEq, forall_eq', iff_self_and]
        omega

theorem takeArmedQuota_same (dimension : QuotaDimension) (tier : SubscriptionTier) :
    takeArmedQuota (some (dimension, tier)) dimension = some tier := by
  simp [takeArmedQuota]

variable {draw : QuotaDraw}

theorem createUser_ok {roleId : String} (h : createUserWithProfile roleId armed draw s = .ok t) :
    t.products = s.products ∧ t.instances = s.instances ∧
      ∀ tier, takeArmedQuota armed .staff = some tier →
        Within tier.maxStaffUsers t.countStaffUsers := by
  unfold createUserWithProfile at h
  obtain ⟨s', hearly, h⟩ := Except.of_do h
  obtain ⟨-, rfl⟩ := failWith_ok_iff.mp hearly
  cases hinsert : s.users.insert? ⟨draw.newId, roleId, true, false⟩ with
  | none => simp [hinsert] at h
  | some users =>
    simp only [hinsert] at h
    obtain ⟨u, hcheck, h⟩ := Except.of_do h
    obtain ⟨rfl, hwithin⟩ := recheck_ok_iff.mp hcheck
    obtain ⟨-, rfl⟩ := failWith_ok_iff.mp h
    exact ⟨rfl, rfl, hwithin⟩

theorem createProduct_ok {sku : String} (h : createProductWithAttributes sku armed draw s = .ok t) :
    t.users = s.users ∧ t.instances = s.instances ∧
      ∀ tier, takeArmedQuota armed .products = some tier →
        Within tier.maxProducts t.countProducts := by
  unfold createProductWithAttributes at h
  obtain ⟨s', hearly, h⟩ := Except.of_do h
  obtain ⟨-, rfl⟩ := failWith_ok_iff.mp hearly
  by_cases hsku : s.products.rows.any (fun p => p.sku = trim sku) = true
  · simp [hsku] at h
  · rw [if_neg hsku] at h
    cases hinsert : s.products.insert? ⟨draw.newId, trim sku⟩ with
    | none => simp [hinsert] at h
    | some products =>
      simp only [hinsert] at h
      obtain ⟨u, hcheck, h⟩ := Except.of_do h
      obtain ⟨rfl, hwithin⟩ := recheck_ok_iff.mp hcheck
      obtain ⟨-, rfl⟩ := failWith_ok_iff.mp h
      exact ⟨rfl, rfl, hwithin⟩

theorem enforceCreationQuota_ok_iff {dimension : QuotaDimension} {tier : SubscriptionTier} :
    enforceCreationQuota dimension tier s = .ok armed ↔
      armed = some (dimension, tier) ∧
        Within (dimension.limitFor tier) (dimension.quotaCount s + 1) := by
  unfold enforceCreationQuota ensureQuotaAllows Within
  cases dimension.limitFor tier with
  | none => simp [eq_comm]
  | some limit =>
    by_cases h : limit < dimension.quotaCount s + 1
    · simp only [h, if_true, reduceCtorEq, Option.some.injEq, forall_eq', false_iff]
      omega
    · simp only [h, if_false, Except.ok.injEq, Option.some.injEq, forall_eq']
      constructor
      · rintro rfl
        exact ⟨rfl, by omega⟩
      · rintro ⟨rfl, -⟩
        rfl

theorem updateStaff_ok_iff {args : UpdateStaffArgs} {tier : SubscriptionTier} :
    args.updateStaffScoped tier draw s = .ok t ↔
      draw.early = none ∧ draw.late = none ∧ (s.liveUser? args.id).isSome ∧ args.update s = t ∧
        (args.reactivating s = true → Within tier.maxStaffUsers (s.countStaffUsers + 1) ∧
          Within tier.maxStaffUsers (args.update s).countStaffUsers) := by
  unfold UpdateStaffArgs.updateStaffScoped
  rw [Except.do_ok_iff]
  simp only [failWith_ok_iff]
  constructor
  · rintro ⟨s', ⟨hearly, rfl⟩, h⟩
    obtain ⟨armed, hgate, h⟩ := Except.of_do h
    cases hlive : s.liveUser? args.id with
    | none => simp [hlive] at h
    | some u =>
      simp only [hlive] at h
      obtain ⟨v, hcheck, h⟩ := Except.of_do h
      obtain ⟨rfl, hwithin⟩ := recheck_ok_iff.mp hcheck
      obtain ⟨hlate, rfl⟩ := failWith_ok_iff.mp h
      refine ⟨hearly, hlate, rfl, rfl, ?_⟩
      intro hre
      rw [UpdateStaffArgs.armReactivation, if_pos hre] at hgate
      obtain ⟨rfl, hroom⟩ := enforceCreationQuota_ok_iff.mp hgate
      exact ⟨hroom, hwithin tier (takeArmedQuota_same _ _)⟩
  · rintro ⟨hearly, hlate, hlive, rfl, hre⟩
    obtain ⟨u, hlive⟩ := Option.isSome_iff_exists.mp hlive
    refine ⟨s, ⟨hearly, rfl⟩, ?_⟩
    rw [Except.do_ok_iff]
    by_cases h : args.reactivating s = true
    · refine ⟨some (.staff, tier), ?_, ?_⟩
      · rw [UpdateStaffArgs.armReactivation, if_pos h, enforceCreationQuota_ok_iff]
        exact ⟨rfl, (hre h).1⟩
      · simp only [hlive]
        rw [Except.do_ok_iff]
        refine ⟨_, recheck_ok_iff.mpr ⟨rfl, ?_⟩, failWith_ok_iff.mpr ⟨hlate, rfl⟩⟩
        intro tier' htier
        rw [takeArmedQuota_same] at htier
        cases htier
        exact (hre h).2
    · refine ⟨none, by rw [UpdateStaffArgs.armReactivation, if_neg h], ?_⟩
      simp only [hlive]
      rw [Except.do_ok_iff]
      refine ⟨_, recheck_ok_iff.mpr ⟨rfl, ?_⟩, failWith_ok_iff.mpr ⟨hlate, rfl⟩⟩
      intro tier' htier
      cases htier

theorem createInstance_ok_iff {args : CreateWorkspaceInstanceArgs} :
    createInstance args draw s = .ok t ↔
      draw.early = none ∧ draw.late = none ∧ args.validate = .ok () ∧
        ∃ u, s.instances.insert? (args.row draw.now) = some u ∧ { s with instances := u } = t := by
  unfold createInstance
  rw [Except.do_ok_iff]
  simp only [failWith_ok_iff]
  constructor
  · rintro ⟨s', ⟨hearly, rfl⟩, h⟩
    obtain ⟨u, hcreate, h⟩ := Except.of_do h
    obtain ⟨hvalid, hinsert⟩ := createWorkspaceInstance_ok_iff.mp hcreate
    obtain ⟨hlate, rfl⟩ := failWith_ok_iff.mp h
    exact ⟨hearly, hlate, hvalid, u, hinsert, rfl⟩
  · rintro ⟨hearly, hlate, hvalid, u, hinsert, rfl⟩
    refine ⟨s, ⟨hearly, rfl⟩, Except.do_ok_iff.mpr ?_⟩
    exact ⟨u, createWorkspaceInstance_ok_iff.mpr ⟨hvalid, hinsert⟩,
      failWith_ok_iff.mpr ⟨hlate, rfl⟩⟩

variable {now : String} {creations : List WorkspaceCreation}

theorem insertCreations_ok_iff {t : InstanceTable} :
    (∃ u, insertCreations now creations t = .ok u) ↔
      (creations.map WorkspaceCreation.id).Nodup ∧ ∀ c ∈ creations, t.find? c.id = none := by
  induction creations generalizing t with
  | nil => simp [insertCreations]
  | cons c rest ih =>
    unfold insertCreations
    cases hinsert : t.insert? (c.row now) with
    | none =>
      obtain ⟨r, hr⟩ := (Table.insert?_eq_none_iff t (c.row now)).mp hinsert
      have htaken : t.find? c.id = some r := hr
      simp [htaken]
    | some v =>
      have hfree : t.find? c.id = none := by
        have hsome : (t.insert? (c.row now)).isSome := by simp [hinsert]
        exact (Table.insert?_isSome_iff t (c.row now)).mp hsome
      have hfind : ∀ d, v.find? d = if c.id = d then some (c.row now) else t.find? d :=
        fun d => Table.find?_insert? hinsert d
      simp only [ih, hfind, List.map_cons, List.nodup_cons, List.mem_cons, forall_eq_or_imp, hfree,
        true_and, List.mem_map, not_exists, not_and]
      constructor
      · rintro ⟨hnodup, hfresh⟩
        refine ⟨⟨?_, hnodup⟩, ?_⟩
        · intro d hd hid
          have hd' := hfresh d hd
          rw [if_pos hid.symm] at hd'
          cases hd'
        · intro d hd
          have hd' := hfresh d hd
          by_cases hid : c.id = d.id
          · rw [if_pos hid] at hd'
            cases hd'
          · rwa [if_neg hid] at hd'
      · rintro ⟨⟨hnew, hnodup⟩, hfresh⟩
        refine ⟨hnodup, ?_⟩
        intro d hd
        rw [if_neg (fun hid => hnew d hd hid.symm)]
        exact hfresh d hd

variable {u : InstanceTable}

theorem insertCreations_rows {t : InstanceTable} (h : insertCreations now creations t = .ok u) :
    u.rows = t.rows ++ creations.map (WorkspaceCreation.row now) := by
  induction creations generalizing t with
  | nil =>
    cases h
    simp
  | cons c rest ih =>
    unfold insertCreations at h
    cases hinsert : t.insert? (c.row now) with
    | none => simp [hinsert] at h
    | some v =>
      simp only [hinsert] at h
      rw [ih h, Table.insert?_rows hinsert]
      simp

theorem archiveAll_ok_iff {ids : List String} {t : InstanceTable} :
    (∃ u, archiveAll ids t = .ok u) ↔ ∀ id ∈ ids, (t.find? id).isSome := by
  induction ids generalizing t with
  | nil => simp [archiveAll]
  | cons id rest ih =>
    unfold archiveAll
    simp only [Except.bind_ok_iff, archiveInstance_ok_iff, List.mem_cons, forall_eq_or_imp]
    constructor
    · rintro ⟨u, v, ⟨hsome, rfl⟩, h⟩
      refine ⟨hsome, ?_⟩
      intro d hd
      have hd' := ih.mp ⟨u, h⟩ d hd
      rw [Table.find?_update t id WorkspaceInstance.archived (fun _ => rfl) d] at hd'
      simpa using hd'
    · rintro ⟨hsome, hrest⟩
      have hnext : ∀ d ∈ rest,
          ((t.update id WorkspaceInstance.archived (fun _ => rfl)).find? d).isSome := by
        intro d hd
        rw [Table.find?_update t id WorkspaceInstance.archived (fun _ => rfl) d]
        simpa using hrest d hd
      obtain ⟨u, hu⟩ := ih.mpr hnext
      exact ⟨u, _, ⟨hsome, rfl⟩, hu⟩

theorem archiveAll_rows {ids : List String} {t : InstanceTable} (h : archiveAll ids t = .ok u) :
    u.rows = t.rows.map (fun r => if ids.contains r.id then r.archived else r) := by
  induction ids generalizing t with
  | nil =>
    cases h
    simp
  | cons id rest ih =>
    unfold archiveAll at h
    obtain ⟨v, harchive, h⟩ := Except.of_bind h
    obtain ⟨-, rfl⟩ := archiveInstance_ok_iff.mp harchive
    have hrows : (t.update id WorkspaceInstance.archived (fun _ => rfl)).rows =
        t.rows.map (fun r => if r.id = id then r.archived else r) := rfl
    rw [ih h, hrows, List.map_map]
    apply List.map_congr_left
    intro r hr
    by_cases hid : r.id = id
    · subst hid
      simp [WorkspaceInstance.archived]
    · simp [hid]

/-- The batch of an Apply goes through: its creations are new, its archives are there. -/
def TopologyDiff.Applies (diff : TopologyDiff) (t : InstanceTable) : Prop :=
  (diff.creations.map WorkspaceCreation.id).Nodup ∧
    (∀ c ∈ diff.creations, t.find? c.id = none) ∧
    ∀ id ∈ diff.archives, (t.find? id).isSome ∨ id ∈ diff.creations.map WorkspaceCreation.id

instance (diff : TopologyDiff) (t : InstanceTable) : Decidable (diff.Applies t) :=
  inferInstanceAs (Decidable (_ ∧ _ ∧ _))

theorem isSome_insertCreations
    {t : InstanceTable} (h : insertCreations now creations t = .ok u) (id : String) :
    (u.find? id).isSome ↔ (t.find? id).isSome ∨ id ∈ creations.map WorkspaceCreation.id := by
  rw [Table.isSome_find?_iff, Table.isSome_find?_iff, insertCreations_rows h]
  simp only [List.mem_append, List.mem_map, or_and_right, exists_or]
  constructor
  · rintro (hold | ⟨r, ⟨c, hc, rfl⟩, hid⟩)
    · exact .inl hold
    · exact .inr ⟨c, hc, hid⟩
  · rintro (hold | ⟨c, hc, hid⟩)
    · exact .inl hold
    · exact .inr ⟨c.row now, ⟨c, hc, rfl⟩, hid⟩

variable {diff : TopologyDiff}

theorem applyTopologyDiff_isOk_iff :
    (∃ t, applyTopologyDiff diff draw s = .ok t) ↔
      draw.early = none ∧ draw.late = none ∧ diff.Applies s.instances := by
  have hcreations : (∃ u, insertCreations draw.now diff.creations s.instances = .ok u) ↔ _ :=
    insertCreations_ok_iff
  unfold applyTopologyDiff TopologyDiff.Applies
  simp only [Except.do_ok_iff, failWith_ok_iff]
  rw [← and_assoc (c := ∀ id ∈ diff.archives, _), ← hcreations]
  constructor
  · rintro ⟨t, s', ⟨hearly, rfl⟩, u, hinsert, v, harchive, hlate, rfl⟩
    refine ⟨hearly, hlate, ⟨u, hinsert⟩, ?_⟩
    intro id hid
    exact (isSome_insertCreations hinsert id).mp (archiveAll_ok_iff.mp ⟨v, harchive⟩ id hid)
  · rintro ⟨hearly, hlate, ⟨u, hinsert⟩, hthere⟩
    have hall : ∀ id ∈ diff.archives, (u.find? id).isSome := by
      intro id hid
      exact (isSome_insertCreations hinsert id).mpr (hthere id hid)
    obtain ⟨v, harchive⟩ := archiveAll_ok_iff.mpr hall
    exact ⟨_, s, ⟨hearly, rfl⟩, u, hinsert, v, harchive, hlate, rfl⟩

theorem applyTopologyDiff_ok (h : applyTopologyDiff diff draw s = .ok t) :
    t.users = s.users ∧ t.products = s.products ∧
      t.instances.rows =
        (s.instances.rows ++ diff.creations.map (WorkspaceCreation.row draw.now)).map
          (fun r => if diff.archives.contains r.id then r.archived else r) := by
  unfold applyTopologyDiff at h
  simp only [Except.do_ok_iff, failWith_ok_iff] at h
  obtain ⟨s', ⟨-, rfl⟩, u, hinsert, v, harchive, -, rfl⟩ := h
  refine ⟨rfl, rfl, ?_⟩
  rw [← insertCreations_rows hinsert]
  exact archiveAll_rows harchive

theorem count_applyTopologyDiff
    (h : applyTopologyDiff diff draw s = .ok t) (ofType : String → Bool) (storeId : String) :
    t.instances.count (countedAt ofType storeId) =
      s.instances.count (fun r => countedAt ofType storeId r && !diff.archives.contains r.id) +
        diff.creations.countP
          (fun c => c.storeId = storeId && ofType c.typeKey && !diff.archives.contains c.id) := by
  obtain ⟨-, -, hrows⟩ := applyTopologyDiff_ok h
  have harchived : ∀ r : WorkspaceInstance,
      countedAt ofType storeId (if diff.archives.contains r.id then r.archived else r) =
        (countedAt ofType storeId r && !diff.archives.contains r.id) := by
    intro r
    cases diff.archives.contains r.id with
    | false => simp
    | true => simp [countedAt, WorkspaceInstance.archived]
  have hcreated : ∀ c : WorkspaceCreation,
      (countedAt ofType storeId (c.row draw.now) && !diff.archives.contains (c.row draw.now).id) =
        (c.storeId = storeId && ofType c.typeKey && !diff.archives.contains c.id) := by
    intro c
    have hcounted : countedAt ofType storeId (c.row draw.now) =
        (c.storeId = storeId && ofType c.typeKey && true) := rfl
    rw [hcounted, Bool.and_true]
    rfl
  unfold Table.count
  rw [hrows, List.countP_map, List.countP_append, List.countP_map, Int.natCast_add]
  simp only [Function.comp_def, harchived, hcreated]

end OzPos
