import OzPos.Licensing.Instances

namespace OzPos

def newlySuspended (u : InstanceTable) (r : WorkspaceInstance) : Bool :=
  r.status = .active && (u.find? r.id).any (fun after => after.status = .quotaSuspended)

def surplusRegisters (cap : Option Int) (registers : Int) : Int :=
  match cap with
  | none => 0
  | some limit => max (registers - limit) 0

/-- A suspension as the gate of creations has it: registers only, as many as are beyond the cap,
those first that were used least recently. -/
structure SuspendsRegisters (storeId : String) (cap : Option Int) (t u : InstanceTable) : Prop where
  onlyRegisters : ∀ r ∈ t.rows, newlySuspended u r = true → countedAt isPosType storeId r = true
  exactly : t.count (newlySuspended u) = surplusRegisters cap (countActivePosInstances t storeId)
  leastRecent : ∀ r ∈ t.rows, ∀ other ∈ t.rows, newlySuspended u r = true →
    countedAt isPosType storeId other = true → newlySuspended u other = false →
      r.accessed ≤ other.accessed

/-- A recovery: registers within the cap, and none of them suspended while a slot is free. -/
structure RecoversRegisters (storeId : String) (cap : Option Int) (u : InstanceTable) : Prop where
  withinCap : Within cap (countActivePosInstances u storeId)
  noneWaits : (∀ limit, cap = some limit → countActivePosInstances u storeId < limit) →
    ∀ r ∈ u.rows, suspendedAt storeId r = true → isPosType r.typeKey = false

/-- Every creation of registers in a run is gated under one tier, and every recovery is too. -/
def InstanceEvent.gatedUnder (tier : SubscriptionTier) : InstanceEvent → Prop
  | .create plan _ _ => plan.tier = tier
  | .recover _ recovered => recovered = tier
  | .archive _ | .touch _ _ | .suspend _ _ => True

variable (t : InstanceTable)

def SuspendsAt (e : InstanceEvent) : Prop :=
  match e with
  | .suspend storeId tier =>
    SuspendsRegisters storeId tier.maxPosInstances t (instanceMachine.step t e).1
  | _ => True

def RecoversAt (e : InstanceEvent) : Prop :=
  match e with
  | .recover storeId tier =>
    RecoversRegisters storeId tier.maxPosInstances (instanceMachine.step t e).1
  | _ => True

/-- Suspensions and recoveries agree with the gate in a run, and a store that came about under
one tier's gate has nothing suspended under that tier. -/
structure SuspensionAgrees (start : InstanceTable) (events : List InstanceEvent) : Prop where
  suspends : instanceMachine.Along SuspendsAt start events
  recovers : instanceMachine.Along RecoversAt start events
  gated : ∀ storeId tier l r, events = l ++ .suspend storeId tier :: r →
    (∀ row ∈ start.rows, row.storeId ≠ storeId) → (∀ e ∈ l, e.gatedUnder tier) →
      (suspendSurplusInstances storeId tier (instanceMachine.run start l)).1 =
        instanceMachine.run start l

/-- The slots that a recovery sees free: it takes every active instance for a register. -/
def freeSlots (limit : Int) (storeId : String) (t : InstanceTable) : Nat :=
  (max (limit - t.count (activeAt storeId)) 0).toNat

/-- At a suspension: no more active instances of any type than the cap, or registers only. -/
def SuspensionFits (storeId : String) (t : InstanceTable) : Option Int → Prop
  | none => True
  | some limit =>
    t.count (activeAt storeId) ≤ limit ∨
      t.count (activeAt storeId) = countActivePosInstances t storeId

/-- At a recovery: the registers within the cap, and no register beyond the slots that are free of
instances of any type, unless the cap is reached already, or registers alone reach it. -/
def RecoveryFits (storeId : String) (t : InstanceTable) : Option Int → Prop
  | none => True
  | some limit =>
    let suspended := mostRecentSuspended storeId t
    let slots := freeSlots limit storeId t
    countActivePosInstances t storeId ≤ limit ∧
      ((∀ r ∈ suspended.drop slots, isPosType r.typeKey = false) ∨
        countActivePosInstances t storeId = limit ∨
        (t.count (activeAt storeId) = countActivePosInstances t storeId ∧
          slots ≤ suspended.length ∧ ∀ r ∈ suspended.take slots, isPosType r.typeKey = true))

/-- What lets the counts of all types pass for counts of registers. -/
def CountsAgree : InstanceEvent → Prop
  | .suspend storeId tier => SuspensionFits storeId t tier.maxPosInstances
  | .recover storeId tier => RecoveryFits storeId t tier.maxPosInstances
  | .create _ _ _ | .archive _ | .touch _ _ => True

section Chosen

variable {t : InstanceTable} {chosen : List WorkspaceInstance}

theorem contains_chosen_iff (hmem : ∀ r ∈ chosen, r ∈ t.rows) {r : WorkspaceInstance}
    (hr : r ∈ t.rows) : (chosen.map WorkspaceInstance.id).contains r.id = true ↔ r ∈ chosen := by
  simp only [List.contains_iff_mem, List.mem_map]
  constructor
  · rintro ⟨other, hother, hid⟩
    have hsame : other = r := List.inj_on_of_nodup_map t.unique (hmem other hother) hr hid
    rwa [← hsame]
  · intro hchosen
    exact ⟨r, hchosen, rfl⟩

theorem newlySuspended_iff (hmem : ∀ r ∈ chosen, r ∈ t.rows)
    (hactive : ∀ r ∈ chosen, r.status = .active) {r : WorkspaceInstance} (hr : r ∈ t.rows) :
    newlySuspended (setStatusOf chosen .quotaSuspended t) r = true ↔ r ∈ chosen := by
  have hfind : t.find? r.id = some r := (Table.mem_rows_iff t r).mp hr
  unfold newlySuspended setStatusOf
  rw [Table.find?_updateWhere t _ (WorkspaceInstance.setStatus .quotaSuspended) (fun _ => rfl), hfind,
    Option.map_some, Option.any_some]
  by_cases hchosen : r ∈ chosen
  · rw [if_pos ((contains_chosen_iff hmem hr).mpr hchosen)]
    simp [hchosen, hactive r hchosen, WorkspaceInstance.setStatus]
  · rw [if_neg (fun h => hchosen ((contains_chosen_iff hmem hr).mp h))]
    cases hstatus : r.status <;> simp [hchosen]

theorem registers_setStatusOf (hnodup : chosen.Nodup) (hmem : ∀ r ∈ chosen, r ∈ t.rows)
    (status : InstanceStatus) (storeId : String) :
    countActivePosInstances (setStatusOf chosen status t) storeId =
      countActivePosInstances t storeId - chosen.countP (countedAt isPosType storeId) +
        chosen.countP (fun r => countedAt isPosType storeId (r.setStatus status)) :=
  Table.count_updateChosen t (WorkspaceInstance.setStatus status) (fun _ => rfl) _ hnodup hmem

end Chosen

theorem countedAt_setStatus (ofType : String → Bool) (storeId : String) (status : InstanceStatus)
    (r : WorkspaceInstance) :
    countedAt ofType storeId (r.setStatus status) =
      (r.storeId = storeId && ofType r.typeKey && status.counts) := rfl

section Suspend

variable (storeId : String) (tier : SubscriptionTier) (t : InstanceTable)

theorem mem_surplusActive {r : WorkspaceInstance} (h : r ∈ surplusActive storeId tier t) :
    r ∈ t.rows ∧ activeAt storeId r = true := by
  unfold surplusActive at h
  cases hcap : tier.maxPosInstances with
  | none => simp [hcap] at h
  | some limit =>
    simp only [hcap] at h
    exact mem_leastRecentActive.mp (List.mem_of_mem_take h)

theorem nodup_surplusActive : (surplusActive storeId tier t).Nodup := by
  unfold surplusActive
  cases tier.maxPosInstances with
  | none => exact List.nodup_nil
  | some limit => exact (nodup_ordered _ _ t).sublist (List.take_sublist _ _)

theorem length_surplusActive {limit : Int} (h : tier.maxPosInstances = some limit) :
    ((surplusActive storeId tier t).length : Int) =
      max (t.count (activeAt storeId) - limit) 0 := by
  have hlimit := maxPosInstances_nonneg h
  have hlength := length_leastRecentActive storeId t
  simp only [surplusActive, h, List.length_take]
  omega

theorem newlySuspended_suspend {r : WorkspaceInstance} (hr : r ∈ t.rows) :
    newlySuspended (suspendSurplusInstances storeId tier t).1 r = true ↔
      r ∈ surplusActive storeId tier t := by
  rw [suspendSurplus_eq]
  apply newlySuspended_iff
  · intro s hs
    exact (mem_surplusActive storeId tier t hs).1
  · intro s hs
    exact (activeAt_iff.mp (mem_surplusActive storeId tier t hs).2).2
  · exact hr

theorem count_newlySuspended :
    t.count (newlySuspended (suspendSurplusInstances storeId tier t).1) =
      (surplusActive storeId tier t).length := by
  have hmem : ∀ r ∈ surplusActive storeId tier t, r ∈ t.rows := by
    intro r hr
    exact (mem_surplusActive storeId tier t hr).1
  have hcount := Table.count_chosen t (fun _ => true) (nodup_surplusActive storeId tier t) hmem
  rw [List.countP_true] at hcount
  rw [← hcount, Table.count, Table.count, List.countP_congr]
  intro r hr
  rw [newlySuspended_suspend storeId tier t hr, Bool.true_and, contains_chosen_iff hmem hr]

theorem registers_of_count_eq {storeId : String} {t : InstanceTable}
    (h : t.count (activeAt storeId) = countActivePosInstances t storeId) {r : WorkspaceInstance}
    (hr : r ∈ t.rows) (hactive : activeAt storeId r = true) : isPosType r.typeKey = true := by
  have hsplit := Table.count_split t (activeAt storeId) (fun r => isPosType r.typeKey)
  have hregisters : countActivePosInstances t storeId =
      t.count (fun r => activeAt storeId r && isPosType r.typeKey) := by
    unfold countActivePosInstances
    congr 1
    funext r
    exact countedAt_eq isPosType storeId r
  have hnone : t.rows.countP (fun r => activeAt storeId r && !isPosType r.typeKey) = 0 := by
    unfold Table.count at hsplit h hregisters
    omega
  have hthis := List.countP_eq_zero.mp hnone r hr
  simpa [hactive] using hthis

theorem suspendsRegisters_iff :
    SuspendsRegisters storeId tier.maxPosInstances t (suspendSurplusInstances storeId tier t).1 ↔
      SuspensionFits storeId t tier.maxPosInstances := by
  cases hcap : tier.maxPosInstances with
  | none =>
    have hempty : surplusActive storeId tier t = [] := by simp [surplusActive, hcap]
    refine iff_of_true ⟨?_, ?_, ?_⟩ trivial
    · intro r hr hnew
      simp [newlySuspended_suspend storeId tier t hr, hempty] at hnew
    · simp [count_newlySuspended, hempty, surplusRegisters]
    · intro r hr other hother hnew
      simp [newlySuspended_suspend storeId tier t hr, hempty] at hnew
  | some limit =>
    have hlength := length_surplusActive storeId tier t hcap
    have hle := registers_le_active t storeId
    constructor
    · intro h
      have hexactly := h.exactly
      rw [count_newlySuspended, hlength, surplusRegisters] at hexactly
      unfold SuspensionFits
      omega
    · intro h
      unfold SuspensionFits at h
      have hregister : ∀ r ∈ surplusActive storeId tier t,
          countedAt isPosType storeId r = true := by
        intro r hr
        obtain ⟨hrow, hactive⟩ := mem_surplusActive storeId tier t hr
        rcases h with hfew | hall
        · have hnone : (surplusActive storeId tier t).length = 0 := by omega
          rw [List.length_eq_zero_iff.mp hnone] at hr
          cases hr
        · rw [countedAt_eq, hactive, registers_of_count_eq hall hrow hactive]
          rfl
      constructor
      · intro r hr hnew
        exact hregister r ((newlySuspended_suspend storeId tier t hr).mp hnew)
      · rw [count_newlySuspended, hlength, surplusRegisters]
        omega
      · intro r hr other hother hnew hcounted hspared
        have hchosen := (newlySuspended_suspend storeId tier t hr).mp hnew
        have hleft : other ∉ surplusActive storeId tier t := by
          intro hin
          rw [(newlySuspended_suspend storeId tier t hother).mpr hin] at hspared
          cases hspared
        rw [countedAt_eq, Bool.and_eq_true] at hcounted
        have hlisted := mem_leastRecentActive.mpr ⟨hother, hcounted.1⟩
        have hsorted := KeysetPage.pairwise_ordered WorkspaceInstance.accessed
          (t.rows.filter (activeAt storeId))
        change (leastRecentActive storeId t).Pairwise _ at hsorted
        simp only [surplusActive, hcap] at hchosen hleft
        rw [← List.take_append_drop (max (t.count (activeAt storeId) - limit) 0).toNat
          (leastRecentActive storeId t)] at hlisted hsorted
        rcases List.mem_append.mp hlisted with htaken | hdropped
        · exact absurd htaken hleft
        · exact (List.pairwise_append.mp hsorted).2.2 r hchosen other hdropped

end Suspend

section Recover

variable (storeId : String) (limit : Int) (t : InstanceTable)

def recovered : List WorkspaceInstance :=
  (mostRecentSuspended storeId t).take (freeSlots limit storeId t)

theorem autoRecover_eq {tier : SubscriptionTier} (h : tier.maxPosInstances = some limit) :
    (autoRecoverInstances storeId tier t).1 = setStatusOf (recovered storeId limit t) .active t := by
  unfold autoRecoverInstances recovered freeSlots
  simp only [h]
  by_cases hslots : max (limit - t.count (activeAt storeId)) 0 = 0
  · simp only [hslots, if_true]
    rw [Int.toNat_zero, List.take_zero, setStatusOf_nil]
  · simp only [hslots, if_false]

theorem mem_recovered {r : WorkspaceInstance} (h : r ∈ recovered storeId limit t) :
    r ∈ t.rows ∧ suspendedAt storeId r = true :=
  mem_mostRecentSuspended.mp (List.mem_of_mem_take h)

theorem registers_recovered :
    countActivePosInstances (setStatusOf (recovered storeId limit t) .active t) storeId =
      countActivePosInstances t storeId +
        (recovered storeId limit t).countP (fun r => isPosType r.typeKey) := by
  have hnodup : (recovered storeId limit t).Nodup :=
    (nodup_ordered _ _ t).sublist (List.take_sublist _ _)
  have hmem : ∀ r ∈ recovered storeId limit t, r ∈ t.rows :=
    fun r hr => (mem_recovered storeId limit t hr).1
  have hbefore : (recovered storeId limit t).countP (countedAt isPosType storeId) = 0 := by
    rw [List.countP_eq_zero]
    intro r hr hcounted
    have hsuspended := (suspendedAt_iff.mp (mem_recovered storeId limit t hr).2).2
    rw [(countedAt_iff.mp hcounted).2.2] at hsuspended
    cases hsuspended
  have hafter : (recovered storeId limit t).countP
      (fun r => countedAt isPosType storeId (r.setStatus .active)) =
        (recovered storeId limit t).countP (fun r => isPosType r.typeKey) := by
    apply List.countP_congr
    intro r hr
    have hstore := (suspendedAt_iff.mp (mem_recovered storeId limit t hr).2).1
    rw [countedAt_setStatus]
    simp [hstore]
  rw [registers_setStatusOf hnodup hmem, hbefore, hafter]
  omega

theorem waiting_iff :
    (∀ r ∈ (setStatusOf (recovered storeId limit t) .active t).rows,
        suspendedAt storeId r = true → isPosType r.typeKey = false) ↔
      ∀ r ∈ (mostRecentSuspended storeId t).drop (freeSlots limit storeId t),
        isPosType r.typeKey = false := by
  have hmem : ∀ r ∈ recovered storeId limit t, r ∈ t.rows :=
    fun r hr => (mem_recovered storeId limit t hr).1
  have hrows : (setStatusOf (recovered storeId limit t) .active t).rows = t.rows.map (fun r =>
      if ((recovered storeId limit t).map WorkspaceInstance.id).contains r.id then
        r.setStatus .active
      else r) := rfl
  have hsplit := List.take_append_drop (freeSlots limit storeId t) (mostRecentSuspended storeId t)
  rw [hrows]
  constructor
  · intro h r hr
    obtain ⟨hrow, hsuspended⟩ := mem_mostRecentSuspended.mp (List.mem_of_mem_drop hr)
    have hspared : r ∉ recovered storeId limit t := by
      intro hin
      have hnodup := nodup_ordered (fun r => OrderDual.toDual r.accessed) (suspendedAt storeId) t
      change (mostRecentSuspended storeId t).Nodup at hnodup
      rw [← hsplit, List.nodup_append] at hnodup
      exact hnodup.2.2 r hin r hr rfl
    apply h r _ hsuspended
    rw [List.mem_map]
    exact ⟨r, hrow, if_neg (fun hin => hspared ((contains_chosen_iff hmem hrow).mp hin))⟩
  · intro h r hr hsuspended
    obtain ⟨old, hrow, rfl⟩ := List.mem_map.mp hr
    by_cases hin : old ∈ recovered storeId limit t
    · rw [if_pos ((contains_chosen_iff hmem hrow).mpr hin)] at hsuspended
      have hstatus := (suspendedAt_iff.mp hsuspended).2
      cases hstatus
    · rw [if_neg (fun hc => hin ((contains_chosen_iff hmem hrow).mp hc))] at hsuspended ⊢
      have hlisted := mem_mostRecentSuspended.mpr ⟨hrow, hsuspended⟩
      rw [← hsplit] at hlisted
      rcases List.mem_append.mp hlisted with htaken | hdropped
      · exact absurd htaken hin
      · exact h old hdropped

theorem registers_within_recovered (h : countActivePosInstances t storeId ≤ limit) :
    countActivePosInstances (setStatusOf (recovered storeId limit t) .active t) storeId ≤ limit := by
  have hle := registers_le_active t storeId
  have htaken : (recovered storeId limit t).countP (fun r => isPosType r.typeKey) ≤
      freeSlots limit storeId t :=
    List.countP_le_length.trans (List.length_take_le _ _)
  rw [registers_recovered]
  unfold freeSlots at htaken
  omega

theorem recoversRegisters_iff (tier : SubscriptionTier) :
    RecoversRegisters storeId tier.maxPosInstances (autoRecoverInstances storeId tier t).1 ↔
      RecoveryFits storeId t tier.maxPosInstances := by
  cases hcap : tier.maxPosInstances with
  | none =>
    refine iff_of_true ⟨?_, ?_⟩ trivial
    · intro limit hlimit
      cases hlimit
    · intro hfree r hr hsuspended
      simp only [autoRecoverInstances, hcap, Table.updateWhere, List.mem_map] at hr
      obtain ⟨old, hrow, rfl⟩ := hr
      by_cases hold : suspendedAt storeId old = true
      · rw [if_pos hold] at hsuspended
        have hstatus := (suspendedAt_iff.mp hsuspended).2
        cases hstatus
      · rw [if_neg hold] at hsuspended
        exact absurd hsuspended hold
  | some limit =>
    have hle := registers_le_active t storeId
    have hrecovered := registers_recovered storeId limit t
    have hslots : ((freeSlots limit storeId t : Nat) : Int) =
        max (limit - t.count (activeAt storeId)) 0 := by
      unfold freeSlots
      omega
    have hlength : (recovered storeId limit t).length =
        min (freeSlots limit storeId t) (mostRecentSuspended storeId t).length := by
      unfold recovered
      exact List.length_take
    have hcount : (recovered storeId limit t).countP (fun r => isPosType r.typeKey) ≤
        (recovered storeId limit t).length := List.countP_le_length
    rw [autoRecover_eq storeId limit t hcap]
    unfold RecoveryFits
    constructor
    · intro h
      have hwithin := h.withinCap limit rfl
      refine ⟨by omega, ?_⟩
      by_cases hfull : countActivePosInstances
          (setStatusOf (recovered storeId limit t) .active t) storeId < limit
      · have hnone := h.noneWaits (by
          intro other hother
          cases hother
          exact hfull)
        exact .inl ((waiting_iff storeId limit t).mp hnone)
      · by_cases hat : countActivePosInstances t storeId = limit
        · exact .inr (.inl hat)
        · refine .inr (.inr ⟨by omega, by omega, ?_⟩)
          apply List.countP_eq_length.mp
          change (recovered storeId limit t).countP _ = (recovered storeId limit t).length
          omega
    · rintro ⟨hwithin, hfits⟩
      constructor
      · intro other hother
        cases hother
        exact registers_within_recovered storeId limit t hwithin
      · intro hfree
        have hbelow := hfree limit rfl
        rcases hfits with hnone | hat | ⟨hall, henough, hregisters⟩
        · exact (waiting_iff storeId limit t).mpr hnone
        · omega
        · have heq : (recovered storeId limit t).countP (fun r => isPosType r.typeKey) =
              (recovered storeId limit t).length := List.countP_eq_length.mpr hregisters
          omega

end Recover

section Gated

variable {storeId : String} {tier : SubscriptionTier} {t : InstanceTable}

theorem registers_elsewhere {other : String} {chosen : List WorkspaceInstance}
    (hnodup : chosen.Nodup) (hmem : ∀ r ∈ chosen, r ∈ t.rows)
    (hstore : ∀ r ∈ chosen, r.storeId = other) (hne : other ≠ storeId) (status : InstanceStatus) :
    countActivePosInstances (setStatusOf chosen status t) storeId =
      countActivePosInstances t storeId := by
  have hbefore : chosen.countP (countedAt isPosType storeId) = 0 := by
    rw [List.countP_eq_zero]
    intro r hr hcounted
    exact hne ((hstore r hr).symm.trans (countedAt_iff.mp hcounted).1)
  have hafter : chosen.countP (fun r => countedAt isPosType storeId (r.setStatus status)) = 0 := by
    rw [List.countP_eq_zero]
    intro r hr hcounted
    exact hne ((hstore r hr).symm.trans (countedAt_iff.mp hcounted).1)
  rw [registers_setStatusOf hnodup hmem, hbefore, hafter]
  omega

theorem registers_create {plan : Plan} {args : CreateWorkspaceInstanceArgs} {now : String}
    {u : InstanceTable} (htier : plan.tier = tier) (h : createGated plan args now t = .ok u)
    (hwithin : Within tier.maxPosInstances (countActivePosInstances t storeId)) :
    Within tier.maxPosInstances (countActivePosInstances u storeId) := by
  obtain ⟨_, hgate, hcreate⟩ := Except.of_do h
  obtain ⟨-, hinsert⟩ := createWorkspaceInstance_ok_iff.mp hcreate
  have hcount : countActivePosInstances u storeId = countActivePosInstances t storeId +
      if countedAt isPosType storeId (args.row now) then 1 else 0 := Table.count_insert? hinsert _
  rw [hcount]
  by_cases hnew : countedAt isPosType storeId (args.row now) = true
  · rw [if_pos hnew]
    obtain ⟨hstore, htype, -⟩ := countedAt_iff.mp hnew
    change args.storeId = storeId at hstore
    change isPosType args.typeKey = true at htype
    intro limit hlimit
    unfold enforceInstanceQuota at hgate
    by_cases hallowed : (!plan.allows args.typeKey) = true
    · rw [if_pos hallowed] at hgate
      cases hgate
    · rw [if_neg hallowed, if_pos htype, htier, hlimit, hstore] at hgate
      by_cases hfull : limit ≤ countActivePosInstances t storeId
      · simp [refuseAt, hfull] at hgate
      · omega
  · rw [if_neg hnew, Int.add_zero]
    exact hwithin

theorem registers_suspend (other : String) (tier' : SubscriptionTier) :
    countActivePosInstances (suspendSurplusInstances other tier' t).1 storeId ≤
      countActivePosInstances t storeId := by
  have hafter : (surplusActive other tier' t).countP
      (fun r => countedAt isPosType storeId (r.setStatus .quotaSuspended)) = 0 := by
    rw [List.countP_eq_zero]
    intro r hr hcounted
    have hstatus := (countedAt_iff.mp hcounted).2.2
    cases hstatus
  rw [suspendSurplus_eq, registers_setStatusOf (nodup_surplusActive other tier' t)
    (fun r hr => (mem_surplusActive other tier' t hr).1), hafter]
  omega

theorem registers_recover (other : String)
    (hwithin : Within tier.maxPosInstances (countActivePosInstances t storeId)) :
    Within tier.maxPosInstances
      (countActivePosInstances (autoRecoverInstances other tier t).1 storeId) := by
  intro limit hlimit
  have hbefore := hwithin limit hlimit
  rw [autoRecover_eq other limit t hlimit]
  by_cases hsame : other = storeId
  · subst hsame
    exact registers_within_recovered other limit t hbefore
  · have hnodup : (recovered other limit t).Nodup :=
      (nodup_ordered _ _ t).sublist (List.take_sublist _ _)
    rw [registers_elsewhere hnodup (fun r hr => (mem_recovered other limit t hr).1)
      (fun r hr => (suspendedAt_iff.mp (mem_recovered other limit t hr).2).1) hsame]
    exact hbefore

theorem registers_step (e : InstanceEvent)
    (hwithin : Within tier.maxPosInstances (countActivePosInstances t storeId))
    (hgated : e.gatedUnder tier) :
    Within tier.maxPosInstances
      (countActivePosInstances (instanceMachine.step t e).1 storeId) := by
  cases e with
  | create plan args now =>
    cases hcreate : createGated plan args now t with
    | error e => simpa [instanceMachine, hcreate] using hwithin
    | ok u => simpa [instanceMachine, hcreate] using registers_create hgated hcreate hwithin
  | archive id =>
    cases harchive : archiveInstance id t with
    | error e => simpa [instanceMachine, harchive] using hwithin
    | ok u =>
      simp only [instanceMachine, harchive]
      obtain ⟨hsome, rfl⟩ := archiveInstance_ok_iff.mp harchive
      obtain ⟨old, hold⟩ := Option.isSome_iff_exists.mp hsome
      have hcount := Table.count_update t (countedAt isPosType storeId) WorkspaceInstance.archived
        (fun _ => rfl) hold
      have hgone : countedAt isPosType storeId old.archived = false := by
        simp [countedAt, WorkspaceInstance.archived]
      rw [hgone, if_neg Bool.false_ne_true] at hcount
      apply hwithin.mono
      unfold countActivePosInstances
      rw [hcount]
      by_cases hcounted : countedAt isPosType storeId old = true
      · rw [if_pos hcounted]
        omega
      · rw [if_neg hcounted]
        omega
  | touch id now =>
    have hsame : countActivePosInstances (touchInstanceAccess id now t) storeId =
        countActivePosInstances t storeId := by
      unfold touchInstanceAccess countActivePosInstances
      cases hold : t.find? id with
      | none =>
        have hrows : (t.update id (WorkspaceInstance.touched now) (fun _ => rfl)).rows = t.rows := by
          have hmiss := (Table.find?_eq_none_iff t id).mp hold
          change t.rows.map _ = t.rows
          conv_rhs => rw [← List.map_id t.rows]
          apply List.map_congr_left
          intro r hr
          exact if_neg (hmiss r hr)
        exact Table.count_congr hrows _
      | some old =>
        rw [Table.count_update t _ (WorkspaceInstance.touched now) (fun _ => rfl) hold]
        have htouched : countedAt isPosType storeId (old.touched now) =
            countedAt isPosType storeId old := rfl
        rw [htouched]
        omega
    change Within _ (countActivePosInstances (touchInstanceAccess id now t) storeId)
    rw [hsame]
    exact hwithin
  | suspend other tier' => exact hwithin.mono (registers_suspend other tier')
  | recover other tier' =>
    have htier : tier' = tier := hgated
    rw [htier]
    exact registers_recover other hwithin

theorem registers_run (start : InstanceTable) (events : List InstanceEvent)
    (hempty : ∀ row ∈ start.rows, row.storeId ≠ storeId)
    (hgated : ∀ e ∈ events, e.gatedUnder tier) :
    Within tier.maxPosInstances
      (countActivePosInstances (instanceMachine.run start events) storeId) := by
  have hstart : Within tier.maxPosInstances (countActivePosInstances start storeId) := by
    have hzero : start.rows.countP (countedAt isPosType storeId) = 0 := by
      rw [List.countP_eq_zero]
      intro r hr hcounted
      exact hempty r hr (countedAt_iff.mp hcounted).1
    intro limit hlimit
    have hlimit := maxPosInstances_nonneg hlimit
    unfold countActivePosInstances Table.count
    omega
  clear hempty
  induction events generalizing start with
  | nil => exact hstart
  | cons e events ih =>
    apply ih
    · intro d hd
      exact hgated d (List.mem_cons_of_mem e hd)
    · exact registers_step e hstart (hgated e List.mem_cons_self)

theorem suspends_nothing (hwithin : Within tier.maxPosInstances (countActivePosInstances t storeId))
    (hfits : SuspensionFits storeId t tier.maxPosInstances) :
    (suspendSurplusInstances storeId tier t).1 = t := by
  unfold suspendSurplusInstances
  cases hcap : tier.maxPosInstances with
  | none => rfl
  | some limit =>
    rw [hcap] at hwithin hfits
    have hregisters := hwithin limit rfl
    unfold SuspensionFits at hfits
    have hzero : max (t.count (activeAt storeId) - limit) 0 = 0 := by omega
    simp only [hzero, if_true]

end Gated

/-- Suspension agrees with the gate of creations in a run just where the counts agree. -/
theorem suspensionAgrees_iff (start : InstanceTable) (events : List InstanceEvent) :
    SuspensionAgrees start events ↔ instanceMachine.Along CountsAgree start events := by
  have hsplit : ∀ t e, CountsAgree t e ↔ SuspendsAt t e ∧ RecoversAt t e := by
    intro t e
    cases e with
    | create plan args now => simp [CountsAgree, SuspendsAt, RecoversAt]
    | archive id => simp [CountsAgree, SuspendsAt, RecoversAt]
    | touch id now => simp [CountsAgree, SuspendsAt, RecoversAt]
    | suspend storeId tier =>
      exact (suspendsRegisters_iff storeId tier t).symm.trans (and_iff_left trivial).symm
    | recover storeId tier =>
      exact (recoversRegisters_iff storeId t tier).symm.trans (and_iff_right trivial).symm
  constructor
  · intro h
    rw [Machine.along_iff_splits]
    intro l e r hevents
    rw [hsplit]
    exact ⟨(instanceMachine.along_iff_splits _ _ _).mp h.suspends l e r hevents,
      (instanceMachine.along_iff_splits _ _ _).mp h.recovers l e r hevents⟩
  · intro h
    refine ⟨?_, ?_, ?_⟩
    · exact instanceMachine.along_mono (fun t e ht => ((hsplit t e).mp ht).1) start events h
    · exact instanceMachine.along_mono (fun t e ht => ((hsplit t e).mp ht).2) start events h
    · intro storeId tier l r hevents hempty hgated
      have hfits := (instanceMachine.along_iff_splits _ _ _).mp h l _ r hevents
      exact suspends_nothing (registers_run start l hempty hgated) hfits

def plusPlan : Plan := ⟨.plus, SubscriptionTier.plus.allowsWorkspaceType⟩

/-- A warehouse and the two registers of a Plus store, all through the gate, then a suspension
under the same tier. -/
def mixedStoreRun : List InstanceEvent :=
  [.create plusPlan ⟨"wh-1", "warehouse", "store-1", "Depot", "general"⟩ "2026-09-30T08:00:00.000Z",
    .create plusPlan ⟨"pos-1", "store-pos", "store-1", "Till 1", "general"⟩
      "2026-09-30T08:01:00.000Z",
    .create plusPlan ⟨"pos-2", "store-pos", "store-1", "Till 2", "general"⟩
      "2026-09-30T08:02:00.000Z"]

theorem mixedStore_suspends_warehouse :
    ¬ SuspensionAgrees Table.empty (mixedStoreRun ++ [.suspend "store-1" .plus]) := by
  intro h
  have hgated : ∀ e ∈ mixedStoreRun, e.gatedUnder .plus := by
    intro e he
    simp only [mixedStoreRun, List.mem_cons, List.not_mem_nil, or_false] at he
    rcases he with rfl | rfl | rfl <;> rfl
  have hsame := h.gated "store-1" .plus mixedStoreRun [] rfl (by simp [Table.empty]) hgated
  have hrows := congrArg Table.rows hsame
  revert hrows
  decide +kernel

end OzPos
