import OzPos.Topology.Compensation

namespace OzPos

def stopsFirst : Cut → Bool
  | some (.compensate, _) => true
  | _ => false

namespace TopologyApply

variable (a : TopologyApply) (d : TopologyDraw)

def opened (w : TopologyWorld) : TopologyWorld :=
  (recoverPendingTopologyApply a.effectiveStoreId d.opening w).1

def WritesJournal (w : TopologyWorld) : Prop :=
  (recoverPendingTopologyApply a.effectiveStoreId d.opening w).2 = some (.ok ()) ∧
    ∃ j, a.prepare d (a.opened d w) = .ok j

variable (t : InstanceTable)

def commits : Bool := d.atStore.isNone && (a.workspaceWrites d t).isOk

/-- The Apply ends with its journal in place: its store did not commit, or it stopped before the
diagram was saved, or saving it failed and the compensation stopped. -/
def leavesJournal : Bool :=
  !a.commits d t || d.atSave.isSome || (d.save.isSome && d.undo.isSome)

def stands : Bool :=
  a.commits d t && (d.atSave.isSome || d.save.isNone || stopsFirst d.undo)

end TopologyApply

namespace TopologyApply

variable {a : TopologyApply} {d : TopologyDraw}

variable {j : TopologyApplyRecovery} {w : TopologyWorld}

theorem prepare_ok (h : a.prepare d w = .ok j) :
    w.currentTopologyRevision a.branchId = a.baseRevision ∧
      ∃ snapshots, snapshotWorkspaceRows w.instances a.touched = .ok snapshots ∧
        j = ⟨a.effectiveStoreId, a.branchId, a.creations, snapshots, w.topologies a.branchId,
          some a.desired⟩ := by
  unfold prepare at h
  obtain ⟨-, -, h⟩ := Except.of_do h
  obtain ⟨_, hrevision, h⟩ := Except.of_do h
  obtain ⟨snapshots, hsnapshots, h⟩ := Except.of_do h
  obtain ⟨-, -, h⟩ := Except.of_do h
  obtain ⟨-, -, h⟩ := Except.of_do h
  obtain ⟨-, -, h⟩ := Except.of_do h
  refine ⟨?_, snapshots, hsnapshots, (Except.ok.inj h).symm⟩
  unfold checkRevision at hrevision
  by_cases heq : w.currentTopologyRevision a.branchId = a.baseRevision
  · exact heq
  · simp [heq] at hrevision

variable {before : TopologyWorld}

theorem find?_compensated (h : a.prepare d before = .ok j) (w : TopologyWorld) (id : String) :
    (j.compensateWorkspaceDiff w).instances.find? id =
      a.undone before.instances id (w.instances.find? id) := by
  obtain ⟨-, snapshots, hsnapshots, rfl⟩ := prepare_ok h
  simp only [TopologyApplyRecovery.compensateWorkspaceDiff]
  rw [find?_restoreSnapshots hsnapshots, find?_deleteCreations]
  unfold undone creationIds
  by_cases hid : id ∈ a.creations.map WorkspaceCreation.id
  · simp [hid]
  · simp [hid]

theorem setTopology_own (w : TopologyWorld) (branchId : Option String) :
    w.setTopology branchId (w.topologies branchId) = w := by
  have hsame : (fun b => if b = branchId then w.topologies branchId else w.topologies b) =
      w.topologies := by
    funext b
    by_cases hb : b = branchId
    · simp [hb]
    · simp [hb]
  unfold TopologyWorld.setTopology
  rw [hsame]

theorem restoreTopologySetting_same (h : a.prepare d before = .ok j)
    (hw : w.topologies = before.topologies) : j.restoreTopologySetting w = w := by
  obtain ⟨-, snapshots, -, rfl⟩ := prepare_ok h
  unfold TopologyApplyRecovery.restoreTopologySetting
  simp only
  rw [← hw]
  exact setTopology_own w a.branchId

theorem saveTopology_eq (h : a.prepare d before = .ok j) (hw : w.topologies = before.topologies)
    (hsave : d.save = none) :
    a.saveTopology d w = .ok (w.setTopology a.branchId (some a.desired)).cleared := by
  obtain ⟨hrevision, -⟩ := prepare_ok h
  have hcurrent : w.currentTopologyRevision a.branchId = a.baseRevision := by
    rw [← hrevision, TopologyWorld.currentTopologyRevision, hw]
    rfl
  have hcheck : a.checkRevision w = .ok () := by simp [checkRevision, hcurrent]
  simp only [saveTopology, hsave, hcheck, hcurrent]
  rfl

inductive AppliedEnd (a : TopologyApply) (d : TopologyDraw) (before : TopologyWorld)
    (j : TopologyApplyRecovery) : TopologyWorld → Prop where
  | uncommitted (hcommits : a.commits d before.instances = false) :
      AppliedEnd a d before j { before with journal := some j }
  | standing {t : InstanceTable} (hwrites : a.workspaceWrites d before.instances = .ok t)
      (hstands : a.stands d before.instances = true)
      (hleft : a.leavesJournal d before.instances = true) :
      AppliedEnd a d before j { before with instances := t, journal := some j }
  | compensated {t : InstanceTable} (hwrites : a.workspaceWrites d before.instances = .ok t)
      (hstands : a.stands d before.instances = false)
      (hleft : a.leavesJournal d before.instances = true) :
      AppliedEnd a d before j
        (j.compensateWorkspaceDiff { before with instances := t, journal := some j })
  | withdrawn {t : InstanceTable} (hwrites : a.workspaceWrites d before.instances = .ok t)
      (hleft : a.leavesJournal d before.instances = false) :
      AppliedEnd a d before j
        (j.compensateWorkspaceDiff { before with instances := t, journal := some j }).cleared
  | saved {t : InstanceTable} (hwrites : a.workspaceWrites d before.instances = .ok t)
      (hleft : a.leavesJournal d before.instances = false) :
      AppliedEnd a d before j
        (TopologyWorld.setTopology a.branchId (some a.desired)
          { before with instances := t, journal := some j }).cleared

theorem saveDiagram_end (h : a.prepare d before = .ok j) {t : InstanceTable}
    (hwrites : a.workspaceWrites d before.instances = .ok t)
    (hcommits : a.commits d before.instances = true) :
    AppliedEnd a d before j
      (a.saveDiagram d j { before with instances := t, journal := some j }).1 := by
  unfold saveDiagram
  cases hsave : d.atSave with
  | some halt =>
    exact .standing hwrites (by simp [stands, hcommits, hsave]) (by simp [leavesJournal, hsave])
  | none =>
    cases hfails : d.save with
    | none =>
      have hsaved := saveTopology_eq h (w := { before with instances := t, journal := some j }) rfl
        hfails
      simp only [hsaved]
      exact .saved hwrites (by simp [leavesJournal, hcommits, hsave, hfails])
    | some e =>
      have hfailed : a.saveTopology d { before with instances := t, journal := some j } =
          .error e := by
        simp [saveTopology, hfails]
      simp only [hfailed]
      have hback := restoreTopologySetting_same h
        (w := j.compensateWorkspaceDiff { before with instances := t, journal := some j }) rfl
      cases hundo : d.undo with
      | none =>
        simp only [TopologyApplyRecovery.compensate]
        rw [hback]
        exact .withdrawn hwrites (by simp [leavesJournal, hcommits, hsave, hundo])
      | some cut =>
        obtain ⟨step, halt⟩ := cut
        have hleft : a.leavesJournal d before.instances = true := by
          simp [leavesJournal, hfails, hundo]
        cases step with
        | compensate =>
          exact .standing hwrites (by simp [stands, hcommits, hundo, stopsFirst]) hleft
        | restore =>
          exact .compensated hwrites (by simp [stands, hsave, hfails, hundo, stopsFirst]) hleft
        | clear =>
          simp only [TopologyApplyRecovery.compensate]
          rw [hback]
          exact .compensated hwrites (by simp [stands, hsave, hfails, hundo, stopsFirst]) hleft

theorem applyTopologyDiff_end (h : a.WritesJournal d w) :
    ∃ j, a.prepare d (a.opened d w) = .ok j ∧
      AppliedEnd a d (a.opened d w) j (a.applyTopologyDiff d w).1 := by
  obtain ⟨hopen, j, hprepare⟩ := h
  refine ⟨j, hprepare, ?_⟩
  have hrecover : recoverPendingTopologyApply a.effectiveStoreId d.opening w =
      (a.opened d w, some (.ok ())) := Prod.ext rfl hopen
  unfold applyTopologyDiff
  simp only [hrecover, hprepare]
  unfold applyJournaled
  cases hstore : d.atStore with
  | some halt => exact .uncommitted (by simp [commits, hstore])
  | none =>
    simp only
    cases hwrites : a.workspaceWrites d (a.opened d w).instances with
    | error e => exact .uncommitted (by simp [commits, hwrites, Except.isOk, Except.toBool])
    | ok t =>
      exact saveDiagram_end hprepare hwrites
        (by simp [commits, hstore, hwrites, Except.isOk, Except.toBool])

/-- What the Apply leaves with its journal in place. -/
structure Pending (a : TopologyApply) (d : TopologyDraw) (before : TopologyWorld)
    (j : TopologyApplyRecovery) (after : TopologyWorld) : Prop where
  topologies : after.topologies = before.topologies
  journal : after.journal = some j
  there : ∀ id r, before.instances.find? id = some r → id ∉ a.creationIds →
    ∃ s, after.instances.find? id = some s ∧ (id ∉ a.touched → s = r)
  fallen : a.stands d before.instances = false →
    ∀ id, after.instances.find? id = before.instances.find? id
  standing : a.stands d before.instances = true →
    ∃ t, a.workspaceWrites d before.instances = .ok t ∧ after.instances = t

theorem find?_taken_back
    (h : a.prepare d before = .ok j) {t : InstanceTable}
    (hwrites : a.workspaceWrites d before.instances = .ok t) (id : String) :
    (j.compensateWorkspaceDiff { before with instances := t, journal := some j }).instances.find? id =
      before.instances.find? id := by
  rw [find?_compensated h]
  exact undone_writes hwrites id

theorem AppliedEnd.pending {after : TopologyWorld}
    (h : a.prepare d before = .ok j) (hend : AppliedEnd a d before j after)
    (hleft : a.leavesJournal d before.instances = true) : Pending a d before j after := by
  cases hend with
  | uncommitted hcommits =>
    have hfalls : a.stands d before.instances = false := by simp [stands, hcommits]
    exact ⟨rfl, rfl, fun id r hr _ => ⟨r, hr, fun _ => rfl⟩, fun _ id => rfl,
      fun hstands => by simp [hfalls] at hstands⟩
  | standing hwrites hstands _ =>
    refine ⟨rfl, rfl, ?_, fun hfalls => by simp [hfalls] at hstands, fun _ => ⟨_, hwrites, rfl⟩⟩
    intro id r hr hid
    obtain ⟨s, hs, -, hsame⟩ := ((workspaceWrites_ok hwrites id).2 hid).2 r hr
    exact ⟨s, hs, hsame⟩
  | compensated hwrites hfalls _ =>
    have hsame := find?_taken_back h hwrites
    exact ⟨rfl, rfl, fun id r hr _ => ⟨r, by rw [hsame id, hr], fun _ => rfl⟩, fun _ id => hsame id,
      fun hstands => by simp [hfalls] at hstands⟩
  | withdrawn _ hnot => simp [hleft] at hnot
  | saved _ hnot => simp [hleft] at hnot

theorem AppliedEnd.settled {after : TopologyWorld} (h : a.prepare d before = .ok j)
    (hend : AppliedEnd a d before j after) (hleft : a.leavesJournal d before.instances = false) :
    after.journal = none ∧
      ((after.topologies = before.topologies ∧
          ∀ id, after.instances.find? id = before.instances.find? id) ∨
        (a.workspaceWrites d before.instances = .ok after.instances ∧
          after.topologies a.branchId = some a.desired)) := by
  cases hend with
  | uncommitted hcommits => simp [leavesJournal, hcommits] at hleft
  | standing _ _ hnot => simp [hleft] at hnot
  | compensated _ _ hnot => simp [hleft] at hnot
  | withdrawn hwrites _ => exact ⟨rfl, .inl ⟨rfl, find?_taken_back h hwrites⟩⟩
  | saved hwrites _ => exact ⟨rfl, .inr ⟨hwrites, if_pos rfl⟩⟩

end TopologyApply

variable (runs : List (String × Cut))

theorem recoverRuns_settled {w : TopologyWorld}
    (h : w.journal = none) : recoverRuns runs w = w := by
  induction runs with
  | nil => rfl
  | cons run rest ih =>
    have hstep : (recoverPendingTopologyApply run.1 run.2 w).1 = w := by
      simp [recoverPendingTopologyApply, h]
    rw [recoverRuns, hstep, ih]

theorem recoverRuns_finished {w : TopologyWorld}
    {j : TopologyApplyRecovery} (hj : w.journal = some j) (hfinished : j.finished w = true) :
    recoverRuns runs w = w ∨ recoverRuns runs w = w.cleared := by
  induction runs with
  | nil => exact .inl rfl
  | cons run rest ih =>
    obtain ⟨expectedStoreId, cut⟩ := run
    rw [recoverRuns]
    simp only [recoverPendingTopologyApply, hj, hfinished, if_true]
    by_cases hstore : j.storeId = expectedStoreId
    · cases cut with
      | none =>
        simp only [ne_eq, hstore, not_true_eq_false, if_false]
        exact .inr (recoverRuns_settled rest rfl)
      | some step =>
        simp only [ne_eq, hstore, not_true_eq_false, if_false]
        exact ih
    · simp only [ne_eq, hstore, not_false_eq_true, if_true]
      exact ih

namespace TopologyApply

variable {a : TopologyApply} {d : TopologyDraw}

variable {before w : TopologyWorld} {j : TopologyApplyRecovery}

theorem finished_iff (h : a.prepare d before = .ok j) (hw : w.topologies = before.topologies) :
    j.finished w = true ↔ before.topologies a.branchId = some a.desired := by
  obtain ⟨-, snapshots, -, rfl⟩ := prepare_ok h
  simp [TopologyApplyRecovery.finished, hw]

/-- A recovery under way: the instances are as it found them, or compensated. -/
def Recovering (a : TopologyApply) (before : TopologyWorld) (j : TopologyApplyRecovery)
    (edited w : TopologyWorld) : Prop :=
  w.topologies = before.topologies ∧
    ((w.journal = some j ∧ w.instances = edited.instances) ∨
      ((w.journal = some j ∨ w.journal = none) ∧
        ∀ id, w.instances.find? id = a.undone before.instances id (edited.instances.find? id)))

variable {edited : TopologyWorld}

theorem find?_compensated_again
    (h : a.prepare d before = .ok j) (hw : a.Recovering before j edited w) (id : String) :
    (j.compensateWorkspaceDiff w).instances.find? id =
      a.undone before.instances id (edited.instances.find? id) := by
  rw [find?_compensated h]
  rcases hw.2 with ⟨-, hsame⟩ | ⟨-, hundone⟩
  · rw [hsame]
  · rw [hundone, undone_idem]

theorem recovering_step
    (h : a.prepare d before = .ok j) (hne : before.topologies a.branchId ≠ some a.desired)
    (hw : a.Recovering before j edited w) (expectedStoreId : String) (cut : Cut) :
    a.Recovering before j edited (recoverPendingTopologyApply expectedStoreId cut w).1 := by
  unfold recoverPendingTopologyApply
  cases hjournal : w.journal with
  | none => exact hw
  | some j' =>
    have hj : j' = j := by
      rcases hw.2 with ⟨hsome, -⟩ | ⟨hsome | hnone, -⟩
      · exact Option.some.inj (hjournal.symm.trans hsome)
      · exact Option.some.inj (hjournal.symm.trans hsome)
      · rw [hjournal] at hnone
        cases hnone
    subst hj
    have hfinished : j'.finished w = false := by
      rw [← Bool.not_eq_true, finished_iff h hw.1]
      exact hne
    have hagain := find?_compensated_again h hw
    have hback := restoreTopologySetting_same h (w := j'.compensateWorkspaceDiff w) hw.1
    by_cases hstore : j'.storeId = expectedStoreId
    · simp only [ne_eq, hstore, not_true_eq_false, if_false, hfinished, Bool.false_eq_true]
      cases cut with
      | none =>
        simp only [TopologyApplyRecovery.compensate]
        rw [hback]
        exact ⟨hw.1, .inr ⟨.inr rfl, hagain⟩⟩
      | some cut =>
        obtain ⟨step, halt⟩ := cut
        cases step with
        | compensate => exact hw
        | restore => exact ⟨hw.1, .inr ⟨.inl hjournal, hagain⟩⟩
        | clear =>
          simp only [TopologyApplyRecovery.compensate]
          rw [hback]
          exact ⟨hw.1, .inr ⟨.inl hjournal, hagain⟩⟩
    · simp only [ne_eq, hstore, not_false_eq_true, if_true]
      exact hw

theorem recovering_runs (h : a.prepare d before = .ok j)
    (hne : before.topologies a.branchId ≠ some a.desired) (runs : List (String × Cut))
    (hw : a.Recovering before j edited w) : a.Recovering before j edited (recoverRuns runs w) := by
  induction runs generalizing w with
  | nil => exact hw
  | cons run rest ih => exact ih (recovering_step h hne hw run.1 run.2)

end TopologyApply

end OzPos
