import OzPos.Topology.ApplyEnds

namespace OzPos

namespace TopologyApply

variable (a : TopologyApply) (d : TopologyDraw)

variable (before : TopologyWorld) (edits : List WorkspaceEdit) (w : TopologyWorld)

/-- Both databases hold the result, the store with the later edits. -/
def HoldsResult : Prop :=
  (∃ t, a.workspaceWrites d before.instances = .ok t ∧
    w.instances = WorkspaceEdit.applyAll edits t) ∧ w.topologies a.branchId = some a.desired

/-- Every instance of before is there, with the name, the purpose and the status that the later
edits give it, and the diagram is the one of before. -/
def HoldsPrevious : Prop :=
  (∀ r ∈ before.instances.rows, ∃ s ∈ w.instances.rows,
    s.snapshot = (WorkspaceEdit.expected edits r).snapshot) ∧
    w.topologies a.branchId = before.topologies a.branchId

/-- Only instances that the Apply created are gone. -/
def Spares (before after edited w : TopologyWorld) : Prop :=
  ∀ r ∈ edited.instances.rows, (∀ s ∈ w.instances.rows, s.id ≠ r.id) →
    before.instances.find? r.id = none ∧ (after.instances.find? r.id).isSome

def AllOrNothing (edits : List WorkspaceEdit) (runs : List (String × Cut)) : Prop :=
  let before := a.opened d w
  let after := (a.applyTopologyDiff d w).1
  let edited := after.edited edits
  let last := recoverRuns runs edited
  Spares before after edited last ∧
    (last.journal = none → a.HoldsResult d before edits last ∨ a.HoldsPrevious before edits last)

/-- The ids of the creations are those of the Apply alone, and the later edits leave what it
updates and archives as it was. -/
def KeptApart (t : InstanceTable) (edits : List WorkspaceEdit) : Prop :=
  (∀ id ∈ a.creationIds, t.find? id = none) ∧
    (a.stands d t = false → ∀ id ∈ a.creationIds, ∀ e ∈ edits, e.brings ≠ some id) ∧
    ∀ id ∈ a.touched, ∀ r, t.find? id = some r →
      (WorkspaceEdit.expected edits r).snapshot = r.snapshot

end TopologyApply

namespace TopologyApply

variable {a : TopologyApply} {d : TopologyDraw}

theorem expected_id (edits : List WorkspaceEdit) (r : WorkspaceInstance) :
    (WorkspaceEdit.expected edits r).id = r.id := by
  induction edits generalizing r with
  | nil => rfl
  | cons e rest ih =>
    have hrow : (e.onRow r).id = r.id := by
      cases e with
      | create args now => rfl
      | update k name =>
        simp only [WorkspaceEdit.onRow]
        split <;> rfl
      | archive k =>
        simp only [WorkspaceEdit.onRow]
        split <;> rfl
      | setStatus ids status =>
        simp only [WorkspaceEdit.onRow]
        split <;> rfl
      | touch k now =>
        simp only [WorkspaceEdit.onRow]
        split <;> rfl
    exact (ih (e.onRow r)).trans hrow

variable {w before : TopologyWorld} {edits : List WorkspaceEdit}

theorem holdsPrevious_iff :
    a.HoldsPrevious before edits w ↔
      (∀ id r, before.instances.find? id = some r →
        ∃ s, w.instances.find? id = some s ∧
          s.snapshot = (WorkspaceEdit.expected edits r).snapshot) ∧
        w.topologies a.branchId = before.topologies a.branchId := by
  unfold HoldsPrevious
  refine and_congr_left (fun _ => ?_)
  constructor
  · intro h id r hr
    obtain ⟨hmem, hid⟩ := (Table.find?_eq_some_iff _ _ _).mp hr
    obtain ⟨s, hs, hsnapshot⟩ := h r hmem
    refine ⟨s, (Table.find?_eq_some_iff _ _ _).mpr ⟨hs, ?_⟩, hsnapshot⟩
    have hsid : s.id = (WorkspaceEdit.expected edits r).id :=
      congrArg WorkspaceApplySnapshot.id hsnapshot
    rw [hsid, expected_id, hid]
  · intro h r hr
    obtain ⟨s, hs, hsnapshot⟩ := h r.id r ((Table.mem_rows_iff _ _).mp hr)
    exact ⟨s, ((Table.find?_eq_some_iff _ _ _).mp hs).1, hsnapshot⟩

variable {after : TopologyWorld}

theorem spares_iff {edited : TopologyWorld} :
    Spares before after edited w ↔
      ∀ id r, edited.instances.find? id = some r → w.instances.find? id = none →
        before.instances.find? id = none ∧ (after.instances.find? id).isSome := by
  unfold Spares
  constructor
  · intro h id r hr hnone
    obtain ⟨hmem, hid⟩ := (Table.find?_eq_some_iff _ _ _).mp hr
    subst hid
    exact h r hmem ((Table.find?_eq_none_iff _ _).mp hnone)
  · intro h r hr hnone
    exact h r.id r ((Table.mem_rows_iff _ _).mp hr) ((Table.find?_eq_none_iff _ _).mpr hnone)

theorem spares_same {edited : TopologyWorld}
    (h : w.instances = edited.instances) : Spares before after edited w := by
  rw [spares_iff]
  intro id r hr hnone
  rw [h, hr] at hnone
  cases hnone

theorem holdsPrevious_edited (hsame : ∀ id, after.instances.find? id = before.instances.find? id)
    (hw : w.instances = (after.edited edits).instances)
    (htopology : w.topologies a.branchId = before.topologies a.branchId) :
    a.HoldsPrevious before edits w := by
  rw [holdsPrevious_iff]
  refine ⟨?_, htopology⟩
  intro id r hr
  rw [← hsame id] at hr
  rw [hw]
  exact ⟨_, WorkspaceEdit.find?_applyAll_of_some edits hr, rfl⟩

theorem holdsResult_edited (hwrites : a.workspaceWrites d before.instances = .ok after.instances)
    (hw : w.instances = (after.edited edits).instances)
    (htopology : w.topologies a.branchId = some a.desired) : a.HoldsResult d before edits w :=
  ⟨⟨_, hwrites, hw⟩, htopology⟩

theorem allOrNothing_of_settled (h : a.WritesJournal d w)
    (hleft : a.leavesJournal d (a.opened d w).instances = false) (edits : List WorkspaceEdit)
    (runs : List (String × Cut)) : a.AllOrNothing d w edits runs := by
  obtain ⟨j, hprepare, hend⟩ := applyTopologyDiff_end h
  obtain ⟨hjournal, hends⟩ := hend.settled hprepare hleft
  unfold AllOrNothing
  dsimp only
  generalize (a.applyTopologyDiff d w).1 = after at *
  have hruns : recoverRuns runs (after.edited edits) = after.edited edits :=
    recoverRuns_settled runs hjournal
  rw [hruns]
  refine ⟨spares_same rfl, fun _ => ?_⟩
  rcases hends with ⟨htopologies, hsame⟩ | ⟨hwrites, htopology⟩
  · exact .inr (holdsPrevious_edited hsame rfl (congrFun htopologies a.branchId))
  · exact .inl (holdsResult_edited hwrites rfl htopology)

theorem allOrNothing_of_finished (h : a.WritesJournal d w)
    (hleft : a.leavesJournal d (a.opened d w).instances = true)
    (hfinished : (a.opened d w).topologies a.branchId = some a.desired)
    (edits : List WorkspaceEdit) (runs : List (String × Cut)) : a.AllOrNothing d w edits runs := by
  obtain ⟨j, hprepare, hend⟩ := applyTopologyDiff_end h
  have hpending := hend.pending hprepare hleft
  unfold AllOrNothing
  dsimp only
  generalize (a.applyTopologyDiff d w).1 = after at *
  have hruns := recoverRuns_finished runs (w := after.edited edits) hpending.journal
    ((finished_iff hprepare hpending.topologies).mpr hfinished)
  generalize recoverRuns runs (after.edited edits) = last at *
  have hinstances : last.instances = (after.edited edits).instances := by
    rcases hruns with rfl | rfl <;> rfl
  have htopologies : last.topologies = (a.opened d w).topologies := by
    rw [← hpending.topologies]
    rcases hruns with rfl | rfl <;> rfl
  refine ⟨spares_same hinstances, fun _ => ?_⟩
  cases hstands : a.stands d (a.opened d w).instances with
  | true =>
    obtain ⟨t, hwrites, ht⟩ := hpending.standing hstands
    rw [← ht] at hwrites
    exact .inl (holdsResult_edited hwrites hinstances (by rw [htopologies, hfinished]))
  | false =>
    exact .inr (holdsPrevious_edited (hpending.fallen hstands) hinstances
      (congrFun htopologies a.branchId))

theorem allOrNothing_of_keptApart (h : a.WritesJournal d w)
    (hleft : a.leavesJournal d (a.opened d w).instances = true)
    (hne : (a.opened d w).topologies a.branchId ≠ some a.desired)
    (happart : a.KeptApart d (a.opened d w).instances edits) (runs : List (String × Cut)) :
    a.AllOrNothing d w edits runs := by
  obtain ⟨j, hprepare, hend⟩ := applyTopologyDiff_end h
  have hpending := hend.pending hprepare hleft
  obtain ⟨hfree, hbrought, htouched⟩ := happart
  unfold AllOrNothing
  dsimp only
  generalize (a.applyTopologyDiff d w).1 = after at *
  have hruns : a.Recovering (a.opened d w) j (after.edited edits)
      (recoverRuns runs (after.edited edits)) :=
    recovering_runs hprepare hne runs ⟨hpending.topologies, .inl ⟨hpending.journal, rfl⟩⟩
  generalize recoverRuns runs (after.edited edits) = last at *
  constructor
  · rcases hruns.2 with ⟨-, hsame⟩ | ⟨-, hundone⟩
    · exact spares_same hsame
    · rw [spares_iff]
      intro id r hr hnone
      have hid : id ∈ a.creationIds := by
        by_contra hid
        rw [hundone, hr, undone_kept hid] at hnone
        cases hnone
      refine ⟨hfree id hid, ?_⟩
      cases hstands : a.stands d (a.opened d w).instances with
      | true =>
        obtain ⟨t, hwrites, ht⟩ := hpending.standing hstands
        rw [ht]
        exact ((workspaceWrites_ok hwrites id).1 hid).2
      | false =>
        -- Nothing of the Apply is there, so a later edit would have brought the instance.
        have hafter : after.instances.find? id = none := by
          rw [hpending.fallen hstands id, hfree id hid]
        have hedited : (after.edited edits).instances.find? id = none :=
          (WorkspaceEdit.find?_applyAll_of_none edits hafter).mpr (hbrought hstands id hid)
        rw [hedited] at hr
        cases hr
  · intro hcleared
    rcases hruns.2 with ⟨hjournal, -⟩ | ⟨-, hundone⟩
    · rw [hjournal] at hcleared
      cases hcleared
    · refine .inr (holdsPrevious_iff.mpr ⟨?_, congrFun hruns.1 a.branchId⟩)
      intro id r hr
      have hid : id ∉ a.creationIds := by
        intro hid
        rw [hfree id hid] at hr
        cases hr
      obtain ⟨s, hs, hsame⟩ := hpending.there id r hr hid
      have hedited : (after.edited edits).instances.find? id = _ :=
        WorkspaceEdit.find?_applyAll_of_some edits hs
      rw [hundone, hedited, undone_kept hid]
      refine ⟨_, rfl, ?_⟩
      by_cases hmem : id ∈ a.touched
      · rw [rolledBack_touched hmem hr, restored_snapshot, htouched id hmem r hr]
        rw [expected_id, Table.find?_key hs, Table.find?_key hr]
      · rw [rolledBack_untouched hmem, hsame hmem]

theorem keptApart_of_allOrNothing (h : a.WritesJournal d w)
    (hleft : a.leavesJournal d (a.opened d w).instances = true)
    (hne : (a.opened d w).topologies a.branchId ≠ some a.desired)
    (hall : a.AllOrNothing d w edits [(a.effectiveStoreId, none)]) :
    a.KeptApart d (a.opened d w).instances edits := by
  obtain ⟨j, hprepare, hend⟩ := applyTopologyDiff_end h
  have hpending := hend.pending hprepare hleft
  unfold AllOrNothing at hall
  dsimp only at hall
  generalize (a.applyTopologyDiff d w).1 = after at *
  have hunfinished : j.finished (after.edited edits) = false := by
    have hiff := finished_iff hprepare (w := after.edited edits) hpending.topologies
    rw [← Bool.not_eq_true, hiff]
    exact hne
  have hstore : j.storeId = a.effectiveStoreId := by
    obtain ⟨-, snapshots, -, rfl⟩ := prepare_ok hprepare
    rfl
  have hlast : recoverRuns [(a.effectiveStoreId, none)] (after.edited edits) =
      (j.compensateWorkspaceDiff (after.edited edits)).cleared := by
    have hback := restoreTopologySetting_same hprepare
      (w := j.compensateWorkspaceDiff (after.edited edits)) hpending.topologies
    have hjournal : (after.edited edits).journal = some j := hpending.journal
    simp only [recoverRuns, recoverPendingTopologyApply, hjournal, hstore, ne_eq,
      not_true_eq_false, if_false, hunfinished, Bool.false_eq_true,
      TopologyApplyRecovery.compensate]
    rw [hback]
  rw [hlast] at hall
  have hundone : ∀ id,
      (j.compensateWorkspaceDiff (after.edited edits)).cleared.instances.find? id =
        a.undone (a.opened d w).instances id ((after.edited edits).instances.find? id) :=
    find?_compensated hprepare (after.edited edits)
  have htopologies : (j.compensateWorkspaceDiff (after.edited edits)).cleared.topologies =
      (a.opened d w).topologies := hpending.topologies
  have hcleared : (j.compensateWorkspaceDiff (after.edited edits)).cleared.journal = none := rfl
  generalize (j.compensateWorkspaceDiff (after.edited edits)).cleared = last at *
  have hspares := spares_iff.mp hall.1
  have hprevious : a.HoldsPrevious (a.opened d w) edits last := by
    rcases hall.2 hcleared with ⟨-, hresult⟩ | hprevious
    · rw [htopologies] at hresult
      exact absurd hresult hne
    · exact hprevious
  have hkept := (holdsPrevious_iff.mp hprevious).1
  have hfree : ∀ id ∈ a.creationIds, (a.opened d w).instances.find? id = none := by
    intro id hid
    cases hfound : (a.opened d w).instances.find? id with
    | none => rfl
    | some r =>
      obtain ⟨s, hs, -⟩ := hkept id r hfound
      rw [hundone, undone_created hid] at hs
      cases hs
  refine ⟨hfree, ?_, ?_⟩
  · intro hfalls id hid e he hbrings
    have hafter : after.instances.find? id = none := by
      rw [hpending.fallen hfalls id, hfree id hid]
    have hedited : (after.edited edits).instances.find? id ≠ none := by
      intro hnone
      exact (WorkspaceEdit.find?_applyAll_of_none edits hafter).mp hnone e he hbrings
    obtain ⟨r, hr⟩ := Option.ne_none_iff_exists'.mp hedited
    have hgone : last.instances.find? id = none := by rw [hundone, undone_created hid]
    have hthere := (hspares id r hr hgone).2
    rw [hafter] at hthere
    cases hthere
  · intro id hmem r hr
    have hid : id ∉ a.creationIds := by
      intro hid
      rw [hfree id hid] at hr
      cases hr
    obtain ⟨s, hs, -⟩ := hpending.there id r hr hid
    have hedited : (after.edited edits).instances.find? id = _ :=
      WorkspaceEdit.find?_applyAll_of_some edits hs
    obtain ⟨q, hq, hsnapshot⟩ := hkept id r hr
    rw [hundone, hedited, undone_kept hid, Option.map_some, rolledBack_touched hmem hr] at hq
    cases hq
    rw [← hsnapshot]
    apply restored_snapshot
    rw [expected_id, Table.find?_key hs, Table.find?_key hr]

end TopologyApply

/-- Whatever recoveries follow, an Apply that wrote its journal is all or nothing exactly if it
clears the journal itself, or has nothing to save, or its ids and the later edits stay apart. -/
theorem allOrNothing_iff (a : TopologyApply) (d : TopologyDraw) (w : TopologyWorld)
    (edits : List WorkspaceEdit) (h : a.WritesJournal d w) :
    (∀ runs, a.AllOrNothing d w edits runs) ↔
      (a.leavesJournal d (a.opened d w).instances = true →
        (a.opened d w).topologies a.branchId ≠ some a.desired →
          a.KeptApart d (a.opened d w).instances edits) := by
  constructor
  · intro hall hleft hne
    exact TopologyApply.keptApart_of_allOrNothing h hleft hne (hall _)
  · intro happart runs
    cases hleft : a.leavesJournal d (a.opened d w).instances with
    | false => exact TopologyApply.allOrNothing_of_settled h hleft edits runs
    | true =>
      by_cases hne : (a.opened d w).topologies a.branchId = some a.desired
      · exact TopologyApply.allOrNothing_of_finished h hleft hne edits runs
      · exact TopologyApply.allOrNothing_of_keptApart h hleft hne (happart hleft hne) runs

def frontRegister : WorkspaceInstance :=
  ⟨"pos-1", "store-pos", "store-1", "Front register", "general", .active, none⟩

def backRegister : WorkspaceInstance :=
  ⟨"pos-2", "store-pos", "store-1", "Back register", "general", .active, none⟩

def twoRegisters : TopologyWorld :=
  ⟨⟨[frontRegister, backRegister], by decide⟩, fun _ => none, none⟩

def registerCreation (id : String) : WorkspaceCreation :=
  ⟨id, "store-pos", "store-1", "New register", none⟩

def registerApply (id : String) : TopologyApply :=
  ⟨none, "store-1", none, 0, "three registers", 0, [registerCreation id],
    [⟨"pos-1", "Counter", none⟩], []⟩

def proDraw (atSave : Option Halt) : TopologyDraw :=
  ⟨.pro, "2026-11-19T08:00:00.000Z", none, none, none, atSave, none, none, none⟩

/-- A crash between the commit of the store and the save of the diagram; the other register is
renamed before the recovery, which crashes once. -/
theorem crashedApply_allOrNothing :
    (registerApply "pos-3").AllOrNothing (proDraw (some none)) twoRegisters
      [.update "pos-2" "Drive-through"] [("store-1", some (.restore, none)), ("store-1", none)] := by
  have hjournal : (registerApply "pos-3").WritesJournal (proDraw (some none)) twoRegisters :=
    ⟨rfl, _, rfl⟩
  apply (allOrNothing_iff _ _ _ _ hjournal).mpr
  intro _ _
  refine ⟨by decide, by decide, ?_⟩
  intro id hid r hr
  have hid' : id = "pos-1" := by simpa [TopologyApply.touched, registerApply] using hid
  subst hid'
  cases hr
  decide

theorem takenId_deleted :
    (registerApply "pos-2").WritesJournal (proDraw none) twoRegisters ∧
      ¬ (registerApply "pos-2").AllOrNothing (proDraw none) twoRegisters [] [("store-1", none)] := by
  refine ⟨⟨rfl, _, rfl⟩, ?_⟩
  intro hall
  have hgone := hall.1 backRegister (by decide) (by decide)
  exact absurd hgone.1 (by decide)

end OzPos
