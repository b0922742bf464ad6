import OzPos.Licensing.QuotaWrites
import OzPos.Topology.Apply
import Mathlib.Data.List.Dedup

namespace OzPos

@[simp] theorem restored_restored (s s' : WorkspaceApplySnapshot) (r : WorkspaceInstance) :
    (r.restored s').restored s = r.restored s := rfl

@[simp] theorem restored_own (r : WorkspaceInstance) : r.restored r.snapshot = r := rfl

theorem restored_snapshot {r s : WorkspaceInstance} (h : r.id = s.id) :
    (r.restored s.snapshot).snapshot = s.snapshot := by
  simp [WorkspaceInstance.snapshot, WorkspaceInstance.restored, h]

variable (touched : List String) (before : InstanceTable)

/-- What the compensation of an Apply does to an instance of one id: the columns of the snapshot
of `before` are put back. -/
def rolledBack (id : String) (r : WorkspaceInstance) : WorkspaceInstance :=
  if id ∈ touched then
    match before.find? id with
    | none => r
    | some r0 => r.restored r0.snapshot
  else r

variable {id : String}

theorem rolledBack_untouched {touched : List String} (h : id ∉ touched)
    (before : InstanceTable) (r : WorkspaceInstance) : rolledBack touched before id r = r :=
  if_neg h

theorem rolledBack_touched {touched : List String} {before : InstanceTable}
    {r0 : WorkspaceInstance} (h : id ∈ touched) (hbefore : before.find? id = some r0)
    (r : WorkspaceInstance) : rolledBack touched before id r = r.restored r0.snapshot := by
  simp [rolledBack, h, hbefore]

theorem rolledBack_idem (id : String) (r : WorkspaceInstance) :
    rolledBack touched before id (rolledBack touched before id r) =
      rolledBack touched before id r := by
  by_cases h : id ∈ touched
  · cases hbefore : before.find? id with
    | none => simp [rolledBack, hbefore]
    | some r0 => simp [rolledBack_touched h hbefore]
  · simp [rolledBack_untouched h]

theorem find?_deleteCreations (creations : List WorkspaceCreation) (t : InstanceTable)
    (id : String) :
    (deleteCreations creations t).find? id =
      if id ∈ creations.map WorkspaceCreation.id then none else t.find? id := by
  induction creations generalizing t with
  | nil => simp [deleteCreations]
  | cons c rest ih =>
    rw [deleteCreations, ih]
    have hdelete := Table.find?_delete t c.id id
    by_cases hrest : id ∈ rest.map WorkspaceCreation.id
    · simp [hrest]
    · rw [if_neg hrest, hdelete]
      by_cases hid : id = c.id
      · simp [hid]
      · simp [hid, hrest]

variable {ids : List String}

theorem find?_restoreSnapshots {before : InstanceTable} {snapshots : List WorkspaceApplySnapshot}
    (h : snapshotWorkspaceRows before ids = .ok snapshots) (t : InstanceTable) (id : String) :
    (restoreSnapshots snapshots t).find? id = (t.find? id).map (rolledBack ids before id) := by
  induction ids generalizing snapshots t with
  | nil =>
    cases h
    have hself : (rolledBack [] before id) = fun r => r := by
      funext r
      exact rolledBack_untouched (by simp) before r
    simp [restoreSnapshots, hself]
  | cons k rest ih =>
    unfold snapshotWorkspaceRows at h
    cases hk : before.find? k with
    | none => simp [hk] at h
    | some r0 =>
      simp only [hk] at h
      obtain ⟨tail, htail, rfl⟩ := Except.of_map h
      have hid : r0.id = k := Table.find?_key hk
      have hid' : r0.snapshot.id = k := hid
      rw [restoreSnapshots, ih htail, hid',
        Table.find?_update t k (WorkspaceInstance.restored r0.snapshot) (fun _ => rfl) id,
        Option.map_map]
      congr 1
      funext r
      by_cases heq : id = k
      · subst heq
        by_cases hrest : id ∈ rest
        · simp [rolledBack_touched hrest hk, rolledBack_touched (List.mem_cons_self) hk]
        · simp [rolledBack_untouched hrest, rolledBack_touched (List.mem_cons_self) hk]
      · simp [rolledBack, heq]

/-- The instances of `u` are those of `t` but for the name, purpose and status of some. -/
def EditedAt (ids : List String) (t u : InstanceTable) : Prop :=
  ∀ id, (t.find? id = none → u.find? id = none) ∧
    ∀ r, t.find? id = some r →
      ∃ s, u.find? id = some s ∧ s = r.restored s.snapshot ∧ (id ∉ ids → s = r)

theorem EditedAt.refl (ids : List String) (t : InstanceTable) : EditedAt ids t t := by
  intro id
  exact ⟨fun h => h, fun r h => ⟨r, h, rfl, fun _ => rfl⟩⟩

variable {t u : InstanceTable}

theorem EditedAt.trans {v : InstanceTable} (h : EditedAt ids t u)
    (h' : EditedAt ids u v) : EditedAt ids t v := by
  intro id
  constructor
  · intro hnone
    exact (h' id).1 ((h id).1 hnone)
  · intro r hr
    obtain ⟨s, hs, hrestored, hsame⟩ := (h id).2 r hr
    obtain ⟨q, hq, hrestored', hsame'⟩ := (h' id).2 s hs
    refine ⟨q, hq, ?_, ?_⟩
    · rw [hrestored] at hrestored'
      exact hrestored'
    · intro hid
      rw [hsame' hid, hsame hid]

theorem EditedAt.update (hid : id ∈ ids) (t : InstanceTable)
    (f : WorkspaceInstance → WorkspaceInstance) (hf : ∀ r, (f r).id = r.id)
    (hedit : ∀ r, f r = r.restored (f r).snapshot) : EditedAt ids t (t.update id f hf) := by
  intro k
  rw [Table.find?_update t id f hf k]
  constructor
  · intro hnone
    simp [hnone]
  · intro r hr
    by_cases hk : k = id
    · subst hk
      exact ⟨f r, by simp [hr], hedit r, fun hnot => absurd hid hnot⟩
    · exact ⟨r, by simp [hr, hk], rfl, fun _ => rfl⟩

theorem updateWorkspaceInstance_ok {name : String} (h : updateWorkspaceInstance id name t = .ok u) :
    u = t.update id (WorkspaceInstance.renamed name) (fun _ => rfl) ∧ trim name ≠ "" ∧
      (t.find? id).isSome := by
  unfold updateWorkspaceInstance at h
  by_cases hname : trim name = ""
  · simp [hname] at h
  · simp only [hname, if_false] at h
    cases hfound : t.find? id with
    | none => simp [hfound] at h
    | some r =>
      simp only [hfound] at h
      cases h
      exact ⟨rfl, hname, rfl⟩

theorem setPurpose_edited (hid : id ∈ ids) {purposeKey : Option String}
    (h : setPurpose id purposeKey t = .ok u) : EditedAt ids t u := by
  unfold setPurpose at h
  cases purposeKey with
  | none =>
    cases h
    exact EditedAt.refl ids t
  | some purpose =>
    by_cases hblank : trim purpose = ""
    · simp [hblank] at h
    · simp only [hblank, if_false] at h
      cases h
      exact EditedAt.update hid t (WorkspaceInstance.repurposed purpose) (fun _ => rfl)
        (fun _ => rfl)

theorem updateAll_edited {updates : List WorkspaceUpdate} (hids : ∀ x ∈ updates, x.id ∈ ids)
    (h : updateAll updates t = .ok u) : EditedAt ids t u := by
  induction updates generalizing t with
  | nil =>
    cases h
    exact EditedAt.refl ids u
  | cons x rest ih =>
    unfold updateAll at h
    obtain ⟨v, hname, h⟩ := Except.of_do h
    obtain ⟨w, hpurpose, h⟩ := Except.of_do h
    have hid := hids x (List.mem_cons_self)
    have hrest := ih (fun y hy => hids y (List.mem_cons_of_mem x hy)) h
    obtain ⟨rfl, -, -⟩ := updateWorkspaceInstance_ok hname
    have hrenamed : EditedAt ids t _ :=
      EditedAt.update hid t (WorkspaceInstance.renamed x.name) (fun _ => rfl) (fun _ => rfl)
    exact (hrenamed.trans (setPurpose_edited hid hpurpose)).trans hrest

theorem archiveAll_edited {archives : List String} (hids : ∀ id ∈ archives, id ∈ ids)
    (h : archiveAll archives t = .ok u) : EditedAt ids t u := by
  induction archives generalizing t with
  | nil =>
    cases h
    exact EditedAt.refl ids u
  | cons id rest ih =>
    unfold archiveAll at h
    obtain ⟨v, harchive, h⟩ := Except.of_bind h
    obtain ⟨-, rfl⟩ := archiveInstance_ok_iff.mp harchive
    have hrest := ih (fun k hk => hids k (List.mem_cons_of_mem id hk)) h
    have harchived : EditedAt ids t _ :=
      EditedAt.update (hids id (List.mem_cons_self)) t WorkspaceInstance.archived (fun _ => rfl)
        (fun _ => rfl)
    exact harchived.trans hrest

theorem find?_insertCreations {now : String} {creations : List WorkspaceCreation}
    (h : insertCreations now creations t = .ok u) (id : String) :
    (id ∈ creations.map WorkspaceCreation.id → t.find? id = none ∧ (u.find? id).isSome) ∧
      (id ∉ creations.map WorkspaceCreation.id → u.find? id = t.find? id) := by
  have hnew := (insertCreations_ok_iff.mp ⟨u, h⟩).2
  constructor
  · intro hid
    obtain ⟨c, hc, rfl⟩ := List.mem_map.mp hid
    exact ⟨hnew c hc, (isSome_insertCreations h c.id).mpr (.inr hid)⟩
  · intro hid
    have hrows := insertCreations_rows h
    have hnone : (creations.map (WorkspaceCreation.row now)).find? (fun r => r.id = id) = none := by
      rw [List.find?_eq_none]
      intro r hr
      obtain ⟨c, hc, rfl⟩ := List.mem_map.mp hr
      simp only [decide_eq_true_eq]
      intro hcid
      exact hid (List.mem_map.mpr ⟨c, hc, hcid⟩)
    rw [Table.find?, hrows, List.find?_append, hnone, Option.or_none]
    rfl

namespace TopologyApply

variable {a : TopologyApply} {d : TopologyDraw}

def creationIds (a : TopologyApply) : List String := a.creations.map WorkspaceCreation.id

theorem mem_touched_of_update {u : WorkspaceUpdate} (h : u ∈ a.updates) : u.id ∈ a.touched := by
  rw [touched, List.mem_dedup]
  exact List.mem_append_left _ (List.mem_map_of_mem h)

theorem mem_touched_of_archive (h : id ∈ a.archives) : id ∈ a.touched := by
  rw [touched, List.mem_dedup]
  exact List.mem_append_right _ h

def undone (a : TopologyApply) (before : InstanceTable) (id : String)
    (found : Option WorkspaceInstance) : Option WorkspaceInstance :=
  if id ∈ a.creationIds then none else found.map (rolledBack a.touched before id)

theorem undone_idem (before : InstanceTable) (id : String) (found : Option WorkspaceInstance) :
    a.undone before id (a.undone before id found) = a.undone before id found := by
  by_cases h : id ∈ a.creationIds
  · simp [undone, h]
  · cases found with
    | none => simp [undone, h]
    | some r => simp [undone, h, rolledBack_idem]

theorem undone_created {before : InstanceTable} (h : id ∈ a.creationIds)
    (found : Option WorkspaceInstance) : a.undone before id found = none :=
  if_pos h

theorem undone_kept {before : InstanceTable} (h : id ∉ a.creationIds)
    (found : Option WorkspaceInstance) :
    a.undone before id found = found.map (rolledBack a.touched before id) :=
  if_neg h

theorem workspaceWrites_ok (h : a.workspaceWrites d t = .ok u) (id : String) :
    (id ∈ a.creationIds → t.find? id = none ∧ (u.find? id).isSome) ∧
      (id ∉ a.creationIds → (t.find? id = none → u.find? id = none) ∧
        ∀ r, t.find? id = some r →
          ∃ s, u.find? id = some s ∧ s = r.restored s.snapshot ∧ (id ∉ a.touched → s = r)) := by
  unfold workspaceWrites at h
  obtain ⟨-, -, h⟩ := Except.of_do h
  obtain ⟨v, hinsert, h⟩ := Except.of_do h
  obtain ⟨w, hupdate, harchive⟩ := Except.of_do h
  have hcreated := find?_insertCreations hinsert id
  have hedited : EditedAt a.touched v u :=
    (updateAll_edited (fun x hx => mem_touched_of_update hx) hupdate).trans
      (archiveAll_edited (fun x hx => mem_touched_of_archive hx) harchive)
  constructor
  · intro hid
    obtain ⟨hfree, hthere⟩ := hcreated.1 hid
    obtain ⟨r, hr⟩ := Option.isSome_iff_exists.mp hthere
    obtain ⟨s, hs, -⟩ := (hedited id).2 r hr
    exact ⟨hfree, by simp [hs]⟩
  · intro hid
    rw [← hcreated.2 hid]
    exact hedited id

theorem undone_writes (h : a.workspaceWrites d t = .ok u) (id : String) :
    a.undone t id (u.find? id) = t.find? id := by
  have hwrites := workspaceWrites_ok h id
  by_cases hid : id ∈ a.creationIds
  · rw [undone_created hid, (hwrites.1 hid).1]
  · obtain ⟨hnone, hsome⟩ := hwrites.2 hid
    rw [undone_kept hid]
    cases ht : t.find? id with
    | none => simp [hnone ht]
    | some r =>
      obtain ⟨s, hs, hrestored, hsame⟩ := hsome r ht
      by_cases htouched : id ∈ a.touched
      · rw [hs, Option.map_some, rolledBack_touched htouched ht, hrestored, restored_restored,
          restored_own]
      · simp [hs, rolledBack_untouched htouched, hsame htouched]

end TopologyApply

namespace WorkspaceEdit

theorem apply_of_ok {e : WorkspaceEdit} (h : e.write t = .ok u) : e.apply t = u := by
  simp [apply, h]

theorem apply_of_error {e : WorkspaceEdit} {x : DoorError}
    (h : e.write t = .error x) : e.apply t = t := by
  simp [apply, h]

theorem brings_create {args : CreateWorkspaceInstanceArgs} {now : String}
    (h : (create args now).brings = some id) : args.id = id := by
  by_cases hvalid : args.validate = .ok ()
  · simpa [brings, hvalid] using h
  · simp [brings, hvalid] at h

theorem create_cases (args : CreateWorkspaceInstanceArgs) (now : String) (t : InstanceTable) :
    ((create args now).apply t = t ∧
        ((create args now).brings = none ∨ (t.find? args.id).isSome)) ∨
      ∃ u, t.insert? (args.row now) = some u ∧ (create args now).apply t = u ∧
        (create args now).brings = some args.id := by
  cases h : (create args now).write t with
  | error e =>
    refine .inl ⟨apply_of_error h, ?_⟩
    by_cases hvalid : args.validate = .ok ()
    · right
      cases hinsert : t.insert? (args.row now) with
      | none =>
        obtain ⟨r, hr⟩ := (Table.insert?_eq_none_iff t (args.row now)).mp hinsert
        have hid : (args.row now).id = args.id := rfl
        rw [← hid, hr]
        rfl
      | some u =>
        have hok : (create args now).write t = .ok u :=
          createWorkspaceInstance_ok_iff.mpr ⟨hvalid, hinsert⟩
        rw [hok] at h
        cases h
    · left
      simp [brings, hvalid]
  | ok u =>
    obtain ⟨hvalid, hinsert⟩ := createWorkspaceInstance_ok_iff.mp h
    exact .inr ⟨u, hinsert, apply_of_ok h, by simp [brings, hvalid]⟩

theorem archive_apply (id : String) (t : InstanceTable) :
    ((archive id).apply t = t ∧ t.find? id = none) ∨
      (archive id).apply t = t.update id WorkspaceInstance.archived (fun _ => rfl) := by
  cases h : (archive id).write t with
  | error e =>
    refine .inl ⟨apply_of_error h, ?_⟩
    cases hfound : t.find? id with
    | none => rfl
    | some r =>
      have hok : (archive id).write t = .ok (t.update id WorkspaceInstance.archived (fun _ => rfl)) :=
        archiveInstance_ok_iff.mpr ⟨by simp [hfound], rfl⟩
      rw [hok] at h
      cases h
  | ok u =>
    obtain ⟨-, rfl⟩ := archiveInstance_ok_iff.mp h
    exact .inr (apply_of_ok h)

theorem update_apply (id name : String) (t : InstanceTable) :
    ((update id name).apply t = t ∧ (trim name = "" ∨ t.find? id = none)) ∨
      ((update id name).apply t = t.update id (WorkspaceInstance.renamed name) (fun _ => rfl) ∧
        trim name ≠ "") := by
  cases h : (update id name).write t with
  | error e =>
    refine .inl ⟨apply_of_error h, ?_⟩
    have h' : updateWorkspaceInstance id name t = .error e := h
    by_cases hname : trim name = ""
    · exact .inl hname
    · right
      cases hfound : t.find? id with
      | none => rfl
      | some r => simp [updateWorkspaceInstance, hname, hfound] at h'
  | ok u =>
    obtain ⟨rfl, hname, -⟩ := updateWorkspaceInstance_ok h
    exact .inr ⟨apply_of_ok h, hname⟩

theorem find?_apply_of_some (e : WorkspaceEdit) {r : WorkspaceInstance} (h : t.find? id = some r) :
    (e.apply t).find? id = some (e.onRow r) := by
  have hid : r.id = id := Table.find?_key h
  cases e with
  | create args now =>
    rcases create_cases args now t with ⟨hsame, -⟩ | ⟨u, hinsert, happly, -⟩
    · rw [hsame, h]
      rfl
    · have hne : (args.row now).id ≠ id := by
        intro heq
        have hnew := (Table.insert?_isSome_iff t (args.row now)).mp (by simp [hinsert])
        rw [heq, h] at hnew
        cases hnew
      rw [happly, Table.find?_insert? hinsert, if_neg hne, h]
      rfl
  | update k name =>
    rcases update_apply k name t with ⟨hsame, hwhy⟩ | ⟨happly, hname⟩
    · have hrow : (update k name).onRow r = r := by
        apply if_neg
        rintro ⟨hk, hname⟩
        rcases hwhy with hblank | hnone
        · exact hname hblank
        · rw [← hk, hid, h] at hnone
          cases hnone
      rw [hsame, h, hrow]
    · rw [happly, Table.find?_update t k (WorkspaceInstance.renamed name) (fun _ => rfl) id, h]
      simp [onRow, hid, hname]
  | archive k =>
    rcases archive_apply k t with ⟨hsame, hnone⟩ | happly
    · have hrow : (archive k).onRow r = r := by
        apply if_neg
        intro hk
        rw [← hk, hid, h] at hnone
        cases hnone
      rw [hsame, h, hrow]
    · rw [happly, Table.find?_update t k WorkspaceInstance.archived (fun _ => rfl) id, h]
      simp [onRow, hid]
  | setStatus ids status =>
    have happly := apply_of_ok (e := setStatus ids status) (t := t) rfl
    rw [happly, Table.find?_updateWhere t (fun r => ids.contains r.id)
      (WorkspaceInstance.setStatus status) (fun _ => rfl) id, h]
    simp [onRow]
  | touch k now =>
    have happly := apply_of_ok (e := touch k now) (t := t) rfl
    rw [happly, touchInstanceAccess,
      Table.find?_update t k (WorkspaceInstance.touched now) (fun _ => rfl) id, h]
    simp [onRow, hid]

theorem find?_apply_of_none (e : WorkspaceEdit)
    (h : t.find? id = none) : (e.apply t).find? id = none ↔ e.brings ≠ some id := by
  cases e with
  | create args now =>
    rcases create_cases args now t with ⟨hsame, hwhy⟩ | ⟨u, hinsert, happly, hbrings⟩
    · rw [hsame]
      rcases hwhy with hnone | hthere
      · simp [h, hnone]
      · have hne : args.id ≠ id := by
          rintro rfl
          simp [h] at hthere
        refine ⟨fun _ hbrings => ?_, fun _ => h⟩
        exact hne (brings_create hbrings)
    · have hfind := Table.find?_insert? hinsert id
      have hid : (args.row now).id = args.id := rfl
      rw [happly, hbrings, hfind, h, hid]
      by_cases heq : args.id = id
      · simp [heq]
      · simp [heq]
  | update k name =>
    rcases update_apply k name t with ⟨hsame, -⟩ | ⟨happly, -⟩
    · simp [hsame, h, brings]
    · rw [happly, Table.find?_update t k (WorkspaceInstance.renamed name) (fun _ => rfl) id, h]
      simp [brings]
  | archive k =>
    rcases archive_apply k t with ⟨hsame, -⟩ | happly
    · simp [hsame, h, brings]
    · rw [happly, Table.find?_update t k WorkspaceInstance.archived (fun _ => rfl) id, h]
      simp [brings]
  | setStatus ids status =>
    have happly := apply_of_ok (e := setStatus ids status) (t := t) rfl
    rw [happly, Table.find?_updateWhere t (fun r => ids.contains r.id)
      (WorkspaceInstance.setStatus status) (fun _ => rfl) id, h]
    simp [brings]
  | touch k now =>
    have happly := apply_of_ok (e := touch k now) (t := t) rfl
    rw [happly, touchInstanceAccess,
      Table.find?_update t k (WorkspaceInstance.touched now) (fun _ => rfl) id, h]
    simp [brings]

variable (edits : List WorkspaceEdit)

theorem find?_applyAll_of_some {r : WorkspaceInstance}
    (h : t.find? id = some r) : (applyAll edits t).find? id = some (expected edits r) := by
  induction edits generalizing t r with
  | nil => exact h
  | cons e rest ih => exact ih (find?_apply_of_some e h)

theorem find?_applyAll_of_none (h : t.find? id = none) :
    (applyAll edits t).find? id = none ↔ ∀ e ∈ edits, e.brings ≠ some id := by
  induction edits generalizing t with
  | nil =>
    have hnil : applyAll [] t = t := rfl
    simp [hnil, h]
  | cons e rest ih =>
    rw [List.forall_mem_cons]
    by_cases hbrings : e.brings = some id
    · have hthere : (e.apply t).find? id ≠ none := by
        rw [Ne, find?_apply_of_none e h]
        simp [hbrings]
      obtain ⟨r, hr⟩ := Option.ne_none_iff_exists'.mp hthere
      have hlast : (applyAll rest (e.apply t)).find? id = some _ := find?_applyAll_of_some rest hr
      have hcons : applyAll (e :: rest) t = applyAll rest (e.apply t) := rfl
      rw [hcons, hlast]
      simp [hbrings]
    · have hnone := (find?_apply_of_none e h).mpr hbrings
      have hcons : applyAll (e :: rest) t = applyAll rest (e.apply t) := rfl
      rw [hcons, ih hnone]
      simp [hbrings]

end WorkspaceEdit

end OzPos
