import OzPos.Recovery.RestoreFrom

namespace OzPos

section Condition

variable {φ π : Type} (sqlite : Sqlite φ π) (registry : List String) (faults : RestoreFaults φ)
  (candidate db : String) (fs : Files φ)

/-- The candidate is accepted and the snapshot is written. -/
structure RestoreBegun : Prop where
  restorable :
    (validateCandidate sqlite registry faults.openCandidate fs candidate).verdict.isRestorable = true
  elsewhere : candidate ≠ db
  snapshot : (fs.read db).isSome → faults.snapshot = none

def SidecarStays (extension : String) : Prop :=
  (fs.read (sidecarPath db extension)).isSome ∧ (faults.removeSidecar extension).isSome

/-- What the candidate's path holds once the snapshot is written and the sidecars are gone. -/
def stagingSource : Option φ :=
  if candidate = sidecarPath db "-wal" ∨ candidate = sidecarPath db "-shm" then none
  else if candidate = preRestoreSnapshotPath db ∧ (fs.read db).isSome then fs.read db
  else fs.read candidate

/-- What the swap renames over the live path, if it comes to that. -/
def promotedFile (source : Option φ) : Option φ :=
  source.filter (fun file => faults.stage.isNone && (sqlite.integrityError file).isNone &&
    faults.verifyStaged.isNone && faults.promote.isNone)

def leftInPlace : Option φ :=
  let promoted := promotedFile sqlite faults (stagingSource candidate db fs)
  match fs.read db with
  | some main =>
    match faults.rollback with
    | none => some main
    | some (.refused _) => promoted.or (some main)
    | some (.cutShort _ left) => some left
  | none => if faults.removeLive.isSome then promoted else none

/-- Once the log is removed, the main file left holds all of the live content by itself. -/
structure RestoreHarmless : Prop where
  shm : RestoreBegun sqlite registry faults candidate db fs → ¬ SidecarStays faults db fs "-wal" →
    SidecarStays faults db fs "-shm" → mainPages sqlite (fs.read db) = liveContent sqlite db fs
  swap : RestoreBegun sqlite registry faults candidate db fs → ¬ SidecarStays faults db fs "-wal" →
    ¬ SidecarStays faults db fs "-shm" →
    mainPages sqlite (leftInPlace sqlite faults candidate db fs) = liveContent sqlite db fs

end Condition

theorem append_ne_append {db a b : String} (h : a ≠ b) : db ++ a ≠ db ++ b := by
  intro heq
  apply h
  exact (String.append_right_inj db).mp heq

theorem append_ne_self {db a : String} (h : a ≠ "") : db ++ a ≠ db := by
  intro heq
  apply h
  exact (String.append_right_inj db).mp (heq.trans String.append_empty.symm)

section Paths

variable {φ : Type} {faults : RestoreFaults φ} {db : String}

theorem temporary_ne {a : String} (h : (".restore-".toList.isPrefixOf a.toList) = false) :
    temporaryPath faults db ≠ db ++ a := by
  intro heq
  rw [temporaryPath, String.append_assoc] at heq
  have hsuffix := (String.append_right_inj db).mp heq
  rw [← hsuffix, String.toList_append] at h
  simp at h

theorem temporary_ne_db : temporaryPath faults db ≠ db := by
  have h : temporaryPath faults db ≠ db ++ "" := temporary_ne (by decide)
  rwa [String.append_empty] at h

theorem temporary_ne_wal : temporaryPath faults db ≠ sidecarPath db "-wal" :=
  temporary_ne (by decide)

theorem temporary_ne_snapshot : temporaryPath faults db ≠ preRestoreSnapshotPath db :=
  temporary_ne (by decide)

theorem db_ne_snapshot : db ≠ preRestoreSnapshotPath db := (append_ne_self (by decide)).symm

theorem db_ne_sidecar {extension : String} (h : extension ≠ "") : db ≠ sidecarPath db extension :=
  (append_ne_self h).symm

theorem sidecar_ne_snapshot {extension : String} (h : extension ≠ ".pre-restore.db") :
    sidecarPath db extension ≠ preRestoreSnapshotPath db := append_ne_append h

theorem wal_ne_shm : sidecarPath db "-wal" ≠ sidecarPath db "-shm" := append_ne_append (by decide)

end Paths

section Steps

variable {φ π : Type} {sqlite : Sqlite φ π} {registry : List String} {faults : RestoreFaults φ}
  {candidate db : String} {fs fs' : Files φ}

theorem read_writeSnapshot_other (faults : RestoreFaults φ) (fs : Files φ) {path : String}
    (h : path ≠ preRestoreSnapshotPath db) :
    (writeSnapshot faults db fs).1.read path = fs.read path := by
  have hcopy := Files.read_copy_other fs faults.snapshot db h
  unfold writeSnapshot
  by_cases hlive : (fs.read db).isSome = true
  · rw [if_pos hlive]
    cases hrun : fs.copy faults.snapshot db (preRestoreSnapshotPath db) with
    | mk fs1 result =>
      rw [hrun] at hcopy
      cases result <;> exact hcopy
  · rw [if_neg hlive]

theorem writeSnapshot_error {e : CoreError} (h : writeSnapshot faults db fs = (fs', .error e)) :
    (fs.read db).isSome ∧ faults.snapshot ≠ none := by
  unfold writeSnapshot at h
  by_cases hlive : (fs.read db).isSome = true
  · refine ⟨hlive, ?_⟩
    intro hnone
    obtain ⟨main, hmain⟩ := Option.isSome_iff_exists.mp hlive
    rw [if_pos hlive] at h
    simp only [Files.copy, hmain, hnone] at h
    cases h
  · rw [if_neg hlive] at h
    cases h

theorem writeSnapshot_ok (h : writeSnapshot faults db fs = (fs', .ok ())) :
    ((fs.read db).isSome → faults.snapshot = none) ∧
      fs'.read (preRestoreSnapshotPath db) =
        if (fs.read db).isSome then fs.read db else fs.read (preRestoreSnapshotPath db) := by
  unfold writeSnapshot at h
  by_cases hlive : (fs.read db).isSome = true
  · obtain ⟨main, hmain⟩ := Option.isSome_iff_exists.mp hlive
    rw [if_pos hlive] at h
    cases hfault : faults.snapshot with
    | none =>
      simp only [Files.copy, hmain, hfault] at h
      cases h
      simp [hmain]
    | some fault => cases fault <;> simp only [Files.copy, hmain, hfault] at h <;> cases h
  · rw [if_neg hlive] at h
    cases h
    simp [hlive]

theorem removeSidecars_cons (faults : RestoreFaults φ) (db : String) (fs : Files φ)
    (extension : String) (rest : List String) :
    (SidecarStays faults db fs extension ∧
      ∃ e, removeSidecars faults db (extension :: rest) fs = (fs, .error e)) ∨
    (¬ SidecarStays faults db fs extension ∧
      ∃ fs', removeSidecars faults db (extension :: rest) fs = removeSidecars faults db rest fs' ∧
        fs'.read (sidecarPath db extension) = none ∧
        ∀ path, path ≠ sidecarPath db extension → fs'.read path = fs.read path) := by
  unfold SidecarStays
  rw [removeSidecars]
  cases hread : fs.read (sidecarPath db extension) with
  | none => exact .inr ⟨by simp, fs, rfl, hread, fun _ _ => rfl⟩
  | some file =>
    cases hfault : faults.removeSidecar extension with
    | some text =>
      refine .inl ⟨⟨rfl, rfl⟩, ?_⟩
      simp [Files.remove, hread]
    | none =>
      refine .inr ⟨by simp, fs.write (sidecarPath db extension) none, ?_,
        Files.read_write_same _ _ _, fun path hne => Files.read_write_other _ _ hne⟩
      simp [Files.remove, hread]

variable {fs1 fs2 : Files φ}

theorem sidecarStays_congr (faults : RestoreFaults φ) {extension : String}
    (h : fs1.read (sidecarPath db extension) = fs2.read (sidecarPath db extension)) :
    SidecarStays faults db fs1 extension ↔ SidecarStays faults db fs2 extension := by
  unfold SidecarStays
  rw [h]

theorem removeSidecars_run (faults : RestoreFaults φ) (db : String) (fs : Files φ) :
    (SidecarStays faults db fs "-wal" ∧
      ∃ e, removeSidecars faults db sidecars fs = (fs, .error e)) ∨
    (¬ SidecarStays faults db fs "-wal" ∧ ∃ fs', fs'.read (sidecarPath db "-wal") = none ∧
      (∀ path, path ≠ sidecarPath db "-wal" → path ≠ sidecarPath db "-shm" →
        fs'.read path = fs.read path) ∧
      ((SidecarStays faults db fs "-shm" ∧
          ∃ e, removeSidecars faults db sidecars fs = (fs', .error e)) ∨
        (¬ SidecarStays faults db fs "-shm" ∧ fs'.read (sidecarPath db "-shm") = none ∧
          removeSidecars faults db sidecars fs = (fs', .ok ())))) := by
  unfold sidecars
  rcases removeSidecars_cons faults db fs "-wal" ["-shm"] with
    hstays | ⟨hgone, fs1, hrun1, hwal, hother1⟩
  · exact .inl hstays
  · refine .inr ⟨hgone, ?_⟩
    have hshm := sidecarStays_congr faults (hother1 _ wal_ne_shm.symm)
    rcases removeSidecars_cons faults db fs1 "-shm" [] with
      ⟨hstays, e, hrun2⟩ | ⟨hgone2, fs2, hrun2, hshmgone, hother2⟩
    · exact ⟨fs1, hwal, fun path hne _ => hother1 path hne,
        .inl ⟨hshm.mp hstays, e, hrun1.trans hrun2⟩⟩
    · refine ⟨fs2, (hother2 _ wal_ne_shm).trans hwal, ?_, ?_⟩
      · intro path hne hne2
        exact (hother2 path hne2).trans (hother1 path hne)
      · exact .inr ⟨fun hstays => hgone2 (hshm.mpr hstays), hshmgone, hrun1.trans hrun2⟩

theorem stage_run (sqlite : Sqlite φ π) (faults : RestoreFaults φ) (candidate db : String)
    (fs : Files φ) :
    (∃ file, fs.read candidate = some file ∧ faults.stage = none ∧
      sqlite.integrityError file = none ∧ faults.verifyStaged = none ∧
      stage sqlite faults candidate db fs =
        (fs.write (temporaryPath faults db) (some file), .ok ())) ∨
    (promotedFile sqlite faults (fs.read candidate) = none ∧
      ∃ fs' e, stage sqlite faults candidate db fs = (fs', .error e) ∧
        ∀ path, path ≠ temporaryPath faults db → fs'.read path = fs.read path) := by
  have hother : ∀ path, path ≠ temporaryPath faults db →
      (fs.copy faults.stage candidate (temporaryPath faults db)).1.read path = fs.read path :=
    fun path hne => Files.read_copy_other fs faults.stage candidate hne
  unfold stage
  simp only [Files.copy] at hother ⊢
  cases hread : fs.read candidate with
  | none => exact .inr ⟨rfl, fs, _, rfl, fun _ _ => rfl⟩
  | some file =>
    simp only [hread] at hother
    cases hstage : faults.stage with
    | some fault =>
      simp only [hstage] at hother
      refine .inr ⟨by simp [promotedFile, hstage], ?_⟩
      cases fault with
      | refused text => exact ⟨fs, _, rfl, fun _ _ => rfl⟩
      | cutShort text left => exact ⟨_, _, rfl, hother⟩
    | none =>
      simp only [hstage] at hother
      cases hverify : faults.verifyStaged with
      | some text => exact .inr ⟨by simp [promotedFile, hverify], _, _, rfl, hother⟩
      | none =>
        simp only [verifyFile, Files.read_write_same]
        cases hintact : sqlite.integrityError file with
        | some text => exact .inr ⟨by simp [promotedFile, hintact], _, _, rfl, hother⟩
        | none => exact .inl ⟨file, rfl, trivial, hintact, trivial, rfl⟩

variable {e : String}

theorem promote_error {file : φ} (hfile : fs.read (temporaryPath faults db) = some file)
    (h : promote sqlite faults db fs = (fs', .error e)) :
    fs'.read db = (if faults.promote.isNone then some file else fs.read db) ∧
      ∀ path, path ≠ db → path ≠ temporaryPath faults db → fs'.read path = fs.read path := by
  have hother : ∀ path, path ≠ db → path ≠ temporaryPath faults db →
      (fs.rename faults.promote (temporaryPath faults db) db).1.read path = fs.read path :=
    fun path hne hne' => Files.read_rename_other fs faults.promote hne' hne
  unfold promote at h
  simp only [Files.rename, hfile] at h hother
  cases hpromote : faults.promote with
  | some text =>
    simp only [hpromote] at h hother
    cases h
    exact ⟨rfl, fun _ _ _ => rfl⟩
  | none =>
    simp only [hpromote] at h hother
    cases hverify : verifyFile sqlite faults.verifyRestored
      ((fs.write (temporaryPath faults db) none).write db (some file)) db with
    | error text =>
      simp only [hverify] at h
      cases h
      exact ⟨Files.read_write_same _ _ _, hother⟩
    | ok _ =>
      simp only [hverify] at h
      cases h

theorem swap_error (h : swap sqlite faults candidate db fs = (fs', .error e)) :
    fs'.read db = (promotedFile sqlite faults (fs.read candidate)).or (fs.read db) ∧
      ∀ path, path ≠ db → path ≠ temporaryPath faults db → fs'.read path = fs.read path := by
  unfold swap at h
  rcases stage_run sqlite faults candidate db fs with
    ⟨file, hread, hstage, hintact, hverify, hrun⟩ | ⟨hnone, fs1, e1, hrun, hother⟩
  · rw [hrun] at h
    obtain ⟨hdb, hother⟩ := promote_error (Files.read_write_same _ _ _) h
    have htemporary : temporaryPath faults db ≠ db := temporary_ne_db
    rw [Files.read_write_other _ _ htemporary.symm] at hdb
    refine ⟨?_, ?_⟩
    · rw [hdb, hread]
      cases hpromote : faults.promote <;>
        simp [promotedFile, hstage, hintact, hverify, hpromote, Option.filter]
    · intro path hne hne'
      rw [hother path hne hne', Files.read_write_other _ _ hne']
  · rw [hrun] at h
    cases h
    refine ⟨?_, fun path _ hne' => hother path hne'⟩
    rw [hnone, hother db temporary_ne_db.symm]
    rfl

theorem read_rollback_db (hadLive : Bool) :
    (rollback faults db hadLive fs).read db =
      if hadLive then
        match fs.read (preRestoreSnapshotPath db), faults.rollback with
        | none, _ => fs.read db
        | some file, none => some file
        | some _, some (.refused _) => fs.read db
        | some _, some (.cutShort _ left) => some left
      else if faults.removeLive.isSome then fs.read db else none := by
  have hdb : (fs.remove faults.removeTemporary (temporaryPath faults db)).1.read db = fs.read db :=
    Files.read_remove_other fs _ temporary_ne_db.symm
  have hsnapshot : (fs.remove faults.removeTemporary (temporaryPath faults db)).1.read
      (preRestoreSnapshotPath db) = fs.read (preRestoreSnapshotPath db) :=
    Files.read_remove_other fs _ temporary_ne_snapshot.symm
  unfold rollback
  cases hadLive with
  | true =>
    simp only [if_true, Files.copy, hsnapshot]
    cases fs.read (preRestoreSnapshotPath db) with
    | none => exact hdb
    | some file =>
      cases faults.rollback with
      | none => exact Files.read_write_same _ _ _
      | some fault =>
        cases fault with
        | refused text => exact hdb
        | cutShort text left => exact Files.read_write_same _ _ _
  | false =>
    simp only [Bool.false_eq_true, if_false]
    rw [Files.read_remove_same, hdb]

theorem read_rollback_wal (hadLive : Bool) :
    (rollback faults db hadLive fs).read (sidecarPath db "-wal") =
      fs.read (sidecarPath db "-wal") := by
  have hwal : (fs.remove faults.removeTemporary (temporaryPath faults db)).1.read
      (sidecarPath db "-wal") = fs.read (sidecarPath db "-wal") :=
    Files.read_remove_other fs _ temporary_ne_wal.symm
  have hne : sidecarPath db "-wal" ≠ db := (db_ne_sidecar (by decide)).symm
  unfold rollback
  cases hadLive with
  | true =>
    simp only [if_true]
    rw [Files.read_copy_other _ _ _ hne, hwal]
  | false =>
    simp only [Bool.false_eq_true, if_false]
    rw [Files.read_remove_other _ _ hne, hwal]

theorem logicalContent_none (main : Option φ) :
    logicalContent sqlite main none = mainPages sqlite main := by
  unfold logicalContent
  cases main <;> rfl

theorem liveContent_congr (hdb : fs'.read db = fs.read db)
    (hwal : fs'.read (sidecarPath db "-wal") = fs.read (sidecarPath db "-wal")) :
    liveContent sqlite db fs' = liveContent sqlite db fs := by
  rw [liveContent, liveContent, hdb, hwal]

theorem read_candidate
    (hsnapshot : writeSnapshot faults db fs = (fs1, .ok ()))
    (hwal : fs2.read (sidecarPath db "-wal") = none)
    (hshm : fs2.read (sidecarPath db "-shm") = none)
    (hother : ∀ path, path ≠ sidecarPath db "-wal" → path ≠ sidecarPath db "-shm" →
      fs2.read path = fs1.read path) :
    fs2.read candidate = stagingSource candidate db fs := by
  unfold stagingSource
  by_cases hsidecar : candidate = sidecarPath db "-wal" ∨ candidate = sidecarPath db "-shm"
  · rw [if_pos hsidecar]
    rcases hsidecar with rfl | rfl
    · exact hwal
    · exact hshm
  · rw [if_neg hsidecar]
    rw [not_or] at hsidecar
    rw [hother candidate hsidecar.1 hsidecar.2]
    by_cases hcandidate : candidate = preRestoreSnapshotPath db
    · subst hcandidate
      rw [(writeSnapshot_ok hsnapshot).2]
      by_cases hlive : (fs.read db).isSome = true
      · rw [if_pos hlive, if_pos ⟨rfl, hlive⟩]
      · rw [if_neg hlive, if_neg (fun h => hlive h.2)]
    · have hsame := read_writeSnapshot_other faults fs hcandidate
      rw [hsnapshot] at hsame
      rw [if_neg (fun h => hcandidate h.1)]
      exact hsame

theorem read_rolledBack {fs3 : Files φ}
    (hsnapshot : writeSnapshot faults db fs = (fs1, .ok ()))
    (hwal : fs2.read (sidecarPath db "-wal") = none)
    (hshm : fs2.read (sidecarPath db "-shm") = none)
    (hother : ∀ path, path ≠ sidecarPath db "-wal" → path ≠ sidecarPath db "-shm" →
      fs2.read path = fs1.read path)
    (hswap : swap sqlite faults candidate db fs2 = (fs3, .error e)) :
    (rollback faults db (fs.read db).isSome fs3).read db =
      leftInPlace sqlite faults candidate db fs := by
  have hdb2 : fs2.read db = fs.read db := by
    have hne : db ≠ preRestoreSnapshotPath db := db_ne_snapshot
    have hsame := read_writeSnapshot_other faults fs hne
    rw [hsnapshot] at hsame
    rw [hother db (db_ne_sidecar (by decide)) (db_ne_sidecar (by decide))]
    exact hsame
  have hkept2 : fs2.read (preRestoreSnapshotPath db) =
      if (fs.read db).isSome then fs.read db else fs.read (preRestoreSnapshotPath db) := by
    rw [hother _ (sidecar_ne_snapshot (by decide)).symm (sidecar_ne_snapshot (by decide)).symm]
    exact (writeSnapshot_ok hsnapshot).2
  obtain ⟨hdb3, hother3⟩ := swap_error hswap
  have hkept3 := hother3 (preRestoreSnapshotPath db) db_ne_snapshot.symm temporary_ne_snapshot.symm
  rw [read_candidate hsnapshot hwal hshm hother, hdb2] at hdb3
  rw [read_rollback_db, hkept3, hkept2, hdb3]
  unfold leftInPlace
  cases hlive : fs.read db with
  | none => simp
  | some main =>
    simp only [Option.isSome_some, if_true]
    cases faults.rollback with
    | none => rfl
    | some fault => cases fault <;> rfl

theorem begun_of_snapshot {report : CandidateReport}
    (hresult : (validateCandidate sqlite registry faults.openCandidate fs candidate).intoResult
      candidate = .ok report) (hpath : candidate ≠ db)
    (hsnapshot : writeSnapshot faults db fs = (fs1, .ok ())) :
    RestoreBegun sqlite registry faults candidate db fs := by
  refine ⟨?_, hpath, (writeSnapshot_ok hsnapshot).1⟩
  by_contra hnot
  rw [CandidateReport.intoResult, if_neg hnot] at hresult
  cases hresult

theorem restoreFrom_error {e : CoreError}
    (h : restoreFrom sqlite registry faults candidate db fs = (fs', .error e)) :
    ((RestoreBegun sqlite registry faults candidate db fs → SidecarStays faults db fs "-wal") ∧
      fs'.read db = fs.read db ∧
      fs'.read (sidecarPath db "-wal") = fs.read (sidecarPath db "-wal")) ∨
    (RestoreBegun sqlite registry faults candidate db fs ∧ ¬ SidecarStays faults db fs "-wal" ∧
      fs'.read (sidecarPath db "-wal") = none ∧
      ((SidecarStays faults db fs "-shm" ∧ fs'.read db = fs.read db) ∨
        (¬ SidecarStays faults db fs "-shm" ∧
          fs'.read db = leftInPlace sqlite faults candidate db fs))) := by
  unfold restoreFrom at h
  cases hresult : (validateCandidate sqlite registry faults.openCandidate fs candidate).intoResult
      candidate with
  | error refusal =>
    simp only [hresult] at h
    cases h
    refine .inl ⟨?_, rfl, rfl⟩
    intro hbegun
    rw [CandidateReport.intoResult, if_pos hbegun.restorable] at hresult
    cases hresult
  | ok report =>
    simp only [hresult] at h
    by_cases hpath : candidate = db
    · rw [if_pos hpath] at h
      cases h
      exact .inl ⟨fun hbegun => absurd hpath hbegun.elsewhere, rfl, rfl⟩
    rw [if_neg hpath] at h
    have hframe : ∀ path, path ≠ preRestoreSnapshotPath db →
        (writeSnapshot faults db fs).1.read path = fs.read path :=
      fun path hne => read_writeSnapshot_other faults fs hne
    cases hsnapshot : writeSnapshot faults db fs with
    | mk fs1 result =>
      simp only [hsnapshot] at h hframe
      have hdb1 := hframe db db_ne_snapshot
      have hwal1 := hframe (sidecarPath db "-wal") (sidecar_ne_snapshot (by decide))
      have hshm1 := hframe (sidecarPath db "-shm") (sidecar_ne_snapshot (by decide))
      cases result with
      | error refusal =>
        simp only at h
        cases h
        obtain ⟨hlive, hfault⟩ := writeSnapshot_error hsnapshot
        exact .inl ⟨fun hbegun => absurd (hbegun.snapshot hlive) hfault, hdb1, hwal1⟩
      | ok _ =>
        simp only at h
        have hwalStays := sidecarStays_congr faults hwal1
        have hshmStays := sidecarStays_congr faults hshm1
        rcases removeSidecars_run faults db fs1 with
          ⟨hstays, e1, hrun⟩ | ⟨hgone, fs2, hwal2, hother2, hshm⟩
        · simp only [hrun] at h
          cases h
          exact .inl ⟨fun _ => hwalStays.mp hstays, hdb1, hwal1⟩
        · have hbegun := begun_of_snapshot hresult hpath hsnapshot
          have hnoWal : ¬ SidecarStays faults db fs "-wal" := fun h => hgone (hwalStays.mpr h)
          refine .inr ⟨hbegun, hnoWal, ?_⟩
          rcases hshm with ⟨hstays, e1, hrun⟩ | ⟨hgone2, hshm2, hrun⟩
          · simp only [hrun] at h
            cases h
            refine ⟨hwal2, .inl ⟨hshmStays.mp hstays, ?_⟩⟩
            exact (hother2 db (db_ne_sidecar (by decide)) (db_ne_sidecar (by decide))).trans hdb1
          · simp only [hrun] at h
            cases hswap : swap sqlite faults candidate db fs2 with
            | mk fs3 result =>
              simp only [hswap] at h
              cases result with
              | ok _ =>
                simp only at h
                cases h
              | error e1 =>
                simp only at h
                cases h
                have hwal3 := (swap_error hswap).2 (sidecarPath db "-wal")
                  (db_ne_sidecar (by decide)).symm temporary_ne_wal.symm
                refine ⟨?_, .inr ⟨fun h => hgone2 (hshmStays.mpr h), ?_⟩⟩
                · rw [read_rollback_wal, hwal3, hwal2]
                · exact read_rolledBack hsnapshot hwal2 hshm2 hother2 hswap

end Steps

/-- A failed restore keeps the live content, if and only if, where the log is removed before the
failure, the main file that is left holds all of it. -/
theorem restoreKeeps_iff {φ π : Type} (sqlite : Sqlite φ π) (registry : List String)
    (faults : RestoreFaults φ) (candidate db : String) (fs fs' : Files φ) (e : CoreError)
    (h : restoreFrom sqlite registry faults candidate db fs = (fs', .error e)) :
    liveContent sqlite db fs' = liveContent sqlite db fs ↔
      RestoreHarmless sqlite registry faults candidate db fs := by
  rcases restoreFrom_error h with ⟨hstays, hdb, hwal⟩ | ⟨hbegun, hgone, hwal, hleft⟩
  · exact iff_of_true (liveContent_congr hdb hwal)
      ⟨fun hbegun hno => absurd (hstays hbegun) hno, fun hbegun hno => absurd (hstays hbegun) hno⟩
  · have hlive : liveContent sqlite db fs' = mainPages sqlite (fs'.read db) := by
      rw [liveContent, hwal, logicalContent_none]
    rw [hlive]
    rcases hleft with ⟨hshm, hdb⟩ | ⟨hshm, hdb⟩
    · rw [hdb]
      constructor
      · intro hsame
        exact ⟨fun _ _ _ => hsame, fun _ _ hno => absurd hshm hno⟩
      · intro hharmless
        exact hharmless.shm hbegun hgone hshm
    · rw [hdb]
      constructor
      · intro hsame
        exact ⟨fun _ _ hyes => absurd hyes hshm, fun _ _ _ => hsame⟩
      · intro hharmless
        exact hharmless.swap hbegun hgone hshm

def listedPages : Sqlite (List (Nat × String)) String :=
  ⟨fun _ => none, fun _ => [], fun file n => file.lookup n, id⟩

def diskFull : RestoreFaults (List (Nat × String)) :=
  ⟨none, none, fun _ => none, some (.refused "No space left on device (os error 28)"), none, none,
    none, none, none, none, "0198"⟩

variable (log : Option (List (Nat × String)))

/-- A live database, whose last sale is in its log, and a backup. -/
def loggedSale : Files (List (Nat × String)) := fun path =>
  if path = "kasir.db" then some [(1, "one sale")]
  else if path = "kasir.db-wal" then log
  else if path = "backup.db" then some [(1, "no sale")]
  else none

def afterRestore : Files (List (Nat × String)) :=
  (restoreFrom listedPages [] diskFull "backup.db" "kasir.db" (loggedSale log)).1

theorem loggedSale_lost :
    (∃ e, (restoreFrom listedPages [] diskFull "backup.db" "kasir.db"
      (loggedSale (some [(1, "two sales")]))).2 = .error e) ∧
    liveContent listedPages "kasir.db" (loggedSale (some [(1, "two sales")])) 1 =
      some "two sales" ∧
    liveContent listedPages "kasir.db" (afterRestore (some [(1, "two sales")])) 1 =
      some "one sale" := by
  exact ⟨⟨_, rfl⟩, by decide, by decide⟩

theorem checkpointed_kept :
    liveContent listedPages "kasir.db" (afterRestore none) =
      liveContent listedPages "kasir.db" (loggedSale none) := by
  apply (restoreKeeps_iff listedPages [] diskFull "backup.db" "kasir.db" (loggedSale none)
    (afterRestore none) _ rfl).mpr
  constructor
  · intro _ _ _
    rfl
  · intro _ _ _
    rfl

end OzPos
