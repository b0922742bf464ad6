import OzPos.Client.Tables
import OzPos.Library.Files

namespace OzPos

inductive CandidateVerdict where
  | acceptable
  | olderButAcceptable
  | newerThanThisBuild
  | corrupt

def CandidateVerdict.isRestorable : CandidateVerdict → Bool
  | .acceptable => true
  | .olderButAcceptable => true
  | .newerThanThisBuild => false
  | .corrupt => false

structure CandidateReport where
  verdict : CandidateVerdict
  reason : String
  (candidateSchema buildSchema : Option String)

def CandidateReport.intoResult (report : CandidateReport) (candidate : String) :
    Except CoreError CandidateReport :=
  if report.verdict.isRestorable then .ok report
  else
    .error (.validation "restore candidate"
      ("refusing '" ++ candidate ++ "': " ++ report.reason))

/-- The first eight characters, where they are digits: then they are the first eight bytes. -/
def dateKey (id : String) : Option Nat :=
  let digits := id.toList.take 8
  if digits.length = 8 && digits.all Char.isDigit then
    some (digits.foldl (fun n c => 10 * n + (c.toNat - '0'.toNat)) 0)
  else none

/-- `max_by_key`: of several greatest ones the last. -/
def newestDatedId (ids : List String) : Option String :=
  let newest := (ids.filterMap (fun id => (dateKey id).map (fun key => (key, id)))).foldl
    (fun best dated =>
      match best with
      | none => some dated
      | some b => if b.1 ≤ dated.1 then some dated else some b)
    none
  newest.map Prod.snd

/-- What SQLite reads of a file: the error of `check_integrity`, the ids in
`schema_migrations`, the pages of a main file, the committed frames of a write-ahead log. -/
structure Sqlite (φ π : Type) where
  integrityError : φ → Option String
  appliedMigrationIds : φ → List String
  pages : φ → Nat → Option π
  frames : φ → List (Nat × π)

section Restore

variable {φ π : Type} (sqlite : Sqlite φ π)

/-- `openFault` is why the file cannot be opened. -/
def verifyFile (openFault : Option String) (fs : Files φ) (path : String) : Except String Unit :=
  match openFault, fs.read path with
  | some e, _ => .error ("internal error: cannot open '" ++ path ++ "': " ++ e)
  | none, none =>
    .error ("internal error: cannot open '" ++ path ++ "': unable to open database file")
  | none, some file =>
    match sqlite.integrityError file with
    | some e => .error e
    | none => .ok ()

/-- `registry` holds the ids of `migrations::ALL`. -/
def validateCandidate (registry : List String) (openFault : Option String) (fs : Files φ)
    (path : String) : CandidateReport :=
  let build := newestDatedId registry
  let report := fun verdict reason candidate => CandidateReport.mk verdict reason candidate build
  match fs.read path with
  | none => report .corrupt ("'" ++ path ++ "' is not a readable file") none
  | some file =>
    match openFault with
    | some e => report .corrupt ("cannot open '" ++ path ++ "' read-only: " ++ e) none
    | none =>
      match sqlite.integrityError file with
      | some e => report .corrupt ("'" ++ path ++ "' failed integrity_check: " ++ e) none
      | none =>
        let candidate := newestDatedId (sqlite.appliedMigrationIds file)
        match candidate.bind dateKey, build.bind dateKey with
        | some candidateKey, some buildKey =>
          if buildKey < candidateKey then
            report .newerThanThisBuild ("candidate schema " ++ candidate.getD "?" ++
              " is newer than this build's " ++ build.getD "?" ++
              " — this build cannot run it") candidate
          else if candidateKey < buildKey then
            report .olderButAcceptable ("candidate schema " ++ candidate.getD "?" ++
              " is older than this build's " ++ build.getD "?" ++
              " — migrations re-apply forward") candidate
          else
            report .acceptable ("candidate schema matches this build (" ++ build.getD "?" ++ ")")
              candidate
        | none, _ =>
          report .olderButAcceptable ("candidate carries no applied migrations — " ++
            "the oldest state, brought forward by migrations") candidate
        | some _, none =>
          report .acceptable ("this build's registry carries no date-shaped migration id " ++
            "to compare against") candidate

def preRestoreSnapshotPath (db : String) : String := db ++ ".pre-restore.db"

def sidecarPath (db extension : String) : String := db ++ extension

def sidecars : List String := ["-wal", "-shm"]

/-- Which operations of one restore fail, and the id that it mints. -/
structure RestoreFaults (φ : Type) where
  openCandidate : Option String
  snapshot : Option (CopyFault φ)
  removeSidecar : String → Option String
  stage : Option (CopyFault φ)
  (verifyStaged promote verifyRestored removeTemporary : Option String)
  rollback : Option (CopyFault φ)
  removeLive : Option String
  uuid : String

variable (registry : List String) (faults : RestoreFaults φ) (candidate db : String)

def temporaryPath : String := db ++ ".restore-" ++ faults.uuid

variable (fs : Files φ)

def writeSnapshot : Files φ × Except CoreError Unit :=
  if (fs.read db).isSome then
    match fs.copy faults.snapshot db (preRestoreSnapshotPath db) with
    | (fs, .ok ()) => (fs, .ok ())
    | (fs, .error e) =>
      (fs, .error (.internal ("failed to write the pre-restore snapshot '" ++
        preRestoreSnapshotPath db ++ "': " ++ e)))
  else (fs, .ok ())

def removeSidecars : List String → Files φ → Files φ × Except CoreError Unit
  | [], fs => (fs, .ok ())
  | extension :: rest, fs =>
    if (fs.read (sidecarPath db extension)).isNone then removeSidecars rest fs
    else
      match fs.remove (faults.removeSidecar extension) (sidecarPath db extension) with
      | (fs, .ok ()) => removeSidecars rest fs
      | (fs, .error e) =>
        (fs, .error (.internal ("failed to remove the sidecar '" ++ sidecarPath db extension ++
          "' before restoring: " ++ e)))

/-- The candidate is copied beside the live database and verified there. -/
def stage (fs : Files φ) : Files φ × Except String Unit :=
  let temporary := temporaryPath faults db
  match fs.copy faults.stage candidate temporary with
  | (fs, .error e) =>
    (fs, .error ("internal error: failed to stage the candidate '" ++ candidate ++ "' at '" ++
      temporary ++ "': " ++ e))
  | (fs, .ok ()) =>
    match verifyFile sqlite faults.verifyStaged fs temporary with
    | .error e =>
      (fs, .error ("internal error: the staged candidate at '" ++ temporary ++
        "' is not integrity-clean: " ++ e))
    | .ok () => (fs, .ok ())

/-- The staged file is renamed over the live path and verified again. -/
def promote (fs : Files φ) : Files φ × Except String Unit :=
  match fs.rename faults.promote (temporaryPath faults db) db with
  | (fs, .error e) =>
    (fs, .error ("internal error: failed to move the verified candidate into place at '" ++ db ++
      "': " ++ e))
  | (fs, .ok ()) =>
    match verifyFile sqlite faults.verifyRestored fs db with
    | .error e =>
      (fs, .error ("internal error: the restored database at '" ++ db ++
        "' failed re-verification: " ++ e))
    | .ok () => (fs, .ok ())

def swap : Files φ × Except String Unit :=
  match stage sqlite faults candidate db fs with
  | (fs, .error e) => (fs, .error e)
  | (fs, .ok ()) => promote sqlite faults db fs

def rollback (hadLive : Bool) (fs : Files φ) : Files φ :=
  let fs := (fs.remove faults.removeTemporary (temporaryPath faults db)).1
  if hadLive then (fs.copy faults.rollback (preRestoreSnapshotPath db) db).1
  else (fs.remove faults.removeLive db).1

def restoreFrom : Files φ × Except CoreError CandidateReport :=
  match (validateCandidate sqlite registry faults.openCandidate fs candidate).intoResult
    candidate with
  | .error e => (fs, .error e)
  | .ok report =>
    if candidate = db then
      (fs, .error (.validation "restore candidate"
        ("candidate and destination are the same path ('" ++ db ++ "')")))
    else
      let hadLive := (fs.read db).isSome
      match writeSnapshot faults db fs with
      | (fs, .error e) => (fs, .error e)
      | (fs, .ok ()) =>
        match removeSidecars faults db sidecars fs with
        | (fs, .error e) => (fs, .error e)
        | (fs, .ok ()) =>
          match swap sqlite faults candidate db fs with
          | (fs, .ok ()) => (fs, .ok report)
          | (fs, .error e) =>
            (rollback faults db hadLive fs, .error (.internal ("restore rolled back, '" ++ db ++
              "' left intact: " ++ e)))

/-- The pages with the frames of a log written over them, later ones over earlier ones. -/
def overlay (pages : Nat → Option π) (frames : List (Nat × π)) : Nat → Option π :=
  frames.foldl (fun pages frame => fun n => if n = frame.1 then some frame.2 else pages n) pages

def mainPages (main : Option φ) : Nat → Option π := main.elim (fun _ => none) sqlite.pages

def logFrames (log : Option φ) : List (Nat × π) := log.elim [] sqlite.frames

/-- What a reader of the live database finds: without a main file a log is not read. -/
def logicalContent (main log : Option φ) : Nat → Option π :=
  if main.isSome then overlay (mainPages sqlite main) (logFrames sqlite log)
  else mainPages sqlite main

def liveContent : Nat → Option π :=
  logicalContent sqlite (fs.read db) (fs.read (sidecarPath db "-wal"))

end Restore

theorem fst_foldl_newest (dated : List (Nat × String)) (best : Nat × String) :
    ∃ d ∈ best :: dated, dated.foldl (fun best dated =>
        match best with
        | none => some dated
        | some b => if b.1 ≤ dated.1 then some dated else some b) (some best) = some d ∧
      d.1 = (dated.map Prod.fst).foldl max best.1 := by
  induction dated generalizing best with
  | nil => exact ⟨best, List.mem_cons_self, rfl, rfl⟩
  | cons e dated ih =>
    simp only [List.foldl_cons, List.map_cons]
    by_cases h : best.1 ≤ e.1
    · obtain ⟨d, hd, heq, hmax⟩ := ih e
      rw [if_pos h, max_eq_right h]
      exact ⟨d, List.mem_cons_of_mem _ hd, heq, hmax⟩
    · obtain ⟨d, hd, heq, hmax⟩ := ih best
      rw [if_neg h, max_eq_left (by omega)]
      exact ⟨d, (List.sublist_cons_self e dated).cons_cons best |>.subset hd, heq, hmax⟩

theorem newestDatedId_key (ids : List String) :
    (newestDatedId ids).bind dateKey = (ids.filterMap dateKey).max? := by
  have hkeys : ids.filterMap dateKey =
      (ids.filterMap (fun id => (dateKey id).map (fun key => (key, id)))).map Prod.fst := by
    rw [List.map_filterMap]
    congr 1
    funext id
    cases dateKey id <;> rfl
  have hown : ∀ d ∈ ids.filterMap (fun id => (dateKey id).map (fun key => (key, id))),
      dateKey d.2 = some d.1 := by
    intro d hd
    obtain ⟨id, -, hid⟩ := List.mem_filterMap.mp hd
    obtain ⟨key, hkey, rfl⟩ := Option.map_eq_some_iff.mp hid
    exact hkey
  rw [hkeys]
  unfold newestDatedId
  cases hdated : ids.filterMap (fun id => (dateKey id).map (fun key => (key, id))) with
  | nil => rfl
  | cons first rest =>
    obtain ⟨d, hd, heq, hmax⟩ := fst_foldl_newest rest first
    have hkey := hown d (hdated ▸ hd)
    rw [List.map_cons, List.max?_cons', ← hmax, ← hkey]
    exact congrArg (fun newest => (newest.map Prod.snd).bind dateKey) heq

/-- The candidate has an id dated after every dated one of the registry, and there is such a one. -/
def DatedLater (registry applied : List String) : Prop :=
  ∃ id ∈ applied, ∃ key, dateKey id = some key ∧ (∃ known ∈ registry, dateKey known ≠ none) ∧
    ∀ known ∈ registry, ∀ k, dateKey known = some k → k < key

theorem datedLater_iff (registry applied : List String) : DatedLater registry applied ↔
    ∃ key build, (newestDatedId applied).bind dateKey = some key ∧
      (newestDatedId registry).bind dateKey = some build ∧ build < key := by
  simp only [newestDatedId_key, List.max?_eq_some_iff]
  constructor
  · rintro ⟨id, hid, key, hkey, ⟨known, hknown, hdated⟩, hlater⟩
    obtain ⟨k, hk⟩ := Option.ne_none_iff_exists'.mp hdated
    have happlied := List.mem_filterMap.mpr ⟨id, hid, hkey⟩
    have hregistry := List.mem_filterMap.mpr ⟨known, hknown, hk⟩
    cases hnewest : (applied.filterMap dateKey).max? with
    | none => simp [List.max?_eq_none_iff.mp hnewest] at happlied
    | some newest =>
      cases hbuild : (registry.filterMap dateKey).max? with
      | none => simp [List.max?_eq_none_iff.mp hbuild] at hregistry
      | some build =>
        rw [List.max?_eq_some_iff] at hnewest hbuild
        obtain ⟨other, hother, hdate⟩ := List.mem_filterMap.mp hbuild.1
        have hlt := hlater other hother build hdate
        exact ⟨newest, build, hnewest, hbuild, hlt.trans_le (hnewest.2 key happlied)⟩
  · rintro ⟨key, build, ⟨hmem, -⟩, ⟨hbuild, hnewest⟩, hlt⟩
    obtain ⟨id, hid, hkey⟩ := List.mem_filterMap.mp hmem
    obtain ⟨known, hknown, hdate⟩ := List.mem_filterMap.mp hbuild
    refine ⟨id, hid, key, hkey, ⟨known, hknown, by simp [hdate]⟩, ?_⟩
    intro other hother k hk
    exact (hnewest k (List.mem_filterMap.mpr ⟨other, hother, hk⟩)).trans_lt hlt

variable {φ π : Type} (sqlite : Sqlite φ π) (registry : List String)

theorem isRestorable_iff {fs : Files φ} {path : String} {file : φ} (hread : fs.read path = some file)
    (hclean : sqlite.integrityError file = none) :
    (validateCandidate sqlite registry none fs path).verdict.isRestorable = true ↔
      ¬ DatedLater registry (sqlite.appliedMigrationIds file) := by
  rw [datedLater_iff]
  simp only [validateCandidate, hread, hclean]
  cases (newestDatedId (sqlite.appliedMigrationIds file)).bind dateKey with
  | none => simp [CandidateVerdict.isRestorable]
  | some key =>
    cases (newestDatedId registry).bind dateKey with
    | none => simp [CandidateVerdict.isRestorable]
    | some build =>
      by_cases hlater : build < key
      · simp [hlater, CandidateVerdict.isRestorable]
      · by_cases holder : key < build
        · simp [hlater, holder, CandidateVerdict.isRestorable]
        · simp [hlater, holder, CandidateVerdict.isRestorable]

/-- A candidate is let through only with migrations that this build has, exactly where one that it
has not comes with a date after all of the build's. -/
theorem restorable_known_iff (openFault : Option String) (fs : Files φ) (path : String) :
    ((validateCandidate sqlite registry openFault fs path).verdict.isRestorable = true →
        ∀ file, fs.read path = some file → ∀ id ∈ sqlite.appliedMigrationIds file, id ∈ registry) ↔
      (openFault = none → ∀ file, fs.read path = some file → sqlite.integrityError file = none →
        (∃ id ∈ sqlite.appliedMigrationIds file, id ∉ registry) →
          DatedLater registry (sqlite.appliedMigrationIds file)) := by
  cases hread : fs.read path with
  | none => simp
  | some file =>
    cases openFault with
    | some e => simp [validateCandidate, hread, CandidateVerdict.isRestorable]
    | none =>
      cases hclean : sqlite.integrityError file with
      | some e => simp [validateCandidate, hread, hclean, CandidateVerdict.isRestorable]
      | none =>
        rw [isRestorable_iff sqlite registry hread hclean]
        by_cases hlater : DatedLater registry (sqlite.appliedMigrationIds file)
        · simp [hlater]
        · simp [hlater, hclean]

def listedIds : Sqlite (List String) Unit := ⟨fun _ => none, fun ids => ids, fun _ _ => none, fun _ => []⟩

def registered : List String := ["20261009_staff_trash.sql", "20261010_role_trash.sql"]

/-- The migration that the next build appends has an earlier date than the one before it. -/
theorem nextBuild_restorable :
    ¬ ((validateCandidate listedIds registered none
          (fun _ => some (registered ++ ["20261007_sync_origin_and_effect_key.sql"]))
          "backup.db").verdict.isRestorable = true →
        ∀ id ∈ registered ++ ["20261007_sync_origin_and_effect_key.sql"], id ∈ registered) := by
  decide +kernel

end OzPos
