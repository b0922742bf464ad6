import OzPos.LicenseServer.SubscriptionRows

namespace OzPos

structure TrialClaimRequest where
  (hardwareFingerprint trialVertical email : String)

structure TrialClaimDraw where
  refused : Option Refusal
  newTenantId : String
  (tenantSaveFails registrationSaveFails : Bool)

def upsertTenantByEmail (email newId : String) (saveFails : Bool) (db : ServerDb) :
    Option (ServerDb × String) :=
  match db.tenants.find? email with
  | some t => some (db, t.id)
  | none => if saveFails then none else (db.openTenant newId email).map (fun db => (db, newId))

variable (lower : String → String) (req : TrialClaimRequest) (d : TrialClaimDraw) (db : ServerDb)

/-- `handleTrial` up to the search for a registration, with the fingerprint of the claim. -/
def lookUpTrial : Except Refusal String :=
  let fp := normalizeHardwareFingerprint lower req.hardwareFingerprint
  if fp = "" then
    .error ⟨400, "hardware_fingerprint must be the 15-char machine_id or the hw_<hex> form"⟩
  else
    match d.refused, db.trials.find? fp with
    | some refusal, _ => .error refusal
    | none, some _ => .error trialAlreadyClaimed
    | none, none => .ok fp

/-- The account of a claim, `""` where it names none or its tenant cannot be saved. -/
def claimOwner : ServerDb × String :=
  let email := lower (trim req.email)
  if email = "" then (db, "")
  else (upsertTenantByEmail email d.newTenantId d.tenantSaveFails db).getD (db, "")

/-- `handleTrial` from there on: the end of the trial. -/
def saveTrial (fp : String) (now : Int) (db : ServerDb) : ServerDb × Except Refusal Int :=
  let (db, owner) := claimOwner lower req d db
  let ends := Calendar.addDate 0 0 (trialSegmentation lower req.trialVertical).2 now
  match if d.registrationSaveFails then none else db.trials.insert? ⟨fp, owner, ends⟩ with
  | none => (db, .error ⟨500, "failed to register trial"⟩)
  | some trials => ({ db with trials := trials }, .ok ends)

/-- A request that looked up the registration of its device and has not saved yet. -/
inductive TrialRequest where
  | claim (req : TrialClaimRequest) (d : TrialClaimDraw) (fp : String)
  | activation (req : ActivateRequest) (d : ActivateDraw) (a : Admission)
      (found : Option TrialRegistration)

inductive TrialEvent where
  | claim (req : TrialClaimRequest) (d : TrialClaimDraw)
  | activate (req : ActivateRequest) (d : ActivateDraw)
  | save (i : Nat)
  | wait (seconds : Nat)

/-- `minted` are the devices and the tenants that a trial was minted for. -/
structure TrialState where
  clock : Int
  db : ServerDb
  pending : List TrialRequest
  minted : List (String × String)

namespace TrialState

def start (clock : Int) : TrialState := ⟨clock, db, [], []⟩

variable (lower : String → String) (s : TrialState)

def complete : TrialRequest → TrialState
  | .claim req d fp => { s with db := (saveTrial lower req d fp s.clock s.db).1 }
  | .activation req d a found =>
    let (db, answer) := activateAdmitted lower req d a found s.clock s.db
    { s with
      db := db
      minted :=
        if a.key.isTrial && answer.toBool then (req.fingerprint lower, a.tenantId) :: s.minted
        else s.minted }

end TrialState

def trialLock (lower : String → String) : Machine TrialState TrialEvent Unit where
  step s
    | .claim req d =>
      match lookUpTrial lower req d s.db with
      | .ok fp => ({ s with pending := s.pending ++ [.claim req d fp] }, ())
      | .error _ => (s, ())
    | .activate req d =>
      match authorize lower req d s.clock s.db with
      | (db, .inr a) =>
        ({ s with
          db := db
          pending := s.pending ++
            [.activation req d a (db.trials.find? (req.fingerprint lower))] }, ())
      | (db, .inl _) => ({ s with db := db }, ())
    | .save i =>
      match s.pending[i]? with
      | some r => ({ s with pending := s.pending.eraseIdx i }.complete lower r, ())
      | none => (s, ())
    | .wait seconds => ({ s with clock := s.clock + seconds }, ())

def TrialState.OneTrial (s : TrialState) : Prop :=
  ∀ f t t', f ≠ "" → (f, t) ∈ s.minted → (f, t') ∈ s.minted → t = t'

/-- An activation with a trial key that did not find a registration saves its own, and one that it
found names a tenant. -/
def TrialState.Meets (lower : String → String) (s : TrialState) : TrialEvent → Prop
  | .save i =>
    ∀ req d a found, s.pending[i]? = some (.activation req d a found) → a.key.isTrial = true →
      req.fingerprint lower ≠ "" → ¬ a.key.expiresAt < s.clock →
      match found with
      | some r => r.tenantId ≠ ""
      | none => d.registrationSaveFails = false ∧ s.db.trials.find? (req.fingerprint lower) = none
  | _ => True

section

variable {lower : String → String} {now : Int}

def ServerDb.KeepsTrials (db db' : ServerDb) : Prop :=
  ∀ f r, db.trials.find? f = some r → db'.trials.find? f = some r

variable {db db' : ServerDb}

theorem keepsTrials_of_eq (h : db'.trials = db.trials) : db.KeepsTrials db' := by
  intro f r hfound
  rw [h]
  exact hfound

theorem keepsTrials_insertNew (db : ServerDb) (r : TrialRegistration) :
    db.KeepsTrials { db with trials := db.trials.insertNew r } := by
  intro f found hfound
  show (db.trials.insertNew r).find? f = some found
  rw [Table.find?_insertNew, hfound]
  rfl

theorem trials_upsertTenant {email newId : String} {saveFails : Bool} {p : ServerDb × String}
    (h : upsertTenantByEmail email newId saveFails db = some p) : p.1.trials = db.trials := by
  unfold upsertTenantByEmail at h
  cases hfound : db.tenants.find? email with
  | some t =>
    simp only [hfound, Option.some.injEq] at h
    rw [← h]
  | none =>
    simp only [hfound] at h
    split at h
    · cases h
    · obtain ⟨db1, hopen, rfl⟩ := Option.map_eq_some_iff.mp h
      rw [(openTenant_some hopen).2]

theorem trials_claimOwner (req : TrialClaimRequest) (d : TrialClaimDraw) (db : ServerDb) :
    (claimOwner lower req d db).1.trials = db.trials := by
  unfold claimOwner
  dsimp only
  split
  · rfl
  · cases hupsert : upsertTenantByEmail (lower (trim req.email)) d.newTenantId d.tenantSaveFails
        db with
    | none => rfl
    | some p => exact trials_upsertTenant hupsert

theorem keepsTrials_insert {r : TrialRegistration}
    {trials : Table String TrialRegistration TrialRegistration.hardwareFingerprint}
    (h : db.trials.insert? r = some trials) : db.KeepsTrials { db with trials := trials } := by
  intro f found hfound
  show trials.find? f = some found
  have hne : r.hardwareFingerprint ≠ f := by
    intro heq
    have hnew : (db.trials.insert? r).isSome := by
      rw [h]
      rfl
    rw [Table.insert?_isSome_iff, heq, hfound] at hnew
    cases hnew
  rw [Table.find?_insert? h, if_neg hne]
  exact hfound

theorem keepsTrials_saveTrial (req : TrialClaimRequest) (d : TrialClaimDraw) (fp : String)
    (db : ServerDb) : db.KeepsTrials (saveTrial lower req d fp now db).1 := by
  have hsame : (claimOwner lower req d db).1.trials = db.trials := trials_claimOwner req d db
  unfold saveTrial
  cases hclaim : claimOwner lower req d db with
  | mk db1 owner =>
    rw [hclaim] at hsame
    dsimp only at hsame ⊢
    split
    · exact keepsTrials_of_eq hsame
    · rename_i trials hinsert
      split at hinsert
      · cases hinsert
      · intro f r hfound
        rw [← hsame] at hfound
        exact keepsTrials_insert hinsert f r hfound

variable {req : ActivateRequest} {d : ActivateDraw}

theorem trials_authorize {r : Except Refusal ActivateAnswer ⊕ Admission}
    (h : authorize lower req d now db = (db', r)) : db'.trials = db.trials := by
  rcases authorize_cases h with ⟨refusal, -, rfl⟩ | ⟨k, t, answer, -, -, hre⟩ | ⟨a, -, hlet⟩
  · rfl
  · exact (reactivate_kept hre).2.2
  · exact hlet.kept.2.2

theorem activateAdmitted_trials (lower : String → String) (req : ActivateRequest) (d : ActivateDraw)
    (a : Admission) (found : Option TrialRegistration) (now : Int) (db : ServerDb) :
    ((∃ refusal, (activateAdmitted lower req d a found now db).2 = .error refusal) ∧
      (activateAdmitted lower req d a found now db).1.trials = db.trials) ∨
    (∃ db1, ¬ a.key.expiresAt < now ∧ lockedTrials lower req d a found now db = some db1 ∧
      (activateAdmitted lower req d a found now db).1.trials = db1.trials) := by
  cases hadmitted : activateAdmitted lower req d a found now db with
  | mk db' r =>
    rcases activateAdmitted_cases hadmitted with ⟨refusal, rfl, rfl, -⟩ | ⟨db1, hlocked, hpast⟩
    · exact .inl ⟨⟨refusal, rfl⟩, rfl⟩
    · refine .inr ⟨db1, hpast.unexpired, hlocked, ?_⟩
      rcases hpast.ends with ⟨refusal, -, rfl, -⟩ | ⟨db2, -, hregistered, rfl, -⟩
      · rfl
      · exact (registerMachine_kept hregistered).2.2

theorem lockedTrials_some {a : Admission} {found : Option TrialRegistration} {db1 : ServerDb}
    (h : lockedTrials lower req d a found now db = some db1) :
    db.KeepsTrials db1 ∧
      (a.key.isTrial = true → req.fingerprint lower ≠ "" →
        (∀ r, found = some r → r.tenantId ≠ "" ∧ db.trials.find? (req.fingerprint lower) = some r) →
        (found = none → d.registrationSaveFails = false ∧
          db.trials.find? (req.fingerprint lower) = none) →
        ∃ r, db1.trials.find? (req.fingerprint lower) = some r ∧ r.tenantId = a.tenantId) := by
  unfold lockedTrials at h
  cases htrial : a.key.isTrial with
  | false =>
    simp only [htrial, Bool.false_eq_true, if_false, Option.some.injEq] at h
    refine ⟨keepsTrials_of_eq (by rw [h]), ?_⟩
    intro hkey
    cases hkey
  | true =>
    simp only [htrial, if_true] at h
    unfold enforceTrialLock at h
    by_cases hfp : req.fingerprint lower = ""
    · simp only [hfp, if_true, Option.some.injEq] at h
      exact ⟨keepsTrials_of_eq (by rw [h]), fun _ hne => absurd hfp hne⟩
    · simp only [hfp, if_false] at h
      cases found with
      | some r =>
        dsimp only at h
        split at h
        · cases h
        · rename_i howner
          cases h
          refine ⟨keepsTrials_of_eq rfl, ?_⟩
          intro _ _ hfound _
          obtain ⟨hnamed, hrow⟩ := hfound r rfl
          refine ⟨r, hrow, ?_⟩
          simpa [hnamed] using howner
      | none =>
        simp only [Option.some.injEq] at h
        cases hsave : d.registrationSaveFails with
        | true =>
          simp only [hsave, if_true] at h
          refine ⟨keepsTrials_of_eq (by rw [h]), ?_⟩
          intro _ _ _ hnone
          exact absurd (hnone rfl).1 (by simp)
        | false =>
          simp only [hsave, Bool.false_eq_true, if_false] at h
          rw [← h]
          refine ⟨keepsTrials_insertNew db _, ?_⟩
          intro _ _ _ hnone
          refine ⟨⟨req.fingerprint lower, a.tenantId,
            Calendar.addDate 0 0 (trialSegmentation lower req.trialVertical).2 now⟩, ?_, rfl⟩
          show (db.trials.insertNew _).find? _ = some _
          rw [Table.find?_insertNew, (hnone rfl).2]
          simp

end

namespace TrialState

variable {lower : String → String} {s : TrialState}

/-- A device that a trial was minted on is registered for its tenant, and what a request in flight
found is still there. -/
structure Locked (lower : String → String) (s : TrialState) : Prop where
  minted : ∀ f t, f ≠ "" → (f, t) ∈ s.minted →
    ∃ r, s.db.trials.find? f = some r ∧ r.tenantId = t
  pending : ∀ req d a r, TrialRequest.activation req d a (some r) ∈ s.pending →
    s.db.trials.find? (req.fingerprint lower) = some r

theorem Locked.of_keeps (h : s.Locked lower) {db : ServerDb} (hkeeps : s.db.KeepsTrials db)
    {pending : List TrialRequest}
    (hpending : ∀ req d a r, TrialRequest.activation req d a (some r) ∈ pending →
      TrialRequest.activation req d a (some r) ∈ s.pending ∨
        db.trials.find? (req.fingerprint lower) = some r) :
    ({ s with db := db, pending := pending } : TrialState).Locked lower := by
  constructor
  · intro f t hf hmem
    obtain ⟨r, hr, howner⟩ := h.minted f t hf hmem
    exact ⟨r, hkeeps f r hr, howner⟩
  · intro req d a r hmem
    rcases hpending req d a r hmem with hold | hnew
    · exact hkeeps _ r (h.pending req d a r hold)
    · exact hnew

theorem locked_complete (h : s.Locked lower) {i : Nat} {r : TrialRequest}
    (hr : s.pending[i]? = some r) (hmeets : s.Meets lower (.save i)) :
    ({ s with pending := s.pending.eraseIdx i }.complete lower r).Locked lower := by
  have hrest : ∀ req d a r, TrialRequest.activation req d a (some r) ∈ s.pending.eraseIdx i →
      TrialRequest.activation req d a (some r) ∈ s.pending :=
    fun req d a r hmem => List.mem_of_mem_eraseIdx hmem
  cases r with
  | claim req d fp =>
    apply h.of_keeps (keepsTrials_saveTrial req d fp s.db)
    intro req d a r hmem
    exact .inl (hrest req d a r hmem)
  | activation req d a found =>
    have hmem : TrialRequest.activation req d a found ∈ s.pending := List.mem_of_getElem? hr
    rcases activateAdmitted_trials lower req d a found s.clock s.db with
      ⟨⟨refusal, hrefused⟩, hsame⟩ | ⟨db1, hexpiry, hlocked, hsame⟩
    · have hstep : { s with pending := s.pending.eraseIdx i }.complete lower
          (.activation req d a found) =
          { s with
            db := (activateAdmitted lower req d a found s.clock s.db).1
            pending := s.pending.eraseIdx i } := by
        simp only [complete, hrefused, Except.toBool, Bool.and_false, Bool.false_eq_true, if_false]
      rw [hstep]
      apply h.of_keeps (keepsTrials_of_eq hsame)
      intro req d a r hmem
      exact .inl (hrest req d a r hmem)
    · obtain ⟨hkeeps, howner⟩ := lockedTrials_some hlocked
      have hkeepsAll : s.db.KeepsTrials (activateAdmitted lower req d a found s.clock s.db).1 := by
        intro f r hf
        rw [hsame]
        exact hkeeps f r hf
      have hafter := h.of_keeps hkeepsAll (fun req d a r hmem => .inl (hrest req d a r hmem))
      refine ⟨?_, hafter.pending⟩
      intro f t hf hminted
      simp only [complete] at hminted
      split at hminted
      · rename_i hmints
        rcases List.mem_cons.mp hminted with heq | hold
        · obtain ⟨rfl, rfl⟩ := Prod.mk.inj heq
          have htrial : a.key.isTrial = true := (Bool.and_eq_true _ _ ▸ hmints).1
          have hmeet := hmeets req d a found hr htrial hf hexpiry
          show ∃ r, (activateAdmitted lower req d a found s.clock s.db).1.trials.find? _ = some r ∧ _
          rw [hsame]
          apply howner htrial hf
          · intro r hfound
            subst hfound
            exact ⟨hmeet, h.pending req d a r hmem⟩
          · intro hfound
            subst hfound
            exact hmeet
        · exact hafter.minted f t hf hold
      · exact hafter.minted f t hf hminted

theorem locked_step (h : s.Locked lower) {e : TrialEvent} (hmeets : s.Meets lower e) :
    ((trialLock lower).step s e).1.Locked lower := by
  cases e with
  | claim req d =>
    simp only [trialLock]
    split
    · apply h.of_keeps (keepsTrials_of_eq rfl)
      intro req d a r hmem
      rcases List.mem_append.mp hmem with hold | hnew
      · exact .inl hold
      · cases List.mem_singleton.mp hnew
    · exact h
  | activate req d =>
    simp only [trialLock]
    cases hauthorize : authorize lower req d s.clock s.db with
    | mk db r =>
      have hsame := trials_authorize hauthorize
      cases r with
      | inl answer => exact h.of_keeps (keepsTrials_of_eq hsame) (fun _ _ _ _ hmem => .inl hmem)
      | inr a =>
        apply h.of_keeps (keepsTrials_of_eq hsame)
        intro req d a r hmem
        rcases List.mem_append.mp hmem with hold | hnew
        · exact .inl hold
        · right
          have heq := List.mem_singleton.mp hnew
          injection heq with hreq _ _ hfound
          rw [hreq]
          exact hfound.symm
  | save i =>
    simp only [trialLock]
    cases hr : s.pending[i]? with
    | none => exact h
    | some r => exact locked_complete h hr hmeets
  | wait seconds => exact ⟨h.minted, h.pending⟩

theorem Locked.oneTrial (h : s.Locked lower) : s.OneTrial := by
  intro f t t' hf ht ht'
  obtain ⟨r, hr, howner⟩ := h.minted f t hf ht
  obtain ⟨r', hr', howner'⟩ := h.minted f t' hf ht'
  rw [hr] at hr'
  cases hr'
  rw [← howner, ← howner']

end TrialState

/-- In every run whose steps meet the condition, one tenant at most has a trial on a device. -/
theorem oneTrial_run (lower : String → String) (db : ServerDb) (clock : Int)
    (events : List TrialEvent)
    (h : (trialLock lower).Along (fun s e => s.Meets lower e) (.start db clock) events) :
    ∀ l r, events = l ++ r → ((trialLock lower).run (.start db clock) l).OneTrial := by
  intro l r hsplit
  rw [hsplit, Machine.along_append] at h
  have hstep : ∀ (s : TrialState) (e : TrialEvent), s.Locked lower → s.Meets lower e →
      ((trialLock lower).step s e).1.Locked lower :=
    fun s e hs hmeets => TrialState.locked_step hs hmeets
  have hstart : (TrialState.start db clock).Locked lower := by
    constructor
    · intro f t _ hmem
      cases hmem
    · intro req d a r hmem
      cases hmem
  have hlocked : ((trialLock lower).run (.start db clock) l).Locked lower :=
    (trialLock lower).run_invariant hstep _ l hstart h.1
  exact hlocked.oneTrial

def trialKeys : Table String LicenseKeyRecord LicenseKeyRecord.key where
  rows :=
    [⟨"OZ-TRIAL-01", "plus", .unused, 86400, true, "", "", ⟨"", "", ""⟩⟩,
      ⟨"OZ-TRIAL-02", "plus", .unused, 86400, true, "", "", ⟨"", "", ""⟩⟩]
  unique := by decide

def trialDb : ServerDb := ⟨⟨trialKeys, Table.empty⟩, Table.empty, Table.empty, Table.empty⟩

def trialRequest (key email : String) : ActivateRequest :=
  ⟨key, email, "till-" ++ key, "", "a1b2c3d4e5f6078"⟩

def trialDraw (tenantId subId : String) : ActivateDraw :=
  ⟨none, false, none, tenantId, subId, false, false, false, false, false, false, false, false⟩

/-- A second account on the device is refused. -/
theorem oneTrial_twoAccounts :
    ((trialLock id).run (.start trialDb 0)
      [.activate (trialRequest "OZ-TRIAL-01" "ani@example.com") (trialDraw "T-1" "S-1"), .save 0,
        .activate (trialRequest "OZ-TRIAL-02" "budi@example.com") (trialDraw "T-2" "S-2"),
        .save 0]).OneTrial := by
  apply oneTrial_run id trialDb 0
    [.activate (trialRequest "OZ-TRIAL-01" "ani@example.com") (trialDraw "T-1" "S-1"), .save 0,
      .activate (trialRequest "OZ-TRIAL-02" "budi@example.com") (trialDraw "T-2" "S-2"), .save 0]
    _ _ [] (List.append_nil _).symm
  refine ⟨trivial, ?_, trivial, ?_, trivial⟩
  · intro req d a found hpending _ _ _
    cases hpending
    exact ⟨rfl, by decide⟩
  · intro req d a found hpending _ _ _
    cases hpending
    show ("T-1" : String) ≠ ""
    decide

/-- A claim names no account; then two accounts take a trial on its device. -/
theorem ownerlessClaim_twoTrials :
    ¬ ∀ lower db clock events l r, events = l ++ r →
      ((trialLock lower).run (.start db clock) l).OneTrial := by
  intro h
  have htrial := h id trialDb 0
    [.claim ⟨"a1b2c3d4e5f6078", "", ""⟩ ⟨none, "T-0", false, false⟩, .save 0,
      .activate (trialRequest "OZ-TRIAL-01" "ani@example.com") (trialDraw "T-1" "S-1"), .save 0,
      .activate (trialRequest "OZ-TRIAL-02" "budi@example.com") (trialDraw "T-2" "S-2"), .save 0]
    _ [] (List.append_nil _).symm "a1b2c3d4e5f6078" "T-1" "T-2" (by decide) (by decide) (by decide)
  exact absurd htrial (by decide)

end OzPos
