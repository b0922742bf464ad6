import OzPos.LicenseServer.WebhooksHold

/-! What holds of every subscription record holds after each handler, if it holds of the record that
the handler writes. -/

namespace OzPos

def LicenseDb.AllSubscriptions (db : LicenseDb) (P : SubscriptionRecord → Prop) : Prop :=
  ∀ s ∈ db.subscriptions.rows, P s

section

variable {P : SubscriptionRecord → Prop} {db : LicenseDb}

theorem all_updateKey (h : db.AllSubscriptions P) (key : String)
    (f : LicenseKeyRecord → LicenseKeyRecord) (hf : ∀ k, (f k).key = k.key) :
    (db.updateKey key f hf).AllSubscriptions P := h

theorem all_updateSubscription (h : db.AllSubscriptions P) (id : String)
    (f : SubscriptionRecord → SubscriptionRecord) (hf : ∀ s, (f s).id = s.id)
    (hP : ∀ s ∈ db.subscriptions.rows, s.id = id → P (f s)) :
    (db.updateSubscription id f hf).AllSubscriptions P := by
  intro s hs
  obtain ⟨r, hr, heq⟩ := (Table.mem_update db.subscriptions id f hf s).mp hs
  by_cases hid : r.id = id
  · rw [heq, if_pos hid]
    exact hP r hr hid
  · rw [heq, if_neg hid]
    exact h r hr

theorem mem_insertSubscription {db' : LicenseDb} {s : SubscriptionRecord}
    (hinsert : db.insertSubscription s = some db') :
    db'.subscriptions.rows = db.subscriptions.rows ++ [s] := by
  unfold LicenseDb.insertSubscription at hinsert
  split at hinsert
  · cases hinsert
  · obtain ⟨subscriptions, hrows, rfl⟩ := Option.map_eq_some_iff.mp hinsert
    exact Table.insert?_rows hrows

theorem all_insertSubscription (h : db.AllSubscriptions P) {db' : LicenseDb}
    {s : SubscriptionRecord} (hinsert : db.insertSubscription s = some db') (hP : P s) :
    db'.AllSubscriptions P := by
  intro r hr
  rw [mem_insertSubscription hinsert] at hr
  rcases List.mem_append.mp hr with hold | hnew
  · exact h r hold
  · rw [List.mem_singleton.mp hnew]
    exact hP

theorem all_markActivated (h : db.AllSubscriptions P) (tenantId : String) (k : LicenseKeyRecord)
    (saveFails : Bool) : (markActivated tenantId k saveFails db).AllSubscriptions P := by
  unfold markActivated
  split
  · exact h
  · exact h

theorem subscriptions_markActivated (tenantId : String) (k : LicenseKeyRecord) (saveFails : Bool) :
    (markActivated tenantId k saveFails db).subscriptions = db.subscriptions := by
  unfold markActivated
  split
  · rfl
  · rfl

section

variable {mintIds : ProviderIds} {relink : ProviderIds → ProviderIds} {lookup : Lookup}
  {g : WebhookGrant} {d : WebhookDraw} {now : Int}

theorem all_saveSubscription (h : db.AllSubscriptions P) {db' : LicenseDb}
    (hsave : saveSubscription mintIds lookup g d now db = some db') (hP : ∀ s, P (g.enter now s)) :
    db'.AllSubscriptions P := by
  unfold saveSubscription at hsave
  split at hsave
  · cases hsave
  · cases hfound : foundSubscription lookup d db with
    | none =>
      simp only [hfound] at hsave
      exact all_insertSubscription h hsave (hP _)
    | some s =>
      simp only [hfound, Option.some.injEq] at hsave
      rw [← hsave]
      exact all_updateSubscription h s.id _ _ (fun r _ _ => hP r)

theorem all_provision (h : db.AllSubscriptions P)
    (hP : (provision mintIds relink lookup g d now db).2 = true →
      ∀ bundle s, P (({ g with bundle := bundle } : WebhookGrant).enter now s)) :
    (provision mintIds relink lookup g d now db).1.AllSubscriptions P := by
  unfold provision at hP ⊢
  cases hkey : saveKey mintIds relink lookup g d db with
  | none => exact h
  | some saved =>
    obtain ⟨db1, bundle⟩ := saved
    have hsubscriptions := (saveKey_some hkey).2.subscriptions
    have h1 : db1.AllSubscriptions P := by
      unfold LicenseDb.AllSubscriptions
      rw [hsubscriptions]
      exact h
    simp only [hkey] at hP
    cases hsub : saveSubscription mintIds lookup { g with bundle := bundle } d now db1 with
    | none =>
      simp only [hsub]
      exact h1
    | some db2 =>
      simp only [hsub, forall_const] at hP ⊢
      exact all_saveSubscription h1 hsub (hP bundle)

theorem all_amend {sync : SubscriptionRecord → LicenseKeyRecord → LicenseKeyRecord}
    {hsync : ∀ s k, (sync s k).key = k.key} {change : SubscriptionRecord → SubscriptionRecord}
    {hchange : ∀ s, (change s).id = s.id} (h : db.AllSubscriptions P)
    (hP : (amend lookup sync hsync change hchange d db).2 = true →
      foundSubscription lookup d db ≠ none → ∀ s ∈ db.subscriptions.rows, P (change s)) :
    (amend lookup sync hsync change hchange d db).1.AllSubscriptions P := by
  unfold amend at hP ⊢
  cases hfound : foundSubscription lookup d db with
  | none => exact h
  | some s =>
    simp only [hfound, ne_eq, reduceCtorEq, not_false_eq_true, forall_const] at hP
    dsimp only
    cases hkey : foundKey lookup d db with
    | none =>
      simp only [hkey] at hP
      dsimp only
      split
      · exact h
      · rename_i hsaves
        simp only [hsaves, Bool.false_eq_true, if_false, forall_const] at hP
        exact all_updateSubscription h s.id _ _ (fun r hr _ => hP r hr)
    | some k =>
      simp only [hkey] at hP
      dsimp only
      split
      · exact all_updateKey h _ _ _
      · rename_i hsaves
        simp only [hsaves, Bool.false_eq_true, if_false, forall_const] at hP
        exact all_updateSubscription (all_updateKey h _ _ _) s.id _ _ (fun r hr _ => hP r hr)

end

end

section

variable {lower : String → String} {req : ActivateRequest} {d : ActivateDraw} {now : Int}

variable {tenantId : String}

theorem latestActive_mem {db : LicenseDb} {s : SubscriptionRecord}
    (h : db.latestActive tenantId = some s) :
    s ∈ db.subscriptions.rows ∧ s.tenantId = tenantId ∧ s.status = .active := by
  have hmem := List.argmax_mem (Option.mem_def.mpr h)
  simpa using hmem

def ActivateRequest.tenantOf (lower : String → String) (req : ActivateRequest) (d : ActivateDraw)
    (db : ServerDb) : String :=
  ((db.tenants.find? (lower (trim req.email))).map TenantRecord.id).getD d.newTenantId

structure Authorized (lower : String → String) (req : ActivateRequest) (d : ActivateDraw)
    (db : ServerDb) (a : Admission) : Prop where
  found : db.licenses.keys.find? req.key = some a.key
  unused : a.key.status = .unused
  tenant : a.tenantId = req.tenantOf lower d db

variable {db db' : ServerDb}

theorem openTenant_some {id email : String} (h : db.openTenant id email = some db') :
    (∀ t ∈ db.tenants.rows, t.id ≠ id) ∧
      db' = { db with tenants := db.tenants.insertNew ⟨id, email, .active⟩ } := by
  unfold ServerDb.openTenant at h
  split at h
  · cases h
  · rename_i hid
    simp only [Option.some.injEq] at h
    exact ⟨by simpa using hid, h.symm⟩

def lockedTrials (lower : String → String) (req : ActivateRequest) (d : ActivateDraw)
    (a : Admission)
    (found : Option TrialRegistration) (now : Int) (db : ServerDb) : Option ServerDb :=
  if a.key.isTrial then
    enforceTrialLock found (req.fingerprint lower) a.tenantId
      (trialSegmentation lower req.trialVertical).2 d.registrationSaveFails now db
  else some db

theorem lockedTrials_kept {a : Admission} {found : Option TrialRegistration}
    (h : lockedTrials lower req d a found now db = some db') :
    db'.licenses = db.licenses ∧ db'.tenants = db.tenants ∧ db'.machines = db.machines := by
  unfold lockedTrials enforceTrialLock at h
  split at h
  · split at h
    · cases h
      exact ⟨rfl, rfl, rfl⟩
    · split at h
      · cases h
        split
        · exact ⟨rfl, rfl, rfl⟩
        · exact ⟨rfl, rfl, rfl⟩
      · split at h
        · cases h
        · cases h
          exact ⟨rfl, rfl, rfl⟩
  · cases h
    exact ⟨rfl, rfl, rfl⟩

theorem registerMachine_kept {machineId : String} {checkOwnership saveFails : Bool}
    (h : registerMachine machineId tenantId checkOwnership saveFails now db = some db') :
    db'.licenses = db.licenses ∧ db'.tenants = db.tenants ∧ db'.trials = db.trials := by
  unfold registerMachine at h
  split at h
  · cases h
    cases saveFails with
    | true => exact ⟨rfl, rfl, rfl⟩
    | false => exact ⟨rfl, rfl, rfl⟩
  · split at h
    · cases h
    · cases h
      cases saveFails with
      | true => exact ⟨rfl, rfl, rfl⟩
      | false => exact ⟨rfl, rfl, rfl⟩

theorem registerMachine_getD (machineId : String) (checkOwnership saveFails : Bool) :
    let dbR := (registerMachine machineId tenantId checkOwnership saveFails now db).getD db
    dbR.licenses = db.licenses ∧ dbR.tenants = db.tenants ∧ dbR.trials = db.trials := by
  cases hregistered : registerMachine machineId tenantId checkOwnership saveFails now db with
  | none => exact ⟨rfl, rfl, rfl⟩
  | some dbR => exact registerMachine_kept hregistered

variable {r : Except Refusal ActivateAnswer}

theorem reactivate_cases {machineId : String}
    (h : reactivate tenantId machineId d now db = (db', r)) :
    (∃ refusal, r = .error refusal ∧ db' = db) ∨
    ∃ s, db.licenses.latestActive tenantId = some s ∧
      machineLimitExceeded db tenantId machineId (maxMachinesForTier s.tierKey)
        d.machineQueryFails = false ∧
      db' = (registerMachine machineId tenantId false d.machineSaveFails now db).getD db ∧
      ((∃ refusal, r = .error refusal) ∨ r = .ok ⟨s.signedPayload, tenantId⟩) := by
  unfold reactivate at h
  split at h
  · cases h
    exact .inl ⟨_, rfl, rfl⟩
  · rename_i s hfound
    have hlatest : db.licenses.latestActive tenantId = some s := by
      split at hfound
      · cases hfound
      · exact hfound
    dsimp only at h
    split at h
    · cases h
      exact .inl ⟨_, rfl, rfl⟩
    · rename_i hallowed
      refine .inr ⟨s, hlatest, by simpa using hallowed, ?_⟩
      split at h
      · cases h
        exact ⟨rfl, .inl ⟨_, rfl⟩⟩
      · cases h
        exact ⟨rfl, .inr rfl⟩

theorem reactivate_kept (h : reactivate tenantId req.machineId d now db = (db', r)) :
    db'.licenses = db.licenses ∧ db'.tenants = db.tenants ∧ db'.trials = db.trials := by
  rcases reactivate_cases h with ⟨-, -, rfl⟩ | ⟨_, -, -, rfl, -⟩
  · exact ⟨rfl, rfl, rfl⟩
  · exact registerMachine_getD req.machineId false d.machineSaveFails

def ActivateRequest.Named (lower : String → String) (req : ActivateRequest) : Prop :=
  req.key ≠ "" ∧ lower (trim req.email) ≠ "" ∧ req.machineId ≠ ""

/-- The tenant can be opened, or is active and proves itself, which a key that a provider issued
does for it. -/
def AdmitsTenant (lower : String → String) (req : ActivateRequest) (d : ActivateDraw)
    (db : ServerDb) (k : LicenseKeyRecord) : Prop :=
  match db.tenants.find? (lower (trim req.email)) with
  | none => d.tenantSaveFails = false ∧ ∀ t ∈ db.tenants.rows, t.id ≠ d.newTenantId
  | some t =>
    t.status = .active ∧
      (if k.ids.issued then d.tenantSaveFails = false else d.apiKeyMatches = true)

/-- A request with an unused key is let through; nothing but its tenant may be new. -/
structure LetThrough (lower : String → String) (req : ActivateRequest) (d : ActivateDraw)
    (db : ServerDb) (a : Admission) (dbA : ServerDb) : Prop where
  named : req.Named lower ∧ d.refused = none
  authorized : Authorized lower req d db a
  admitted : AdmitsTenant lower req d db a.key
  opened : dbA = db ∨ db.openTenant d.newTenantId (lower (trim req.email)) = some dbA

/-- A request with a key that its tenant activated before. -/
structure ComesAgain (lower : String → String) (req : ActivateRequest) (d : ActivateDraw)
    (db : ServerDb) (k : LicenseKeyRecord) (t : TenantRecord) : Prop where
  named : req.Named lower ∧ d.refused = none
  found : db.licenses.keys.find? req.key = some k
  tenant : db.tenants.find? (lower (trim req.email)) = some t
  active : t.status = .active
  activated : k.status = .activated ∧ k.activatedBy = t.id

theorem LetThrough.kept {a : Admission} (h : LetThrough lower req d db a db') :
    db'.licenses = db.licenses ∧ db'.machines = db.machines ∧ db'.trials = db.trials := by
  rcases h.opened with rfl | hopen
  · exact ⟨rfl, rfl, rfl⟩
  · rw [(openTenant_some hopen).2]
    exact ⟨rfl, rfl, rfl⟩

theorem authorize_cases {r : Except Refusal ActivateAnswer ⊕ Admission}
    (h : authorize lower req d now db = (db', r)) :
    (∃ refusal, r = .inl (.error refusal) ∧ db' = db) ∨
    (∃ k t answer, ComesAgain lower req d db k t ∧ r = .inl answer ∧
      reactivate t.id req.machineId d now db = (db', answer)) ∨
    (∃ a, r = .inr a ∧ LetThrough lower req d db a db') := by
  unfold authorize at h
  dsimp only at h
  split at h
  · cases h
    exact .inl ⟨_, rfl, rfl⟩
  · rename_i hblank
    simp only [not_or] at hblank
    cases hrefused : d.refused with
    | some refusal =>
      simp only [hrefused] at h
      cases h
      exact .inl ⟨_, rfl, rfl⟩
    | none =>
      have hnamed : req.Named lower ∧ d.refused = none := ⟨hblank, hrefused⟩
      simp only [hrefused] at h
      cases hkey : db.licenses.keys.find? req.key with
      | none =>
        simp only [hkey] at h
        cases h
        exact .inl ⟨_, rfl, rfl⟩
      | some k =>
        simp only [hkey] at h
        cases htenant : db.tenants.find? (lower (trim req.email)) with
        | none =>
          have htenantOf : d.newTenantId = req.tenantOf lower d db := by
            simp [ActivateRequest.tenantOf, htenant]
          simp only [htenant] at h
          split at h
          · cases h
            exact .inl ⟨_, rfl, rfl⟩
          · rename_i hunused
            split at h
            · cases h
              exact .inl ⟨_, rfl, rfl⟩
            · rename_i db1 hopen
              cases h
              cases hsave : d.tenantSaveFails with
              | true => simp [hsave] at hopen
              | false =>
                simp only [hsave, Bool.false_eq_true, if_false] at hopen
                refine .inr (.inr ⟨_, rfl, hnamed, ⟨hkey, not_not.mp hunused, htenantOf⟩, ?_,
                  .inr hopen⟩)
                simpa [AdmitsTenant, htenant, hsave] using (openTenant_some hopen).1
        | some t =>
          have htenantOf : t.id = req.tenantOf lower d db := by
            simp [ActivateRequest.tenantOf, htenant]
          simp only [htenant] at h
          split at h
          · cases h
            exact .inl ⟨_, rfl, rfl⟩
          · rename_i hactive
            split at h
            · rename_i hagain
              cases h
              exact .inr (.inl ⟨k, t, _, ⟨hnamed, hkey, htenant, not_not.mp hactive, hagain⟩,
                rfl, rfl⟩)
            · split at h
              · cases h
                exact .inl ⟨_, rfl, rfl⟩
              · rename_i hunused
                have hlet : AdmitsTenant lower req d db k →
                    LetThrough lower req d db ⟨t.id, k⟩ db :=
                  fun hadmits => ⟨hnamed, ⟨hkey, not_not.mp hunused, htenantOf⟩, hadmits, .inl rfl⟩
                have hadmits : AdmitsTenant lower req d db k ↔
                    if k.ids.issued then d.tenantSaveFails = false else d.apiKeyMatches = true := by
                  simp [AdmitsTenant, htenant, not_not.mp hactive]
                split at h
                · rename_i hissued
                  split at h
                  · cases h
                    exact .inl ⟨_, rfl, rfl⟩
                  · rename_i hsave
                    cases h
                    exact .inr (.inr ⟨_, rfl, hlet (hadmits.mpr (by simpa [hissued] using hsave))⟩)
                · rename_i hissued
                  split at h
                  · rename_i hmatches
                    cases h
                    exact .inr (.inr ⟨_, rfl, hlet (hadmits.mpr (by simpa [hissued] using hmatches))⟩)
                  · cases h
                    exact .inl ⟨_, rfl, rfl⟩

theorem handleActivate_cases (h : handleActivate lower req d now db = (db', r)) :
    (∃ refusal, r = .error refusal ∧ db' = db) ∨
    (∃ k t, ComesAgain lower req d db k t ∧
      reactivate t.id req.machineId d now db = (db', r)) ∨
    (∃ a dbA, LetThrough lower req d db a dbA ∧
      activateAdmitted lower req d a (dbA.trials.find? (req.fingerprint lower)) now dbA =
        (db', r)) := by
  unfold handleActivate at h
  cases hauthorize : authorize lower req d now db with
  | mk dbA answer =>
    simp only [hauthorize] at h
    rcases authorize_cases hauthorize with ⟨refusal, rfl, rfl⟩ | ⟨k, t, answer, hagain, rfl, hre⟩ |
      ⟨a, rfl, hlet⟩
    · cases h
      exact .inl ⟨refusal, rfl, rfl⟩
    · cases h
      exact .inr (.inl ⟨k, t, hagain, hre⟩)
    · exact .inr (.inr ⟨a, dbA, hlet, h⟩)

def reusedSubscription (d : ActivateDraw) (a : Admission) (db : LicenseDb) :
    Option SubscriptionRecord :=
  if a.key.ids.paddleSubId = "" ∨ d.subQueryFails = true then none else db.latestActive a.tenantId

def minted (lower : String → String) (req : ActivateRequest) (d : ActivateDraw) (a : Admission)
    (now : Int) : SubscriptionRecord :=
  mintedRecord d.newId a.tenantId (mintedTier lower req a.key) (mintedExpiry lower req a.key now) now

theorem grantLicense_cases {a : Admission} {db db' : LicenseDb} {r : Except Refusal ActivateAnswer}
    (h : grantLicense lower req d a now db = (db', r)) :
    (∃ refusal, r = .error refusal ∧ db' = db) ∨
    (∃ s, reusedSubscription d a db = some s ∧
      db' = markActivated a.tenantId a.key d.keySaveFails db ∧
      r = .ok ⟨s.signedPayload, a.tenantId⟩) ∨
    (∃ db1, reusedSubscription d a db = none ∧
      db.insertSubscription (minted lower req d a now) = some db1 ∧
      db' = markActivated a.tenantId a.key d.keySaveFails db1 ∧
      r = .ok ⟨(minted lower req d a now).signedPayload, a.tenantId⟩) := by
  unfold grantLicense at h
  cases hreused : reusedSubscription d a db with
  | some s =>
    unfold reusedSubscription at hreused
    simp only [hreused] at h
    cases h
    exact .inr (.inl ⟨s, rfl, rfl, rfl⟩)
  | none =>
    unfold reusedSubscription at hreused
    simp only [hreused] at h
    split at h
    · cases h
      exact .inl ⟨_, rfl, rfl⟩
    · split at h
      · cases h
        exact .inl ⟨_, rfl, rfl⟩
      · rename_i db1 hinsert
        cases h
        refine .inr (.inr ⟨db1, rfl, ?_, rfl, rfl⟩)
        split at hinsert
        · cases hinsert
        · exact hinsert

/-- An admitted request that gets past the trial lock with `db1`, and what it ends with. -/
structure PastLock (lower : String → String) (req : ActivateRequest) (d : ActivateDraw)
    (a : Admission) (now : Int) (db1 db' : ServerDb) (r : Except Refusal ActivateAnswer) : Prop where
  unexpired : ¬ a.key.expiresAt < now
  ends : (∃ refusal, r = .error refusal ∧ db' = db1 ∧
      (machineLimitExceeded db1 a.tenantId req.machineId
          (maxMachinesForTier (mintedTier lower req a.key)) d.machineQueryFails = true ∨
        registerMachine req.machineId a.tenantId true d.machineSaveFails now db1 = none)) ∨
    ∃ db2, machineLimitExceeded db1 a.tenantId req.machineId
        (maxMachinesForTier (mintedTier lower req a.key)) d.machineQueryFails = false ∧
      registerMachine req.machineId a.tenantId true d.machineSaveFails now db1 = some db2 ∧
      db' = { db2 with licenses := (grantLicense lower req d a now db1.licenses).1 } ∧
      r = (grantLicense lower req d a now db1.licenses).2

theorem activateAdmitted_cases {a : Admission} {found : Option TrialRegistration}
    (h : activateAdmitted lower req d a found now db = (db', r)) :
    (∃ refusal, r = .error refusal ∧ db' = db ∧
      (a.key.expiresAt < now ∨ lockedTrials lower req d a found now db = none)) ∨
    ∃ db1, lockedTrials lower req d a found now db = some db1 ∧
      PastLock lower req d a now db1 db' r := by
  unfold activateAdmitted at h
  split at h
  · rename_i hexpired
    cases h
    exact .inl ⟨_, rfl, rfl, .inl hexpired⟩
  · rename_i hexpiry
    dsimp only at h
    split at h
    · rename_i hlocked
      cases h
      exact .inl ⟨_, rfl, rfl, .inr hlocked⟩
    · rename_i db1 hlocked
      refine .inr ⟨db1, hlocked, hexpiry, ?_⟩
      split at h
      · rename_i hlimit
        cases h
        exact .inl ⟨_, rfl, rfl, .inl hlimit⟩
      · rename_i hallowed
        split at h
        · rename_i hregistered
          cases h
          exact .inl ⟨_, rfl, rfl, .inr hregistered⟩
        · rename_i db2 hregistered
          cases h
          rw [(registerMachine_kept hregistered).1]
          exact .inr ⟨db2, by simpa using hallowed, hregistered, rfl, rfl⟩

theorem handleActivate_rows {P : SubscriptionRecord → Prop}
    (h : db.licenses.AllSubscriptions P)
    (hP : ∀ a answer, Authorized lower req d db a → ¬ a.key.expiresAt < now →
      reusedSubscription d a db.licenses = none →
      (handleActivate lower req d now db).2 = .ok answer → P (minted lower req d a now)) :
    (handleActivate lower req d now db).1.licenses.AllSubscriptions P ∧
      ∀ answer, (handleActivate lower req d now db).2 = .ok answer →
        ∃ s ∈ (handleActivate lower req d now db).1.licenses.subscriptions.rows,
          s.signedPayload = answer.signedPayload := by
  cases hactivate : handleActivate lower req d now db with
  | mk db' r =>
    rw [hactivate] at hP
    dsimp only at hP ⊢
    rcases handleActivate_cases hactivate with ⟨refusal, rfl, rfl⟩ | ⟨k, t, -, hre⟩ |
      ⟨a, dbA, hlet, hadmitted⟩
    · exact ⟨h, by simp⟩
    · rw [(reactivate_kept hre).1]
      refine ⟨h, ?_⟩
      rintro answer rfl
      rcases reactivate_cases hre with ⟨refusal, hrefused, -⟩ | ⟨s, hlatest, -, -, hanswer⟩
      · cases hrefused
      · rcases hanswer with ⟨refusal, hrefused⟩ | hok
        · cases hrefused
        · cases hok
          exact ⟨s, (latestActive_mem hlatest).1, rfl⟩
    · have hlicenses := hlet.kept.1
      rcases activateAdmitted_cases hadmitted with ⟨refusal, rfl, rfl, -⟩ | ⟨db1, hlocked, hpast⟩
      · rw [hlicenses]
        exact ⟨h, by simp⟩
      · have hsame := (lockedTrials_kept hlocked).1.trans hlicenses
        rcases hpast.ends with ⟨refusal, rfl, rfl, -⟩ | ⟨db2, -, -, rfl, rfl⟩
        · rw [hsame]
          exact ⟨h, by simp⟩
        · rw [hsame] at hP ⊢
          cases hgrant : grantLicense lower req d a now db.licenses with
          | mk licenses answer =>
            rw [hgrant] at hP
            rcases grantLicense_cases hgrant with ⟨refusal, rfl, rfl⟩ | ⟨s, hreused, rfl, rfl⟩ |
              ⟨db3, hreused, hinsert, rfl, rfl⟩
            · exact ⟨h, by simp⟩
            · refine ⟨all_markActivated h _ _ _, ?_⟩
              intro answer hok
              cases hok
              have hmem : s ∈ db.licenses.subscriptions.rows := by
                unfold reusedSubscription at hreused
                split at hreused
                · cases hreused
                · exact (latestActive_mem hreused).1
              refine ⟨s, ?_, rfl⟩
              rw [subscriptions_markActivated]
              exact hmem
            · have hminted : P (minted lower req d a now) :=
                hP a _ hlet.authorized hpast.unexpired hreused rfl
              refine ⟨all_markActivated (all_insertSubscription h hinsert hminted) _ _ _, ?_⟩
              intro answer hok
              cases hok
              refine ⟨minted lower req d a now, ?_, rfl⟩
              rw [subscriptions_markActivated, mem_insertSubscription hinsert]
              exact List.mem_append_right _ (List.mem_singleton.mpr rfl)

end

section

variable {P : SubscriptionRecord → Prop} {now : Int} {db : LicenseDb}

def renewed (tenantId : String) (k : LicenseKeyRecord) (current : SubscriptionRecord)
    (newId : String) (now : Int) : SubscriptionRecord :=
  mintedRecord newId tenantId k.tierKey
    (calculateExpiry k.tierKey (if current.expiresAt < now then now else current.expiresAt)) now

variable {tenantId : String}

theorem handleRenew_rows {key : String} {d : RenewDraw} (h : db.AllSubscriptions P)
    (hexpired : ∀ s, P s → P { s with status := .expired })
    (hP : ∀ k current payload, db.keys.find? key = some k → k.status = .unused →
      ¬ k.expiresAt < now → db.latestActive tenantId = some current →
      (handleRenew tenantId key d now db).2 = .ok payload →
      P (renewed tenantId k current d.newId now)) :
    (handleRenew tenantId key d now db).1.AllSubscriptions P ∧
      ∀ payload, (handleRenew tenantId key d now db).2 = .ok payload →
        ∃ s, P s ∧ s.signedPayload = payload := by
  unfold handleRenew at hP ⊢
  cases hrefused : d.refused with
  | some refusal => exact ⟨h, by simp⟩
  | none =>
    cases hkey : db.keys.find? key with
    | none => exact ⟨h, by simp⟩
    | some k =>
      simp only [hrefused, hkey] at hP ⊢
      split
      · exact ⟨h, by simp⟩
      · rename_i hunused
        split
        · exact ⟨h, by simp⟩
        · rename_i hexpiry
          split
          · exact ⟨h, by simp⟩
          · rename_i current hcurrent
            have hlatest : db.latestActive tenantId = some current := by
              split at hcurrent
              · cases hcurrent
              · exact hcurrent
            split
            · exact ⟨h, by simp⟩
            · rename_i hsigns
              split
              · exact ⟨h, by simp⟩
              · rename_i db1 hsaved
                have hinsert : db.insertSubscription (renewed tenantId k current d.newId now) =
                    some db1 := by
                  split at hsaved
                  · cases hsaved
                  · exact hsaved
                have hrenewed : P (renewed tenantId k current d.newId now) := by
                  refine hP k current (renewed tenantId k current d.newId now).signedPayload rfl
                    (not_not.mp hunused) hexpiry hlatest ?_
                  simp only [hunused, hexpiry, hcurrent, hsigns, hsaved]
                  rfl
                have h1 := all_insertSubscription h hinsert hrenewed
                refine ⟨?_, ?_⟩
                · apply all_markActivated
                  split
                  · exact h1
                  · exact all_updateSubscription h1 _ _ _ (fun s hs _ => hexpired s (h1 s hs))
                · intro payload hok
                  cases hok
                  exact ⟨_, hrenewed, rfl⟩

theorem handlePause_rows {pauseMonths : Int} {d : PauseDraw}
    (h : db.AllSubscriptions P)
    (hP : ∀ s until_, P s → s.status = .active →
      P { s with status := .paused, pausedAt := some now, pausedUntil := some until_ }) :
    (handlePause tenantId pauseMonths d now db).1.AllSubscriptions P := by
  unfold handlePause
  split
  · exact h
  · cases d.refused with
    | some refusal => exact h
    | none =>
      cases hfound : db.firstWith tenantId .active with
      | none => exact h
      | some s =>
        dsimp only
        split
        · exact h
        · have hmem := List.mem_of_find?_eq_some hfound
          have hactive : s.status = .active := by
            have hs := List.find?_some hfound
            simp only [decide_eq_true_eq] at hs
            exact hs.2
          apply all_updateSubscription h
          intro r hr hid
          have heq : r = s := List.inj_on_of_nodup_map db.subscriptions.unique hr hmem hid
          rw [heq]
          exact hP s _ (h s hmem) hactive

theorem handleResume_rows {d : PauseDraw} (h : db.AllSubscriptions P)
    (hP : ∀ s, P s → s.status = .paused → P (s.resumedFrom now)) :
    (handleResume tenantId d now db).1.AllSubscriptions P ∧
      ∀ payload, (handleResume tenantId d now db).2 = .ok payload →
        ∃ s, P s ∧ s.signedPayload = payload := by
  unfold handleResume
  cases d.refused with
  | some refusal => exact ⟨h, by simp⟩
  | none =>
    cases hfound : db.firstWith tenantId .paused with
    | none => exact ⟨h, by simp⟩
    | some s =>
      dsimp only
      split
      · exact ⟨h, by simp⟩
      · have hmem := List.mem_of_find?_eq_some hfound
        have hpaused : s.status = .paused := by
          have hs := List.find?_some hfound
          simp only [decide_eq_true_eq] at hs
          exact hs.2
        have hresumed := hP s (h s hmem) hpaused
        refine ⟨?_, ?_⟩
        · apply all_updateSubscription h
          intro r hr hid
          have heq : r = s := List.inj_on_of_nodup_map db.subscriptions.unique hr hmem hid
          rw [heq]
          exact hresumed
        · intro payload hok
          cases hok
          exact ⟨_, hresumed, rfl⟩

theorem all_foldl_resume {due : List SubscriptionRecord}
    (h : db.AllSubscriptions P) (hids : (due.map SubscriptionRecord.id).Nodup)
    (hdue : ∀ s ∈ due, s ∈ db.subscriptions.rows ∧ s.status = .paused)
    (hP : ∀ s, P s → s.status = .paused → P (s.resumedFrom now)) :
    (due.foldl (fun db s => db.updateSubscription s.id (fun s => s.resumedFrom now)
      (fun _ => rfl)) db).AllSubscriptions P := by
  induction due generalizing db with
  | nil => exact h
  | cons s due ih =>
    obtain ⟨hmem, hpaused⟩ := hdue s List.mem_cons_self
    rw [List.map_cons, List.nodup_cons] at hids
    apply ih
    · apply all_updateSubscription h
      intro r hr hid
      have heq : r = s := List.inj_on_of_nodup_map db.subscriptions.unique hr hmem hid
      rw [heq]
      exact hP s (h s hmem) hpaused
    · exact hids.2
    · intro r hr
      obtain ⟨hrow, hrpaused⟩ := hdue r (List.mem_cons_of_mem _ hr)
      refine ⟨?_, hrpaused⟩
      apply (Table.mem_update db.subscriptions s.id (fun s => s.resumedFrom now) (fun _ => rfl)
        r).mpr
      refine ⟨r, hrow, ?_⟩
      have hne : r.id ≠ s.id := by
        intro hid
        exact hids.1 (hid ▸ List.mem_map_of_mem hr)
      rw [if_neg hne]

theorem runAutoResumeScanner_rows {fails : String → Bool} (h : db.AllSubscriptions P)
    (hP : ∀ s, P s → s.status = .paused → P (s.resumedFrom now)) :
    (runAutoResumeScanner fails now db).AllSubscriptions P := by
  unfold runAutoResumeScanner
  apply all_foldl_resume h _ _ hP
  · apply List.Nodup.sublist _ db.subscriptions.unique
    exact (List.filter_sublist.trans List.filter_sublist).map _
  · intro s hs
    obtain ⟨hdue, -⟩ := List.mem_filter.mp hs
    obtain ⟨hmem, hpaused⟩ := List.mem_filter.mp hdue
    simp only [dueForResume, Bool.and_eq_true, decide_eq_true_eq] at hpaused
    exact ⟨hmem, hpaused.1⟩

end

end OzPos
