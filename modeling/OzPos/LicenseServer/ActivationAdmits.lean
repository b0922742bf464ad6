import OzPos.LicenseServer.MachineRows

namespace OzPos

variable (lower : String → String) (req : ActivateRequest) (d : ActivateDraw) (now : Int)
variable (db : ServerDb)

variable (k : LicenseKeyRecord)

/-- A key that the tenant activated before, with an active subscription. -/
def AdmitsAgain : Prop :=
  k.status = .activated ∧ ∃ t, db.tenants.find? (lower (trim req.email)) = some t ∧
    t.status = .active ∧ k.activatedBy = t.id ∧ d.subQueryFails = false ∧
    (db.licenses.latestActive t.id).isSome ∧ (d.apiKeyMatches = true ∨ d.rotation = none)

def AdmitsTrial : Prop :=
  k.isTrial = true → req.fingerprint lower = "" ∨
    ∀ r, db.trials.find? (req.fingerprint lower) = some r →
      r.tenantId = "" ∨ r.tenantId = req.tenantOf lower d db

/-- Paddle's subscription is there, or one can be entered. -/
def AdmitsGrant : Prop :=
  (reusedSubscription d ⟨req.tenantOf lower d db, k⟩ db.licenses).isSome ∨
    (d.signFails = false ∧ d.subSaveFails = false ∧
      db.licenses.subscriptions.find? d.newId = none)

/-- Whether a request from a machine of its tenant gets a subscription. -/
def Admits : Prop :=
  req.Named lower ∧ d.refused = none ∧ ∃ k, db.licenses.keys.find? req.key = some k ∧
    (AdmitsAgain lower req d db k ∨
      (k.status = .unused ∧ AdmitsTenant lower req d db k ∧ ¬ k.expiresAt < now ∧
        AdmitsTrial lower req d db k ∧ AdmitsGrant lower req d db k))

variable {lower req d now db}

def Owned (req : ActivateRequest) (tenantId : String) (db : ServerDb) : Prop :=
  ∃ r, db.machines.find? req.machineId = some r ∧ r.tenantId = tenantId

variable {tenantId : String} {db' : ServerDb}

theorem Owned.of_eq (h : Owned req tenantId db)
    (hmachines : db'.machines = db.machines) : Owned req tenantId db' := by
  unfold Owned
  rw [hmachines]
  exact h

theorem machineLimitExceeded_owned (h : Owned req tenantId db) (limit : Nat) (queryFails : Bool) :
    machineLimitExceeded db tenantId req.machineId limit queryFails = false := by
  obtain ⟨r, hr, htenant⟩ := h
  obtain ⟨hrow, hid⟩ := (Table.find?_eq_some_iff _ _ _).mp hr
  unfold machineLimitExceeded
  cases queryFails with
  | true =>
    cases limit with
    | zero => rfl
    | succ n => rfl
  | false =>
    have hany : (db.machinesOf tenantId).any (fun m => m.id = req.machineId) = true := by
      apply List.any_eq_true.mpr
      exact ⟨r, List.mem_filter.mpr ⟨hrow, by simpa using htenant⟩, by simpa using hid⟩
    simp [hany]

theorem registerMachine_ofOwned (h : Owned req tenantId db)
    (checkOwnership saveFails : Bool) (now : Int) :
    ∃ db', registerMachine req.machineId tenantId checkOwnership saveFails now db = some db' := by
  obtain ⟨r, hr, htenant⟩ := h
  apply Option.isSome_iff_exists.mp
  unfold registerMachine
  simp [hr, htenant]

theorem reactivate_ok_iff (h : Owned req tenantId db) :
    (∃ answer, (reactivate tenantId req.machineId d now db).2 = .ok answer) ↔
      d.subQueryFails = false ∧ (db.licenses.latestActive tenantId).isSome ∧
        (d.apiKeyMatches = true ∨ d.rotation = none) := by
  unfold reactivate
  cases hquery : d.subQueryFails with
  | true => simp
  | false =>
    cases hlatest : db.licenses.latestActive tenantId with
    | none => simp
    | some s =>
      simp only [Bool.false_eq_true, if_false, machineLimitExceeded_owned h]
      cases d.apiKeyMatches with
      | true => simp
      | false =>
        cases d.rotation with
        | none => simp
        | some refusal => simp

theorem openTenant_isSome_iff (id email : String) :
    (∃ db', db.openTenant id email = some db') ↔ ∀ t ∈ db.tenants.rows, t.id ≠ id := by
  unfold ServerDb.openTenant
  split
  · rename_i htaken
    obtain ⟨t, ht, hid⟩ := List.any_eq_true.mp htaken
    constructor
    · rintro ⟨db', h⟩
      cases h
    · intro hfree
      exact absurd (by simpa using hid) (hfree t ht)
  · rename_i hfree
    constructor
    · intro _
      simpa using hfree
    · intro _
      exact ⟨_, rfl⟩

variable {k : LicenseKeyRecord}

theorem authorize_of_admits (hnamed : req.Named lower) (hrefused : d.refused = none)
    (hkey : db.licenses.keys.find? req.key = some k)
    (hunused : k.status = .unused) (htenant : AdmitsTenant lower req d db k) (now : Int) :
    ∃ db', authorize lower req d now db = (db', .inr ⟨req.tenantOf lower d db, k⟩) := by
  obtain ⟨hkeyNamed, hemail, hmachine⟩ := hnamed
  unfold authorize ActivateRequest.tenantOf
  unfold AdmitsTenant at htenant
  simp only [hkeyNamed, hemail, hmachine, or_self, if_false, hrefused, hkey, hunused, ne_eq,
    not_true_eq_false]
  cases hfound : db.tenants.find? (lower (trim req.email)) with
  | none =>
    simp only [hfound] at htenant
    obtain ⟨db', hopen⟩ := (openTenant_isSome_iff _ (lower (trim req.email))).mpr htenant.2
    simp only [htenant.1, Bool.false_eq_true, if_false, hopen]
    exact ⟨_, rfl⟩
  | some t =>
    simp only [hfound] at htenant
    simp only [htenant.1, not_true_eq_false, if_false, reduceCtorEq, false_and]
    cases hissued : k.ids.issued with
    | true =>
      simp only [hissued, if_true] at htenant
      simp [htenant.2]
    | false =>
      simp only [hissued, Bool.false_eq_true, if_false] at htenant
      simp [htenant.2]

theorem handleActivate_again {t : TenantRecord} (hnamed : req.Named lower)
    (hrefused : d.refused = none) (hkey : db.licenses.keys.find? req.key = some k)
    (htenant : db.tenants.find? (lower (trim req.email)) = some t) (hactive : t.status = .active)
    (hactivated : k.status = .activated) (hby : k.activatedBy = t.id) :
    handleActivate lower req d now db = reactivate t.id req.machineId d now db := by
  obtain ⟨hkeyNamed, hemail, hmachine⟩ := hnamed
  unfold handleActivate authorize
  simp only [hkeyNamed, hemail, hmachine, or_self, if_false, hrefused, hkey, htenant, hactive,
    hactivated, hby, ne_eq, not_true_eq_false, and_self, if_true]

theorem enforceTrialLock_isSome_iff (found : Option TrialRegistration) (fp tenantId : String)
    (trialDays : Int) (saveFails : Bool) (now : Int) (db : ServerDb) :
    (enforceTrialLock found fp tenantId trialDays saveFails now db).isSome = true ↔
      (fp = "" ∨ ∀ r, found = some r → r.tenantId = "" ∨ r.tenantId = tenantId) := by
  unfold enforceTrialLock
  split
  · rename_i hblank
    simp [hblank]
  · rename_i hfp
    cases found with
    | none => simp [hfp]
    | some r =>
      simp only [hfp, false_or, Option.some.injEq, forall_eq']
      split
      · rename_i hother
        simpa using hother
      · rename_i howner
        simp only [Option.isSome_some, true_iff]
        by_contra hnot
        simp only [not_or] at hnot
        exact howner (by simp [hnot.1, hnot.2])

theorem insertSubscription_isSome_iff {licenses : LicenseDb} {r : SubscriptionRecord}
    (hids : r.ids = ⟨"", "", ""⟩) :
    (∃ db', licenses.insertSubscription r = some db') ↔
      licenses.subscriptions.find? r.id = none := by
  unfold LicenseDb.insertSubscription
  have hclash : licenses.subscriptions.rows.any (fun s => s.ids.clashes r.ids) = false := by
    rw [List.any_eq_false]
    intro s _
    simp only [ProviderIds.clashes, hids]
    grind
  simp only [hclash, Bool.false_eq_true, if_false, Option.map_eq_some_iff]
  constructor
  · rintro ⟨db', subscriptions, hinsert, -⟩
    exact (Table.insert?_isSome_iff _ _).mp (by rw [hinsert]; rfl)
  · intro hfree
    obtain ⟨subscriptions, hinsert⟩ :=
      Option.isSome_iff_exists.mp ((Table.insert?_isSome_iff _ _).mpr hfree)
    exact ⟨_, subscriptions, hinsert, rfl⟩

theorem grantLicense_ok_iff (k : LicenseKeyRecord) :
    (∃ answer, (grantLicense lower req d ⟨req.tenantOf lower d db, k⟩ now db.licenses).2 =
      .ok answer) ↔ AdmitsGrant lower req d db k := by
  have hminted := @insertSubscription_isSome_iff db.licenses
    (minted lower req d ⟨req.tenantOf lower d db, k⟩ now) rfl
  change _ ↔ db.licenses.subscriptions.find? d.newId = none at hminted
  unfold AdmitsGrant grantLicense
  cases hreused : reusedSubscription d ⟨req.tenantOf lower d db, k⟩ db.licenses with
  | some s =>
    unfold reusedSubscription at hreused
    simp [hreused]
  | none =>
    unfold reusedSubscription at hreused
    simp only [hreused, Option.isSome_none, Bool.false_eq_true, false_or]
    rw [← hminted]
    cases d.signFails with
    | true => simp
    | false =>
      cases d.subSaveFails with
      | true => simp
      | false =>
        unfold minted
        simp only [Bool.false_eq_true, if_false]
        cases db.licenses.insertSubscription _ with
        | none => simp
        | some db' => simp

theorem lockedTrials_isSome_iff {dbA : ServerDb} (htrials : dbA.trials = db.trials) (now : Int) :
    (lockedTrials lower req d ⟨req.tenantOf lower d db, k⟩
      (dbA.trials.find? (req.fingerprint lower)) now dbA).isSome = true ↔
      AdmitsTrial lower req d db k := by
  unfold lockedTrials AdmitsTrial
  cases k.isTrial with
  | false => simp
  | true =>
    rw [if_pos rfl, enforceTrialLock_isSome_iff, htrials]
    simp

theorem activateAdmitted_ok_iff {dbA : ServerDb}
    (howned : Owned req (req.tenantOf lower d db) dbA) (hlicenses : dbA.licenses = db.licenses)
    (htrials : dbA.trials = db.trials) :
    (∃ answer, (activateAdmitted lower req d ⟨req.tenantOf lower d db, k⟩
      (dbA.trials.find? (req.fingerprint lower)) now dbA).2 = .ok answer) ↔
      ¬ k.expiresAt < now ∧ AdmitsTrial lower req d db k ∧ AdmitsGrant lower req d db k := by
  rw [← @grantLicense_ok_iff lower req d now db k, ← lockedTrials_isSome_iff htrials now]
  cases hadmitted : activateAdmitted lower req d ⟨req.tenantOf lower d db, k⟩
      (dbA.trials.find? (req.fingerprint lower)) now dbA with
  | mk db' r =>
    rcases activateAdmitted_cases hadmitted with ⟨refusal, rfl, -, hexpired | hlocked⟩ |
      ⟨db1, hlocked, hpast⟩
    · have hexpired' : k.expiresAt < now := hexpired
      simp [hexpired']
    · simp [hlocked]
    · have hunexpired : ¬ k.expiresAt < now := hpast.unexpired
      obtain ⟨hlicenses1, -, hmachines1⟩ := lockedTrials_kept hlocked
      have howned1 := howned.of_eq hmachines1
      rcases hpast.ends with ⟨refusal, -, -, hlimit | hregistered⟩ | ⟨db2, -, -, -, rfl⟩
      · rw [machineLimitExceeded_owned howned1] at hlimit
        cases hlimit
      · obtain ⟨db2, hregisters⟩ := registerMachine_ofOwned howned1 true d.machineSaveFails now
        rw [hregistered] at hregisters
        cases hregisters
      · rw [hlicenses1, hlicenses]
        simp [hlocked, hunexpired]

theorem handleActivate_ok_iff (howned : Owned req (req.tenantOf lower d db) db) :
    (∃ answer, (handleActivate lower req d now db).2 = .ok answer) ↔
      Admits lower req d now db := by
  constructor
  · rintro ⟨answer, hok⟩
    have hactivate : handleActivate lower req d now db =
        ((handleActivate lower req d now db).1, .ok answer) := Prod.ext rfl hok
    rcases handleActivate_cases hactivate with ⟨refusal, hrefused, -⟩ | ⟨k, t, hagain, hre⟩ |
      ⟨a, dbA, hlet, hadmitted⟩
    · cases hrefused
    · have htenantOf : req.tenantOf lower d db = t.id := by
        simp [ActivateRequest.tenantOf, hagain.tenant]
      rw [htenantOf] at howned
      have hproved := (reactivate_ok_iff howned).mp ⟨answer, by rw [hre]⟩
      exact ⟨hagain.named.1, hagain.named.2, k, hagain.found, .inl ⟨hagain.activated.1, t,
        hagain.tenant, hagain.active, hagain.activated.2, hproved⟩⟩
    · obtain ⟨hlicenses, hmachines, htrials⟩ := hlet.kept
      have ha : a = ⟨req.tenantOf lower d db, a.key⟩ := by
        rw [← hlet.authorized.tenant]
      rw [ha] at hadmitted
      have hadmits := (activateAdmitted_ok_iff (howned.of_eq hmachines) hlicenses htrials).mp
        ⟨answer, by rw [hadmitted]⟩
      exact ⟨hlet.named.1, hlet.named.2, a.key, hlet.authorized.found,
        .inr ⟨hlet.authorized.unused, hlet.admitted, hadmits⟩⟩
  · rintro ⟨hnamed, hrefused, k, hkey, hagain | ⟨hunused, htenant, hadmits⟩⟩
    · obtain ⟨hactivated, t, ht, hactive, hby, hproved⟩ := hagain
      have htenantOf : req.tenantOf lower d db = t.id := by simp [ActivateRequest.tenantOf, ht]
      rw [htenantOf] at howned
      rw [handleActivate_again hnamed hrefused hkey ht hactive hactivated hby]
      exact (reactivate_ok_iff howned).mpr hproved
    · obtain ⟨dbA, hauthorize⟩ :=
        authorize_of_admits hnamed hrefused hkey hunused htenant now
      simp only [handleActivate, hauthorize]
      rcases authorize_cases hauthorize with ⟨_, heq, -⟩ | ⟨_, _, _, -, heq, -⟩ | ⟨a, -, hlet⟩
      · cases heq
      · cases heq
      · obtain ⟨hlicenses, hmachines, htrials⟩ := hlet.kept
        exact (activateAdmitted_ok_iff (howned.of_eq hmachines) hlicenses htrials).mpr hadmits

theorem handleActivate_tenant {answer : ActivateAnswer}
    (h : handleActivate lower req d now db = (db', .ok answer)) :
    answer.tenantId = req.tenantOf lower d db := by
  rcases handleActivate_ok h with ⟨t, s, k, -, -, ht, hre⟩ | ⟨a, db1, db2, hfirst⟩
  · rw [hre.answered]
    simp [ActivateRequest.tenantOf, ht]
  · rw [← hfirst.authorized.tenant]
    rcases grantLicense_cases hfirst.granted with ⟨refusal, hrefused, -⟩ | ⟨s, -, -, hanswer⟩ |
      ⟨db3, -, -, -, hanswer⟩
    · cases hrefused
    · cases hanswer
      rfl
    · cases hanswer
      rfl

end OzPos
