import OzPos.LicenseServer.ActivationAdmits
import OzPos.LicenseServer.DeviceRevocation
import Mathlib.Data.List.Perm.Subperm

namespace OzPos

structure Tenants where
  table : Table String TenantRecord TenantRecord.email
  unique : (table.rows.map TenantRecord.id).Nodup

/-- `elsewhere` is what any other handler leaves of the tables that the machines are not in. -/
inductive RevocationEvent where
  | activate (req : ActivateRequest) (d : ActivateDraw)
  | status (body : Option StatusRequest) (d : StatusDraw)
  | revoke (session : Except Refusal String) (deviceId : String) (saveFails : Bool)
  | adminRevoke (admin : Except Refusal Unit) (tenantId deviceId : String) (saveFails : Bool)
  | grant (tenantId : String) (saveFails : String → Bool)
  | elsewhere (licenses : LicenseDb) (tenants : Tenants)
      (trials : Table String TrialRegistration TrialRegistration.hardwareFingerprint)
      (revocation : String → KeyRevocation)
  | buildCrl (d : CrlDraw)
  | wait (seconds : Nat)

inductive RevocationAnswer where
  | activated (answer : Except Refusal ActivateAnswer)
  | status (answer : Except Refusal StatusAnswer)
  | revoked (answer : Except Refusal Int)
  | list (list : RevocationList)
  | nothing

/-- `revoked` are the tenants with the machine ids of theirs that a revocation was confirmed of and
no grant released. -/
structure RevocationState where
  clock : Int
  db : ServerDb
  revocation : String → KeyRevocation
  revoked : List (String × String)

def RevocationState.start (licenses : LicenseDb) (tenants : Tenants)
    (trials : Table String TrialRegistration TrialRegistration.hardwareFingerprint)
    (revocation : String → KeyRevocation) (clock : Int) : RevocationState :=
  ⟨clock, ⟨licenses, tenants.table, Table.empty, trials⟩, revocation, []⟩

namespace RevocationState

variable (s : RevocationState)

def confirmed (tenantId deviceId : String) :
    ServerDb × Except Refusal Int → RevocationState × RevocationAnswer
  | (db, .ok revokedAt) =>
    ({ s with db := db, revoked := (tenantId, deviceId) :: s.revoked }, .revoked (.ok revokedAt))
  | (db, .error refusal) => ({ s with db := db }, .revoked (.error refusal))

end RevocationState

def revocations (lower sha256Hex : String → String) :
    Machine RevocationState RevocationEvent RevocationAnswer where
  step s
    | .activate req d =>
      let (db, answer) := handleActivate lower req d s.clock s.db
      ({ s with db := db }, .activated answer)
    | .status body d =>
      match handleStatus body d s.clock s.db, body with
      | (db, .ok answer), some req =>
        ({ s with
            db := db
            revoked :=
              if answer.device.revokePerformed then (answer.tenantId, req.machineId) :: s.revoked
              else s.revoked }, .status (.ok answer))
      | (db, answer), _ => ({ s with db := db }, .status answer)
    | .revoke session deviceId saveFails =>
      s.confirmed (match session with | .ok tenantId => tenantId | .error _ => "") deviceId
        (handleWebRevokeDevice session deviceId saveFails s.clock s.db)
    | .adminRevoke admin tenantId deviceId saveFails =>
      s.confirmed tenantId deviceId
        (handleAdminRevokeDevice admin tenantId deviceId saveFails s.clock s.db)
    | .grant tenantId saveFails =>
      ({ s with
          db := clearTenantDeviceRevocations tenantId saveFails s.db
          revoked := s.revoked.filter (fun p => p.1 ≠ tenantId || saveFails p.2) }, .nothing)
    | .elsewhere licenses tenants trials revocation =>
      ({ s with
          db := { s.db with licenses := licenses, tenants := tenants.table, trials := trials }
          revocation := revocation }, .nothing)
    | .buildCrl d =>
      (s, .list (buildCrlPayload sha256Hex s.revocation d s.clock s.db))
    | .wait seconds => ({ s with clock := s.clock + seconds }, .nothing)

namespace RevocationState

variable (s : RevocationState)

/-- A list names every revoked key, tenant and device. -/
structure ListedIn (l : RevocationList) : Prop where
  keys : ∀ k ∈ s.db.licenses.revokedKeys s.revocation, ∃ e ∈ l.entries, e.key = k.key
  tenants : ∀ t ∈ s.db.revokedTenants, t.id ∈ l.revokedTenants
  devices : ∀ p ∈ s.revoked, p.2 ∈ l.revokedDevices

/-- A revoked device gets no subscription, a status call with its id reports it, and a list names all
that is revoked. -/
def Complete (lower sha256Hex : String → String) (e : RevocationEvent) : Prop :=
  match e, ((revocations lower sha256Hex).step s e).2 with
  | .activate req _, .activated (.ok answer) => (answer.tenantId, req.machineId) ∉ s.revoked
  | .status (some req) _, .status (.ok answer) =>
    (answer.tenantId, req.machineId) ∈ s.revoked → answer.device.deviceRevoked = true
  | .buildCrl _, .list l => s.ListedIn l
  | _, _ => True

def ReadsAll {ρ : Type} (fails : Bool) (records : List ρ) : Prop :=
  records = [] ∨ (fails = false ∧ records.length ≤ 5000)

/-- No device is revoked that a request admitted otherwise, or an authenticated status call, comes
from, and none when a list is built, which comes upon no more revoked keys and tenants than its
queries read. -/
def Meets (lower : String → String) : RevocationEvent → Prop
  | .activate req d =>
    (req.tenantOf lower d s.db, req.machineId) ∈ s.revoked → ¬ Admits lower req d s.clock s.db
  | .status (some req) d =>
    d.refused = none → ∀ t, d.keyTenant.bind s.db.tenantById = some t → t.status = .active →
      (t.id, req.machineId) ∉ s.revoked
  | .buildCrl d =>
    ReadsAll d.keyQueryFails (s.db.licenses.revokedKeys s.revocation) ∧
      (∀ k ∈ s.db.licenses.revokedKeys s.revocation, k.key ≠ "") ∧
      ReadsAll d.tenantQueryFails s.db.revokedTenants ∧ s.revoked = []
  | _ => True

/-- Machines are registered without their column `machine_id`, and a revoked device keeps its row. -/
structure Consistent : Prop where
  tenantIds : (s.db.tenants.rows.map TenantRecord.id).Nodup
  unnamed : ∀ r ∈ s.db.machines.rows, r.machineId = ""
  revokedRows : ∀ t m, (t, m) ∈ s.revoked →
    ∃ r, s.db.machines.find? m = some r ∧ r.tenantId = t ∧ r.revokedAt.isSome

variable {s} {lower sha256Hex : String → String}

variable {ρ : Type} {fails : Bool}

theorem mem_newestRecords {time : ρ → Int} {records : List ρ} {r : ρ}
    (h : r ∈ newestRecords time fails records) : r ∈ records := by
  unfold newestRecords at h
  split at h
  · cases h
  · exact (List.mergeSort_perm records _).mem_iff.mp (List.mem_of_mem_take h)

theorem ReadsAll.mem {time : ρ → Int} {records : List ρ} (h : ReadsAll fails records) {r : ρ}
    (hr : r ∈ records) : r ∈ newestRecords time fails records := by
  rcases h with hnone | ⟨hfails, hlength⟩
  · rw [hnone] at hr
    cases hr
  · unfold newestRecords
    rw [hfails]
    have hperm := List.mergeSort_perm records (fun a b => decide (time b ≤ time a))
    have htake : (records.mergeSort (fun a b => decide (time b ≤ time a))).take 5000 =
        records.mergeSort (fun a b => decide (time b ≤ time a)) := by
      apply List.take_of_length_le
      rw [hperm.length_eq]
      exact hlength
    simp only [Bool.false_eq_true, if_false, htake]
    exact hperm.mem_iff.mpr hr

theorem ReadsAll.of_covers {β : Type} {time : ρ → Int} {records : List ρ}
    {f : ρ → β} (hunique : (records.map f).Nodup)
    (h : ∀ r ∈ records, f r ∈ (newestRecords time fails records).map f) :
    ReadsAll fails records := by
  unfold newestRecords at h
  cases fails with
  | true =>
    refine .inl (List.eq_nil_iff_forall_not_mem.mpr ?_)
    intro r hr
    simpa using h r hr
  | false =>
    simp only [Bool.false_eq_true, if_false] at h
    refine .inr ⟨rfl, ?_⟩
    have hsubset : records.map f ⊆
        ((records.mergeSort (fun a b => decide (time b ≤ time a))).take 5000).map f := by
      intro b hb
      obtain ⟨r, hr, rfl⟩ := List.mem_map.mp hb
      exact h r hr
    have hlength := (hunique.subperm hsubset).length_le
    simp only [List.length_map, List.length_take] at hlength
    omega

theorem listedIn_iff (h : s.Consistent) (d : CrlDraw) :
    s.ListedIn (buildCrlPayload sha256Hex s.revocation d s.clock s.db) ↔
      s.Meets lower (.buildCrl d) := by
  have hkeys : ((s.db.licenses.revokedKeys s.revocation).map LicenseKeyRecord.key).Nodup :=
    s.db.licenses.keys.unique.sublist (List.filter_sublist.map _)
  have htenants : (s.db.revokedTenants.map TenantRecord.id).Nodup :=
    h.tenantIds.sublist (List.filter_sublist.map _)
  have hdevices :
      (buildCrlPayload sha256Hex s.revocation d s.clock s.db).revokedDevices = [] := by
    apply List.filter_eq_nil_iff.mpr
    intro id hid
    obtain ⟨r, hr, rfl⟩ := List.mem_map.mp hid
    have hrow := (List.mem_filter.mp (mem_newestRecords hr)).1
    simp [h.unnamed r hrow]
  constructor
  · intro hlisted
    have hfound : ∀ k ∈ s.db.licenses.revokedKeys s.revocation, k.key ≠ "" ∧
        k.key ∈ (newestRecords (fun k => ((s.revocation k.key).revokedAt).getD s.clock)
          d.keyQueryFails (s.db.licenses.revokedKeys s.revocation)).map LicenseKeyRecord.key := by
      intro k hk
      obtain ⟨e, he, hkey⟩ := hlisted.keys k hk
      obtain ⟨k', hk', rfl⟩ := List.mem_map.mp he
      obtain ⟨hrecord, hnonempty⟩ := List.mem_filter.mp hk'
      have hkey' : k'.key = k.key := hkey
      rw [← hkey']
      exact ⟨by simpa using hnonempty, List.mem_map_of_mem hrecord⟩
    refine ⟨ReadsAll.of_covers hkeys (fun k hk => (hfound k hk).2), fun k hk => (hfound k hk).1,
      ReadsAll.of_covers htenants hlisted.tenants, ?_⟩
    apply List.eq_nil_iff_forall_not_mem.mpr
    intro p hp
    have hlist := hlisted.devices p hp
    rw [hdevices] at hlist
    cases hlist
  · rintro ⟨hreads, hnonempty, hreadsTenants, hnone⟩
    refine ⟨?_, ?_, ?_⟩
    · intro k hk
      refine ⟨_, List.mem_map_of_mem (List.mem_filter.mpr ⟨hreads.mem hk, ?_⟩), rfl⟩
      simpa using hnonempty k hk
    · intro t ht
      exact List.mem_map_of_mem (hreadsTenants.mem ht)
    · intro p hp
      rw [hnone] at hp
      cases hp

theorem reportDevice_unnamed (h : ∀ r ∈ s.db.machines.rows, r.machineId = "") (tenantId : String)
    (body : Option StatusRequest) (d : StatusDraw) (now : Int) :
    (reportDevice tenantId body d now s.db).1 = s.db ∧
      (reportDevice tenantId body d now s.db).2.deviceRevoked = false ∧
      (reportDevice tenantId body d now s.db).2.revokePerformed = false := by
  unfold reportDevice
  cases body with
  | none => exact ⟨rfl, rfl, rfl⟩
  | some req =>
    dsimp only
    split
    · exact ⟨rfl, rfl, rfl⟩
    · rename_i hid
      have hnone : s.db.machines.rows.filter
          (fun m => m.machineId = req.machineId ∧ m.tenantId = tenantId) = [] := by
        apply List.filter_eq_nil_iff.mpr
        intro r hr hfound
        simp only [decide_eq_true_eq] at hfound
        exact hid (hfound.1.symm.trans (h r hr))
      simp only [hnone, List.head?_nil, ite_self]
      exact ⟨trivial, trivial, trivial⟩

theorem handleStatus_unnamed (h : ∀ r ∈ s.db.machines.rows, r.machineId = "")
    (body : Option StatusRequest) (d : StatusDraw) (now : Int) :
    (handleStatus body d now s.db).1 = s.db ∧
      (∀ answer, (handleStatus body d now s.db).2 = .ok answer →
        d.refused = none ∧ (∃ t, d.keyTenant.bind s.db.tenantById = some t ∧ t.status = .active ∧
          answer.tenantId = t.id) ∧
        answer.device.deviceRevoked = false ∧ answer.device.revokePerformed = false) ∧
      (d.refused = none → ∀ t, d.keyTenant.bind s.db.tenantById = some t → t.status = .active →
        ∃ answer, (handleStatus body d now s.db).2 = .ok answer ∧ answer.tenantId = t.id) := by
  unfold handleStatus
  cases hrefused : d.refused with
  | some refusal => simp
  | none =>
    cases htenant : d.keyTenant.bind s.db.tenantById with
    | none => simp
    | some t =>
      obtain ⟨hdb, hrevoked, hperformed⟩ := reportDevice_unnamed h t.id body d now
      dsimp only
      by_cases hactive : t.status = .active
      · simp only [hactive, ne_eq, not_true_eq_false, if_false, Option.some.injEq, forall_eq',
          true_and, exists_eq_left']
        cases hsub : (if d.subQueryFails = true then none else s.db.licenses.latestActive t.id) with
        | none =>
          simp only [hdb, hsub, Except.ok.injEq, forall_eq', true_and]
          exact ⟨⟨hrevoked, hperformed⟩, fun _ _ => ⟨_, rfl, rfl⟩⟩
        | some sub =>
          simp only [hdb, hsub, Except.ok.injEq, forall_eq', true_and]
          exact ⟨⟨hrevoked, hperformed⟩, fun _ _ => ⟨_, rfl, rfl⟩⟩
      · simp [hactive]

theorem find?_saveMachine (db : ServerDb) (m : MachineRecord) (id : String) :
    (db.saveMachine m).machines.find? id =
      (db.machines.find? id).map (fun r => if id = m.id then m.resaved r else r) :=
  Table.find?_update db.machines m.id m.resaved (fun _ => rfl) id

variable {db : ServerDb}

theorem unnamed_saveMachine (h : ∀ r ∈ db.machines.rows, r.machineId = "")
    (m : MachineRecord) : ∀ r ∈ (db.saveMachine m).machines.rows, r.machineId = "" := by
  intro r hr
  rcases (Table.mem_update db.machines m.id m.resaved (fun _ => rfl) r).mp hr with
    ⟨old, hold, heq⟩
  have hkept := h old hold
  rw [heq]
  split
  · exact hkept
  · exact hkept

variable {now : Int} {tenantId : String} {saveFails : Bool} {db' : ServerDb}

theorem unnamed_registerMachine {machineId : String} {checkOwnership : Bool}
    (h : ∀ r ∈ db.machines.rows, r.machineId = "")
    (hregistered : registerMachine machineId tenantId checkOwnership saveFails now db = some db') :
    ∀ r ∈ db'.machines.rows, r.machineId = "" := by
  unfold registerMachine at hregistered
  split at hregistered
  · cases saveFails with
    | true =>
      cases hregistered
      exact h
    | false =>
      cases hregistered
      intro r hr
      change r ∈ (db.machines.insertNew _).rows at hr
      rw [Table.rows_insertNew] at hr
      split at hr
      · exact h r hr
      · rcases List.mem_append.mp hr with hold | hnew
        · exact h r hold
        · rw [List.mem_singleton.mp hnew]
  · split at hregistered
    · cases hregistered
    · cases saveFails with
      | true =>
        cases hregistered
        exact h
      | false =>
        cases hregistered
        intro r hr
        obtain ⟨old, hold, heq⟩ := (Table.mem_update db.machines machineId
          (fun m => { m with lastSeenAt := now }) (fun _ => rfl) r).mp hr
        have hkept := h old hold
        rw [heq]
        split
        · exact hkept
        · exact hkept

theorem unnamed_handleActivate {req : ActivateRequest} {d : ActivateDraw}
    (h : ∀ r ∈ db.machines.rows, r.machineId = "") :
    ∀ r ∈ (handleActivate lower req d now db).1.machines.rows, r.machineId = "" := by
  rcases @registered_handleActivate lower req d now db with hsame |
    ⟨tenantId, checkOwnership, db1, db2, hmachines, hregistered, hsame⟩
  · rw [hsame]
    exact h
  · rw [← hmachines] at h
    rw [hsame]
    exact unnamed_registerMachine h hregistered

theorem tenantIds_handleActivate {req : ActivateRequest} {d : ActivateDraw}
    (h : (db.tenants.rows.map TenantRecord.id).Nodup) :
    ((handleActivate lower req d now db).1.tenants.rows.map TenantRecord.id).Nodup := by
  rcases @tenants_handleActivate lower req d now db with hsame | ⟨db1, hopen, hsame⟩
  · rw [hsame]
    exact h
  · obtain ⟨hfree, hdb⟩ := openTenant_some hopen
    rw [hsame, hdb]
    show ((db.tenants.insertNew _).rows.map TenantRecord.id).Nodup
    rw [Table.rows_insertNew]
    split
    · exact h
    · rw [List.map_append, List.nodup_append]
      refine ⟨h, by simp, ?_⟩
      intro id hid id' hid'
      obtain ⟨t, ht, rfl⟩ := List.mem_map.mp hid
      simp only [List.map_cons, List.map_nil, List.mem_singleton] at hid'
      rw [hid']
      exact hfree t ht

/-- What a dashboard leaves of a device that it confirms to be revoked. -/
def Revokes (tenantId deviceId : String) (now : Int) (db db' : ServerDb) : Prop :=
  ∃ m, db.machines.find? deviceId = some m ∧ m.tenantId = tenantId ∧
    ((m.revokedAt.isSome ∧ db' = db) ∨ db' = db.saveMachine { m with revokedAt := some now })

variable {deviceId : String}

theorem handleWebRevokeDevice_cases {session : Except Refusal String} {answer : Except Refusal Int}
    (h : handleWebRevokeDevice session deviceId saveFails now db = (db', answer)) :
    (db' = db ∧ ∃ refusal, answer = .error refusal) ∨
      ∃ tenantId, session = .ok tenantId ∧ Revokes tenantId deviceId now db db' := by
  unfold handleWebRevokeDevice at h
  cases session with
  | error refusal =>
    cases h
    exact .inl ⟨rfl, _, rfl⟩
  | ok tenantId =>
    dsimp only at h
    split at h
    · cases h
      exact .inl ⟨rfl, _, rfl⟩
    · cases hfound : db.machines.find? deviceId with
      | none =>
        simp only [hfound] at h
        cases h
        exact .inl ⟨rfl, _, rfl⟩
      | some m =>
        simp only [hfound] at h
        split at h
        · cases h
          exact .inl ⟨rfl, _, rfl⟩
        · rename_i howner
          have htenant : m.tenantId = tenantId := not_not.mp howner
          cases hrevoked : m.revokedAt with
          | some revokedAt =>
            simp only [hrevoked] at h
            cases h
            exact .inr ⟨tenantId, rfl, m, hfound, htenant, .inl ⟨by simp [hrevoked], rfl⟩⟩
          | none =>
            simp only [hrevoked] at h
            split at h
            · cases h
              exact .inl ⟨rfl, _, rfl⟩
            · cases h
              exact .inr ⟨tenantId, rfl, m, hfound, htenant, .inr rfl⟩

theorem handleAdminRevokeDevice_eq (tenantId deviceId : String) (saveFails : Bool) (now : Int)
    (db : ServerDb) :
    handleAdminRevokeDevice (.ok ()) tenantId deviceId saveFails now db =
      match handleWebRevokeDevice (.ok tenantId) deviceId saveFails now db with
      | (db, .error ⟨403, _⟩) => (db, .error ⟨404, "device not found"⟩)
      | result => result := by
  unfold handleAdminRevokeDevice handleWebRevokeDevice
  dsimp only
  split
  · rfl
  · split
    · rfl
    · split
      · rfl
      · split
        · rfl
        · split
          · rfl
          · rfl

theorem handleAdminRevokeDevice_cases {admin : Except Refusal Unit} {answer : Except Refusal Int}
    (h : handleAdminRevokeDevice admin tenantId deviceId saveFails now db = (db', answer)) :
    (db' = db ∧ ∃ refusal, answer = .error refusal) ∨ Revokes tenantId deviceId now db db' := by
  cases admin with
  | error refusal =>
    cases h
    exact .inl ⟨rfl, _, rfl⟩
  | ok u =>
    rw [handleAdminRevokeDevice_eq] at h
    cases hweb : handleWebRevokeDevice (.ok tenantId) deviceId saveFails now db with
    | mk dbW answerW =>
      rw [hweb] at h
      rcases handleWebRevokeDevice_cases hweb with ⟨rfl, refusal, rfl⟩ | ⟨t, htenant, hrevokes⟩
      · split at h
        · rename_i heq
          cases h
          cases heq
          exact .inl ⟨rfl, _, rfl⟩
        · cases h
          exact .inl ⟨rfl, _, rfl⟩
      · cases htenant
        split at h
        · rename_i heq
          cases h
          cases heq
          exact .inr hrevokes
        · cases h
          exact .inr hrevokes

theorem Consistent.revoke (h : s.Consistent)
    (hrevokes : Revokes tenantId deviceId s.clock s.db db) :
    ({ s with db := db, revoked := (tenantId, deviceId) :: s.revoked } :
      RevocationState).Consistent := by
  obtain ⟨m, hm, htenant, ⟨hrevoked, rfl⟩ | rfl⟩ := hrevokes
  · refine ⟨h.tenantIds, h.unnamed, ?_⟩
    intro t id hmem
    rcases List.mem_cons.mp hmem with heq | hold
    · cases heq
      exact ⟨m, hm, htenant, hrevoked⟩
    · exact h.revokedRows t id hold
  · refine ⟨h.tenantIds, unnamed_saveMachine h.unnamed _, ?_⟩
    have hid : m.id = deviceId := Table.find?_key hm
    intro t id hmem
    simp only [find?_saveMachine]
    rcases List.mem_cons.mp hmem with heq | hold
    · cases heq
      rw [hm]
      exact ⟨_, rfl, by simp [hid, MachineRecord.resaved, htenant]⟩
    · obtain ⟨r, hr, hrTenant, hrRevoked⟩ := h.revokedRows t id hold
      rw [hr]
      refine ⟨_, rfl, ?_⟩
      split
      · exact ⟨hrTenant, rfl⟩
      · exact ⟨hrTenant, hrRevoked⟩

theorem Consistent.confirmed_step (h : s.Consistent)
    {result : ServerDb × Except Refusal Int}
    (hresult : (result.1 = s.db ∧ ∃ refusal, result.2 = .error refusal) ∨
      Revokes tenantId deviceId s.clock s.db result.1) :
    (s.confirmed tenantId deviceId result).1.Consistent := by
  obtain ⟨db, answer⟩ := result
  rcases hresult with ⟨hsame, refusal, hanswer⟩ | hrevokes
  · simp only at hsame hanswer
    rw [hsame, hanswer]
    exact h
  · have hrevoked := h.revoke hrevokes
    cases answer with
    | ok revokedAt => exact hrevoked
    | error refusal =>
      exact ⟨hrevoked.tenantIds, hrevoked.unnamed,
        fun t m hmem => hrevoked.revokedRows t m (List.mem_cons_of_mem _ hmem)⟩

theorem find?_clear {saveFails : String → Bool} {id : String} :
    ∀ (machines : List MachineRecord) (db : ServerDb),
      (∀ m ∈ machines, m.id = id → saveFails id = true) →
      (machines.foldl (fun db m =>
        if m.revokedAt.isSome && !saveFails m.id then db.saveMachine { m with revokedAt := none }
        else db) db).machines.find? id = db.machines.find? id
  | [], _, _ => rfl
  | m :: machines, db, h => by
    rw [List.foldl_cons, find?_clear machines _ (fun x hx => h x (List.mem_cons_of_mem _ hx))]
    split
    · rename_i hcleared
      rw [find?_saveMachine]
      have hid : id ≠ m.id := by
        intro heq
        have hfails := h m List.mem_cons_self heq.symm
        rw [heq] at hfails
        simp [hfails] at hcleared
      simp [hid]
    · rfl

theorem unnamed_clear {saveFails : String → Bool} :
    ∀ (machines : List MachineRecord) (db : ServerDb),
      (∀ r ∈ db.machines.rows, r.machineId = "") →
      ∀ r ∈ (machines.foldl (fun db m =>
        if m.revokedAt.isSome && !saveFails m.id then db.saveMachine { m with revokedAt := none }
        else db) db).machines.rows, r.machineId = ""
  | [], _, h => h
  | m :: machines, db, h => by
    rw [List.foldl_cons]
    apply unnamed_clear machines
    split
    · exact unnamed_saveMachine h _
    · exact h

theorem tenants_clear {saveFails : String → Bool} :
    ∀ (machines : List MachineRecord) (db : ServerDb),
      (machines.foldl (fun db m =>
        if m.revokedAt.isSome && !saveFails m.id then db.saveMachine { m with revokedAt := none }
        else db) db).tenants = db.tenants
  | [], _ => rfl
  | m :: machines, db => by
    rw [List.foldl_cons, tenants_clear machines]
    split
    · rfl
    · rfl

theorem Consistent.clear (h : s.Consistent) (tenantId : String) (saveFails : String → Bool) :
    ({ s with
        db := clearTenantDeviceRevocations tenantId saveFails s.db
        revoked := s.revoked.filter (fun p => p.1 ≠ tenantId || saveFails p.2) } :
      RevocationState).Consistent := by
  refine ⟨?_, unnamed_clear _ _ h.unnamed, ?_⟩
  · show ((clearTenantDeviceRevocations tenantId saveFails s.db).tenants.rows.map _).Nodup
    rw [clearTenantDeviceRevocations, tenants_clear]
    exact h.tenantIds
  · intro t m hmem
    obtain ⟨hold, hkept⟩ := List.mem_filter.mp hmem
    obtain ⟨r, hr, htenant, hrevoked⟩ := h.revokedRows t m hold
    refine ⟨r, ?_, htenant, hrevoked⟩
    show (clearTenantDeviceRevocations tenantId saveFails s.db).machines.find? m = some r
    rw [clearTenantDeviceRevocations, find?_clear _ _ ?_, hr]
    intro x hx hid
    obtain ⟨hrow, hxTenant⟩ := List.mem_filter.mp hx
    have hfound := (Table.mem_rows_iff _ _).mp hrow
    rw [hid, hr] at hfound
    cases hfound
    have hsame : t = tenantId := by
      rw [← htenant]
      simpa using hxTenant
    simpa [hsame] using hkept

theorem consistent_step (h : s.Consistent) (e : RevocationEvent) :
    ((revocations lower sha256Hex).step s e).1.Consistent := by
  cases e with
  | activate req d =>
    refine ⟨tenantIds_handleActivate h.tenantIds, unnamed_handleActivate h.unnamed, ?_⟩
    intro t m hmem
    obtain ⟨r, hr, htenant, hrevoked⟩ := h.revokedRows t m hmem
    obtain ⟨r', hr', htenant', -, hrevoked'⟩ :=
      @keepsMachines_handleActivate lower req d s.clock s.db m r hr
    exact ⟨r', hr', htenant'.trans htenant, by rw [hrevoked']; exact hrevoked⟩
  | status body d =>
    obtain ⟨hdb, hanswer, -⟩ := handleStatus_unnamed h.unnamed body d s.clock
    cases hcase : handleStatus body d s.clock s.db with
    | mk db answer =>
      rw [hcase] at hdb hanswer
      have hsame : db = s.db := hdb
      subst hsame
      cases answer with
      | error refusal =>
        simp only [revocations, hcase]
        exact h
      | ok answer =>
        obtain ⟨-, -, -, hperformed⟩ := hanswer answer rfl
        cases body with
        | none =>
          simp only [revocations, hcase]
          exact h
        | some req =>
          simp only [revocations, hcase, hperformed, Bool.false_eq_true, if_false]
          exact h
  | revoke session deviceId saveFails =>
    apply h.confirmed_step
    cases hcase : handleWebRevokeDevice session deviceId saveFails s.clock s.db with
    | mk db answer =>
      rcases handleWebRevokeDevice_cases hcase with hrefused | ⟨tenantId, rfl, hrevokes⟩
      · exact .inl hrefused
      · exact .inr hrevokes
  | adminRevoke admin tenantId deviceId saveFails =>
    apply h.confirmed_step
    cases hcase : handleAdminRevokeDevice admin tenantId deviceId saveFails s.clock s.db with
    | mk db answer => exact handleAdminRevokeDevice_cases hcase
  | grant tenantId saveFails => exact h.clear tenantId saveFails
  | elsewhere licenses tenants trials revocation => exact ⟨tenants.unique, h.unnamed, h.revokedRows⟩
  | buildCrl d => exact h
  | wait seconds => exact ⟨h.tenantIds, h.unnamed, h.revokedRows⟩

theorem complete_activate_iff (h : s.Consistent) (req : ActivateRequest) (d : ActivateDraw) :
    s.Complete lower sha256Hex (.activate req d) ↔ s.Meets lower (.activate req d) := by
  have howned : (req.tenantOf lower d s.db, req.machineId) ∈ s.revoked →
      Owned req (req.tenantOf lower d s.db) s.db := by
    intro hmem
    obtain ⟨r, hr, htenant, -⟩ := h.revokedRows _ _ hmem
    exact ⟨r, hr, htenant⟩
  unfold Complete Meets
  simp only [revocations]
  cases hcase : handleActivate lower req d s.clock s.db with
  | mk db answer =>
    have hok : (handleActivate lower req d s.clock s.db).2 = answer := by rw [hcase]
    cases answer with
    | error refusal =>
      simp only [true_iff]
      intro hmem hadmits
      obtain ⟨answer, hanswer⟩ := (handleActivate_ok_iff (howned hmem)).mpr hadmits
      rw [hok] at hanswer
      cases hanswer
    | ok answer =>
      have htenant := handleActivate_tenant hcase
      dsimp only
      rw [htenant]
      constructor
      · intro hnot hmem
        exact absurd hmem hnot
      · intro hmeets hmem
        exact hmeets hmem ((handleActivate_ok_iff (howned hmem)).mp ⟨answer, hok⟩)

theorem complete_status_iff (h : s.Consistent) (body : Option StatusRequest) (d : StatusDraw) :
    s.Complete lower sha256Hex (.status body d) ↔ s.Meets lower (.status body d) := by
  obtain ⟨-, hanswer, hanswered⟩ := handleStatus_unnamed h.unnamed body d s.clock
  cases body with
  | none => simp [Complete, Meets]
  | some req =>
    unfold Complete Meets
    simp only [revocations]
    cases hcase : handleStatus (some req) d s.clock s.db with
    | mk db answer =>
      simp only [hcase] at hanswer hanswered
      cases answer with
      | error refusal =>
        simp only [true_iff]
        intro hrefused t ht hactive
        obtain ⟨answer, herror, -⟩ := hanswered hrefused t ht hactive
        cases herror
      | ok answer =>
        obtain ⟨hrefused, ⟨t, ht, hactive, htenant⟩, hrevoked, -⟩ := hanswer answer rfl
        simp only [htenant, hrevoked, Bool.false_eq_true, imp_false]
        constructor
        · intro hnot hclear t' ht' hactive'
          rw [ht] at ht'
          cases ht'
          exact hnot
        · intro hmeets
          exact hmeets hrefused t ht hactive

theorem complete_iff (h : s.Consistent) (e : RevocationEvent) :
    s.Complete lower sha256Hex e ↔ s.Meets lower e := by
  cases e with
  | activate req d => exact complete_activate_iff h req d
  | status body d => exact complete_status_iff h body d
  | revoke session deviceId saveFails => simp [Complete, Meets]
  | adminRevoke admin tenantId deviceId saveFails => simp [Complete, Meets]
  | grant tenantId saveFails => simp [Complete, Meets]
  | elsewhere licenses tenants trials revocation => simp [Complete, Meets]
  | buildCrl d => exact listedIn_iff h d
  | wait seconds => simp [Complete, Meets]

theorem consistent_start (licenses : LicenseDb) (tenants : Tenants)
    (trials : Table String TrialRegistration TrialRegistration.hardwareFingerprint)
    (revocation : String → KeyRevocation) (clock : Int) :
    (start licenses tenants trials revocation clock).Consistent := by
  refine ⟨tenants.unique, ?_, ?_⟩
  · intro r hr
    cases hr
  · intro t m hmem
    cases hmem

end RevocationState

/-- Revocation is complete in a run just when nothing of a revoked device comes up in it, and lists
are built while their queries read all keys and tenants. -/
theorem revocationComplete_iff (lower sha256Hex : String → String) (licenses : LicenseDb)
    (tenants : Tenants)
    (trials : Table String TrialRegistration TrialRegistration.hardwareFingerprint)
    (revocation : String → KeyRevocation) (clock : Int) (events : List RevocationEvent) :
    (revocations lower sha256Hex).Along (fun s e => s.Complete lower sha256Hex e)
        (.start licenses tenants trials revocation clock) events ↔
      (revocations lower sha256Hex).Along (fun s e => s.Meets lower e)
        (.start licenses tenants trials revocation clock) events := by
  have hstep : ∀ (s : RevocationState) (e : RevocationEvent), s.Consistent → s.Meets lower e →
      ((revocations lower sha256Hex).step s e).1.Consistent :=
    fun s e hs _ => RevocationState.consistent_step hs e
  have hiff : ∀ (s : RevocationState) (e : RevocationEvent), s.Consistent →
      (s.Complete lower sha256Hex e ↔ s.Meets lower e) :=
    fun s e hs => RevocationState.complete_iff hs e
  exact (revocations lower sha256Hex).along_iff_of_invariant hstep hiff _ events
    (RevocationState.consistent_start licenses tenants trials revocation clock)

def shopTenants : Tenants where
  table := ⟨[⟨"T-1", "ani@example.com", .active⟩], by decide⟩
  unique := by decide

def shopKeys : Table String LicenseKeyRecord LicenseKeyRecord.key where
  rows := [⟨"OZ-PLUS-0001", "plus", .unused, 86400, false, "", "", ⟨"", "", ""⟩⟩]
  unique := by decide

/-- A device is activated, revoked and asks for its status: it is not told. -/
theorem revokedTill_unreported :
    ¬ ∀ lower sha256Hex licenses tenants trials revocation clock events,
      (revocations lower sha256Hex).Along (fun s e => s.Complete lower sha256Hex e)
        (.start licenses tenants trials revocation clock) events := by
  intro h
  obtain ⟨-, -, hstatus, -⟩ := h id id ⟨shopKeys, Table.empty⟩ shopTenants Table.empty
    (fun _ => ⟨none, ""⟩) 0
    [.activate ⟨"OZ-PLUS-0001", "ani@example.com", "a1b2c3d4e5f6078", "", ""⟩
        ⟨none, true, none, "T-9", "S-1", false, false, false, false, false, false, false, false⟩,
      .revoke (.ok "T-1") "a1b2c3d4e5f6078" false,
      .status (some ⟨"a1b2c3d4e5f6078", "", false⟩) ⟨none, some "T-1", false, false, false, false⟩]
  have hreported := hstatus (by decide)
  exact absurd hreported (by decide)

end OzPos
