import OzPos.Client.ExactlyOnce

namespace OzPos

variable (item : OfflineQueueItem)

def carriedChange : Option SettingsUpdatePayload :=
  item.payload.doc?.bind SettingsUpdatePayload.read

def carriedValue : Option String :=
  (carriedChange item).map SettingsUpdatePayload.value

def settingEffect (key : String) : String := "setting:" ++ key

theorem effectKey_of_change {item : OfflineQueueItem} {p : SettingsUpdatePayload}
    (harm : remoteAction item.action = .settingsUpdate) (hread : carriedChange item = some p) :
    remoteEffectKey item.action item.payload = none ∨
      remoteEffectKey item.action item.payload = some (settingEffect p.key) := by
  unfold carriedChange at hread
  cases hpayload : item.payload with
  | text raw => simp [hpayload, Payload.doc?] at hread
  | json doc =>
    simp only [hpayload, Payload.doc?, Option.bind_some, SettingsUpdatePayload.read,
      Option.bind_eq_bind, Option.bind_eq_some_iff] at hread
    obtain ⟨body, hbody, key, hkey, value, _, terminalId, _, hp⟩ := hread
    have hpkey : p.key = key := by rw [← Option.some.inj hp]
    have hat := strAt?_value_of_required hbody hkey
    simp only [remoteEffectKey, harm, Payload.value?, Option.bind_eq_bind, Option.bind_some]
    rcases hat with hat | hat
    · left
      rw [hat]
      rfl
    · right
      rw [hat, hpkey]
      rfl

theorem syncTerminalIdKey_refused {key : String} (h : remoteSyncAdmits key = true) :
    key ≠ syncTerminalIdKey := by
  intro heq
  have hrefused : remoteSyncAdmits syncTerminalIdKey = false := by decide
  rw [heq, hrefused] at h
  cases h

section Changes

variable {κ : Type}

/-- A change of one setting made by another terminal. -/
structure RemoteChangeOf (key : String) (db : ClientDb κ) (item : OfflineQueueItem) : Prop where
  arm : remoteAction item.action = .settingsUpdate
  reads : (carriedChange item).map SettingsUpdatePayload.key = some key
  foreign : db.isSelfOriginated item = false

def isOpen (db : ClientDb κ) (item : OfflineQueueItem) : Bool :=
  !db.isRemoteFailureDeadLettered item.id && !db.isApplied item.id

/-- Of the open changes of a key: those that name no effect, and the first that does where
the key has no receipt. -/
def effectiveChanges (receipted : Bool) : List OfflineQueueItem → List OfflineQueueItem
  | [] => []
  | item :: rest =>
    if (remoteEffectKey item.action item.payload).isSome then
      if receipted then effectiveChanges true rest else item :: effectiveChanges true rest
    else item :: effectiveChanges receipted rest

def settledValue (key : String) (db : ClientDb κ) (items : List OfflineQueueItem) : Option String :=
  match (effectiveChanges (db.hasEffect (settingEffect key)) (items.filter (isOpen db))).getLast? with
  | some item => carriedValue item
  | none => db.domain.setting? key

variable {item : OfflineQueueItem} {key : String} {db : ClientDb κ}

theorem isOpen_of_alreadyApplied
    (hchange : RemoteChangeOf key db item) (h : db.alreadyApplied item = true) :
    isOpen db item = false ∨
      ((remoteEffectKey item.action item.payload).isSome ∧
        db.hasEffect (settingEffect key) = true) := by
  obtain ⟨p, hp, hpkey⟩ := Option.map_eq_some_iff.mp hchange.reads
  unfold ClientDb.alreadyApplied at h
  rw [Bool.or_eq_true] at h
  rcases h with h | h
  · left
    simp [isOpen, h]
  · right
    rcases effectKey_of_change hchange.arm hp with hkey | hkey
    · simp [hkey] at h
    · rw [hkey, hpkey] at h ⊢
      exact ⟨rfl, by simpa using h⟩

variable {p : SettingsUpdatePayload}

variable (crm : Crm κ) (draw : ApplyDraw)

theorem applyRemoteInTx_change (d : DomainTables κ)
    (harm : remoteAction item.action = .settingsUpdate) (hread : carriedChange item = some p) :
    applyRemoteInTx crm draw item d = .ok (d.applySettingsUpdate p.key p.value p.terminalId) := by
  unfold applyRemoteInTx parsed
  unfold carriedChange at hread
  rw [harm, hread]
  rfl

theorem setting?_applySettingsUpdate (hingest : remoteSyncAdmits key = true)
    (d : DomainTables κ) (value terminalId other : String) :
    (d.applySettingsUpdate key value terminalId).setting? other =
      if key = other then some value else d.setting? other := by
  rw [DomainTables.applySettingsUpdate, if_pos hingest, DomainTables.setting?_writeDelta,
    DomainTables.setting?_setSetting]

theorem getSyncTerminalId_applySettingsUpdate
    (hingest : remoteSyncAdmits key = true) (d : DomainTables κ) (value terminalId : String) :
    (d.applySettingsUpdate key value terminalId).getSyncTerminalId = d.getSyncTerminalId := by
  unfold DomainTables.getSyncTerminalId
  rw [setting?_applySettingsUpdate hingest, if_neg (syncTerminalIdKey_refused hingest)]

theorem isOpen_settle {other : OfflineQueueItem} (h : other.id ≠ item.id) (db : ClientDb κ)
    (d : DomainTables κ) :
    isOpen (ClientDb.settle item { db with domain := d }) other = isOpen db other := by
  rw [isOpen, isOpen, isApplied_settle d h, isDeadLettered_settle d h]

theorem deliver_skipped {crm : Crm κ} (hchange : RemoteChangeOf key db item)
    (h : isOpen db item = false ∨ db.alreadyApplied item = true) :
    applyRemoteAtomicFull crm draw item db = (db, .ok .default) := by
  rcases applyRemoteAtomicFull_cases crm draw item db with
    ⟨_, heq⟩ | ⟨hdead, ⟨hself, heq⟩ | ⟨_, ⟨_, heq⟩ | ⟨hnew, _⟩⟩⟩
  · exact heq
  · rw [hchange.foreign] at hself
    cases hself
  · exact heq
  · rcases h with h | h
    · unfold ClientDb.alreadyApplied at hnew
      rw [Bool.or_eq_false_iff] at hnew
      simp [isOpen, hdead, hnew.1] at h
    · rw [h] at hnew
      cases hnew

theorem deliver_change {crm : Crm κ} (hchange : RemoteChangeOf p.key db item)
    (hread : carriedChange item = some p) (hopen : isOpen db item = true)
    (hnew : db.alreadyApplied item = false) :
    (applyRemoteAtomicFull crm draw item db).1 =
      ClientDb.settle item
        { db with domain := db.domain.applySettingsUpdate p.key p.value p.terminalId } := by
  have happly := applyRemoteInTx_change crm draw db.domain hchange.arm hread
  rcases applyRemoteAtomicFull_cases crm draw item db with
    ⟨hdead, _⟩ | ⟨_, ⟨hself, _⟩ | ⟨_, ⟨hold, _⟩ | ⟨_, ⟨domain, hok, heq⟩ | ⟨e, herr, _⟩⟩⟩⟩
  · simp [isOpen, hdead] at hopen
  · rw [hchange.foreign] at hself
    cases hself
  · rw [hold] at hnew
    cases hnew
  · rw [happly] at hok
    rw [heq, ← Except.ok.inj hok]
  · rw [happly] at herr
    cases herr

theorem settledValue_skipped (rest : List OfflineQueueItem) (hchange : RemoteChangeOf key db item)
    (h : isOpen db item = false ∨ db.alreadyApplied item = true) :
    settledValue key db (item :: rest) = settledValue key db rest := by
  have hskip : isOpen db item = false ∨ ((remoteEffectKey item.action item.payload).isSome ∧
      db.hasEffect (settingEffect key) = true) := by
    rcases h with h | h
    · exact .inl h
    · exact isOpen_of_alreadyApplied hchange h
  unfold settledValue
  rcases hskip with hskip | ⟨hnamed, heffect⟩
  · rw [List.filter_cons_of_neg (by simp [hskip])]
  · cases hopen : isOpen db item with
    | false => rw [List.filter_cons_of_neg (by simp [hopen])]
    | true =>
      rw [List.filter_cons_of_pos hopen, effectiveChanges, if_pos hnamed, heffect, if_pos rfl]

theorem settledValue_written {rest : List OfflineQueueItem}
    (hingest : remoteSyncAdmits p.key = true) (hread : carriedChange item = some p)
    (harm : remoteAction item.action = .settingsUpdate) (hids : ∀ i ∈ rest, i.id ≠ item.id)
    (hopen : isOpen db item = true) (hnew : db.alreadyApplied item = false) :
    settledValue p.key db (item :: rest) =
      settledValue p.key
        (ClientDb.settle item
          { db with domain := db.domain.applySettingsUpdate p.key p.value p.terminalId }) rest := by
  have hfilter : rest.filter (isOpen (ClientDb.settle item
      { db with domain := db.domain.applySettingsUpdate p.key p.value p.terminalId })) =
      rest.filter (isOpen db) :=
    List.filter_congr (fun i hi => isOpen_settle (hids i hi) db _)
  have heffect : (ClientDb.settle item
      { db with domain := db.domain.applySettingsUpdate p.key p.value p.terminalId }).hasEffect
        (settingEffect p.key) = (db.hasEffect (settingEffect p.key) ||
          decide (remoteEffectKey item.action item.payload = some (settingEffect p.key))) :=
    hasEffect_settle _ hnew _
  have hvalue : (db.domain.applySettingsUpdate p.key p.value p.terminalId).setting? p.key =
      carriedValue item := by
    rw [setting?_applySettingsUpdate hingest, if_pos rfl, carriedValue, hread]
    rfl
  unfold settledValue
  rw [hfilter, heffect, settle_domain, hvalue, List.filter_cons_of_pos hopen, effectiveChanges]
  rcases effectKey_of_change harm hread with hkey | hkey
  · simp only [hkey, Option.isSome_none, Bool.false_eq_true, if_false, reduceCtorEq, decide_false,
      Bool.or_false, List.getLast?_cons]
    cases (effectiveChanges (db.hasEffect (settingEffect p.key))
      (rest.filter (isOpen db))).getLast? <;> rfl
  · -- the effect is new: an older receipt for it would have suppressed the item
    have hnone : db.hasEffect (settingEffect p.key) = false := by
      unfold ClientDb.alreadyApplied at hnew
      rw [Bool.or_eq_false_iff, hkey] at hnew
      simpa using hnew.2
    simp only [hkey, hnone, Option.isSome_some, if_true, Bool.false_eq_true, if_false,
      decide_true, Bool.or_true, List.getLast?_cons]
    cases (effectiveChanges true (rest.filter (isOpen db))).getLast? <;> rfl

theorem RemoteChangeOf.settle {other : OfflineQueueItem} (h : RemoteChangeOf key db other)
    {d : DomainTables κ} (hd : d.getSyncTerminalId = db.domain.getSyncTerminalId) :
    RemoteChangeOf key (ClientDb.settle item { db with domain := d }) other := by
  refine ⟨h.arm, h.reads, ?_⟩
  have hforeign := h.foreign
  unfold ClientDb.isSelfOriginated at hforeign ⊢
  rw [settle_domain, hd]
  exact hforeign

variable (draw : OfflineQueueItem → ApplyDraw)

def deliveries (items : List OfflineQueueItem) : List (PullEvent κ) :=
  items.map (fun i => .deliver i (draw i))

theorem setting?_run (hingest : remoteSyncAdmits key = true) (items : List OfflineQueueItem)
    (db : ClientDb κ)
    (hids : (items.map OfflineQueueItem.id).Nodup)
    (hchanges : ∀ i ∈ items, RemoteChangeOf key db i) :
    ((pullMachine crm).run db (deliveries draw items)).domain.setting? key =
      settledValue key db items := by
  induction items generalizing db with
  | nil => rfl
  | cons item rest ih =>
    obtain ⟨hid, hrestIds⟩ := List.nodup_cons.mp hids
    have hchange := hchanges item List.mem_cons_self
    have hrest : ∀ i ∈ rest, RemoteChangeOf key db i := fun i hi =>
      hchanges i (List.mem_cons_of_mem _ hi)
    have hrun : (pullMachine crm).run db (deliveries draw (item :: rest)) =
        (pullMachine crm).run (applyRemoteAtomicFull crm (draw item) item db).1
          (deliveries draw rest) := rfl
    rw [hrun]
    by_cases hskip : isOpen db item = false ∨ db.alreadyApplied item = true
    · rw [deliver_skipped _ hchange hskip, settledValue_skipped rest hchange hskip]
      exact ih db hrestIds hrest
    · rw [not_or, Bool.not_eq_false, Bool.not_eq_true] at hskip
      obtain ⟨hopen, hnew⟩ := hskip
      obtain ⟨p, hread, hp⟩ := Option.map_eq_some_iff.mp hchange.reads
      subst hp
      have hne : ∀ i ∈ rest, i.id ≠ item.id := fun i hi heq =>
        hid (List.mem_map.mpr ⟨i, hi, heq⟩)
      rw [deliver_change _ hchange hread hopen hnew,
        settledValue_written hingest hread hchange.arm hne hopen hnew]
      exact ih _ hrestIds (fun i hi => (hrest i hi).settle
        (getSyncTerminalId_applySettingsUpdate hingest _ _ _))

/-- The last effective change carries the value, or none is effective and the store holds it. -/
def SettlesOn (key : String) (db : ClientDb κ) (items : List OfflineQueueItem)
    (value : Option String) : Prop :=
  (∃ i, (effectiveChanges (db.hasEffect (settingEffect key)) (items.filter (isOpen db))).getLast? =
      some i ∧ carriedValue i = value) ∨
    effectiveChanges (db.hasEffect (settingEffect key)) (items.filter (isOpen db)) = [] ∧
      db.domain.setting? key = value

theorem settledValue_eq_iff (key : String) (db : ClientDb κ) (items : List OfflineQueueItem)
    (value : Option String) : settledValue key db items = value ↔ SettlesOn key db items value := by
  unfold settledValue SettlesOn
  cases hlast : (effectiveChanges (db.hasEffect (settingEffect key))
      (items.filter (isOpen db))).getLast? with
  | none => simp [List.getLast?_eq_none_iff.mp hlast]
  | some i =>
    have hne : effectiveChanges (db.hasEffect (settingEffect key)) (items.filter (isOpen db)) ≠ [] := by
      intro hnil
      simp [hnil] at hlast
    simp [hne]

theorem remoteChangeOf_settingChange (id key value : String) :
    RemoteChangeOf key emptyClient (settingChange id key value) := by
  constructor
  · change remoteAction "settings.update" = .settingsUpdate
    decide
  · simp [carriedChange, settingChange, queued, Payload.doc?, SettingsUpdatePayload.read,
      Json.body?, Json.Body.required, Json.Body.defaulted, Json.Body.field?, Json.asStr?]
  · rfl

end Changes

end OzPos
