import OzPos.Library.Run
import OzPos.Server.SyncStore

namespace OzPos

abbrev PushResponse := Except PushError (List PushOutcome)

inductive ServerEvent where
  | push (claims : ApiTokenClaims) (faults : PushFaults) (items : List OfflineQueueItem)
  | prune (cutoff : String)

variable (v : PushValidation)

/-- Pushes of any tenant, and the retention loop between them. -/
def cloudServer : Machine SyncStore ServerEvent (Option PushResponse) where
  step s
    | .push claims faults items =>
      let (next, response) := pushHandler v faults claims items s
      (next, some response)
    | .prune cutoff =>
      ({ s with queue := s.queue.retain (fun r => !decide (r.createdAt < cutoff)) }, none)

variable (tenantId : String)

def concerns : ServerEvent → Bool
  | .push claims _ _ => claims.tenant = tenantId
  | .prune _ => true

def tenantRows (queue : OfflineQueue) : List OfflineQueueItem :=
  queue.rows.filter (fun r => r.tenantId = tenantId)

variable (s : SyncStore)

/-- The pushed ids are not stored under another tenant. -/
def OwnIds : ServerEvent → Prop
  | .push claims _ items => claims.tenant = tenantId →
      ∀ item ∈ items, v.accepts item = true →
        ∀ r ∈ s.queue.rows, r.id = item.id → r.tenantId = tenantId
  | .prune _ => True

instance :
    (e : ServerEvent) → Decidable (OwnIds v tenantId s e)
  | .push claims _ items => inferInstanceAs (Decidable (claims.tenant = tenantId →
      ∀ item ∈ items, v.accepts item = true →
        ∀ r ∈ s.queue.rows, r.id = item.id → r.tenantId = tenantId))
  | .prune _ => isTrue trivial

/-- What the tenant's push is answered as a duplicate is stored for the tenant. -/
def DuplicatesStored :
    ServerEvent → Prop
  | .push claims faults items => claims.tenant = tenantId →
      ∀ outcomes, (pushHandler v faults claims items s).2 = .ok outcomes →
        ∀ answer ∈ items.zip outcomes, ∀ reason, answer.2 = .rejected reason →
          isDuplicateIdRejection reason = true →
            ∃ r ∈ tenantRows tenantId (pushHandler v faults claims items s).1.queue,
              r.id = answer.1.id
  | .prune _ => True

/-- `t` is the tenant's part of `s` and holds no other rows. -/
structure TenantView (tenantId : String) (s t : SyncStore) : Prop where
  rows : t.queue.rows = tenantRows tenantId s.queue
  entities : ∀ key : EntityKey, key.tenantId = tenantId →
    s.conflictStore.entities.find? key = t.conflictStore.entities.find? key

theorem mem_tenantRows (queue : OfflineQueue) (r : OfflineQueueItem) :
    r ∈ tenantRows tenantId queue ↔ r ∈ queue.rows ∧ r.tenantId = tenantId := by
  simp [tenantRows]

variable {tenantId : String} {queue : OfflineQueue} {faults : PushFaults} {item : OfflineQueueItem}

theorem executeInsert_rows
    {stored : OfflineQueue} (h : executeInsert faults tenantId item queue = .ok stored) :
    stored.rows = queue.rows ++ [storedRow tenantId item] := by
  unfold executeInsert at h
  cases hf : faults.statement item with
  | some e => simp [hf] at h
  | none =>
    cases hq : queue.insert? (storedRow tenantId item) with
    | none => simp [hf, hq] at h
    | some q =>
      simp only [hf, hq, Except.ok.injEq] at h
      subst h
      exact Table.insert?_rows hq

variable {other : String}

theorem tenantRows_pushItemwise_other (faults : PushFaults)
    (hne : other ≠ tenantId) (items : List OfflineQueueItem) (queue : OfflineQueue) :
    tenantRows tenantId (pushItemwise faults other items queue).1 = tenantRows tenantId queue := by
  induction items generalizing queue with
  | nil => rfl
  | cons item rest ih =>
    cases he : executeInsert faults other item queue with
    | ok stored =>
      have hrows := executeInsert_rows he
      simp only [pushItemwise, he, ih]
      simp [tenantRows, hrows, storedRow, hne]
    | error e =>
      by_cases hu : containsUnique e = true <;> simp [pushItemwise, he, hu, ih]

theorem detectBatch_other (hne : other ≠ tenantId) (items : List OfflineQueueItem)
    (store : ConflictStore) (key : EntityKey) (hkey : key.tenantId = tenantId) :
    (detectBatch other items store).1.entities.find? key = store.entities.find? key := by
  induction items generalizing store with
  | nil => rfl
  | cons item rest ih =>
    unfold detectBatch
    cases hv : extractVector item.payload with
    | none => exact ih store
    | some vector =>
      have hfar : key ≠ ⟨other, item.action, entityIdOf item.payload item.id⟩ := by
        intro heq
        rw [heq] at hkey
        exact hne hkey
      cases hd : store.detectConflict ⟨other, item.action, entityIdOf item.payload item.id⟩
        vector item.payload with
      | none => simp only [hd]
      | some result =>
        obtain ⟨d, next⟩ := result
        simp only [hd]
        rw [ih next, ConflictStore.detectConflict_frame hd hfar]

theorem detectBatch_congr (tenantId : String) (items : List OfflineQueueItem)
    (s t : ConflictStore)
    (h : ∀ key : EntityKey, key.tenantId = tenantId → s.entities.find? key = t.entities.find? key) :
    (detectBatch tenantId items s).2 = (detectBatch tenantId items t).2 ∧
      ∀ key : EntityKey, key.tenantId = tenantId →
        (detectBatch tenantId items s).1.entities.find? key =
          (detectBatch tenantId items t).1.entities.find? key := by
  induction items generalizing s t with
  | nil => exact ⟨rfl, h⟩
  | cons item rest ih =>
    unfold detectBatch
    cases hv : extractVector item.payload with
    | none => exact ih s t h
    | some vector =>
      rcases ConflictStore.detectConflict_congr
        (h ⟨tenantId, item.action, entityIdOf item.payload item.id⟩ rfl) vector item.payload
        with ⟨hs, ht⟩ | ⟨d, s', t', hs, ht, hsame⟩
      · simp only [hs, ht]
        exact ⟨trivial, h⟩
      · simp only [hs, ht]
        apply ih s' t'
        intro key hkey
        by_cases hk : key = ⟨tenantId, item.action, entityIdOf item.payload item.id⟩
        · rw [hk]; exact hsame
        · rw [ConflictStore.detectConflict_frame hs hk, ConflictStore.detectConflict_frame ht hk]
          exact h key hkey

theorem insert?_tenantView {view : OfflineQueue} (hview : view.rows = tenantRows tenantId queue)
    (item : OfflineQueueItem) (hown : ∀ r ∈ queue.rows, r.id = item.id → r.tenantId = tenantId) :
    (queue.insert? (storedRow tenantId item)).isSome =
      (view.insert? (storedRow tenantId item)).isSome := by
  rw [Bool.eq_iff_iff, Table.insert?_isSome_iff, Table.insert?_isSome_iff,
    Table.find?_eq_none_iff, Table.find?_eq_none_iff, hview]
  constructor
  · intro h r hr
    exact h r ((mem_tenantRows tenantId queue r).mp hr).1
  · intro h r hr hid
    exact h r ((mem_tenantRows tenantId queue r).mpr ⟨hr, hown r hr hid⟩) hid

theorem executeInsert_tenantView (faults : PushFaults) {view : OfflineQueue}
    (hview : view.rows = tenantRows tenantId queue) (item : OfflineQueueItem)
    (hown : ∀ r ∈ queue.rows, r.id = item.id → r.tenantId = tenantId) :
    (∃ e, executeInsert faults tenantId item queue = .error e ∧
      executeInsert faults tenantId item view = .error e) ∨
    ∃ stored storedView, executeInsert faults tenantId item queue = .ok stored ∧
      executeInsert faults tenantId item view = .ok storedView ∧
      storedView.rows = tenantRows tenantId stored := by
  have hsame := insert?_tenantView hview item hown
  cases hf : faults.statement item with
  | some e => exact .inl ⟨e.message, by simp [executeInsert, hf], by simp [executeInsert, hf]⟩
  | none =>
    cases hq : queue.insert? (storedRow tenantId item) with
    | none =>
      cases hv : view.insert? (storedRow tenantId item) with
      | none =>
        exact .inl ⟨keyViolation, by simp [executeInsert, hf, hq], by simp [executeInsert, hf, hv]⟩
      | some storedView => simp [hq, hv] at hsame
    | some stored =>
      cases hv : view.insert? (storedRow tenantId item) with
      | none => simp [hq, hv] at hsame
      | some storedView =>
        refine .inr ⟨stored, storedView, by simp [executeInsert, hf, hq],
          by simp [executeInsert, hf, hv], ?_⟩
        rw [Table.insert?_rows hv, hview]
        simp [tenantRows, Table.insert?_rows hq, storedRow]

theorem own_after_insert
    {stored : OfflineQueue} (h : executeInsert faults tenantId item queue = .ok stored)
    {id : String} (hown : ∀ r ∈ queue.rows, r.id = id → r.tenantId = tenantId) :
    ∀ r ∈ stored.rows, r.id = id → r.tenantId = tenantId := by
  intro r hr hid
  rw [executeInsert_rows h, List.mem_append, List.mem_singleton] at hr
  rcases hr with hr | rfl
  · exact hown r hr hid
  · rfl

theorem pushItemwise_tenantView (faults : PushFaults) (items : List OfflineQueueItem)
    (queue view : OfflineQueue) (hview : view.rows = tenantRows tenantId queue)
    (hown : ∀ item ∈ items, ∀ r ∈ queue.rows, r.id = item.id → r.tenantId = tenantId) :
    (pushItemwise faults tenantId items queue).2 = (pushItemwise faults tenantId items view).2 ∧
      (pushItemwise faults tenantId items view).1.rows =
        tenantRows tenantId (pushItemwise faults tenantId items queue).1 := by
  induction items generalizing queue view with
  | nil => exact ⟨rfl, hview⟩
  | cons item rest ih =>
    have hitem := hown item List.mem_cons_self
    have hrest : ∀ i ∈ rest, ∀ r ∈ queue.rows, r.id = i.id → r.tenantId = tenantId := by
      intro i hi
      exact hown i (List.mem_cons_of_mem _ hi)
    rcases executeInsert_tenantView faults hview item hitem with
      ⟨e, hq, hv⟩ | ⟨stored, storedView, hq, hv, hview'⟩
    · obtain ⟨hout, hrows⟩ := ih queue view hview hrest
      by_cases hu : containsUnique e = true <;> simp [pushItemwise, hq, hv, hu, hout, hrows]
    · have hrest' : ∀ i ∈ rest, ∀ r ∈ stored.rows, r.id = i.id → r.tenantId = tenantId := by
        intro i hi
        exact own_after_insert hq (hrest i hi)
      obtain ⟨hout, hrows⟩ := ih stored storedView hview' hrest'
      simp [pushItemwise, hq, hv, hout, hrows]

theorem pushBatch_other (faults : PushFaults) (hne : other ≠ tenantId)
    (items : List OfflineQueueItem) (s t : SyncStore) (h : TenantView tenantId s t) :
    TenantView tenantId (s.pushBatch faults other items).1 t := by
  have hdetect : ∀ key : EntityKey, key.tenantId = tenantId →
      (detectBatch other items s.conflictStore).1.entities.find? key =
        t.conflictStore.entities.find? key := by
    intro key hkey
    rw [detectBatch_other hne items s.conflictStore key hkey]
    exact h.entities key hkey
  unfold SyncStore.pushBatch
  by_cases hnil : items = []
  · simpa [hnil] using h
  · rw [if_neg hnil]
    cases hd : detectBatch other items s.conflictStore with
    | mk conflictStore panicked =>
      rw [hd] at hdetect
      cases panicked with
      | true => exact ⟨h.rows, hdetect⟩
      | false =>
        rcases insertBatch_itemwise faults other items with ⟨e, he⟩ | hok
        · simp only [he s.queue]
          exact ⟨h.rows, hdetect⟩
        · simp only [hok s.queue]
          refine ⟨?_, hdetect⟩
          rw [h.rows]
          exact (tenantRows_pushItemwise_other _ hne items s.queue).symm

theorem pushBatch_tenantView (faults : PushFaults)
    (items : List OfflineQueueItem) (s t : SyncStore) (h : TenantView tenantId s t)
    (hown : ∀ item ∈ items, ∀ r ∈ s.queue.rows, r.id = item.id → r.tenantId = tenantId) :
    (s.pushBatch faults tenantId items).2 = (t.pushBatch faults tenantId items).2 ∧
      TenantView tenantId (s.pushBatch faults tenantId items).1
        (t.pushBatch faults tenantId items).1 := by
  have hdetect := detectBatch_congr tenantId items s.conflictStore t.conflictStore h.entities
  unfold SyncStore.pushBatch
  by_cases hnil : items = []
  · simpa [hnil] using h
  · rw [if_neg hnil, if_neg hnil]
    cases hds : detectBatch tenantId items s.conflictStore with
    | mk conflictStore panicked =>
      cases hdt : detectBatch tenantId items t.conflictStore with
      | mk conflictView panickedView =>
        rw [hds, hdt] at hdetect
        obtain ⟨hflag, hentities⟩ := hdetect
        simp only at hflag hentities
        subst hflag
        cases panicked with
        | true => exact ⟨rfl, h.rows, hentities⟩
        | false =>
          rcases insertBatch_itemwise faults tenantId items with ⟨e, he⟩ | hok
          · simp only [he s.queue, he t.queue]
            exact ⟨trivial, h.rows, hentities⟩
          · obtain ⟨hout, hrows⟩ :=
              pushItemwise_tenantView faults.effective items s.queue t.queue h.rows hown
            simp only [hok s.queue, hok t.queue]
            exact ⟨by rw [hout], hrows, hentities⟩

theorem ownIds_filter {v : PushValidation} {s : SyncStore} {claims : ApiTokenClaims}
    {items : List OfflineQueueItem} (htenant : claims.tenant = tenantId)
    (hown : OwnIds v tenantId s (.push claims faults items)) :
    ∀ item ∈ items.filter v.accepts, ∀ r ∈ s.queue.rows, r.id = item.id →
      r.tenantId = tenantId := by
  intro item hitem
  obtain ⟨hmem, haccepts⟩ := List.mem_filter.mp hitem
  exact hown htenant item hmem haccepts

theorem tenantRows_retain (tenantId : String) (queue view : OfflineQueue)
    (p : OfflineQueueItem → Bool) (h : view.rows = tenantRows tenantId queue) :
    (view.retain p).rows = tenantRows tenantId (queue.retain p) := by
  simp only [Table.retain, tenantRows, h, List.filter_filter]
  apply List.filter_congr
  intro r _
  exact Bool.and_comm _ _

theorem tenantView_unwinding (v : PushValidation) (tenantId : String) :
    (cloudServer v).Unwinding (concerns tenantId) (OwnIds v tenantId) (TenantView tenantId) where
  hidden := by
    intro s t e h hvisible _
    cases e with
    | prune cutoff => simp [concerns] at hvisible
    | push claims faults items =>
      have hne : claims.tenant ≠ tenantId := by simpa [concerns] using hvisible
      have hnext := pushBatch_other faults hne (items.filter v.accepts) s t h
      cases hp : s.pushBatch faults claims.tenant (items.filter v.accepts) with
      | mk next response =>
        rw [hp] at hnext
        cases response <;> simpa [cloudServer, pushHandler, hp] using hnext
  shown := by
    intro s t e h hvisible hown
    cases e with
    | prune cutoff =>
      exact ⟨rfl, tenantRows_retain tenantId s.queue t.queue _ h.rows, h.entities⟩
    | push claims faults items =>
      have htenant : claims.tenant = tenantId := by simpa [concerns] using hvisible
      have hfilter := ownIds_filter htenant hown
      obtain ⟨hout, hnext⟩ := pushBatch_tenantView faults (items.filter v.accepts) s t h hfilter
      rw [← htenant] at hout hnext
      cases hs : s.pushBatch faults claims.tenant (items.filter v.accepts) with
      | mk next response =>
        cases ht : t.pushBatch faults claims.tenant (items.filter v.accepts) with
        | mk nextView responseView =>
          rw [hs, ht] at hout hnext
          simp only at hout hnext
          subst hout
          rw [htenant] at hnext
          cases response <;> simpa [cloudServer, pushHandler, hs, ht] using hnext

theorem pushItemwise_keeps (faults : PushFaults) (tenantId : String)
    (items : List OfflineQueueItem) (queue : OfflineQueue) (r : OfflineQueueItem)
    (hr : r ∈ queue.rows) : r ∈ (pushItemwise faults tenantId items queue).1.rows := by
  induction items generalizing queue with
  | nil => exact hr
  | cons item rest ih =>
    cases he : executeInsert faults tenantId item queue with
    | ok stored =>
      have hstored : r ∈ stored.rows := by
        rw [executeInsert_rows he]
        exact List.mem_append_left _ hr
      simpa [pushItemwise, he] using ih stored hstored
    | error e =>
      have hrest := ih queue hr
      by_cases hu : containsUnique e = true <;> simpa [pushItemwise, he, hu] using hrest

theorem executeInsert_unique {e : String} (h : executeInsert faults tenantId item queue = .error e)
    (hu : containsUnique e = true) : ∃ r ∈ queue.rows, r.id = item.id := by
  unfold executeInsert at h
  cases hf : faults.statement item with
  | some fault =>
    simp only [hf, Except.error.injEq] at h
    rw [← h, fault.notUnique] at hu
    simp at hu
  | none =>
    cases hq : queue.insert? (storedRow tenantId item) with
    | some stored => simp [hf, hq] at h
    | none =>
      obtain ⟨r, hr⟩ := (Table.insert?_eq_none_iff queue _).mp hq
      obtain ⟨hmem, hid⟩ := (Table.find?_eq_some_iff queue _ r).mp hr
      exact ⟨r, hmem, hid⟩

theorem databaseError_not_duplicate (e : String) :
    isDuplicateIdRejection ("database error: " ++ e) = false := by
  simp [isDuplicateIdRejection, duplicateIdRejectionPrefix, String.toList_append]
  rfl

theorem pushItemwise_duplicates (faults : PushFaults)
    (items : List OfflineQueueItem) (queue : OfflineQueue)
    (hown : ∀ item ∈ items, ∀ r ∈ queue.rows, r.id = item.id → r.tenantId = tenantId) :
    ∀ answer ∈ items.zip (pushItemwise faults tenantId items queue).2, ∀ reason,
      answer.2 = .rejected reason → isDuplicateIdRejection reason = true →
        ∃ r ∈ (pushItemwise faults tenantId items queue).1.rows,
          r.id = answer.1.id ∧ r.tenantId = tenantId := by
  induction items generalizing queue with
  | nil => simp
  | cons item rest ih =>
    have hrest : ∀ i ∈ rest, ∀ r ∈ queue.rows, r.id = i.id → r.tenantId = tenantId := by
      intro i hi
      exact hown i (List.mem_cons_of_mem _ hi)
    intro answer hanswer reason hreason hdup
    cases he : executeInsert faults tenantId item queue with
    | ok stored =>
      have hrest' : ∀ i ∈ rest, ∀ r ∈ stored.rows, r.id = i.id → r.tenantId = tenantId := by
        intro i hi
        exact own_after_insert he (hrest i hi)
      simp only [pushItemwise, he, List.zip_cons_cons, List.mem_cons] at hanswer ⊢
      rcases hanswer with rfl | hanswer
      · simp at hreason
      · exact ih stored hrest' answer hanswer reason hreason hdup
    | error e =>
      by_cases hu : containsUnique e = true
      · simp only [pushItemwise, he, hu, if_true, List.zip_cons_cons, List.mem_cons] at hanswer ⊢
        rcases hanswer with rfl | hanswer
        · obtain ⟨r, hr, hid⟩ := executeInsert_unique he hu
          exact ⟨r, pushItemwise_keeps faults tenantId rest queue r hr, hid,
            hown item List.mem_cons_self r hr hid⟩
        · exact ih queue hrest answer hanswer reason hreason hdup
      · simp only [pushItemwise, he, hu, if_false, List.zip_cons_cons, List.mem_cons,
          Bool.false_eq_true] at hanswer ⊢
        rcases hanswer with rfl | hanswer
        · simp only [PushOutcome.rejected.injEq] at hreason
          rw [← hreason, databaseError_not_duplicate] at hdup
          simp at hdup
        · exact ih queue hrest answer hanswer reason hreason hdup

theorem mem_zip_reassemble (v : PushValidation) (items : List OfflineQueueItem)
    (batch : List PushOutcome) (answer : OfflineQueueItem × PushOutcome)
    (h : answer ∈ items.zip (reassemble v items batch)) (reason : String)
    (hreason : answer.2 = .rejected reason) (hdup : isDuplicateIdRejection reason = true) :
    answer ∈ (items.filter v.accepts).zip batch := by
  induction items generalizing batch with
  | nil => simp at h
  | cons item rest ih =>
    by_cases ha : v.accepts item = true
    · cases batch with
      | nil =>
        simp only [reassemble, ha, if_true, List.zip_cons_cons, List.mem_cons] at h
        rcases h with rfl | h
        · simp only [PushOutcome.rejected.injEq] at hreason
          rw [← hreason] at hdup
          simp [isDuplicateIdRejection, duplicateIdRejectionPrefix, String.toList_append] at hdup
        · simpa using ih [] h
      | cons outcome others =>
        simp only [reassemble, ha, if_true, List.zip_cons_cons, List.mem_cons] at h
        rw [List.filter_cons_of_pos ha, List.zip_cons_cons, List.mem_cons]
        rcases h with h | h
        · exact .inl h
        · exact .inr (ih others h)
    · rw [List.filter_cons_of_neg ha]
      simp only [reassemble, ha, Bool.false_eq_true, if_false, List.zip_cons_cons,
        List.mem_cons] at h
      rcases h with rfl | h
      · simp only [PushOutcome.rejected.injEq] at hreason
        rw [← hreason] at hdup
        simp [isDuplicateIdRejection, duplicateIdRejectionPrefix, String.toList_append] at hdup
      · exact ih batch h

theorem duplicatesStored_push (v : PushValidation) (tenantId : String) (s : SyncStore)
    (e : ServerEvent) (hown : OwnIds v tenantId s e) : DuplicatesStored v tenantId s e := by
  cases e with
  | prune cutoff => trivial
  | push claims faults items =>
    intro htenant outcomes hok answer hanswer reason hreason hdup
    have hfilter := ownIds_filter htenant hown
    subst htenant
    cases hp : s.pushBatch faults claims.tenant (items.filter v.accepts) with
    | mk next response =>
      cases response with
      | error e => simp [pushHandler, hp] at hok
      | ok batch =>
        simp only [pushHandler, hp, Except.ok.injEq] at hok ⊢
        have hstored := pushBatch_ok hp
        rw [← hok] at hanswer
        have hmem := mem_zip_reassemble v items batch answer hanswer reason hreason hdup
        have hdups := pushItemwise_duplicates faults.effective (items.filter v.accepts) s.queue
          hfilter
        rw [← hstored] at hdups
        obtain ⟨r, hr, hid, hrt⟩ := hdups answer hmem reason hreason hdup
        exact ⟨r, (mem_tenantRows claims.tenant _ r).mpr ⟨hr, hrt⟩, hid⟩

def tenantView (tenantId : String) (s : SyncStore) : SyncStore :=
  { s with queue := s.queue.retain (fun r => r.tenantId = tenantId) }

/-- Pushes of other tenants change nothing a tenant is answered or has stored, and its
duplicates are its own, as long as the ids it pushes are stored under no other tenant. -/
theorem push_tenant_noninterference (v : PushValidation) (tenantId : String) (s : SyncStore)
    (l r : List ServerEvent) (hsame : l.filter (concerns tenantId) = r.filter (concerns tenantId))
    (hl : (cloudServer v).Along (OwnIds v tenantId) s l)
    (hr : (cloudServer v).Along (OwnIds v tenantId) s r) :
    (cloudServer v).outputs (concerns tenantId) s l =
        (cloudServer v).outputs (concerns tenantId) s r ∧
      tenantRows tenantId ((cloudServer v).run s l).queue =
        tenantRows tenantId ((cloudServer v).run s r).queue ∧
      (cloudServer v).Along (DuplicatesStored v tenantId) s l := by
  have hview : TenantView tenantId s (tenantView tenantId s) := ⟨rfl, fun _ _ => rfl⟩
  obtain ⟨houts, u, hul, hur⟩ :=
    (tenantView_unwinding v tenantId).two_runs s (tenantView tenantId s) l r hview hsame hl hr
  refine ⟨houts, ?_, ?_⟩
  · rw [← hul.rows, hur.rows]
  · exact (cloudServer v).along_mono (duplicatesStored_push v tenantId) s l hl

def everyId : PushValidation := ⟨fun _ => true, false⟩

def currencyUpdate (id code : String) : OfflineQueueItem :=
  queued id "settings.update" (.obj [("key", .str "currency"), ("value", .str code)])
    "2026-01-01T08:00:00.000Z" none

def pushOf (tenantId id code : String) : ServerEvent :=
  .push ⟨some tenantId, none⟩ PushFaults.none [currencyUpdate id code]

theorem push_tenant_noninterference_distinct_ids :
    (cloudServer everyId).outputs (concerns "b") SyncStore.empty
        [pushOf "a" (uuidOf "1") "IDR", pushOf "b" (uuidOf "2") "USD"] =
        (cloudServer everyId).outputs (concerns "b") SyncStore.empty
          [pushOf "b" (uuidOf "2") "USD"] ∧
      tenantRows "b" ((cloudServer everyId).run SyncStore.empty
          [pushOf "a" (uuidOf "1") "IDR", pushOf "b" (uuidOf "2") "USD"]).queue =
        tenantRows "b" ((cloudServer everyId).run SyncStore.empty
          [pushOf "b" (uuidOf "2") "USD"]).queue ∧
      (cloudServer everyId).Along (DuplicatesStored everyId "b") SyncStore.empty
        [pushOf "a" (uuidOf "1") "IDR", pushOf "b" (uuidOf "2") "USD"] :=
  push_tenant_noninterference everyId "b" SyncStore.empty _ _ rfl (by decide) (by decide)

/-- The id is the primary key of the shared table: once another tenant has stored it, the
push is answered as a replay and nothing is kept for the tenant. -/
theorem foreign_id_answered_duplicate :
    [pushOf "a" (uuidOf "1") "IDR", pushOf "b" (uuidOf "1") "USD"].filter (concerns "b") =
        [pushOf "b" (uuidOf "1") "USD"].filter (concerns "b") ∧
      (cloudServer everyId).outputs (concerns "b") SyncStore.empty
        [pushOf "b" (uuidOf "1") "USD"] = [some (.ok [.accepted])] ∧
      (cloudServer everyId).outputs (concerns "b") SyncStore.empty
        [pushOf "a" (uuidOf "1") "IDR", pushOf "b" (uuidOf "1") "USD"] =
        [some (.ok [.rejected (duplicateIdReason (uuidOf "1"))])] ∧
      tenantRows "b" ((cloudServer everyId).run SyncStore.empty
        [pushOf "a" (uuidOf "1") "IDR", pushOf "b" (uuidOf "1") "USD"]).queue = [] := by
  refine ⟨rfl, ?_, ?_, ?_⟩ <;> decide

end OzPos
