import OzPos.Client.Queue
import OzPos.Library.Outcome

namespace OzPos

structure SettingsIntent where
  (tenantId terminalId key : String)
  deriving DecidableEq

/-- A call of `enqueue_settings_update_superseding`. -/
structure SettingsEnqueue where
  settings : QueueSettings
  draw : Draw
  intent : SettingsIntent
  value : String

/-- `v[name].as_str()` of the decoded payload. -/
def Payload.textAt? (payload : Payload) (name : String) : Option String :=
  (payload.value?.bind (Json.get? name)).bind Json.asStr?

namespace SettingsEnqueue

variable (call : SettingsEnqueue)

def payload : Payload :=
  .json (.obj [("key", .str call.intent.key), ("terminal_id", .str call.intent.terminalId),
    ("value", .str call.value)])

def fresh : OfflineQueueItem :=
  newQueueItem call.settings call.draw "settings.update" call.payload call.intent.tenantId .low

/-- `list_pending_offline_for_tenant`; its order does not matter to the deletions. -/
def pending (call : SettingsEnqueue) (queue : OfflineQueue) : List OfflineQueueItem :=
  queue.rows.filter (fun item =>
    item.status = .pending && item.tenantId = call.intent.tenantId)

/-- The test of the loop: another settings update for the same key and terminal. -/
def supersedes (item : OfflineQueueItem) : Bool :=
  !(item.id = call.fresh.id || item.action ≠ "settings.update") &&
    (item.payload.textAt? "key" = some call.intent.key &&
      item.payload.textAt? "terminal_id" = some call.intent.terminalId)

/-- `DELETE FROM offline_queue WHERE id = ? AND tenant_id = ?`. -/
def deleteItem (id tenantId : String) (queue : OfflineQueue) : OfflineQueue :=
  queue.retain (fun row => !(row.id = id && row.tenantId = tenantId))

def enqueueSettingsUpdateSuperseding (queue : OfflineQueue) : Except CoreError OfflineQueue :=
  (enqueueOfflineInner call.settings call.draw "settings.update" call.payload
    call.intent.tenantId .low queue).map (fun queue =>
      (call.pending queue).foldl (fun queue item =>
        if call.supersedes item then deleteItem item.id call.intent.tenantId queue else queue)
        queue)

def enqueueAll (queue : OfflineQueue) : List SettingsEnqueue → OfflineQueue
  | [] => queue
  | call :: rest => enqueueAll (answered queue (call.enqueueSettingsUpdateSuperseding queue)).1 rest

def acceptedOf (queue : OfflineQueue) : List SettingsEnqueue → List SettingsEnqueue
  | [] => []
  | call :: rest =>
    match call.enqueueSettingsUpdateSuperseding queue with
    | .error _ => acceptedOf queue rest
    | .ok next => call :: acceptedOf next rest

end SettingsEnqueue

def OfflineQueueItem.intent? (row : OfflineQueueItem) : Option SettingsIntent :=
  if row.status = .pending ∧ row.action = "settings.update" then
    (row.payload.textAt? "key").bind (fun key =>
      (row.payload.textAt? "terminal_id").map (fun terminalId => ⟨row.tenantId, terminalId, key⟩))
  else none

/-- Of each enqueued intent exactly the row of its last accepted call is pending, and the rows
that mean nothing of the kind are as they were. -/
structure NewestIntents (calls : List SettingsEnqueue) (before after : OfflineQueue) : Prop where
  newest : ∀ intent call, calls.reverse.find? (fun call => call.intent = intent) = some call →
    after.rows.filter (fun row => row.intent? = some intent) = [call.fresh]
  others : after.rows.filter (fun row => calls.all (fun call => row.intent? ≠ some call.intent)) =
    before.rows.filter (fun row => calls.all (fun call => row.intent? ≠ some call.intent))

namespace SettingsEnqueue

variable {call : SettingsEnqueue} {queue next : OfflineQueue}

theorem intent_iff (intent : SettingsIntent) (row : OfflineQueueItem) :
    row.intent? = some intent ↔ row.status = .pending ∧ row.action = "settings.update" ∧
      row.tenantId = intent.tenantId ∧ row.payload.textAt? "key" = some intent.key ∧
      row.payload.textAt? "terminal_id" = some intent.terminalId := by
  obtain ⟨tenantId, terminalId, key⟩ := intent
  unfold OfflineQueueItem.intent?
  by_cases hkind : row.status = .pending ∧ row.action = "settings.update"
  · rw [if_pos hkind]
    simp only [Option.bind_eq_some_iff, Option.map_eq_some_iff, SettingsIntent.mk.injEq, hkind,
      true_and]
    constructor
    · intro h
      obtain ⟨k, hk, t, ht, htenant, rfl, rfl⟩ := h
      exact ⟨htenant, hk, ht⟩
    · intro h
      exact ⟨key, h.2.1, terminalId, h.2.2, h.1, rfl, rfl⟩
  · rw [if_neg hkind]
    exact iff_of_false (by simp) (fun h => hkind ⟨h.1, h.2.1⟩)

theorem payload_textAt (call : SettingsEnqueue) :
    call.payload.textAt? "key" = some call.intent.key ∧
      call.payload.textAt? "terminal_id" = some call.intent.terminalId := by
  simp [payload, Payload.textAt?, Payload.value?, Json.value, Json.get?, Json.lookup_memberValues,
    Json.lookup, Json.asStr?]

theorem intent_fresh (call : SettingsEnqueue) : call.fresh.intent? = some call.intent :=
  (intent_iff call.intent call.fresh).mpr
    ⟨rfl, rfl, rfl, (payload_textAt call).1, (payload_textAt call).2⟩

theorem rows_deleted (tenantId : String) (test : OfflineQueueItem → Bool)
    (items : List OfflineQueueItem) (queue : OfflineQueue) :
    (items.foldl (fun queue item =>
      if test item then deleteItem item.id tenantId queue else queue) queue).rows =
      queue.rows.filter (fun row =>
        !(row.tenantId = tenantId && items.any (fun item => test item && row.id = item.id))) := by
  induction items generalizing queue with
  | nil => simp
  | cons item rest ih =>
    rw [List.foldl_cons, ih]
    by_cases htest : test item = true
    · rw [if_pos htest]
      simp only [deleteItem, Table.retain, List.filter_filter, List.any_cons, htest, Bool.true_and]
      congr 1
      funext row
      cases decide (row.tenantId = tenantId) <;> cases decide (row.id = item.id) <;> simp
    · simp [htest]

variable (call) in
theorem deleted_iff {row : OfflineQueueItem} (hrow : row ∈ queue.rows) :
    (row.tenantId = call.intent.tenantId ∧
      ∃ item ∈ call.pending queue, call.supersedes item = true ∧ row.id = item.id) ↔
      row.intent? = some call.intent ∧ row.id ≠ call.fresh.id := by
  rw [intent_iff]
  constructor
  · intro h
    obtain ⟨htenant, item, hitem, htest, hid⟩ := h
    obtain ⟨hitem, hpending⟩ := List.mem_filter.mp hitem
    have hsame : item = row := by
      have hfound := (Table.mem_rows_iff queue item).mp hitem
      rw [← hid, (Table.mem_rows_iff queue row).mp hrow] at hfound
      exact (Option.some.inj hfound).symm
    subst hsame
    simp only [supersedes, Bool.and_eq_true, Bool.not_eq_true', Bool.or_eq_false_iff,
      decide_eq_false_iff_not, decide_eq_true_eq, not_not] at htest hpending
    exact ⟨⟨hpending.1, htest.1.2, htenant, htest.2⟩, htest.1.1⟩
  · intro h
    obtain ⟨⟨hpending, haction, htenant, hkey, hterminal⟩, hid⟩ := h
    refine ⟨htenant, row, List.mem_filter.mpr ⟨hrow, by simp [hpending, htenant]⟩, ?_, rfl⟩
    simp [supersedes, hid, haction, hkey, hterminal]

theorem rows_stored {stored : OfflineQueue}
    (h : enqueueOfflineInner call.settings call.draw "settings.update" call.payload
      call.intent.tenantId .low queue = .ok stored) :
    stored.rows = queue.rows ++ [call.fresh] ∧ ∀ row ∈ queue.rows, row.id ≠ call.fresh.id := by
  unfold enqueueOfflineInner at h
  cases hgate : call.settings.posWritable with
  | error e => simp [hgate] at h
  | ok u =>
    simp only [hgate] at h
    cases hinsert : queue.insert? call.fresh with
    | none =>
      unfold fresh at hinsert
      simp [hinsert] at h
    | some later =>
      have hnew := (Table.insert?_isSome_iff queue call.fresh).mp (by rw [hinsert]; rfl)
      unfold fresh at hinsert
      simp only [hinsert, Except.ok.injEq] at h
      subst h
      exact ⟨Table.insert?_rows hinsert, (Table.find?_eq_none_iff queue _).mp hnew⟩

theorem rows_of_accepted (h : call.enqueueSettingsUpdateSuperseding queue = .ok next) :
    next.rows = queue.rows.filter (fun row => row.intent? ≠ some call.intent) ++ [call.fresh] := by
  obtain ⟨stored, hstored, rfl⟩ := Except.of_map h
  obtain ⟨hrows, hnew⟩ := rows_stored hstored
  have hkept : ∀ row ∈ stored.rows, (!(row.tenantId = call.intent.tenantId &&
      (call.pending stored).any (fun item => call.supersedes item && row.id = item.id))) =
        decide (row.intent? = some call.intent → row.id = call.fresh.id) := by
    intro row hrow
    have hdeleted : (row.tenantId = call.intent.tenantId && (call.pending stored).any
        (fun item => call.supersedes item && row.id = item.id)) = true ↔
          row.intent? = some call.intent ∧ row.id ≠ call.fresh.id := by
      simpa using deleted_iff call hrow
    rw [Bool.eq_iff_iff, Bool.not_eq_true', ← Bool.not_eq_true, hdeleted, decide_eq_true_eq]
    exact not_and_not_right
  rw [rows_deleted, List.filter_congr hkept, hrows, List.filter_append]
  congr 1
  · apply List.filter_congr
    intro row hrow
    simp [hnew row hrow]
  · simp

end SettingsEnqueue

theorem filter_others {calls : List SettingsEnqueue} {intent : SettingsIntent}
    (hnone : ∀ call ∈ calls, call.intent ≠ intent) (rows : List OfflineQueueItem) :
    (rows.filter (fun row => calls.all (fun call => row.intent? ≠ some call.intent))).filter
        (fun row => row.intent? = some intent) =
      rows.filter (fun row => row.intent? = some intent) := by
  rw [List.filter_filter]
  apply List.filter_congr
  intro row _
  by_cases hrow : row.intent? = some intent
  · simp only [hrow, decide_true, Bool.true_and, List.all_eq_true, decide_eq_true_eq, ne_eq,
      Option.some.injEq]
    exact fun call hcall h => hnone call hcall h.symm
  · simp [hrow]

open SettingsEnqueue in
theorem settings_updates_superseded (queue : OfflineQueue) (calls : List SettingsEnqueue) :
    NewestIntents (acceptedOf queue calls) queue (enqueueAll queue calls) := by
  induction calls generalizing queue with
  | nil => exact ⟨by simp [acceptedOf], by simp [acceptedOf, enqueueAll]⟩
  | cons call rest ih =>
    cases hcall : call.enqueueSettingsUpdateSuperseding queue with
    | error e =>
      simp only [acceptedOf, enqueueAll, hcall, answered]
      exact ih queue
    | ok next =>
      simp only [acceptedOf, enqueueAll, hcall, answered]
      obtain ⟨hnewest, hothers⟩ := ih next
      have hrows := rows_of_accepted hcall
      refine ⟨?_, ?_⟩
      · intro intent last hlast
        rw [List.reverse_cons, List.find?_append] at hlast
        cases hlater : (acceptedOf next rest).reverse.find? (fun c => c.intent = intent) with
        | some later =>
          rw [hlater] at hlast
          cases hlast
          exact hnewest intent last hlater
        | none =>
          rw [hlater, Option.none_or, List.find?_singleton] at hlast
          split at hlast
          · rename_i hintent
            cases hlast
            have hnone : ∀ c ∈ acceptedOf next rest, c.intent ≠ intent := by
              intro c hc heq
              have hno := List.find?_eq_none.mp hlater c (List.mem_reverse.mpr hc)
              exact hno (by simp [heq])
            rw [← filter_others hnone, hothers, filter_others hnone, hrows]
            simp only [decide_eq_true_eq] at hintent
            subst hintent
            rw [List.filter_append, List.filter_filter]
            simp [intent_fresh]
          · cases hlast
      · have hown : next.rows.filter (fun row => row.intent? ≠ some call.intent) =
            queue.rows.filter (fun row => row.intent? ≠ some call.intent) := by
          simp [hrows, List.filter_append, List.filter_filter, intent_fresh]
        simp only [List.all_cons, ← List.filter_filter, hothers]
        rw [List.filter_comm, hown, List.filter_comm]

end OzPos
