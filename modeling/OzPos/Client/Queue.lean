import OzPos.Client.Tables
import OzPos.Server.SyncStore
import OzPos.Library.Run

namespace OzPos

/-- What a queue write reads beside the queue: the licence gate and the paired terminal. -/
structure QueueSettings where
  posWritable : Except CoreError Unit
  syncTerminalId : Option String

/-- The clock and the fresh ids drawn while one item is settled. -/
structure Draw where
  (now rowId winnerId : String)

variable (settings : QueueSettings) (draw : Draw) (action : String) (payload : Payload)

/-- `OfflineQueueItem::with_tenant`, stamped by `enqueue_offline_inner`. -/
def newQueueItem (tenantId : String) (priority : SyncPriority) : OfflineQueueItem :=
  { id := draw.rowId, action, payload, status := .pending, retryCount := 0, lastError := none,
    tenantId, createdAt := draw.now, syncedAt := none, priority,
    originTerminalId := settings.syncTerminalId }

def enqueueOfflineInner (tenantId : String) (priority : SyncPriority) (queue : OfflineQueue) :
    Except CoreError OfflineQueue :=
  match settings.posWritable with
  | .error e => .error e
  | .ok () =>
    match queue.insert? (newQueueItem settings draw action payload tenantId priority) with
    | some queue' => .ok queue'
    | none => .error (.db keyViolation)

def enqueueOffline (queue : OfflineQueue) : Except CoreError OfflineQueue :=
  enqueueOfflineInner settings draw action payload "default" .normal queue

def OfflineQueueItem.markSynced (now : String) (row : OfflineQueueItem) : OfflineQueueItem :=
  { row with status := .synced, syncedAt := some now }

def OfflineQueueItem.markResolved (now marker : String) (row : OfflineQueueItem) :
    OfflineQueueItem :=
  { row with status := .synced, syncedAt := some now, lastError := some marker }

def OfflineQueueItem.markFailed (error : String) (row : OfflineQueueItem) : OfflineQueueItem :=
  { row with status := .failed, lastError := some error, retryCount := row.retryCount + 1 }

@[simp] theorem markSynced_id (now : String) (row : OfflineQueueItem) :
    (row.markSynced now).id = row.id := rfl

@[simp] theorem markResolved_id (now marker : String) (row : OfflineQueueItem) :
    (row.markResolved now marker).id = row.id := rfl

@[simp] theorem markFailed_id (error : String) (row : OfflineQueueItem) :
    (row.markFailed error).id = row.id := rfl

/-- `mark_synced_on`: a compare-and-set on `pending`; the row in another state is left alone. -/
def markOfflineSynced (now id : String) (queue : OfflineQueue) : Except CoreError OfflineQueue :=
  match queue.find? id with
  | none => .error (.notFound "offline_queue" id)
  | some row =>
    if row.status = .pending then .ok (queue.update id (.markSynced now) (markSynced_id now))
    else .ok queue

def resolvedMarker (resolution : String) : String := "resolved: conflict (" ++ resolution ++ ")"

def markOfflineResolved (now id resolution : String) (queue : OfflineQueue) :
    Except CoreError OfflineQueue :=
  match queue.find? id with
  | none => .error (.notFound "offline_queue" id)
  | some _ =>
    .ok (queue.update id (.markResolved now (resolvedMarker resolution)) (markResolved_id _ _))

def markOfflineFailed (id error : String) (queue : OfflineQueue) : OfflineQueue :=
  queue.update id (.markFailed error) (markFailed_id error)

/-- `mark_offline_synced_for_tenant`: a row of another tenant is a missing one. -/
def markOfflineSyncedForTenant (now id tenantId : String) (queue : OfflineQueue) :
    Except CoreError OfflineQueue :=
  match queue.find? id with
  | none => .error (.notFound "offline_queue" id)
  | some row =>
    if row.tenantId = tenantId then .ok (queue.update id (.markSynced now) (markSynced_id now))
    else .error (.notFound "offline_queue" id)

/-- `mark_offline_failed_for_tenant`: a row of another tenant is left alone. -/
def markOfflineFailedForTenant (id tenantId error : String) (queue : OfflineQueue) : OfflineQueue :=
  match queue.find? id with
  | none => queue
  | some row => if row.tenantId = tenantId then markOfflineFailed id error queue else queue

variable {queue : OfflineQueue} {id : String} {row : OfflineQueueItem}

theorem markOfflineSynced_pending {now : String} (hrow : queue.find? id = some row)
    (hp : row.status = .pending) :
    markOfflineSynced now id queue = .ok (queue.update id (.markSynced now) (markSynced_id now)) := by
  simp [markOfflineSynced, hrow, hp]

theorem markOfflineResolved_found {now resolution : String} (hrow : queue.find? id = some row) :
    markOfflineResolved now id resolution queue =
      .ok (queue.update id (.markResolved now (resolvedMarker resolution))
        (markResolved_id _ _)) := by
  simp [markOfflineResolved, hrow]

theorem enqueueOffline_ok_iff {settings : QueueSettings} {draw : Draw} {action : String}
    {payload : Payload} {queue' : OfflineQueue} :
    enqueueOffline settings draw action payload queue = .ok queue' ↔
      settings.posWritable = .ok () ∧
        queue.insert? (newQueueItem settings draw action payload "default" .normal) =
          some queue' := by
  unfold enqueueOffline enqueueOfflineInner
  cases hw : settings.posWritable with
  | error e => simp
  | ok u =>
    cases hq : queue.insert? (newQueueItem settings draw action payload "default" .normal) with
    | none => simp
    | some q => simp

/-- The writes of the queue that daemon, manual sync and shop make. -/
inductive QueueEvent where
  | enqueue (settings : QueueSettings) (draw : Draw) (action : String) (payload : Payload)
    (tenantId : String) (priority : SyncPriority)
  | synced (now id : String)
  | syncedForTenant (now id tenantId : String)
  | resolved (now id resolution : String)
  | failed (id error : String)
  | failedForTenant (id tenantId error : String)

def answered (queue : OfflineQueue) (result : Except CoreError OfflineQueue) :
    OfflineQueue × Except CoreError Unit :=
  match result with
  | .ok queue' => (queue', .ok ())
  | .error e => (queue, .error e)

def queueMachine : Machine OfflineQueue QueueEvent (Except CoreError Unit) where
  step queue
    | .enqueue settings draw action payload tenantId priority =>
      answered queue (enqueueOfflineInner settings draw action payload tenantId priority queue)
    | .synced now id => answered queue (markOfflineSynced now id queue)
    | .syncedForTenant now id tenantId =>
      answered queue (markOfflineSyncedForTenant now id tenantId queue)
    | .resolved now id resolution => answered queue (markOfflineResolved now id resolution queue)
    | .failed id error => (markOfflineFailed id error queue, .ok ())
    | .failedForTenant id tenantId error =>
      (markOfflineFailedForTenant id tenantId error queue, .ok ())

def statusOf (queue : OfflineQueue) (id : String) : Option OfflineQueueStatus :=
  (queue.find? id).map OfflineQueueItem.status

def overwrites (queue : OfflineQueue) : QueueEvent → Bool
  | .enqueue _ _ _ _ _ _ | .synced _ _ => false
  | .syncedForTenant _ id tenantId =>
    (queue.find? id).any (fun row => row.tenantId = tenantId && row.status = .failed)
  | .resolved _ id _ => (queue.find? id).any (fun row => row.status = .failed)
  | .failed id _ => (queue.find? id).any (fun row => row.status = .synced)
  | .failedForTenant id tenantId _ =>
    (queue.find? id).any (fun row => row.tenantId = tenantId && row.status = .synced)

/-- A step leaves every settled row settled as it is. -/
def KeepsSettled (queue : OfflineQueue) (event : QueueEvent) : Prop :=
  ∀ id status, statusOf queue id = some status → status ≠ .pending →
    statusOf (queueMachine.step queue event).1 id = some status

theorem statusOf_update (queue : OfflineQueue) (id : String)
    (f : OfflineQueueItem → OfflineQueueItem) (hf : ∀ r, (f r).id = r.id) (other : String) :
    statusOf (queue.update id f hf) other =
      if other = id then (queue.find? id).map (fun row => (f row).status) else statusOf queue other := by
  unfold statusOf
  rw [Table.find?_update, Option.map_map]
  by_cases h : other = id
  · subst h
    simp [Function.comp_def]
  · simp [h, Function.comp_def]

theorem update_keeps_iff {f : OfflineQueueItem → OfflineQueueItem} (hf : ∀ r, (f r).id = r.id)
    {target : OfflineQueueStatus} (htarget : ∀ r, (f r).status = target)
    (hrow : queue.find? id = some row) :
    (∀ other status, statusOf queue other = some status → status ≠ .pending →
        statusOf (queue.update id f hf) other = some status) ↔
      row.status = .pending ∨ row.status = target := by
  have hstatus : statusOf queue id = some row.status := by rw [statusOf, hrow]; rfl
  constructor
  · intro h
    by_cases hpending : row.status = .pending
    · exact .inl hpending
    · have hkept := h id row.status hstatus hpending
      rw [statusOf_update, if_pos rfl, hrow, Option.map_some, htarget, Option.some.injEq] at hkept
      exact .inr hkept.symm
  · intro h other status hother hsettled
    rw [statusOf_update]
    by_cases hid : other = id
    · subst hid
      rw [hstatus, Option.some.injEq] at hother
      subst hother
      rw [if_pos rfl, hrow, Option.map_some, htarget, h.resolve_left hsettled]
    · rw [if_neg hid]
      exact hother

theorem keepsSettled_of_unchanged {event : QueueEvent}
    (h : (queueMachine.step queue event).1 = queue) : KeepsSettled queue event := by
  intro id status hstatus _
  rw [h]
  exact hstatus

variable (status : OfflineQueueStatus)

theorem status_cases_synced : (status = .pending ∨ status = .synced) ↔ status ≠ .failed := by
  cases status <;> simp

theorem status_cases_failed : (status = .pending ∨ status = .failed) ↔ status ≠ .synced := by
  cases status <;> simp

theorem enqueue_keeps (queue : OfflineQueue) (settings : QueueSettings) (draw : Draw)
    (action : String) (payload : Payload) (tenantId : String) (priority : SyncPriority) :
    KeepsSettled queue (.enqueue settings draw action payload tenantId priority) := by
  cases hresult : enqueueOfflineInner settings draw action payload tenantId priority queue with
  | error e =>
    apply keepsSettled_of_unchanged
    simp [queueMachine, answered, hresult]
  | ok queue' =>
    unfold enqueueOfflineInner at hresult
    cases hgate : settings.posWritable with
    | error e => simp [hgate] at hresult
    | ok u =>
      simp only [hgate] at hresult
      cases hinsert : queue.insert? (newQueueItem settings draw action payload tenantId priority) with
      | none => simp [hinsert] at hresult
      | some stored =>
        intro id status hstatus _
        have hstep : (queueMachine.step queue
            (.enqueue settings draw action payload tenantId priority)).1 = stored := by
          simp [queueMachine, answered, enqueueOfflineInner, hgate, hinsert]
        have hfree : queue.find? draw.rowId = none := by
          have hnew := Table.insert?_isSome_iff queue
            (newQueueItem settings draw action payload tenantId priority)
          rw [hinsert] at hnew
          exact hnew.mp rfl
        have hid : (newQueueItem settings draw action payload tenantId priority).id ≠ id := by
          intro heq
          rw [statusOf, ← heq] at hstatus
          change (queue.find? draw.rowId).map OfflineQueueItem.status = some status at hstatus
          rw [hfree] at hstatus
          cases hstatus
        have hfind := Table.find?_insert? hinsert id
        rw [if_neg hid] at hfind
        rw [hstep, statusOf, hfind]
        exact hstatus

theorem keepsSettled_iff (queue : OfflineQueue) (event : QueueEvent) :
    KeepsSettled queue event ↔ overwrites queue event = false := by
  cases event with
  | enqueue settings draw action payload tenantId priority =>
    exact iff_of_true (enqueue_keeps queue settings draw action payload tenantId priority) rfl
  | synced now id =>
    refine iff_of_true ?_ rfl
    cases hrow : queue.find? id with
    | none =>
      apply keepsSettled_of_unchanged
      simp [queueMachine, answered, markOfflineSynced, hrow]
    | some row =>
      by_cases hpending : row.status = .pending
      · have hkeeps := (update_keeps_iff (markSynced_id now) (fun _ => rfl) hrow).mpr
          (.inl hpending)
        simpa [KeepsSettled, queueMachine, answered, markOfflineSynced, hrow, hpending] using hkeeps
      · apply keepsSettled_of_unchanged
        simp [queueMachine, answered, markOfflineSynced, hrow, hpending]
  | syncedForTenant now id tenantId =>
    cases hrow : queue.find? id with
    | none =>
      refine iff_of_true (keepsSettled_of_unchanged ?_) (by simp [overwrites, hrow])
      simp [queueMachine, answered, markOfflineSyncedForTenant, hrow]
    | some row =>
      by_cases htenant : row.tenantId = tenantId
      · have hkeeps := update_keeps_iff (markSynced_id now) (fun _ => rfl) hrow
        rw [status_cases_synced] at hkeeps
        simpa [KeepsSettled, queueMachine, answered, markOfflineSyncedForTenant, overwrites, hrow,
          htenant] using hkeeps
      · refine iff_of_true (keepsSettled_of_unchanged ?_) (by simp [overwrites, hrow, htenant])
        simp [queueMachine, answered, markOfflineSyncedForTenant, hrow, htenant]
  | resolved now id resolution =>
    cases hrow : queue.find? id with
    | none =>
      refine iff_of_true (keepsSettled_of_unchanged ?_) (by simp [overwrites, hrow])
      simp [queueMachine, answered, markOfflineResolved, hrow]
    | some row =>
      have hkeeps := update_keeps_iff (markResolved_id now (resolvedMarker resolution))
        (fun _ => rfl) hrow
      rw [status_cases_synced] at hkeeps
      simpa [KeepsSettled, queueMachine, answered, markOfflineResolved, overwrites, hrow] using hkeeps
  | failed id error =>
    cases hrow : queue.find? id with
    | none =>
      refine iff_of_true ?_ (by simp [overwrites, hrow])
      intro other status hother _
      have hne : other ≠ id := by
        intro heq
        rw [statusOf, heq, hrow] at hother
        cases hother
      change statusOf (queue.update id (.markFailed error) (markFailed_id error)) other = _
      rw [statusOf_update, if_neg hne]
      exact hother
    | some row =>
      have hkeeps := update_keeps_iff (markFailed_id error) (fun _ => rfl) hrow
      rw [status_cases_failed] at hkeeps
      simpa [KeepsSettled, queueMachine, markOfflineFailed, overwrites, hrow] using hkeeps
  | failedForTenant id tenantId error =>
    cases hrow : queue.find? id with
    | none =>
      refine iff_of_true (keepsSettled_of_unchanged ?_) (by simp [overwrites, hrow])
      simp [queueMachine, markOfflineFailedForTenant, hrow]
    | some row =>
      by_cases htenant : row.tenantId = tenantId
      · have hkeeps := update_keeps_iff (markFailed_id error) (fun _ => rfl) hrow
        rw [status_cases_failed] at hkeeps
        simpa [KeepsSettled, queueMachine, markOfflineFailedForTenant, markOfflineFailed,
          overwrites, hrow, htenant] using hkeeps
      · refine iff_of_true (keepsSettled_of_unchanged ?_) (by simp [overwrites, hrow, htenant])
        simp [queueMachine, markOfflineFailedForTenant, hrow, htenant]

variable (start : OfflineQueue) (events : List QueueEvent)

/-- Whatever is synced or failed at some point of the run is so at every later point. -/
def SettledForGood : Prop :=
  ∀ l m r, events = l ++ m ++ r → ∀ id status,
    statusOf (queueMachine.run start l) id = some status → status ≠ .pending →
      statusOf (queueMachine.run start (l ++ m)) id = some status

theorem statusOf_run {events : List QueueEvent} (h : queueMachine.Along KeepsSettled queue events)
    {status : OfflineQueueStatus} (hstatus : statusOf queue id = some status)
    (hsettled : status ≠ .pending) : statusOf (queueMachine.run queue events) id = some status := by
  induction events generalizing queue with
  | nil => exact hstatus
  | cons event rest ih => exact ih h.2 (h.1 id status hstatus hsettled)

/-- Settled rows stay settled through a run exactly where no step of it writes over one
unguarded. -/
theorem settled_for_good_iff :
    SettledForGood start events ↔
      queueMachine.Along (fun queue event => overwrites queue event = false) start events := by
  have hsteps : queueMachine.Along (fun queue event => overwrites queue event = false) start events ↔
      queueMachine.Along KeepsSettled start events := by
    constructor
    · exact queueMachine.along_mono (fun queue event => (keepsSettled_iff queue event).mpr) _ _
    · exact queueMachine.along_mono (fun queue event => (keepsSettled_iff queue event).mp) _ _
  rw [hsteps]
  constructor
  · intro h
    rw [Machine.along_iff_splits]
    intro l event r hsplit id status hstatus hsettled
    have hnext := h l [event] r (by rw [hsplit, List.append_assoc]; rfl) id status hstatus hsettled
    rw [Machine.run_append] at hnext
    exact hnext
  · intro h l m r hsplit id status hstatus hsettled
    rw [hsplit, Machine.along_append, Machine.along_append] at h
    rw [Machine.run_append]
    exact statusOf_run h.1.2 hstatus hsettled

def pendingRow : OfflineQueueItem :=
  queued (uuidOf "1") "complete_sale" (.obj []) "2026-01-01T00:00:00.000Z" none

theorem synced_then_failed :
    statusOf (queueMachine.run (Table.empty.insertNew pendingRow)
        [.synced "2026-01-02T00:00:00.000Z" (uuidOf "1")]) (uuidOf "1") = some .synced ∧
      statusOf (queueMachine.run (Table.empty.insertNew pendingRow)
        [.synced "2026-01-02T00:00:00.000Z" (uuidOf "1"), .failed (uuidOf "1") "timeout"])
          (uuidOf "1") = some .failed ∧
      statusOf (queueMachine.run (Table.empty.insertNew pendingRow)
        [.failed (uuidOf "1") "rejected",
          .syncedForTenant "2026-01-02T00:00:00.000Z" (uuidOf "1") "default"]) (uuidOf "1") =
        some .synced := by
  decide

end OzPos
