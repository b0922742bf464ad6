import OzPos.Server.Conflicts
import Mathlib.Data.Prod.Lex
import OzPos.Library.Keyset

namespace OzPos

abbrev OfflineQueue := Table String OfflineQueueItem OfflineQueueItem.id

structure SyncStore where
  queue : OfflineQueue
  conflictStore : ConflictStore

def SyncStore.empty : SyncStore := ⟨Table.empty, ⟨Table.empty, []⟩⟩

def containsUnique (message : String) : Bool :=
  decide ("UNIQUE".toList <:+: message.toList)

structure DbError where
  message : String
  notUnique : containsUnique message = false

/-- What the database does to one push beyond the statements themselves. -/
structure PushFaults where
  multirow : Option String
  statement : OfflineQueueItem → Option DbError
  transaction : Option String

def PushFaults.none : PushFaults := ⟨.none, fun _ => .none, .none⟩

inductive PushError where
  | panic
  | database (message : String)
  deriving DecidableEq

def multirowChunk : Nat := 500

variable (tenantId : String)

/-- The row a push writes: the token's tenant, `pending`, the column default priority. -/
def storedRow (item : OfflineQueueItem) : OfflineQueueItem :=
  { item with status := .pending, tenantId, priority := .normal }

/-- `INSERT … ON CONFLICT (id) DO NOTHING RETURNING id` over one chunk. -/
def insertReturning (tenantId : String) :
    List OfflineQueueItem → OfflineQueue → OfflineQueue × List String
  | [], queue => (queue, [])
  | item :: rest, queue =>
    match queue.insert? (storedRow tenantId item) with
    | some stored =>
      let (final, ids) := insertReturning tenantId rest stored
      (final, item.id :: ids)
    | none => insertReturning tenantId rest queue

/-- Returned ids consumed in input order: the first occurrence was the inserted one. -/
def consumeReturned : List String → List OfflineQueueItem → List PushOutcome
  | _, [] => []
  | remaining, item :: rest =>
    if item.id ∈ remaining then .accepted :: consumeReturned (remaining.erase item.id) rest
    else .rejected (duplicateIdReason item.id) :: consumeReturned remaining rest

/-- `items.chunks(n)`; `fuel` bounds the number of chunks. -/
def chunks {α : Type} (n : Nat) : Nat → List α → List (List α)
  | 0, _ => []
  | _, [] => []
  | fuel + 1, items => items.take n :: chunks n fuel (items.drop n)

def pushChunks (tenantId : String) :
    List (List OfflineQueueItem) → OfflineQueue → OfflineQueue × List PushOutcome
  | [], queue => (queue, [])
  | chunk :: rest, queue =>
    let (stored, ids) := insertReturning tenantId chunk queue
    let (final, outcomes) := pushChunks tenantId rest stored
    (final, consumeReturned ids chunk ++ outcomes)

variable (items : List OfflineQueueItem) (queue : OfflineQueue)

def sqlitePushBatchMultirow : OfflineQueue × List PushOutcome :=
  pushChunks tenantId (chunks multirowChunk items.length items) queue

def keyViolation : String := "UNIQUE constraint failed: offline_queue.id"

variable (faults : PushFaults)

/-- The per-item `INSERT` of the fallback loop. -/
def executeInsert (tenantId : String) (item : OfflineQueueItem)
    (queue : OfflineQueue) : Except String OfflineQueue :=
  match faults.statement item with
  | some e => .error e.message
  | none =>
    match queue.insert? (storedRow tenantId item) with
    | some stored => .ok stored
    | none => .error keyViolation

def pushItemwise (faults : PushFaults) (tenantId : String) :
    List OfflineQueueItem → OfflineQueue → OfflineQueue × List PushOutcome
  | [], queue => (queue, [])
  | item :: rest, queue =>
    match executeInsert faults tenantId item queue with
    | .ok stored =>
      let (final, outcomes) := pushItemwise faults tenantId rest stored
      (final, .accepted :: outcomes)
    | .error e =>
      let (final, outcomes) := pushItemwise faults tenantId rest queue
      if containsUnique e then (final, .rejected (duplicateIdReason item.id) :: outcomes)
      else (final, .rejected ("database error: " ++ e) :: outcomes)

/-- Detection over a batch; `true` when it panicked and the request is gone. -/
def detectBatch (tenantId : String) :
    List OfflineQueueItem → ConflictStore → ConflictStore × Bool
  | [], store => (store, false)
  | item :: rest, store =>
    match extractVector item.payload with
    | none => detectBatch tenantId rest store
    | some vector =>
      let key := ⟨tenantId, item.action, entityIdOf item.payload item.id⟩
      match store.detectConflict key vector item.payload with
      | none => (store, true)
      | some (_, next) => detectBatch tenantId rest next

/-- The fast path, or the itemwise loop in a transaction of its own when it failed. -/
def insertBatch (tenantId : String) (items : List OfflineQueueItem)
    (queue : OfflineQueue) : Except PushError (OfflineQueue × List PushOutcome) :=
  match faults.multirow, faults.transaction with
  | none, _ => .ok (sqlitePushBatchMultirow tenantId items queue)
  | some _, some e => .error (.database e)
  | some _, none => .ok (pushItemwise faults tenantId items queue)

def SyncStore.pushBatch (tenantId : String) (items : List OfflineQueueItem)
    (s : SyncStore) : SyncStore × Except PushError (List PushOutcome) :=
  if items = [] then (s, .ok [])
  else
    match detectBatch tenantId items s.conflictStore with
    | (conflictStore, true) => ({ s with conflictStore }, .error .panic)
    | (conflictStore, false) =>
      match insertBatch faults tenantId items s.queue with
      | .error e => ({ s with conflictStore }, .error e)
      | .ok (queue, outcomes) => ({ queue, conflictStore }, .ok outcomes)

theorem insertReturning_fresh (id : String) (h : id ∈ (insertReturning tenantId items queue).2) :
    queue.find? id = none := by
  induction items generalizing queue with
  | nil => simp [insertReturning] at h
  | cons item rest ih =>
    cases hq : queue.insert? (storedRow tenantId item) with
    | none =>
      simp only [insertReturning, hq] at h
      exact ih queue h
    | some stored =>
      have hfree : queue.find? item.id = none := by
        have := Table.insert?_isSome_iff queue (storedRow tenantId item)
        rw [hq] at this
        exact this.mp rfl
      simp only [insertReturning, hq, List.mem_cons] at h
      rcases h with rfl | h
      · exact hfree
      · have hnone := ih stored h
        rw [Table.find?_insert? hq] at hnone
        split at hnone
        · simp at hnone
        · exact hnone

theorem pushItemwise_nil_faults (tenantId : String)
    (hfaults : ∀ item, faults.statement item = none) (items : List OfflineQueueItem)
    (queue : OfflineQueue) :
    pushItemwise faults tenantId items queue =
      ((insertReturning tenantId items queue).1,
        consumeReturned (insertReturning tenantId items queue).2 items) := by
  induction items generalizing queue with
  | nil => rfl
  | cons item rest ih =>
    cases hq : queue.insert? (storedRow tenantId item) with
    | some stored =>
      simp [pushItemwise, executeInsert, hfaults, insertReturning, hq, consumeReturned, ih]
    | none =>
      have hu : containsUnique keyViolation = true := by decide
      have hnot : item.id ∉ (insertReturning tenantId rest queue).2 := by
        intro hmem
        have hfree := insertReturning_fresh tenantId rest queue item.id hmem
        have hsome := (Table.insert?_eq_none_iff queue (storedRow tenantId item)).mp hq
        obtain ⟨s, hs⟩ := hsome
        have hs' : queue.find? item.id = some s := hs
        rw [hfree] at hs'
        simp at hs'
      simp [pushItemwise, executeInsert, hfaults, insertReturning, hq, consumeReturned, ih, hu,
        hnot]

theorem pushItemwise_append (tenantId : String)
    (l r : List OfflineQueueItem) (queue : OfflineQueue) :
    pushItemwise faults tenantId (l ++ r) queue =
      ((pushItemwise faults tenantId r (pushItemwise faults tenantId l queue).1).1,
        (pushItemwise faults tenantId l queue).2 ++
          (pushItemwise faults tenantId r (pushItemwise faults tenantId l queue).1).2) := by
  induction l generalizing queue with
  | nil => rfl
  | cons item l ih =>
    cases he : executeInsert faults tenantId item queue with
    | ok stored => simp [pushItemwise, he, ih]
    | error e => by_cases hu : containsUnique e = true <;> simp [pushItemwise, he, ih, hu]

theorem pushChunks_eq (fuel : Nat) (items : List OfflineQueueItem)
    (hfuel : items.length ≤ fuel) (n : Nat) (hn : 0 < n) (queue : OfflineQueue) :
    pushChunks tenantId (chunks n fuel items) queue =
      pushItemwise PushFaults.none tenantId items queue := by
  induction fuel generalizing items queue with
  | zero =>
    have : items = [] := List.length_eq_zero_iff.mp (by omega)
    subst this; rfl
  | succ fuel ih =>
    cases items with
    | nil => rfl
    | cons item rest =>
      have hlen : ((item :: rest).drop n).length ≤ fuel := by
        simp only [List.length_drop, List.length_cons] at hfuel ⊢; omega
      have hsplit := pushItemwise_append PushFaults.none tenantId ((item :: rest).take n)
        ((item :: rest).drop n) queue
      rw [List.take_append_drop] at hsplit
      have hhead := pushItemwise_nil_faults PushFaults.none tenantId (fun _ => rfl)
        ((item :: rest).take n) queue
      rw [hsplit, hhead]
      simp only [chunks, pushChunks]
      rw [ih _ hlen]

theorem sqlitePushBatchMultirow_itemwise :
    sqlitePushBatchMultirow tenantId items queue =
      pushItemwise PushFaults.none tenantId items queue :=
  pushChunks_eq tenantId items.length items le_rfl multirowChunk (by decide) queue

/-- The faults that reach single statements: the fast path has none. -/
def PushFaults.effective : PushFaults :=
  match faults.multirow with
  | .none => PushFaults.none
  | some _ => faults

theorem insertBatch_itemwise (tenantId : String) (items : List OfflineQueueItem) :
    (∃ e, ∀ queue, insertBatch faults tenantId items queue = .error e) ∨
      ∀ queue, insertBatch faults tenantId items queue =
        .ok (pushItemwise faults.effective tenantId items queue) := by
  cases hm : faults.multirow with
  | none =>
    refine .inr ?_
    intro queue
    simp [insertBatch, hm, PushFaults.effective, sqlitePushBatchMultirow_itemwise]
  | some message =>
    cases ht : faults.transaction with
    | none =>
      refine .inr ?_
      intro queue
      simp [insertBatch, hm, ht, PushFaults.effective]
    | some e =>
      refine .inl ⟨.database e, ?_⟩
      intro queue
      simp [insertBatch, hm, ht]

theorem pushBatch_ok {faults : PushFaults} {tenantId : String} {items : List OfflineQueueItem}
    {s next : SyncStore} {batch : List PushOutcome}
    (h : s.pushBatch faults tenantId items = (next, .ok batch)) :
    (next.queue, batch) = pushItemwise faults.effective tenantId items s.queue := by
  unfold SyncStore.pushBatch at h
  by_cases hnil : items = []
  · simp only [hnil, if_true, Prod.mk.injEq, Except.ok.injEq] at h
    obtain ⟨rfl, rfl⟩ := h
    rw [hnil]; rfl
  · rw [if_neg hnil] at h
    cases hd : detectBatch tenantId items s.conflictStore with
    | mk conflictStore panicked =>
      rw [hd] at h
      cases panicked with
      | true => simp at h
      | false =>
        rcases insertBatch_itemwise faults tenantId items with ⟨e, he⟩ | hok
        · simp [he s.queue] at h
        · simp only [hok s.queue, Prod.mk.injEq, Except.ok.injEq] at h
          obtain ⟨rfl, rfl⟩ := h
          rfl

theorem pushBatch_error {faults : PushFaults} {tenantId : String} {items : List OfflineQueueItem}
    {s next : SyncStore} {e : PushError}
    (h : s.pushBatch faults tenantId items = (next, .error e)) : next.queue = s.queue := by
  unfold SyncStore.pushBatch at h
  by_cases hnil : items = []
  · simp [hnil] at h
  · rw [if_neg hnil] at h
    cases hd : detectBatch tenantId items s.conflictStore with
    | mk conflictStore panicked =>
      rw [hd] at h
      cases panicked with
      | true =>
        simp only [Prod.mk.injEq] at h
        rw [← h.1]
      | false =>
        rcases insertBatch_itemwise faults tenantId items with ⟨e', he⟩ | hok
        · simp only [he s.queue, Prod.mk.injEq] at h
          rw [← h.1]
        · simp [hok s.queue] at h

variable (item : OfflineQueueItem)

theorem pushBatch_single {vector : VersionVector}
    (hv : extractVector item.payload = some vector) (s : SyncStore) :
    (∃ next, s.pushBatch PushFaults.none tenantId [item] = (next, .error .panic) ∧
      next.conflictStore = s.conflictStore) ∨
    ∃ next outcomes d, s.pushBatch PushFaults.none tenantId [item] = (next, .ok outcomes) ∧
      s.conflictStore.detectConflict ⟨tenantId, item.action, entityIdOf item.payload item.id⟩
        vector item.payload = some (d, next.conflictStore) := by
  unfold SyncStore.pushBatch
  cases hd : s.conflictStore.detectConflict
    ⟨tenantId, item.action, entityIdOf item.payload item.id⟩ vector item.payload with
  | none => exact .inl ⟨_, by simp [detectBatch, hv, hd], rfl⟩
  | some result =>
    obtain ⟨d, next⟩ := result
    refine .inr ⟨⟨(sqlitePushBatchMultirow tenantId [item] s.queue).1, next⟩, _, d,
      by simp [detectBatch, hv, hd, insertBatch, PushFaults.none]; rfl, rfl⟩

theorem pushBatch_single_unstamped (hv : extractVector item.payload = none) (s : SyncStore) :
    ∃ next outcomes, s.pushBatch PushFaults.none tenantId [item] = (next, .ok outcomes) ∧
      next.conflictStore = s.conflictStore := by
  refine ⟨⟨(sqlitePushBatchMultirow tenantId [item] s.queue).1, s.conflictStore⟩, _,
    by simp [SyncStore.pushBatch, detectBatch, hv, insertBatch, PushFaults.none]; rfl, rfl⟩

structure ApiTokenClaims where
  (tenantId terminalId : Option String)

variable (claims : ApiTokenClaims)

def ApiTokenClaims.tenant : String := claims.tenantId.getD "default"

/-- `Uuid::parse_str(..).is_ok()` and the switch that skips it. -/
structure PushValidation where
  isUuid : String → Bool
  skipPushValidation : Bool

def PushValidation.accepts (v : PushValidation) (item : OfflineQueueItem) : Bool :=
  v.skipPushValidation || v.isUuid item.id

/-- Outcomes back in request order: each valid item takes the next batch outcome. -/
def reassemble (v : PushValidation) : List OfflineQueueItem → List PushOutcome → List PushOutcome
  | [], _ => []
  | item :: rest, batch =>
    if v.accepts item then
      match batch with
      | outcome :: others => outcome :: reassemble v rest others
      | [] => .rejected ("missing batch outcome for " ++ item.id) :: reassemble v rest []
    else .rejected ("invalid id: " ++ item.id) :: reassemble v rest batch

def pushHandler (v : PushValidation) (faults : PushFaults) (claims : ApiTokenClaims)
    (items : List OfflineQueueItem) (s : SyncStore) :
    SyncStore × Except PushError (List PushOutcome) :=
  let validItems := items.filter v.accepts
  match s.pushBatch faults claims.tenant validItems with
  | (next, .error e) => (next, .error e)
  | (next, .ok batch) => (next, .ok (reassemble v items batch))

structure PullRequest where
  (since cursor : Option String)

structure PullResponse where
  items : List OfflineQueueItem
  nextCursor : Option String

/-- `410 Gone` with the oldest retained timestamp. -/
inductive PullError where
  | anchorExpired (oldestAvailable : String)

/-- The order of a pull: `created_at`, then `id`. -/
abbrev Position := String ×ₗ String

def OfflineQueueItem.position : Position :=
  toLex (item.createdAt, item.id)

def pageLimit : Nat := 500

def oldestCreatedAt (queue : OfflineQueue) (tenantId : String) : Option String :=
  ((queue.rows.filter (fun r => r.tenantId = tenantId)).map OfflineQueueItem.createdAt).min?

def splitBar : List Char → Option (List Char × List Char)
  | [] => none
  | c :: rest =>
    if c = '|' then some ([], rest)
    else (splitBar rest).map (fun parts => (c :: parts.1, parts.2))

/-- `cursor.splitn(2, '|')`; without a bar there is no cursor. -/
def decodeCursor (cursor : String) : Option (String × String) :=
  (splitBar cursor.toList).map (fun parts => (String.ofList parts.1, String.ofList parts.2))

def encodeCursor (last : OfflineQueueItem) : String := last.createdAt ++ "|" ++ last.id

/-- The origin filter: a caller never gets its own rows back, an unknown origin is nobody's. -/
def originFilter (caller : Option String) (row : OfflineQueueItem) : Bool :=
  match caller, row.originTerminalId with
  | none, _ => true
  | some _, none => true
  | some c, some o => o ≠ c

variable (origin since : Option String)

/-- The `WHERE` clause of the three pull shapes. -/
def pullSelects (cursor : Option (String × String)) (row : OfflineQueueItem) : Bool :=
  match cursor, since with
  | some (ts, cid), since =>
    row.tenantId = tenantId && since.getD "" ≤ row.createdAt &&
      (ts < row.createdAt || (row.createdAt = ts && cid < row.id)) && originFilter origin row
  | none, some since => since ≤ row.createdAt && row.tenantId = tenantId && originFilter origin row
  | none, none => row.tenantId = tenantId && originFilter origin row

def sqlitePullItems (queue : OfflineQueue) (tenantId : String) (origin since : Option String)
    (cursor : Option (String × String)) (limit : Nat) : List OfflineQueueItem :=
  (KeysetPage.ordered OfflineQueueItem.position
    (queue.rows.filter (pullSelects tenantId origin since cursor))).take limit

def anchorExpired? (queue : OfflineQueue) (tenantId : String) (req : PullRequest) : Option String :=
  match req.cursor, req.since, oldestCreatedAt queue tenantId with
  | none, some since, some oldest => if since < oldest then some oldest else none
  | _, _, _ => none

def pullHandler (req : PullRequest) (s : SyncStore) : Except PullError PullResponse :=
  match anchorExpired? s.queue claims.tenant req with
  | some oldest => .error (.anchorExpired oldest)
  | none =>
    let items := sqlitePullItems s.queue claims.tenant claims.terminalId req.since
      (req.cursor.bind decodeCursor) (pageLimit + 1)
    if pageLimit < items.length then
      let kept := items.take pageLimit
      .ok ⟨kept, kept.getLast?.map encodeCursor⟩
    else .ok ⟨items, none⟩

/-- What a pull from an anchor still has ahead of it. -/
def beyondAnchor (since : Option String) (cursor : Option String) (row : OfflineQueueItem) : Prop :=
  since.getD "" ≤ row.createdAt ∧
    ∀ ts cid, cursor.bind decodeCursor = some (ts, cid) → toLex (ts, cid) < row.position

theorem position_lt_iff (ts cid : String) (row : OfflineQueueItem) :
    toLex (ts, cid) < row.position ↔ ts < row.createdAt ∨ (row.createdAt = ts ∧ cid < row.id) := by
  rw [OfflineQueueItem.position, Prod.Lex.toLex_lt_toLex]
  constructor
  · rintro (h | ⟨h1, h2⟩)
    · exact .inl h
    · exact .inr ⟨h1.symm, h2⟩
  · rintro (h | ⟨h1, h2⟩)
    · exact .inl h
    · exact .inr ⟨h1.symm, h2⟩

theorem empty_le_string (s : String) : "" ≤ s := by
  rw [← not_lt, String.lt_iff_toList_lt]
  exact List.not_lt_nil _

theorem pullSelects_iff (cursor : Option String) (row : OfflineQueueItem) :
    pullSelects tenantId origin since (cursor.bind decodeCursor) row = true ↔
      row.tenantId = tenantId ∧ originFilter origin row = true ∧ beyondAnchor since cursor row := by
  unfold beyondAnchor
  cases hc : cursor.bind decodeCursor with
  | some parts =>
    obtain ⟨ts, cid⟩ := parts
    simp only [pullSelects, Bool.and_eq_true, Bool.or_eq_true, decide_eq_true_eq,
      Option.some.injEq, Prod.mk.injEq, and_imp, position_lt_iff]
    constructor
    · rintro ⟨⟨⟨ht, hs⟩, hp⟩, ho⟩
      refine ⟨ht, ho, hs, ?_⟩
      rintro _ _ rfl rfl
      exact hp
    · rintro ⟨ht, ho, hs, hp⟩
      exact ⟨⟨⟨ht, hs⟩, hp ts cid rfl rfl⟩, ho⟩
  | none =>
    cases since with
    | some since => simp [pullSelects]; tauto
    | none => simp [pullSelects, empty_le_string]

end OzPos
