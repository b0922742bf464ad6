import OzPos.Server.ConflictWinner
import OzPos.Server.SyncStore
import OzPos.Library.Outcome
import Mathlib.Algebra.BigOperators.Group.Finset.Basic

namespace OzPos

/-- What the database holds against a row itself: a trigger, a `CHECK`, a `NOT NULL`. -/
abbrev RowCheck := OfflineQueueItem → Option DbError

variable (check : RowCheck)

def PushFaults.ofCheck : PushFaults := ⟨.none, check, .none⟩

/-- The multi-row statement over one chunk: the first row refused aborts all of it. -/
def insertReturningChecked (check : RowCheck) (tenantId : String) :
    List OfflineQueueItem → OfflineQueue → Except String (OfflineQueue × List String)
  | [], queue => .ok (queue, [])
  | item :: rest, queue =>
    match check item with
    | some e => .error e.message
    | none =>
      match queue.insert? (storedRow tenantId item) with
      | some stored =>
        (insertReturningChecked check tenantId rest stored).map (fun r => (r.1, item.id :: r.2))
      | none => insertReturningChecked check tenantId rest queue

def pushChunksChecked (check : RowCheck) (tenantId : String) :
    List (List OfflineQueueItem) → OfflineQueue →
      Except String (OfflineQueue × List PushOutcome)
  | [], queue => .ok (queue, [])
  | chunk :: rest, queue =>
    match insertReturningChecked check tenantId chunk queue with
    | .error e => .error e
    | .ok (stored, ids) =>
      (pushChunksChecked check tenantId rest stored).map
        (fun r => (r.1, consumeReturned ids chunk ++ r.2))

/-- `sqlite_push_batch_multirow`: an error leaves nothing of its transaction. -/
def multirowChecked (tenantId : String) (items : List OfflineQueueItem)
    (queue : OfflineQueue) : Except String (OfflineQueue × List PushOutcome) :=
  pushChunksChecked check tenantId (chunks multirowChunk items.length items) queue

/-- The insert of `push_batch`: the fast path, the itemwise loop when it was aborted. -/
def insertBatchChecked (tenantId : String) (items : List OfflineQueueItem)
    (queue : OfflineQueue) : OfflineQueue × List PushOutcome :=
  match multirowChecked check tenantId items queue with
  | .ok result => result
  | .error _ => pushItemwise (PushFaults.ofCheck check) tenantId items queue

def pushOneByOne (check : RowCheck) (tenantId : String) :
    List OfflineQueueItem → OfflineQueue → OfflineQueue × List PushOutcome
  | [], queue => (queue, [])
  | item :: rest, queue =>
    let (stored, outcome) := insertBatchChecked check tenantId [item] queue
    let (final, outcomes) := pushOneByOne check tenantId rest stored
    (final, outcome ++ outcomes)

variable {tenantId : String} {check : RowCheck} {items : List OfflineQueueItem}

theorem insertReturningChecked_of_clean (h : ∀ item ∈ items, check item = none)
    (queue : OfflineQueue) :
    insertReturningChecked check tenantId items queue =
      .ok (insertReturning tenantId items queue) := by
  induction items generalizing queue with
  | nil => rfl
  | cons item rest ih =>
    have hrest := ih (fun other hother => h other (List.mem_cons_of_mem _ hother))
    have hitem := h item List.mem_cons_self
    cases hq : queue.insert? (storedRow tenantId item) with
    | none => simp [insertReturningChecked, insertReturning, hitem, hq, hrest]
    | some stored => simp [insertReturningChecked, insertReturning, hitem, hq, hrest, Except.map]

variable {queue : OfflineQueue}

theorem clean_of_insertReturningChecked {result : OfflineQueue × List String}
    (h : insertReturningChecked check tenantId items queue = .ok result) :
    ∀ item ∈ items, check item = none := by
  induction items generalizing queue result with
  | nil => simp
  | cons item rest ih =>
    cases hitem : check item with
    | some e => simp [insertReturningChecked, hitem] at h
    | none =>
      have hrest : ∃ queue' result', insertReturningChecked check tenantId rest queue' =
          .ok result' := by
        cases hq : queue.insert? (storedRow tenantId item) with
        | none => exact ⟨queue, result, by simpa [insertReturningChecked, hitem, hq] using h⟩
        | some stored =>
          simp only [insertReturningChecked, hitem, hq, Except.map_ok_iff] at h
          obtain ⟨inner, hinner, -⟩ := h
          exact ⟨stored, inner, hinner⟩
      obtain ⟨queue', result', hrest⟩ := hrest
      intro other hother
      rcases List.mem_cons.mp hother with rfl | hother
      · exact hitem
      · exact ih hrest other hother

theorem pushChunksChecked_of_clean {batches : List (List OfflineQueueItem)}
    (h : ∀ batch ∈ batches, ∀ item ∈ batch, check item = none) (queue : OfflineQueue) :
    pushChunksChecked check tenantId batches queue = .ok (pushChunks tenantId batches queue) := by
  induction batches generalizing queue with
  | nil => rfl
  | cons batch rest ih =>
    have hrest := ih (fun other hother => h other (List.mem_cons_of_mem _ hother))
    simp only [pushChunksChecked, pushChunks,
      insertReturningChecked_of_clean (h batch List.mem_cons_self) queue, hrest]
    rfl

theorem clean_of_pushChunksChecked {batches : List (List OfflineQueueItem)}
    {result : OfflineQueue × List PushOutcome}
    (h : pushChunksChecked check tenantId batches queue = .ok result) :
    ∀ batch ∈ batches, ∀ item ∈ batch, check item = none := by
  induction batches generalizing queue result with
  | nil => simp
  | cons batch rest ih =>
    cases hbatch : insertReturningChecked check tenantId batch queue with
    | error e => simp [pushChunksChecked, hbatch] at h
    | ok inserted =>
      simp only [pushChunksChecked, hbatch, Except.map_ok_iff] at h
      obtain ⟨inner, hinner, -⟩ := h
      intro other hother
      rcases List.mem_cons.mp hother with rfl | hother
      · exact clean_of_insertReturningChecked hbatch
      · exact ih hinner other hother

theorem flatten_chunks {α : Type} {n : Nat} (hn : 0 < n) (fuel : Nat) (items : List α)
    (hfuel : items.length ≤ fuel) : (chunks n fuel items).flatten = items := by
  induction fuel generalizing items with
  | zero =>
    have hnil : items = [] := List.length_eq_zero_iff.mp (by omega)
    rw [hnil]
    rfl
  | succ fuel ih =>
    cases items with
    | nil => rfl
    | cons item rest =>
      have hlen : ((item :: rest).drop n).length ≤ fuel := by
        simp only [List.length_drop, List.length_cons] at hfuel ⊢
        omega
      rw [chunks, List.flatten_cons, ih _ hlen, List.take_append_drop]
      simp

theorem multirowChecked_clean_iff (check : RowCheck) (tenantId : String)
    (items : List OfflineQueueItem) (queue : OfflineQueue) :
    (∃ result, multirowChecked check tenantId items queue = .ok result) ↔
      ∀ item ∈ items, check item = none := by
  have hflat := flatten_chunks (n := multirowChunk) (by decide) items.length items le_rfl
  have hmem : ∀ item, item ∈ items ↔
      ∃ batch ∈ chunks multirowChunk items.length items, item ∈ batch := by
    intro item
    rw [← List.mem_flatten, hflat]
  constructor
  · rintro ⟨result, h⟩ item hitem
    obtain ⟨batch, hbatch, hitem⟩ := (hmem item).mp hitem
    exact clean_of_pushChunksChecked h batch hbatch item hitem
  · intro h
    exact ⟨_, pushChunksChecked_of_clean
      (fun batch hbatch item hitem => h item ((hmem item).mpr ⟨batch, hbatch, hitem⟩)) queue⟩

variable {faults : PushFaults}

theorem pushItemwise_congr {faults' : PushFaults} (tenantId : String)
    (h : ∀ item ∈ items, faults.statement item = faults'.statement item) (queue : OfflineQueue) :
    pushItemwise faults tenantId items queue = pushItemwise faults' tenantId items queue := by
  induction items generalizing queue with
  | nil => rfl
  | cons item rest ih =>
    have hrest := ih (fun other hother => h other (List.mem_cons_of_mem _ hother))
    have hitem : executeInsert faults tenantId item queue =
        executeInsert faults' tenantId item queue := by
      simp only [executeInsert, h item List.mem_cons_self]
    simp only [pushItemwise, hitem, hrest]

theorem multirowChecked_itemwise {result : OfflineQueue × List PushOutcome}
    (h : multirowChecked check tenantId items queue = .ok result) :
    result = pushItemwise (PushFaults.ofCheck check) tenantId items queue := by
  have hclean := (multirowChecked_clean_iff check tenantId items queue).mp ⟨result, h⟩
  have hresult : multirowChecked check tenantId items queue =
      .ok (sqlitePushBatchMultirow tenantId items queue) :=
    pushChunksChecked_of_clean (clean_of_pushChunksChecked h) queue
  rw [hresult] at h
  rw [← Except.ok.inj h, sqlitePushBatchMultirow_itemwise]
  exact pushItemwise_congr tenantId (fun item hitem => (hclean item hitem).symm) queue

theorem insertBatchChecked_itemwise (check : RowCheck) (tenantId : String)
    (items : List OfflineQueueItem) (queue : OfflineQueue) :
    insertBatchChecked check tenantId items queue =
      pushItemwise (PushFaults.ofCheck check) tenantId items queue := by
  unfold insertBatchChecked
  cases h : multirowChecked check tenantId items queue with
  | ok result => exact multirowChecked_itemwise h
  | error e => rfl

/-- A batch, its fast path and one push an item leave the same rows and the same outcomes:
those of the itemwise loop, for repeated, stored and refused items alike. -/
theorem multirow_push_itemwise (check : RowCheck) (tenantId : String)
    (items : List OfflineQueueItem) (queue : OfflineQueue) :
    (∀ result, multirowChecked check tenantId items queue = .ok result →
        result = pushItemwise (PushFaults.ofCheck check) tenantId items queue) ∧
      ((∃ result, multirowChecked check tenantId items queue = .ok result) ↔
        ∀ item ∈ items, check item = none) ∧
      insertBatchChecked check tenantId items queue =
        pushItemwise (PushFaults.ofCheck check) tenantId items queue ∧
      pushOneByOne check tenantId items queue =
        pushItemwise (PushFaults.ofCheck check) tenantId items queue := by
  refine ⟨fun result h => multirowChecked_itemwise h,
    multirowChecked_clean_iff check tenantId items queue,
    insertBatchChecked_itemwise check tenantId items queue, ?_⟩
  induction items generalizing queue with
  | nil => rfl
  | cons item rest ih =>
    have hsplit := pushItemwise_append (PushFaults.ofCheck check) tenantId [item] rest queue
    rw [List.singleton_append] at hsplit
    simp only [pushOneByOne, insertBatchChecked_itemwise, ih, hsplit]

def stampOf (tenantId : String) (item : OfflineQueueItem) : Option (EntityKey × VersionVector) :=
  (extractVector item.payload).map
    (fun vector => (⟨tenantId, item.action, entityIdOf item.payload item.id⟩, vector))

def seeItem (tenantId : String) (key : EntityKey) (v : VersionVector)
    (item : OfflineQueueItem) : VersionVector :=
  match stampOf tenantId item with
  | some (other, vector) => if other = key then v.observe vector else v
  | none => v

def seenAfter (tenantId : String) (s : ConflictStore) (key : EntityKey)
    (earlier : List OfflineQueueItem) : VersionVector :=
  earlier.foldl (seeItem tenantId key) (s.vectorOf key)

/-- No comparison of the push by `tieBreak` adds up counters to `2^64` or more. -/
def ComparesInRange (tenantId : String) (s : ConflictStore) (items : List OfflineQueueItem) :
    Prop :=
  ∀ (earlier : List OfflineQueueItem) (item : OfflineQueueItem) (later : List OfflineQueueItem)
    (key : EntityKey) (vector : VersionVector), items = earlier ++ item :: later →
    stampOf tenantId item = some (key, vector) → policyFor key.entityType = .lastWriterWins →
    SumsFit (seenAfter tenantId s key earlier) vector

def itemOutcome (v : PushValidation) (check : RowCheck) (queue : OfflineQueue)
    (earlier : List OfflineQueueItem) (item : OfflineQueueItem) : PushOutcome :=
  if v.accepts item then
    match check item with
    | some e => .rejected ("database error: " ++ e.message)
    | none =>
      if (queue.find? item.id).isSome ∨
          ∃ e ∈ earlier, v.accepts e ∧ check e = none ∧ e.id = item.id then
        .rejected (duplicateIdReason item.id)
      else .accepted
  else .rejected ("invalid id: " ++ item.id)

/-- One result an item, each the outcome of the item in its place; or a failed transaction,
which the handler answers with an error and no results. -/
def AnsweredInOrder (v : PushValidation) (faults : PushFaults) (claims : ApiTokenClaims)
    (items : List OfflineQueueItem) (s : SyncStore) : Prop :=
  match (pushHandler v faults claims items s).2 with
  | .ok results => results.length = items.length ∧
      ∀ (i : Nat) (item : OfflineQueueItem), items[i]? = some item →
        results[i]? =
          some (itemOutcome v faults.effective.statement s.queue (items.take i) item)
  | .error (.database e) => faults.multirow.isSome ∧ faults.transaction = some e
  | .error .panic => False

theorem sum_entries_eq (v : VersionVector) (terminals : Finset String)
    (h : ∀ t ∈ v.counters, t ∈ terminals) : (v.entries.map Prod.snd).sum = terminals.sum v.get := by
  have hentries : v.entries.map Prod.snd = v.counters.keys.map v.get := by
    rw [← Std.ExtTreeMap.map_fst_toList_eq_keys, List.map_map]
    apply List.map_congr_left
    rintro ⟨t, counter⟩ hmem
    have hget : v.counters[t]? = some counter := (v.mem_entries t counter).mp hmem
    simp [VersionVector.get, Std.ExtTreeMap.getD_eq_getD_getElem?, hget]
  rw [hentries, ← List.sum_toFinset _ Std.ExtTreeMap.nodup_keys]
  apply Finset.sum_subset
  · intro t ht
    exact h t (Std.ExtTreeMap.mem_keys.mp (List.mem_toFinset.mp ht))
  · intro t _ ht
    by_contra hne
    exact ht (List.mem_toFinset.mpr (v.mem_keys_of_pos t (Nat.pos_of_ne_zero hne)))

variable {v w : VersionVector}

theorem sumCounters_congr (h : v.get = w.get) : sumCounters v = sumCounters w := by
  have hv := sum_entries_eq v (v.counters.keys.toFinset ∪ w.counters.keys.toFinset)
    (fun t ht => by simp [ht])
  have hw := sum_entries_eq w (v.counters.keys.toFinset ∪ w.counters.keys.toFinset)
    (fun t ht => by simp [ht])
  simp only [sumCounters, hv, hw, h]

theorem compare_congr (h : v.get = w.get) (u : VersionVector) : v.compare u = w.compare u := by
  cases hw : w.compare u with
  | before =>
    rw [VersionVector.compare_eq_before_iff, ← h] at hw
    rwa [VersionVector.compare_eq_before_iff]
  | after =>
    rw [VersionVector.compare_eq_after_iff, ← h] at hw
    rwa [VersionVector.compare_eq_after_iff]
  | equal =>
    rw [VersionVector.compare_eq_equal_iff, ← h] at hw
    rwa [VersionVector.compare_eq_equal_iff]
  | concurrent =>
    rw [VersionVector.compare_eq_concurrent_iff, ← h] at hw
    rwa [VersionVector.compare_eq_concurrent_iff]

theorem sumsFit_congr (h : v.get = w.get) (u : VersionVector) : SumsFit v u ↔ SumsFit w u := by
  rw [SumsFit, SumsFit, compare_congr h, sumCounters_congr h]

theorem get_foldl_seeItem (tenantId : String) (key : EntityKey)
    (earlier : List OfflineQueueItem) (h : v.get = w.get) :
    (earlier.foldl (seeItem tenantId key) v).get =
      (earlier.foldl (seeItem tenantId key) w).get := by
  induction earlier generalizing v w with
  | nil => exact h
  | cons item rest ih =>
    apply ih
    unfold seeItem
    cases stampOf tenantId item with
    | none => exact h
    | some stamp =>
      simp only
      split
      · rw [VersionVector.get_observe, VersionVector.get_observe, h]
      · exact h

variable {item : OfflineQueueItem}

theorem get_vectorOf_detect {key : EntityKey} {vector : VersionVector}
    (hstamp : stampOf tenantId item = some (key, vector)) {s next : ConflictStore} {d : Decision}
    (h : s.detectConflict key vector item.payload = some (d, next)) (other : EntityKey) :
    (next.vectorOf other).get = (seeItem tenantId other (s.vectorOf other) item).get := by
  simp only [seeItem, hstamp]
  by_cases hkey : key = other
  · subst hkey
    rw [if_pos rfl, ConflictStore.detectConflict_get h, VersionVector.get_observe]
  · have hframe := ConflictStore.detectConflict_frame h (Ne.symm hkey)
    rw [if_neg hkey, ConflictStore.vectorOf_congr hframe]

theorem get_seenAfter_cons {key : EntityKey} {vector : VersionVector}
    (hstamp : stampOf tenantId item = some (key, vector)) {s next : ConflictStore} {d : Decision}
    (h : s.detectConflict key vector item.payload = some (d, next)) (other : EntityKey)
    (earlier : List OfflineQueueItem) :
    (seenAfter tenantId next other earlier).get =
      (seenAfter tenantId s other (item :: earlier)).get :=
  get_foldl_seeItem tenantId other earlier (get_vectorOf_detect hstamp h other)

theorem detectConflict_panics_iff (s : ConflictStore) (key : EntityKey)
    (vector : VersionVector) (payload : Payload) :
    s.detectConflict key vector payload = none ↔
      policyFor key.entityType = .lastWriterWins ∧ ¬ SumsFit (s.vectorOf key) vector := by
  rw [ConflictStore.detectConflict_none_iff, SumsFit, Classical.not_imp, ← tieBreak_isSome_iff]
  cases hc : (s.vectorOf key).compare vector with
  | concurrent =>
    simp only [classify, ConflictStore.candidate, hc, classifyConcurrent]
    cases policyFor key.entityType with
    | mergeDisjointFields =>
      simp only [reduceCtorEq, false_and, iff_false]
      split
      · split <;> simp
      · simp
    | _ => simp
  | _ => simp [classify, ConflictStore.candidate, hc]

theorem comparesInRange_cons_iff (tenantId : String) (s : ConflictStore)
    (item : OfflineQueueItem) (rest : List OfflineQueueItem) :
    ComparesInRange tenantId s (item :: rest) ↔
      (∀ (key : EntityKey) (vector : VersionVector), stampOf tenantId item = some (key, vector) →
        policyFor key.entityType = .lastWriterWins → SumsFit (s.vectorOf key) vector) ∧
      ∀ (earlier : List OfflineQueueItem) (other : OfflineQueueItem)
        (later : List OfflineQueueItem) (key : EntityKey) (vector : VersionVector),
        rest = earlier ++ other :: later → stampOf tenantId other = some (key, vector) →
        policyFor key.entityType = .lastWriterWins →
        SumsFit (seenAfter tenantId s key (item :: earlier)) vector := by
  constructor
  · intro h
    refine ⟨fun key vector => h [] item rest key vector rfl, ?_⟩
    intro earlier other later key vector hrest
    exact h (item :: earlier) other later key vector (by rw [hrest]; rfl)
  · rintro ⟨hhead, htail⟩ earlier other later key vector hitems
    cases earlier with
    | nil =>
      obtain ⟨rfl, -⟩ := List.cons.inj hitems
      exact hhead key vector
    | cons first earlier =>
      obtain ⟨rfl, hrest⟩ := List.cons.inj hitems
      exact htail earlier other later key vector hrest

theorem detectBatch_inRange_iff (tenantId : String) (items : List OfflineQueueItem)
    (s : ConflictStore) :
    (detectBatch tenantId items s).2 = false ↔ ComparesInRange tenantId s items := by
  induction items generalizing s with
  | nil =>
    simp only [detectBatch, true_iff]
    intro earlier item later key vector h
    simp at h
  | cons item rest ih =>
    rw [comparesInRange_cons_iff]
    cases hv : extractVector item.payload with
    | none =>
      have hstamp : stampOf tenantId item = none := by simp [stampOf, hv]
      have hsee : ∀ key earlier, seenAfter tenantId s key (item :: earlier) =
          seenAfter tenantId s key earlier := by
        intro key earlier
        simp [seenAfter, seeItem, hstamp]
      simp only [detectBatch, hv, ih, hstamp, hsee, reduceCtorEq, false_implies, implies_true,
        true_and]
      rfl
    | some vector =>
      have hstamp : stampOf tenantId item =
          some (⟨tenantId, item.action, entityIdOf item.payload item.id⟩, vector) := by
        simp [stampOf, hv]
      have hpanic := detectConflict_panics_iff s
        ⟨tenantId, item.action, entityIdOf item.payload item.id⟩ vector item.payload
      cases hd : s.detectConflict ⟨tenantId, item.action, entityIdOf item.payload item.id⟩ vector
          item.payload with
      | none =>
        obtain ⟨hpolicy, hfit⟩ := hpanic.mp hd
        simp only [detectBatch, hv, hd, Bool.true_eq_false, false_iff]
        rintro ⟨hhead, -⟩
        exact hfit (hhead _ _ hstamp hpolicy)
      | some result =>
        obtain ⟨d, next⟩ := result
        simp only [detectBatch, hv, hd, ih]
        have hsame : ∀ (key : EntityKey) (earlier : List OfflineQueueItem) (u : VersionVector),
            SumsFit (seenAfter tenantId next key earlier) u ↔
              SumsFit (seenAfter tenantId s key (item :: earlier)) u := fun key earlier u =>
          sumsFit_congr (get_seenAfter_cons hstamp hd key earlier) u
        simp only [ComparesInRange, hsame]
        refine ⟨fun h => ⟨?_, h⟩, fun h => h.2⟩
        intro key vector' hstamp' hpolicy
        rw [hstamp, Option.some.injEq, Prod.mk.injEq] at hstamp'
        obtain ⟨rfl, rfl⟩ := hstamp'
        by_contra hfit
        rw [hpanic.mpr ⟨hpolicy, hfit⟩] at hd
        cases hd

/-- One round of the itemwise loop: the queue it leaves and the outcome it reports. -/
def insertOutcome (faults : PushFaults) (tenantId : String) (item : OfflineQueueItem)
    (queue : OfflineQueue) : OfflineQueue × PushOutcome :=
  match executeInsert faults tenantId item queue with
  | .ok stored => (stored, .accepted)
  | .error e =>
    (queue, if containsUnique e then .rejected (duplicateIdReason item.id)
      else .rejected ("database error: " ++ e))

theorem pushItemwise_cons (faults : PushFaults) (tenantId : String) (item : OfflineQueueItem)
    (rest : List OfflineQueueItem) (queue : OfflineQueue) :
    (pushItemwise faults tenantId (item :: rest) queue).2 =
      (insertOutcome faults tenantId item queue).2 ::
        (pushItemwise faults tenantId rest (insertOutcome faults tenantId item queue).1).2 := by
  simp only [pushItemwise, insertOutcome]
  cases executeInsert faults tenantId item queue with
  | ok stored => rfl
  | error e =>
    simp only
    split <;> rfl

/-- The ids a queue holds: those it started with and those of the items inserted since. -/
def Holds (v : PushValidation) (check : RowCheck) (start : OfflineQueue)
    (earlier : List OfflineQueueItem) (queue : OfflineQueue) : Prop :=
  ∀ id, (queue.find? id).isSome ↔ (start.find? id).isSome ∨
    ∃ e ∈ earlier, v.accepts e ∧ check e = none ∧ e.id = id

theorem Holds.skip {v : PushValidation} {start : OfflineQueue}
    {earlier : List OfflineQueueItem} (h : Holds v check start earlier queue)
    (hitem : v.accepts item → check item = none → (queue.find? item.id).isSome) :
    Holds v check start (earlier ++ [item]) queue := by
  intro id
  rw [h id]
  constructor
  · rintro (hid | ⟨e, he, hid⟩)
    · exact .inl hid
    · exact .inr ⟨e, List.mem_append_left _ he, hid⟩
  · rintro (hid | ⟨e, he, haccepts, hcheck, rfl⟩)
    · exact .inl hid
    · rcases List.mem_append.mp he with he | he
      · exact .inr ⟨e, he, haccepts, hcheck, rfl⟩
      · obtain rfl : e = item := List.mem_singleton.mp he
        exact (h e.id).mp (hitem haccepts hcheck)

theorem insertOutcome_spec {v : PushValidation} {start : OfflineQueue}
    {earlier : List OfflineQueueItem} (h : Holds v faults.statement start earlier queue)
    (haccepts : v.accepts item = true) (tenantId : String) :
    (insertOutcome faults tenantId item queue).2 =
        itemOutcome v faults.statement start earlier item ∧
      Holds v faults.statement start (earlier ++ [item])
        (insertOutcome faults tenantId item queue).1 := by
  cases hf : faults.statement item with
  | some e =>
    have hexec : executeInsert faults tenantId item queue = .error e.message := by
      simp [executeInsert, hf]
    simp only [insertOutcome, hexec, e.notUnique, itemOutcome, haccepts, hf, if_true,
      Bool.false_eq_true, if_false, true_and]
    exact h.skip (fun _ hnone => by rw [hf] at hnone; cases hnone)
  | none =>
    cases hq : queue.insert? (storedRow tenantId item) with
    | none =>
      have hexec : executeInsert faults tenantId item queue = .error keyViolation := by
        simp [executeInsert, hf, hq]
      have hunique : containsUnique keyViolation = true := by decide
      obtain ⟨row, hrow⟩ := (Table.insert?_eq_none_iff queue (storedRow tenantId item)).mp hq
      have hstored : (queue.find? item.id).isSome := Option.isSome_iff_exists.mpr ⟨row, hrow⟩
      simp only [insertOutcome, hexec, hunique, itemOutcome, haccepts, hf, if_true]
      rw [if_pos ((h item.id).mp hstored)]
      exact ⟨rfl, h.skip (fun _ _ => hstored)⟩
    | some stored =>
      have hexec : executeInsert faults tenantId item queue = .ok stored := by
        simp [executeInsert, hf, hq]
      have hfree : queue.find? item.id = none := by
        have hsome := Table.insert?_isSome_iff queue (storedRow tenantId item)
        rw [hq] at hsome
        exact hsome.mp rfl
      have hnot : ¬ (queue.find? item.id).isSome := by simp [hfree]
      simp only [insertOutcome, hexec, itemOutcome, haccepts, hf, if_true]
      rw [if_neg (mt (h item.id).mpr hnot)]
      refine ⟨rfl, ?_⟩
      intro id
      have hkey : (storedRow tenantId item).id = item.id := rfl
      rw [Table.find?_insert? hq, hkey]
      by_cases hid : item.id = id
      · simp [hid, haccepts, hf]
      · rw [if_neg hid, h id]
        simp [hid]

theorem reassemble_itemOutcome (v : PushValidation) (faults : PushFaults) (tenantId : String)
    (start : OfflineQueue) (items earlier : List OfflineQueueItem) (queue : OfflineQueue)
    (hqueue : Holds v faults.statement start earlier queue) (i : Nat)
    (item : OfflineQueueItem) (hitem : items[i]? = some item) :
    (reassemble v items (pushItemwise faults tenantId (items.filter v.accepts) queue).2)[i]? =
      some (itemOutcome v faults.statement start (earlier ++ items.take i) item) := by
  induction items generalizing earlier queue i with
  | nil => simp at hitem
  | cons first rest ih =>
    have hafter : ∀ taken : List OfflineQueueItem,
        earlier ++ first :: taken = (earlier ++ [first]) ++ taken := by simp
    by_cases hfirst : v.accepts first = true
    · obtain ⟨houtcome, hnext⟩ := insertOutcome_spec hqueue hfirst tenantId
      rw [List.filter_cons_of_pos hfirst, pushItemwise_cons, reassemble, if_pos hfirst]
      cases i with
      | zero =>
        obtain rfl : first = item := by simpa using hitem
        simpa using houtcome
      | succ i =>
        rw [List.getElem?_cons_succ, List.take_succ_cons, hafter]
        exact ih (earlier ++ [first]) _ hnext i (by simpa using hitem)
    · have hnext : Holds v faults.statement start (earlier ++ [first]) queue :=
        hqueue.skip (fun h => absurd h hfirst)
      have htail : ∀ batch, reassemble v (first :: rest) batch =
          .rejected ("invalid id: " ++ first.id) :: reassemble v rest batch := by
        intro batch
        cases batch <;> simp [reassemble, hfirst]
      rw [List.filter_cons_of_neg hfirst, htail]
      cases i with
      | zero =>
        obtain rfl : first = item := by simpa using hitem
        simp [itemOutcome, hfirst]
      | succ i =>
        rw [List.getElem?_cons_succ, List.take_succ_cons, hafter]
        exact ih (earlier ++ [first]) _ hnext i (by simpa using hitem)

theorem length_reassemble (v : PushValidation) (items : List OfflineQueueItem)
    (batch : List PushOutcome) : (reassemble v items batch).length = items.length := by
  induction items generalizing batch with
  | nil => rfl
  | cons item rest ih =>
    unfold reassemble
    split
    · cases batch <;> simp [ih]
    · simp [ih]

theorem pushBatch_panic_iff (faults : PushFaults) (tenantId : String)
    (items : List OfflineQueueItem) (s : SyncStore) :
    (s.pushBatch faults tenantId items).2 = .error .panic ↔
      (detectBatch tenantId items s.conflictStore).2 = true := by
  unfold SyncStore.pushBatch
  by_cases hnil : items = []
  · simp [hnil, detectBatch]
  · rw [if_neg hnil]
    cases hd : detectBatch tenantId items s.conflictStore with
    | mk conflictStore panicked =>
      cases panicked with
      | true => simp
      | false =>
        unfold insertBatch
        cases faults.multirow with
        | none => simp
        | some e => cases faults.transaction <;> simp

theorem pushBatch_database {s : SyncStore} {e : String}
    (h : (s.pushBatch faults tenantId items).2 = .error (.database e)) :
    faults.multirow.isSome ∧ faults.transaction = some e := by
  unfold SyncStore.pushBatch at h
  by_cases hnil : items = []
  · simp [hnil] at h
  · rw [if_neg hnil] at h
    cases hd : detectBatch tenantId items s.conflictStore with
    | mk conflictStore panicked =>
      rw [hd] at h
      cases panicked with
      | true => simp at h
      | false =>
        unfold insertBatch at h
        cases hm : faults.multirow with
        | none => simp [hm] at h
        | some m =>
          cases ht : faults.transaction with
          | none => simp [hm, ht] at h
          | some e' =>
            simp only [hm, ht, Except.error.injEq, PushError.database.injEq] at h
            rw [h]
            exact ⟨rfl, rfl⟩

/-- A push is answered item by item exactly when its conflict checks stay in range. -/
theorem answeredInOrder_iff (v : PushValidation) (faults : PushFaults) (claims : ApiTokenClaims)
    (items : List OfflineQueueItem) (s : SyncStore) :
    AnsweredInOrder v faults claims items s ↔
      ComparesInRange claims.tenant s.conflictStore (items.filter v.accepts) := by
  rw [← detectBatch_inRange_iff]
  have hpanic := pushBatch_panic_iff faults claims.tenant (items.filter v.accepts) s
  cases hp : s.pushBatch faults claims.tenant (items.filter v.accepts) with
  | mk next answer =>
    rw [hp] at hpanic
    cases answer with
    | error e =>
      cases e with
      | panic => simp [AnsweredInOrder, pushHandler, hp, hpanic.mp rfl]
      | database e =>
        have hfault := pushBatch_database (congrArg Prod.snd hp)
        simp only [reduceCtorEq, Except.error.injEq, false_iff, Bool.not_eq_true] at hpanic
        simp only [AnsweredInOrder, pushHandler, hp, hpanic, iff_true]
        exact hfault
    | ok batch =>
      simp only [reduceCtorEq, false_iff, Bool.not_eq_true] at hpanic
      simp only [AnsweredInOrder, pushHandler, hp, hpanic, iff_true]
      refine ⟨length_reassemble v items batch, ?_⟩
      intro i item hitem
      have hbatch : batch = (pushItemwise faults.effective claims.tenant
          (items.filter v.accepts) s.queue).2 := congrArg Prod.snd (pushBatch_ok hp)
      have hstart : Holds v faults.effective.statement s.queue [] s.queue := by
        intro id
        simp
      rw [hbatch]
      exact reassemble_itemOutcome v faults.effective claims.tenant s.queue items [] s.queue
        hstart i item hitem

def renameUnder (suffix name : String) (vector : List (String × Json)) : OfflineQueueItem :=
  queued (uuidOf suffix) "product.update"
    (.obj [("_vector", .obj vector), ("id", .str "p-1"), ("name", .str name)])
    "2026-09-13T08:00:00.000Z" none

/-- Two renames of one product, both with valid ids, the second of a terminal whose counter
stands at its maximum. -/
def saturatedRequest : List OfflineQueueItem :=
  [renameUnder "1" "Tea" [("C", .int 1)],
    renameUnder "2" "Kopi" [("A", .int counterMax), ("B", .int 1)]]

def uuidSized : PushValidation := ⟨fun id => id.length == 36, false⟩

theorem saturated_request_unanswered :
    (∀ item ∈ saturatedRequest, uuidSized.accepts item = true) ∧
      ¬ AnsweredInOrder uuidSized PushFaults.none ⟨none, some "C"⟩ saturatedRequest
        SyncStore.empty := by
  refine ⟨by decide, ?_⟩
  intro h
  have hanswer : (pushHandler uuidSized PushFaults.none ⟨none, some "C"⟩ saturatedRequest
      SyncStore.empty).2.isOk = false := by decide +kernel
  unfold AnsweredInOrder at h
  revert h hanswer
  cases (pushHandler uuidSized PushFaults.none ⟨none, some "C"⟩ saturatedRequest
      SyncStore.empty).2 with
  | ok results => simp [Except.isOk, Except.toBool]
  | error e => cases e <;> simp [PushFaults.none]

end OzPos
