import OzPos.Client.PushOutcomes

namespace OzPos

abbrev SettledPair := OfflineQueueItem × PushOutcome

/-- `for … { step(…)?; }`. -/
def propagate (step : SettledPair → OfflineQueue → QueueResult) :
    List SettledPair → OfflineQueue → QueueResult
  | [], queue => (queue, .ok ())
  | p :: rest, queue =>
    match step p queue with
    | (queue', .ok ()) => propagate step rest queue'
    | (queue', .error e) => (queue', .error e)

/-- `for … { if let Err(e) = step(…) { error!(…) } }`. -/
def logErrors (step : SettledPair → OfflineQueue → QueueResult) :
    List SettledPair → OfflineQueue → OfflineQueue
  | [], queue => queue
  | p :: rest, queue => logErrors step rest (step p queue).1

/-- The classification of one outcome; the appliers differ in what a conflict does. -/
def settleOutcome (now : String)
    (onConflict : OfflineQueueItem → OfflineQueueItem → OfflineQueue → QueueResult)
    (item : OfflineQueueItem) (outcome : PushOutcome) (queue : OfflineQueue) : QueueResult :=
  match outcome with
  | .accepted => queueResult queue (markOfflineSynced now item.id queue)
  | .conflict serverItem => onConflict item serverItem queue
  | .rejected reason =>
    if isDuplicateIdRejection reason then
      queueResult queue (markOfflineSynced now item.id queue)
    else (markOfflineFailed item.id reason queue, .ok ())

variable (settings : QueueSettings) (draw : String → Draw)

def settleResolving (p : SettledPair) : OfflineQueue → QueueResult :=
  settleOutcome (draw p.1.id).now (applyPushConflict settings (draw p.1.id)) p.1 p.2

/-- The sync library's applier: the first failing write ends the batch. -/
def applyPushOutcomes (batch : List OfflineQueueItem) (results : List PushOutcome)
    (queue : OfflineQueue) : QueueResult :=
  propagate (settleResolving settings draw) (batch.zip results) queue

variable (pending : List OfflineQueueItem)

def applyPushResults (results : List PushOutcome) (queue : OfflineQueue) : OfflineQueue :=
  logErrors (settleResolving settings draw) (pending.zip results) queue

def serverWinsResolution (serverItem : OfflineQueueItem) : String :=
  "server item wins (action=" ++ serverItem.action ++ " already on server)"

def settleServerWins (p : SettledPair) : OfflineQueue → QueueResult :=
  settleOutcome (draw p.1.id).now
    (fun item serverItem queue => queueResult queue
      (markOfflineResolved (draw item.id).now item.id (serverWinsResolution serverItem) queue))
    p.1 p.2

structure SyncAttemptResult where
  (synced failed : Nat)
  error : Option String
  planRequired : Bool

def SyncAttemptResult.count (result : SyncAttemptResult) : PushOutcome → SyncAttemptResult
  | .accepted | .conflict _ => { result with synced := result.synced + 1 }
  | .rejected reason =>
    if isDuplicateIdRejection reason then { result with synced := result.synced + 1 }
    else { result with failed := result.failed + 1, error := some reason }

/-- The command boundary's applier: on a conflict the server's copy wins. -/
def applySyncOutcomes (outcomes : List PushOutcome)
    (queue : OfflineQueue) : OfflineQueue × Except CoreError SyncAttemptResult :=
  let pairs := pending.zip outcomes
  let (queue', result) := propagate (settleServerWins draw) pairs queue
  (queue', result.map (fun _ => (pairs.map Prod.snd).foldl .count ⟨0, 0, none, false⟩))

/-- What one step of an applier does to a queue whose row for the item is pending. -/
structure Settles (step : SettledPair → OfflineQueue → QueueResult)
    (Valid : SettledPair → Prop) (effect : SettledPair → OfflineQueueItem → OfflineQueueItem)
    (enqueued : SettledPair → List OfflineQueueItem) (stops : SettledPair → Bool) : Prop where
  effect_id : ∀ p row, (effect p row).id = row.id
  step : ∀ p queue row, Valid p → queue.find? p.1.id = some row → row.status = .pending →
    (∀ r ∈ enqueued p, queue.find? r.id = none) →
    (step p queue).1.rows =
        Table.rewriteRows OfflineQueueItem.id p.1.id (effect p) queue.rows ++ enqueued p ∧
      ((step p queue).2 = .ok () ↔ stops p = false)

/-- The pairs name pending rows, each once, and what is enqueued has fresh ids. -/
structure Settleable (Valid : SettledPair → Prop) (enqueued : SettledPair → List OfflineQueueItem)
    (pairs : List SettledPair) (queue : OfflineQueue) : Prop where
  valid : ∀ p ∈ pairs, Valid p
  pending : ∀ p ∈ pairs, ∃ row, queue.find? p.1.id = some row ∧ row.status = .pending
  distinct : (pairs.map (fun p => p.1.id)).Nodup
  fresh : ∀ p ∈ pairs, ∀ r ∈ enqueued p, queue.find? r.id = none
  separate : ((pairs.flatMap enqueued).map OfflineQueueItem.id).Nodup

def settledBy (effect : SettledPair → OfflineQueueItem → OfflineQueueItem)
    (pairs : List SettledPair) (row : OfflineQueueItem) : OfflineQueueItem :=
  match pairs.find? (fun p => p.1.id = row.id) with
  | some p => effect p row
  | none => row

section Loops

variable {step : SettledPair → OfflineQueue → QueueResult} {Valid : SettledPair → Prop}
  {effect : SettledPair → OfflineQueueItem → OfflineQueueItem}
  {enqueued : SettledPair → List OfflineQueueItem} {stops : SettledPair → Bool}

theorem settledBy_cons (h : Settles step Valid effect enqueued stops) (p : SettledPair)
    (rest : List SettledPair) (hp : p.1.id ∉ rest.map (fun p => p.1.id)) (row : OfflineQueueItem) :
    settledBy effect rest (if row.id = p.1.id then effect p row else row) =
      settledBy effect (p :: rest) row := by
  unfold settledBy
  by_cases hid : row.id = p.1.id
  · have hnone : rest.find? (fun q => q.1.id = (effect p row).id) = none := by
      rw [List.find?_eq_none]
      intro q hq
      rw [h.effect_id, hid]
      simp only [decide_eq_true_eq]
      exact fun hqp => hp (List.mem_map.mpr ⟨q, hq, hqp⟩)
    simp [hid, hnone]
  · simp [hid, Ne.symm hid]

variable {pairs : List SettledPair}

theorem settledBy_not_mem {row : OfflineQueueItem}
    (h : row.id ∉ pairs.map (fun p => p.1.id)) : settledBy effect pairs row = row := by
  have hnone : pairs.find? (fun p => p.1.id = row.id) = none := by
    rw [List.find?_eq_none]
    intro p hp
    simp only [decide_eq_true_eq]
    exact fun hid => h (List.mem_map.mpr ⟨p, hp, hid⟩)
  simp [settledBy, hnone]

theorem settledBy_mem (hdistinct : (pairs.map (fun p => p.1.id)).Nodup) {p : SettledPair}
    (hp : p ∈ pairs) {row : OfflineQueueItem} (hrow : row.id = p.1.id) :
    settledBy effect pairs row = effect p row := by
  cases hf : pairs.find? (fun p => p.1.id = row.id) with
  | none =>
    rw [List.find?_eq_none] at hf
    exact absurd hrow.symm (by simpa using hf p hp)
  | some q =>
    have hq := List.mem_of_find?_eq_some hf
    have hqid : q.1.id = row.id := by simpa using List.find?_some hf
    have heq : q = p := List.inj_on_of_nodup_map hdistinct hq hp (by rw [hqid, hrow])
    simp [settledBy, hf, heq]

variable {queue : OfflineQueue}

theorem find?_of_rows {old new : List OfflineQueueItem} (h : queue.rows = old ++ new) (k : String) :
    queue.find? k =
      (old.find? (fun r => r.id = k)).or (new.find? (fun r => r.id = k)) := by
  rw [Table.find?, h, List.find?_append]

theorem Settleable.next (h : Settles step Valid effect enqueued stops) {p : SettledPair}
    {rest : List SettledPair} (hs : Settleable Valid enqueued (p :: rest) queue) :
    Settleable Valid enqueued rest (step p queue).1 ∧
      (step p queue).1.rows =
        Table.rewriteRows OfflineQueueItem.id p.1.id (effect p) queue.rows ++ enqueued p := by
  obtain ⟨row, hrow, hpend⟩ := hs.pending p List.mem_cons_self
  have hrows := (h.step p queue row (hs.valid p List.mem_cons_self) hrow hpend
    (hs.fresh p List.mem_cons_self)).1
  have hfind : ∀ k, (step p queue).1.find? k =
      ((queue.find? k).map (fun r => if k = p.1.id then effect p r else r)).or
        ((enqueued p).find? (fun r => r.id = k)) := by
    intro k
    rw [find?_of_rows hrows, Table.find?_rewriteRows _ _ _ (fun r hr => by rw [h.effect_id, hr])]
    rfl
  obtain ⟨hp, hdistinct⟩ := List.nodup_cons.mp hs.distinct
  have hsep := hs.separate
  rw [List.flatMap_cons, List.map_append, List.nodup_append] at hsep
  refine ⟨⟨fun q hq => hs.valid q (List.mem_cons_of_mem _ hq), ?_, hdistinct, ?_, hsep.2.1⟩, hrows⟩
  · intro q hq
    obtain ⟨r, hr, hrp⟩ := hs.pending q (List.mem_cons_of_mem _ hq)
    have hne : q.1.id ≠ p.1.id := by
      intro heq
      exact hp (List.mem_map.mpr ⟨q, hq, heq⟩)
    exact ⟨r, by simp [hfind, hr, hne], hrp⟩
  · intro q hq r hr
    have hnone := hs.fresh q (List.mem_cons_of_mem _ hq) r hr
    rw [hfind, hnone, Option.map_none, Option.none_or, List.find?_eq_none]
    intro s hs'
    have hmem : r.id ∈ (rest.flatMap enqueued).map OfflineQueueItem.id :=
      List.mem_map.mpr ⟨r, List.mem_flatMap.mpr ⟨q, hq, hr⟩, rfl⟩
    have hsne := hsep.2.2 s.id (List.mem_map.mpr ⟨s, hs', rfl⟩) r.id hmem
    simpa using hsne

theorem logErrors_rows (h : Settles step Valid effect enqueued stops) (pairs : List SettledPair)
    (queue : OfflineQueue) (hs : Settleable Valid enqueued pairs queue) :
    (logErrors step pairs queue).rows =
      queue.rows.map (settledBy effect pairs) ++ pairs.flatMap enqueued := by
  induction pairs generalizing queue with
  | nil =>
    have hid : settledBy effect [] = id := rfl
    simp [logErrors, hid]
  | cons p rest ih =>
    obtain ⟨hnext, hrows⟩ := Settleable.next h hs
    have hp := (List.nodup_cons.mp hs.distinct).1
    have hnew : (enqueued p).map (settledBy effect rest) = enqueued p := by
      conv_rhs => rw [← List.map_id (enqueued p)]
      apply List.map_congr_left
      intro r hr
      apply settledBy_not_mem
      intro hmem
      obtain ⟨q, hq, hid⟩ := List.mem_map.mp hmem
      obtain ⟨row, hrow, _⟩ := hs.pending q (List.mem_cons_of_mem _ hq)
      have hnone := hs.fresh p List.mem_cons_self r hr
      rw [← hid, hrow] at hnone
      cases hnone
    rw [logErrors, ih _ hnext, hrows, List.map_append, hnew, Table.rewriteRows, List.map_map,
      List.flatMap_cons, List.append_assoc]
    congr 1
    apply List.map_congr_left
    intro row _
    exact settledBy_cons h p rest hp row

def upToStop (stops : SettledPair → Bool) : List SettledPair → List SettledPair
  | [] => []
  | p :: rest => if stops p then [p] else p :: upToStop stops rest

theorem propagate_eq (h : Settles step Valid effect enqueued stops) (pairs : List SettledPair)
    (queue : OfflineQueue) (hs : Settleable Valid enqueued pairs queue) :
    (propagate step pairs queue).1 = logErrors step (upToStop stops pairs) queue := by
  induction pairs generalizing queue with
  | nil => rfl
  | cons p rest ih =>
    obtain ⟨row, hrow, hpend⟩ := hs.pending p List.mem_cons_self
    have hresult := (h.step p queue row (hs.valid p List.mem_cons_self) hrow hpend
      (hs.fresh p List.mem_cons_self)).2
    have hnext := ih _ (Settleable.next h hs).1
    rw [propagate, upToStop]
    cases hstop : stops p with
    | false =>
      have hok := hresult.mpr hstop
      rcases hstep : step p queue with ⟨queue', result⟩
      rw [hstep] at hok hnext
      simp only at hok hnext
      subst hok
      simpa [logErrors, hstep] using hnext
    | true =>
      have herr : (step p queue).2 ≠ .ok () := fun hok => by simp [hresult.mp hok] at hstop
      rcases hstep : step p queue with ⟨queue', result⟩
      rw [hstep] at herr
      cases result with
      | ok u => exact absurd rfl herr
      | error e => simp [logErrors, hstep]

theorem upToStop_sublist (stops : SettledPair → Bool) (pairs : List SettledPair) :
    (upToStop stops pairs).Sublist pairs := by
  induction pairs with
  | nil => exact List.Sublist.refl _
  | cons p rest ih =>
    rw [upToStop]
    split
    · exact (List.nil_sublist rest).cons_cons p
    · exact ih.cons_cons p

theorem upToStop_eq_iff (stops : SettledPair → Bool) (pairs : List SettledPair) :
    upToStop stops pairs = pairs ↔ ∀ p ∈ pairs.dropLast, stops p = false := by
  induction pairs with
  | nil => simp [upToStop]
  | cons p rest ih =>
    cases rest with
    | nil => cases hp : stops p <;> simp [upToStop, hp]
    | cons q rest =>
      rw [upToStop, List.dropLast_cons_cons, List.forall_mem_cons, ← ih]
      cases hp : stops p <;> simp

theorem Settleable.sublist {sub : List SettledPair} (hs : Settleable Valid enqueued pairs queue)
    (h : sub.Sublist pairs) : Settleable Valid enqueued sub queue :=
  ⟨fun p hp => hs.valid p (h.subset hp), fun p hp => hs.pending p (h.subset hp), hs.distinct.sublist (h.map _),
    fun p hp => hs.fresh p (h.subset hp),
    hs.separate.sublist ((h.flatMap _).map _)⟩

end Loops

def isStockConflict (p : SettledPair) : Bool :=
  match p.2 with
  | .conflict _ => strategyOf p.1.action = .stockMerge
  | _ => false

def isConflict : SettledPair → Bool
  | (_, .conflict _) => true
  | _ => false

variable (settings : QueueSettings)

def QueueSettings.writable : Bool := settings.posWritable.isOk

/-- The row a settled pair leaves; `marker` is the text for a conflict. -/
def settledRow (now : String) (marker : OfflineQueueItem → OfflineQueueItem → String)
    (p : SettledPair) (row : OfflineQueueItem) : OfflineQueueItem :=
  match p.2 with
  | .accepted => row.markSynced now
  | .conflict serverItem => row.markResolved now (resolvedMarker (marker p.1 serverItem))
  | .rejected reason =>
    if isDuplicateIdRejection reason then row.markSynced now else row.markFailed reason

variable (draw : String → Draw)

def mergeRows (p : SettledPair) : List OfflineQueueItem :=
  match p.2 with
  | .conflict serverItem =>
    if settings.writable && isStockConflict p then
      [newQueueItem settings (draw p.1.id) p.1.action
        (.json (mergedPayload p.1.payload serverItem.payload)) "default" .normal]
    else []
  | _ => []

/-- Ids a settling batch mints: new to the queue and to each other. -/
structure FreshDraws (draw : String → Draw) (queue : OfflineQueue) (pairs : List SettledPair) :
    Prop where
  rows : ∀ p ∈ pairs, queue.find? (draw p.1.id).rowId = none
  distinct : (pairs.map (fun p => (draw p.1.id).rowId)).Nodup
  winners : ∀ p ∈ pairs, ∀ serverItem, p.2 = .conflict serverItem →
    (draw p.1.id).FreshFor p.1 serverItem

@[simp] theorem settledRow_id (now : String) (marker : OfflineQueueItem → OfflineQueueItem → String)
    (p : SettledPair) (row : OfflineQueueItem) : (settledRow now marker p row).id = row.id := by
  unfold settledRow
  cases p.2 with
  | accepted => rfl
  | conflict serverItem => rfl
  | rejected reason => dsimp only; split <;> rfl

theorem enqueueOffline_fresh {settings : QueueSettings} (draw : Draw) (action : String)
    (payload : Payload) (queue : OfflineQueue) (hw : settings.posWritable = .ok ())
    (hfresh : queue.find? draw.rowId = none) :
    ∃ queue', enqueueOffline settings draw action payload queue = .ok queue' ∧
      queue'.rows = queue.rows ++ [newQueueItem settings draw action payload "default" .normal] := by
  have hsome := (Table.insert?_isSome_iff queue
    (newQueueItem settings draw action payload "default" .normal)).mpr hfresh
  obtain ⟨queue', hins⟩ := Option.isSome_iff_exists.mp hsome
  exact ⟨queue', enqueueOffline_ok_iff.mpr ⟨hw, hins⟩, Table.insert?_rows hins⟩

theorem enqueueOffline_locked {settings : QueueSettings} (draw : Draw) (action : String)
    (payload : Payload) (queue : OfflineQueue) (hw : settings.writable = false) :
    ∃ e, enqueueOffline settings draw action payload queue = .error e := by
  cases hp : settings.posWritable with
  | ok u => simp [QueueSettings.writable, hp, Except.isOk, Except.toBool] at hw
  | error e => exact ⟨e, by simp [enqueueOffline, enqueueOfflineInner, hp]⟩

variable {p : SettledPair}

theorem settleOutcome_plain (now : String)
    (onConflict : OfflineQueueItem → OfflineQueueItem → OfflineQueue → QueueResult)
    (marker : OfflineQueueItem → OfflineQueueItem → String)
    {queue : OfflineQueue} {row : OfflineQueueItem} (hplain : isConflict p = false)
    (hrow : queue.find? p.1.id = some row) (hpend : row.status = .pending) :
    (settleOutcome now onConflict p.1 p.2 queue).1.rows =
        Table.rewriteRows OfflineQueueItem.id p.1.id (settledRow now marker p) queue.rows ∧
      (settleOutcome now onConflict p.1 p.2 queue).2 = .ok () := by
  obtain ⟨item, outcome⟩ := p
  cases outcome with
  | accepted =>
    simp only [settleOutcome, markOfflineSynced_pending hrow hpend, queueResult]
    exact ⟨rfl, trivial⟩
  | conflict serverItem => simp [isConflict] at hplain
  | rejected reason =>
    by_cases hdup : isDuplicateIdRejection reason = true
    · have heffect : settledRow now marker (item, .rejected reason) = .markSynced now := by
        funext row
        simp [settledRow, hdup]
      simp only [settleOutcome, if_pos hdup, markOfflineSynced_pending hrow hpend, queueResult,
        heffect]
      exact ⟨rfl, trivial⟩
    · have heffect : settledRow now marker (item, .rejected reason) = .markFailed reason := by
        funext row
        simp [settledRow, hdup]
      simp only [settleOutcome, if_neg hdup, heffect]
      exact ⟨rfl, trivial⟩

theorem isConflict_iff : isConflict p = true ↔ ∃ serverItem, p.2 = .conflict serverItem := by
  obtain ⟨item, outcome⟩ := p
  cases outcome <;> simp [isConflict]

theorem isStockConflict_plain (h : isConflict p = false) : isStockConflict p = false := by
  obtain ⟨item, outcome⟩ := p
  cases outcome with
  | accepted => rfl
  | rejected reason => rfl
  | conflict serverItem => simp [isConflict] at h

theorem mergeRows_cases (p : SettledPair) :
    ((settings.writable && isStockConflict p) = false ∧ mergeRows settings draw p = []) ∨
    ((settings.writable && isStockConflict p) = true ∧ ∃ payload, mergeRows settings draw p =
      [newQueueItem settings (draw p.1.id) p.1.action payload "default" .normal]) := by
  obtain ⟨item, outcome⟩ := p
  cases outcome with
  | accepted => exact .inl ⟨by simp [isStockConflict], rfl⟩
  | rejected reason => exact .inl ⟨by simp [isStockConflict], rfl⟩
  | conflict serverItem =>
    simp only [mergeRows]
    split
    · rename_i hm
      exact .inr ⟨hm, _, rfl⟩
    · rename_i hm
      exact .inl ⟨by simpa using hm, rfl⟩

theorem mergeRows_plain (h : isConflict p = false) : mergeRows settings draw p = [] := by
  rcases mergeRows_cases settings draw p with ⟨-, hnil⟩ | ⟨hstock, -⟩
  · exact hnil
  · simp [isStockConflict_plain h] at hstock

def resolverMarker (localItem serverItem : OfflineQueueItem) : String :=
  resolutionTag (resolveConflict (draw localItem.id) localItem serverItem)

def resolverEffect (p : SettledPair) : OfflineQueueItem → OfflineQueueItem :=
  settledRow (draw p.1.id).now (resolverMarker draw) p

def serverWinsEffect (p : SettledPair) : OfflineQueueItem → OfflineQueueItem :=
  settledRow (draw p.1.id).now (fun _ serverItem => serverWinsResolution serverItem) p

theorem settles_resolving :
    Settles (settleResolving settings draw)
      (fun p => ∀ serverItem, p.2 = .conflict serverItem →
        (draw p.1.id).FreshFor p.1 serverItem)
      (resolverEffect draw) (mergeRows settings draw)
      (fun p => isStockConflict p && !settings.writable) := by
  refine ⟨fun p row => settledRow_id _ _ p row, ?_⟩
  intro p queue row hvalid hrow hpend hfresh
  cases hc : isConflict p with
  | false =>
    obtain ⟨hrows, hok⟩ := settleOutcome_plain (draw p.1.id).now
      (applyPushConflict settings (draw p.1.id)) (resolverMarker draw) hc hrow hpend
    rw [mergeRows_plain settings draw hc, isStockConflict_plain hc, List.append_nil]
    exact ⟨hrows, iff_of_true hok rfl⟩
  | true =>
    obtain ⟨item, outcome⟩ := p
    obtain ⟨serverItem, rfl⟩ := isConflict_iff.mp hc
    change (applyPushConflict settings (draw item.id) item serverItem queue).1.rows = _ ∧
      ((applyPushConflict settings (draw item.id) item serverItem queue).2 = .ok () ↔ _)
    rw [applyPushConflict_eq settings (hvalid serverItem rfl), markOfflineResolved_found hrow]
    by_cases hs : strategyOf item.action = .stockMerge
    · cases hw : settings.writable with
      | true =>
        have hok : settings.posWritable = .ok () := by
          cases hp : settings.posWritable with
          | ok u => rfl
          | error e => simp [QueueSettings.writable, hp, Except.isOk, Except.toBool] at hw
        have hnone := hfresh (newQueueItem settings (draw item.id) item.action
          (.json (mergedPayload item.payload serverItem.payload)) "default" .normal)
          (by simp [mergeRows, hw, isStockConflict, hs])
        obtain ⟨queue', henq, hrows⟩ := enqueueOffline_fresh (draw item.id) item.action
          (.json (mergedPayload item.payload serverItem.payload))
          (queue.update item.id (.markResolved (draw item.id).now
            (resolvedMarker (resolutionTag (resolveConflict (draw item.id) item serverItem))))
            (markResolved_id _ _)) hok
          (by rw [Table.find?_update]; simpa [newQueueItem] using hnone)
        simp [hs, henq, queueResult, hrows, mergeRows, hw, isStockConflict]
        rfl
      | false =>
        obtain ⟨e, henq⟩ := enqueueOffline_locked (draw item.id) item.action
          (.json (mergedPayload item.payload serverItem.payload))
          (queue.update item.id (.markResolved (draw item.id).now
            (resolvedMarker (resolutionTag (resolveConflict (draw item.id) item serverItem))))
            (markResolved_id _ _)) hw
        simp [hs, henq, queueResult, mergeRows, hw, isStockConflict]
        rfl
    · simp [hs, mergeRows, isStockConflict]
      rfl

theorem settles_serverWins :
    Settles (settleServerWins draw) (fun _ => True) (serverWinsEffect draw) (fun _ => [])
      (fun _ => false) := by
  refine ⟨fun p row => settledRow_id _ _ p row, ?_⟩
  intro p queue row _ hrow hpend _
  cases hc : isConflict p with
  | false =>
    obtain ⟨hrows, hok⟩ := settleOutcome_plain (draw p.1.id).now (fun item serverItem queue =>
      queueResult queue (markOfflineResolved (draw item.id).now item.id
        (serverWinsResolution serverItem) queue))
      (fun _ serverItem => serverWinsResolution serverItem) hc hrow hpend
    rw [List.append_nil]
    exact ⟨hrows, iff_of_true hok rfl⟩
  | true =>
    obtain ⟨item, outcome⟩ := p
    obtain ⟨serverItem, rfl⟩ := isConflict_iff.mp hc
    simp only [settleServerWins, settleOutcome, markOfflineResolved_found hrow, queueResult]
    exact ⟨by simp; rfl, by simp⟩

/-- Two queues that grew out of one: each old row looks alike, and the rows added carry the
same mutations. -/
def SameQueueState {β : Type} (view : OfflineQueueItem → β) (start q r : OfflineQueue) : Prop :=
  (∀ row ∈ start.rows, (q.find? row.id).map view = (r.find? row.id).map view) ∧
    (q.rows.filter (fun row => (start.find? row.id).isNone)).map (fun row => (row.action, row.payload)) =
      (r.rows.filter (fun row => (start.find? row.id).isNone)).map (fun row => (row.action, row.payload))

instance {β : Type} [DecidableEq β] (view : OfflineQueueItem → β) (start q r : OfflineQueue) :
    Decidable (SameQueueState view start q r) :=
  inferInstanceAs (Decidable (_ ∧ _))

variable (row : OfflineQueueItem)

/-- Status and retry information: the count, and why the row failed. -/
def retryView : OfflineQueueStatus × Int × Option String :=
  (row.status, row.retryCount, if row.status = .failed then row.lastError else none)

def markerView : OfflineQueueStatus × Int × Option String :=
  (row.status, row.retryCount, row.lastError)

/-- A queue after a batch: the old rows each settled, new rows behind them. -/
structure GrownFrom (start q : OfflineQueue) (settle : OfflineQueueItem → OfflineQueueItem)
    (new : List OfflineQueueItem) : Prop where
  settle_id : ∀ row, (settle row).id = row.id
  fresh : ∀ r ∈ new, start.find? r.id = none
  rows : q.rows = start.rows.map settle ++ new

variable {start q : OfflineQueue} {settle : OfflineQueueItem → OfflineQueueItem}
  {new : List OfflineQueueItem}

theorem GrownFrom.find? (h : GrownFrom start q settle new) {row : OfflineQueueItem}
    (hrow : row ∈ start.rows) : q.find? row.id = some (settle row) := by
  rw [Table.find?_eq_some_iff, h.rows]
  exact ⟨List.mem_append_left _ (List.mem_map_of_mem hrow), h.settle_id row⟩

theorem GrownFrom.added (h : GrownFrom start q settle new) :
    q.rows.filter (fun row => (start.find? row.id).isNone) = new := by
  have hold : (start.rows.map settle).filter (fun row => (start.find? row.id).isNone) = [] := by
    rw [List.filter_eq_nil_iff]
    intro r hr
    obtain ⟨row, hrow, rfl⟩ := List.mem_map.mp hr
    simp [h.settle_id, (Table.mem_rows_iff start row).mp hrow]
  have hnew : new.filter (fun row => (start.find? row.id).isNone) = new := by
    rw [List.filter_eq_self]
    intro r hr
    simp [h.fresh r hr]
  rw [h.rows, List.filter_append, hold, hnew, List.nil_append]

theorem sameQueueState_iff {β : Type} {view : OfflineQueueItem → β} {r : OfflineQueue}
    {settle' : OfflineQueueItem → OfflineQueueItem} {new' : List OfflineQueueItem}
    (hq : GrownFrom start q settle new) (hr : GrownFrom start r settle' new') :
    SameQueueState view start q r ↔
      (∀ row ∈ start.rows, view (settle row) = view (settle' row)) ∧
        new.map (fun row => (row.action, row.payload)) =
          new'.map (fun row => (row.action, row.payload)) := by
  unfold SameQueueState
  rw [hq.added, hr.added]
  apply and_congr_left
  intro _
  constructor
  · intro h row hrow
    have := h row hrow
    rw [hq.find? hrow, hr.find? hrow] at this
    exact Option.some.inj this
  · intro h row hrow
    rw [hq.find? hrow, hr.find? hrow, Option.map_some, Option.map_some, h row hrow]

section Loops

variable {step : SettledPair → OfflineQueue → QueueResult} {Valid : SettledPair → Prop}
  {effect : SettledPair → OfflineQueueItem → OfflineQueueItem}
  {enqueued : SettledPair → List OfflineQueueItem} {stops : SettledPair → Bool}

theorem settledBy_id (h : Settles step Valid effect enqueued stops) (pairs : List SettledPair)
    (row : OfflineQueueItem) : (settledBy effect pairs row).id = row.id := by
  unfold settledBy
  split
  · exact h.effect_id _ _
  · rfl

theorem logErrors_grown (h : Settles step Valid effect enqueued stops) {pairs : List SettledPair}
    {queue : OfflineQueue} (hs : Settleable Valid enqueued pairs queue) :
    GrownFrom queue (logErrors step pairs queue) (settledBy effect pairs)
      (pairs.flatMap enqueued) := by
  refine ⟨settledBy_id h pairs, ?_, logErrors_rows h pairs queue hs⟩
  intro r hr
  obtain ⟨p, hp, hrp⟩ := List.mem_flatMap.mp hr
  exact hs.fresh p hp r hrp

end Loops

theorem retryView_settledRow (now now' : String)
    (marker marker' : OfflineQueueItem → OfflineQueueItem → String) (p : SettledPair)
    (row : OfflineQueueItem) (hpend : row.status = .pending) :
    retryView (settledRow now marker p row) = retryView (settledRow now' marker' p row) ∧
      retryView (settledRow now marker p row) ≠ retryView row := by
  obtain ⟨item, outcome⟩ := p
  cases outcome with
  | accepted =>
    simp [settledRow, retryView, OfflineQueueItem.markSynced, hpend]
  | conflict serverItem =>
    simp [settledRow, retryView, OfflineQueueItem.markResolved, hpend]
  | rejected reason =>
    by_cases hdup : isDuplicateIdRejection reason = true
    · simp [settledRow, retryView, hdup, OfflineQueueItem.markSynced, hpend]
    · simp [settledRow, retryView, hdup, OfflineQueueItem.markFailed]

theorem mergeRows_ids (settings : QueueSettings) (draw : String → Draw) (p : SettledPair) :
    ∀ r ∈ mergeRows settings draw p, r.id = (draw p.1.id).rowId := by
  intro r hr
  rcases mergeRows_cases settings draw p with ⟨-, hrows⟩ | ⟨-, payload, hrows⟩
  · simp [hrows] at hr
  · rw [hrows, List.mem_singleton] at hr
    rw [hr]
    rfl

theorem mergeRows_sublist (settings : QueueSettings) (draw : String → Draw)
    (pairs : List SettledPair) :
    ((pairs.flatMap (mergeRows settings draw)).map OfflineQueueItem.id).Sublist
      (pairs.map (fun p => (draw p.1.id).rowId)) := by
  induction pairs with
  | nil => exact List.Sublist.refl _
  | cons p rest ih =>
    rw [List.flatMap_cons, List.map_append, List.map_cons]
    rcases mergeRows_cases settings draw p with ⟨-, hrows⟩ | ⟨-, payload, hrows⟩
    · rw [hrows]
      exact ih.cons _
    · rw [hrows]
      exact ih.cons_cons _

theorem resolvedMarker_inj {a b : String} (h : resolvedMarker a = resolvedMarker b) : a = b := by
  have htext := congrArg String.toList h
  unfold resolvedMarker at htext
  rw [String.toList_append, String.toList_append, String.toList_append, String.toList_append] at htext
  exact String.toList_inj.mp (List.append_cancel_left (List.append_cancel_right htext))

theorem serverWinsResolution_head (serverItem : OfflineQueueItem) :
    (serverWinsResolution serverItem).toList.head? = some 's' := by
  unfold serverWinsResolution
  rw [String.toList_append, String.toList_append, List.append_assoc]
  rfl

theorem resolutionTag_head (resolved : ResolvedItem) :
    (resolutionTag resolved).toList.head? ≠ some 's' := by
  unfold resolutionTag
  split
  · decide
  · split
    · decide
    · decide

theorem resolverMarker_ne (draw : String → Draw) (l s : OfflineQueueItem) :
    resolvedMarker (resolverMarker draw l s) ≠ resolvedMarker (serverWinsResolution s) := by
  intro h
  have htag := resolutionTag_head (resolveConflict (draw l.id) l s)
  have heq : resolutionTag (resolveConflict (draw l.id) l s) = serverWinsResolution s :=
    resolvedMarker_inj h
  rw [heq, serverWinsResolution_head] at htag
  exact htag rfl

theorem zip_fst_sublist {α β : Type} (l : List α) (r : List β) :
    ((l.zip r).map Prod.fst).Sublist l := by
  induction l generalizing r with
  | nil => exact List.Sublist.refl _
  | cons a l ih =>
    cases r with
    | nil => exact List.nil_sublist _
    | cons b r => exact (ih r).cons_cons a

/-- The end queues of the three appliers over one batch. -/
structure AppliersGrown (settings : QueueSettings) (drawLib drawDaemon drawCore : String → Draw)
    (pairs : List SettledPair) (queue lib daemon core : OfflineQueue) : Prop where
  lib : GrownFrom queue lib
    (settledBy (resolverEffect drawLib)
      (upToStop (fun p => isStockConflict p && !settings.writable) pairs))
    ((upToStop (fun p => isStockConflict p && !settings.writable) pairs).flatMap
      (mergeRows settings drawLib))
  daemon : GrownFrom queue daemon (settledBy (resolverEffect drawDaemon) pairs)
    (pairs.flatMap (mergeRows settings drawDaemon))
  core : GrownFrom queue core (settledBy (serverWinsEffect drawCore) pairs) []

section Agreement

variable {settings : QueueSettings} {draw drawLib drawDaemon drawCore : String → Draw}
  {pending : List OfflineQueueItem} {queue lib daemon core : OfflineQueue}

theorem zip_pending (hpending : ∀ item ∈ pending, queue.find? item.id = some item ∧
      item.status = .pending) (results : List PushOutcome) :
    ∀ p ∈ pending.zip results, ∃ row, queue.find? p.1.id = some row ∧ row.status = .pending := by
  intro p hp
  obtain ⟨item, outcome⟩ := p
  obtain ⟨hrow, hpend⟩ := hpending item (List.of_mem_zip hp).1
  exact ⟨item, hrow, hpend⟩

theorem zip_distinct (hnodup : (pending.map OfflineQueueItem.id).Nodup)
    (results : List PushOutcome) : ((pending.zip results).map (fun p => p.1.id)).Nodup := by
  have hmap := (zip_fst_sublist pending results).map OfflineQueueItem.id
  rw [List.map_map] at hmap
  exact hnodup.sublist hmap

variable {pairs : List SettledPair}

theorem flatMap_mergeRows_eq_nil_iff :
    pairs.flatMap (mergeRows settings draw) = [] ↔
      (settings.writable = true → ∀ p ∈ pairs, isStockConflict p = false) := by
  rw [List.flatMap_eq_nil_iff, forall_comm]
  apply forall_congr'
  intro p
  rcases mergeRows_cases settings draw p with ⟨hm, hrows⟩ | ⟨hm, payload, hrows⟩
  · cases hw : settings.writable <;> simp_all
  · simp_all

variable {now now' : SettledPair → String}
  {marker : SettledPair → OfflineQueueItem → OfflineQueueItem → String}

theorem markerView_settledBy_plain
    {marker' : SettledPair → OfflineQueueItem → OfflineQueueItem → String} (hplain : ∀ p ∈ pairs, isConflict p = false)
    (row : OfflineQueueItem) :
    markerView (settledBy (fun p => settledRow (now p) (marker p) p) pairs row) =
      markerView (settledBy (fun p => settledRow (now' p) (marker' p) p) pairs row) := by
  unfold settledBy
  cases hf : pairs.find? (fun p => p.1.id = row.id) with
  | none => rfl
  | some p =>
    have hp := hplain p (List.mem_of_find?_eq_some hf)
    obtain ⟨item, outcome⟩ := p
    cases outcome with
    | accepted => rfl
    | rejected reason =>
      by_cases hdup : isDuplicateIdRejection reason = true
      · simp [settledRow, hdup, markerView, OfflineQueueItem.markSynced]
      · simp [settledRow, hdup]
    | conflict serverItem => simp [isConflict] at hp

variable (hdistinct : (pairs.map (fun p => p.1.id)).Nodup)

include hdistinct

theorem markerView_settledBy_ne (hp : p ∈ pairs) (hc : isConflict p = true) {row : OfflineQueueItem}
    (hrow : row.id = p.1.id) :
    markerView (settledBy (fun p => settledRow (now p) (resolverMarker draw) p) pairs row) ≠
      markerView (settledBy (fun p => settledRow (now' p)
        (fun _ serverItem => serverWinsResolution serverItem) p) pairs row) := by
  rw [settledBy_mem hdistinct hp hrow, settledBy_mem hdistinct hp hrow]
  obtain ⟨item, outcome⟩ := p
  cases outcome with
  | accepted => simp [isConflict] at hc
  | rejected reason => simp [isConflict] at hc
  | conflict serverItem =>
    simp [markerView, settledRow, OfflineQueueItem.markResolved, resolverMarker_ne]

variable
  (hpending : ∀ p ∈ pairs, ∃ row, queue.find? p.1.id = some row ∧ row.status = .pending)

include hpending

theorem settleable_resolving (settings : QueueSettings) (hdraw : FreshDraws draw queue pairs) :
    Settleable (fun p => ∀ serverItem, p.2 = .conflict serverItem →
      (draw p.1.id).FreshFor p.1 serverItem) (mergeRows settings draw) pairs queue := by
  refine ⟨hdraw.winners, hpending, hdistinct, ?_,
    hdraw.distinct.sublist (mergeRows_sublist settings draw pairs)⟩
  intro p hp r hr
  rw [mergeRows_ids settings draw p r hr]
  exact hdraw.rows p hp

theorem settleable_serverWins : Settleable (fun _ => True) (fun _ => []) pairs queue := by
  have hnone : pairs.flatMap (fun _ => ([] : List OfflineQueueItem)) = [] := by simp
  refine ⟨fun _ _ => trivial, hpending, hdistinct, ?_, by rw [hnone]; exact List.nodup_nil⟩
  intro p _ r hr
  cases hr

omit hdistinct in
theorem retryView_settledBy {marker' : SettledPair → OfflineQueueItem → OfflineQueueItem → String}
    {row : OfflineQueueItem} (hrow : row ∈ queue.rows) :
    retryView (settledBy (fun p => settledRow (now p) (marker p) p) pairs row) =
      retryView (settledBy (fun p => settledRow (now' p) (marker' p) p) pairs row) := by
  unfold settledBy
  cases hf : pairs.find? (fun p => p.1.id = row.id) with
  | none => rfl
  | some p =>
    have hid : p.1.id = row.id := by simpa using List.find?_some hf
    obtain ⟨r, hr, hpend⟩ := hpending p (List.mem_of_find?_eq_some hf)
    have heq : r = row := by
      rw [hid, (Table.mem_rows_iff queue row).mp hrow] at hr
      exact (Option.some.inj hr).symm
    exact (retryView_settledRow _ _ _ _ p row (heq ▸ hpend)).1

theorem retryView_upToStop_iff {stops : SettledPair → Bool} :
    (∀ row ∈ queue.rows,
        retryView (settledBy (fun p => settledRow (now p) (marker p) p) (upToStop stops pairs) row) =
          retryView (settledBy (fun p => settledRow (now p) (marker p) p) pairs row)) ↔
      upToStop stops pairs = pairs := by
  constructor
  · intro h
    apply (upToStop_sublist stops pairs).eq_of_length_le
    by_contra hlen
    have hsub := upToStop_sublist stops pairs
    obtain ⟨p, hp, hout⟩ : ∃ p ∈ pairs, p ∉ upToStop stops pairs := by
      by_contra hall
      simp only [not_exists, not_and, not_not] at hall
      have hle := (hdistinct.of_map _).subperm (fun p hp => hall p hp)
      exact hlen hle.length_le
    obtain ⟨row, hrow, hpend⟩ := hpending p hp
    have hid := Table.find?_key hrow
    have hmem := ((Table.find?_eq_some_iff queue p.1.id row).mp hrow).1
    have hskip : row.id ∉ (upToStop stops pairs).map (fun p => p.1.id) := by
      intro hin
      obtain ⟨q, hq, hqid⟩ := List.mem_map.mp hin
      have heq : q = p := List.inj_on_of_nodup_map hdistinct (hsub.subset hq) hp
        (by rw [hqid, hid])
      exact hout (heq ▸ hq)
    have hview := h row hmem
    rw [settledBy_not_mem hskip, settledBy_mem hdistinct hp hid] at hview
    exact (retryView_settledRow (now p) (now p) (marker p) (marker p) p row hpend).2 hview.symm
  · intro h row _
    rw [h]

theorem retry_agreement_iff
    (hgrown : AppliersGrown settings drawLib drawDaemon drawCore pairs queue lib daemon core) :
    SameQueueState retryView queue lib daemon ∧ SameQueueState retryView queue daemon core ↔
      (settings.writable = true → ∀ p ∈ pairs, isStockConflict p = false) ∧
        ∀ p ∈ pairs.dropLast, isStockConflict p = false := by
  rw [sameQueueState_iff hgrown.lib hgrown.daemon, sameQueueState_iff hgrown.daemon hgrown.core,
    List.map_nil, List.map_eq_nil_iff, flatMap_mergeRows_eq_nil_iff]
  have hviews : ∀ (draw draw' : String → Draw), ∀ row ∈ queue.rows,
      retryView (settledBy (resolverEffect draw) pairs row) =
        retryView (settledBy (resolverEffect draw') pairs row) :=
    fun draw draw' row hrow => retryView_settledBy hpending hrow
  have hserver : ∀ row ∈ queue.rows, retryView (settledBy (resolverEffect drawDaemon) pairs row) =
      retryView (settledBy (serverWinsEffect drawCore) pairs row) :=
    fun row hrow => retryView_settledBy hpending hrow
  constructor
  · rintro ⟨⟨hsame, _⟩, _, hnone⟩
    refine ⟨hnone, ?_⟩
    have hup := (retryView_upToStop_iff hdistinct hpending).mp
      (fun row hrow => (hsame row hrow).trans (hviews drawDaemon drawLib row hrow))
    intro p hp
    have hgo := (upToStop_eq_iff _ pairs).mp hup p hp
    cases hw : settings.writable with
    | true => exact hnone hw p (List.dropLast_subset pairs hp)
    | false => simpa [hw] using hgo
  · rintro ⟨hnone, hlast⟩
    have hup : upToStop (fun p => isStockConflict p && !settings.writable) pairs = pairs :=
      (upToStop_eq_iff _ pairs).mpr (fun p hp => by rw [hlast p hp, Bool.false_and])
    rw [hup]
    refine ⟨⟨hviews drawLib drawDaemon, ?_⟩, hserver, hnone⟩
    rw [flatMap_mergeRows_eq_nil_iff.mpr hnone, flatMap_mergeRows_eq_nil_iff.mpr hnone]

theorem marker_agreement_iff
    (hgrown : AppliersGrown settings drawLib drawDaemon drawCore pairs queue lib daemon core) :
    SameQueueState markerView queue lib daemon ∧ SameQueueState markerView queue daemon core ↔
      ∀ p ∈ pairs, isConflict p = false := by
  rw [sameQueueState_iff hgrown.lib hgrown.daemon, sameQueueState_iff hgrown.daemon hgrown.core,
    List.map_nil, List.map_eq_nil_iff, flatMap_mergeRows_eq_nil_iff]
  constructor
  · rintro ⟨_, hsame, _⟩ p hp
    by_contra hc
    rw [Bool.not_eq_false] at hc
    obtain ⟨row, hrow, _⟩ := hpending p hp
    have hmem := ((Table.find?_eq_some_iff queue p.1.id row).mp hrow).1
    exact markerView_settledBy_ne hdistinct hp hc (Table.find?_key hrow) (hsame row hmem)
  · intro hplain
    have hstock : ∀ p ∈ pairs, isStockConflict p = false :=
      fun p hp => isStockConflict_plain (hplain p hp)
    have hup : upToStop (fun p => isStockConflict p && !settings.writable) pairs = pairs :=
      (upToStop_eq_iff _ pairs).mpr
        (fun p hp => by rw [hstock p (List.dropLast_subset pairs hp), Bool.false_and])
    rw [hup]
    refine ⟨⟨fun row _ => markerView_settledBy_plain hplain row, ?_⟩,
      fun row _ => markerView_settledBy_plain hplain row, fun _ => hstock⟩
    rw [flatMap_mergeRows_eq_nil_iff.mpr (fun _ => hstock),
      flatMap_mergeRows_eq_nil_iff.mpr (fun _ => hstock)]

end Agreement

/-- The three appliers agree on status, retries and winners exactly when no conflict on a
stock item is enqueued for, and none but the last ends the library's batch; they agree on
every marker exactly when the server reports no conflict at all. -/
theorem push_appliers_agree_iff (settings : QueueSettings)
    (drawLib drawDaemon drawCore : String → Draw) (pending : List OfflineQueueItem)
    (results : List PushOutcome) (queue : OfflineQueue)
    (hpending : ∀ item ∈ pending, queue.find? item.id = some item ∧ item.status = .pending)
    (hnodup : (pending.map OfflineQueueItem.id).Nodup)
    (hlib : FreshDraws drawLib queue (pending.zip results))
    (hdaemon : FreshDraws drawDaemon queue (pending.zip results)) :
    (SameQueueState retryView queue (applyPushOutcomes settings drawLib pending results queue).1
          (applyPushResults settings drawDaemon pending results queue) ∧
        SameQueueState retryView queue
          (applyPushResults settings drawDaemon pending results queue)
          (applySyncOutcomes drawCore pending results queue).1 ↔
      (settings.writable = true → ∀ p ∈ pending.zip results, isStockConflict p = false) ∧
        ∀ p ∈ (pending.zip results).dropLast, isStockConflict p = false) ∧
    (SameQueueState markerView queue (applyPushOutcomes settings drawLib pending results queue).1
          (applyPushResults settings drawDaemon pending results queue) ∧
        SameQueueState markerView queue
          (applyPushResults settings drawDaemon pending results queue)
          (applySyncOutcomes drawCore pending results queue).1 ↔
      ∀ p ∈ pending.zip results, isConflict p = false) := by
  have hp := zip_pending hpending results
  have hd := zip_distinct hnodup results
  have hgrown : AppliersGrown settings drawLib drawDaemon drawCore (pending.zip results) queue
      (applyPushOutcomes settings drawLib pending results queue).1
      (applyPushResults settings drawDaemon pending results queue)
      (applySyncOutcomes drawCore pending results queue).1 := by
    have hLib := settleable_resolving hd hp settings hlib
    have hCore := settleable_serverWins hd hp
    refine ⟨?_, ?_, ?_⟩
    · rw [applyPushOutcomes, propagate_eq (settles_resolving settings drawLib) _ _ hLib]
      exact logErrors_grown (settles_resolving settings drawLib)
        (hLib.sublist (upToStop_sublist _ _))
    · exact logErrors_grown (settles_resolving settings drawDaemon)
        (settleable_resolving hd hp settings hdaemon)
    · have hall : upToStop (fun _ => false) (pending.zip results) = pending.zip results :=
        (upToStop_eq_iff _ _).mpr (fun _ _ => rfl)
      have hgrown := logErrors_grown (settles_serverWins drawCore) hCore
      have hqueue := propagate_eq (settles_serverWins drawCore) _ _ hCore
      rw [hall] at hqueue
      have hnone : (pending.zip results).flatMap (fun _ => ([] : List OfflineQueueItem)) = [] := by
        simp
      rw [← hqueue, hnone] at hgrown
      exact hgrown
  exact ⟨retry_agreement_iff hd hp hgrown, marker_agreement_iff hd hp hgrown⟩

def adjusted (id : String) (delta : Int) : OfflineQueueItem :=
  queued id "stock.adjusted" (.obj [("delta", .int delta), ("sku", .str "KOPI")])
    "2026-01-01T00:00:00.000Z" (some "term-A")

def itemDraw (id : String) : Draw := ⟨"2026-01-02T00:00:00.000Z", "row-" ++ id, "merge-" ++ id⟩

def twoItems : List OfflineQueueItem := [versioned (uuidOf "1") 1 100, adjusted (uuidOf "2") 5]

def twoItemQueue : OfflineQueue := (singleQueue (versioned (uuidOf "1") 1 100)).insertNew
  (adjusted (uuidOf "2") 5)

theorem push_appliers_agree_product_conflict :
    SameQueueState retryView twoItemQueue
        (applyPushOutcomes openSettings itemDraw twoItems
          [.conflict (versioned (uuidOf "3") 2 90), .accepted] twoItemQueue).1
        (applyPushResults openSettings itemDraw twoItems
          [.conflict (versioned (uuidOf "3") 2 90), .accepted] twoItemQueue) ∧
      SameQueueState retryView twoItemQueue
        (applyPushResults openSettings itemDraw twoItems
          [.conflict (versioned (uuidOf "3") 2 90), .accepted] twoItemQueue)
        (applySyncOutcomes itemDraw twoItems
          [.conflict (versioned (uuidOf "3") 2 90), .accepted] twoItemQueue).1 := by
  have hdraw : FreshDraws itemDraw twoItemQueue
      (twoItems.zip [.conflict (versioned (uuidOf "3") 2 90), .accepted]) := by
    refine ⟨by decide, by decide, ?_⟩
    intro p hp serverItem hc
    simp only [twoItems, List.zip_cons_cons, List.zip_nil_right, List.mem_cons, List.not_mem_nil,
      or_false] at hp
    rcases hp with rfl | rfl
    · cases hc
      decide
    · cases hc
  exact (push_appliers_agree_iff openSettings itemDraw itemDraw itemDraw twoItems
    [.conflict (versioned (uuidOf "3") 2 90), .accepted] twoItemQueue (by decide) (by decide)
    hdraw hdraw).1.mpr (by decide)

theorem stock_winner_missing_at_boundary :
    ¬ SameQueueState retryView twoItemQueue
        (applyPushResults openSettings itemDraw twoItems
          [.accepted, .conflict (adjusted (uuidOf "3") 2)] twoItemQueue)
        (applySyncOutcomes itemDraw twoItems
          [.accepted, .conflict (adjusted (uuidOf "3") 2)] twoItemQueue).1 := by
  decide

end OzPos
