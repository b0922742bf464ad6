import OzPos.Client.Conflict

namespace OzPos

abbrev QueueResult := OfflineQueue × Except CoreError Unit

def queueResult (queue : OfflineQueue) : Except CoreError OfflineQueue → QueueResult
  | .ok queue' => (queue', .ok ())
  | .error e => (queue, .error e)

variable (resolved : ResolvedItem)

def resolutionTag : String :=
  if resolved.localItem.any (fun l => resolved.winner.id = l.id) then "local won"
  else if resolved.remoteItem.any (fun r => resolved.winner.id = r.id) then "remote won"
  else "crdt merge"

def isNewWinner : Bool :=
  !resolved.localItem.any (fun l => resolved.winner.id = l.id) &&
    !resolved.remoteItem.any (fun r => resolved.winner.id = r.id)

variable (settings : QueueSettings) (draw : Draw)

def applyResolution (resolved : ResolvedItem) (queue : OfflineQueue) : QueueResult :=
  let marked :=
    match resolved.localItem with
    | some l => markOfflineResolved draw.now l.id (resolutionTag resolved) queue
    | none => .ok queue
  match marked with
  | .error e => (queue, .error e)
  | .ok marked =>
    if isNewWinner resolved then
      queueResult marked
        (enqueueOffline settings draw resolved.winner.action resolved.winner.payload marked)
    else (marked, .ok ())

variable (localItem serverItem : OfflineQueueItem)

def applyPushConflict (queue : OfflineQueue) : QueueResult :=
  applyResolution settings draw (resolveConflict draw localItem serverItem) queue

variable (a b : OfflineQueueItem)

def SameMutation : Prop := a.action = b.action ∧ a.payload = b.payload

instance : Decidable (SameMutation a b) :=
  inferInstanceAs (Decidable (_ ∧ _))

/-- The mutation is stored at the server, or waits in the queue to be pushed. -/
def ReachesServer (winner serverItem : OfflineQueueItem) (queue : OfflineQueue) : Prop :=
  SameMutation winner serverItem ∨
    ∃ row ∈ queue.rows, row.status = .pending ∧ SameMutation row winner

variable {queue : OfflineQueue}

theorem pending_markResolved {now marker id : String} {row : OfflineQueueItem} :
    (row ∈ (queue.update id (.markResolved now marker) (markResolved_id now marker)).rows ∧
        row.status = .pending) ↔
      row ∈ queue.rows ∧ row.id ≠ id ∧ row.status = .pending := by
  rw [Table.mem_update]
  constructor
  · rintro ⟨⟨r, hr, heq⟩, hp⟩
    by_cases hid : r.id = id
    · rw [if_pos hid] at heq
      rw [heq] at hp
      simp [OfflineQueueItem.markResolved] at hp
    · rw [if_neg hid] at heq
      subst heq
      exact ⟨hr, hid, hp⟩
  · rintro ⟨hr, hid, hp⟩
    exact ⟨⟨row, hr, by rw [if_neg hid]⟩, hp⟩

def Draw.FreshFor : Prop :=
  draw.winnerId ≠ localItem.id ∧ draw.winnerId ≠ serverItem.id

instance (l r : OfflineQueueItem) : Decidable (draw.FreshFor l r) :=
  inferInstanceAs (Decidable (_ ∧ _))

variable {draw : Draw} {l r : OfflineQueueItem}

theorem isNewWinner_resolveConflict (hfresh : draw.FreshFor l r) :
    isNewWinner (resolveConflict draw l r) = decide (strategyOf l.action = .stockMerge) := by
  obtain ⟨hl, hr, ⟨hs, heq⟩ | ⟨hs, hw⟩⟩ := resolveConflict_cases draw l r
  · rw [heq]
    simp [isNewWinner, resolveStockCrdt, hs, hfresh.1, hfresh.2]
  · cases hwin : localWins l r <;> simp [isNewWinner, hl, hr, hw, hs, hwin]

theorem applyPushConflict_eq (hfresh : draw.FreshFor l r) :
    applyPushConflict settings draw l r queue =
      match markOfflineResolved draw.now l.id (resolutionTag (resolveConflict draw l r)) queue with
      | .error e => (queue, .error e)
      | .ok marked =>
        if strategyOf l.action = .stockMerge then
          queueResult marked (enqueueOffline settings draw l.action
            (.json (mergedPayload l.payload r.payload)) marked)
        else (marked, .ok ()) := by
  obtain ⟨hl, hr, hcases⟩ := resolveConflict_cases draw l r
  simp only [applyPushConflict, applyResolution, hl, isNewWinner_resolveConflict hfresh]
  cases markOfflineResolved draw.now l.id (resolutionTag (resolveConflict draw l r)) queue with
  | error e => rfl
  | ok marked =>
    rcases hcases with ⟨hs, heq⟩ | ⟨hs, hw⟩
    · simp [hs, heq, resolveStockCrdt]
    · simp [hs]

theorem applyPushConflict_kept_iff {settings : QueueSettings} {queue' : OfflineQueue}
    (hfresh : draw.FreshFor l r)
    (h : applyPushConflict settings draw l r queue = (queue', .ok ())) :
    ReachesServer (resolveConflict draw l r).winner r queue' ↔
      localWins l r = false ∨ SameMutation l r ∨
        ∃ row ∈ queue.rows, row.id ≠ l.id ∧ row.status = .pending ∧ SameMutation row l := by
  rw [applyPushConflict_eq settings hfresh] at h
  cases hrow : queue.find? l.id with
  | none => simp [markOfflineResolved, hrow] at h
  | some row =>
    rw [markOfflineResolved_found hrow] at h
    obtain ⟨_, _, ⟨hs, heq⟩ | ⟨hs, hw⟩⟩ := resolveConflict_cases draw l r
    · have hlose : localWins l r = false := by simp [localWins, hs]
      simp only [hs, if_true] at h
      cases henq : enqueueOffline settings draw l.action
          (.json (mergedPayload l.payload r.payload))
          (queue.update l.id (.markResolved draw.now
            (resolvedMarker (resolutionTag (resolveConflict draw l r)))) (markResolved_id _ _)) with
      | error e => simp [henq, queueResult] at h
      | ok stored =>
        simp only [henq, queueResult, Prod.mk.injEq, and_true] at h
        obtain ⟨_, hins⟩ := enqueueOffline_ok_iff.mp henq
        have hmem := Table.insert?_rows hins
        have hkept : ReachesServer (resolveConflict draw l r).winner r queue' := by
          refine .inr ⟨newQueueItem settings draw l.action
            (.json (mergedPayload l.payload r.payload)) "default" .normal, ?_, rfl, ?_⟩
          · rw [← h, hmem]
            exact List.mem_append_right _ (List.mem_singleton.mpr rfl)
          · rw [heq]
            exact ⟨rfl, rfl⟩
        exact iff_of_true hkept (.inl hlose)
    · simp only [if_neg hs, Prod.mk.injEq, and_true] at h
      rw [← h, ReachesServer, hw]
      cases hwin : localWins l r with
      | false => simp [SameMutation]
      | true =>
        simp only [if_true, reduceCtorEq, false_or]
        apply or_congr Iff.rfl
        apply exists_congr
        intro row
        rw [← and_assoc, pending_markResolved]
        tauto

/-- The winner is lost exactly when the local item wins and nothing else carries it. -/
theorem push_conflict_winner_kept_iff (draw : Draw)
    (l r : OfflineQueueItem) (queue : OfflineQueue) (hfresh : draw.FreshFor l r)
    (h : (applyPushConflict settings draw l r queue).2 = .ok ()) :
    ReachesServer (resolveConflict draw l r).winner r
        (applyPushConflict settings draw l r queue).1 ↔
      localWins l r = false ∨ SameMutation l r ∨
        ∃ row ∈ queue.rows, row.id ≠ l.id ∧ row.status = .pending ∧ SameMutation row l :=
  applyPushConflict_kept_iff hfresh (Prod.ext rfl h)

def openSettings : QueueSettings := ⟨.ok (), some "term-A"⟩

def sampleDraw : Draw := ⟨"2026-01-02T00:00:00.000Z", uuidOf "8", uuidOf "9"⟩

def versioned (id : String) (version price : Int) : OfflineQueueItem :=
  queued id "product.updated" (.obj [("price", .int price), ("version", .int version)])
    "2026-01-01T00:00:00.000Z" (some "term-A")

def singleQueue (item : OfflineQueueItem) : OfflineQueue := Table.empty.insertNew item

theorem push_conflict_winner_kept_remote :
    ReachesServer (resolveConflict sampleDraw (versioned (uuidOf "1") 1 100)
        (versioned (uuidOf "2") 2 90)).winner (versioned (uuidOf "2") 2 90)
      (applyPushConflict openSettings sampleDraw (versioned (uuidOf "1") 1 100)
        (versioned (uuidOf "2") 2 90) (singleQueue (versioned (uuidOf "1") 1 100))).1 :=
  (push_conflict_winner_kept_iff openSettings sampleDraw (versioned (uuidOf "1") 1 100)
    (versioned (uuidOf "2") 2 90) (singleQueue (versioned (uuidOf "1") 1 100)) (by decide)
    rfl).mpr (by decide)

theorem local_winner_dropped :
    (applyPushConflict openSettings sampleDraw (versioned (uuidOf "1") 2 100)
        (versioned (uuidOf "2") 1 90) (singleQueue (versioned (uuidOf "1") 2 100))).2 = .ok () ∧
      ¬ ReachesServer (resolveConflict sampleDraw (versioned (uuidOf "1") 2 100)
          (versioned (uuidOf "2") 1 90)).winner (versioned (uuidOf "2") 1 90)
        (applyPushConflict openSettings sampleDraw (versioned (uuidOf "1") 2 100)
          (versioned (uuidOf "2") 1 90) (singleQueue (versioned (uuidOf "1") 2 100))).1 := by
  constructor
  · rfl
  · unfold ReachesServer
    decide

end OzPos
