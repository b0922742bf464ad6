import OzPos.Library.Run
import OzPos.Crdt.PushStamp
import OzPos.Server.SyncStore

namespace OzPos

/-- A mutation the server took in, under the counter its terminal stamped. -/
structure StampedPush where
  key : EntityKey
  terminalId : String
  counter : Nat

/-- One tenant's terminals around the server: `received` lists the item ids a terminal has
pulled or pushed, `pushed` what the server took in. -/
structure CausalState where
  store : SyncStore
  counters : String → Nat
  received : String → List String
  pushed : List StampedPush

inductive CausalEvent where
  | push (terminalId : String) (item : OfflineQueueItem)
  | pull (terminalId : String) (req : PullRequest)
  | restart (terminalId : String) (persisted : Nat)

def CausalState.initial : CausalState := ⟨SyncStore.empty, fun _ => 0, fun _ => [], []⟩

variable (s : CausalState) (terminalId : String)

def nextStamp : Nat :=
  min (s.counters terminalId + 1) counterMax

def stampedPayload (item : OfflineQueueItem) : Payload :=
  stampPayload item.payload terminalId (nextStamp s terminalId)

variable (tenantId : String)

def pushKey (s : CausalState) (terminalId : String) (item : OfflineQueueItem) : EntityKey :=
  ⟨tenantId, item.action, entityIdOf (stampedPayload s terminalId item) item.id⟩

def isObject (payload : Payload) : Bool :=
  match payload.value? with
  | some (.obj _) => true
  | _ => false

def causalPush (s : CausalState) (terminalId : String) (item : OfflineQueueItem) : CausalState :=
  let stamped := { item with payload := stampedPayload s terminalId item }
  let counters := Function.update s.counters terminalId ((s.counters terminalId + 1) % 2^64)
  match s.store.pushBatch PushFaults.none tenantId [stamped] with
  | (store, .error _) => { s with store, counters }
  | (store, .ok _) =>
    { store, counters,
      received := Function.update s.received terminalId (item.id :: s.received terminalId)
      pushed :=
        if isObject item.payload then
          ⟨pushKey tenantId s terminalId item, terminalId, nextStamp s terminalId⟩ :: s.pushed
        else s.pushed }

def causalPull (s : CausalState) (terminalId : String) (req : PullRequest) : CausalState :=
  match pullHandler ⟨some tenantId, some terminalId⟩ req s.store with
  | .error _ => s
  | .ok page =>
    let ids := page.items.map OfflineQueueItem.id
    { s with received := Function.update s.received terminalId (ids ++ s.received terminalId) }

def terminals : Machine CausalState CausalEvent Unit where
  step s
    | .push terminalId item => (causalPush tenantId s terminalId item, ())
    | .pull terminalId req => (causalPull tenantId s terminalId req, ())
    | .restart terminalId persisted =>
      ({ s with counters := Function.update s.counters terminalId (persisted % 2^64) }, ())

/-- Every mutation stored for the entity was pulled or pushed by the terminal. -/
def CaughtUp (key : EntityKey) : Prop :=
  ∀ r ∈ s.store.queue.rows, r.tenantId = key.tenantId → r.action = key.entityType →
    entityIdOf r.payload r.id = key.entityId → r.id ∈ s.received terminalId

instance (key : EntityKey) : Decidable (CaughtUp s terminalId key) :=
  inferInstanceAs (Decidable (∀ r ∈ s.store.queue.rows, r.tenantId = key.tenantId →
    r.action = key.entityType → entityIdOf r.payload r.id = key.entityId →
      r.id ∈ s.received terminalId))

/-- A caught-up terminal's push is not classified as concurrent. -/
def SoundlyDetected (s : CausalState) : CausalEvent → Prop
  | .push terminalId item => CaughtUp s terminalId (pushKey tenantId s terminalId item) →
      ∀ vector, extractVector (stampedPayload s terminalId item) = some vector →
        (s.store.conflictStore.vectorOf (pushKey tenantId s terminalId item)).compare vector
          ≠ .concurrent
  | _ => True

/-- The entity was pushed by the terminal alone, or the stamp is one the terminal has
already reached on it. -/
def OwnHistory (s : CausalState) : CausalEvent → Prop
  | .push terminalId item => CaughtUp s terminalId (pushKey tenantId s terminalId item) →
      isObject item.payload = true →
        (∀ p ∈ s.pushed, p.key = pushKey tenantId s terminalId item → p.terminalId = terminalId) ∨
        ∃ p ∈ s.pushed, p.key = pushKey tenantId s terminalId item ∧ p.terminalId = terminalId ∧
          nextStamp s terminalId ≤ p.counter
  | _ => True

/-- The stored vector of an entity is, terminal by terminal, the greatest counter pushed. -/
structure TracksPushes (s : CausalState) : Prop where
  positive : ∀ p ∈ s.pushed, 0 < p.counter
  le : ∀ p ∈ s.pushed, p.counter ≤ (s.store.conflictStore.vectorOf p.key).get p.terminalId
  reached : ∀ key t, 0 < (s.store.conflictStore.vectorOf key).get t →
    ∃ p ∈ s.pushed, p.key = key ∧ p.terminalId = t ∧
      p.counter = (s.store.conflictStore.vectorOf key).get t

theorem nextStamp_le :
    nextStamp s terminalId ≤ counterMax := min_le_right _ _

theorem nextStamp_pos : 0 < nextStamp s terminalId := by
  have : 0 < counterMax := by decide
  unfold nextStamp
  omega

theorem extractVector_stamped (item : OfflineQueueItem) (hobject : isObject item.payload = true) :
    extractVector (stampedPayload s terminalId item) =
      some (VersionVector.single terminalId (nextStamp s terminalId)) := by
  unfold isObject at hobject
  split at hobject
  · rename_i members hm
    exact extractVector_stampPayload hm terminalId (nextStamp_le s terminalId)
  · simp at hobject

/-- A single-entry stamp is concurrent with a stored vector exactly when it is new to its
own terminal and another terminal has counted there. -/
theorem single_concurrent_iff (v : VersionVector) (terminalId : String) (counter : Nat) :
    v.compare (VersionVector.single terminalId counter) = .concurrent ↔
      v.get terminalId < counter ∧ ∃ t, t ≠ terminalId ∧ 0 < v.get t := by
  rw [VersionVector.compare_eq_concurrent_iff]
  simp only [Pi.le_def, VersionVector.get_single, not_forall, not_le]
  constructor
  · rintro ⟨⟨t, ht⟩, ⟨u, hu⟩⟩
    by_cases hu' : terminalId = u
    · subst hu'
      rw [if_pos rfl] at hu
      refine ⟨hu, t, ?_, ?_⟩
      · rintro rfl
        rw [if_pos rfl] at ht
        omega
      · split at ht
        · omega
        · exact ht
    · rw [if_neg hu'] at hu
      omega
  · rintro ⟨hlt, t, hne, ht⟩
    refine ⟨⟨t, ?_⟩, ⟨terminalId, ?_⟩⟩
    · rw [if_neg (Ne.symm hne)]
      exact ht
    · rw [if_pos rfl]
      exact hlt

theorem extractVector_not_object {payload : Payload} (h : isObject payload = false)
    (terminalId : String) (counter : Nat) :
    extractVector (stampPayload payload terminalId counter) = none := by
  have hne : ∀ members, payload.value? ≠ some (.obj members) := by
    intro members hm
    simp [isObject, hm] at h
  rw [stampPayload_not_object hne, extractVector]
  cases hd : payload.value? with
  | none => rfl
  | some doc =>
    cases doc with
    | obj members => exact absurd hd (hne members)
    | _ => rfl

theorem tracksPushes_initial : TracksPushes CausalState.initial where
  positive := by simp [CausalState.initial]
  le := by simp [CausalState.initial]
  reached := by
    intro key t ht
    simp [CausalState.initial, SyncStore.empty, ConflictStore.vectorOf,
      ConflictStore.loadEntityVector, Table.empty, Table.find?] at ht

theorem tracksPushes_cons {s t : CausalState} {key : EntityKey} {terminalId : String}
    {counter : Nat} (h : TracksPushes s) (hpos : 0 < counter)
    (hpushed : t.pushed = ⟨key, terminalId, counter⟩ :: s.pushed)
    (hkey : (t.store.conflictStore.vectorOf key).get =
      (s.store.conflictStore.vectorOf key).get ⊔ (VersionVector.single terminalId counter).get)
    (hother : ∀ other, other ≠ key →
      t.store.conflictStore.vectorOf other = s.store.conflictStore.vectorOf other) :
    TracksPushes t := by
  have hget : ∀ u, (t.store.conflictStore.vectorOf key).get u =
      max ((s.store.conflictStore.vectorOf key).get u) (if terminalId = u then counter else 0) := by
    intro u
    rw [hkey, Pi.sup_apply, VersionVector.get_single]
  have hmono : ∀ p ∈ s.pushed,
      p.counter ≤ (t.store.conflictStore.vectorOf p.key).get p.terminalId := by
    intro p hp
    have hle := h.le p hp
    by_cases hk : p.key = key
    · rw [hk] at hle ⊢
      rw [hget]
      omega
    · rw [hother p.key hk]
      exact hle
  refine ⟨?_, ?_, ?_⟩
  · intro p hp
    rw [hpushed, List.mem_cons] at hp
    rcases hp with rfl | hp
    · exact hpos
    · exact h.positive p hp
  · intro p hp
    rw [hpushed, List.mem_cons] at hp
    rcases hp with rfl | hp
    · simp only [hget, if_true]
      omega
    · exact hmono p hp
  · intro other u hu
    rw [hpushed]
    by_cases hk : other = key
    · subst hk
      rw [hget] at hu ⊢
      by_cases hold : (s.store.conflictStore.vectorOf other).get u <
          (if terminalId = u then counter else 0)
      · have hterminal : terminalId = u := by
          by_contra hne
          rw [if_neg hne] at hold
          omega
        rw [if_pos hterminal] at hold ⊢
        refine ⟨_, List.mem_cons_self, rfl, hterminal, ?_⟩
        change counter = _
        omega
      · have hpos' : 0 < (s.store.conflictStore.vectorOf other).get u := by omega
        obtain ⟨p, hp, hpk, hpt, hpc⟩ := h.reached other u hpos'
        refine ⟨p, List.mem_cons_of_mem _ hp, hpk, hpt, ?_⟩
        rw [hpc]
        omega
    · rw [hother other hk] at hu ⊢
      obtain ⟨p, hp, hpk, hpt, hpc⟩ := h.reached other u hu
      exact ⟨p, List.mem_cons_of_mem _ hp, hpk, hpt, hpc⟩

theorem tracksPushes_of_same {s t : CausalState} (h : TracksPushes s)
    (hpushed : t.pushed = s.pushed)
    (hstore : t.store.conflictStore = s.store.conflictStore) : TracksPushes t := by
  refine ⟨?_, ?_, ?_⟩
  · rw [hpushed]; exact h.positive
  · rw [hpushed, hstore]; exact h.le
  · rw [hpushed, hstore]; exact h.reached

theorem tracksPushes_push (tenantId : String) {s : CausalState} (terminalId : String)
    (item : OfflineQueueItem) (h : TracksPushes s) :
    TracksPushes (causalPush tenantId s terminalId item) := by
  unfold causalPush
  cases hobject : isObject item.payload with
  | false =>
    have hnone : extractVector (stampedPayload s terminalId item) = none :=
      extractVector_not_object hobject terminalId _
    obtain ⟨next, outcomes, hpush, hsame⟩ := pushBatch_single_unstamped tenantId
      { item with payload := stampedPayload s terminalId item } hnone s.store
    simp only [hpush]
    exact tracksPushes_of_same h rfl hsame
  | true =>
    have hvector := extractVector_stamped s terminalId item hobject
    rcases pushBatch_single tenantId { item with payload := stampedPayload s terminalId item }
      hvector s.store with
      ⟨next, hpush, hsame⟩ | ⟨next, outcomes, d, hpush, hdetect⟩
    · simp only [hpush]
      exact tracksPushes_of_same h rfl hsame
    · simp only [hpush]
      refine tracksPushes_cons h (nextStamp_pos s terminalId) rfl
        (ConflictStore.detectConflict_get hdetect) ?_
      intro other hne
      exact ConflictStore.vectorOf_congr (ConflictStore.detectConflict_frame hdetect hne)

theorem tracksPushes_step (tenantId : String) (s : CausalState) (e : CausalEvent)
    (h : TracksPushes s) : TracksPushes ((terminals tenantId).step s e).1 := by
  cases e with
  | push terminalId item => exact tracksPushes_push tenantId terminalId item h
  | pull terminalId req =>
    change TracksPushes (causalPull tenantId s terminalId req)
    unfold causalPull
    split
    · exact h
    · exact tracksPushes_of_same h rfl rfl
  | restart terminalId persisted => exact tracksPushes_of_same h rfl rfl

theorem soundlyDetected_iff (tenantId : String) {s : CausalState} (h : TracksPushes s)
    (e : CausalEvent) : SoundlyDetected tenantId s e ↔ OwnHistory tenantId s e := by
  cases e with
  | pull terminalId req => exact Iff.rfl
  | restart terminalId persisted => exact Iff.rfl
  | push terminalId item =>
    simp only [SoundlyDetected, OwnHistory]
    refine forall_congr' fun _ => ?_
    cases hobject : isObject item.payload with
    | false =>
      have hnone : extractVector (stampedPayload s terminalId item) = none :=
        extractVector_not_object hobject terminalId _
      simp [hnone]
    | true =>
      have hvector := extractVector_stamped s terminalId item hobject
      simp only [hvector, Option.some.injEq, forall_eq', forall_const, Ne,
        single_concurrent_iff, not_and, not_exists]
      constructor
      · intro hsound
        by_cases hnew : (s.store.conflictStore.vectorOf (pushKey tenantId s terminalId item)).get
            terminalId < nextStamp s terminalId
        · refine .inl ?_
          intro p hp hk
          by_contra hne
          have hle := h.le p hp
          have hpos := h.positive p hp
          rw [hk] at hle
          exact hsound hnew p.terminalId hne (by omega)
        · refine .inr ?_
          have hpos := nextStamp_pos s terminalId
          obtain ⟨p, hp, hpk, hpt, hpc⟩ := h.reached (pushKey tenantId s terminalId item)
            terminalId (by omega)
          exact ⟨p, hp, hpk, hpt, by omega⟩
      · rintro (hown | ⟨p, hp, hpk, hpt, hpc⟩) hnew t hne hpos
        · obtain ⟨p, hp, hpk, hpt, -⟩ := h.reached _ t hpos
          rw [hown p hp hpk] at hpt
          exact hne hpt.symm
        · have hle := h.le p hp
          rw [hpk, hpt] at hle
          omega

/-- In every run, the pushes of caught-up terminals are soundly detected exactly when each
of them meets an entity with a history of that terminal alone. -/
theorem caughtUp_push_never_concurrent_iff (tenantId : String) (events : List CausalEvent) :
    (terminals tenantId).Along (SoundlyDetected tenantId) CausalState.initial events ↔
      (terminals tenantId).Along (OwnHistory tenantId) CausalState.initial events := by
  have hrun : ∀ s, TracksPushes s → ((terminals tenantId).Along (SoundlyDetected tenantId) s events ↔
      (terminals tenantId).Along (OwnHistory tenantId) s events) := by
    induction events with
    | nil => simp [Machine.Along]
    | cons e events ih =>
      intro s hs
      simp only [Machine.Along]
      rw [soundlyDetected_iff tenantId hs e, ih _ (tracksPushes_step tenantId s e hs)]
  exact hrun CausalState.initial tracksPushes_initial

def renameEvent (id terminalId name : String) : CausalEvent :=
  .push terminalId (queued id "product.update" (.obj [("id", .str "p-1"), ("name", .str name)])
    "2026-01-01T08:00:00.000Z" (some terminalId))

/-- Terminal `A` pulls the only stored mutation, pushes, and is classified as concurrent. -/
theorem caughtUp_push_concurrent :
    ¬ (terminals "default").Along (SoundlyDetected "default") CausalState.initial
      [renameEvent (uuidOf "1") "B" "Kopi", .pull "A" ⟨none, none⟩,
        renameEvent (uuidOf "2") "A" "Tea"] := by
  rintro ⟨-, -, hpush, -⟩
  have hconcurrent := hpush (by decide) _ (extractVector_stamped _ _ _ (by decide))
  exact hconcurrent (by decide)

end OzPos
