import OzPos.Library.Table
import Mathlib.Algebra.Order.BigOperators.Group.List
import Mathlib.Algebra.Order.Ring.Int
import Mathlib.Data.List.MinMax

namespace OzPos

def KDS_EVENT_TAG_PREFIX : String := "\x7b\"type\":\"kds."

structure PeerSubscription where
  deviceId : Option String
  stationIds : List String
deriving DecidableEq

def PeerSubscription.receivesAll (sub : PeerSubscription) : Bool := sub.stationIds.isEmpty

def subscriptionFromWire (stationIds : List String) (deviceId : Option String) :
    Option PeerSubscription :=
  if stationIds.isEmpty && deviceId.isNone then none else some ⟨deviceId, stationIds⟩

variable (probe : String → Option (List String))

/-- `probe` reads the `stations` of a line that is JSON. -/
def eventStationScope (line : String) : Option (List String) :=
  if !line.startsWith KDS_EVENT_TAG_PREFIX then none else probe line

variable (subscription : Option PeerSubscription)

def shouldDeliver (line : String) : Bool :=
  match subscription with
  | none => true
  | some sub =>
    if sub.receivesAll then true
    else match eventStationScope probe line with
      | none => true
      | some stations =>
        if stations.isEmpty then true
        else stations.any (fun station => sub.stationIds.any (fun mine => mine = station))

def MAX_OFFLINE_BUFFER_PER_PEER : Nat := 1024

def MAX_OFFLINE_BUFFER_TOTAL : Nat := 8192

inductive ReplayKey where
  | device (deviceId : String)
  | addr (addr : String)
deriving DecidableEq

def ReplayKey.fromSubscription (peerAddr : String) : ReplayKey :=
  match subscription.bind PeerSubscription.deviceId with
  | some deviceId => .device deviceId
  | none => .addr peerAddr

/-- A broadcast line. Its number is not on the wire: it tells broadcasts of one text apart. -/
structure Line where
  serial : Nat
  text : String
deriving DecidableEq

structure BufferedEvent where
  seq : Nat
  line : Line

structure PeerQueue where
  key : ReplayKey
  events : List BufferedEvent
  lastAddr : Option String

structure OfflineReplayBuffer where
  queues : Table ReplayKey PeerQueue PeerQueue.key
  (total nextSeq : Nat)

structure ReplayDrain where
  events : List Line
  sourceAddr : Option String

namespace OfflineReplayBuffer

def new : OfflineReplayBuffer := ⟨.empty, 0, 0⟩

variable (buffer : OfflineReplayBuffer) (key : ReplayKey)

def queue : PeerQueue :=
  (buffer.queues.find? key).getD ⟨key, [], none⟩

def held : List Line :=
  (buffer.queue key).events.map BufferedEvent.line

def oldest? : Option PeerQueue :=
  (buffer.queues.rows.filter (fun queue => !queue.events.isEmpty)).argmin
    (fun queue => (queue.events.head?.map BufferedEvent.seq).getD (2 ^ 64 - 1))

/-- Each round of the loop takes one line off the total or is the last. -/
def evict : Nat → OfflineReplayBuffer → OfflineReplayBuffer
  | 0, buffer => buffer
  | rounds + 1, buffer =>
    if buffer.total ≤ MAX_OFFLINE_BUFFER_TOTAL then buffer
    else match buffer.oldest? with
      | none => buffer
      | some oldest =>
        let left := oldest.events.tail
        evict rounds
          { buffer with
            queues := if left.isEmpty then buffer.queues.retain (fun queue => queue.key ≠ oldest.key)
              else buffer.queues.upsert { oldest with events := left }
            total := buffer.total - 1 }

def push (peerAddr : String) (line : Line) : OfflineReplayBuffer :=
  let queue := buffer.queue key
  let full := MAX_OFFLINE_BUFFER_PER_PEER ≤ queue.events.length
  let kept := if full then queue.events.tail else queue.events
  let total := (if full then buffer.total - 1 else buffer.total) + 1
  evict total
    { queues := buffer.queues.upsert
        { queue with events := kept ++ [⟨buffer.nextSeq, line⟩], lastAddr := some peerAddr }
      total := total
      nextSeq := buffer.nextSeq + 1 }

def drain : ReplayDrain × OfflineReplayBuffer :=
  match buffer.queues.find? key with
  | some queue =>
    (⟨queue.events.map BufferedEvent.line, queue.lastAddr⟩,
      { buffer with
        queues := buffer.queues.retain (fun other => other.key ≠ key)
        total := buffer.total - queue.events.length })
  | none => (⟨[], none⟩, buffer)

/-- A line can be buffered under the key without another being dropped. -/
def Admits : Prop :=
  (buffer.held key).length < MAX_OFFLINE_BUFFER_PER_PEER ∧ buffer.total < MAX_OFFLINE_BUFFER_TOTAL

instance : Decidable (buffer.Admits key) :=
  inferInstanceAs (Decidable (_ ∧ _))

variable {buffer : OfflineReplayBuffer} {key : ReplayKey}

@[simp] theorem held_new : new.held key = [] := rfl

@[simp] theorem queue_key : (buffer.queue key).key = key := by
  unfold queue
  cases h : buffer.queues.find? key with
  | none => rfl
  | some queue => exact Table.find?_key h

theorem evict_of_total (h : buffer.total ≤ MAX_OFFLINE_BUFFER_TOTAL) (rounds : Nat) :
    evict rounds buffer = buffer := by
  cases rounds with
  | zero => rfl
  | succ rounds => exact if_pos h

theorem held_push (h : buffer.Admits key) (peerAddr : String) (line : Line) (other : ReplayKey) :
    (buffer.push key peerAddr line).held other =
      if other = key then buffer.held key ++ [line] else buffer.held other := by
  obtain ⟨hpeer, htotal⟩ := h
  have hroom : ¬ MAX_OFFLINE_BUFFER_PER_PEER ≤ (buffer.queue key).events.length := by
    simpa [held] using hpeer
  have hevict : buffer.push key peerAddr line =
      { queues := buffer.queues.upsert
          { buffer.queue key with
            events := (buffer.queue key).events ++ [⟨buffer.nextSeq, line⟩]
            lastAddr := some peerAddr }
        total := buffer.total + 1
        nextSeq := buffer.nextSeq + 1 } := by
    simp only [push, hroom, if_false]
    apply evict_of_total
    exact htotal
  rw [hevict]
  by_cases hkey : other = key
  · subst hkey
    rw [if_pos rfl]
    unfold held
    rw [queue, Table.find?_upsert]
    simp
  · rw [if_neg hkey]
    unfold held
    rw [queue, Table.find?_upsert, if_neg]
    · rfl
    · change ¬ (buffer.queue key).key = other
      rw [queue_key]
      exact fun h => hkey h.symm

theorem drain_events : (buffer.drain key).1.events = buffer.held key := by
  unfold drain held queue
  cases buffer.queues.find? key <;> rfl

theorem held_drain (other : ReplayKey) :
    (buffer.drain key).2.held other = if other = key then [] else buffer.held other := by
  unfold drain
  cases hfind : buffer.queues.find? key with
  | none =>
    by_cases hkey : other = key
    · simp [hkey, held, queue, hfind]
    · simp [hkey]
  | some queue =>
    unfold held OfflineReplayBuffer.queue
    simp only [Table.find?_delete]
    by_cases hkey : other = key
    · simp [hkey]
    · simp [hkey]

end OfflineReplayBuffer

inductive BufferCall where
  | push (key : ReplayKey) (peerAddr : String) (line : Line)
  | drain (key : ReplayKey)

def pushes : List BufferCall → List (ReplayKey × Line)
  | [] => []
  | .push key _ line :: calls => (key, line) :: pushes calls
  | .drain _ :: calls => pushes calls

namespace OfflineReplayBuffer

def step (buffer : OfflineReplayBuffer) : BufferCall → OfflineReplayBuffer
  | .push key peerAddr line => buffer.push key peerAddr line
  | .drain key => (buffer.drain key).2

/-- A push before it looks at the global cap. -/
def enqueued (buffer : OfflineReplayBuffer) (key : ReplayKey) (peerAddr : String) (line : Line) :
    OfflineReplayBuffer :=
  let queue := buffer.queue key
  let full := MAX_OFFLINE_BUFFER_PER_PEER ≤ queue.events.length
  let kept := if full then queue.events.tail else queue.events
  { queues := buffer.queues.upsert
      { queue with events := kept ++ [⟨buffer.nextSeq, line⟩], lastAddr := some peerAddr }
    total := (if full then buffer.total - 1 else buffer.total) + 1
    nextSeq := buffer.nextSeq + 1 }

theorem push_eq (buffer : OfflineReplayBuffer) (key : ReplayKey) (peerAddr : String) (line : Line) :
    buffer.push key peerAddr line =
      evict (buffer.enqueued key peerAddr line).total (buffer.enqueued key peerAddr line) := rfl

/-- An event's number is the place of its line among those that were pushed. -/
structure Kept (pushed : List (ReplayKey × Line)) (buffer : OfflineReplayBuffer) : Prop where
  total : (buffer.total : ℤ) = (buffer.queues.rows.map (fun queue => (queue.events.length : ℤ))).sum
  perPeer : ∀ queue ∈ buffer.queues.rows, queue.events.length ≤ MAX_OFFLINE_BUFFER_PER_PEER
  increasing : ∀ queue ∈ buffer.queues.rows,
    queue.events.Pairwise (fun l r => l.seq < r.seq)
  nonempty : ∀ queue ∈ buffer.queues.rows, queue.events ≠ []
  nextSeq : buffer.nextSeq = pushed.length
  pushed : ∀ queue ∈ buffer.queues.rows, ∀ event ∈ queue.events,
    pushed[event.seq]? = some (queue.key, event.line)

/-- What one call drops is the oldest line, and what it drains is one key's. -/
structure DropsOldest (buffer : OfflineReplayBuffer) : Prop where
  perPeer : ∀ key peerAddr line other, ∀ event ∈ (buffer.queue other).events,
    event ∉ ((buffer.enqueued key peerAddr line).queue other).events →
      other = key ∧ ∀ later ∈ (buffer.queue key).events, event.seq ≤ later.seq
  global : ∀ key peerAddr line other,
    ∀ event ∈ ((buffer.enqueued key peerAddr line).queue other).events,
    event ∉ ((buffer.push key peerAddr line).queue other).events →
      ∀ another, ∀ later ∈ ((buffer.enqueued key peerAddr line).queue another).events,
        event.seq ≤ later.seq
  drained : ∀ key, (buffer.drain key).1.events = (buffer.queue key).events.map BufferedEvent.line ∧
    ∀ other, (buffer.drain key).2.queue other =
      if other = key then ⟨key, [], none⟩ else buffer.queue other

variable {pushed : List (ReplayKey × Line)} {buffer : OfflineReplayBuffer} {key : ReplayKey}

/-- The queue under its key; one without events is removed. -/
def put (buffer : OfflineReplayBuffer) (queue : PeerQueue) : Table ReplayKey PeerQueue PeerQueue.key :=
  if queue.events.isEmpty then buffer.queues.retain (fun other => other.key ≠ queue.key)
  else buffer.queues.upsert queue

theorem mem_put {queue row : PeerQueue} (h : row ∈ (buffer.put queue).rows) :
    (row = queue ∧ queue.events ≠ []) ∨ (row ∈ buffer.queues.rows ∧ row.key ≠ queue.key) := by
  unfold put at h
  split at h
  · obtain ⟨hrow, hkey⟩ := List.mem_filter.mp h
    exact .inr ⟨hrow, by simpa using hkey⟩
  · rename_i hevents
    refine ((Table.mem_upsert _ _ _).mp h).imp_left (fun hrow => ⟨hrow, ?_⟩)
    simpa using hevents

theorem sum_put (queue : PeerQueue) :
    ((buffer.put queue).rows.map (fun row => (row.events.length : ℤ))).sum =
      (buffer.queues.rows.map (fun row => (row.events.length : ℤ))).sum -
        (buffer.queue queue.key).events.length + queue.events.length := by
  have hold : ((buffer.queues.find? queue.key).map
      (fun row : PeerQueue => (row.events.length : ℤ))).getD 0 =
        (buffer.queue queue.key).events.length := by
    unfold OfflineReplayBuffer.queue
    cases buffer.queues.find? queue.key <;> rfl
  rw [← hold]
  unfold put
  split
  · rename_i hnil
    rw [Table.sum_delete, List.isEmpty_iff.mp hnil]
    simp
  · rw [Table.sum_upsert]

theorem Kept.put (h : buffer.Kept pushed) (queue : PeerQueue) (total : Nat)
    (more : List (ReplayKey × Line))
    (htotal : (total : ℤ) = buffer.total - (buffer.queue queue.key).events.length +
      queue.events.length)
    (hcap : queue.events.length ≤ MAX_OFFLINE_BUFFER_PER_PEER)
    (hincreasing : queue.events.Pairwise (fun l r => l.seq < r.seq))
    (hpushed : ∀ event ∈ queue.events, (pushed ++ more)[event.seq]? = some (queue.key, event.line)) :
    (⟨buffer.put queue, total, buffer.nextSeq + more.length⟩ : OfflineReplayBuffer).Kept
      (pushed ++ more) where
  total := by
    rw [htotal, h.total]
    exact (sum_put queue).symm
  perPeer := by
    intro row hrow
    rcases mem_put hrow with ⟨rfl, -⟩ | hold
    · exact hcap
    · exact h.perPeer row hold.1
  increasing := by
    intro row hrow
    rcases mem_put hrow with ⟨rfl, -⟩ | hold
    · exact hincreasing
    · exact h.increasing row hold.1
  nonempty := by
    intro row hrow
    rcases mem_put hrow with ⟨rfl, hne⟩ | hold
    · exact hne
    · exact h.nonempty row hold.1
  nextSeq := by
    rw [h.nextSeq, List.length_append]
  pushed := by
    intro row hrow event hevent
    rcases mem_put hrow with ⟨rfl, -⟩ | hold
    · exact hpushed event hevent
    · have hlink := h.pushed row hold.1 event hevent
      rw [List.getElem?_append_left (List.getElem?_eq_some_iff.mp hlink).1]
      exact hlink

theorem queue_put (queue : PeerQueue) (total seq : Nat) (other : ReplayKey) :
    ((⟨buffer.put queue, total, seq⟩ : OfflineReplayBuffer).queue other).events =
      if other = queue.key then queue.events else (buffer.queue other).events := by
  unfold OfflineReplayBuffer.queue put
  by_cases hkey : other = queue.key
  · subst hkey
    split
    · rename_i hnil
      simp only [Table.find?_delete, if_true, List.isEmpty_iff.mp hnil]
      rfl
    · simp [Table.find?_upsert]
  · split
    · simp only [Table.find?_delete, hkey, if_false]
    · simp [Table.find?_upsert, Ne.symm hkey]

theorem queue_of_mem {row : PeerQueue} (h : row ∈ buffer.queues.rows) :
    buffer.queue row.key = row := by
  rw [OfflineReplayBuffer.queue, (Table.find?_eq_some_iff _ _ _).mpr ⟨h, rfl⟩]
  rfl

theorem Kept.of_queue (h : buffer.Kept pushed) (key : ReplayKey) :
    (buffer.queue key).events.length ≤ MAX_OFFLINE_BUFFER_PER_PEER ∧
      (buffer.queue key).events.Pairwise (fun l r => l.seq < r.seq) ∧
      (∀ event ∈ (buffer.queue key).events, pushed[event.seq]? = some (key, event.line)) ∧
      (buffer.queue key).events.length ≤ buffer.total := by
  unfold OfflineReplayBuffer.queue
  cases hfind : buffer.queues.find? key with
  | none => simp
  | some row =>
    obtain ⟨hrow, rfl⟩ := (Table.find?_eq_some_iff _ _ _).mp hfind
    refine ⟨h.perPeer row hrow, h.increasing row hrow, h.pushed row hrow, ?_⟩
    have hle := List.single_le_sum (l := buffer.queues.rows.map (fun row => (row.events.length : ℤ)))
      (by simp) _ (List.mem_map_of_mem hrow)
    have htotal := h.total
    simp only [Option.getD_some]
    omega

theorem head_le {events : List BufferedEvent} (h : events.Pairwise (fun l r => l.seq < r.seq))
    {event : BufferedEvent} (hmem : event ∈ events) (hout : event ∉ events.tail) :
    ∀ later ∈ events, event.seq ≤ later.seq := by
  cases events with
  | nil => cases hmem
  | cons first rest =>
    obtain rfl := (List.mem_cons.mp hmem).resolve_right hout
    intro later hlater
    rcases List.mem_cons.mp hlater with rfl | hlater
    · exact Nat.le_refl _
    · exact (List.rel_of_pairwise_cons h hlater).le

theorem enqueued_eq (peerAddr : String) (line : Line) : buffer.enqueued key peerAddr line =
    ⟨buffer.put ⟨key, (if MAX_OFFLINE_BUFFER_PER_PEER ≤ (buffer.queue key).events.length then
        (buffer.queue key).events.tail else (buffer.queue key).events) ++ [⟨buffer.nextSeq, line⟩],
        some peerAddr⟩,
      (if MAX_OFFLINE_BUFFER_PER_PEER ≤ (buffer.queue key).events.length then buffer.total - 1
        else buffer.total) + 1, buffer.nextSeq + 1⟩ := by
  unfold enqueued put
  simp

theorem enqueued_kept (h : buffer.Kept pushed) (peerAddr : String) (line : Line) :
    (buffer.enqueued key peerAddr line).Kept (pushed ++ [(key, line)]) ∧
      (buffer.enqueued key peerAddr line).total ≤ buffer.total + 1 := by
  obtain ⟨hcap, hincreasing, hlink, htotal⟩ := h.of_queue key
  rw [enqueued_eq]
  generalize hkept : (if MAX_OFFLINE_BUFFER_PER_PEER ≤ (buffer.queue key).events.length then
    (buffer.queue key).events.tail else (buffer.queue key).events) = kept
  have hsub : kept.Sublist (buffer.queue key).events := by
    rw [← hkept]
    split
    · exact List.tail_sublist _
    · exact List.Sublist.refl _
  have hpos : 0 < MAX_OFFLINE_BUFFER_PER_PEER := by decide
  have hlength : kept.length + 1 ≤ MAX_OFFLINE_BUFFER_PER_PEER ∧
      (((if MAX_OFFLINE_BUFFER_PER_PEER ≤ (buffer.queue key).events.length then buffer.total - 1
        else buffer.total) + 1 : Nat) : ℤ) =
          buffer.total - (buffer.queue key).events.length + (kept.length + 1) := by
    rw [← hkept]
    split
    · rw [List.length_tail]
      omega
    · omega
  refine ⟨h.put _ _ [(key, line)] ?_ ?_ ?_ ?_, ?_⟩
  · simpa using hlength.2
  · simpa using hlength.1
  · rw [List.pairwise_append]
    refine ⟨hincreasing.sublist hsub, List.pairwise_singleton _ _, ?_⟩
    intro event hevent last hlast
    rw [List.mem_singleton.mp hlast, h.nextSeq]
    exact (List.getElem?_eq_some_iff.mp (hlink event (hsub.subset hevent))).1
  · intro event hevent
    rcases List.mem_append.mp hevent with hold | hnew
    · have hat := hlink event (hsub.subset hold)
      rw [List.getElem?_append_left (List.getElem?_eq_some_iff.mp hat).1]
      exact hat
    · rw [List.mem_singleton.mp hnew, h.nextSeq]
      simp
  · apply Nat.succ_le_succ
    split
    · omega
    · exact Nat.le_refl _

theorem evict_eq (h : buffer.Kept pushed) (hone : buffer.total ≤ MAX_OFFLINE_BUFFER_TOTAL + 1)
    (hover : MAX_OFFLINE_BUFFER_TOTAL < buffer.total) :
    ∃ oldest ∈ buffer.queues.rows, ∃ first rest, oldest.events = first :: rest ∧
      (∀ queue ∈ buffer.queues.rows, ∀ event ∈ queue.events, first.seq ≤ event.seq) ∧
      evict buffer.total buffer =
        ⟨buffer.put { oldest with events := rest }, buffer.total - 1, buffer.nextSeq⟩ := by
  have hall : buffer.queues.rows.filter (fun queue => !queue.events.isEmpty) =
      buffer.queues.rows := by
    rw [List.filter_eq_self]
    intro queue hqueue
    simpa using h.nonempty queue hqueue
  cases hold : buffer.oldest? with
  | none =>
    rw [oldest?, hall, List.argmin_eq_none] at hold
    have htotal := h.total
    rw [hold] at htotal
    simp at htotal
    omega
  | some oldest =>
    have hargmin := hold
    rw [oldest?, hall] at hargmin
    have hmem := List.argmin_mem hargmin
    obtain ⟨first, rest, hevents⟩ := List.exists_cons_of_ne_nil (h.nonempty oldest hmem)
    refine ⟨oldest, hmem, first, rest, hevents, ?_, ?_⟩
    · intro queue hqueue event hevent
      have hle := List.le_of_mem_argmin hqueue hargmin
      rw [hevents] at hle
      cases hq : queue.events with
      | nil => exact absurd hq (h.nonempty queue hqueue)
      | cons head tail =>
        rw [hq] at hle
        have hsorted := hq ▸ h.increasing queue hqueue
        rcases List.mem_cons.mp (hq ▸ hevent) with rfl | htail
        · exact hle
        · exact Nat.le_trans hle (List.rel_of_pairwise_cons hsorted htail).le
    · obtain ⟨rounds, hrounds⟩ := Nat.exists_eq_succ_of_ne_zero (Nat.ne_zero_of_lt hover)
      rw [hrounds, evict, if_neg (Nat.not_le.mpr hover), hold]
      simp only [hevents, List.tail_cons]
      rw [evict_of_total (by change buffer.total - 1 ≤ _; omega), hrounds]
      rfl

theorem push_kept (h : buffer.Kept pushed) (hle : buffer.total ≤ MAX_OFFLINE_BUFFER_TOTAL)
    (key : ReplayKey) (peerAddr : String) (line : Line) :
    (buffer.push key peerAddr line).Kept (pushed ++ [(key, line)]) ∧
      (buffer.push key peerAddr line).total ≤ MAX_OFFLINE_BUFFER_TOTAL := by
  obtain ⟨hkept, htotal⟩ := @enqueued_kept pushed buffer key h peerAddr line
  rw [push_eq]
  by_cases hover : MAX_OFFLINE_BUFFER_TOTAL < (buffer.enqueued key peerAddr line).total
  · obtain ⟨oldest, hmem, first, rest, hevents, -, heq⟩ := evict_eq hkept (by omega) hover
    obtain ⟨hcap, hincreasing, hlink, -⟩ := hkept.of_queue oldest.key
    rw [queue_of_mem hmem, hevents] at hcap hincreasing hlink
    rw [heq]
    refine ⟨?_, by change _ - 1 ≤ _; omega⟩
    have hput := hkept.put { oldest with events := rest }
      ((buffer.enqueued key peerAddr line).total - 1) [] ?_ ?_ hincreasing.of_cons ?_
    · simpa using hput
    · rw [queue_of_mem hmem, hevents, List.length_cons]
      push_cast
      omega
    · exact (Nat.le_succ _).trans hcap
    · intro event hevent
      simpa using hlink event (List.mem_cons_of_mem _ hevent)
  · rw [evict_of_total (by omega)]
    exact ⟨hkept, by omega⟩

theorem drain_kept (h : buffer.Kept pushed) (key : ReplayKey) :
    (buffer.drain key).2.Kept pushed ∧ (buffer.drain key).2.total ≤ buffer.total := by
  obtain ⟨-, -, -, htotal⟩ := h.of_queue key
  unfold drain
  cases hfind : buffer.queues.find? key with
  | none => exact ⟨h, Nat.le_refl _⟩
  | some queue =>
    obtain ⟨hmem, rfl⟩ := (Table.find?_eq_some_iff _ _ _).mp hfind
    have hqueue := queue_of_mem hmem
    rw [hqueue] at htotal
    refine ⟨?_, Nat.sub_le _ _⟩
    have hput := h.put { queue with events := [] } (buffer.total - queue.events.length) [] ?_ (by simp) List.Pairwise.nil (by simp)
    · rw [List.append_nil] at hput
      exact hput
    · rw [hqueue, List.length_nil]
      omega

theorem Kept.dropsOldest (h : buffer.Kept pushed) (hle : buffer.total ≤ MAX_OFFLINE_BUFFER_TOTAL) :
    buffer.DropsOldest where
  perPeer := by
    intro key peerAddr line other event hevent hout
    rw [enqueued_eq, queue_put] at hout
    by_cases hkey : other = key
    · subst hkey
      refine ⟨rfl, head_le (h.of_queue other).2.1 hevent (fun htail => hout ?_)⟩
      rw [if_pos rfl]
      apply List.mem_append_left
      split
      · exact htail
      · exact hevent
    · rw [if_neg hkey] at hout
      exact absurd hevent hout
  global := by
    intro key peerAddr line other event hevent hout another later hlater
    obtain ⟨hkept, htotal⟩ := @enqueued_kept pushed buffer key h peerAddr line
    rw [push_eq] at hout
    by_cases hover : MAX_OFFLINE_BUFFER_TOTAL < (buffer.enqueued key peerAddr line).total
    · obtain ⟨oldest, hmem, first, rest, hevents, holdest, heq⟩ := evict_eq hkept (by omega) hover
      rw [heq, queue_put] at hout
      by_cases hkey : other = oldest.key
      · subst hkey
        rw [queue_of_mem hmem, hevents] at hevent
        rw [if_pos rfl] at hout
        obtain rfl := (List.mem_cons.mp hevent).resolve_right hout
        unfold OfflineReplayBuffer.queue at hlater
        cases hfind : (buffer.enqueued key peerAddr line).queues.find? another with
        | none => simp [hfind] at hlater
        | some row =>
          rw [hfind] at hlater
          exact holdest row ((Table.find?_eq_some_iff _ _ _).mp hfind).1 later hlater
      · rw [if_neg hkey] at hout
        exact absurd hevent hout
    · rw [evict_of_total (by omega)] at hout
      exact absurd hevent hout
  drained := by
    intro key
    refine ⟨drain_events, fun other => ?_⟩
    unfold drain OfflineReplayBuffer.queue
    cases hfind : buffer.queues.find? key with
    | none =>
      by_cases hkey : other = key
      · simp [hkey, hfind]
      · simp [hkey]
    | some queue =>
      simp only [Table.find?_delete]
      by_cases hkey : other = key
      · simp [hkey]
      · simp [hkey]

theorem run_kept (calls : List BufferCall) (h : buffer.Kept pushed)
    (hle : buffer.total ≤ MAX_OFFLINE_BUFFER_TOTAL) :
    (calls.foldl step buffer).Kept (pushed ++ pushes calls) ∧
      (calls.foldl step buffer).total ≤ MAX_OFFLINE_BUFFER_TOTAL := by
  induction calls generalizing buffer pushed with
  | nil => simpa [pushes] using ⟨h, hle⟩
  | cons call calls ih =>
    cases call with
    | push key peerAddr line =>
      obtain ⟨hkept, htotal⟩ := push_kept h hle key peerAddr line
      simpa [pushes, step] using ih hkept htotal
    | drain key =>
      obtain ⟨hkept, htotal⟩ := drain_kept h key
      simpa [pushes, step] using ih hkept (htotal.trans hle)

end OfflineReplayBuffer

/-- After any calls the counter is the sum of the queues, both caps are met and no queue is empty or
out of order; each event is the line that was pushed under its key; and what the next call drops is
the oldest line there is. -/
theorem replayBuffer_holds (calls : List BufferCall) :
    (calls.foldl OfflineReplayBuffer.step .new).Kept (pushes calls) ∧
      (calls.foldl OfflineReplayBuffer.step .new).total ≤ MAX_OFFLINE_BUFFER_TOTAL ∧
      (calls.foldl OfflineReplayBuffer.step .new).DropsOldest := by
  have hnew : OfflineReplayBuffer.new.Kept [] := by
    constructor <;> simp [OfflineReplayBuffer.new, Table.empty]
  obtain ⟨hkept, htotal⟩ := OfflineReplayBuffer.run_kept calls hnew (Nat.zero_le _)
  exact ⟨hkept, htotal, hkept.dropsOldest htotal⟩

end OzPos
