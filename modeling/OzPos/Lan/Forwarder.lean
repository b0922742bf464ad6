import OzPos.Lan.Replay
import OzPos.Library.Run
import OzPos.Library.Sole

namespace OzPos

def CHANNEL_CAPACITY : Nat := 256

inductive PeerPhase where
  | greeting | claimAddr | claimDevice | flushing | rebuffering | live
deriving DecidableEq

/-- One `handle_peer` task. `subscription` is what the peer presents, read only once it has greeted;
`acceptedAt` counts the broadcasts before its receiver was made. -/
structure Connection where
  addr : String
  subscription : Option PeerSubscription
  acceptedAt : Nat
  rx : List Line
  pending : List (ReplayKey × Line)
  phase : PeerPhase
deriving DecidableEq

namespace Connection

variable (c : Connection)

def device : Option String := c.subscription.bind PeerSubscription.deviceId

def replayKey : ReplayKey := .fromSubscription c.subscription c.addr

/-- A receiver that lags loses the oldest lines it has not read. -/
def hear (line : Line) (c : Connection) : Connection :=
  { c with rx := (c.rx ++ [line]).drop (c.rx.length + 1 - CHANNEL_CAPACITY) }

def claim (key : ReplayKey) (events : List Line) (phase : PeerPhase) : Connection :=
  { c with
    pending := c.pending ++ events.map (fun event => (key, event))
    phase := phase }

end Connection

/-- The forwarder, with what was broadcast, what writes that succeeded brought to each identity, and
how many broadcasts there were when a device was first accepted. -/
structure LanForwarder where
  buffer : OfflineReplayBuffer
  connections : Nat → Option Connection
  broadcasts : List Line
  delivered : List (ReplayKey × Line)
  firstSeen : String → Option Nat

/-- `ok` tells whether the handshake, or a write, succeeds. -/
inductive LanEvent where
  | broadcast (text : String)
  | accept (id : Nat) (addr : String) (stationIds : List String) (deviceId : Option String)
  | greet (id : Nat) (ok : Bool)
  | drainAddr (id : Nat)
  | drainDevice (id : Nat)
  | flush (id : Nat) (ok : Bool)
  | rebuffer (id : Nat)
  | receive (id : Nat) (ok : Bool)
  | heartbeat (id : Nat) (ok : Bool)

namespace LanForwarder

def new : LanForwarder := ⟨.new, fun _ => none, [], [], fun _ => none⟩

variable (s : LanForwarder) (id : Nat)

def put (c : Option Connection) : LanForwarder :=
  { s with connections := Function.update s.connections id c }

def withBuffer (buffer : OfflineReplayBuffer) : LanForwarder :=
  { s with buffer := buffer }

def deliver (key : ReplayKey) (line : Line) : LanForwarder :=
  { s with delivered := s.delivered ++ [(key, line)] }

def broadcast (text : String) : LanForwarder :=
  let line : Line := ⟨s.broadcasts.length, text⟩
  { s with
    connections := fun id => (s.connections id).map (Connection.hear line)
    broadcasts := s.broadcasts ++ [line] }

def accept (addr : String) (stationIds : List String) (deviceId : Option String) : LanForwarder :=
  s.put id (some ⟨addr, subscriptionFromWire stationIds deviceId, s.broadcasts.length, [], [],
    .greeting⟩)

variable (c : Connection)

def seen : String → Option Nat := fun deviceId =>
  match s.firstSeen deviceId with
  | some first => some first
  | none => if c.device = some deviceId then some c.acceptedAt else none

def greet (ok : Bool) : LanForwarder :=
  if ok then { s.put id (some { c with phase := .claimAddr }) with firstSeen := s.seen c }
  else s.put id none

def drainAddr : LanForwarder :=
  let addrKey := ReplayKey.addr c.addr
  let (drained, buffer) := s.buffer.drain addrKey
  let phase := if c.device.isSome then .claimDevice else .flushing
  (s.put id (some (c.claim addrKey drained.events phase))).withBuffer buffer

def drainDevice : LanForwarder :=
  let (drained, buffer) := s.buffer.drain c.replayKey
  (s.put id (some (c.claim c.replayKey drained.events .flushing))).withBuffer buffer

variable (probe : String → Option (List String))

def flush (s : LanForwarder) (id : Nat) (c : Connection) (ok : Bool) : LanForwarder :=
  match c.pending with
  | [] => s.put id (some { c with phase := .live })
  | (_, event) :: pending =>
    if !shouldDeliver probe c.subscription event.text then s.put id (some { c with pending := pending })
    else if ok then (s.put id (some { c with pending := pending })).deliver c.replayKey event
    else s.put id (some { c with phase := .rebuffering })

/-- Every push locks the buffer anew; when all is pushed the task ends. -/
def rebuffer : LanForwarder :=
  match c.pending with
  | [] => s.put id none
  | (key, event) :: pending =>
    (s.put id (some { c with pending := pending })).withBuffer (s.buffer.push key c.addr event)

def receive (s : LanForwarder) (id : Nat) (c : Connection) (ok : Bool) : LanForwarder :=
  match c.rx with
  | [] => s
  | msg :: rx =>
    if !shouldDeliver probe c.subscription msg.text then s.put id (some { c with rx := rx })
    else if ok then (s.put id (some { c with rx := rx })).deliver c.replayKey msg
    else s.put id (some { c with rx := rx, pending := [(c.replayKey, msg)], phase := .rebuffering })

/-- The select is biased: the heartbeat waits for a receiver that has nothing to read. -/
def heartbeat (ok : Bool) : LanForwarder :=
  if !c.rx.isEmpty || ok then s else s.put id none

def atPhase (phase : PeerPhase) (act : Connection → LanForwarder) : LanForwarder :=
  match s.connections id with
  | some c => if c.phase = phase then act c else s
  | none => s

def step (s : LanForwarder) : LanEvent → LanForwarder
  | .broadcast text => s.broadcast text
  | .accept id addr stationIds deviceId =>
    if (s.connections id).isSome then s else s.accept id addr stationIds deviceId
  | .greet id ok => s.atPhase id .greeting (fun c => s.greet id c ok)
  | .drainAddr id => s.atPhase id .claimAddr (fun c => s.drainAddr id c)
  | .drainDevice id => s.atPhase id .claimDevice (fun c => s.drainDevice id c)
  | .flush id ok => s.atPhase id .flushing (fun c => s.flush probe id c ok)
  | .rebuffer id => s.atPhase id .rebuffering (fun c => s.rebuffer id c)
  | .receive id ok => s.atPhase id .live (fun c => s.receive probe id c ok)
  | .heartbeat id ok => s.atPhase id .live (fun c => s.heartbeat id c ok)

def machine : Machine LanForwarder LanEvent Unit where
  step s e := (s.step probe e, ())

def deliveredTo (key : ReplayKey) : List Line :=
  (s.delivered.filter (fun entry => entry.1 = key)).map Prod.snd

@[simp] theorem deliveredTo_put (c : Option Connection)
    (key : ReplayKey) : (s.put id c).deliveredTo key = s.deliveredTo key := rfl

theorem drainAddr_eq : s.drainAddr id c =
    (s.put id (some (c.claim (.addr c.addr) (s.buffer.held (.addr c.addr))
      (if c.device.isSome then .claimDevice else .flushing)))).withBuffer
        (s.buffer.drain (.addr c.addr)).2 := by
  rw [← OfflineReplayBuffer.drain_events]
  rfl

theorem drainDevice_eq : s.drainDevice id c =
    (s.put id (some (c.claim c.replayKey (s.buffer.held c.replayKey) .flushing))).withBuffer
      (s.buffer.drain c.replayKey).2 := by
  rw [← OfflineReplayBuffer.drain_events]
  rfl

@[simp] theorem deliveredTo_deliver (key other : ReplayKey) (line : Line) :
    (s.deliver key line).deliveredTo other =
      if key = other then s.deliveredTo other ++ [line] else s.deliveredTo other := by
  unfold deliver deliveredTo
  by_cases h : key = other
  · simp [h]
  · simp [h]

/-- A line that the peer does not want is passed over; one whose write fails leaves `failed`. -/
def write (probe : String → Option (List String)) (s : LanForwarder) (id : Nat) (c : Connection)
    (ok : Bool) (line : Line) (passed failed : Connection) : LanForwarder :=
  if !shouldDeliver probe c.subscription line.text then s.put id (some passed)
  else if ok then (s.put id (some passed)).deliver c.replayKey line
  else s.put id (some failed)

section Writes

variable {probe : String → Option (List String)} {s : LanForwarder} {id : Nat} {c : Connection}
  {ok : Bool} {key : ReplayKey} {event : Line} {pending : List (ReplayKey × Line)} {rx : List Line}

theorem flush_nil (h : c.pending = []) :
    s.flush probe id c ok = s.put id (some { c with phase := .live }) := by
  unfold flush
  rw [h]

theorem flush_cons (h : c.pending = (key, event) :: pending) : s.flush probe id c ok =
    s.write probe id c ok event { c with pending := pending } { c with phase := .rebuffering } := by
  unfold flush
  rw [h]
  rfl

theorem rebuffer_nil (h : c.pending = []) : s.rebuffer id c = s.put id none := by
  unfold rebuffer
  rw [h]

theorem rebuffer_cons (h : c.pending = (key, event) :: pending) : s.rebuffer id c =
    (s.put id (some { c with pending := pending })).withBuffer
      (s.buffer.push key c.addr event) := by
  unfold rebuffer
  rw [h]

theorem receive_nil (h : c.rx = []) : s.receive probe id c ok = s := by
  unfold receive
  rw [h]

theorem receive_cons (h : c.rx = event :: rx) : s.receive probe id c ok =
    s.write probe id c ok event { c with rx := rx }
      { c with rx := rx, pending := [(c.replayKey, event)], phase := .rebuffering } := by
  unfold receive
  rw [h]
  rfl

end Writes

theorem step_atPhase {s : LanForwarder} {id : Nat} {phase : PeerPhase}
    {act : Connection → LanForwarder} {P : LanForwarder → Prop} (hs : P s)
    (hact : ∀ c, s.connections id = some c → c.phase = phase → P (act c)) :
    P (s.atPhase id phase act) := by
  unfold atPhase
  cases hc : s.connections id with
  | none => exact hs
  | some c =>
    by_cases hphase : c.phase = phase
    · simpa [hphase] using hact c hc hphase
    · simpa [hphase] using hs

end LanForwarder

@[simp] theorem Connection.replayKey_of_device {c : Connection} {deviceId : String}
    (h : c.device = some deviceId) : c.replayKey = .device deviceId := by
  unfold device at h
  simp [replayKey, ReplayKey.fromSubscription, h]

theorem Connection.replayKey_ne {c : Connection} {deviceId : String}
    (h : c.device ≠ some deviceId) : c.replayKey ≠ .device deviceId := by
  unfold device at h
  unfold replayKey ReplayKey.fromSubscription
  cases hd : c.subscription.bind PeerSubscription.deviceId with
  | none => simp
  | some d => simpa [hd] using h

variable (c : Connection) (line : Line)

@[simp] theorem Connection.device_hear : (c.hear line).device = c.device := by
  simp only [hear, device]

@[simp] theorem Connection.pending_hear : (c.hear line).pending = c.pending := by
  simp only [hear]

@[simp] theorem Connection.phase_hear : (c.hear line).phase = c.phase := by
  simp only [hear]

theorem Connection.hear_within {c : Connection} (h : c.rx.length < CHANNEL_CAPACITY) (line : Line) :
    c.hear line = { c with rx := c.rx ++ [line] } := by
  have hnone : c.rx.length + 1 - CHANNEL_CAPACITY = 0 := by omega
  simp [hear, hnone]

/-- A device that presents one identity and station scope whenever it connects. -/
structure LanDevice where
  deviceId : String
  stationIds : List String

namespace LanDevice

def subscription (d : LanDevice) : PeerSubscription := ⟨some d.deviceId, d.stationIds⟩

def key (d : LanDevice) : ReplayKey := .device d.deviceId

variable (probe : String → Option (List String)) (d : LanDevice)

def inScope (line : Line) : Bool :=
  shouldDeliver probe (some d.subscription) line.text

def scope (lines : List Line) : List Line :=
  lines.filter (d.inScope probe)

def since (log : List Line) (first : Nat) : List Line :=
  (d.scope probe log).filter (fun line => decide (first ≤ line.serial))

end LanDevice

variable (d : LanDevice) (c : Connection)

/-- A connection whose task still reads its receiver. -/
def Connection.Serves : Prop :=
  c.device = some d.deviceId ∧ c.phase ≠ .rebuffering

/-- A connection that has claimed the queue of its device. -/
def Connection.Claimed : Prop :=
  c.device = some d.deviceId ∧ (c.phase = .flushing ∨ c.phase = .live)

instance : Decidable (c.Serves d) :=
  inferInstanceAs (Decidable (_ ∧ _))

section

variable (probe : String → Option (List String)) (d : LanDevice)

def backlogOf : Option Connection → List Line
  | some c =>
    if c.Serves d then d.scope probe (c.pending.map Prod.snd) ++ d.scope probe c.rx else []
  | none => []

def carryOf : Option Connection → List Line
  | some c =>
    if c.device = some d.deviceId ∧ c.phase = .rebuffering then
      d.scope probe (c.pending.map Prod.snd)
    else []
  | none => []

namespace LanForwarder

variable (s : LanForwarder)

def backlog (id : Nat) : List Line := backlogOf probe d (s.connections id)

def carry (id : Nat) : List Line := carryOf probe d (s.connections id)

def parked : List Line := d.scope probe (s.buffer.held d.key)

def QueuesDrained : Prop :=
  s.buffer.held d.key = [] ∧
    ∀ id c, s.connections id = some c → c.device = some d.deviceId → c.pending = [] ∧ c.rx = []

def Connected : Prop :=
  ∃ id c, s.connections id = some c ∧ c.device = some d.deviceId ∧ c.phase = .live

/-- Lines reach the device in broadcast order and, once it is connected and the queues are drained,
those in its scope since its first connection did so exactly once. -/
def DeliveredOnce : Prop :=
  (s.deliveredTo d.key).Pairwise (fun l r => l.serial < r.serial) ∧
    (s.Connected d → s.QueuesDrained d → ∀ first, s.firstSeen d.deviceId = some first →
      (s.deliveredTo d.key).filter (fun line => decide (first ≤ line.serial)) =
        d.since probe s.broadcasts first)

/-- Neither the broadcast channel lags nor a cap of the buffer is met, and the device always presents
its station scope. -/
def WithinLimits : LanEvent → Prop
  | .broadcast _ => ∀ id c, s.connections id = some c → c.rx.length < CHANNEL_CAPACITY
  | .rebuffer id => ∀ c key event pending, s.connections id = some c → c.phase = .rebuffering →
      c.pending = (key, event) :: pending → s.buffer.Admits key
  | .accept _ _ stationIds deviceId => deviceId = some d.deviceId → stationIds = d.stationIds
  | _ => True

/-- No line that is due since the device's first connection is among them. -/
def NoneDue (lines : List Line) : Prop :=
  ∀ first, s.firstSeen d.deviceId = some first →
    ∀ line ∈ d.scope probe lines, line.serial < first

/-- One connection of the device hears the line, and nothing older is still to be claimed. -/
structure HeardOnce (s : LanForwarder) : Prop where
  one : ∀ i j c e, s.connections i = some c → s.connections j = some e → c.Serves d → e.Serves d →
    i = j
  heard : s.firstSeen d.deviceId ≠ none → ∃ id c, s.connections id = some c ∧ c.Serves d
  claimed : ∀ id c, s.connections id = some c → c.Claimed d →
    s.parked probe d = [] ∧ ∀ j, s.carry probe d j = []

/-- What an event must find for the device's lines to be neither lost, doubled nor reordered. -/
def Safe : LanEvent → Prop
  | .broadcast text =>
    d.inScope probe ⟨s.broadcasts.length, text⟩ = true → s.HeardOnce probe d
  | .greet id false => ∀ c, s.connections id = some c → c.phase = .greeting →
      c.device = some d.deviceId → s.NoneDue probe d c.rx
  | .drainAddr id => ∀ c, s.connections id = some c → c.phase = .claimAddr →
      c.device = some d.deviceId → d.scope probe (s.buffer.held (.addr c.addr)) = []
  | .drainDevice id => ∀ c, s.connections id = some c → c.phase = .claimDevice →
      c.device = some d.deviceId →
      (s.parked probe d = [] ∨ ∀ j, j ≠ id → s.backlog probe d j = []) ∧
        ((∀ j, s.carry probe d j = []) ∨ (s.parked probe d = [] ∧ d.scope probe c.rx = []))
  | .flush id false => ∀ c key event pending, s.connections id = some c → c.phase = .flushing →
      c.device = some d.deviceId → c.pending = (key, event) :: pending →
      d.inScope probe event = true → s.NoneDue probe d c.rx
  | .receive id false => ∀ c msg rx, s.connections id = some c → c.phase = .live →
      c.device = some d.deviceId → c.rx = msg :: rx → d.inScope probe msg = true →
      s.NoneDue probe d rx
  | _ => True

end LanForwarder

end

end OzPos
