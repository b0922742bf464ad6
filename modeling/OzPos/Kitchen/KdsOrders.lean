import OzPos.Commerce.Refunds
import OzPos.Library.Sessions

namespace OzPos

namespace KdsStatus

def asStr : KdsStatus → String
  | .pending => "pending"
  | .preparing => "preparing"
  | .ready => "ready"
  | .served => "served"
  | .cancelled => "cancelled"

def fromStr : String → Option KdsStatus
  | "pending" => some .pending
  | "preparing" => some .preparing
  | "ready" => some .ready
  | "served" => some .served
  | "cancelled" => some .cancelled
  | _ => none

def allowed : KdsStatus → KdsStatus → Bool
  | .pending, .preparing | .preparing, .ready | .ready, .served => true
  | .pending, .cancelled | .preparing, .cancelled | .ready, .cancelled => true
  | s, t => s = t

theorem allowed_self (s : KdsStatus) : s.allowed s = true := by cases s <;> rfl

theorem allowed_cancelled {s : KdsStatus} (h : s.active = true) : s.allowed .cancelled = true := by
  cases s <;> simp_all [active, allowed]

theorem eq_of_settled {s t : KdsStatus} (hs : s.active = false) (h : s.allowed t = true) :
    t = s := by
  cases s <;> cases t <;> simp_all [active, allowed]

theorem allowed_iff_of_allowed {seen new now : KdsStatus} (h : seen.allowed new = true)
    (hne : seen ≠ new) :
    now.allowed new = true ↔ now = seen ∨ now = new ∨ (new = .cancelled ∧ now ≠ .served) := by
  cases seen <;> cases new <;> simp_all [allowed] <;> cases now <;> simp_all

end KdsStatus

structure KdsTicket where
  (id saleId : String)
  status : KdsStatus
  (startedAt readyAt servedAt : Option String)
  prepTimeSeconds : Int
  deriving DecidableEq

/-- The tickets of a kitchen, and the sales whose tickets a void or refund has cancelled. -/
structure KdsBoard where
  tickets : Table String KdsTicket KdsTicket.id
  lineItems : List KdsLineItem
  voided : List String

structure KdsClock where
  nanoseconds : String → Option Int

inductive KdsCall where
  | updateKdsStatus (id newStatus : String)
  | cancelKdsOrdersForSale (saleId : String)

/-- What a call goes by when it writes: an update by the ticket as it was read. -/
inductive KdsView where
  | update (current : KdsTicket) (newStatus : KdsStatus)
  | cancel (saleId : String)

inductive KdsAnswer where
  | ticket (t : KdsTicket)
  | cancelled (tickets : Nat)

def invalidTransition (current new : KdsStatus) : CoreError :=
  .validation "status" s!"invalid KDS status transition: {current.asStr} -> {new.asStr}"

def KdsBoard.getKdsOrder (b : KdsBoard) (id : String) : Except CoreError KdsTicket :=
  match b.tickets.find? id with
  | some t => .ok t
  | none => .error (.notFound "kds_order" id)

/-- The checks of an update, on a ticket read outside any transaction. -/
def readUpdate (id newStatus : String) (b : KdsBoard) : Except CoreError KdsAnswer ⊕ KdsView :=
  match KdsStatus.fromStr newStatus with
  | none => .inl (.error (.validation "status" s!"invalid KDS status: {newStatus}"))
  | some new =>
    match b.getKdsOrder id with
    | .error e => .inl (.error e)
    | .ok current =>
      if !current.status.allowed new then .inl (.error (invalidTransition current.status new))
      else if current.status = new then .inl (.ok (.ticket current))
      else .inr (.update current new)

variable (clock : KdsClock) (now : String)

def prepTime (current : KdsTicket) (new : KdsStatus) : Int :=
  if new = .served then
    match current.startedAt.bind clock.nanoseconds, clock.nanoseconds now with
    | some started, some served => max 0 ((served - started).tdiv 1000000000)
    | _, _ => current.prepTimeSeconds
  else current.prepTimeSeconds

/-- The columns of the `UPDATE`; its `WHERE` names the ticket and no status. -/
def KdsTicket.moved (new : KdsStatus) (prep : Int) (t : KdsTicket) : KdsTicket :=
  { t with
    status := new
    startedAt := if new = .preparing then some now else t.startedAt
    readyAt := if new = .ready then some now else t.readyAt
    servedAt := if new = .served then some now else t.servedAt
    prepTimeSeconds := prep }

def KdsBoard.writeUpdate (current : KdsTicket) (new : KdsStatus) (b : KdsBoard) : KdsBoard :=
  { b with
    tickets := b.tickets.update current.id
      (KdsTicket.moved now new (prepTime clock now current new)) (fun _ => rfl) }

variable (saleId : String) (t : KdsTicket)

def KdsTicket.cancelledFor : KdsTicket :=
  if t.saleId = saleId ∧ t.status.active then { t with status := .cancelled } else t

theorem KdsTicket.cancelledFor_id : (t.cancelledFor saleId).id = t.id := by
  unfold cancelledFor
  split <;> rfl

def KdsBoard.cancelTickets (b : KdsBoard) : KdsBoard :=
  if b.tickets.rows.any (fun t => t.saleId = saleId && t.status.active) then
    let ids := (b.tickets.rows.filter (fun t => t.saleId = saleId)).map KdsTicket.id
    { b with
      tickets := ⟨b.tickets.rows.map (KdsTicket.cancelledFor saleId), by
        rw [List.map_map, show KdsTicket.id ∘ KdsTicket.cancelledFor saleId = KdsTicket.id from
          funext (KdsTicket.cancelledFor_id saleId)]
        exact b.tickets.unique⟩
      lineItems := b.lineItems.map (fun item =>
        if item.kdsOrderId ∈ ids ∧ item.itemStatus.active then
          { item with itemStatus := .cancelled }
        else item) }
  else b

/-- The void or refund commits its own change of the sale with the cancellation. -/
def KdsBoard.writeCancel (b : KdsBoard) : KdsBoard :=
  { b.cancelTickets saleId with voided := saleId :: b.voided }

def kdsCalls : Calls KdsBoard KdsCall KdsView String (Except CoreError KdsAnswer) where
  read call b :=
    match call with
    | .updateKdsStatus id newStatus => readUpdate id newStatus b
    | .cancelKdsOrdersForSale saleId => .inr (.cancel saleId)
  write now view b :=
    match view with
    | .update current new =>
      let b := b.writeUpdate clock now current new
      (b, (b.getKdsOrder current.id).map .ticket)
    | .cancel saleId =>
      (b.writeCancel saleId, .ok (.cancelled
        (b.tickets.rows.countP (fun t => t.saleId = saleId && t.status.active))))

end OzPos
