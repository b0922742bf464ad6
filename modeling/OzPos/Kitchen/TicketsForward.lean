import OzPos.Kitchen.KdsOrders

namespace OzPos

/-- Each ticket stays, for the same sale, and takes at most one move of the status machine. -/
def KdsBoard.Forward (b next : KdsBoard) : Prop :=
  ∀ id t, b.tickets.find? id = some t →
    ∃ t', next.tickets.find? id = some t' ∧ t'.saleId = t.saleId ∧
      t.status.allowed t'.status = true

abbrev KitchenState : Type := Sessions KdsBoard KdsView

abbrev KitchenEvent : Type := CallEvent KdsCall String

def KdsBoard.opened (tickets : Table String KdsTicket KdsTicket.id)
    (lineItems : List KdsLineItem) : KdsBoard :=
  ⟨tickets, lineItems, []⟩

variable (b : KdsBoard)

def KdsBoard.NoGhosts : Prop :=
  ∀ t ∈ b.tickets.rows, t.saleId ∈ b.voided → t.status.active = false

structure TicketsForward (clock : KdsClock) (s : KitchenState) (events : List KitchenEvent) :
    Prop where
  path : (kdsCalls clock).machine.Along ((kdsCalls clock).Keeps KdsBoard.Forward) s events
  settled : ∀ l m r, events = l ++ m ++ r → ∀ id t,
    ((kdsCalls clock).machine.run s l).shared.tickets.find? id = some t →
    t.status.active = false →
    ∃ t', ((kdsCalls clock).machine.run s (l ++ m)).shared.tickets.find? id = some t' ∧
      t'.status = t.status
  voided : ∀ l m r, events = l ++ m ++ r →
    ∀ saleId ∈ ((kdsCalls clock).machine.run s l).shared.voided,
    ∀ t ∈ ((kdsCalls clock).machine.run s (l ++ m)).shared.tickets.rows,
    t.saleId = saleId → t.status.active = false

/-- What a status update comes upon: the status its call has read, or the one it writes, or,
cancelling, any but served. -/
def updateInTime : KdsView → String → Prop
  | .update current new, _ => ∀ t ∈ b.tickets.find? current.id,
    t.status = current.status ∨ t.status = new ∨ (new = .cancelled ∧ t.status ≠ .served)
  | .cancel _, _ => True

instance (view : KdsView) (now : String) : Decidable (updateInTime b view now) := by
  unfold updateInTime
  split <;> infer_instance

def KdsView.Checked (_ : KdsBoard) : KdsView → Prop
  | .update current new => current.status.allowed new = true ∧ current.status ≠ new
  | .cancel _ => True

variable {b : KdsBoard} {id : String}

theorem readUpdate_checked {newStatus : String} {view : KdsView}
    (h : readUpdate id newStatus b = .inr view) : view.Checked b := by
  unfold readUpdate at h
  split at h
  · cases h
  · split at h
    · cases h
    · split at h
      · cases h
      · rename_i hallowed
        split at h
        · cases h
        · rename_i hne
          cases h
          exact ⟨by simpa using hallowed, hne⟩

variable (clock : KdsClock)

theorem kdsCalls_disciplined :
    (kdsCalls clock).Disciplined (fun _ => True) (fun b v => v.Checked b) updateInTime where
  found := by
    intro b call view _ hread
    cases call with
    | updateKdsStatus id newStatus => exact readUpdate_checked hread
    | cancelKdsOrdersForSale saleId =>
      cases hread
      trivial
  kept := fun _ _ _ _ _ _ => trivial
  stable := fun _ _ _ _ _ _ _ h => h

theorem find_writeUpdate (now : String) (current : KdsTicket)
    (new : KdsStatus) (b : KdsBoard) (id : String) :
    (b.writeUpdate clock now current new).tickets.find? id =
      (b.tickets.find? id).map (fun t =>
        if id = current.id then t.moved now new (prepTime clock now current new) else t) := by
  rw [KdsBoard.writeUpdate, Table.find?_update b.tickets current.id
    (KdsTicket.moved now new (prepTime clock now current new)) (fun _ => rfl)]

variable {saleId : String} {t : KdsTicket}

theorem cancelledFor_inactive (h : t.status.active = false) : t.cancelledFor saleId = t := by
  simp [KdsTicket.cancelledFor, h]

theorem rows_cancelTickets (saleId : String) (b : KdsBoard) :
    (b.cancelTickets saleId).tickets.rows = b.tickets.rows.map (KdsTicket.cancelledFor saleId) := by
  unfold KdsBoard.cancelTickets
  split
  · rfl
  · rename_i hnone
    have hid : b.tickets.rows.map (KdsTicket.cancelledFor saleId) = b.tickets.rows.map id := by
      apply List.map_congr_left
      intro t ht
      have hinactive : ¬(t.saleId = saleId ∧ t.status.active) := by
        intro h
        exact hnone (List.any_eq_true.mpr ⟨t, ht, by simp [h.1, h.2]⟩)
      rw [KdsTicket.cancelledFor, if_neg hinactive]
      rfl
    rw [hid, List.map_id]

theorem find_writeCancel (h : b.tickets.find? id = some t) :
    (b.writeCancel saleId).tickets.find? id = some (t.cancelledFor saleId) := by
  rw [Table.find?_eq_some_iff] at h ⊢
  refine ⟨?_, by rw [KdsTicket.cancelledFor_id, h.2]⟩
  rw [KdsBoard.writeCancel, rows_cancelTickets]
  exact List.mem_map.mpr ⟨t, h.1, rfl⟩

theorem cancelledFor_saleId (saleId : String) (t : KdsTicket) :
    (t.cancelledFor saleId).saleId = t.saleId := by
  unfold KdsTicket.cancelledFor
  split <;> rfl

theorem cancelledFor_allowed (saleId : String) (t : KdsTicket) :
    t.status.allowed (t.cancelledFor saleId).status = true := by
  unfold KdsTicket.cancelledFor
  split
  · rename_i h
    exact KdsStatus.allowed_cancelled h.2
  · exact KdsStatus.allowed_self t.status

theorem forward_refl (b : KdsBoard) : b.Forward b :=
  fun _ t h => ⟨t, h, rfl, KdsStatus.allowed_self t.status⟩

theorem writeCancel_forward (saleId : String) (b : KdsBoard) : b.Forward (b.writeCancel saleId) :=
  fun _ t h => ⟨t.cancelledFor saleId, find_writeCancel h, cancelledFor_saleId saleId t,
    cancelledFor_allowed saleId t⟩

theorem writeUpdate_forward_iff (now : String) {current : KdsTicket}
    {new : KdsStatus} (hchecked : (KdsView.update current new).Checked b) :
    b.Forward (b.writeUpdate clock now current new) ↔
      updateInTime b (.update current new) now := by
  obtain ⟨hallowed, hne⟩ := hchecked
  have hmoves : ∀ t : KdsTicket, t.status.allowed new = true ↔
      t.status = current.status ∨ t.status = new ∨ (new = .cancelled ∧ t.status ≠ .served) :=
    fun t => KdsStatus.allowed_iff_of_allowed hallowed hne
  constructor
  · intro h t ht
    obtain ⟨t', hfind, -, hstatus⟩ := h current.id t ht
    rw [find_writeUpdate, ht, Option.map_some, if_pos rfl] at hfind
    obtain rfl := Option.some.inj hfind
    exact (hmoves t).mp hstatus
  · intro h id t ht
    rw [find_writeUpdate, ht, Option.map_some]
    by_cases hid : id = current.id
    · subst hid
      rw [if_pos rfl]
      exact ⟨_, rfl, rfl, (hmoves t).mpr (h t ht)⟩
    · rw [if_neg hid]
      exact ⟨t, rfl, rfl, KdsStatus.allowed_self t.status⟩

theorem forward_along_iff (b : KdsBoard) (events : List KitchenEvent) :
    (kdsCalls clock).machine.Along ((kdsCalls clock).Keeps KdsBoard.Forward) (.start b) events ↔
      (kdsCalls clock).machine.Along (Calls.AtWrite updateInTime) (.start b) events := by
  apply (kdsCalls_disciplined clock).along_keeps_iff
  · intro b _
    exact forward_refl b
  · intro b view now _ hchecked
    cases view with
    | update current new => exact writeUpdate_forward_iff clock now hchecked
    | cancel saleId => exact iff_of_true (writeCancel_forward saleId b) trivial
  · trivial

theorem step_board (s : KitchenState) (e : KitchenEvent) :
    ((kdsCalls clock).machine.step s e).1.shared = s.shared ∨
      (∃ now current new, ((kdsCalls clock).machine.step s e).1.shared =
        s.shared.writeUpdate clock now current new) ∨
      ∃ saleId, ((kdsCalls clock).machine.step s e).1.shared = s.shared.writeCancel saleId := by
  cases e with
  | read session call => exact .inl (Calls.shared_read _ s session call)
  | write session now =>
    cases hheld : s.held session with
    | none => exact .inl (congrArg Sessions.shared (Calls.shared_write_none _ now hheld))
    | some view =>
      rw [Calls.shared_write_some _ now hheld]
      cases view with
      | update current new => exact .inr (.inl ⟨now, current, new, rfl⟩)
      | cancel saleId => exact .inr (.inr ⟨saleId, rfl⟩)

variable {clock : KdsClock}

theorem writeUpdate_noGhosts {now : String} {current : KdsTicket} {new : KdsStatus}
    (h : b.NoGhosts) (hforward : b.Forward (b.writeUpdate clock now current new)) :
    (b.writeUpdate clock now current new).NoGhosts := by
  intro t' hmem hvoided
  obtain ⟨t, ht, heq⟩ := (Table.mem_update b.tickets current.id
    (KdsTicket.moved now new (prepTime clock now current new)) (fun _ => rfl) t').mp hmem
  have hid : t'.id = t.id := by
    rw [heq]
    split <;> rfl
  have hsale : t'.saleId = t.saleId := by
    rw [heq]
    split <;> rfl
  obtain ⟨t'', hfind, -, hmove⟩ := hforward t.id t ((Table.mem_rows_iff _ _).mp ht)
  have hfind' := (Table.mem_rows_iff _ _).mp hmem
  rw [hid, hfind] at hfind'
  obtain rfl := Option.some.inj hfind'
  have hsettled : t.status.active = false := h t ht (hsale ▸ hvoided)
  rw [KdsStatus.eq_of_settled hsettled hmove]
  exact hsettled

theorem writeCancel_noGhosts (h : b.NoGhosts) : (b.writeCancel saleId).NoGhosts := by
  intro t' hmem hvoided
  rw [KdsBoard.writeCancel, rows_cancelTickets] at hmem
  obtain ⟨t, ht, rfl⟩ := List.mem_map.mp hmem
  rw [cancelledFor_saleId] at hvoided
  have hvoided' : t.saleId = saleId ∨ t.saleId ∈ b.voided := List.mem_cons.mp hvoided
  cases hactive : t.status.active with
  | false => rwa [cancelledFor_inactive hactive]
  | true =>
    rcases hvoided' with hsale | hearlier
    · rw [KdsTicket.cancelledFor, if_pos ⟨hsale, hactive⟩]
      rfl
    · rw [h t ht hearlier] at hactive
      cases hactive

theorem step_noGhosts {s : KitchenState} {e : KitchenEvent}
    (h : s.shared.NoGhosts) (hkeeps : (kdsCalls clock).Keeps KdsBoard.Forward s e) :
    ((kdsCalls clock).machine.step s e).1.shared.NoGhosts := by
  rw [Calls.Keeps] at hkeeps
  rcases step_board clock s e with hsame | ⟨now, current, new, hupdate⟩ | ⟨saleId, hcancel⟩
  · rwa [hsame]
  · rw [hupdate] at hkeeps ⊢
    exact writeUpdate_noGhosts h hkeeps
  · rw [hcancel]
    exact writeCancel_noGhosts h

theorem step_voided (clock : KdsClock) (s : KitchenState) (e : KitchenEvent) :
    s.shared.voided ⊆ ((kdsCalls clock).machine.step s e).1.shared.voided := by
  rcases step_board clock s e with hsame | ⟨now, current, new, hupdate⟩ | ⟨saleId, hcancel⟩
  · rw [hsame]
    exact fun _ h => h
  · rw [hupdate]
    exact fun _ h => h
  · rw [hcancel]
    exact fun _ h => List.mem_cons_of_mem _ h

theorem run_voided (clock : KdsClock) (s : KitchenState) (events : List KitchenEvent) :
    s.shared.voided ⊆ ((kdsCalls clock).machine.run s events).shared.voided := by
  induction events generalizing s with
  | nil => exact fun _ h => h
  | cons e events ih => exact fun _ h => ih _ (step_voided clock s e h)

theorem settled_along {s : KitchenState} {events : List KitchenEvent}
    (h : (kdsCalls clock).machine.Along ((kdsCalls clock).Keeps KdsBoard.Forward) s events) (ht : s.shared.tickets.find? id = some t)
    (hsettled : t.status.active = false) :
    ∃ t', ((kdsCalls clock).machine.run s events).shared.tickets.find? id = some t' ∧
      t'.status = t.status := by
  induction events generalizing s t with
  | nil => exact ⟨t, ht, rfl⟩
  | cons e events ih =>
    obtain ⟨next, hnext, -, hmove⟩ := h.1 id t ht
    have hsame := KdsStatus.eq_of_settled hsettled hmove
    obtain ⟨t', hfind, hstatus⟩ := ih h.2 hnext (by rw [hsame, hsettled])
    exact ⟨t', hfind, hstatus.trans hsame⟩

/-- Tickets only move forward just where no update overtakes what its call has read. -/
theorem tickets_forward_iff (clock : KdsClock) (tickets : Table String KdsTicket KdsTicket.id)
    (lineItems : List KdsLineItem) (events : List KitchenEvent) :
    TicketsForward clock (.start (.opened tickets lineItems)) events ↔
      (kdsCalls clock).machine.Along (Calls.AtWrite updateInTime)
        (.start (.opened tickets lineItems)) events := by
  rw [← forward_along_iff]
  constructor
  · exact TicketsForward.path
  · intro hpath
    refine ⟨hpath, ?_, ?_⟩
    · rintro l m r rfl id t ht hsettled
      rw [Machine.along_append, Machine.along_append] at hpath
      rw [Machine.run_append]
      exact settled_along hpath.1.2 ht hsettled
    · rintro l m r rfl saleId hvoided t ht rfl
      rw [Machine.along_append] at hpath
      have hstart : (KdsBoard.opened tickets lineItems).NoGhosts := by
        intro t _ hvoided
        cases hvoided
      have hstep : ∀ (s : KitchenState) (e : KitchenEvent), s.shared.NoGhosts →
          (kdsCalls clock).Keeps KdsBoard.Forward s e →
          ((kdsCalls clock).machine.step s e).1.shared.NoGhosts :=
        fun s e => step_noGhosts
      have hghosts := (kdsCalls clock).machine.run_invariant hstep _ (l ++ m) hstart hpath.1
      apply hghosts t ht
      rw [Machine.run_append]
      exact run_voided clock _ m hvoided

def utcClock : KdsClock := ⟨fun _ => none⟩

def firedTicket : KdsTicket := ⟨"k1", "s1", .pending, none, none, none, 0⟩

/-- A cook starts a ticket; before the write lands its sale is voided. -/
def voidedWhileStarting : List KitchenEvent :=
  [.read 0 (.updateKdsStatus "k1" "preparing"), .read 1 (.cancelKdsOrdersForSale "s1"),
    .write 1 "12:00", .write 0 "12:00"]

theorem voided_ticket_cooks :
    ¬∀ (clock : KdsClock) (tickets : Table String KdsTicket KdsTicket.id)
        (lineItems : List KdsLineItem) (events : List KitchenEvent),
      TicketsForward clock (.start (.opened tickets lineItems)) events := by
  intro h
  have hpath := (h utcClock ⟨[firedTicket], by decide⟩ [] voidedWhileStarting).path
  rw [forward_along_iff] at hpath
  revert hpath
  decide

end OzPos
