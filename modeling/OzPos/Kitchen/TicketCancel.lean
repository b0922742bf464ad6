import OzPos.Kitchen.Fanout
import OzPos.Library.Outcome

namespace OzPos

namespace KitchenDb

/-- No cancelled ticket of the sale has an active line. -/
def Quiet (saleId : String) (db : KitchenDb) : Prop :=
  ∀ t ∈ db.tickets.rows, t.saleId = saleId → t.status = .cancelled →
    ∀ line ∈ db.lines.rows, line.kdsOrderId = t.id → line.itemStatus.active = false

def itemsMachine : Machine KitchenDb (ItemsDraw × UpdateKdsOrderItemsInput)
    (Except CoreError ZoneTicket) :=
  ⟨fun db call => db.updateKdsOrderItems call.1 call.2⟩

/-- What a cancellation promises, and what the item edits after it leave. -/
structure CancelsOwn (saleId : String) (db : KitchenDb)
    (edits : List (ItemsDraw × UpdateKdsOrderItemsInput)) : Prop where
  own : ∀ line ∈ db.lines.rows,
    (db.cancelKdsOrdersForSaleInTx saleId).1.lines.find? line.id ≠ some line →
      ∃ t, db.tickets.find? line.kdsOrderId = some t ∧ t.saleId = saleId ∧
        t.status.active = true ∧
        (db.cancelKdsOrdersForSaleInTx saleId).1.tickets.find? line.kdsOrderId =
          some { t with status := .cancelled }
  quiet : ∀ l r, edits = l ++ r →
    (itemsMachine.run (db.cancelKdsOrdersForSaleInTx saleId).1 l).Quiet saleId

structure Insertable (draw : ItemsDraw) (orderId : String) (items : List CreateKdsLineItemInput)
    (db : KitchenDb) : Prop where
  some : items ≠ []
  qty : ∀ item ∈ items, 0 < item.qty
  fresh : ((db.lines.rows.filter (fun line => line.kdsOrderId ≠ orderId)).map TicketLine.id ++
    (List.range items.length).map draw.lineId).Nodup

/-- An edit that is written to a cancelled ticket of the sale has no more items of a SKU and course
than the ticket has lines. -/
def KeepsQuiet (saleId : String) (db : KitchenDb)
    (call : ItemsDraw × UpdateKdsOrderItemsInput) : Prop :=
  ∀ t ∈ db.tickets.rows, t.id = call.2.id → t.saleId = saleId → t.status = .cancelled →
    ∀ items, call.2.lineItems = .some items → db.Insertable call.1 call.2.id items →
      ∀ slot, (items.map CreateKdsLineItemInput.slot).count slot ≤
        ((db.ticketLines call.2.id).map (fun line => line.slot)).count slot

/-- The cancellation finds no active line on a ticket of the sale that it leaves as it is. -/
structure Cancellable (saleId : String) (db : KitchenDb)
    (edits : List (ItemsDraw × UpdateKdsOrderItemsInput)) : Prop where
  own : (∃ t ∈ db.tickets.rows, t.saleId = saleId ∧ t.status.active = true) →
    ∀ line ∈ db.lines.rows, line.itemStatus.active = true →
      ∀ t ∈ db.tickets.rows, t.id = line.kdsOrderId → t.saleId = saleId →
        t.status.active = true
  settled : (∀ t ∈ db.tickets.rows, t.saleId = saleId → t.status.active = false) →
    db.Quiet saleId
  edits : itemsMachine.Along (KeepsQuiet saleId) (db.cancelKdsOrdersForSaleInTx saleId).1 edits

variable {db db' : KitchenDb} {saleId : String}

theorem cancelled_zero_iff : db.tickets.rows.countP
    (fun t => t.saleId = saleId && t.status.active) =
    0 ↔ ∀ t ∈ db.tickets.rows, t.saleId = saleId → t.status.active = false := by
  rw [List.countP_eq_zero]
  constructor
  · intro h t ht hsale
    have hnot := h t ht
    simpa [hsale] using hnot
  · intro h t ht
    simp only [Bool.and_eq_true, decide_eq_true_eq, not_and, Bool.not_eq_true]
    exact h t ht

theorem cancel_of_none (h : ∀ t ∈ db.tickets.rows, t.saleId = saleId → t.status.active = false) :
    db.cancelKdsOrdersForSaleInTx saleId = (db, 0) := by
  unfold cancelKdsOrdersForSaleInTx
  simp only [cancelled_zero_iff.mpr h, if_true]

def cancelledTicket (saleId : String) (t : ZoneTicket) : ZoneTicket :=
  if (t.saleId = saleId && t.status.active) = true then { t with status := .cancelled } else t

def cancelledLine (saleId : String) (db : KitchenDb) (line : TicketLine) : TicketLine :=
  if (db.tickets.rows.any (fun t => t.saleId = saleId && t.id = line.kdsOrderId) &&
      line.itemStatus.active) = true then { line with itemStatus := .cancelled }
  else line

theorem cancel_of_some (h : ∃ t ∈ db.tickets.rows, t.saleId = saleId ∧ t.status.active = true) :
    (db.cancelKdsOrdersForSaleInTx saleId).1.tickets.rows =
        db.tickets.rows.map (cancelledTicket saleId) ∧
      (db.cancelKdsOrdersForSaleInTx saleId).1.lines.rows =
        db.lines.rows.map (cancelledLine saleId db) := by
  have hcount : ¬ db.tickets.rows.countP (fun t => t.saleId = saleId && t.status.active) = 0 := by
    rw [cancelled_zero_iff]
    intro hnone
    obtain ⟨t, ht, hsale, hactive⟩ := h
    rw [hnone t ht hsale] at hactive
    cases hactive
  unfold cancelKdsOrdersForSaleInTx
  simp only [hcount, if_false]
  refine ⟨rfl, ?_⟩
  have hids : ∀ line : TicketLine,
      (((db.tickets.updateWhere (fun t => t.saleId = saleId && t.status.active)
        (fun t => { t with status := .cancelled }) (fun _ => rfl)).rows.filter
          (fun t => t.saleId = saleId)).map ZoneTicket.key).contains line.kdsOrderId =
        db.tickets.rows.any (fun t => t.saleId = saleId && t.id = line.kdsOrderId) := by
    intro line
    rw [Bool.eq_iff_iff, List.contains_iff_mem, List.any_eq_true]
    simp only [List.mem_map, List.mem_filter, Table.updateWhere, decide_eq_true_eq,
      Bool.and_eq_true]
    constructor
    · rintro ⟨t, ⟨⟨old, hold, rfl⟩, hsale⟩, hkey⟩
      refine ⟨old, hold, ?_⟩
      by_cases hactive : old.saleId = saleId ∧ old.status.active = true
      · rw [if_pos hactive] at hkey
        exact ⟨hactive.1, hkey⟩
      · rw [if_neg hactive] at hsale hkey
        exact ⟨hsale, hkey⟩
    · rintro ⟨t, ht, hsale, hid⟩
      by_cases hactive : t.saleId = saleId ∧ t.status.active = true
      · exact ⟨_, ⟨⟨t, ht, if_pos hactive⟩, hsale⟩, hid⟩
      · exact ⟨_, ⟨⟨t, ht, if_neg hactive⟩, hsale⟩, hid⟩
  refine List.map_congr_left (fun line _ => ?_)
  beta_reduce
  rw [cancelledLine, ← hids line]

theorem cancelledTicket_key (t : ZoneTicket) :
    (cancelledTicket saleId t).id = t.id ∧ (cancelledTicket saleId t).saleId = t.saleId := by
  unfold cancelledTicket
  split
  · exact ⟨rfl, rfl⟩
  · exact ⟨rfl, rfl⟩

variable {line : TicketLine}

theorem cancelledLine_inactive {t : ZoneTicket} (ht : t ∈ db.tickets.rows)
    (hsale : t.saleId = saleId) (hid : line.kdsOrderId = t.id) :
    (cancelledLine saleId db line).itemStatus.active = false := by
  have hany : db.tickets.rows.any (fun t => t.saleId = saleId && t.id = line.kdsOrderId) = true :=
    List.any_eq_true.mpr ⟨t, ht, by simp [hsale, hid]⟩
  unfold cancelledLine
  rw [hany, Bool.true_and]
  split
  · rfl
  · rename_i hinactive
    exact Bool.eq_false_iff.mpr hinactive

theorem cancelledLine_orderId (line : TicketLine) :
    (cancelledLine saleId db line).kdsOrderId = line.kdsOrderId := by
  unfold cancelledLine
  split
  · rfl
  · rfl

theorem cancel_quiet (h : ∃ t ∈ db.tickets.rows, t.saleId = saleId ∧ t.status.active = true) :
    (db.cancelKdsOrdersForSaleInTx saleId).1.Quiet saleId := by
  obtain ⟨htickets, hlines⟩ := cancel_of_some h
  intro t ht hsale _ line hline hid
  rw [htickets] at ht
  rw [hlines] at hline
  obtain ⟨old, hold, rfl⟩ := List.mem_map.mp ht
  obtain ⟨before, -, rfl⟩ := List.mem_map.mp hline
  rw [cancelledLine_orderId, (cancelledTicket_key old).1] at hid
  rw [(cancelledTicket_key old).2] at hsale
  exact cancelledLine_inactive hold hsale hid

theorem quiet_after_cancel_iff : (db.cancelKdsOrdersForSaleInTx saleId).1.Quiet saleId ↔
    ((∀ t ∈ db.tickets.rows, t.saleId = saleId → t.status.active = false) → db.Quiet saleId) := by
  by_cases h : ∃ t ∈ db.tickets.rows, t.saleId = saleId ∧ t.status.active = true
  · refine ⟨fun _ hnone => ?_, fun _ => cancel_quiet h⟩
    obtain ⟨t, ht, hsale, hactive⟩ := h
    rw [hnone t ht hsale] at hactive
    cases hactive
  · have hnone : ∀ t ∈ db.tickets.rows, t.saleId = saleId → t.status.active = false := by
      intro t ht hsale
      cases hactive : t.status.active with
      | false => rfl
      | true => exact absurd ⟨t, ht, hsale, hactive⟩ h
    rw [cancel_of_none hnone]
    exact ⟨fun hquiet _ => hquiet, fun hquiet => hquiet hnone⟩

theorem find?_lines_of_some
    (h : ∃ t ∈ db.tickets.rows, t.saleId = saleId ∧ t.status.active = true)
    (hline : line ∈ db.lines.rows) :
    (db.cancelKdsOrdersForSaleInTx saleId).1.lines.find? line.id =
      some (cancelledLine saleId db line) := by
  obtain ⟨-, hlines⟩ := cancel_of_some h
  rw [Table.find?_eq_some_iff, hlines]
  refine ⟨List.mem_map.mpr ⟨line, hline, rfl⟩, ?_⟩
  unfold cancelledLine
  split
  · rfl
  · rfl

theorem cancelledLine_ne_iff (line : TicketLine) : cancelledLine saleId db line ≠ line ↔
    line.itemStatus.active = true ∧
      ∃ t ∈ db.tickets.rows, t.id = line.kdsOrderId ∧ t.saleId = saleId := by
  unfold cancelledLine
  split
  · rename_i hboth
    rw [Bool.and_eq_true, List.any_eq_true] at hboth
    obtain ⟨⟨t, ht, hticket⟩, hactive⟩ := hboth
    simp only [Bool.and_eq_true, decide_eq_true_eq] at hticket
    refine ⟨fun _ => ⟨hactive, t, ht, hticket.2, hticket.1⟩, fun _ h => ?_⟩
    have hstatus := congrArg (fun line : TicketLine => line.itemStatus) h
    simp only at hstatus
    rw [← hstatus] at hactive
    cases hactive
  · rename_i hnot
    refine ⟨fun h => absurd rfl h, fun h => absurd ?_ hnot⟩
    obtain ⟨hactive, t, ht, hid, hsale⟩ := h
    rw [Bool.and_eq_true, List.any_eq_true]
    exact ⟨⟨t, ht, by simp [hid, hsale]⟩, hactive⟩

theorem own_iff : (∀ line ∈ db.lines.rows,
      (db.cancelKdsOrdersForSaleInTx saleId).1.lines.find? line.id ≠ some line →
        ∃ t, db.tickets.find? line.kdsOrderId = some t ∧ t.saleId = saleId ∧
          t.status.active = true ∧
          (db.cancelKdsOrdersForSaleInTx saleId).1.tickets.find? line.kdsOrderId =
            some { t with status := .cancelled }) ↔
    ((∃ t ∈ db.tickets.rows, t.saleId = saleId ∧ t.status.active = true) →
      ∀ line ∈ db.lines.rows, line.itemStatus.active = true →
        ∀ t ∈ db.tickets.rows, t.id = line.kdsOrderId → t.saleId = saleId →
          t.status.active = true) := by
  by_cases h : ∃ t ∈ db.tickets.rows, t.saleId = saleId ∧ t.status.active = true
  · obtain ⟨htickets, -⟩ := cancel_of_some h
    constructor
    · intro hown _ line hline hactive t ht hid hsale
      have hchanged : (db.cancelKdsOrdersForSaleInTx saleId).1.lines.find? line.id ≠ some line := by
        rw [find?_lines_of_some h hline]
        intro hsame
        exact (cancelledLine_ne_iff line).mpr ⟨hactive, t, ht, hid, hsale⟩ (Option.some.inj hsame)
      obtain ⟨t', hfind, -, hactive', -⟩ := hown line hline hchanged
      have hsame : db.tickets.find? line.kdsOrderId = some t :=
        (Table.find?_eq_some_iff _ _ _).mpr ⟨ht, hid⟩
      rw [hsame] at hfind
      cases hfind
      exact hactive'
    · intro hown line hline hchanged
      rw [find?_lines_of_some h hline] at hchanged
      obtain ⟨hactive, t, ht, hid, hsale⟩ :=
        (cancelledLine_ne_iff line).mp (fun hsame => hchanged (congrArg some hsame))
      have hticket := hown h line hline hactive t ht hid hsale
      refine ⟨t, (Table.find?_eq_some_iff _ _ _).mpr ⟨ht, hid⟩, hsale, hticket, ?_⟩
      rw [Table.find?_eq_some_iff, htickets]
      refine ⟨List.mem_map.mpr ⟨t, ht, ?_⟩, hid⟩
      unfold cancelledTicket
      exact if_pos (by simp [hsale, hticket])
  · refine ⟨fun _ hsome => absurd hsome h, fun _ line hline hchanged => absurd ?_ hchanged⟩
    rw [cancel_of_none]
    · exact (Table.mem_rows_iff _ _).mp hline
    · intro t ht hsale
      cases hactive : t.status.active with
      | false => rfl
      | true => exact absurd ⟨t, ht, hsale, hactive⟩ h

theorem insertLine_ok (h : db.insertLine line = .ok db') :
    db'.tickets = db.tickets ∧ db'.lines.rows = db.lines.rows ++ [line] := by
  unfold insertLine at h
  split at h
  · cases h
  · split at h
    · cases h
    · split at h
      · cases h
      · rename_i lines hinsert
        cases h
        exact ⟨rfl, Table.insert?_rows hinsert⟩

theorem insertLine_isOk_iff (line : TicketLine) : (∃ db', db.insertLine line = .ok db') ↔
    0 < line.qty ∧ (db.tickets.find? line.kdsOrderId).isSome ∧
      line.id ∉ db.lines.rows.map TicketLine.id := by
  have hinsert := Table.insert?_isSome_iff db.lines line
  rw [Table.find?_eq_none_iff] at hinsert
  have hfree : (∀ s ∈ db.lines.rows, s.id ≠ line.id) ↔
      line.id ∉ db.lines.rows.map TicketLine.id := by
    rw [List.mem_map]
    constructor
    · rintro h ⟨s, hs, hid⟩
      exact h s hs hid
    · intro h s hs hid
      exact h ⟨s, hs, hid⟩
  unfold insertLine
  by_cases hqty : line.qty ≤ 0
  · rw [if_pos hqty]
    refine ⟨fun ⟨_, h⟩ => ?_, fun h => absurd h.1 (by omega)⟩
    cases h
  · rw [if_neg hqty]
    cases hticket : db.tickets.find? line.kdsOrderId with
    | none => simp
    | some t =>
      cases hlines : db.lines.insert? line with
      | none =>
        rw [hlines] at hinsert
        simp only [Option.isNone_some, Bool.false_eq_true, if_false]
        constructor
        · rintro ⟨_, h⟩
          cases h
        · intro h
          have hsome := hinsert.mpr (hfree.mpr h.2.2)
          cases hsome
      | some lines =>
        rw [hlines] at hinsert
        simp only [Option.isNone_some, Bool.false_eq_true, if_false]
        exact ⟨fun _ => ⟨by omega, rfl, hfree.mp (hinsert.mp rfl)⟩, fun _ => ⟨_, rfl⟩⟩

theorem insertLines_ok {lines : List TicketLine} (h : insertLines lines db = .ok db') :
    db'.tickets = db.tickets ∧ db'.lines.rows = db.lines.rows ++ lines := by
  induction lines generalizing db with
  | nil =>
    cases h
    exact ⟨rfl, (List.append_nil _).symm⟩
  | cons line rest ih =>
    obtain ⟨db₁, hhere, hlater⟩ := Except.of_bind h
    obtain ⟨htickets, hrows⟩ := insertLine_ok hhere
    obtain ⟨htickets', hrows'⟩ := ih hlater
    refine ⟨htickets'.trans htickets, ?_⟩
    rw [hrows', hrows, List.append_assoc]
    rfl

theorem insertLines_isOk_iff (lines : List TicketLine) : (∃ db', insertLines lines db = .ok db') ↔
    (∀ line ∈ lines, 0 < line.qty ∧ (db.tickets.find? line.kdsOrderId).isSome) ∧
      (db.lines.rows.map TicketLine.id ++ lines.map TicketLine.id).Nodup := by
  induction lines generalizing db with
  | nil => simpa [insertLines] using db.lines.unique
  | cons line rest ih =>
    constructor
    · rintro ⟨db', h⟩
      obtain ⟨db₁, hhere, hlater⟩ := Except.of_bind h
      obtain ⟨htickets, hrows⟩ := insertLine_ok hhere
      obtain ⟨hqty, hticket, -⟩ := (insertLine_isOk_iff line).mp ⟨_, hhere⟩
      obtain ⟨hrest, hnodup⟩ := ih.mp ⟨_, hlater⟩
      rw [htickets] at hrest
      rw [hrows, List.map_append, List.append_assoc] at hnodup
      exact ⟨List.forall_mem_cons.mpr ⟨⟨hqty, hticket⟩, hrest⟩, hnodup⟩
    · rintro ⟨hlines, hnodup⟩
      obtain ⟨⟨hqty, hticket⟩, hrest⟩ := List.forall_mem_cons.mp hlines
      have hnew : line.id ∉ db.lines.rows.map TicketLine.id := by
        intro hmem
        exact (List.nodup_append.mp hnodup).2.2 _ hmem line.id
          (List.mem_map_of_mem List.mem_cons_self) rfl
      obtain ⟨db₁, hhere⟩ := (insertLine_isOk_iff line).mpr ⟨hqty, hticket, hnew⟩
      obtain ⟨htickets, hrows⟩ := insertLine_ok hhere
      have hlater : ∃ db', insertLines rest db₁ = .ok db' := by
        refine ih.mpr ⟨by rwa [htickets], ?_⟩
        rw [hrows, List.map_append, List.append_assoc]
        exact hnodup
      obtain ⟨db', hlater⟩ := hlater
      exact ⟨db', Except.bind_ok_iff.mpr ⟨db₁, hhere, hlater⟩⟩

theorem linesOf_ids (draw : ItemsDraw) (orderId : String) (position : Nat)
    (items : List (CreateKdsLineItemInput × ItemState)) :
    (linesOf draw orderId position items).map TicketLine.id =
      (List.range' position items.length).map draw.lineId := by
  induction items generalizing position with
  | nil => rfl
  | cons entry rest ih =>
    rw [linesOf, List.map_cons, ih, List.length_cons, List.range'_succ, List.map_cons]
    rfl

variable {orderId : String} {draw : ItemsDraw}

theorem mem_linesOf {position : Nat} {items : List (CreateKdsLineItemInput × ItemState)}
    (h : line ∈ linesOf draw orderId position items) :
    line.kdsOrderId = orderId ∧ (line.toCreateKdsLineItemInput, line.toItemState) ∈ items := by
  induction items generalizing position with
  | nil => cases h
  | cons entry rest ih =>
    rcases List.mem_cons.mp h with rfl | hlater
    · exact ⟨rfl, List.mem_cons_self⟩
    · obtain ⟨hid, hmem⟩ := ih hlater
      exact ⟨hid, List.mem_cons_of_mem _ hmem⟩

theorem linesOf_mem {draw : ItemsDraw} {orderId : String} {position : Nat}
    {items : List (CreateKdsLineItemInput × ItemState)} {item : CreateKdsLineItemInput}
    {state : ItemState} (h : (item, state) ∈ items) :
    ∃ line ∈ linesOf draw orderId position items, line.toCreateKdsLineItemInput = item ∧
      line.toItemState = state := by
  induction items generalizing position with
  | nil => cases h
  | cons entry rest ih =>
    rcases List.mem_cons.mp h with rfl | hlater
    · exact ⟨_, List.mem_cons_self, rfl, rfl⟩
    · obtain ⟨line, hline, hboth⟩ := @ih (position + 1) hlater
      exact ⟨line, List.mem_cons_of_mem _ hline, hboth⟩

variable (old : List TicketLine)

theorem length_carryStates (items : List CreateKdsLineItemInput) :
    (carryStates old items).length = items.length := by
  induction items generalizing old with
  | nil => rfl
  | cons item rest ih =>
    unfold carryStates
    split
    · rw [List.length_cons, List.length_cons, ih]
    · rw [List.length_cons, List.length_cons, ih]

variable {items : List CreateKdsLineItemInput}

theorem carried_from {old : List TicketLine} {state : ItemState}
    (h : some state ∈ carryStates old items) : ∃ line ∈ old, line.toItemState = state := by
  induction items generalizing old with
  | nil => cases h
  | cons item rest ih =>
    unfold carryStates at h
    split at h
    · rcases List.mem_cons.mp h with hhere | hlater
      · cases hhere
      · exact ih hlater
    · rename_i line hfind
      rcases List.mem_cons.mp h with hhere | hlater
      · cases hhere
        exact ⟨line, List.mem_of_find?_eq_some hfind, rfl⟩
      · obtain ⟨other, hother, hstate⟩ := ih hlater
        exact ⟨other, List.mem_of_mem_erase hother, hstate⟩

theorem carried_iff (items : List CreateKdsLineItemInput) :
    (∀ state ∈ carryStates old items, state.isSome) ↔
      ∀ slot, (items.map CreateKdsLineItemInput.slot).count slot ≤
        (old.map (fun line => line.slot)).count slot := by
  induction items generalizing old with
  | nil => simp [carryStates]
  | cons item rest ih =>
    unfold carryStates
    cases hfind : old.find? (fun line => line.slot = item.slot) with
    | none =>
      have hnone : item.slot ∉ old.map (fun line => line.slot) := by
        intro hmem
        obtain ⟨line, hline, hslot⟩ := List.mem_map.mp hmem
        have hno := List.find?_eq_none.mp hfind line hline
        simp [hslot] at hno
      constructor
      · intro h
        have hhere := h none List.mem_cons_self
        cases hhere
      · intro h
        have hhere := h item.slot
        rw [List.count_eq_zero_of_not_mem hnone, List.map_cons, List.count_cons_self] at hhere
        omega
    | some line =>
      have hslot : line.slot = item.slot := by simpa using List.find?_some hfind
      have hperm := (List.perm_cons_erase (List.mem_of_find?_eq_some hfind)).map
        (fun line => line.slot)
      simp only [List.forall_mem_cons, Option.isSome_some, true_and]
      rw [ih]
      apply forall_congr'
      intro slot
      rw [hperm.count_eq, List.map_cons, List.map_cons, List.count_cons, List.count_cons, hslot]
      omega

def statesFor (db : KitchenDb) (orderId : String) (items : List CreateKdsLineItemInput) :
    List ItemState :=
  (carryStates (db.ticketLines orderId) items).map (fun state => state.getD .fresh)

theorem length_statesFor (orderId : String) (items : List CreateKdsLineItemInput) :
    (db.statesFor orderId items).length = items.length := by
  rw [statesFor, List.length_map, length_carryStates]

theorem mem_ticketLines (orderId : String) (line : TicketLine) :
    line ∈ db.ticketLines orderId ↔ line ∈ db.lines.rows ∧ line.kdsOrderId = orderId := by
  rw [ticketLines, List.mem_insertionSort, List.mem_filter, decide_eq_true_eq]

theorem replaceLines_ok (h : db.replaceLines draw orderId items = .ok db') :
    db'.tickets = db.tickets ∧ db'.lines.rows =
      db.lines.rows.filter (fun line => line.kdsOrderId ≠ orderId) ++
        linesOf draw orderId 0 (items.zip (db.statesFor orderId items)) :=
  insertLines_ok h

theorem replaceLines_isOk_iff (draw : ItemsDraw) {t : ZoneTicket} (ht : t ∈ db.tickets.rows)
    (hid : t.id = orderId) (hsome : items ≠ []) :
    (∃ db', db.replaceLines draw orderId items = .ok db') ↔ db.Insertable draw orderId items := by
  have hfind : db.tickets.find? orderId = some t := (Table.find?_eq_some_iff _ _ _).mpr ⟨ht, hid⟩
  have hlength : (items.zip (db.statesFor orderId items)).length = items.length := by
    rw [List.length_zip, length_statesFor, min_self]
  have hids : (linesOf draw orderId 0 (items.zip (db.statesFor orderId items))).map
      TicketLine.id = (List.range items.length).map draw.lineId := by
    rw [linesOf_ids, hlength, List.range_eq_range']
  have hiff := @insertLines_isOk_iff { db with lines := db.lines.retain (fun line =>
    line.kdsOrderId ≠ orderId) } (linesOf draw orderId 0 (items.zip (db.statesFor orderId items)))
  rw [hids] at hiff
  refine hiff.trans ⟨fun h => ⟨hsome, fun item hitem => ?_, h.2⟩, fun h => ⟨fun line hline => ?_, h.fresh⟩⟩
  · obtain ⟨i, hi, rfl⟩ := List.mem_iff_getElem.mp hitem
    have hi' : i < (db.statesFor orderId items).length := by rwa [length_statesFor]
    have hmem : (items[i], (db.statesFor orderId items)[i]) ∈
        items.zip (db.statesFor orderId items) :=
      List.mem_iff_getElem.mpr ⟨i, by omega, List.getElem_zip⟩
    obtain ⟨line, hline, hitem', -⟩ := @linesOf_mem draw orderId 0 _ _ _ hmem
    rw [← hitem']
    exact (h.1 line hline).1
  · obtain ⟨horder, hmem⟩ := mem_linesOf hline
    refine ⟨h.qty _ (List.of_mem_zip hmem).1, ?_⟩
    show (db.tickets.find? line.kdsOrderId).isSome = true
    rw [horder, hfind]
    rfl

theorem quiet_of_same {db db' : KitchenDb} (hlines : db'.lines = db.lines)
    (htickets : ∀ t ∈ db'.tickets.rows, ∃ old ∈ db.tickets.rows, old.id = t.id ∧
      old.saleId = t.saleId ∧ old.status = t.status) (h : db.Quiet saleId) : db'.Quiet saleId := by
  intro t ht hsale hstatus line hline hid
  obtain ⟨old, hold, hid', hsale', hstatus'⟩ := htickets t ht
  rw [hlines] at hline
  exact h old hold (hsale'.trans hsale) (hstatus'.trans hstatus) line hline (hid.trans hid'.symm)

theorem quiet_writeSummary_iff (id summary : String) (count : Int) :
    (db.writeSummary id summary count).Quiet saleId ↔ db.Quiet saleId := by
  have hmem := Table.mem_update db.tickets id
    (fun t => { t with itemsSummary := summary, itemCount := count }) (fun _ => rfl)
  constructor
  · refine @quiet_of_same saleId (db.writeSummary id summary count) db rfl ?_
    intro t ht
    refine ⟨_, (hmem _).mpr ⟨t, ht, rfl⟩, ?_⟩
    split
    · exact ⟨rfl, rfl, rfl⟩
    · exact ⟨rfl, rfl, rfl⟩
  · refine @quiet_of_same saleId db (db.writeSummary id summary count) rfl ?_
    intro t ht
    obtain ⟨old, hold, rfl⟩ := (hmem t).mp ht
    refine ⟨old, hold, ?_⟩
    split
    · exact ⟨rfl, rfl, rfl⟩
    · exact ⟨rfl, rfl, rfl⟩

theorem quiet_replaced_iff (hquiet : db.Quiet saleId)
    (h : db.replaceLines draw orderId items = .ok db') :
    db'.Quiet saleId ↔ ∀ t ∈ db.tickets.rows, t.id = orderId → t.saleId = saleId →
      t.status = .cancelled → ∀ slot, (items.map CreateKdsLineItemInput.slot).count slot ≤
        ((db.ticketLines orderId).map (fun line => line.slot)).count slot := by
  obtain ⟨htickets, hrows⟩ := replaceLines_ok h
  constructor
  · intro hquiet' t ht hid hsale hstatus
    rw [← carried_iff]
    intro state hstate
    cases state with
    | some state => rfl
    | none =>
      have hfresh : ItemState.fresh ∈ db.statesFor orderId items :=
        List.mem_map.mpr ⟨none, hstate, rfl⟩
      obtain ⟨i, hi, hget⟩ := List.mem_iff_getElem.mp hfresh
      have hi' : i < items.length := by rwa [length_statesFor] at hi
      have hmem : (items[i], ItemState.fresh) ∈ items.zip (db.statesFor orderId items) :=
        List.mem_iff_getElem.mpr ⟨i, by rw [List.length_zip]; omega, by
          rw [List.getElem_zip, hget]⟩
      obtain ⟨line, hline, -, hfresh⟩ := @linesOf_mem draw orderId 0 _ _ _ hmem
      have horder := (mem_linesOf hline).1
      have hinactive := hquiet' t (by rwa [htickets]) hsale hstatus line
        (by rw [hrows]; exact List.mem_append_right _ hline) (horder.trans hid.symm)
      have hpending : line.itemStatus = .pending := congrArg ItemState.itemStatus hfresh
      rw [hpending] at hinactive
      cases hinactive
  · intro hcovers t ht hsale hstatus line hline hid
    rw [htickets] at ht
    rw [hrows] at hline
    rcases List.mem_append.mp hline with hold | hnew
    · exact hquiet t ht hsale hstatus line (List.mem_filter.mp hold).1 hid
    · obtain ⟨horder, hmem⟩ := mem_linesOf hnew
      have hall := (carried_iff _ _).mpr (hcovers t ht (hid.symm.trans horder) hsale hstatus)
      obtain ⟨state, hstate, hgot⟩ := List.mem_map.mp (List.of_mem_zip hmem).2
      obtain ⟨carried, rfl⟩ := Option.isSome_iff_exists.mp (hall state hstate)
      obtain ⟨old, hold, hsame⟩ := carried_from hstate
      obtain ⟨hold, horder'⟩ := (mem_ticketLines _ _).mp hold
      have hinactive := hquiet t ht hsale hstatus old hold
        (horder'.trans (horder.symm.trans hid))
      have hstatus : line.itemStatus = old.itemStatus :=
        congrArg ItemState.itemStatus (hgot.symm.trans hsame.symm)
      rw [hstatus]
      exact hinactive

theorem finalSummary_ok_items {input : UpdateKdsOrderItemsInput} {summary : String × Int}
    (h : finalSummary input = .ok summary)
    (hitems : input.lineItems = some items) : items ≠ [] := by
  unfold finalSummary at h
  rw [hitems] at h
  simp only at h
  split at h
  · cases h
  · rename_i hne
    exact hne

theorem step_quiet_iff (call : ItemsDraw × UpdateKdsOrderItemsInput) (hquiet : db.Quiet saleId) :
    (itemsMachine.step db call).1.Quiet saleId ↔ db.KeepsQuiet saleId call := by
  obtain ⟨draw, input⟩ := call
  show (db.updateKdsOrderItems draw input).1.Quiet saleId ↔ _
  unfold updateKdsOrderItems KeepsQuiet
  cases hsummary : finalSummary input with
  | error e =>
    refine ⟨fun _ t _ _ _ _ items hitems hinsert => ?_, fun _ => hquiet⟩
    unfold finalSummary at hsummary
    rw [show input.lineItems = some items from hitems] at hsummary
    simp only [if_neg hinsert.some] at hsummary
    cases hsummary
  | ok summary =>
    obtain ⟨text, count⟩ := summary
    cases hitems : input.lineItems with
    | none =>
      simp only
      rw [quiet_writeSummary_iff]
      refine ⟨fun _ t _ _ _ _ items hsome => ?_, fun _ => hquiet⟩
      cases hsome
    | some items =>
      have hsome := finalSummary_ok_items hsummary hitems
      simp only
      cases hreplace : db.replaceLines draw input.id items with
      | error e =>
        refine ⟨fun _ t ht hid _ _ others hothers hinsert => ?_, fun _ => hquiet⟩
        cases hothers
        obtain ⟨db', hok⟩ := (replaceLines_isOk_iff draw ht hid hsome).mpr hinsert
        rw [hreplace] at hok
        cases hok
      | ok replaced =>
        simp only
        rw [quiet_writeSummary_iff, quiet_replaced_iff hquiet hreplace]
        constructor
        · intro h t ht hid hsale hstatus others hothers _
          cases hothers
          exact h t ht hid hsale hstatus
        · intro h t ht hid hsale hstatus
          exact h t ht hid hsale hstatus items rfl
            ((replaceLines_isOk_iff draw ht hid hsome).mp ⟨_, hreplace⟩)

end KitchenDb

def kitchenTicket (id : String) (status : KdsStatus) : ZoneTicket :=
  { id, saleId := "sale-1", status, startedAt := none, readyAt := none, servedAt := none
    prepTimeSeconds := 0, storeId := none, targetInstanceId := none, itemsSummary := "Soup"
    itemCount := 1, displayNumber := 1, receivedAt := "2026-01-01T00:00:00.000Z"
    kitchenZone := some id, tableNumber := none, ticketPrefix := "" }

def soupItem : CreateKdsLineItemInput := ⟨"SOUP", "Soup", 1, none, []⟩

def soupLine (id orderId : String) : TicketLine :=
  lineOf ⟨"2026-01-01T00:00:00.000Z", fun _ => id⟩ orderId 0 soupItem .fresh

/-- The grill still cooks; the bar has served its ticket, one of whose lines is left pending. -/
def servedEarly : KitchenDb where
  tickets := (Table.empty.insertNew (kitchenTicket "grill" .preparing)).insertNew
    (kitchenTicket "bar" .served)
  lines := (Table.empty.insertNew (soupLine "line-1" "grill")).insertNew (soupLine "line-2" "bar")

def grillOnly : KitchenDb where
  tickets := Table.empty.insertNew (kitchenTicket "grill" .preparing)
  lines := Table.empty.insertNew (soupLine "line-1" "grill")

def secondSoup : ItemsDraw × UpdateKdsOrderItemsInput :=
  (⟨"2026-01-01T00:01:00.000Z", fun i => if i = 0 then "line-3" else "line-4"⟩,
    ⟨"grill", "", 0, some [soupItem, soupItem]⟩)

end OzPos
