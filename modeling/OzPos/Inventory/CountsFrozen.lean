import OzPos.Inventory.CountCompletion
import OzPos.Library.History
import OzPos.Client.StockMerge

namespace OzPos

open DomainTables

variable {κ : Type}

abbrev CountSystem (κ : Type) := Sessions (CountDb κ) CountCall

abbrev CountEvent := CallEvent CountCall CountDraw

variable (r : CountDb κ) (id : String)

def CountDb.statusOf : Option StockCountStatus :=
  (r.counts.find? id).map StockCount.status

def CountDb.linesOf : List StockCountLine :=
  r.lines.rows.filter (fun line => line.countId = id)

def CountDb.isCompleted : Bool := r.statusOf id = some .completed

/-- The step is the transaction of a completion of the count, and applies its adjustments. -/
def CompletesCount (s : CountSystem κ) (e : CountEvent) : Prop :=
  ∃ session draw completedBy adjustments, e = .write session draw ∧
    s.held session = some (.completeStockCount id completedBy) ∧
    ((countCalls κ).machine.step s e).2 = some (.ok adjustments) ∧
    AdjustmentsApplied id (s.shared.orderedLines id) (setCompleted draw.now id s.shared)
      ((countCalls κ).machine.step s e).1.shared adjustments

/-- A completed count keeps its status and lines, and only a completion makes one. -/
def StaysFrozen (s : CountSystem κ) (e : CountEvent) : Prop :=
  ∀ id,
    (s.shared.isCompleted id = true →
      ((countCalls κ).machine.step s e).1.shared.statusOf id = s.shared.statusOf id ∧
      ((countCalls κ).machine.step s e).1.shared.linesOf id = s.shared.linesOf id) ∧
    (s.shared.isCompleted id = false →
      ((countCalls κ).machine.step s e).1.shared.isCompleted id = true → CompletesCount id s e)

/-- An edit that lands on a count completed by now, or writes that status itself. -/
def thaws (call : CountCall) (draw : CountDraw) : Bool :=
  draw.failure.isNone &&
    match call with
    | .addCountLine line => r.isCompleted line.countId && (r.lines.find? line.id).isNone
    | .updateCountLine line =>
      (r.lines.find? line.id).any
        (fun row => r.isCompleted row.countId && setCountLine line row ≠ row)
    | .removeCountLine lineId =>
      (r.lines.find? lineId).any (fun row => r.isCompleted row.countId)
    | .updateStockCount count =>
      (r.counts.find? count.id).any
        (fun row => decide (row.status = .completed) != decide (count.status = .completed))
    | .completeStockCount _ _ => false

/-- What an editor may do: completed counts as they are, and no new ones. -/
def LeavesFrozen (r next : CountDb κ) : Prop :=
  ∀ id, (r.isCompleted id = true → next.statusOf id = r.statusOf id ∧ next.linesOf id = r.linesOf id) ∧
    (r.isCompleted id = false → next.isCompleted id = false)

theorem LeavesFrozen.refl : LeavesFrozen r r := fun _ =>
  ⟨fun _ => ⟨rfl, rfl⟩, fun h => h⟩

variable {r next : CountDb κ}

theorem leavesFrozen_of_counts (hcounts : next.counts = r.counts) :
    LeavesFrozen r next ↔ ∀ id, r.isCompleted id = true → next.linesOf id = r.linesOf id := by
  have hstatus : ∀ id, next.statusOf id = r.statusOf id := by
    intro id
    rw [CountDb.statusOf, hcounts, CountDb.statusOf]
  constructor
  · intro h id hcompleted
    exact ((h id).1 hcompleted).2
  · intro h id
    refine ⟨fun hcompleted => ⟨hstatus id, h id hcompleted⟩, ?_⟩
    intro hopen
    rwa [CountDb.isCompleted, hstatus id]

variable (line : StockCountLine)

theorem leavesFrozen_add (hcounts : next.counts = r.counts)
    (hrows : next.lines.rows = r.lines.rows ++ [line]) :
    LeavesFrozen r next ↔ r.isCompleted line.countId = false := by
  have hlines : ∀ id, next.linesOf id =
      r.linesOf id ++ if line.countId = id then [line] else [] := by
    intro id
    simp only [CountDb.linesOf, hrows, List.filter_append]
    by_cases hid : line.countId = id
    · simp [hid]
    · simp [hid]
  rw [leavesFrozen_of_counts hcounts]
  constructor
  · intro h
    cases hcompleted : r.isCompleted line.countId with
    | false => rfl
    | true =>
      have hsame := h line.countId hcompleted
      rw [hlines, if_pos rfl] at hsame
      simp at hsame
  · intro hopen id hcompleted
    have hid : line.countId ≠ id := by
      intro heq
      rw [heq, hcompleted] at hopen
      cases hopen
    rw [hlines, if_neg hid, List.append_nil]

variable (line row : StockCountLine)

def editedRow : StockCountLine :=
  if row.id = line.id then setCountLine line row else row

theorem editedRow_countId : (editedRow line row).countId = row.countId := by
  unfold editedRow
  split
  · rfl
  · rfl

theorem leavesFrozen_update (hcounts : next.counts = r.counts)
    (hrows : next.lines.rows = r.lines.rows.map (editedRow line)) :
    LeavesFrozen r next ↔ (r.lines.find? line.id).any
      (fun row => r.isCompleted row.countId && setCountLine line row ≠ row) = false := by
  have hlines : ∀ id, next.linesOf id = (r.linesOf id).map (editedRow line) := by
    intro id
    simp only [CountDb.linesOf, hrows, List.filter_map]
    congr 1
    apply List.filter_congr
    intro row _
    simp [editedRow_countId]
  rw [leavesFrozen_of_counts hcounts]
  cases hfind : r.lines.find? line.id with
  | none =>
    refine iff_of_true ?_ rfl
    intro id _
    rw [hlines]
    conv_rhs => rw [← List.map_id (r.linesOf id)]
    apply List.map_congr_left
    intro row hrow
    have hother := (Table.find?_eq_none_iff _ _).mp hfind row (List.mem_of_mem_filter hrow)
    exact if_neg hother
  | some found =>
    obtain ⟨hmem, hkey⟩ := (Table.find?_eq_some_iff _ _ _).mp hfind
    rw [Option.any_some, Bool.and_eq_false_iff, decide_eq_false_iff_not, not_not]
    constructor
    · intro h
      cases hcompleted : r.isCompleted found.countId with
      | false => exact .inl rfl
      | true =>
        right
        have hsame := h found.countId hcompleted
        rw [hlines] at hsame
        conv_rhs at hsame => rw [← List.map_id (r.linesOf found.countId)]
        have hrow := List.map_inj_left.mp hsame found
          (List.mem_filter.mpr ⟨hmem, by simp⟩)
        rwa [editedRow, if_pos hkey] at hrow
    · intro h id hcompleted
      rw [hlines]
      conv_rhs => rw [← List.map_id (r.linesOf id)]
      apply List.map_congr_left
      intro row hrow
      obtain ⟨hrowMem, hrowCount⟩ := List.mem_filter.mp hrow
      by_cases hid : row.id = line.id
      · have hfound := (Table.find?_eq_some_iff r.lines line.id row).mpr ⟨hrowMem, hid⟩
        rw [hfind, Option.some.injEq] at hfound
        subst hfound
        rw [decide_eq_true_eq] at hrowCount
        rw [hrowCount, hcompleted] at h
        rw [editedRow, if_pos hid]
        exact h.resolve_left (by simp)
      · exact if_neg hid

theorem leavesFrozen_remove (lineId : String) (hcounts : next.counts = r.counts)
    (hrows : next.lines.rows = r.lines.rows.filter (fun row => row.id ≠ lineId)) :
    LeavesFrozen r next ↔
      (r.lines.find? lineId).any (fun row => r.isCompleted row.countId) = false := by
  have hlines : ∀ id, next.linesOf id = (r.linesOf id).filter (fun row => row.id ≠ lineId) := by
    intro id
    simp only [CountDb.linesOf, hrows, List.filter_filter]
    apply List.filter_congr
    intro row _
    rw [Bool.and_comm]
  rw [leavesFrozen_of_counts hcounts]
  cases hfind : r.lines.find? lineId with
  | none =>
    refine iff_of_true ?_ rfl
    intro id _
    rw [hlines, List.filter_eq_self]
    intro row hrow
    have hother := (Table.find?_eq_none_iff _ _).mp hfind row (List.mem_of_mem_filter hrow)
    simpa using hother
  | some found =>
    obtain ⟨hmem, hkey⟩ := (Table.find?_eq_some_iff _ _ _).mp hfind
    rw [Option.any_some]
    constructor
    · intro h
      cases hcompleted : r.isCompleted found.countId with
      | false => rfl
      | true =>
        have hsame := h found.countId hcompleted
        rw [hlines, List.filter_eq_self] at hsame
        have hrow := hsame found (List.mem_filter.mpr ⟨hmem, by simp⟩)
        simp [hkey] at hrow
    · intro hopen id hcompleted
      rw [hlines, List.filter_eq_self]
      intro row hrow
      obtain ⟨hrowMem, hrowCount⟩ := List.mem_filter.mp hrow
      rw [decide_eq_true_eq] at hrowCount ⊢
      intro hid
      have hfound := (Table.find?_eq_some_iff r.lines lineId row).mpr ⟨hrowMem, hid⟩
      rw [hfind, Option.some.injEq] at hfound
      rw [hfound, hrowCount, hcompleted] at hopen
      cases hopen

theorem leavesFrozen_edit (count : StockCount)
    (hlines : next.lines = r.lines)
    (hcounts : ∀ id, next.counts.find? id =
      (r.counts.find? id).map (fun row => if id = count.id then setStockCount count row else row)) :
    LeavesFrozen r next ↔ (r.counts.find? count.id).any
      (fun row => decide (row.status = .completed) != decide (count.status = .completed)) =
        false := by
  have hsameLines : ∀ id, next.linesOf id = r.linesOf id := by
    intro id
    rw [CountDb.linesOf, hlines, CountDb.linesOf]
  have hstatus : ∀ id, next.statusOf id =
      if id = count.id then (r.counts.find? id).map (fun _ => count.status)
      else r.statusOf id := by
    intro id
    rw [CountDb.statusOf, hcounts, CountDb.statusOf]
    by_cases hid : id = count.id
    · simp [hid, Function.comp_def, setStockCount]
    · simp [hid]
  have hother : ∀ id, id ≠ count.id → next.isCompleted id = r.isCompleted id := by
    intro id hid
    rw [CountDb.isCompleted, hstatus, if_neg hid, CountDb.isCompleted]
  cases hfind : r.counts.find? count.id with
  | none =>
    refine iff_of_true ?_ rfl
    have hsame : ∀ id, next.statusOf id = r.statusOf id := by
      intro id
      rw [hstatus]
      split
      · rename_i hid
        simp [CountDb.statusOf, hid, hfind]
      · rfl
    intro id
    refine ⟨fun _ => ⟨hsame id, hsameLines id⟩, ?_⟩
    intro hopen
    rwa [CountDb.isCompleted, hsame id]
  | some found =>
    have hold : r.statusOf count.id = some found.status := by simp [CountDb.statusOf, hfind]
    have hnew : next.statusOf count.id = some count.status := by simp [hstatus, hfind]
    rw [Option.any_some, bne_eq_false_iff_eq, decide_eq_decide]
    constructor
    · intro h
      by_cases hcompleted : found.status = .completed
      · have hkept := ((h count.id).1 (by simp [CountDb.isCompleted, hold, hcompleted])).1
        rw [hold, hnew, Option.some.injEq] at hkept
        rw [hkept]
      · have hkept := (h count.id).2 (by simp [CountDb.isCompleted, hold, hcompleted])
        have hopen : count.status ≠ .completed := by
          simpa [CountDb.isCompleted, hnew] using hkept
        exact iff_of_false hcompleted hopen
    · intro h id
      by_cases hid : id = count.id
      · subst hid
        simp only [CountDb.isCompleted, hold, hnew, Option.some.injEq, decide_eq_true_eq,
          decide_eq_false_iff_not]
        refine ⟨fun hcompleted => ⟨?_, hsameLines _⟩, fun hopen => ?_⟩
        · rw [hcompleted, h.mp hcompleted]
        · rwa [← h]
      · refine ⟨fun _ => ⟨by rw [hstatus, if_neg hid], hsameLines id⟩, ?_⟩
        intro hopen
        rwa [hother id hid]

variable {draw : CountDraw} {call : CountCall}

theorem countCalls_write_error {e : CountError} (h : call.write draw r = .error e) :
    ((countCalls κ).write draw call r).1 = r := by
  simp [countCalls, h]

theorem countCalls_write_ok
    {adjustments : List StockAdjustment} (h : call.write draw r = .ok (next, adjustments)) :
    (countCalls κ).write draw call r = (next, .ok adjustments) := by
  simp [countCalls, h]

theorem leavesFrozen_iff (r : CountDb κ) (call : CountCall) (draw : CountDraw)
    (hedits : ∀ countId completedBy, call ≠ .completeStockCount countId completedBy) :
    LeavesFrozen r ((countCalls κ).write draw call r).1 ↔ thaws r call draw = false := by
  cases hfailure : draw.failure with
  | some message =>
    have hsame : ((countCalls κ).write draw call r).1 = r := by
      cases call with
      | completeStockCount countId completedBy => exact absurd rfl (hedits countId completedBy)
      | addCountLine line => simp [countCalls, CountCall.write, hfailure]
      | updateCountLine line => simp [countCalls, CountCall.write, hfailure]
      | removeCountLine lineId => simp [countCalls, CountCall.write, hfailure]
      | updateStockCount count => simp [countCalls, CountCall.write, hfailure]
    rw [hsame]
    exact iff_of_true (LeavesFrozen.refl r) (by simp [thaws, hfailure])
  | none =>
    cases call with
    | completeStockCount countId completedBy => exact absurd rfl (hedits countId completedBy)
    | updateCountLine line =>
      have hwrite : CountCall.write draw r (.updateCountLine line) =
          .ok ({ r with
            lines := r.lines.update line.id (setCountLine line) (setCountLine_id line) }, []) := by
        simp only [CountCall.write, hfailure]
      rw [countCalls_write_ok hwrite, leavesFrozen_update line, thaws]
      · simp [hfailure]
      · rfl
      · rfl
    | removeCountLine lineId =>
      have hwrite : CountCall.write draw r (.removeCountLine lineId) =
          .ok ({ r with lines := r.lines.retain (fun line => line.id ≠ lineId) }, []) := by
        simp only [CountCall.write, hfailure]
      rw [countCalls_write_ok hwrite, leavesFrozen_remove lineId, thaws]
      · simp [hfailure]
      · rfl
      · rfl
    | updateStockCount count =>
      have hwrite : CountCall.write draw r (.updateStockCount count) =
          .ok ({ r with
            counts := r.counts.update count.id (setStockCount count)
              (setStockCount_id count) }, []) := by
        simp only [CountCall.write, hfailure]
      rw [countCalls_write_ok hwrite, leavesFrozen_edit count, thaws]
      · simp [hfailure]
      · rfl
      · exact Table.find?_update r.counts count.id (setStockCount count) (setStockCount_id count)
    | addCountLine line =>
      by_cases hcount : (r.counts.find? line.countId).isNone
      · have hwrite : ∃ e, CountCall.write draw r (.addCountLine line) = .error e := by
          simp only [CountCall.write, hfailure, hcount, if_true]
          exact ⟨_, rfl⟩
        obtain ⟨e, herror⟩ := hwrite
        rw [countCalls_write_error herror]
        refine iff_of_true (LeavesFrozen.refl r) ?_
        rw [Option.isNone_iff_eq_none] at hcount
        simp [thaws, CountDb.isCompleted, CountDb.statusOf, hcount]
      · cases hinsert : r.lines.insert? line with
        | none =>
          have hwrite : CountCall.write draw r (.addCountLine line) =
              .error (.core (.db "UNIQUE constraint failed: stock_count_lines.id")) := by
            simp only [CountCall.write, hfailure, hcount, hinsert]
            rfl
          rw [countCalls_write_error hwrite]
          refine iff_of_true (LeavesFrozen.refl r) ?_
          obtain ⟨old, hold⟩ := (Table.insert?_eq_none_iff r.lines line).mp hinsert
          simp [thaws, hold]
        | some lines =>
          have hwrite : CountCall.write draw r (.addCountLine line) =
              .ok ({ r with lines }, []) := by
            simp only [CountCall.write, hfailure, hcount, hinsert]
            rfl
          have hnew : r.lines.find? line.id = none := by
            rw [← Table.insert?_isSome_iff r.lines line, hinsert]
            rfl
          rw [countCalls_write_ok hwrite, leavesFrozen_add line, thaws]
          · simp [hfailure, hnew]
          · rfl
          · exact Table.insert?_rows hinsert

theorem statusOf_setCompleted (now countId : String) (r : CountDb κ) (id : String) :
    (setCompleted now countId r).statusOf id =
      if id = countId then (r.counts.find? id).map (fun _ => .completed) else r.statusOf id := by
  have hfind := Table.find?_update r.counts countId
    (fun c => { c with status := .completed, completedAt := some now, updatedAt := now })
    (fun _ => rfl) id
  simp only [CountDb.statusOf, setCompleted, hfind]
  by_cases hid : id = countId
  · simp [hid, Function.comp_def]
  · simp [hid]

theorem completion_written {countId : String} {completedBy : Option String}
    {adjustments : List StockAdjustment}
    (h : completeStockCount draw countId completedBy r = .ok (next, adjustments)) :
    r.isCompleted countId = false ∧ next.isCompleted countId = true ∧
      (∀ id, next.linesOf id = r.linesOf id) ∧
      (∀ id, id ≠ countId → next.statusOf id = r.statusOf id) := by
  obtain ⟨count, hfind, heditable, happlied⟩ := completeStockCount_ok h
  have hstatus : ∀ id, next.statusOf id = (setCompleted draw.now countId r).statusOf id := by
    intro id
    rw [CountDb.statusOf, happlied.sameCounts, CountDb.statusOf]
  refine ⟨?_, ?_, ?_, ?_⟩
  · have hopen : count.status ≠ .completed := by
      intro heq
      simp [heq, StockCountStatus.editable] at heditable
    simp [CountDb.isCompleted, CountDb.statusOf, hfind, hopen]
  · simp [CountDb.isCompleted, hstatus, statusOf_setCompleted, hfind]
  · intro id
    rw [CountDb.linesOf, happlied.sameLines]
    rfl
  · intro id hid
    rw [hstatus, statusOf_setCompleted, if_neg hid]

variable {s : CountSystem κ} {e : CountEvent}

theorem completesCount_cases {id : String}
    (h : CompletesCount id s e) : s.shared.isCompleted id = false ∧
      ((countCalls κ).machine.step s e).1.shared.isCompleted id = true := by
  obtain ⟨session, draw, completedBy, adjustments, rfl, hheld, hanswer, _⟩ := h
  rw [Calls.answer_write_some (countCalls κ) draw hheld] at hanswer
  rw [Calls.shared_write_some (countCalls κ) draw hheld]
  cases hwrite : completeStockCount draw id completedBy s.shared with
  | error e =>
    have hcall : CountCall.write draw s.shared (.completeStockCount id completedBy) = .error e :=
      hwrite
    simp [countCalls, hcall] at hanswer
  | ok done =>
    have hcall : CountCall.write draw s.shared (.completeStockCount id completedBy) =
      .ok (done.1, done.2) := hwrite
    rw [countCalls_write_ok hcall]
    obtain ⟨hopen, hdone, _⟩ := completion_written hwrite
    exact ⟨hopen, hdone⟩

theorem staysFrozen_write {session : Nat} (hheld : s.held session = some call) :
    StaysFrozen s (.write session draw) ↔ thaws s.shared call draw = false := by
  by_cases hcompletes : ∃ countId completedBy, call = .completeStockCount countId completedBy
  · obtain ⟨countId, completedBy, rfl⟩ := hcompletes
    refine iff_of_true ?_ (by simp [thaws])
    unfold StaysFrozen
    rw [Calls.shared_write_some (countCalls κ) draw hheld]
    cases hwrite : completeStockCount draw countId completedBy s.shared with
    | error e =>
      have hcall : CountCall.write draw s.shared (.completeStockCount countId completedBy) =
        .error e := hwrite
      rw [countCalls_write_error hcall]
      intro id
      refine ⟨fun _ => ⟨rfl, rfl⟩, ?_⟩
      intro hopen hdone
      rw [hopen] at hdone
      cases hdone
    | ok done =>
      obtain ⟨next, adjustments⟩ := done
      have hcall : CountCall.write draw s.shared (.completeStockCount countId completedBy) =
        .ok (next, adjustments) := hwrite
      obtain ⟨hopen, _, hlines, hothers⟩ := completion_written hwrite
      obtain ⟨_, _, _, happlied⟩ := completeStockCount_ok hwrite
      simp only [countCalls_write_ok hcall]
      intro id
      by_cases hid : id = countId
      · subst hid
        constructor
        · intro hdone
          rw [hopen] at hdone
          cases hdone
        intro _ _
        refine ⟨session, draw, completedBy, adjustments, rfl, hheld, ?_, ?_⟩
        · rw [Calls.answer_write_some (countCalls κ) draw hheld, countCalls_write_ok hcall]
        · rw [Calls.shared_write_some (countCalls κ) draw hheld, countCalls_write_ok hcall]
          exact happlied
      · refine ⟨fun _ => ⟨hothers id hid, hlines id⟩, ?_⟩
        intro hold hnew
        rw [CountDb.isCompleted, hothers id hid, ← CountDb.isCompleted, hold] at hnew
        cases hnew
  · have hedits : ∀ countId completedBy, call ≠ .completeStockCount countId completedBy := by
      intro countId completedBy heq
      exact hcompletes ⟨countId, completedBy, heq⟩
    rw [← leavesFrozen_iff s.shared call draw hedits]
    unfold StaysFrozen LeavesFrozen
    rw [Calls.shared_write_some (countCalls κ) draw hheld]
    have hnot : ∀ id, ¬ CompletesCount id s (.write session draw) := by
      rintro id ⟨other, draw', completedBy, _, heq, hother, _⟩
      cases heq
      rw [hheld, Option.some.injEq] at hother
      exact hedits id completedBy hother
    simp only [hnot, imp_false, Bool.not_eq_true]

/-- Once completed, a count never changes again; and it is completed by a completion that
applied its adjustments, at most once. -/
structure CountsFrozen (s : CountSystem κ) (events : List CountEvent) : Prop where
  frozen : (countCalls κ).machine.Along StaysFrozen s events
  once : ∀ id, (countCalls κ).machine.AtMostOnce (CompletesCount id) s events

/-- A write that comes in time: it thaws no completed count, and makes none. -/
def EditsInTime : CountSystem κ → CountEvent → Prop :=
  Calls.AtWrite (fun r call draw => thaws r call draw = false)

instance decidableEditsInTime (s : CountSystem κ) (e : CountEvent) : Decidable (EditsInTime s e) :=
  inferInstanceAs (Decidable (Calls.AtWrite _ s e))

theorem staysFrozen_of_unchanged
    (h : ((countCalls κ).machine.step s e).1.shared = s.shared) : StaysFrozen s e := by
  intro id
  rw [h]
  refine ⟨fun _ => ⟨rfl, rfl⟩, ?_⟩
  intro hopen hdone
  rw [hopen] at hdone
  cases hdone

theorem countCalls_disciplined : (countCalls κ).Disciplined (fun _ => True) (fun _ _ => True)
    (fun r call draw => thaws r call draw = false) where
  found _ _ _ _ _ := trivial
  kept _ _ _ _ _ _ := trivial
  stable _ _ _ _ _ _ _ _ := trivial

theorem staysFrozen_along_iff (r : CountDb κ) (events : List CountEvent) :
    (countCalls κ).machine.Along StaysFrozen (.start r) events ↔
      (countCalls κ).machine.Along EditsInTime (.start r) events := by
  apply countCalls_disciplined.along_iff
  · intro s session call _
    exact staysFrozen_of_unchanged (Calls.shared_read (countCalls κ) s session call)
  · intro s session draw _ hheld
    apply staysFrozen_of_unchanged
    rw [Calls.shared_write_none (countCalls κ) draw hheld]
  · intro s session call draw _ hheld
    exact staysFrozen_write hheld
  · trivial

theorem staysFrozen_latched (h : StaysFrozen s e)
    (id : String) (hdone : s.shared.isCompleted id = true) :
    ((countCalls κ).machine.step s e).1.shared.isCompleted id = true := by
  rw [CountDb.isCompleted, ((h id).1 hdone).1]
  exact hdone

theorem completes_once {events : List CountEvent}
    (h : (countCalls κ).machine.Along StaysFrozen s events) (id : String) :
    (countCalls κ).machine.AtMostOnce (CompletesCount id) s events := by
  apply Machine.atMostOnce_of_latched
  · intro t e hcompletes
    obtain ⟨hopen, hdone⟩ := completesCount_cases hcompletes
    have hnot : ¬ t.shared.isCompleted id = true := by
      rw [hopen]
      simp
    exact ⟨hnot, hdone⟩
  · exact (countCalls κ).machine.along_mono (fun t e hstays => staysFrozen_latched hstays id) _ _ h

/-- Over every interleaving of the steps of any calls, from any state of the counts: the
completed ones are frozen just where every edit comes in time. -/
theorem stock_counts_frozen_iff (r : CountDb κ) (events : List CountEvent) :
    CountsFrozen (.start r) events ↔
      (countCalls κ).machine.Along EditsInTime (.start r) events := by
  constructor
  · intro h
    exact (staysFrozen_along_iff r events).mp h.frozen
  · intro h
    have hfrozen := (staysFrozen_along_iff r events).mpr h
    exact ⟨hfrozen, completes_once hfrozen⟩

theorem not_frozen_of_late {events : List CountEvent}
    (h : ¬ (countCalls κ).machine.Along EditsInTime (.start r) events) :
    ¬ CountsFrozen (.start r) events := by
  intro hfrozen
  exact h ((staysFrozen_along_iff r events).mp hfrozen.frozen)

def countDraw (now : String) : CountDraw := ⟨now, fun n => "adj-" ++ toString n, none⟩

def openCount : StockCount :=
  ⟨"c-1", "SC-1", .inProgress, .full, "", none, none, "2026-01-01"⟩

def countedLine : StockCountLine := ⟨"l-1", "c-1", "SKU-1", "Kopi", 10, some 8, -2, ""⟩

def countShop : CountDb Unit where
  counts := Table.empty.insertNew openCount
  lines := Table.empty.insertNew countedLine
  adjustments := Table.empty
  domain := stockedTables

/-- Session 0 has its guard read when session 1 completes the count. -/
def overtakenEdit (call : CountCall) : List CountEvent :=
  [.read 0 call, .read 1 (.completeStockCount "c-1" none), .write 1 (countDraw "2026-01-02"),
    .write 0 (countDraw "2026-01-03")]

/-- A line recounted, added or removed, or the count set back, once it is completed; and an
update that completes a count and leaves its stock as it was. -/
theorem completed_count_thaws :
    ¬ CountsFrozen (.start countShop) (overtakenEdit (.updateStockCount openCount)) ∧
      ¬ CountsFrozen (.start countShop) (overtakenEdit (.removeCountLine "l-1")) ∧
      ¬ CountsFrozen (.start countShop)
        (overtakenEdit (.addCountLine { countedLine with id := "l-2" })) ∧
      ¬ CountsFrozen (.start countShop)
        (overtakenEdit (.updateCountLine { countedLine with countedQty := some 9, difference := -1 })) ∧
      ¬ CountsFrozen (.start countShop)
        [.read 0 (.updateStockCount { openCount with status := .completed }),
          .write 0 (countDraw "2026-01-02")] := by
  refine ⟨?_, ?_, ?_, ?_, ?_⟩
  · exact not_frozen_of_late (by decide +kernel)
  · exact not_frozen_of_late (by decide +kernel)
  · exact not_frozen_of_late (by decide +kernel)
  · exact not_frozen_of_late (by decide +kernel)
  · exact not_frozen_of_late (by decide +kernel)

end OzPos
