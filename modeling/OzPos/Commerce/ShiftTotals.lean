import OzPos.Commerce.Shifts
import OzPos.Library.Outcome
import OzPos.Library.Grouping

namespace OzPos

/-- The books with what came to pass: the shift each sale was created during, and the sales
in the totals of each closed shift. -/
structure ShiftHistory where
  db : ShiftDb
  during : List (String × String)
  counted : List (String × String)

variable (s : ShiftDb)

/-- What an accepted call adds to `during`. -/
def createdDuring : ShiftCall → List (String × String)
  | .createSale sale =>
    ((sale.userId.bind s.openShiftOf).map (fun shift => (sale.id, shift.id))).toList
  | _ => []

/-- What an accepted call adds to `counted`: the sales that `total_sales_minor` sums. -/
def countedBy (draw : ShiftDraw) (s : ShiftDb) : ShiftCall → List (String × String)
  | .closeShift id _ _ =>
    match s.shifts.find? id with
    | none => []
    | some shift => (s.soldIn shift draw.now).map (fun sale => (id, sale.id))
  | _ => []

def shiftHistory : Machine ShiftHistory ShiftEvent (Except ShiftError (Option Shift)) where
  step h e :=
    match shiftMachine.step h.db e with
    | (db, .error error) => ({ h with db }, .error error)
    | (db, .ok answer) =>
      (⟨db, h.during ++ createdDuring h.db e.1, h.counted ++ countedBy e.2 h.db e.1⟩, .ok answer)

def ShiftHistory.start : ShiftHistory := ⟨s, [], []⟩

theorem shiftHistory_db (h : ShiftHistory) (events : List ShiftEvent) :
    (shiftHistory.run h events).db = shiftMachine.run h.db events := by
  induction events generalizing h with
  | nil => rfl
  | cons e events ih =>
    rw [Machine.run_cons, Machine.run_cons, ih]
    congr 1
    simp only [shiftHistory]
    split
    · rename_i heq
      rw [heq]
    · rename_i heq
      rw [heq]

def ShiftDb.isClosed (id : String) : Bool :=
  (s.shifts.find? id).any (fun shift => shift.status = .closed)

def ShiftHistory.createdInClosed (h : ShiftHistory) (saleId : String) : Bool :=
  h.during.any (fun p => p.1 = saleId && h.db.isClosed p.2)

/-- The clock has gone on past the sales when a shift opens, and not back before the shift's
opening or the sales when they are stamped and counted; and a sale is finalised while the shift
it was made in is open. -/
def InShift (e : ShiftEvent) : Prop :=
  match e.1 with
  | .openShift userId _ _ =>
    ∀ sale ∈ s.sales.rows, sale.userId = some (trim userId) → sale.createdAt < e.2.now
  | .closeShift id _ _ =>
    ∀ shift ∈ s.shifts.find? id, shift.status = .open_ →
      ∀ sale ∈ s.sales.rows, sale.userId = some shift.userId →
        shift.openedAt ≤ sale.createdAt → sale.createdAt ≤ e.2.now
  | .createSale sale =>
    ∀ shift ∈ s.shifts.rows, shift.status = .open_ → sale.userId = some shift.userId →
      shift.openedAt ≤ sale.createdAt
  | .finalizeSale saleId =>
    ∀ sale ∈ s.sales.find? saleId, sale.status = .pending →
      (∀ shift ∈ s.shifts.rows, shift.status = .closed → sale.userId = some shift.userId →
        ∀ closedAt ∈ shift.closedAt,
          ¬ (shift.openedAt ≤ sale.createdAt ∧ sale.createdAt ≤ closedAt)) ∨
      ∃ shift ∈ s.shifts.rows, shift.status = .open_ ∧ sale.userId = some shift.userId ∧
        shift.openedAt ≤ sale.createdAt
  | .voidSale _ => True
  | .voidPendingSale _ => True

instance decidableInShift (e : ShiftEvent) : Decidable (InShift s e) := by
  unfold InShift
  cases e.1 <;> infer_instance

/-- Once every shift is closed, each completed sale created during one is in the total of
exactly one, and the totals sum to these sales. -/
structure SalesCountedOnce (h : ShiftHistory) : Prop where
  once : (∀ shift ∈ h.db.shifts.rows, shift.status = .closed) →
    ∀ sale ∈ h.db.sales.rows, sale.status = .completed →
      (∃ shift, (sale.id, shift) ∈ h.during) →
        ∃ shift, h.counted.filter (fun c => c.2 = sale.id) = [(shift, sale.id)]
  total : (∀ shift ∈ h.db.shifts.rows, shift.status = .closed) →
    (h.db.shifts.rows.map Shift.totalSalesMinor).sum =
      (h.db.sales.rows.map (fun sale =>
        if sale.status = .completed ∧ h.during.any (fun p => p.1 = sale.id) then sale.totalMinor
        else 0)).sum

structure ShiftsSound (h : ShiftHistory) : Prop where
  oneOpen : ∀ a ∈ h.db.shifts.rows, ∀ b ∈ h.db.shifts.rows, a.status = .open_ →
    b.status = .open_ → a.userId = b.userId → a.id = b.id
  made : ∀ p ∈ h.during, ∃ sale shift, h.db.sales.find? p.1 = some sale ∧
    h.db.shifts.find? p.2 = some shift ∧ sale.userId = some shift.userId ∧
    shift.openedAt ≤ sale.createdAt ∧
    (shift.status = .closed → ∃ closedAt, shift.closedAt = some closedAt ∧
      sale.createdAt ≤ closedAt)
  oneShift : ∀ p ∈ h.during, ∀ q ∈ h.during, p.1 = q.1 → p.2 = q.2
  covers : ∀ shift ∈ h.db.shifts.rows, shift.status = .open_ → ∀ sale ∈ h.db.sales.rows,
    sale.userId = some shift.userId → shift.openedAt ≤ sale.createdAt →
      (sale.id, shift.id) ∈ h.during
  countedOnce : ∀ sale ∈ h.db.sales.rows, sale.status = .completed → ∀ k, (sale.id, k) ∈ h.during →
    h.db.isClosed k = true → h.counted.filter (fun c => c.2 = sale.id) = [(k, sale.id)]
  uncounted : ∀ i, (∀ sale ∈ h.db.sales.rows, sale.id = i → sale.status = .completed →
    ¬ h.createdInClosed i = true) → h.counted.filter (fun c => c.2 = i) = []
  unsummed : ∀ shift ∈ h.db.shifts.rows, shift.status = .open_ → shift.totalSalesMinor = 0
  summed : (h.db.shifts.rows.map Shift.totalSalesMinor).sum =
    (h.db.sales.rows.map (fun sale =>
      if sale.status = .completed ∧ h.createdInClosed sale.id then sale.totalMinor else 0)).sum

variable {h : ShiftHistory}

theorem ShiftsSound.countedOnce_all (hs : ShiftsSound h) : SalesCountedOnce h := by
  have hclosed : (∀ shift ∈ h.db.shifts.rows, shift.status = .closed) →
      ∀ p ∈ h.during, h.db.isClosed p.2 = true := by
    intro hall p hp
    obtain ⟨_, shift, _, hfind, _⟩ := hs.made p hp
    have hmem := ((Table.find?_eq_some_iff _ _ _).mp hfind).1
    simp [ShiftDb.isClosed, hfind, hall shift hmem]
  constructor
  · intro hall sale hsale hcompleted hduring
    obtain ⟨k, hk⟩ := hduring
    exact ⟨k, hs.countedOnce sale hsale hcompleted k hk (hclosed hall _ hk)⟩
  · intro hall
    rw [hs.summed]
    congr 1
    apply List.map_congr_left
    intro sale _
    have hsame : h.createdInClosed sale.id = h.during.any (fun p => p.1 = sale.id) := by
      rw [Bool.eq_iff_iff, ShiftHistory.createdInClosed, List.any_eq_true, List.any_eq_true]
      constructor
      · rintro ⟨p, hp, hboth⟩
        exact ⟨p, hp, (Bool.and_eq_true_iff.mp hboth).1⟩
      · rintro ⟨p, hp, hid⟩
        exact ⟨p, hp, Bool.and_eq_true_iff.mpr ⟨hid, hclosed hall p hp⟩⟩
    rw [hsame]

variable {draw : ShiftDraw} {s next : ShiftDb}

theorem openShift_ok {userId : String} {terminalId : Option String}
    {opening : Int} (h : openShift draw userId terminalId opening s = .ok next) :
    ∃ shifts, s.openShiftOf (trim userId) = none ∧
      s.shifts.insert? (newShift draw (trim userId) terminalId opening) = some shifts ∧
      next = { s with shifts } := by
  unfold openShift invalidShift at h
  split at h
  · cases h
  · split at h
    · cases h
    · split at h
      · cases h
      · cases h
      · split at h
        · cases h
        · rename_i hnone
          split at h
          · cases h
          · rename_i shifts hinsert
            exact ⟨shifts, by simpa using hnone, hinsert, (Except.ok.inj h).symm⟩

theorem sqlSum_ok {n m : Int} (h : sqlSum n = .ok m) : m = n := by
  unfold sqlSum at h
  cases hsum : checkedI64 n with
  | none => simp [hsum] at h
  | some total =>
    simp only [hsum, Except.ok.injEq] at h
    rw [← h]
    exact ((checkedI64_eq_some_iff _ _).mp hsum).1

variable {closing : Int} {notes : Option String} {shift : Shift}

theorem closedShift_ok {closed : Shift} (h : closedShift draw closing notes s shift = .ok closed) :
    closed.id = shift.id ∧ closed.userId = shift.userId ∧ closed.openedAt = shift.openedAt ∧
      closed.closedAt = some draw.now ∧ closed.status = .closed ∧
      closed.totalSalesMinor = salesTotal (s.soldIn shift draw.now) := by
  obtain ⟨total, htotal, h⟩ := Except.of_bind h
  obtain ⟨_, _, h⟩ := Except.of_bind h
  obtain ⟨_, _, h⟩ := Except.of_bind h
  obtain ⟨_, _, h⟩ := Except.of_bind h
  obtain ⟨_, _, h⟩ := Except.of_bind h
  obtain ⟨_, _, h⟩ := Except.of_bind h
  obtain ⟨_, _, h⟩ := Except.of_bind h
  obtain ⟨_, _, h⟩ := Except.of_bind h
  obtain ⟨_, _, h⟩ := Except.of_bind h
  obtain ⟨_, _, h⟩ := Except.of_bind h
  obtain ⟨_, _, h⟩ := Except.of_bind h
  obtain ⟨_, _, rfl⟩ := Except.of_map h
  exact ⟨rfl, rfl, rfl, rfl, rfl, sqlSum_ok htotal⟩

theorem closeShift_ok {id : String} (h : closeShift draw id closing notes s = .ok next) :
    ∃ shift closed, s.shifts.find? id = some shift ∧ shift.status = .open_ ∧
      closedShift draw closing notes s shift = .ok closed ∧
      next = { s with shifts := s.shifts.upsert closed } := by
  unfold closeShift invalidShift at h
  cases hfind : s.shifts.find? id with
  | none => simp [hfind] at h
  | some shift =>
    simp only [hfind] at h
    split at h
    · cases h
    · rename_i hopen
      obtain ⟨closed, hclosed, hnext⟩ := Except.of_map h
      refine ⟨shift, closed, rfl, ?_, hclosed, hnext.symm⟩
      cases hstatus : shift.status with
      | open_ => rfl
      | closed => exact absurd hstatus hopen

theorem createdInClosed_congr (h h' : ShiftHistory) (hduring : h'.during = h.during)
    (hclosed : ∀ id, h'.db.isClosed id = h.db.isClosed id) (saleId : String) :
    h'.createdInClosed saleId = h.createdInClosed saleId := by
  simp only [ShiftHistory.createdInClosed, hduring, hclosed]

theorem ShiftsSound.opened {userId : String} {terminalId : Option String} {opening : Int}
    (hs : ShiftsSound h) (hok : InShift h.db (.openShift userId terminalId opening, draw))
    (hopen : openShift draw userId terminalId opening h.db = .ok next) :
    ShiftsSound ⟨next, h.during, h.counted⟩ := by
  obtain ⟨shifts, hnone, hinsert, rfl⟩ := openShift_ok hopen
  have hrows := Table.insert?_rows hinsert
  have hfind := Table.find?_insert? hinsert
  have hfresh : h.db.shifts.find? (newShift draw (trim userId) terminalId opening).id = none := by
    rw [← Table.insert?_isSome_iff, hinsert]
    rfl
  have hnoOpen : ∀ shift ∈ h.db.shifts.rows, shift.status = .open_ →
      shift.userId ≠ trim userId := by
    intro shift hshift hstatus huser
    have hother := (List.find?_eq_none.mp hnone) shift hshift
    simp [hstatus, huser] at hother
  have hclosed : ∀ id, ShiftDb.isClosed { h.db with shifts } id = h.db.isClosed id := by
    intro id
    simp only [ShiftDb.isClosed, hfind]
    by_cases hid : (newShift draw (trim userId) terminalId opening).id = id
    · rw [if_pos hid, ← hid, hfresh]
      rfl
    · rw [if_neg hid]
  have hsame := createdInClosed_congr h ⟨{ h.db with shifts }, h.during, h.counted⟩ rfl hclosed
  constructor
  · intro a ha b hb haOpen hbOpen huser
    simp only [hrows, List.mem_append, List.mem_singleton] at ha hb
    rcases ha with ha | rfl
    · rcases hb with hb | rfl
      · exact hs.oneOpen a ha b hb haOpen hbOpen huser
      · exact absurd huser (hnoOpen a ha haOpen)
    · rcases hb with hb | rfl
      · exact absurd huser.symm (hnoOpen b hb hbOpen)
      · rfl
  · intro p hp
    obtain ⟨sale, shift, hsale, hshift, hrest⟩ := hs.made p hp
    have hid : (newShift draw (trim userId) terminalId opening).id ≠ p.2 := by
      intro heq
      rw [heq, hshift] at hfresh
      cases hfresh
    exact ⟨sale, shift, hsale, by rw [hfind, if_neg hid, hshift], hrest⟩
  · exact hs.oneShift
  · intro shift hshift hstatus sale hsale huser hstamp
    simp only [hrows, List.mem_append, List.mem_singleton] at hshift
    rcases hshift with hshift | rfl
    · exact hs.covers shift hshift hstatus sale hsale huser hstamp
    · exact absurd hstamp (not_le.mpr (hok sale hsale huser))
  · intro sale hsale hcompleted k hk hkClosed
    rw [hclosed] at hkClosed
    exact hs.countedOnce sale hsale hcompleted k hk hkClosed
  · intro i hi
    apply hs.uncounted i
    intro sale hsale hid hcompleted
    rw [← hsame]
    exact hi sale hsale hid hcompleted
  · intro shift hshift hstatus
    simp only [hrows, List.mem_append, List.mem_singleton] at hshift
    rcases hshift with hshift | rfl
    · exact hs.unsummed shift hshift hstatus
    · rfl
  · simp only [hrows, hsame, List.map_append, List.sum_append]
    rw [hs.summed]
    simp [newShift]

theorem createdInClosed_iff (h : ShiftHistory) (saleId : String) :
    h.createdInClosed saleId = true ↔ ∃ k, (saleId, k) ∈ h.during ∧ h.db.isClosed k = true := by
  rw [ShiftHistory.createdInClosed, List.any_eq_true]
  constructor
  · rintro ⟨p, hp, hboth⟩
    obtain ⟨hid, hclosed⟩ := Bool.and_eq_true_iff.mp hboth
    rw [decide_eq_true_eq] at hid
    exact ⟨p.2, by rw [← hid]; exact hp, hclosed⟩
  · rintro ⟨k, hk, hclosed⟩
    exact ⟨(saleId, k), hk, by simp [hclosed]⟩

variable {sale : ShiftSale}

theorem ShiftsSound.mem_soldIn (hs : ShiftsSound h)
    {now : String} (hfind : h.db.shifts.find? shift.id = some shift)
    (hopen : shift.status = .open_)
    (hnow : ∀ sale ∈ h.db.sales.rows, sale.userId = some shift.userId →
      shift.openedAt ≤ sale.createdAt → sale.createdAt ≤ now) (hsale : sale ∈ h.db.sales.rows) :
    (inWindow shift now sale ∧ sale.status = .completed) ↔
      (sale.id, shift.id) ∈ h.during ∧ sale.status = .completed := by
  have hmem := ((Table.find?_eq_some_iff _ _ _).mp hfind).1
  simp only [inWindow, Bool.and_eq_true, decide_eq_true_eq]
  constructor
  · rintro ⟨⟨⟨huser, hlow⟩, _⟩, hcompleted⟩
    exact ⟨hs.covers shift hmem hopen sale hsale huser hlow, hcompleted⟩
  · rintro ⟨hduring, hcompleted⟩
    obtain ⟨sale', shift', hsale', hshift', huser, hlow, _⟩ := hs.made _ hduring
    rw [(Table.mem_rows_iff _ _).mp hsale, Option.some.injEq] at hsale'
    rw [hfind, Option.some.injEq] at hshift'
    subst hsale' hshift'
    exact ⟨⟨⟨huser, hlow⟩, hnow sale hsale huser hlow⟩, hcompleted⟩

theorem filter_entries (k i : String) {sold : List ShiftSale} (hn : (sold.map ShiftSale.id).Nodup) :
    (sold.map (fun sale => (k, sale.id))).filter (fun c => c.2 = i) =
      if i ∈ sold.map ShiftSale.id then [(k, i)] else [] := by
  induction sold with
  | nil => rfl
  | cons sale sold ih =>
    obtain ⟨hfresh, hrest⟩ := List.nodup_cons.mp hn
    have ih := ih hrest
    by_cases hid : sale.id = i
    · rw [hid] at hfresh
      rw [if_neg hfresh] at ih
      simp [hid, ih]
    · simp [hid, Ne.symm hid, ih]

theorem ShiftsSound.closed {id : String} (hs : ShiftsSound h)
    (hok : InShift h.db (.closeShift id closing notes, draw))
    (hclose : closeShift draw id closing notes h.db = .ok next) :
    ShiftsSound ⟨next, h.during, h.counted ++ countedBy draw h.db (.closeShift id closing notes)⟩ := by
  obtain ⟨shift, closed, hfind, hopen, hrow, rfl⟩ := closeShift_ok hclose
  obtain ⟨hid, huser, hopenedAt, hclosedAt, hclosed, htotal⟩ := closedShift_ok hrow
  have hkey : shift.id = id := Table.find?_key hfind
  have hnow : ∀ sale ∈ h.db.sales.rows, sale.userId = some shift.userId →
      shift.openedAt ≤ sale.createdAt → sale.createdAt ≤ draw.now := hok shift hfind hopen
  subst hkey
  have hmem := ((Table.find?_eq_some_iff _ _ _).mp hfind).1
  have hsold := fun sale (hsale : sale ∈ h.db.sales.rows) =>
    hs.mem_soldIn hfind hopen hnow hsale
  have hmemSold : ∀ sale ∈ h.db.sales.rows, sale.id ∈ (h.db.soldIn shift draw.now).map
      ShiftSale.id ↔ (sale.id, shift.id) ∈ h.during ∧ sale.status = .completed := by
    intro sale hsale
    rw [← hsold sale hsale, List.mem_map]
    constructor
    · rintro ⟨other, hother, hid⟩
      obtain ⟨hotherMem, hboth⟩ := List.mem_filter.mp hother
      have hsame := (Table.mem_rows_iff _ _).mp hotherMem
      rw [hid, (Table.mem_rows_iff _ _).mp hsale, Option.some.injEq] at hsame
      rw [hsame]
      exact of_decide_eq_true hboth
    · intro hboth
      exact ⟨sale, List.mem_filter.mpr ⟨hsale, decide_eq_true hboth⟩, rfl⟩
  have hentries : countedBy draw h.db (.closeShift shift.id closing notes) =
      (h.db.soldIn shift draw.now).map (fun sale => (shift.id, sale.id)) := by
    simp only [countedBy, hfind]
  have hids : ((h.db.soldIn shift draw.now).map ShiftSale.id).Nodup :=
    h.db.sales.unique.sublist (List.filter_sublist.map ShiftSale.id)
  have hfindNew : ∀ k, (h.db.shifts.upsert closed).find? k =
      if k = shift.id then some closed else h.db.shifts.find? k := by
    intro k
    rw [Table.find?_upsert, hid]
    by_cases hk : shift.id = k
    · rw [if_pos hk, if_pos hk.symm]
    · rw [if_neg hk, if_neg (Ne.symm hk)]
  have hold : ∀ row ∈ (h.db.shifts.upsert closed).rows, row.status = .open_ →
      row ∈ h.db.shifts.rows := by
    intro row hrow hstatus
    rcases (Table.mem_upsert _ _ _).mp hrow with rfl | ⟨hrow, _⟩
    · rw [hclosed] at hstatus
      cases hstatus
    · exact hrow
  have hisClosed : ∀ k, ShiftDb.isClosed { h.db with shifts := h.db.shifts.upsert closed } k =
      (decide (k = shift.id) || h.db.isClosed k) := by
    intro k
    simp only [ShiftDb.isClosed, hfindNew]
    by_cases hk : k = shift.id
    · simp [hk, hclosed]
    · simp [hk]
  have hwasOpen : h.db.isClosed shift.id = false := by
    simp [ShiftDb.isClosed, hfind, hopen]
  have hcreated : ∀ i, ShiftHistory.createdInClosed
      ⟨{ h.db with shifts := h.db.shifts.upsert closed }, h.during,
        h.counted ++ countedBy draw h.db (.closeShift shift.id closing notes)⟩ i = true ↔
      h.createdInClosed i = true ∨ (i, shift.id) ∈ h.during := by
    intro i
    rw [createdInClosed_iff, createdInClosed_iff]
    constructor
    · rintro ⟨k, hk, hkClosed⟩
      rw [hisClosed, Bool.or_eq_true, decide_eq_true_eq] at hkClosed
      rcases hkClosed with rfl | hkClosed
      · exact .inr hk
      · exact .inl ⟨k, hk, hkClosed⟩
    · rintro (⟨k, hk, hkClosed⟩ | hk)
      · exact ⟨k, hk, by rw [hisClosed, hkClosed, Bool.or_true]⟩
      · exact ⟨shift.id, hk, by simp [hisClosed]⟩
  have hexclusive : ∀ i, (i, shift.id) ∈ h.during → ¬ h.createdInClosed i = true := by
    intro i hi hboth
    obtain ⟨k, hk, hkClosed⟩ := (createdInClosed_iff h i).mp hboth
    have hsame : k = shift.id := hs.oneShift _ hk _ hi rfl
    rw [hsame, hwasOpen] at hkClosed
    cases hkClosed
  constructor
  · intro a ha b hb haOpen hbOpen hsame
    exact hs.oneOpen a (hold a ha haOpen) b (hold b hb hbOpen) haOpen hbOpen hsame
  · intro p hp
    obtain ⟨sale, row, hsale, hrow, hsaleUser, hlow, hend⟩ := hs.made p hp
    by_cases hk : p.2 = shift.id
    · rw [hk, hfind, Option.some.injEq] at hrow
      subst hrow
      refine ⟨sale, closed, hsale, by rw [hfindNew, if_pos hk], ?_, ?_, ?_⟩
      · rw [huser]
        exact hsaleUser
      · rw [hopenedAt]
        exact hlow
      · intro _
        have hsaleMem := ((Table.find?_eq_some_iff _ _ _).mp hsale).1
        exact ⟨draw.now, hclosedAt, hnow sale hsaleMem hsaleUser hlow⟩
    · exact ⟨sale, row, hsale, by rw [hfindNew, if_neg hk, hrow], hsaleUser, hlow, hend⟩
  · exact hs.oneShift
  · intro row hrow hstatus sale hsale hsaleUser hlow
    exact hs.covers row (hold row hrow hstatus) hstatus sale hsale hsaleUser hlow
  · intro sale hsale hcompleted k hk hkClosed
    rw [hentries, List.filter_append, filter_entries _ _ hids]
    rw [hisClosed, Bool.or_eq_true, decide_eq_true_eq] at hkClosed
    rcases hkClosed with rfl | hkClosed
    · rw [if_pos ((hmemSold sale hsale).mpr ⟨hk, hcompleted⟩), hs.uncounted, List.nil_append]
      intro other _ _ _
      exact hexclusive sale.id hk
    · have hnot : sale.id ∉ (h.db.soldIn shift draw.now).map ShiftSale.id := by
        intro hin
        have hduring := ((hmemSold sale hsale).mp hin).1
        have hsame : k = shift.id := hs.oneShift _ hk _ hduring rfl
        rw [hsame, hwasOpen] at hkClosed
        cases hkClosed
      rw [if_neg hnot, List.append_nil]
      exact hs.countedOnce sale hsale hcompleted k hk hkClosed
  · intro i hi
    have hbefore : h.counted.filter (fun c => c.2 = i) = [] := by
      apply hs.uncounted i
      intro sale hsale hid' hcompleted hcreatedBefore
      exact hi sale hsale hid' hcompleted ((hcreated i).mpr (.inl hcreatedBefore))
    have hnot : i ∉ (h.db.soldIn shift draw.now).map ShiftSale.id := by
      intro hin
      obtain ⟨sale, hsale, hid'⟩ := List.mem_map.mp hin
      have hsaleMem := List.mem_of_mem_filter hsale
      rw [← hid'] at hin
      obtain ⟨hduring, hcompleted⟩ := (hmemSold sale hsaleMem).mp hin
      rw [hid'] at hduring
      exact hi sale hsaleMem hid' hcompleted ((hcreated i).mpr (.inr hduring))
    rw [hentries, List.filter_append, filter_entries _ _ hids, hbefore, if_neg hnot]
    rfl
  · intro row hrow hstatus
    exact hs.unsummed row (hold row hrow hstatus) hstatus
  · have hparts : ∀ sale ∈ h.db.sales.rows,
        (if sale.status = .completed ∧ ShiftHistory.createdInClosed
            ⟨{ h.db with shifts := h.db.shifts.upsert closed }, h.during,
              h.counted ++ countedBy draw h.db (.closeShift shift.id closing notes)⟩ sale.id = true
          then sale.totalMinor else 0) =
        (if sale.status = .completed ∧ h.createdInClosed sale.id = true then sale.totalMinor
          else 0) +
          if inWindow shift draw.now sale ∧ sale.status = .completed then sale.totalMinor
          else 0 := by
      intro sale hsale
      have hex := hexclusive sale.id
      simp only [hcreated, hsold sale hsale]
      by_cases hcompleted : sale.status = .completed
      · by_cases hin : (sale.id, shift.id) ∈ h.during
        · simp [hcompleted, hin, hex hin]
        · simp [hcompleted, hin]
      · simp [hcompleted]
    rw [List.map_congr_left hparts, List.sum_map_add, ← hs.summed, Table.sum_upsert, hid, hfind]
    simp only [Option.map_some, Option.getD_some, hs.unsummed shift hmem hopen, htotal]
    rw [salesTotal, ShiftDb.soldIn, Grouping.sum_filter]
    omega

theorem mem_createdDuring {p : String × String} (h : p ∈ createdDuring s (.createSale sale)) :
    ∃ shift ∈ s.shifts.rows, p = (sale.id, shift.id) ∧ shift.status = .open_ ∧
      sale.userId = some shift.userId := by
  simp only [createdDuring, Option.mem_toList, Option.map_eq_some_iff, Option.bind_eq_some_iff]
    at h
  obtain ⟨shift, ⟨user, huser, hopen⟩, rfl⟩ := h
  have hfound := List.find?_some hopen
  rw [decide_eq_true_eq] at hfound
  exact ⟨shift, List.mem_of_find?_eq_some hopen, rfl, hfound.2, by rw [huser, hfound.1]⟩

theorem createdDuring_of_open
    (hone : ∀ a ∈ s.shifts.rows, ∀ b ∈ s.shifts.rows, a.status = .open_ → b.status = .open_ →
      a.userId = b.userId → a.id = b.id)
    (hmem : shift ∈ s.shifts.rows) (hopen : shift.status = .open_)
    (huser : sale.userId = some shift.userId) :
    (sale.id, shift.id) ∈ createdDuring s (.createSale sale) := by
  simp only [createdDuring, huser, Option.bind_some, Option.mem_toList, Option.map_eq_some_iff,
    Prod.mk.injEq, true_and]
  cases hfind : s.openShiftOf shift.userId with
  | none =>
    have hnone := (List.find?_eq_none.mp hfind) shift hmem
    simp [hopen] at hnone
  | some other =>
    have hfound := List.find?_some hfind
    rw [decide_eq_true_eq] at hfound
    exact ⟨other, rfl, hone other (List.mem_of_find?_eq_some hfind) shift hmem hfound.2 hopen
      hfound.1⟩

theorem createdDuring_unique {call : ShiftCall} {p q : String × String}
    (hp : p ∈ createdDuring s call) (hq : q ∈ createdDuring s call) : p = q := by
  unfold createdDuring at hp hq
  split at hp
  · rw [Option.mem_toList] at hp hq
    rw [hp, Option.some.injEq] at hq
    exact hq
  · cases hp

theorem ShiftsSound.created {sales : Table String ShiftSale ShiftSale.id} (hs : ShiftsSound h)
    (hok : InShift h.db (.createSale sale, draw)) (hinsert : h.db.sales.insert? sale = some sales) :
    ShiftsSound ⟨{ h.db with sales }, h.during ++ createdDuring h.db (.createSale sale),
      h.counted⟩ := by
  have hrows := Table.insert?_rows hinsert
  have hfind := Table.find?_insert? hinsert
  have hfresh : h.db.sales.find? sale.id = none := by
    rw [← Table.insert?_isSome_iff, hinsert]
    rfl
  have hnew : ∀ p ∈ h.during, p.1 ≠ sale.id := by
    intro p hp heq
    obtain ⟨_, _, hsale, _⟩ := hs.made p hp
    rw [heq, hfresh] at hsale
    cases hsale
  have hnotClosed : ∀ p ∈ createdDuring h.db (.createSale sale), h.db.isClosed p.2 = false := by
    intro p hp
    obtain ⟨shift, hshift, rfl, hopen, _⟩ := mem_createdDuring hp
    simp [ShiftDb.isClosed, (Table.mem_rows_iff _ _).mp hshift, hopen]
  have hcreated : ∀ i, ShiftHistory.createdInClosed ⟨{ h.db with sales },
      h.during ++ createdDuring h.db (.createSale sale), h.counted⟩ i = h.createdInClosed i := by
    intro i
    have hnone : (createdDuring h.db (.createSale sale)).any (fun p =>
        decide (p.1 = i) && h.db.isClosed p.2) = false := by
      rw [List.any_eq_false]
      intro p hp
      simp [hnotClosed p hp]
    have hany : (h.during ++ createdDuring h.db (.createSale sale)).any (fun p =>
        decide (p.1 = i) && h.db.isClosed p.2) = h.createdInClosed i := by
      rw [List.any_append, hnone, Bool.or_false]
      rfl
    exact hany
  have hnotCreated : h.createdInClosed sale.id = false := by
    rw [Bool.eq_false_iff]
    intro hcreated
    obtain ⟨k, hk, _⟩ := (createdInClosed_iff h sale.id).mp hcreated
    exact hnew _ hk rfl
  constructor
  · exact hs.oneOpen
  · intro p hp
    rcases List.mem_append.mp hp with hold | hadded
    · obtain ⟨old, shift, hsale, hrest⟩ := hs.made p hold
      exact ⟨old, shift, by rw [hfind, if_neg (Ne.symm (hnew p hold)), hsale], hrest⟩
    · obtain ⟨shift, hshift, rfl, hopen, huser⟩ := mem_createdDuring hadded
      refine ⟨sale, shift, by rw [hfind, if_pos rfl], (Table.mem_rows_iff _ _).mp hshift, huser,
        hok shift hshift hopen huser, ?_⟩
      intro hclosed
      rw [hopen] at hclosed
      cases hclosed
  · intro p hp q hq hsame
    rcases List.mem_append.mp hp with hp | hp
    · rcases List.mem_append.mp hq with hq | hq
      · exact hs.oneShift p hp q hq hsame
      · obtain ⟨_, _, rfl, _⟩ := mem_createdDuring hq
        exact absurd hsame (hnew p hp)
    · rcases List.mem_append.mp hq with hq | hq
      · obtain ⟨_, _, rfl, _⟩ := mem_createdDuring hp
        exact absurd hsame.symm (hnew q hq)
      · rw [createdDuring_unique hp hq]
  · intro shift hshift hopen other hother huser hlow
    simp only [hrows, List.mem_append, List.mem_singleton] at hother
    rcases hother with hother | rfl
    · exact List.mem_append_left _ (hs.covers shift hshift hopen other hother huser hlow)
    · exact List.mem_append_right _ (createdDuring_of_open hs.oneOpen hshift hopen huser)
  · intro other hother hcompleted k hk hkClosed
    rcases List.mem_append.mp hk with hold | hadded
    · simp only [hrows, List.mem_append, List.mem_singleton] at hother
      rcases hother with hother | rfl
      · exact hs.countedOnce other hother hcompleted k hold hkClosed
      · exact (hnew (other.id, k) hold rfl).elim
    · have hopen : h.db.isClosed k = false := hnotClosed _ hadded
      have hclosed : h.db.isClosed k = true := hkClosed
      rw [hopen] at hclosed
      cases hclosed
  · intro i hi
    apply hs.uncounted i
    intro other hother hid hcompleted
    have hstill : other ∈ sales.rows := by
      rw [hrows]
      exact List.mem_append_left _ hother
    rw [← hcreated]
    exact hi other hstill hid hcompleted
  · exact hs.unsummed
  · simp only [hcreated, hrows, List.map_append, List.sum_append, List.map_cons, List.map_nil,
      List.sum_cons, List.sum_nil, hnotCreated]
    rw [hs.summed]
    simp

/-- A sale whose status is set, as `setSaleStatus` does to the one it names. -/
def restatused (saleId : String) (observed status : SaleStatus) (sale : ShiftSale) : ShiftSale :=
  if sale.id = saleId then
    (if sale.status = observed then { sale with status := status } else sale)
  else sale

theorem restatused_same (saleId : String) (observed status : SaleStatus) (sale : ShiftSale) :
    (restatused saleId observed status sale).id = sale.id ∧
      (restatused saleId observed status sale).userId = sale.userId ∧
      (restatused saleId observed status sale).createdAt = sale.createdAt ∧
      (restatused saleId observed status sale).totalMinor = sale.totalMinor := by
  unfold restatused
  split
  · split
    · exact ⟨rfl, rfl, rfl, rfl⟩
    · exact ⟨rfl, rfl, rfl, rfl⟩
  · exact ⟨rfl, rfl, rfl, rfl⟩

theorem restatused_completed {saleId : String} {observed status : SaleStatus}
    (hobserved : observed ≠ .completed) :
    (restatused saleId observed status sale).status = .completed ↔
      sale.status = .completed ∨
        (sale.id = saleId ∧ sale.status = observed ∧ status = .completed) := by
  unfold restatused
  by_cases hid : sale.id = saleId
  · by_cases hstatus : sale.status = observed
    · simp [hid, hstatus, hobserved]
    · simp [hid, hstatus]
  · simp [hid]

theorem ShiftsSound.restatused (hs : ShiftsSound h) (saleId : String)
    (observed status : SaleStatus) (hobserved : observed ≠ .completed)
    (hlate : status = .completed → ∀ sale, h.db.sales.find? saleId = some sale →
      sale.status = observed → ¬ h.createdInClosed saleId = true) :
    ShiftsSound ⟨h.db.setSaleStatus saleId observed status, h.during, h.counted⟩ := by
  have hrows : (h.db.setSaleStatus saleId observed status).sales.rows =
      h.db.sales.rows.map (OzPos.restatused saleId observed status) := rfl
  have hfind : ∀ i, (h.db.setSaleStatus saleId observed status).sales.find? i =
      (h.db.sales.find? i).map (OzPos.restatused saleId observed status) := by
    intro i
    have hupdate := Table.find?_update h.db.sales saleId (fun sale =>
      if sale.status = observed then { sale with status := status } else sale) (by
        intro sale
        split
        · rfl
        · rfl) i
    rw [ShiftDb.setSaleStatus, hupdate]
    cases hsale : h.db.sales.find? i with
    | none => rfl
    | some sale =>
      have hkey := Table.find?_key hsale
      simp only [Option.map_some, OzPos.restatused, hkey]
  have hmade : ∀ sale ∈ h.db.sales.rows,
      (OzPos.restatused saleId observed status sale).status = .completed →
      h.createdInClosed sale.id = true → sale.status = .completed := by
    intro sale hsale hcompleted hcreated
    rcases (restatused_completed hobserved).mp hcompleted with hdone | ⟨hid, hold, hnew⟩
    · exact hdone
    · have hsaleFind := (Table.mem_rows_iff _ _).mp hsale
      rw [hid] at hsaleFind hcreated
      exact absurd hcreated (hlate hnew sale hsaleFind hold)
  have hcreated := createdInClosed_congr h
    ⟨h.db.setSaleStatus saleId observed status, h.during, h.counted⟩ rfl (fun _ => rfl)
  constructor
  · exact hs.oneOpen
  · intro p hp
    obtain ⟨sale, shift, hsale, hshift, huser, hlow, hend⟩ := hs.made p hp
    obtain ⟨_, hsameUser, hsameStamp, _⟩ := restatused_same saleId observed status sale
    refine ⟨_, shift, by rw [hfind, hsale, Option.map_some], hshift, ?_, ?_, ?_⟩
    · rw [hsameUser]
      exact huser
    · rw [hsameStamp]
      exact hlow
    · rw [hsameStamp]
      exact hend
  · exact hs.oneShift
  · intro shift hshift hopen sale hsale huser hlow
    rw [hrows] at hsale
    obtain ⟨old, hold, rfl⟩ := List.mem_map.mp hsale
    obtain ⟨hsameId, hsameUser, hsameStamp, _⟩ := restatused_same saleId observed status old
    rw [hsameUser] at huser
    rw [hsameStamp] at hlow
    rw [hsameId]
    exact hs.covers shift hshift hopen old hold huser hlow
  · intro sale hsale hcompleted k hk hkClosed
    rw [hrows] at hsale
    obtain ⟨old, hold, rfl⟩ := List.mem_map.mp hsale
    rw [(restatused_same saleId observed status old).1] at hk ⊢
    have hcreatedOld := (createdInClosed_iff h old.id).mpr ⟨k, hk, hkClosed⟩
    exact hs.countedOnce old hold (hmade old hold hcompleted hcreatedOld) k hk hkClosed
  · intro i hi
    apply hs.uncounted i
    intro sale hsale hid hcompleted
    rw [← hcreated]
    apply hi (OzPos.restatused saleId observed status sale)
    · rw [hrows]
      exact List.mem_map_of_mem hsale
    · rw [(restatused_same saleId observed status sale).1]
      exact hid
    · exact (restatused_completed hobserved).mpr (.inl hcompleted)
  · exact hs.unsummed
  · rw [hrows, List.map_map]
    have hsame : ∀ sale ∈ h.db.sales.rows,
        (if sale.status = .completed ∧ h.createdInClosed sale.id then sale.totalMinor else 0) =
        ((fun sale : ShiftSale => if sale.status = .completed ∧ ShiftHistory.createdInClosed
            ⟨h.db.setSaleStatus saleId observed status, h.during, h.counted⟩ sale.id
          then sale.totalMinor else 0) ∘ OzPos.restatused saleId observed status) sale := by
      intro sale hsale
      obtain ⟨hsameId, _, _, hsameTotal⟩ := restatused_same saleId observed status sale
      simp only [Function.comp_apply, hcreated, hsameId, hsameTotal]
      have hiff : ((OzPos.restatused saleId observed status sale).status = .completed ∧
          h.createdInClosed sale.id = true) ↔
          (sale.status = .completed ∧ h.createdInClosed sale.id = true) := by
        constructor
        · rintro ⟨hcompleted, hin⟩
          exact ⟨hmade sale hsale hcompleted hin, hin⟩
        · rintro ⟨hcompleted, hin⟩
          exact ⟨(restatused_completed hobserved).mpr (.inl hcompleted), hin⟩
      simp only [hiff]
    rw [← List.map_congr_left hsame]
    exact hs.summed

theorem ShiftsSound.not_late {saleId : String}
    (hs : ShiftsSound h) (hok : InShift h.db (.finalizeSale saleId, draw))
    (hfind : h.db.sales.find? saleId = some sale) (hpending : sale.status = .pending) :
    ¬ h.createdInClosed saleId = true := by
  intro hcreated
  obtain ⟨k, hk, hclosed⟩ := (createdInClosed_iff h saleId).mp hcreated
  obtain ⟨sale', shift, hsale, hshift, huser, hlow, hend⟩ := hs.made _ hk
  rw [hfind, Option.some.injEq] at hsale
  subst hsale
  have hstatus : shift.status = .closed := by
    simpa [ShiftDb.isClosed, hshift] using hclosed
  have hmem := ((Table.find?_eq_some_iff _ _ _).mp hshift).1
  rcases hok sale hfind hpending with houtside | ⟨other, hother, hopen, huser', hlow'⟩
  · obtain ⟨closedAt, hat, hhigh⟩ := hend hstatus
    exact houtside shift hmem hstatus huser closedAt hat ⟨hlow, hhigh⟩
  · have hsaleMem := ((Table.find?_eq_some_iff _ _ _).mp hfind).1
    have hcovers := hs.covers other hother hopen sale hsaleMem huser' hlow'
    rw [Table.find?_key hfind] at hcovers
    have hsame : k = other.id := hs.oneShift _ hk _ hcovers rfl
    rw [hsame, ShiftDb.isClosed, (Table.mem_rows_iff _ _).mp hother] at hclosed
    simp [hopen] at hclosed

theorem ShiftsSound.step (h : ShiftHistory) (e : ShiftEvent) (hs : ShiftsSound h)
    (hok : InShift h.db e) : ShiftsSound (shiftHistory.step h e).1 := by
  obtain ⟨call, draw⟩ := e
  cases hfailure : draw.failure with
  | some message => simpa [shiftHistory, shiftMachine, hfailure] using hs
  | none =>
    cases hwrite : call.write draw h.db with
    | error error => simpa [shiftHistory, shiftMachine, hfailure, hwrite] using hs
    | ok next =>
      have hstep : (shiftHistory.step h (call, draw)).1 =
          ⟨next, h.during ++ createdDuring h.db call, h.counted ++ countedBy draw h.db call⟩ := by
        simp [shiftHistory, shiftMachine, hfailure, hwrite]
      rw [hstep]
      cases call with
      | openShift userId terminalId opening =>
        simpa [createdDuring, countedBy] using hs.opened hok hwrite
      | closeShift id closing notes =>
        simpa [createdDuring] using hs.closed hok hwrite
      | createSale sale =>
        cases hinsert : h.db.sales.insert? sale with
        | none => simp [ShiftCall.write, hinsert] at hwrite
        | some sales =>
          simp only [ShiftCall.write, hinsert, Except.ok.injEq] at hwrite
          rw [← hwrite]
          simpa [countedBy] using hs.created hok hinsert
      | finalizeSale saleId =>
        cases hwrite
        have hdone := hs.restatused saleId .pending .completed (by decide)
          (fun _ sale hfind hpending => hs.not_late hok hfind hpending)
        simpa [createdDuring, countedBy] using hdone
      | voidSale saleId =>
        cases hwrite
        have hdone := hs.restatused saleId .active .voided (by decide) (fun h => by cases h)
        simpa [createdDuring, countedBy] using hdone
      | voidPendingSale saleId =>
        cases hwrite
        have hdone := hs.restatused saleId .pending .voided (by decide) (fun h => by cases h)
        simpa [createdDuring, countedBy] using hdone

variable (users : List (String × Bool)) (refunds : List ShiftRefund) (payouts : List CashPayout)

def freshBooks : ShiftDb :=
  ⟨users, Table.empty, Table.empty, refunds, payouts⟩

theorem shiftsSound_start : ShiftsSound (.start (freshBooks users refunds payouts)) := by
  constructor
  · simp [ShiftHistory.start, freshBooks, Table.empty]
  · simp [ShiftHistory.start]
  · simp [ShiftHistory.start]
  · simp [ShiftHistory.start, freshBooks, Table.empty]
  · simp [ShiftHistory.start]
  · simp [ShiftHistory.start]
  · simp [ShiftHistory.start, freshBooks, Table.empty]
  · simp [ShiftHistory.start, freshBooks, Table.empty]

theorem shiftsSound_run (hs : ShiftsSound h) {events : List ShiftEvent}
    (hok : shiftMachine.Along InShift h.db events) : ShiftsSound (shiftHistory.run h events) := by
  induction events generalizing h with
  | nil => exact hs
  | cons e events ih =>
    have hdb := shiftHistory_db h [e]
    simp only [Machine.run_cons, Machine.run_nil] at hdb
    apply ih (hs.step h e hok.1)
    rw [hdb]
    exact hok.2

/-- In every state of every run of shifts and sales whose steps are in shift: once all shifts
are closed, each completed sale made during one is counted in exactly one. -/
theorem sales_counted_once (events : List ShiftEvent)
    (hok : shiftMachine.Along InShift (freshBooks users refunds payouts) events) :
    SalesCountedOnce (shiftHistory.run (.start (freshBooks users refunds payouts)) events) :=
  (shiftsSound_run (shiftsSound_start users refunds payouts) hok).countedOnce_all

variable (id now : String)

def shiftDraw : ShiftDraw := ⟨id, now, none⟩

def cashier : ShiftDb := freshBooks [("u-1", true)] [] []

def cashSale (id createdAt : String) (status : SaleStatus) : ShiftSale :=
  ⟨id, some "u-1", createdAt, status, some "cash", 900⟩

def openAt : ShiftEvent := (.openShift "u-1" none 0, shiftDraw id now)

def closeAt : ShiftEvent := (.closeShift id 0 none, shiftDraw "" now)

def sellAt (status : SaleStatus) : ShiftEvent :=
  (.createSale (cashSale id now status), shiftDraw "" now)

def finalizeAt : ShiftEvent := (.finalizeSale id, shiftDraw "" now)

def orderlyShifts : List ShiftEvent :=
  [openAt "k-1" "01", sellAt "s-1" "02" .pending, finalizeAt "s-1" "03", closeAt "k-1" "04",
    openAt "k-2" "05", sellAt "s-2" "06" .pending, sellAt "s-3" "07" .pending,
    (.voidPendingSale "s-3", shiftDraw "" "08"), finalizeAt "s-2" "08", closeAt "k-2" "09"]

theorem orderly_shifts_counted_once :
    SalesCountedOnce (shiftHistory.run (.start cashier) orderlyShifts) :=
  sales_counted_once [("u-1", true)] [] [] orderlyShifts (by decide +kernel)

def lateCapture : List ShiftEvent :=
  [openAt "k-1" "01", sellAt "s-1" "02" .pending, closeAt "k-1" "03", openAt "k-2" "04",
    finalizeAt "s-1" "05", closeAt "k-2" "06"]

/-- A shift that opens in the millisecond of the last sale of the one before it. -/
def sameMillisecond : List ShiftEvent :=
  [openAt "k-1" "01", sellAt "s-1" "02" .completed, closeAt "k-1" "02", openAt "k-2" "02",
    closeAt "k-2" "03"]

theorem late_and_same_sales_miscounted :
    ¬ SalesCountedOnce (shiftHistory.run (.start cashier) lateCapture) ∧
      ¬ SalesCountedOnce (shiftHistory.run (.start cashier) sameMillisecond) := by
  constructor
  · intro h
    have htotal := h.total (by decide +kernel)
    revert htotal
    decide +kernel
  · intro h
    have htotal := h.total (by decide +kernel)
    revert htotal
    decide +kernel

end OzPos
