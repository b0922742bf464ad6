import OzPos.Server.SyncStore

namespace OzPos

variable (claims : ApiTokenClaims)

/-- A pull from the start, `next_cursor` followed until it is absent. -/
def followPages (claims : ApiTokenClaims) (since : Option String) (s : SyncStore) :
    Nat → Option String → Option (List (List OfflineQueueItem))
  | 0, _ => none
  | fuel + 1, cursor =>
    match pullHandler claims ⟨since, cursor⟩ s with
    | .error _ => none
    | .ok response =>
      match response.nextCursor with
      | none => some [response.items]
      | some next => (followPages claims since s fuel (some next)).map (response.items :: ·)

variable (since : Option String) (row : OfflineQueueItem)

def visible : Bool :=
  row.tenantId = claims.tenant && originFilter claims.terminalId row &&
    since.getD "" ≤ row.createdAt

variable (s : SyncStore)

def visibleRows : List OfflineQueueItem :=
  s.queue.rows.filter (visible claims since)

/-- The rows of the window, in order and each once. -/
structure ServesWindow (claims : ApiTokenClaims) (since : Option String) (s : SyncStore)
    (pages : List (List OfflineQueueItem)) : Prop where
  sorted : pages.flatten.Pairwise (fun a b => a.position < b.position)
  exact : ∀ row, row ∈ pages.flatten ↔ row ∈ s.queue.rows ∧ row.tenantId = claims.tenant ∧
    originFilter claims.terminalId row = true ∧ since.getD "" ≤ row.createdAt

def PullComplete : Prop :=
  ∃ fuel pages, followPages claims since s fuel none = some pages ∧
    ServesWindow claims since s pages

def cursorPlace? (cursor : Option String) : Option Position :=
  (cursor.bind decodeCursor).map toLex

def cursorPlace (row : OfflineQueueItem) : Position :=
  (cursorPlace? (some (encodeCursor row))).getD row.position

variable (front back : List Char)

theorem splitBar_append (h : '|' ∉ front) :
    splitBar (front ++ '|' :: back) = some (front, back) := by
  induction front with
  | nil => rfl
  | cons c rest ih =>
    rw [List.mem_cons, not_or] at h
    have hc : c ≠ '|' := fun heq => h.1 heq.symm
    simp [splitBar, hc, ih h.2]

theorem decode_encode (h : '|' ∉ row.createdAt.toList) :
    decodeCursor (encodeCursor row) = some (row.createdAt, row.id) := by
  have htext : (encodeCursor row).toList = row.createdAt.toList ++ '|' :: row.id.toList := by
    simp [encodeCursor]
  simp [decodeCursor, htext, splitBar_append _ _ h]

theorem lt_append_cons (c : Char) : front < front ++ c :: back := by
  induction front with
  | nil => exact List.nil_lt_cons c back
  | cons a rest ih => exact List.cons_lt_cons_iff.mpr (.inr ⟨rfl, ih⟩)

theorem decode_encode_bar (h : '|' ∈ row.createdAt.toList) :
    ∃ ts cid, decodeCursor (encodeCursor row) = some (ts, cid) ∧ ts < row.createdAt := by
  obtain ⟨front, back, htext, hfront⟩ := List.eq_append_cons_of_mem h
  have henc : (encodeCursor row).toList = front ++ '|' :: (back ++ '|' :: row.id.toList) := by
    simp [encodeCursor, htext]
  refine ⟨String.ofList front, String.ofList (back ++ '|' :: row.id.toList), ?_, ?_⟩
  · simp [decodeCursor, henc, splitBar_append _ _ hfront]
  · rw [String.lt_iff_toList_lt, htext]
    simpa using lt_append_cons front back '|'

theorem cursorPlace?_encode : cursorPlace? (some (encodeCursor row)) = some (cursorPlace row) := by
  unfold cursorPlace
  by_cases h : '|' ∈ row.createdAt.toList
  · obtain ⟨ts, cid, hdecode, _⟩ := decode_encode_bar row h
    simp [cursorPlace?, hdecode]
  · simp [cursorPlace?, decode_encode row h]

theorem cursorPlace_eq_iff : cursorPlace row = row.position ↔ '|' ∉ row.createdAt.toList := by
  by_cases h : '|' ∈ row.createdAt.toList
  · obtain ⟨ts, cid, hdecode, hlt⟩ := decode_encode_bar row h
    have hplace : cursorPlace row = toLex (ts, cid) := by
      simp [cursorPlace, cursorPlace?, hdecode]
    have hne : cursorPlace row ≠ row.position := by
      rw [hplace]
      intro heq
      have hts : ts = row.createdAt := congrArg (fun p : Position => (ofLex p).1) heq
      exact absurd hlt (hts ▸ lt_irrefl _)
    simp [h, hne]
  · simp [cursorPlace, cursorPlace?, decode_encode row h, OfflineQueueItem.position, h]

theorem cursorPlace_le : cursorPlace row ≤ row.position := by
  by_cases h : '|' ∈ row.createdAt.toList
  · obtain ⟨ts, cid, hdecode, hlt⟩ := decode_encode_bar row h
    have hplace : cursorPlace row = toLex (ts, cid) := by
      simp [cursorPlace, cursorPlace?, hdecode]
    rw [hplace]
    exact le_of_lt ((position_lt_iff ts cid row).mpr (.inl hlt))
  · exact le_of_eq ((cursorPlace_eq_iff row).mpr h)

theorem position_nodup : ((visibleRows claims since s).map OfflineQueueItem.position).Nodup := by
  have hid : ((visibleRows claims since s).map OfflineQueueItem.id).Nodup :=
    s.queue.unique.sublist ((List.filter_sublist).map _)
  rw [List.Nodup, List.pairwise_map] at hid ⊢
  refine hid.imp ?_
  intro a b hne heq
  exact hne (congrArg (fun p : Position => (ofLex p).2) heq)

theorem filter_pullSelects (since cursor : Option String) (s : SyncStore) :
    s.queue.rows.filter (pullSelects claims.tenant claims.terminalId since
        (cursor.bind decodeCursor)) =
      KeysetPage.beyond OfflineQueueItem.position (visibleRows claims since s)
        (cursorPlace? cursor) := by
  have hall : ∀ row, pullSelects claims.tenant claims.terminalId since
      (cursor.bind decodeCursor) row = true ↔ visible claims since row = true ∧
        ∀ p, cursorPlace? cursor = some p → p < row.position := by
    intro row
    rw [pullSelects_iff]
    unfold beyondAnchor visible cursorPlace?
    cases cursor.bind decodeCursor with
    | none => simp [and_assoc]
    | some parts =>
      simp only [Bool.and_eq_true, decide_eq_true_eq, Option.map_some, Option.some.injEq,
        forall_eq']
      constructor
      · rintro ⟨ht, ho, hs, hp⟩
        exact ⟨⟨⟨ht, ho⟩, hs⟩, hp parts.1 parts.2 rfl⟩
      · rintro ⟨⟨⟨ht, ho⟩, hs⟩, hp⟩
        refine ⟨ht, ho, hs, ?_⟩
        rintro ts cid rfl
        exact hp
  unfold KeysetPage.beyond visibleRows
  cases hc : cursorPlace? cursor with
  | none =>
    apply List.filter_congr
    intro row _
    rw [Bool.eq_iff_iff, hall]
    simp [hc]
  | some p =>
    simp only [List.filter_filter]
    apply List.filter_congr
    intro row _
    rw [Bool.eq_iff_iff, hall]
    simp [hc, and_comm]

theorem pullHandler_ok (since cursor : Option String) (s : SyncStore)
    (h : anchorExpired? s.queue claims.tenant ⟨since, cursor⟩ = none) :
    pullHandler claims ⟨since, cursor⟩ s =
      let page := KeysetPage.take OfflineQueueItem.position pageLimit
        (KeysetPage.beyond OfflineQueueItem.position (visibleRows claims since s)
          (cursorPlace? cursor))
      .ok ⟨page.items, page.next.map encodeCursor⟩ := by
  unfold pullHandler
  rw [h]
  simp only [sqlitePullItems, filter_pullSelects]
  unfold KeysetPage.take KeysetPage.next
  by_cases hmore : pageLimit < ((KeysetPage.ordered OfflineQueueItem.position
      (KeysetPage.beyond OfflineQueueItem.position (visibleRows claims since s)
        (cursorPlace? cursor))).take (pageLimit + 1)).length
  · simp only [if_pos hmore, if_true]
  · simp only [if_neg hmore, Bool.false_eq_true, if_false, Option.map_none]

theorem followPages_eq (fuel : Nat) (cursor : Option String)
    (h : anchorExpired? s.queue claims.tenant ⟨since, cursor⟩ = none) :
    followPages claims since s fuel cursor =
      KeysetPage.follow OfflineQueueItem.position cursorPlace pageLimit
        (visibleRows claims since s) fuel (cursorPlace? cursor) := by
  induction fuel generalizing cursor with
  | zero => rfl
  | succ fuel ih =>
    unfold followPages KeysetPage.follow
    rw [pullHandler_ok claims since cursor s h]
    simp only
    cases hn : (KeysetPage.take OfflineQueueItem.position pageLimit
        (KeysetPage.beyond OfflineQueueItem.position (visibleRows claims since s)
          (cursorPlace? cursor))).next with
    | none => simp
    | some last =>
      have hlater : anchorExpired? s.queue claims.tenant ⟨since, some (encodeCursor last)⟩ = none :=
        rfl
      simp [ih _ hlater, cursorPlace?_encode]

/-- A row that ends a page with more pages after it. -/
def EndsPage (row : OfflineQueueItem) : Prop :=
  KeysetPage.IsBoundary pageLimit
    (KeysetPage.ordered OfflineQueueItem.position (visibleRows claims since s)) row

theorem servesWindow_iff (pages : List (List OfflineQueueItem)) :
    ServesWindow claims since s pages ↔
      pages.flatten = KeysetPage.ordered OfflineQueueItem.position (visibleRows claims since s) := by
  have hmem : ∀ row, row ∈ KeysetPage.ordered OfflineQueueItem.position
      (visibleRows claims since s) ↔ row ∈ s.queue.rows ∧ row.tenantId = claims.tenant ∧
        originFilter claims.terminalId row = true ∧ since.getD "" ≤ row.createdAt := by
    intro row
    simp [KeysetPage.mem_ordered, visibleRows, visible, and_assoc]
  have hsorted := KeysetPage.pairwise_lt_ordered (position_nodup claims since s)
  constructor
  · intro h
    apply KeysetPage.eq_of_pairwise_lt h.sorted hsorted
    intro row
    rw [h.exact, hmem]
  · intro h
    exact ⟨by rw [h]; exact hsorted, fun row => by rw [h, hmem]⟩

theorem pullComplete_iff :
    PullComplete claims since s ↔
      anchorExpired? s.queue claims.tenant ⟨since, none⟩ = none ∧
        ∀ row, EndsPage claims since s row → '|' ∉ row.createdAt.toList := by
  have hd := position_nodup claims since s
  constructor
  · rintro ⟨fuel, pages, hpages, hserves⟩
    rw [servesWindow_iff] at hserves
    cases hexp : anchorExpired? s.queue claims.tenant ⟨since, none⟩ with
    | some oldest =>
      cases fuel with
      | zero => simp [followPages] at hpages
      | succ fuel => simp [followPages, pullHandler, hexp] at hpages
    | none =>
      refine ⟨rfl, ?_⟩
      intro row hrow
      rw [followPages_eq claims since s fuel none hexp] at hpages
      rw [← cursorPlace_eq_iff]
      exact KeysetPage.place_eq_of_follow hd (by decide) cursorPlace_le fuel []
        _ none pages rfl rfl hpages hserves row hrow
  · rintro ⟨hexp, hbars⟩
    obtain ⟨pages, hpages, hflat⟩ := KeysetPage.follow_complete hd (by decide)
      (KeysetPage.ordered OfflineQueueItem.position (visibleRows claims since s)).length []
      (KeysetPage.ordered OfflineQueueItem.position (visibleRows claims since s)) none rfl le_rfl
      rfl (fun row hrow => (cursorPlace_eq_iff row).mpr (hbars row hrow))
    exact ⟨_, pages, (followPages_eq claims since s _ none hexp).trans hpages,
      (servesWindow_iff claims since s pages).mpr hflat⟩

theorem anchorExpired?_first :
    anchorExpired? s.queue claims.tenant ⟨since, none⟩ = none ↔
      ∀ anchor oldest, since = some anchor →
        oldestCreatedAt s.queue claims.tenant = some oldest → oldest ≤ anchor := by
  unfold anchorExpired?
  cases since with
  | none => simp
  | some anchor =>
    cases oldestCreatedAt s.queue claims.tenant with
    | none => simp
    | some oldest =>
      constructor
      · rintro h _ _ ⟨⟩ ⟨⟩
        exact not_lt.mp (fun hlt => by simp [hlt] at h)
      · intro h
        exact if_neg (not_lt.mpr (h anchor oldest rfl rfl))

def anonymous : ApiTokenClaims := ⟨none, none⟩

def barredRow (n : Nat) : OfflineQueueItem :=
  queued (String.ofList (List.replicate n 'x')) "sale.complete" (.obj []) "a|b" none

def barredRows : List OfflineQueueItem := (List.range (pageLimit + 1)).map barredRow

/-- One row more than a page, every one with a bar in its `created_at`. -/
def barredStore : SyncStore where
  queue :=
    { rows := barredRows
      unique := by
        rw [barredRows, List.map_map]
        refine List.Nodup.map ?_ List.nodup_range
        intro m n h
        have htext := congrArg (fun id : String => id.toList.length) h
        simpa [barredRow, queued] using htext }
  conflictStore := SyncStore.empty.conflictStore

theorem mem_barredStore {row : OfflineQueueItem} (h : row ∈ barredStore.queue.rows) :
    ∃ n, row = barredRow n := by
  have hrows : barredStore.queue.rows = barredRows := by simp only [barredStore]
  rw [hrows, barredRows, List.mem_map] at h
  obtain ⟨n, _, hn⟩ := h
  exact ⟨n, hn.symm⟩

def prunedStore : SyncStore where
  queue := SyncStore.empty.queue.insertNew (queued "r" "sale.complete" (.obj []) "2026-03" none)
  conflictStore := SyncStore.empty.conflictStore

theorem pruned_oldest :
    oldestCreatedAt prunedStore.queue anonymous.tenant = some "2026-03" := by decide +kernel

end OzPos
