import OzPos.Protocol.PullAnchor
import OzPos.Server.Tenants

namespace OzPos

/-- The cloud server and one of its terminals. `answers` holds the response of each pull that is
on its way; `present` only records the rows that a pull found accepted when it began. -/
structure PullSystem (κ : Type) where
  server : SyncStore
  client : PullSide κ
  answers : Nat → Option (Except PullError PullResponse)
  present : Nat → List OfflineQueueItem

/-- Pushes of any terminal, and what becomes of the terminal's pulls. -/
inductive DeliveryEvent (κ : Type) where
  | push (sender : ApiTokenClaims) (faults : PushFaults) (items : List OfflineQueueItem)
  | begin (tick : Nat) (mode : PullMode)
  | fetch (tick : Nat)
  | deliver (tick : Nat) (met : PulledPage) (importSnapshot : DomainTables κ → DomainTables κ)
  | abandon (tick : Nat)
  | localWrite (write : DomainTables κ → DomainTables κ)

def PullResponse.page (response : PullResponse) (met : PulledPage) : PulledPage :=
  { met with items := response.items, nextCursor := response.nextCursor }

variable {κ : Type}

namespace PullSystem

def setAnswer (n : Nat) (answer : Option (Except PullError PullResponse)) (s : PullSystem κ) :
    PullSystem κ :=
  { s with answers := Function.update s.answers n answer }

def act (v : PushValidation) (crm : Crm κ) (claims : ApiTokenClaims) (s : PullSystem κ) :
    DeliveryEvent κ → PullSystem κ
  | .push sender faults items =>
    { s with server := (pushHandler v faults sender items s.server).1 }
  | .begin n mode =>
    match s.client.ticks n with
    | some _ => s
    | none =>
      { (s.setAnswer n none) with
        client := s.client.act crm (.begin n mode)
        present := Function.update s.present n s.server.queue.rows }
  | .fetch n =>
    match s.client.ticks n, s.answers n with
    | some tick, none =>
      s.setAnswer n (some (pullHandler claims ⟨tick.since, tick.cursor⟩ s.server))
    | _, _ => s
  | .deliver n met importSnapshot =>
    match s.answers n with
    | none => s
    | some (.ok response) =>
      { (s.setAnswer n none) with client := s.client.act crm (.page n (response.page met)) }
    | some (.error (.anchorExpired oldest)) =>
      { (s.setAnswer n none) with
        client := s.client.act crm (.expired n (some oldest) importSnapshot) }
  | .abandon n => { (s.setAnswer n none) with client := s.client.act crm (.abandon n) }
  | .localWrite write => { s with client := s.client.act crm (.localWrite write) }

def inFlight (s : PullSystem κ) (n : Nat) : List OfflineQueueItem :=
  match s.answers n with
  | some (.ok response) => response.items
  | _ => []

def anchorOf (s : PullSystem κ) (n : Nat) (tick : PullTick) : PullState :=
  match s.answers n with
  | some (.ok response) => ⟨savedSince tick response.items, response.nextCursor⟩
  | _ => tick.captured

end PullSystem

variable (v : PushValidation) (crm : Crm κ) (claims : ApiTokenClaims)

def pullSystem : Machine (PullSystem κ) (DeliveryEvent κ) Unit where
  step s e := (s.act v crm claims e, ())

/-- The rows a terminal is to be sent: its tenant's, of other terminals. -/
def Seen (row : OfflineQueueItem) : Prop :=
  row.tenantId = claims.tenant ∧ originFilter claims.terminalId row = true

variable (s : PullSystem κ)

/-- The response on its way is a last page, and all of it is applied or dead-lettered. -/
def Completes (n : Nat) (met : PulledPage) : Prop :=
  ∃ tick response, s.client.ticks n = some tick ∧ s.answers n = some (.ok response) ∧
    response.nextCursor = none ∧ (applyItems crm met.draws response.items s.client.db).2 = true

/-- A terminal that has completed a pull is done, then and later, with every row that the server
had accepted when the pull began. -/
def CyclesDeliver (events : List (DeliveryEvent κ)) : Prop :=
  ∀ l n met importSnapshot r, events = l ++ .deliver n met importSnapshot :: r →
    Completes crm ((pullSystem v crm claims).run s l) n met →
      ∀ row ∈ ((pullSystem v crm claims).run s l).present n, Seen claims row →
        isSettled ((pullSystem v crm claims).run s events).client.db row = true

/-- A row stands after a place that a pull goes on from. -/
def PullState.Before (anchor : PullState) (row : OfflineQueueItem) : Prop :=
  beyondAnchor anchor.since anchor.cursor row

/-- What a push stores for the terminal stands after the terminal's anchor and after the pages
of its pulls in flight. -/
def ArrivesAhead :
    DeliveryEvent κ → Prop
  | .push sender faults items =>
    ∀ row ∈ (pushHandler v faults sender items s.server).1.queue.rows,
      row ∉ s.server.queue.rows → Seen claims row →
        isSettled s.client.db row = true ∨
          (Ahead s.client.db row ∧
            ∀ n tick, s.client.ticks n = some tick → (s.anchorOf n tick).Before row)
  | _ => True

/-- A terminal that has not pulled yet, at any server. -/
structure FreshPull (s : PullSystem κ) : Prop where
  anchor : s.client.db.pullState = ⟨none, none⟩
  ticks : ∀ n, s.client.ticks n = none
  answers : ∀ n, s.answers n = none
  present : ∀ n, s.present n = []

/-- The anchor is no older than the oldest row of the tenant. -/
def Retained (tenantId : String) (s : SyncStore) (since : Option String) : Prop :=
  ∀ anchor, since = some anchor →
    ∃ row ∈ s.queue.rows, row.tenantId = tenantId ∧ row.createdAt ≤ anchor

structure Delivering (claims : ApiTokenClaims) (s : PullSystem κ) : Prop where
  durable : ∀ row ∈ s.server.queue.rows, Seen claims row → Held s.client.db row
  pulls : ∀ n tick, s.client.ticks n = some tick →
    ∀ row ∈ s.server.queue.rows, Seen claims row →
      isSettled s.client.db row = true ∨ row ∈ s.inFlight n ∨ (s.anchorOf n tick).Before row
  last : ∀ n response, s.answers n = some (.ok response) → response.nextCursor = none →
    ∀ row ∈ s.present n, Seen claims row →
      isSettled s.client.db row = true ∨ row ∈ response.items
  present : ∀ n, ∀ row ∈ s.present n, row ∈ s.server.queue.rows
  answered : ∀ n answer, s.answers n = some answer → ∃ response, answer = .ok response ∧
    ∀ item ∈ response.items, item ∈ s.server.queue.rows ∧ item.tenantId = claims.tenant
  retained : Retained claims.tenant s.server s.client.db.pullState.since
  captured : ∀ n tick, s.client.ticks n = some tick →
    Retained claims.tenant s.server tick.since

theorem pushHandler_keeps (faults : PushFaults) (sender : ApiTokenClaims)
    (items : List OfflineQueueItem) (s : SyncStore) :
    ∀ row ∈ s.queue.rows, row ∈ (pushHandler v faults sender items s).1.queue.rows := by
  intro row hrow
  unfold pushHandler
  cases hpush : s.pushBatch faults sender.tenant (items.filter v.accepts) with
  | mk next response =>
    cases response with
    | error e =>
      simp only [hpush]
      rw [pushBatch_error hpush]
      exact hrow
    | ok batch =>
      have hqueue : next.queue = _ := congrArg Prod.fst (pushBatch_ok hpush)
      simp only [hpush]
      rw [hqueue]
      exact pushItemwise_keeps faults.effective sender.tenant _ s.queue row hrow

theorem Retained.mono {tenantId : String} {s s' : SyncStore} {since : Option String}
    (h : Retained tenantId s since) (hrows : ∀ row ∈ s.queue.rows, row ∈ s'.queue.rows) :
    Retained tenantId s' since := by
  intro anchor hanchor
  obtain ⟨row, hrow, htenant, hle⟩ := h anchor hanchor
  exact ⟨row, hrows row hrow, htenant, hle⟩

variable {claims : ApiTokenClaims}

theorem Retained.not_expired {s : SyncStore} {since : Option String}
    (h : Retained claims.tenant s since) (cursor : Option String) :
    anchorExpired? s.queue claims.tenant ⟨since, cursor⟩ = none := by
  cases cursor with
  | some cursor => rfl
  | none =>
    rw [anchorExpired?_first]
    intro anchor oldest hanchor holdest
    obtain ⟨row, hrow, htenant, hle⟩ := h anchor hanchor
    have hmem : row.createdAt ∈ (s.queue.rows.filter
        (fun r => r.tenantId = claims.tenant)).map OfflineQueueItem.createdAt := by
      apply List.mem_map_of_mem
      rw [List.mem_filter]
      exact ⟨hrow, by simp [htenant]⟩
    exact ((List.min?_eq_some_iff.mp holdest).2 _ hmem).trans hle

theorem Retained.savedSince {tenantId : String} {s : SyncStore} {tick : PullTick}
    {items : List OfflineQueueItem} (h : Retained tenantId s tick.since)
    (hitems : ∀ item ∈ items, item ∈ s.queue.rows ∧ item.tenantId = tenantId) :
    Retained tenantId s (savedSince tick items) := by
  have hmax : Retained tenantId s (pageMax items) := by
    intro anchor hanchor
    obtain ⟨item, hitem, rfl⟩ := pageMax_mem hanchor
    exact ⟨item, (hitems item hitem).1, (hitems item hitem).2, le_refl _⟩
  unfold OzPos.savedSince
  cases tick.mode with
  | engine =>
    intro anchor hanchor
    cases hsince : tick.since with
    | none =>
      rw [hsince] at hanchor
      exact hmax anchor hanchor
    | some since =>
      rw [hsince] at h hanchor
      obtain ⟨row, hrow, htenant, hle⟩ := h since rfl
      refine ⟨row, hrow, htenant, hle.trans ?_⟩
      have hlater := laterSince_getD (some since) (pageMax items)
      rw [show laterSince (some since) (pageMax items) = some anchor from hanchor] at hlater
      exact (le_max_left _ _).trans (le_of_eq hlater.symm)
  | daemon =>
    cases hnewest : pageMax items with
    | none => exact h
    | some newest =>
      rw [hnewest] at hmax
      exact hmax

theorem createdAt_le_of_position {a b : OfflineQueueItem} (h : a.position ≤ b.position) :
    a.createdAt ≤ b.createdAt := by
  rcases (Prod.Lex.toLex_le_toLex.mp h) with hlt | ⟨heq, _⟩
  · exact hlt.le
  · exact heq.le

theorem pullHandler_covers {s : SyncStore} {tick : PullTick}
    {response : PullResponse} (hexp : anchorExpired? s.queue claims.tenant ⟨tick.since, tick.cursor⟩ = none)
    (hresponse : pullHandler claims ⟨tick.since, tick.cursor⟩ s = .ok response)
    {row : OfflineQueueItem} (hrow : row ∈ s.queue.rows) (hseen : Seen claims row)
    (hbefore : tick.captured.Before row) :
    row ∈ response.items ∨
      (response.nextCursor ≠ none ∧
        (⟨savedSince tick response.items, response.nextCursor⟩ : PullState).Before row) := by
  rw [pullHandler_ok claims tick.since tick.cursor s hexp] at hresponse
  have hwindow : row ∈ KeysetPage.beyond OfflineQueueItem.position
      (visibleRows claims tick.since s) (cursorPlace? tick.cursor) := by
    rw [← filter_pullSelects, List.mem_filter, pullSelects_iff]
    exact ⟨hrow, hseen.1, hseen.2, hbefore⟩
  have hsub : ((KeysetPage.beyond OfflineQueueItem.position (visibleRows claims tick.since s)
      (cursorPlace? tick.cursor)).map OfflineQueueItem.position).Nodup :=
    (position_nodup claims tick.since s).sublist
      ((KeysetPage.beyond_sublist OfflineQueueItem.position _ _).map OfflineQueueItem.position)
  generalize KeysetPage.beyond OfflineQueueItem.position (visibleRows claims tick.since s)
    (cursorPlace? tick.cursor) = window at *
  cases hresponse
  simp only
  by_cases hmem : row ∈ (KeysetPage.take OfflineQueueItem.position pageLimit window).items
  · exact .inl hmem
  · right
    obtain ⟨hmore, hlt⟩ :=
      KeysetPage.lt_of_not_mem (List.inj_on_of_nodup_map hsub) hwindow hmem
    obtain ⟨last, hnext, hlast⟩ := KeysetPage.next_of_more (by decide) hmore
    rw [hnext]
    refine ⟨by simp, ?_, ?_⟩
    · apply savedSince_le hbefore.1
      intro p hp
      exact createdAt_le_of_position (hlt p hp).le
    · intro ts cid hcursor
      have hdecode : (some (encodeCursor last)).bind decodeCursor = some (ts, cid) := hcursor
      have hplace : cursorPlace? (some (encodeCursor last)) = some (toLex (ts, cid)) := by
        rw [cursorPlace?, hdecode]
        rfl
      have hle : toLex (ts, cid) ≤ last.position :=
        Option.some.inj ((cursorPlace?_encode last).symm.trans hplace) ▸ cursorPlace_le last
      exact hle.trans_lt (hlt last hlast)

variable {s : PullSystem κ}

theorem PullSystem.anchorOf_none {n : Nat} (h : s.answers n = none)
    (tick : PullTick) : s.anchorOf n tick = tick.captured := by
  rw [PullSystem.anchorOf, h]

theorem PullSystem.anchorOf_ok {n : Nat} {response : PullResponse}
    (h : s.answers n = some (.ok response)) (tick : PullTick) :
    s.inFlight n = response.items ∧
      s.anchorOf n tick = ⟨savedSince tick response.items, response.nextCursor⟩ := by
  rw [PullSystem.inFlight, PullSystem.anchorOf, h]
  exact ⟨rfl, rfl⟩

theorem PullSystem.anchorOf_congr {s' : PullSystem κ} {n : Nat} (h : s'.answers n = s.answers n)
    (tick : PullTick) : s'.inFlight n = s.inFlight n ∧ s'.anchorOf n tick = s.anchorOf n tick := by
  unfold PullSystem.inFlight PullSystem.anchorOf
  rw [h]
  exact ⟨rfl, rfl⟩

/-- A step of the terminal that concerns one of its pulls. -/
structure PullKept (claims : ApiTokenClaims) (n : Nat) (s s' : PullSystem κ) : Prop where
  server : s'.server = s.server
  others : ∀ m, m ≠ n → s'.client.ticks m = s.client.ticks m ∧ s'.answers m = s.answers m ∧
    s'.present m = s.present m
  settled : ∀ row, isSettled s.client.db row = true → isSettled s'.client.db row = true
  durable : ∀ row ∈ s.server.queue.rows, Seen claims row → Held s'.client.db row
  retained : Retained claims.tenant s.server s'.client.db.pullState.since
  present : ∀ row ∈ s'.present n, row ∈ s.server.queue.rows
  pull : ∀ tick, s'.client.ticks n = some tick →
    Retained claims.tenant s.server tick.since ∧
      ∀ row ∈ s.server.queue.rows, Seen claims row →
        isSettled s'.client.db row = true ∨ row ∈ s'.inFlight n ∨ (s'.anchorOf n tick).Before row
  answer : ∀ answer, s'.answers n = some answer → ∃ response, answer = .ok response ∧
    (∀ item ∈ response.items, item ∈ s.server.queue.rows ∧ item.tenantId = claims.tenant) ∧
      (response.nextCursor = none → ∀ row ∈ s'.present n, Seen claims row →
        isSettled s'.client.db row = true ∨ row ∈ response.items)

theorem PullKept.delivering {n : Nat} {s' : PullSystem κ}
    (h : PullKept claims n s s') (hs : Delivering claims s) : Delivering claims s' := by
  refine ⟨?_, ?_, ?_, ?_, ?_, ?_, ?_⟩
  · rw [h.server]
    exact h.durable
  · intro m tick htick
    rw [h.server]
    by_cases hm : m = n
    · subst hm
      exact (h.pull tick htick).2
    · obtain ⟨hticks, hanswers, _⟩ := h.others m hm
      obtain ⟨hflight, hanchor⟩ := PullSystem.anchorOf_congr hanswers tick
      rw [hticks] at htick
      rw [hflight, hanchor]
      intro row hrow hseen
      exact (hs.pulls m tick htick row hrow hseen).imp_left (h.settled row)
  · intro m response hresponse hnone
    by_cases hm : m = n
    · subst hm
      obtain ⟨_, heq, _, hlast⟩ := h.answer _ hresponse
      cases heq
      exact hlast hnone
    · obtain ⟨_, hanswers, hpresent⟩ := h.others m hm
      rw [hanswers] at hresponse
      rw [hpresent]
      intro row hrow hseen
      exact (hs.last m response hresponse hnone row hrow hseen).imp_left (h.settled row)
  · intro m
    rw [h.server]
    by_cases hm : m = n
    · subst hm
      exact h.present
    · rw [(h.others m hm).2.2]
      exact hs.present m
  · intro m answer hanswer
    rw [h.server]
    by_cases hm : m = n
    · subst hm
      obtain ⟨response, heq, hitems, _⟩ := h.answer answer hanswer
      exact ⟨response, heq, hitems⟩
    · rw [(h.others m hm).2.1] at hanswer
      exact hs.answered m answer hanswer
  · rw [h.server]
    exact h.retained
  · intro m tick htick
    rw [h.server]
    by_cases hm : m = n
    · subst hm
      exact (h.pull tick htick).1
    · rw [(h.others m hm).1] at htick
      exact hs.captured m tick htick

section Step

variable {v : PushValidation} {crm : Crm κ} {claims : ApiTokenClaims} {s : PullSystem κ}

theorem push_delivering {sender : ApiTokenClaims} {faults : PushFaults}
    {items : List OfflineQueueItem} (h : Delivering claims s)
    (harrives : ArrivesAhead v claims s (.push sender faults items)) :
    Delivering claims (s.act v crm claims (.push sender faults items)) := by
  have hkeeps := pushHandler_keeps v faults sender items s.server
  refine ⟨?_, ?_, h.last, ?_, ?_, h.retained.mono hkeeps, ?_⟩
  · intro row hrow hseen
    by_cases hold : row ∈ s.server.queue.rows
    · exact h.durable row hold hseen
    · exact (harrives row hrow hold hseen).imp_right And.left
  · intro n tick htick row hrow hseen
    by_cases hold : row ∈ s.server.queue.rows
    · exact h.pulls n tick htick row hold hseen
    · rcases harrives row hrow hold hseen with hdone | ⟨_, hpulls⟩
      · exact .inl hdone
      · exact .inr (.inr (hpulls n tick htick))
  · intro n row hrow
    exact hkeeps row (h.present n row hrow)
  · intro n answer hanswer
    obtain ⟨response, heq, hitems⟩ := h.answered n answer hanswer
    refine ⟨response, heq, ?_⟩
    intro item hitem
    exact ⟨hkeeps item (hitems item hitem).1, (hitems item hitem).2⟩
  · intro n tick htick
    exact (h.captured n tick htick).mono hkeeps

variable {n : Nat}

theorem begin_delivering {mode : PullMode} (h : Delivering claims s) :
    Delivering claims (s.act v crm claims (.begin n mode)) := by
  cases htick : s.client.ticks n with
  | some tick =>
    have hsame : s.act v crm claims (.begin n mode) = s := by simp only [PullSystem.act, htick]
    rw [hsame]
    exact h
  | none =>
    have hdb : (s.act v crm claims (.begin n mode)).client.db = s.client.db := by
      simp only [PullSystem.act, PullSide.act, htick]
      rfl
    have hserver : (s.act v crm claims (.begin n mode)).server = s.server := by
      simp only [PullSystem.act, htick]
      rfl
    have hticks : (s.act v crm claims (.begin n mode)).client.ticks = Function.update s.client.ticks
        n (some ⟨mode, s.client.db.pullState.since, s.client.db.pullState.cursor, false⟩) := by
      simp only [PullSystem.act, PullSide.act, htick]
      rfl
    have hanswers : (s.act v crm claims (.begin n mode)).answers =
        Function.update s.answers n none := by
      simp only [PullSystem.act, htick]
      rfl
    have hpresent : (s.act v crm claims (.begin n mode)).present =
        Function.update s.present n s.server.queue.rows := by
      simp only [PullSystem.act, htick]
    generalize s.act v crm claims (.begin n mode) = s' at *
    have hidle : s'.answers n = none := by simp [hanswers]
    suffices hkept : PullKept claims n s s' from hkept.delivering h
    refine ⟨hserver, ?_, ?_, ?_, ?_, ?_, ?_, ?_⟩
    · intro m hm
      simp [hticks, hanswers, hpresent, hm]
    · rw [hdb]
      exact fun _ hdone => hdone
    · rw [hdb]
      exact h.durable
    · rw [hdb]
      exact h.retained
    · simp [hpresent]
    · intro tick hbegun
      rw [hticks, Function.update_self] at hbegun
      cases hbegun
      refine ⟨h.retained, ?_⟩
      intro row hrow hseen
      rw [PullSystem.anchorOf_none hidle, hdb]
      exact (h.durable row hrow hseen).imp_right .inr
    · intro answer hanswer
      rw [hidle] at hanswer
      cases hanswer

theorem fetch_delivering (h : Delivering claims s) :
    Delivering claims (s.act v crm claims (.fetch n)) := by
  unfold PullSystem.act
  cases htick : s.client.ticks n with
  | none =>
    simp only [htick]
    exact h
  | some tick =>
    cases hidle : s.answers n with
    | some answer =>
      simp only [htick, hidle]
      exact h
    | none =>
      simp only [htick, hidle]
      have hexp := (h.captured n tick htick).not_expired tick.cursor
      obtain ⟨response, hresponse⟩ : ∃ response,
          pullHandler claims ⟨tick.since, tick.cursor⟩ s.server = .ok response :=
        ⟨_, pullHandler_ok claims tick.since tick.cursor s.server hexp⟩
      rw [hresponse]
      have hanswer : (s.setAnswer n (some (.ok response))).answers n = some (.ok response) := by
        simp [PullSystem.setAnswer]
      have hcovers : ∀ row ∈ s.server.queue.rows, Seen claims row →
          isSettled s.client.db row = true ∨ row ∈ response.items ∨
            (response.nextCursor ≠ none ∧ (⟨savedSince tick response.items,
              response.nextCursor⟩ : PullState).Before row) := by
        intro row hrow hseen
        have hpull := h.pulls n tick htick row hrow hseen
        rw [PullSystem.anchorOf_none hidle] at hpull
        rcases hpull with hdone | hflight | hbefore
        · exact .inl hdone
        · simp [PullSystem.inFlight, hidle] at hflight
        · exact .inr (pullHandler_covers hexp hresponse hrow hseen hbefore)
      suffices hkept : PullKept claims n s (s.setAnswer n (some (.ok response))) from
        hkept.delivering h
      refine ⟨rfl, ?_, fun _ hdone => hdone, h.durable, h.retained, h.present n, ?_, ?_⟩
      · intro m hm
        simp [PullSystem.setAnswer, hm]
      · intro other hother
        obtain rfl : tick = other := Option.some.inj (htick.symm.trans hother)
        obtain ⟨hflight, hanchor⟩ := PullSystem.anchorOf_ok hanswer tick
        refine ⟨h.captured n tick htick, ?_⟩
        intro row hrow hseen
        rw [hflight, hanchor]
        exact (hcovers row hrow hseen).imp_right (fun hleft => hleft.imp_right And.right)
      · intro answer hnew
        obtain rfl := Option.some.inj (hanswer.symm.trans hnew)
        refine ⟨response, rfl, ?_, ?_⟩
        · intro item hitem
          rw [pullHandler_ok claims tick.since tick.cursor s.server hexp] at hresponse
          cases hresponse
          have hvisible := (KeysetPage.beyond_sublist OfflineQueueItem.position _ _).subset
            (KeysetPage.mem_of_mem_items hitem)
          obtain ⟨hmem, hvisible⟩ := List.mem_filter.mp hvisible
          simp only [visible, Bool.and_eq_true, decide_eq_true_eq] at hvisible
          exact ⟨hmem, hvisible.1.1⟩
        · intro hnone row hrow hseen
          rcases hcovers row (h.present n row hrow) hseen with hdone | hmem | ⟨hmore, _⟩
          · exact .inl hdone
          · exact .inr hmem
          · exact absurd hnone hmore

theorem dropped_delivering {s' : PullSystem κ} (h : Delivering claims s)
    (hserver : s'.server = s.server) (hdb : s'.client.db = s.client.db)
    (hpresent : s'.present = s.present)
    (hticks : s'.client.ticks = Function.update s.client.ticks n none)
    (hanswers : s'.answers = Function.update s.answers n none) : Delivering claims s' := by
  suffices hkept : PullKept claims n s s' from hkept.delivering h
  refine ⟨hserver, ?_, ?_, ?_, ?_, ?_, ?_, ?_⟩
  · intro m hm
    simp [hticks, hanswers, hpresent, hm]
  · rw [hdb]
    exact fun _ hdone => hdone
  · rw [hdb]
    exact h.durable
  · rw [hdb]
    exact h.retained
  · rw [hpresent]
    exact h.present n
  · intro tick htick
    simp [hticks] at htick
  · intro answer hanswer
    simp [hanswers] at hanswer

variable {met : PulledPage}

theorem page_delivering {tick : PullTick} {response : PullResponse}
    {s' : PullSystem κ} (h : Delivering claims s) (htick : s.client.ticks n = some tick)
    (hresponse : s.answers n = some (.ok response)) (hserver : s'.server = s.server)
    (hdb : s'.client.db = (pullPage crm tick (response.page met) s.client.db).1)
    (hpresent : s'.present = s.present)
    (hticks : s'.client.ticks = Function.update s.client.ticks n
      (pullPage crm tick (response.page met) s.client.db).2)
    (hanswers : s'.answers = Function.update s.answers n none) : Delivering claims s' := by
  have hidle : s'.answers n = none := by simp [hanswers]
  have hsettled : ∀ row, isSettled s.client.db row = true →
      isSettled s'.client.db row = true := by
    rw [hdb]
    exact fun row hdone => pullPage_settled tick (response.page met) hdone
  have hothers : ∀ m, m ≠ n → s'.client.ticks m = s.client.ticks m ∧
      s'.answers m = s.answers m ∧ s'.present m = s.present m := by
    intro m hm
    simp [hticks, hanswers, hpresent, hm]
  have hanswer : ∀ answer, s'.answers n = some answer → ∃ response, answer = .ok response ∧
      (∀ item ∈ response.items, item ∈ s.server.queue.rows ∧ item.tenantId = claims.tenant) ∧
        (response.nextCursor = none → ∀ row ∈ s'.present n, Seen claims row →
          isSettled s'.client.db row = true ∨ row ∈ response.items) := by
    intro answer hanswer
    rw [hidle] at hanswer
    cases hanswer
  have hrows : ∀ row ∈ s'.present n, row ∈ s.server.queue.rows := by
    rw [hpresent]
    exact h.present n
  suffices hkept : PullKept claims n s s' from hkept.delivering h
  rcases (pullPage_outcome tick (response.page met) s.client.db :
      PageOutcome crm tick (response.page met) s.client.db _) with
    ⟨_, hstate, hnext⟩ | ⟨_, hsaved⟩
  · refine ⟨hserver, hothers, hsettled, ?_, ?_, hrows, ?_, hanswer⟩
    · intro row hrow hseen
      have hheld := h.durable row hrow hseen
      unfold Held Ahead at *
      rw [hdb, hstate, ← hdb]
      exact hheld.imp_left (hsettled row)
    · rw [hdb, hstate]
      exact h.retained
    · intro other hother
      simp [hticks, hnext] at hother
  · have hpast : ∀ row ∈ s.server.queue.rows, Seen claims row →
        isSettled s'.client.db row = true ∨ (⟨savedSince tick response.items,
          response.nextCursor⟩ : PullState).Before row := by
      intro row hrow hseen
      have hpull := h.pulls n tick htick row hrow hseen
      obtain ⟨hflight, hanchor⟩ := PullSystem.anchorOf_ok hresponse tick
      rw [hflight, hanchor] at hpull
      rcases hpull with hdone | hmem | hbefore
      · exact .inl (hsettled row hdone)
      · left
        rw [hdb]
        exact hsaved.done row hmem
      · exact .inr hbefore
    have hretained : Retained claims.tenant s.server (savedSince tick response.items) := by
      obtain ⟨_, heq, hitems⟩ := h.answered n _ hresponse
      cases heq
      exact (h.captured n tick htick).savedSince hitems
    refine ⟨hserver, hothers, hsettled, ?_, ?_, hrows, ?_, hanswer⟩
    · intro row hrow hseen
      unfold Held Ahead
      rw [hdb, hsaved.state, ← hdb]
      exact hpast row hrow hseen
    · rw [hdb, hsaved.state]
      exact hretained
    · intro other hother
      rw [hticks, Function.update_self] at hother
      rcases hsaved.next with hnone | hnext
      · rw [hnone] at hother
        cases hother
      · obtain rfl := Option.some.inj (hnext.symm.trans hother)
        refine ⟨hretained, ?_⟩
        intro row hrow hseen
        rw [PullSystem.anchorOf_none hidle]
        exact (hpast row hrow hseen).imp_right .inr

theorem deliver_delivering
    {importSnapshot : DomainTables κ → DomainTables κ} (h : Delivering claims s) :
    Delivering claims (s.act v crm claims (.deliver n met importSnapshot)) := by
  cases hanswer : s.answers n with
  | none =>
    have hsame : s.act v crm claims (.deliver n met importSnapshot) = s := by
      simp only [PullSystem.act, hanswer]
    rw [hsame]
    exact h
  | some answer =>
    obtain ⟨response, rfl, _⟩ := h.answered n answer hanswer
    cases htick : s.client.ticks n with
    | none =>
      have hclient : (s.act v crm claims (.deliver n met importSnapshot)).client = s.client := by
        simp only [PullSystem.act, hanswer, PullSide.act, htick]
      refine dropped_delivering (n := n) h ?_ (by rw [hclient]) ?_ ?_ ?_
      · simp only [PullSystem.act, hanswer]
        rfl
      · simp only [PullSystem.act, hanswer]
        rfl
      · rw [hclient, ← htick, Function.update_eq_self]
      · simp only [PullSystem.act, hanswer]
        rfl
    | some tick =>
      have hdb : (s.act v crm claims (.deliver n met importSnapshot)).client.db =
          (pullPage crm tick (response.page met) s.client.db).1 := by
        simp only [PullSystem.act, hanswer, PullSide.act, htick]
      refine page_delivering h htick hanswer ?_ hdb ?_ ?_ ?_
      · simp only [PullSystem.act, hanswer]
        rfl
      · simp only [PullSystem.act, hanswer]
        rfl
      · simp only [PullSystem.act, hanswer, PullSide.act, htick]
        rfl
      · simp only [PullSystem.act, hanswer]
        rfl

theorem act_delivering {e : DeliveryEvent κ} (h : Delivering claims s)
    (harrives : ArrivesAhead v claims s e) : Delivering claims (s.act v crm claims e) := by
  cases e with
  | push sender faults items => exact push_delivering h harrives
  | begin n mode => exact begin_delivering h
  | fetch n => exact fetch_delivering h
  | deliver n met importSnapshot => exact deliver_delivering h
  | abandon n => exact dropped_delivering (n := n) h rfl rfl rfl rfl rfl
  | localWrite write =>
    exact ⟨h.durable, h.pulls, h.last, h.present, h.answered, h.retained, h.captured⟩

theorem act_settled {e : DeliveryEvent κ} {row : OfflineQueueItem}
    (h : isSettled s.client.db row = true) :
    isSettled (s.act v crm claims e).client.db row = true := by
  cases e with
  | push sender faults items => exact h
  | begin n mode =>
    unfold PullSystem.act
    cases htick : s.client.ticks n with
    | some tick =>
      simp only [htick]
      exact h
    | none =>
      simp only [htick, PullSide.act]
      exact h
  | fetch n =>
    unfold PullSystem.act
    simp only
    split
    · exact h
    · exact h
  | deliver n met importSnapshot =>
    unfold PullSystem.act
    cases hanswer : s.answers n with
    | none =>
      simp only [hanswer]
      exact h
    | some answer =>
      cases htick : s.client.ticks n with
      | none =>
        rcases answer with ⟨oldest⟩ | response
        · simp only [hanswer, PullSide.act, htick]
          exact h
        · simp only [hanswer, PullSide.act, htick]
          exact h
      | some tick =>
        rcases answer with ⟨oldest⟩ | response
        · simp only [hanswer, PullSide.act, htick]
          exact h
        · simp only [hanswer, PullSide.act, htick]
          exact pullPage_settled tick (response.page met) h
  | abandon n => exact h
  | localWrite write => exact h

theorem completes_settled (v : PushValidation) (importSnapshot : DomainTables κ → DomainTables κ)
    (h : Delivering claims s) (hcompletes : Completes crm s n met) :
    ∀ row ∈ s.present n, Seen claims row →
      isSettled (s.act v crm claims (.deliver n met importSnapshot)).client.db row = true := by
  obtain ⟨tick, response, htick, hanswer, hnone, hclean⟩ := hcompletes
  intro row hrow hseen
  unfold PullSystem.act
  simp only [hanswer, PullSide.act, htick, pullPage_isSettled]
  rcases h.last n response hanswer hnone row hrow hseen with hdone | hmem
  · exact applyItems_settled _ _ hdone
  · exact applyItems_clean _ _ _ hclean row hmem

end Step

theorem freshPull_delivering (h : FreshPull s) : Delivering claims s := by
  obtain ⟨hanchor, hticks, hanswers, hpresent⟩ := h
  refine ⟨fun row _ _ => .inr (ahead_start hanchor row), ?_, ?_, ?_, ?_, ?_, ?_⟩
  · intro n tick htick
    rw [hticks n] at htick
    cases htick
  · intro n response hresponse
    rw [hanswers n] at hresponse
    cases hresponse
  · intro n row hrow
    rw [hpresent n] at hrow
    cases hrow
  · intro n answer hanswer
    rw [hanswers n] at hanswer
    cases hanswer
  · rw [hanchor]
    intro anchor hnone
    cases hnone
  · intro n tick htick
    rw [hticks n] at htick
    cases htick

theorem run_delivering (v : PushValidation) (crm : Crm κ) (claims : ApiTokenClaims)
    (s : PullSystem κ) (events : List (DeliveryEvent κ)) (hs : Delivering claims s)
    (h : (pullSystem v crm claims).Along (ArrivesAhead v claims) s events) :
    Delivering claims ((pullSystem v crm claims).run s events) := by
  induction events generalizing s with
  | nil => exact hs
  | cons e events ih => exact ih _ (act_delivering hs h.1) h.2

theorem settled_run (v : PushValidation) (crm : Crm κ) (claims : ApiTokenClaims)
    (s : PullSystem κ) (events : List (DeliveryEvent κ)) {row : OfflineQueueItem}
    (h : isSettled s.client.db row = true) :
    isSettled ((pullSystem v crm claims).run s events).client.db row = true := by
  induction events generalizing s with
  | nil => exact h
  | cons e events ih => exact ih _ (act_settled h)

def tillClaims : ApiTokenClaims := ⟨none, some "till-1"⟩

def firstDay : PullSystem Unit where
  server := SyncStore.empty
  client := ⟨⟨DomainTables.empty (), Table.empty, Table.empty, ⟨none, none⟩⟩, [], fun _ => none⟩
  answers := fun _ => none
  present := fun _ => []

def otherTill (till id createdAt : String) : DeliveryEvent Unit :=
  .push ⟨none, some till⟩ PushFaults.none
    [{ finalizeItem id createdAt with originTerminalId := some till }]

def wholePull (n : Nat) : List (DeliveryEvent Unit) :=
  [.begin n .engine, .fetch n, .deliver n (pulledPage [] none) id]

end OzPos
