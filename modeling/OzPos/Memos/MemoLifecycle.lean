import OzPos.Client.Settings
import OzPos.Library.Counting
import OzPos.Library.Sessions

namespace OzPos

inductive MemoStatus where
  | draft
  | published
  | expired
  | stopped
  | archived
  deriving DecidableEq

def MemoStatus.asStr : MemoStatus → String
  | .draft => "draft"
  | .published => "published"
  | .expired => "expired"
  | .stopped => "stopped"
  | .archived => "archived"

def MemoStatus.canTransition : MemoStatus → MemoStatus → Bool
  | .draft, .published => true
  | .draft, .archived => true
  | .published, .expired => true
  | .published, .stopped => true
  | .expired, .archived => true
  | .stopped, .archived => true
  | _, _ => false

inductive MemoDuration where
  | hours12
  | hours24
  | days3
  | days7
  | days30

def MemoDuration.seconds : MemoDuration → Int
  | .hours12 => 12 * 3600
  | .hours24 => 24 * 3600
  | .days3 => 3 * 24 * 3600
  | .days7 => 7 * 24 * 3600
  | .days30 => 30 * 24 * 3600

/-- In milliseconds, the precision that timestamps are stored with. -/
def MemoDuration.expiresAt (d : MemoDuration) (publishedAt : Int) : Int :=
  publishedAt + 1000 * d.seconds

/-- A row of `memos`. -/
structure Memo where
  (id tenantId authorUserId authorRole title body : String)
  status : MemoStatus
  duration : MemoDuration
  revision : Nat
  (publishedAt expiresAt stoppedAt : Option Int)
  stoppedBy : Option String
  archivedAt : Option Int
  (createdAt updatedAt : Int)

namespace Memo

def published (publishedAt expiresAt : Int) (m : Memo) : Memo :=
  { m with
    status := .published
    publishedAt := some publishedAt
    expiresAt := some expiresAt
    -- the statement binds its third parameter twice
    updatedAt := expiresAt }

def revised (title body : String) (revision : Nat) (now : Int) (m : Memo) : Memo :=
  { m with title := title, body := body, revision := revision, updatedAt := now }

@[simp] theorem revised_status (title body : String) (revision : Nat) (now : Int) (m : Memo) :
    (m.revised title body revision now).status = m.status := rfl

def stopped (actor : String) (now : Int) (m : Memo) : Memo :=
  { m with status := .stopped, stoppedAt := some now, stoppedBy := some actor, updatedAt := now }

variable (now : Int) (m : Memo)

def isDue : Bool :=
  m.status = .published && m.expiresAt.any (· ≤ now)

def expire : Memo := { m with status := .expired, updatedAt := now }

def ended : Bool := m.status = .stopped || m.status = .expired

def archive : Memo :=
  { m with status := .archived, archivedAt := some now, updatedAt := now }

def pastRetention (cutoff : Int) (m : Memo) : Bool :=
  m.status = .archived && m.archivedAt.any (· ≤ cutoff)

end Memo

structure MemoLocation where
  (memoId locationId tenantId : String)

structure MemoRevision where
  (memoId tenantId : String)
  revision : Nat
  (title body : String)
  publishedAt : Int
  publishedBy : String

/-- A row of `memo_recipients`, pending when it is written. -/
structure MemoRecipient where
  (memoId tenantId terminalId : String)

structure MemoTerminal where
  (id tenantId : String)
  boundLocationId : Option String

structure MemoStore where
  memos : Table String Memo Memo.id
  locations : List MemoLocation
  revisions : List MemoRevision
  recipients : List MemoRecipient

namespace MemoStore

variable (s : MemoStore)

/-- `GROUP_CONCAT` of a memo's locations, split at the commas again. -/
def locationIds (memoId : String) : List String :=
  (s.locations.filter (fun l => l.memoId = memoId)).flatMap
    (fun l => (l.locationId.splitOn ",").filter (· ≠ ""))

variable (tenantId memoId : String)

def getMemo : Option (Memo × List String) :=
  match s.memos.find? memoId with
  | none => none
  | some m => if m.tenantId = tenantId then some (m, s.locationIds memoId) else none

/-- `UPDATE memos … WHERE tenant_id = … AND id = … AND status = …`. -/
def updateMemo (status : MemoStatus) (f : Memo → Memo) (hf : ∀ m, (f m).id = m.id) : MemoStore :=
  { s with
    memos := s.memos.updateWhere
      (fun m => m.tenantId = tenantId && m.id = memoId && m.status = status) f hf }

def updates (status : MemoStatus) : Bool :=
  s.memos.rows.any (fun m => m.tenantId = tenantId && m.id = memoId && m.status = status)

/-- `UNIQUE (memo_id, revision)`, and the foreign key to the memo. -/
def insertRevision (r : MemoRevision) : Except CoreError MemoStore :=
  if s.revisions.any (fun o => o.memoId = r.memoId && o.revision = r.revision) then
    .error (.db "UNIQUE constraint failed: memo_revisions.memo_id, memo_revisions.revision")
  else if (s.memos.find? r.memoId).isNone then
    .error (.db "FOREIGN KEY constraint failed")
  else .ok { s with revisions := s.revisions ++ [r] }

end MemoStore

structure NewMemo where
  (tenantId authorUserId authorRole title body : String)
  duration : MemoDuration
  locationIds : List String

def normalizeLocationIds (ids : List String) : List String :=
  ids.foldl (fun out id =>
    if (trim id).isEmpty || out.contains (trim id) then out else out ++ [trim id]) []

/-- `must not be empty`. -/
def requireText (field text : String) : Except CoreError Unit :=
  if (trim text).isEmpty then .error (.validation field "must not be empty") else .ok ()

def validateNewMemo (new : NewMemo) : Except CoreError Unit := do
  requireText "tenant_id" new.tenantId
  requireText "author_user_id" new.authorUserId
  requireText "body" new.body

namespace MemoStore

/-- `known` are the ids in `locations`; the id and the time are minted. -/
def createMemoDraft (known : List String) (id : String) (now : Int) (new : NewMemo)
    (s : MemoStore) : Except CoreError MemoStore :=
  match validateNewMemo new with
  | .error e => .error e
  | .ok () =>
    let draft : Memo := ⟨id, new.tenantId, new.authorUserId, new.authorRole, trim new.title,
      trim new.body, .draft, new.duration, 1, none, none, none, none, none, now, now⟩
    match s.memos.insert? draft with
    | none => .error (.db "UNIQUE constraint failed: memos.id")
    | some memos =>
      let locationIds := normalizeLocationIds new.locationIds
      if locationIds.all known.contains then
        .ok { s with
          memos := memos
          locations := s.locations ++ locationIds.map (fun l => ⟨id, l, new.tenantId⟩) }
      else .error (.db "FOREIGN KEY constraint failed")

/-- The terminals of the tenant, for a memo with locations those bound to one of them. -/
def targetTerminals (s : MemoStore) (terminals : List MemoTerminal) (tenantId memoId : String)
    (everywhere : Bool) : List String :=
  let targeted := s.locations.filter (fun l => l.memoId = memoId && l.tenantId = tenantId)
  (terminals.filter (fun t => t.tenantId = tenantId &&
    (everywhere || t.boundLocationId.any (fun bound =>
      targeted.any (fun l => l.locationId = bound))))).map MemoTerminal.id

/-- `ON CONFLICT (memo_id, terminal_id) DO NOTHING`. -/
def insertRecipients (s : MemoStore) (tenantId memoId : String) : List String → MemoStore
  | [] => s
  | terminalId :: rest =>
    let s' :=
      if s.recipients.any (fun r => r.memoId = memoId && r.terminalId = terminalId) then s
      else { s with recipients := s.recipients ++ [⟨memoId, tenantId, terminalId⟩] }
    s'.insertRecipients tenantId memoId rest

/-- The `memo` that was read and the locations found with it. -/
def publishMemo (terminals : List MemoTerminal) (now : Int) (memo : Memo)
    (locationIds : List String) (s : MemoStore) : Except CoreError MemoStore :=
  let s := s.updateMemo memo.tenantId memo.id .draft
    (Memo.published now (memo.duration.expiresAt now)) (fun _ => rfl)
  match s.insertRevision
    ⟨memo.id, memo.tenantId, 1, memo.title, memo.body, now, memo.authorUserId⟩ with
  | .error e => .error e
  | .ok s =>
    let terminalIds := s.targetTerminals terminals memo.tenantId memo.id locationIds.isEmpty
    if terminalIds.isEmpty then
      .error (.validation "recipients" "no terminal is registered to receive this memo")
    else .ok (s.insertRecipients memo.tenantId memo.id terminalIds)

def noLongerPublished (what : String) : CoreError :=
  .validation "status" ("memo is no longer published (expired or stopped); cannot " ++ what)

def reviseMemo (actor title body : String) (now : Int) (memo : Memo) (s : MemoStore) :
    Except CoreError MemoStore :=
  if s.updates memo.tenantId memo.id .published then
    (s.updateMemo memo.tenantId memo.id .published
      (Memo.revised title body (memo.revision + 1) now) (fun _ => rfl)).insertRevision
      ⟨memo.id, memo.tenantId, memo.revision + 1, title, body, now, actor⟩
  else .error (noLongerPublished "revise")

def stopMemo (actor : String) (now : Int) (memo : Memo) (s : MemoStore) :
    Except CoreError MemoStore :=
  if s.updates memo.tenantId memo.id .published then
    .ok (s.updateMemo memo.tenantId memo.id .published (Memo.stopped actor now) (fun _ => rfl))
  else .error (noLongerPublished "stop")

def sweepExpired (tenantId : String) (now : Int) (s : MemoStore) : MemoStore :=
  { s with
    memos := s.memos.updateWhere (fun m => m.tenantId = tenantId && m.isDue now)
      (Memo.expire now) (fun _ => rfl) }

def sweepAllExpired (now : Int) (s : MemoStore) : MemoStore :=
  { s with memos := s.memos.updateWhere (Memo.isDue now) (Memo.expire now) (fun _ => rfl) }

def sweepEndedToArchived (now : Int) (s : MemoStore) : MemoStore :=
  { s with memos := s.memos.updateWhere Memo.ended (Memo.archive now) (fun _ => rfl) }

def deleteWhere (s : MemoStore) (p : Memo → Bool) : MemoStore :=
  let deleted := (s.memos.rows.filter p).map Memo.id
  { memos := s.memos.retain (fun m => !p m)
    locations := s.locations.filter (fun l => !deleted.contains l.memoId)
    revisions := s.revisions.filter (fun r => !deleted.contains r.memoId)
    recipients := s.recipients.filter (fun r => !deleted.contains r.memoId) }

def millisecondsOfDays (days : Int) : Int := days * 24 * 3600 * 1000

/-- `now` is read from a text, or the error of reading it. -/
def sweepExpiredArchives (now : Except String Int) (windowDays : Int) (s : MemoStore) :
    Except CoreError MemoStore :=
  match now with
  | .error e => .error (.internal ("retention sweep: bad `now` timestamp: " ++ e))
  | .ok now => .ok (s.deleteWhere (Memo.pastRetention (now - millisecondsOfDays windowDays)))

end MemoStore

inductive MemoCall where
  | publish (tenantId memoId : String) (now : Int)
  | revise (tenantId memoId actor title body : String) (now : Int)
  | stop (tenantId memoId actor : String) (now : Int)
  | sweepExpired (tenantId : String) (now : Int)
  | sweepAllExpired (now : Int)
  | sweepEndedToArchived (now : Int)
  | sweepExpiredArchives (now : Except String Int) (windowDays : Int)

inductive MemoView where
  | publish (memo : Memo) (locationIds : List String) (now : Int)
  | revise (memo : Memo) (actor title body : String) (now : Int)
  | stop (memo : Memo) (actor : String) (now : Int)
  | sweepExpired (tenantId : String) (now : Int)
  | sweepAllExpired (now : Int)
  | sweepEndedToArchived (now : Int)
  | sweepExpiredArchives (now : Except String Int) (windowDays : Int)

def memoNotFound (memoId : String) : CoreError := .notFound "memo" memoId

namespace MemoStore

def readPublish (tenantId memoId : String) (now : Int) (s : MemoStore) :
    Except CoreError Unit ⊕ MemoView :=
  match s.getMemo tenantId memoId with
  | none => .inl (.error (memoNotFound memoId))
  | some (memo, locationIds) =>
    if memo.status.canTransition .published then .inr (.publish memo locationIds now)
    else
      .inl (.error (.validation "status"
        ("cannot publish a memo in state '" ++ memo.status.asStr ++ "'")))

def readRevise (tenantId memoId actor title body : String) (now : Int) (s : MemoStore) :
    Except CoreError Unit ⊕ MemoView :=
  if (trim body).isEmpty then .inl (.error (.validation "body" "must not be empty"))
  else
    match s.getMemo tenantId memoId with
    | none => .inl (.error (memoNotFound memoId))
    | some (memo, _) =>
      if memo.status = .published then .inr (.revise memo actor (trim title) (trim body) now)
      else
        .inl (.error (.validation "status"
          ("can only revise a published memo, not '" ++ memo.status.asStr ++ "'")))

def readStop (tenantId memoId actor : String) (now : Int) (s : MemoStore) :
    Except CoreError Unit ⊕ MemoView :=
  match s.getMemo tenantId memoId with
  | none => .inl (.error (memoNotFound memoId))
  | some (memo, _) =>
    if memo.status.canTransition .stopped then .inr (.stop memo actor now)
    else
      .inl (.error (.validation "status"
        ("cannot stop a memo in state '" ++ memo.status.asStr ++ "'")))

def written (terminals : List MemoTerminal) (view : MemoView) (s : MemoStore) :
    Except CoreError MemoStore :=
  match view with
  | .publish memo locationIds now => s.publishMemo terminals now memo locationIds
  | .revise memo actor title body now => s.reviseMemo actor title body now memo
  | .stop memo actor now => s.stopMemo actor now memo
  | .sweepExpired tenantId now => .ok (s.sweepExpired tenantId now)
  | .sweepAllExpired now => .ok (s.sweepAllExpired now)
  | .sweepEndedToArchived now => .ok (s.sweepEndedToArchived now)
  | .sweepExpiredArchives now windowDays => s.sweepExpiredArchives now windowDays

end MemoStore

def memoCalls : Calls MemoStore MemoCall MemoView (List MemoTerminal) (Except CoreError Unit) where
  read call s :=
    match call with
    | .publish tenantId memoId now => s.readPublish tenantId memoId now
    | .revise tenantId memoId actor title body now =>
      s.readRevise tenantId memoId actor title body now
    | .stop tenantId memoId actor now => s.readStop tenantId memoId actor now
    | .sweepExpired tenantId now => .inr (.sweepExpired tenantId now)
    | .sweepAllExpired now => .inr (.sweepAllExpired now)
    | .sweepEndedToArchived now => .inr (.sweepEndedToArchived now)
    | .sweepExpiredArchives now windowDays => .inr (.sweepExpiredArchives now windowDays)
  write terminals view s :=
    match s.written terminals view with
    | .error e => (s, .error e)
    | .ok s' => (s', .ok ())

end OzPos
