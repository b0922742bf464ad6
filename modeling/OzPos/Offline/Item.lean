import OzPos.Json

namespace OzPos

inductive SyncPriority where
  | critical
  | normal
  | low
  deriving DecidableEq

inductive OfflineQueueStatus where
  | pending
  | synced
  | failed
  deriving DecidableEq

structure OfflineQueueItem where
  (id action : String)
  payload : Payload
  status : OfflineQueueStatus
  retryCount : Int
  lastError : Option String
  (tenantId createdAt : String)
  syncedAt : Option String
  priority : SyncPriority
  originTerminalId : Option String
  deriving DecidableEq

def uuidOf (suffix : String) : String := "01926b3a-0000-7000-8000-00000000000" ++ suffix

def queued (id action : String) (payload : Json) (createdAt : String) (origin : Option String) :
    OfflineQueueItem :=
  { id, action, payload := .json payload, status := .pending, retryCount := 0, lastError := none,
    tenantId := "default", createdAt, syncedAt := none, priority := .normal,
    originTerminalId := origin }

inductive PushOutcome where
  | accepted
  | rejected (reason : String)
  | conflict (serverItem : OfflineQueueItem)
  deriving DecidableEq

/-- `DUPLICATE_ID_REJECTION_PREFIX`. -/
def duplicateIdRejectionPrefix : String := "duplicate id:"

def isDuplicateIdRejection (reason : String) : Bool :=
  duplicateIdRejectionPrefix.toList.isPrefixOf reason.toList

/-- `format!("duplicate id: {}", item.id)`. -/
def duplicateIdReason (id : String) : String := "duplicate id: " ++ id

end OzPos
