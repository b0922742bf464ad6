import OzPos.Library.Batching
import OzPos.Library.Keyset
import OzPos.Offline.Item
import Mathlib.Data.Prod.Lex

namespace OzPos

def SyncPriority.rank : SyncPriority → Nat
  | .critical => 0
  | .normal => 1
  | .low => 2

abbrev PushKey := Nat ×ₗ (String ×ₗ String)

/-- `(priority, created_at, id)`. -/
def OfflineQueueItem.pushKey (item : OfflineQueueItem) : PushKey :=
  toLex (item.priority.rank, toLex (item.createdAt, item.id))

def orderForPush (items : List OfflineQueueItem) : List OfflineQueueItem :=
  KeysetPage.ordered OfflineQueueItem.pushKey items

def lowerHex (n : Nat) : Char := "0123456789abcdef".toList.getD n '0'

def quotation : Char := Char.ofNat 34

def backslash : Char := Char.ofNat 92

/-- What `serde_json` writes for one character of a string. -/
def escapeChar (c : Char) : List Char :=
  if c = quotation ∨ c = backslash then [backslash, c]
  else if c.toNat = 8 then [backslash, 'b']
  else if c.toNat = 9 then [backslash, 't']
  else if c.toNat = 10 then [backslash, 'n']
  else if c.toNat = 12 then [backslash, 'f']
  else if c.toNat = 13 then [backslash, 'r']
  else if c.toNat < 32 then
    [backslash, 'u', '0', '0', lowerHex (c.toNat / 16), lowerHex (c.toNat % 16)]
  else [c]

def jsonString (s : String) : String :=
  String.ofList ([quotation] ++ s.toList.flatMap escapeChar ++ [quotation])

def jsonOption : Option String → String
  | none => "null"
  | some s => jsonString s

def OfflineQueueStatus.asStoredStr : OfflineQueueStatus → String
  | .pending => "pending"
  | .synced => "synced"
  | .failed => "failed"

def SyncPriority.variant : SyncPriority → String
  | .critical => "Critical"
  | .normal => "Normal"
  | .low => "Low"

def jsonField (name value : String) : String := jsonString name ++ ":" ++ value

def joinComma : List String → String
  | [] => ""
  | [piece] => piece
  | piece :: next :: rest => piece ++ "," ++ joinComma (next :: rest)

variable (text : Payload → String)

variable (item : OfflineQueueItem)

/-- `serde_json::to_vec(item)`; `text` is the payload column as text. -/
def itemJson : String :=
  "\x7b" ++ joinComma
    [jsonField "id" (jsonString item.id), jsonField "action" (jsonString item.action),
      jsonField "payload" (jsonString (text item.payload)),
      jsonField "status" (jsonString item.status.asStoredStr),
      jsonField "retry_count" (toString item.retryCount),
      jsonField "last_error" (jsonOption item.lastError),
      jsonField "tenant_id" (jsonString item.tenantId),
      jsonField "created_at" (jsonString item.createdAt),
      jsonField "synced_at" (jsonOption item.syncedAt),
      jsonField "priority" (jsonString item.priority.variant),
      jsonField "origin_terminal_id" (jsonOption item.originTerminalId)] ++ "\x7d"

def itemBytes : Nat :=
  (itemJson text item).utf8ByteSize

variable (batch : List OfflineQueueItem)

def batchJson : String :=
  "[" ++ joinComma (batch.map (itemJson text)) ++ "]"

variable (items : List OfflineQueueItem) (maxBytes : Nat)

def buildBatches : List (List OfflineQueueItem) :=
  Batching.batches (itemBytes text) maxBytes (orderForPush items)

/-- A run of items of the ordered queue that fills a batch by its sizes. -/
abbrev PushRun (items run : List OfflineQueueItem) : Prop :=
  Batching.Run (itemBytes text) maxBytes (orderForPush items) run

/-- The batches are the queue in transmit order, cut into requests that keep to `maxBytes`. -/
structure PartitionsQueue (text : Payload → String) (items : List OfflineQueueItem)
    (maxBytes : Nat) : Prop where
  flatten : (buildBatches text items maxBytes).flatten = orderForPush items
  perm : List.Perm (orderForPush items) items
  ordered : (orderForPush items).Pairwise (fun a b => a.pushKey ≤ b.pushKey)
  nonempty : ∀ batch ∈ buildBatches text items maxBytes, batch ≠ []
  bounded : ∀ batch ∈ buildBatches text items maxBytes, 2 ≤ batch.length →
    (batchJson text batch).utf8ByteSize ≤ maxBytes

theorem utf8ByteSize_joinComma (pieces : List String) (h : pieces ≠ []) :
    (joinComma pieces).utf8ByteSize + 1 =
      (pieces.map String.utf8ByteSize).sum + pieces.length := by
  induction pieces with
  | nil => exact absurd rfl h
  | cons piece rest ih =>
    cases rest with
    | nil => simp [joinComma]
    | cons next rest =>
      have hrest := ih (by simp)
      have hcomma : ",".utf8ByteSize = 1 := by decide
      simp only [joinComma, String.utf8ByteSize_append, hcomma, List.map_cons, List.sum_cons,
        List.length_cons] at hrest ⊢
      omega

theorem utf8ByteSize_batchJson (h : batch ≠ []) :
    (batchJson text batch).utf8ByteSize =
      Batching.total (itemBytes text) batch + (batch.length + 1) := by
  have hjoin := utf8ByteSize_joinComma (batch.map (itemJson text)) (by simpa using h)
  have hopen : "[".utf8ByteSize = 1 := by decide
  have hclose : "]".utf8ByteSize = 1 := by decide
  have hsum : ((batch.map (itemJson text)).map String.utf8ByteSize).sum =
      Batching.total (itemBytes text) batch := by
    rw [List.map_map]
    rfl
  rw [hsum, List.length_map] at hjoin
  simp only [batchJson, String.utf8ByteSize_append, hopen, hclose]
  omega

/-- The batches partition the queue within the budget exactly when every run of `k ≥ 2`
items leaves room for the `k + 1` bytes of the array around them. -/
theorem partitionsQueue_iff :
    PartitionsQueue text items maxBytes ↔
      ∀ run, PushRun text maxBytes items run → 2 ≤ run.length →
        Batching.total (itemBytes text) run + (run.length + 1) ≤ maxBytes := by
  have hmem : ∀ batch, batch ∈ buildBatches text items maxBytes ↔
      PushRun text maxBytes items batch := Batching.mem_batches_iff (orderForPush items)
  constructor
  · intro h run hrun hlen
    rw [← utf8ByteSize_batchJson text run hrun.ne_nil]
    exact h.bounded run ((hmem run).mpr hrun) hlen
  · intro h
    refine ⟨Batching.flatten_batches _, List.perm_insertionSort _ items,
      KeysetPage.pairwise_ordered _ items, ?_, ?_⟩
    · intro batch hbatch
      exact ((hmem batch).mp hbatch).ne_nil
    · intro batch hbatch hlen
      have hrun := (hmem batch).mp hbatch
      rw [utf8ByteSize_batchJson text batch hrun.ne_nil]
      exact h batch hrun hlen

def emptyObjects : Payload → String
  | .text raw => raw
  | .json _ => "\x7b\x7d"

def twoSales : List OfflineQueueItem :=
  [queued (uuidOf "1") "complete_sale" (.obj []) "2026-09-13T08:00:00.000Z" none,
    queued (uuidOf "2") "complete_sale" (.obj []) "2026-09-13T08:00:01.000Z" none]

/-- Two items whose sizes come to the budget exactly: one batch, three bytes too long. -/
theorem two_sales_over_budget :
    buildBatches emptyObjects twoSales (Batching.total (itemBytes emptyObjects) twoSales) =
        [twoSales] ∧
      (batchJson emptyObjects twoSales).utf8ByteSize =
        Batching.total (itemBytes emptyObjects) twoSales + 3 ∧
      ¬ PartitionsQueue emptyObjects twoSales
        (Batching.total (itemBytes emptyObjects) twoSales) := by
  have hbatches : buildBatches emptyObjects twoSales
      (Batching.total (itemBytes emptyObjects) twoSales) = [twoSales] := by
    have hordered : orderForPush twoSales = twoSales := by
      apply List.Pairwise.insertionSort_eq
      rw [twoSales, List.pairwise_pair]
      decide +kernel
    rw [buildBatches, hordered]
    exact Batching.batches_of_fits (Nat.le_refl _) (by simp [twoSales])
  have hsize : (batchJson emptyObjects twoSales).utf8ByteSize =
      Batching.total (itemBytes emptyObjects) twoSales + 3 := by
    have hpair : ∀ a b : OfflineQueueItem, (batchJson emptyObjects [a, b]).utf8ByteSize =
        Batching.total (itemBytes emptyObjects) [a, b] + 3 := by
      intro a b
      exact utf8ByteSize_batchJson emptyObjects [a, b] (by simp)
    exact hpair _ _
  refine ⟨hbatches, hsize, ?_⟩
  intro h
  have hbound := h.bounded twoSales (by rw [hbatches]; exact List.mem_singleton_self _)
    (by simp [twoSales])
  rw [hsize] at hbound
  omega

end OzPos
