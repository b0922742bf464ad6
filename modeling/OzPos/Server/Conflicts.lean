import OzPos.Crdt.VersionVector
import OzPos.Library.Table
import OzPos.Offline.Item

namespace OzPos

inductive Severity where
  | high
  | medium
  | low

inductive MergePolicy where
  | neverAutoMerge
  | autoMergeDeltas
  | mergeDisjointFields
  | lastWriterWins
  deriving DecidableEq

inductive Decision where
  | apply
  | stale
  | identical
  | flag (severity : Severity)
  | autoMerge (severity : Severity)
  | lastWriterWins (winnerIsRemote : Bool)

def Severity.asStr : Severity → String
  | .high => "high"
  | .medium => "medium"
  | .low => "low"

/-- `t.to_ascii_lowercase().contains(needle)`. -/
def lowerContains (t needle : String) : Bool :=
  decide (needle.toList <:+: t.toList.map Char.toLower)

variable (entityType : String)

def isMoneyEntity : Bool :=
  ["gift_card", "giftcard", "payment", "refund", "loyalty", "payout", "cash"].any
    (fun needle => lowerContains entityType needle)

/-- The source also tests the prefix `stock.`, which the substring test covers. -/
def isStockEntity : Bool :=
  "stock.".toList.isPrefixOf (entityType.toList.map Char.toLower) ||
    lowerContains entityType "stock" || lowerContains entityType "inventory"

def isCustomerEntity : Bool :=
  "customer.".toList.isPrefixOf (entityType.toList.map Char.toLower) ||
    lowerContains entityType "customer"

def severityFor : Severity :=
  if isMoneyEntity entityType || isStockEntity entityType then .high
  else if isCustomerEntity entityType then .medium
  else .low

def policyFor : MergePolicy :=
  if isMoneyEntity entityType then .neverAutoMerge
  else if isStockEntity entityType then .autoMergeDeltas
  else if isCustomerEntity entityType then .mergeDisjointFields
  else .lastWriterWins

def vectorField : String := "_vector"
def terminalField : String := "_terminal"
def identityFields : List String := ["entity_id", "id"]

def isMetadataField (name : String) : Bool :=
  name = vectorField || name = terminalField || identityFields.contains name

def fieldsOf : Json → List String
  | .obj members => (members.map Prod.fst).filter (fun name => !isMetadataField name)
  | _ => []

variable (localValue remoteValue : Json)

def overlappingFields : List String :=
  (fieldsOf localValue).filter (fun name => (fieldsOf remoteValue).contains name)

def fieldsAreDisjoint : Bool :=
  (overlappingFields localValue remoteValue).isEmpty

/-- `iter().sum::<u64>()` in a build with overflow checks: `none` is the panic. -/
def sumCounters (v : VersionVector) : Option Nat :=
  let total := (v.entries.map Prod.snd).sum
  if total < 2^64 then some total else none

/-- A total order over concurrent vectors: event count, terminal ids, counters. -/
def tieBreak (a b : VersionVector) : Option Ordering :=
  match sumCounters a, sumCounters b with
  | some sumA, some sumB =>
    some ((compare sumA sumB).then
      ((compare (a.entries.map Prod.fst) (b.entries.map Prod.fst)).then
        (compare (a.entries.map Prod.snd) (b.entries.map Prod.snd))))
  | _, _ => none

structure ConflictCandidate where
  entityType : String
  (stored incoming : VersionVector)
  (storedPayload incomingPayload : Option Json)

variable (c : ConflictCandidate)

/-- The policy table for concurrent pairs; `none` when `tieBreak` overflows. -/
def classifyConcurrent : Option Decision :=
  let severity := severityFor c.entityType
  match policyFor c.entityType with
  | .neverAutoMerge => some (.flag severity)
  | .autoMergeDeltas => some (.autoMerge severity)
  | .mergeDisjointFields =>
    match c.storedPayload, c.incomingPayload with
    | some stored, some incoming =>
      if fieldsAreDisjoint stored incoming then some (.autoMerge severity)
      else some (.flag severity)
    | _, _ => some (.flag severity)
  | .lastWriterWins =>
    (tieBreak c.stored c.incoming).map (fun order => .lastWriterWins (order == .lt))

def classify : Option Decision :=
  match c.stored.compare c.incoming with
  | .before => some .apply
  | .after => some .stale
  | .equal => some .identical
  | .concurrent => classifyConcurrent c

variable (payload : Payload)

def extractVector : Option VersionVector :=
  match payload.value? with
  | some doc => (doc.get? vectorField).bind VersionVector.fromValue?
  | none => none

def extractTerminal : Option String :=
  match payload.value? with
  | some doc => (doc.get? terminalField).bind Json.asStr?
  | none => none

/-- `entity_id`, then `id`, then the queue item's own id; a present field that is
no string falls back too. -/
def entityIdOf (fallback : String) : String :=
  match payload.value? with
  | some doc =>
    (((doc.get? "entity_id").or (doc.get? "id")).bind Json.asStr?).getD fallback
  | none => fallback

theorem classify_eq_stale_iff :
    classify c = some .stale ↔ c.stored.compare c.incoming = .after := by
  cases h : c.stored.compare c.incoming with
  | before => simp [classify, h]
  | after => simp [classify, h]
  | equal => simp [classify, h]
  | concurrent =>
    simp only [classify, h, reduceCtorEq, iff_false, classifyConcurrent]
    cases policyFor c.entityType with
    | neverAutoMerge => simp
    | autoMergeDeltas => simp
    | mergeDisjointFields =>
      cases c.storedPayload <;> cases c.incomingPayload <;> simp
      split <;> simp
    | lastWriterWins => cases tieBreak c.stored c.incoming <;> simp

/-- The primary key of `sync_entity_vectors`. -/
structure EntityKey where
  (tenantId entityType entityId : String)
  deriving DecidableEq

structure EntityVectorRow where
  key : EntityKey
  vector : VersionVector
  lastPayload : Payload

/-- A row of `sync_conflicts`, less the fresh id, the resolution columns and the times. -/
structure SyncConflictRow where
  (tenantId entityType entityId localTerminalId : String)
  (localVector remoteVector : VersionVector)
  (localPayload remotePayload : Payload)
  (severity status : String)

def buildConflictRow (key : EntityKey) (localTerminalId : String)
    (localVector remoteVector : VersionVector) (localPayload remotePayload : Payload) :
    SyncConflictRow :=
  { tenantId := key.tenantId, entityType := key.entityType, entityId := key.entityId,
    localTerminalId, localVector, remoteVector, localPayload, remotePayload,
    severity := (severityFor key.entityType).asStr, status := "open" }

structure ConflictStore where
  entities : Table EntityKey EntityVectorRow EntityVectorRow.key
  conflicts : List SyncConflictRow

namespace ConflictStore

variable (s : ConflictStore) (key : EntityKey)

def loadEntityVector : Option VersionVector :=
  (s.entities.find? key).map EntityVectorRow.vector

def loadEntityPayload : Option Payload :=
  (s.entities.find? key).map EntityVectorRow.lastPayload

def saveEntityVector (vector : VersionVector) (payload : Payload) : ConflictStore :=
  { s with entities := s.entities.upsert { key, vector, lastPayload := payload } }

def insertConflict (row : SyncConflictRow) : ConflictStore :=
  { s with conflicts := s.conflicts ++ [row] }

/-- `stored.unwrap_or(empty)`: an entity never seen has the empty vector. -/
def vectorOf : VersionVector :=
  (s.loadEntityVector key).getD VersionVector.new

variable (incoming : VersionVector) (incomingPayload : Payload)

def candidate : ConflictCandidate :=
  { entityType := key.entityType
    stored := s.vectorOf key
    incoming
    storedPayload := (s.loadEntityPayload key).bind Payload.value?
    incomingPayload := incomingPayload.value? }

/-- The row recorded for a flagged pair; the stored side is the local one. -/
def flaggedRow : SyncConflictRow :=
  buildConflictRow key (((s.loadEntityPayload key).bind extractTerminal).getD "unknown")
    (s.vectorOf key) incoming ((s.loadEntityPayload key).getD (.text "")) incomingPayload

/-- The verdict on a pushed mutation and the store it leaves; `none` is the
overflow panic of `tieBreak`. -/
def detectConflict : Option (Decision × ConflictStore) :=
  match classify (s.candidate key incoming incomingPayload) with
  | none => none
  | some .stale => some (.stale, s)
  | some (.flag severity) =>
    some (.flag severity,
      (s.insertConflict (s.flaggedRow key incoming incomingPayload)).saveEntityVector key
        ((s.vectorOf key).observe incoming) incomingPayload)
  | some decision =>
    some (decision,
      s.saveEntityVector key ((s.vectorOf key).observe incoming) incomingPayload)

@[simp] theorem find?_saveEntityVector (key other : EntityKey)
    (vector : VersionVector) (payload : Payload) :
    (s.saveEntityVector key vector payload).entities.find? other =
      if key = other then some { key, vector, lastPayload := payload }
      else s.entities.find? other :=
  Table.find?_upsert _ _ _

variable {s t : ConflictStore} {key : EntityKey} {incoming : VersionVector} {payload : Payload}

/-- A stale mutation leaves the store alone; every other verdict stores the
incoming payload under the joined vector, whichever side the policy chose. -/
theorem detectConflict_cases {decision : Decision}
    (h : s.detectConflict key incoming payload = some (decision, t)) :
    (decision = .stale ∧ (s.vectorOf key).compare incoming = .after ∧ t = s) ∨
    (decision ≠ .stale ∧ (s.vectorOf key).compare incoming ≠ .after ∧
      ∀ other, t.entities.find? other =
        if key = other then
          some { key, vector := (s.vectorOf key).observe incoming, lastPayload := payload }
        else s.entities.find? other) := by
  have hstale := classify_eq_stale_iff (s.candidate key incoming payload)
  have hsave : ∀ (c : List SyncConflictRow) (other : EntityKey),
      (({ s with conflicts := c } : ConflictStore).saveEntityVector key
        ((s.vectorOf key).observe incoming) payload).entities.find? other =
        if key = other then
          some { key, vector := (s.vectorOf key).observe incoming, lastPayload := payload }
        else s.entities.find? other := by
    intro c other
    exact find?_saveEntityVector _ _ _ _ _
  unfold detectConflict at h
  cases hd : classify (s.candidate key incoming payload) with
  | none => simp [hd] at h
  | some d =>
    rw [hd] at h hstale
    cases d with
    | stale =>
      simp only [Option.some.injEq, Prod.mk.injEq] at h
      obtain ⟨rfl, rfl⟩ := h
      exact .inl ⟨rfl, hstale.mp rfl, rfl⟩
    | _ =>
      simp only [Option.some.injEq, Prod.mk.injEq] at h
      obtain ⟨rfl, rfl⟩ := h
      refine .inr ⟨by simp, ?_, hsave _⟩
      intro hafter
      simpa using hstale.mpr hafter

theorem candidate_congr
    (h : s.entities.find? key = t.entities.find? key) (incoming : VersionVector)
    (payload : Payload) : s.candidate key incoming payload = t.candidate key incoming payload := by
  simp [candidate, vectorOf, loadEntityVector,
    loadEntityPayload, h]

theorem detectConflict_none_iff (s : ConflictStore) (key : EntityKey) (incoming : VersionVector)
    (payload : Payload) :
    s.detectConflict key incoming payload = none ↔
      classify (s.candidate key incoming payload) = none := by
  unfold detectConflict
  cases classify (s.candidate key incoming payload) with
  | none => simp
  | some d => cases d <;> simp

variable {d : Decision}

theorem detectConflict_fst (h : s.detectConflict key incoming payload = some (d, t)) :
    classify (s.candidate key incoming payload) = some d := by
  unfold detectConflict at h
  cases hc : classify (s.candidate key incoming payload) with
  | none => simp [hc] at h
  | some d' => cases d' <;> simp_all

theorem vectorOf_congr
    (h : s.entities.find? key = t.entities.find? key) : s.vectorOf key = t.vectorOf key := by
  simp [vectorOf, loadEntityVector, h]

theorem detectConflict_frame (h : s.detectConflict key incoming payload = some (d, t))
    {other : EntityKey} (hne : other ≠ key) : t.entities.find? other = s.entities.find? other := by
  rcases detectConflict_cases h with ⟨-, -, rfl⟩ | ⟨-, -, hfind⟩
  · rfl
  · rw [hfind, if_neg (Ne.symm hne)]

theorem detectConflict_get (h : s.detectConflict key incoming payload = some (d, t)) :
    (t.vectorOf key).get = (s.vectorOf key).get ⊔ incoming.get := by
  rcases detectConflict_cases h with ⟨-, hstale, rfl⟩ | ⟨-, -, hfind⟩
  · rw [VersionVector.compare_eq_after_iff] at hstale
    exact (sup_eq_left.mpr hstale.1).symm
  · have hvec : t.vectorOf key = (s.vectorOf key).observe incoming := by
      simp [vectorOf, loadEntityVector, hfind]
    rw [hvec, VersionVector.get_observe]

theorem detectConflict_congr (h : s.entities.find? key = t.entities.find? key)
    (incoming : VersionVector) (payload : Payload) :
    (s.detectConflict key incoming payload = none ∧
      t.detectConflict key incoming payload = none) ∨
    ∃ d s' t', s.detectConflict key incoming payload = some (d, s') ∧
      t.detectConflict key incoming payload = some (d, t') ∧
      s'.entities.find? key = t'.entities.find? key := by
  have hcand := candidate_congr h incoming payload
  cases hs : s.detectConflict key incoming payload with
  | none =>
    have hcs := (detectConflict_none_iff s key incoming payload).mp hs
    rw [hcand] at hcs
    exact .inl ⟨rfl, (detectConflict_none_iff t key incoming payload).mpr hcs⟩
  | some result =>
    obtain ⟨d, s'⟩ := result
    have hds := detectConflict_fst hs
    cases ht : t.detectConflict key incoming payload with
    | none =>
      have hct := (detectConflict_none_iff t key incoming payload).mp ht
      rw [← hcand, hds] at hct
      simp at hct
    | some result =>
      obtain ⟨d', t'⟩ := result
      have hdt := detectConflict_fst ht
      rw [← hcand, hds] at hdt
      obtain rfl : d = d' := Option.some.inj hdt
      refine .inr ⟨d, s', t', rfl, rfl, ?_⟩
      have hvec := vectorOf_congr h
      rcases detectConflict_cases hs with ⟨hd, -, rfl⟩ | ⟨hd, -, hfs⟩
      · rcases detectConflict_cases ht with ⟨-, -, rfl⟩ | ⟨hd', -, -⟩
        · exact h
        · exact absurd hd hd'
      · rcases detectConflict_cases ht with ⟨hd', -, -⟩ | ⟨-, -, hft⟩
        · exact absurd hd' hd
        · rw [hfs, hft, hvec]; simp

end ConflictStore
end OzPos
