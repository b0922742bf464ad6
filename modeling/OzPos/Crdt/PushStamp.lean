import OzPos.Server.Conflicts

namespace OzPos

/-- `_vector` and `_terminal` added to an object; any other payload is unchanged. -/
def stampPayload (payload : Payload) (terminalId : String) (counter : Nat) : Payload :=
  match payload.value? with
  | some (.obj members) =>
    .json (.obj (Json.insertMember vectorField (.obj [(terminalId, .int counter)])
      (Json.insertMember terminalField (.str terminalId) members)))
  | _ => payload

variable (terminalId : String)

def VersionVector.single (counter : Nat) : VersionVector :=
  ⟨.ofList [(terminalId, counter)]⟩

theorem VersionVector.get_single (counter : Nat) (t : String) :
    (VersionVector.single terminalId counter).get t = if terminalId = t then counter else 0 := by
  by_cases h : terminalId = t
  · subst h
    simp [single, get, Std.ExtTreeMap.ofList_singleton]
  · simp [single, get, Std.ExtTreeMap.ofList_singleton, Std.ExtTreeMap.getD_insert, h]

variable {counter : Nat}

theorem readCounters_single (h : counter < 2^64) :
    VersionVector.readCounters [(terminalId, .int counter)] = some [(terminalId, counter)] := by
  rw [VersionVector.readCounters, Json.asU64?_natCast h, VersionVector.readCounters]

theorem fromValue?_single (h : counter < 2^64) :
    VersionVector.fromValue? (.obj [(terminalId, .int counter)]) =
      some (VersionVector.single terminalId counter) := by
  rw [VersionVector.fromValue?, readCounters_single terminalId h, Option.map_some]
  rfl

variable {payload : Payload}

theorem value?_stampPayload {members : List (String × Json)}
    (h : payload.value? = some (.obj members)) (terminalId : String) (counter : Nat) :
    ∃ stamped, Json.SortedMembers stamped ∧
      stampPayload payload terminalId counter = .json (.obj stamped) ∧
      Json.lookup vectorField stamped = some (.obj [(terminalId, .int counter)]) ∧
      Json.lookup terminalField stamped = some (.str terminalId) := by
  have hsorted : Json.SortedMembers members := by
    cases payload with
    | text raw => simp [Payload.value?] at h
    | json doc =>
      cases doc with
      | obj raw =>
        simp only [Payload.value?, Json.value, Option.some.injEq, Json.obj.injEq] at h
        rw [← h]
        exact Json.sortedMembers_memberValues raw List.Pairwise.nil
      | _ => simp [Payload.value?, Json.value] at h
  refine ⟨_, Json.sortedMembers_insertMember _ _ (Json.sortedMembers_insertMember _ _ hsorted),
    by simp only [stampPayload, h]; rfl, ?_, ?_⟩
  · simp [Json.lookup_insertMember]
  · simp [Json.lookup_insertMember, vectorField, terminalField]

theorem extractVector_stampPayload {members : List (String × Json)}
    (h : payload.value? = some (.obj members)) (terminalId : String)
    (hcounter : counter ≤ counterMax) :
    extractVector (stampPayload payload terminalId counter) =
      some (VersionVector.single terminalId counter) := by
  obtain ⟨stamped, hsorted, hstamp, hvector, -⟩ := value?_stampPayload h terminalId counter
  have hbound : counter < 2^64 := lt_of_le_of_lt hcounter counterMax_lt
  rw [hstamp]
  simp only [extractVector, Payload.value?]
  have hvalue : Json.value (.obj [(terminalId, .int counter)]) =
      .obj [(terminalId, .int counter)] := rfl
  rw [Json.get?_value_obj hsorted, hvector, Option.map_some, hvalue, Option.bind_some,
    fromValue?_single terminalId hbound]

theorem stampPayload_not_object (h : ∀ members, payload.value? ≠ some (.obj members))
    (terminalId : String) (counter : Nat) : stampPayload payload terminalId counter = payload := by
  unfold stampPayload
  split
  · rename_i members hm
    exact absurd hm (h members)
  · rfl

end OzPos
