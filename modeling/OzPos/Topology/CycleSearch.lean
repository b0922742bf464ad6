import OzPos.Library.Grouping
import OzPos.Kernel.Lifecycle
import OzPos.Json

namespace OzPos

def valueString (value : Json) (key : String) : Option String := (value.get? key).bind Json.asStr?

def nodeIds (nodes : List Json) : List String :=
  (nodes.filterMap (fun node => valueString node "id")).dedup

variable (ids : List String)

def wireEnds (wire : Json) : Option (String × String) := do
  let fromId ← valueString wire "from_node_id"
  let toId ← valueString wire "to_node_id"
  if ids.contains fromId && ids.contains toId then some (fromId, toId) else none

structure WireGraph where
  adjacency : String → List String
  indegree : String → Nat

def WireGraph.addWire (g : WireGraph) (wire : Json) : WireGraph :=
  match wireEnds ids wire with
  | none => g
  | some (fromId, toId) =>
    ⟨Function.update g.adjacency fromId (g.adjacency fromId ++ [toId]),
      Function.update g.indegree toId (g.indegree toId + 1)⟩

def wireGraph (wires : List Json) : WireGraph :=
  wires.foldl (WireGraph.addWire ids) ⟨fun _ => [], fun _ => 0⟩

/-- The loop of the search over the keys as the map yields them; none where a degree goes
below zero. -/
def cycleLoop (keys : HashOrder) (nodes wires : List Json) :
    Option (Kahn.State String × List String) :=
  let ids := nodeIds nodes
  let g := wireGraph ids wires
  Kahn.drain? g.adjacency ids.length (Kahn.init (keys.order ids) g.indegree) []

def findDirectedCycleNode (keys : HashOrder) (nodes wires : List Json) : Option (Option String) :=
  (cycleLoop keys nodes wires).map (fun (st, visited) =>
    if visited.length = (nodeIds nodes).length then none
    else (keys.order (nodeIds nodes)).find? (fun id => decide (0 < st.degree id)))

def Wired (nodes wires : List Json) (fromId toId : String) : Prop :=
  ∃ wire ∈ wires, wireEnds (nodeIds nodes) wire = some (fromId, toId)

structure SearchExact (keys : HashOrder) (nodes wires : List Json) : Prop where
  runs : ∃ st visited, cycleLoop keys nodes wires = some (st, visited) ∧ st.queue = []
  none_iff : findDirectedCycleNode keys nodes wires = some none ↔
    ∀ id, ¬ Relation.TransGen (Wired nodes wires) id id
  found : ∀ id, findDirectedCycleNode keys nodes wires = some (some id) →
    Relation.TransGen (Wired nodes wires) id id

theorem wireEnds_mem {ids : List String} {wire : Json} {fromId toId : String}
    (h : wireEnds ids wire = some (fromId, toId)) : fromId ∈ ids ∧ toId ∈ ids := by
  simp only [wireEnds, Option.bind_eq_bind, Option.bind_eq_some_iff] at h
  obtain ⟨source, -, target, -, hends⟩ := h
  split at hends
  · rename_i hboth
    cases hends
    simpa using hboth
  · cases hends

/-- The graph holds the wires as edges, each counted at the node it leads to. -/
structure WireGraph.Of (ids : List String) (g : WireGraph) (wires : List Json) : Prop where
  edges : ∀ fromId toId, toId ∈ g.adjacency fromId ↔
    ∃ wire ∈ wires, wireEnds ids wire = some (fromId, toId)
  counted : ∀ toId, Kahn.into g.adjacency ids toId = g.indegree toId

theorem WireGraph.Of.addWire {ids : List String} {g : WireGraph} {wires : List Json}
    (h : g.Of ids wires) (hids : ids.Nodup) (wire : Json) :
    (g.addWire ids wire).Of ids (wires ++ [wire]) := by
  unfold WireGraph.addWire
  cases hends : wireEnds ids wire with
  | none =>
    constructor
    · intro fromId toId
      rw [h.edges]
      simp [or_and_right, exists_or, hends]
    · exact h.counted
  | some ends =>
    obtain ⟨source, target⟩ := ends
    constructor
    · intro fromId toId
      have hold := h.edges fromId toId
      simp only [List.mem_append, List.mem_singleton, or_and_right, exists_or, exists_eq_left, hends,
        ← hold, Option.some.injEq, Prod.mk.injEq]
      by_cases hfrom : fromId = source
      · subst hfrom
        simp [Function.update_self, eq_comm]
      · simp [Function.update_of_ne hfrom, Ne.symm hfrom]
    · intro toId
      have hsource := (wireEnds_mem hends).1
      have hcount : ∀ id, ((Function.update g.adjacency source (g.adjacency source ++ [target])) id).count
          toId = (g.adjacency id).count toId +
            if source = id then (if target = toId then 1 else 0) else 0 := by
        intro id
        by_cases hid : source = id
        · subst hid
          rw [Function.update_self, List.count_append, List.count_singleton, if_pos rfl]
          simp
        · rw [Function.update_of_ne (Ne.symm hid), if_neg hid, Nat.add_zero]
      simp only [Kahn.into, hcount, List.sum_map_add, Grouping.sum_single_key hids hsource]
      have hold := h.counted toId
      rw [Kahn.into] at hold
      rw [hold]
      by_cases htarget : target = toId
      · subst htarget
        rw [Function.update_self, if_pos rfl]
      · rw [Function.update_of_ne (Ne.symm htarget), if_neg htarget, Nat.add_zero]

theorem wireGraph_of {ids : List String} (hids : ids.Nodup) (wires : List Json) :
    (wireGraph ids wires).Of ids wires := by
  induction wires using List.reverseRecOn with
  | nil =>
    constructor
    · simp [wireGraph]
    · simp [wireGraph, Kahn.into]
  | append_singleton wires wire ih =>
    rw [wireGraph, List.foldl_append]
    exact ih.addWire hids wire

section Search

variable (keys : HashOrder) (nodes wires : List Json)

abbrev graphOf : WireGraph := wireGraph (nodeIds nodes) wires

def searched : Kahn.State String × List String :=
  Kahn.run (graphOf nodes wires).adjacency (keys.order (nodeIds nodes))
    (graphOf nodes wires).indegree

theorem graphOf_of : (graphOf nodes wires).Of (nodeIds nodes) wires :=
  wireGraph_of (List.nodup_dedup _) wires

theorem graphOf_exact (id : String) :
    Kahn.into (graphOf nodes wires).adjacency (keys.order (nodeIds nodes)) id =
      (graphOf nodes wires).indegree id := by
  rw [← (graphOf_of nodes wires).counted]
  exact ((keys.perm _).map _).sum_eq

theorem graphOf_bounded : Kahn.Bounded (graphOf nodes wires).adjacency
    (keys.order (nodeIds nodes)) (graphOf nodes wires).indegree where
  nodup := (keys.perm _).nodup_iff.mpr (List.nodup_dedup _)
  known := by
    intro fromId _ toId h
    obtain ⟨wire, -, hends⟩ := ((graphOf_of nodes wires).edges fromId toId).mp h
    exact (keys.perm _).mem_iff.mpr (wireEnds_mem hends).2
  enough := fun id _ => (graphOf_exact keys nodes wires id).le

theorem edge_eq_wired :
    Kahn.Edge (graphOf nodes wires).adjacency (keys.order (nodeIds nodes)) = Wired nodes wires := by
  funext fromId toId
  rw [eq_iff_iff, Kahn.Edge, (graphOf_of nodes wires).edges, (keys.perm _).mem_iff]
  constructor
  · exact fun h => h.2
  · intro h
    obtain ⟨wire, hwire, hends⟩ := h
    exact ⟨(wireEnds_mem hends).1, wire, hwire, hends⟩

theorem cycleLoop_eq : cycleLoop keys nodes wires = some (searched keys nodes wires) := by
  have hbounded := graphOf_bounded keys nodes wires
  rw [searched, Kahn.run, (keys.perm _).length_eq]
  exact Kahn.drain?_eq hbounded _ (Kahn.inv_init hbounded)

theorem searched_inv : Kahn.Inv (graphOf nodes wires).adjacency (keys.order (nodeIds nodes))
      (graphOf nodes wires).indegree (searched keys nodes wires).1 (searched keys nodes wires).2 ∧
    (searched keys nodes wires).1.queue = [] := Kahn.run_inv (graphOf_bounded keys nodes wires)

theorem findDirectedCycleNode_eq : findDirectedCycleNode keys nodes wires =
    some ((keys.order (nodeIds nodes)).find?
      (fun id => decide (id ∉ (searched keys nodes wires).2))) := by
  obtain ⟨hinv, hqueue⟩ := searched_inv keys nodes wires
  have hnodes := (graphOf_bounded keys nodes wires).nodup
  have hleft : ∀ id ∈ keys.order (nodeIds nodes),
      decide (0 < (searched keys nodes wires).1.degree id) =
        decide (id ∉ (searched keys nodes wires).2) := by
    intro id hid
    have hwaiting := hinv.waiting id
    rw [hqueue, List.append_nil] at hwaiting
    rw [decide_eq_decide, hwaiting, Nat.pos_iff_ne_zero]
    simp [hid]
  rw [findDirectedCycleNode, cycleLoop_eq, Option.map_some, ← (keys.perm (nodeIds nodes)).length_eq]
  apply congrArg some
  simp only
  by_cases hlength : (searched keys nodes wires).2.length = (keys.order (nodeIds nodes)).length
  · have hall := (hinv.complete_iff_length hnodes).mp hlength.ge
    have hnone : (keys.order (nodeIds nodes)).find?
        (fun id => decide (id ∉ (searched keys nodes wires).2)) = none := by
      rw [List.find?_eq_none]
      intro id hid
      simpa using hall id hid
    rw [if_pos hlength, hnone]
  · rw [if_neg hlength]
    rw [← List.head?_filter, ← List.head?_filter, List.filter_congr hleft]

theorem unsorted_iff {id : String} (hid : id ∈ nodeIds nodes) :
    id ∉ (searched keys nodes wires).2 ↔ ∃ z, Relation.TransGen (Wired nodes wires) z z ∧
      Relation.ReflTransGen (Wired nodes wires) z id := by
  obtain ⟨hinv, hqueue⟩ := searched_inv keys nodes wires
  have hleft := Kahn.left_over_iff (graphOf_bounded keys nodes wires) hinv hqueue
    (fun id _ => graphOf_exact keys nodes wires id) ((keys.perm _).mem_iff.mpr hid)
  simpa only [Kahn.OnCycle, edge_eq_wired] using hleft

theorem findDirectedCycleNode_none_iff : findDirectedCycleNode keys nodes wires = some none ↔
    ∀ id, ¬ Relation.TransGen (Wired nodes wires) id id := by
  obtain ⟨hinv, hqueue⟩ := searched_inv keys nodes wires
  have hcomplete := Kahn.complete_iff (graphOf_bounded keys nodes wires) hinv hqueue
    (fun id _ => graphOf_exact keys nodes wires id)
  simp only [Kahn.OnCycle, edge_eq_wired] at hcomplete
  rw [findDirectedCycleNode_eq, Option.some.injEq, List.find?_eq_none, ← hcomplete]
  simp only [decide_eq_true_eq, not_not]

end Search

def firstKey (id : String) : HashOrder where
  order l := if id ∈ l then id :: l.erase id else l
  perm l := by
    split
    · rename_i hid
      exact (List.perm_cons_erase hid).symm
    · exact .refl l

/-- The search is exact, however the map yields its keys, if and only if every node that a
cycle leads to is on a cycle. -/
theorem search_exact_iff (nodes wires : List Json) :
    (∀ keys, SearchExact keys nodes wires) ↔
      ∀ id ∈ nodeIds nodes, (∃ z, Relation.TransGen (Wired nodes wires) z z ∧
        Relation.ReflTransGen (Wired nodes wires) z id) →
          Relation.TransGen (Wired nodes wires) id id := by
  constructor
  · intro h id hid hreached
    have hexact := h (firstKey id)
    have hout := (unsorted_iff (firstKey id) nodes wires hid).mpr hreached
    apply hexact.found id
    rw [findDirectedCycleNode_eq]
    have horder : (firstKey id).order (nodeIds nodes) = id :: (nodeIds nodes).erase id := if_pos hid
    rw [horder, List.find?_cons_of_pos (by simpa using hout)]
  · intro h keys
    constructor
    · exact ⟨_, _, cycleLoop_eq keys nodes wires, (searched_inv keys nodes wires).2⟩
    · exact findDirectedCycleNode_none_iff keys nodes wires
    · intro id hfound
      rw [findDirectedCycleNode_eq, Option.some.injEq] at hfound
      have hid := (keys.perm _).mem_iff.mp (List.mem_of_find?_eq_some hfound)
      have hout := List.find?_some hfound
      rw [decide_eq_true_eq, unsorted_iff keys nodes wires hid] at hout
      exact h id hid hout

def wireBetween (fromId toId : String) : Json :=
  .obj [("from_node_id", .str fromId), ("to_node_id", .str toId)]

def threeNodes : List Json :=
    [.obj [("id", .str "a")], .obj [("id", .str "b")], .obj [("id", .str "c")]]

def cycleWithTail : List Json := [wireBetween "a" "b", wireBetween "b" "a", wireBetween "b" "c"]

theorem tail_reported :
    findDirectedCycleNode (firstKey "c") threeNodes cycleWithTail = some (some "c") ∧
      ¬ SearchExact (firstKey "c") threeNodes cycleWithTail := by
  have hfound : findDirectedCycleNode (firstKey "c") threeNodes cycleWithTail = some (some "c") := by
    decide +kernel
  refine ⟨hfound, ?_⟩
  intro h
  obtain ⟨next, ⟨wire, hwire, hends⟩, -⟩ := Relation.TransGen.head'_iff.mp (h.found "c" hfound)
  simp only [cycleWithTail, List.mem_cons, List.not_mem_nil, or_false] at hwire
  rcases hwire with rfl | rfl | rfl
  · revert hends
    simp [wireEnds, wireBetween, valueString, Json.get?, Json.lookup, Json.asStr?]
  · revert hends
    simp [wireEnds, wireBetween, valueString, Json.get?, Json.lookup, Json.asStr?]
  · revert hends
    simp [wireEnds, wireBetween, valueString, Json.get?, Json.lookup, Json.asStr?]

end OzPos
