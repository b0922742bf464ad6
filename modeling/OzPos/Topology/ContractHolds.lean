import OzPos.Topology.Contract
import OzPos.Library.Outcome

namespace OzPos

structure Locates (nodes : List Json) (branch wire : Json) : Prop where
  source : wireEnd nodes wire "from_node_id" = some branch
  fromPort : valueString wire "from_port_id" = some "location-out"
  toPort : valueString wire "to_port_id" = some "location-in"
  target : ∃ target, wireEnd nodes wire "to_node_id" = some target ∧
    (valueString target "type" = some "workspace" ∨ valueString target "type" = some "warehouse")

structure MeetsContract (contract : Json) (nodes wires : List Json) : Prop where
  wired : ∀ wire ∈ wires, valueString wire "relationship_type" ≠ some "location" →
    ∀ fromNode toNode, wireEnd nodes wire "from_node_id" = some fromNode →
      wireEnd nodes wire "to_node_id" = some toNode →
        semanticWireMatchesContract contract wire fromNode toNode = true
  located : ∃ branch, nodes.filter isBranch = [branch] ∧
    ∀ wire ∈ wires, valueString wire "relationship_type" = some "location" →
      Locates nodes branch wire
  workspaces : ∀ node ∈ nodes, valueString node "type" = some "workspace" →
    semanticTypeKey node ≠ kdsType →
      ∃ id, valueString node "id" = some id ∧ (feedsOf wires id "location" "location-in").length = 1
  kitchens : ∀ node ∈ nodes, valueString node "type" = some "workspace" →
    semanticTypeKey node = kdsType →
      ∃ id wire source, valueString node "id" = some id ∧
        feedsOf wires id "generic" "operation-in" = [wire] ∧
        wireEnd nodes wire "from_node_id" = some source ∧
        valueString wire "from_port_id" = some "operation-out" ∧
        pairingAdmitsKinds contract "operation-out" "operation-in" (nodeKindToken source)
          (nodeKindToken node) = true
  warehouses : ∀ node ∈ nodes, valueString node "type" = some "warehouse" →
    ∃ id, valueString node "id" = some id ∧
      (primaryFeeds contract wires id "location" "location-in").length +
        (primaryFeeds contract wires id "generic" "operation-in").length = 1
  devices : ∀ node ∈ nodes, valueString node "type" = some "hardware" →
    ∀ id, valueString node "id" = some id →
      (feedsOf wires id "ticket-routing" "ticket-in").length ≤ 1
  acyclic : ∀ id, ¬ Relation.TransGen (Wired nodes wires) id id

def rechecked (contract node : Json) : Bool :=
  valueString node "type" == some "workspace" && semanticTypeKey node == kdsType ||
    valueString node "type" == some "warehouse" &&
      isWarehousePrimaryInputPort contract (some "operation-in")

/-- The workspaces and warehouses have ids, and what the contract pass leaves out is declared,
and admitted where no later pass looks at it. -/
structure Covered (contract : Json) (nodes wires : List Json) : Prop where
  named : ∀ node ∈ nodes, valueString node "type" = some "workspace" ∨
    valueString node "type" = some "warehouse" → ∃ id, valueString node "id" = some id
  declared : ∀ wire ∈ wires, ∀ fromNode toNode, wireEnd nodes wire "from_node_id" = some fromNode →
    wireEnd nodes wire "to_node_id" = some toNode → isWorkspaceOperation wire fromNode = true →
      sharedSemanticPairingContains contract (some "operation-out") (some "operation-in")
          (some "generic") = true ∧
        (rechecked contract toNode = true ∨ pairingAdmitsKinds contract "operation-out"
          "operation-in" (nodeKindToken fromNode) (nodeKindToken toNode) = true)

section Passes

variable {contract : Json} {nodes wires : List Json}

theorem nodeById_eq {seen : List String} {node : Json} {id : String}
    (h : duplicateNode seen nodes = none) (hnode : node ∈ nodes)
    (hid : valueString node "id" = some id) : nodeById nodes id = some node ∧ id ∉ seen := by
  induction nodes generalizing seen with
  | nil => cases hnode
  | cons head rest ih =>
    rw [duplicateNode] at h
    cases hhead : valueString head "id" with
    | none =>
      rw [hhead] at h
      rcases List.mem_cons.mp hnode with rfl | hrest
      · rw [hid] at hhead
        cases hhead
      · simpa [nodeById, hhead] using ih h hrest
    | some first =>
      simp only [hhead, List.contains_eq_mem, decide_eq_true_eq] at h
      split at h
      · cases h
      · rename_i hfirst
        rcases List.mem_cons.mp hnode with rfl | hrest
        · obtain rfl : first = id := Option.some.inj (hhead.symm.trans hid)
          exact ⟨by simp [nodeById, hid], hfirst⟩
        · obtain ⟨hfound, hout⟩ := ih h hrest
          rw [List.mem_cons, not_or] at hout
          refine ⟨?_, hout.2⟩
          simpa [nodeById, hhead, Ne.symm hout.1] using hfound

theorem wireEnd_spec {wire node : Json} {key : String} (h : wireEnd nodes wire key = some node) :
    node ∈ nodes ∧ ∃ id, valueString wire key = some id ∧ valueString node "id" = some id := by
  obtain ⟨id, hid, hfind⟩ := Option.bind_eq_some_iff.mp h
  exact ⟨List.mem_of_find?_eq_some hfind, id, hid, by simpa using List.find?_some hfind⟩

theorem wireEnd_of_type (h : duplicateNode [] nodes = none) {wire : Json} {type : String}
    (hid : (valueString wire "to_node_id").getD "" ∈ idsOfType nodes type)
    (hto : (valueString wire "to_node_id").isSome) :
    ∃ target, wireEnd nodes wire "to_node_id" = some target ∧ valueString target "type" = some type := by
  obtain ⟨target, htarget, htargetId⟩ := List.mem_filterMap.mp hid
  rw [List.mem_filter, beq_iff_eq] at htarget
  obtain ⟨id, hwire⟩ := Option.isSome_iff_exists.mp hto
  rw [hwire, Option.getD_some] at htargetId
  refine ⟨target, ?_, htarget.2⟩
  rw [wireEnd, hwire]
  exact (nodeById_eq h htarget.1 htargetId).1

theorem locationFault_none {branchId : String} {seen : List (List (Option String))}
    (h : locationFault nodes branchId seen wires = none) :
    ∀ wire ∈ wires, valueString wire "relationship_type" = some "location" →
      locates nodes branchId wire = true := by
  induction wires generalizing seen with
  | nil => simp
  | cons wire rest ih =>
    rw [List.forall_mem_cons]
    rw [locationFault] at h
    split at h
    · rename_i hother
      exact ⟨fun hlocation => by simp [hlocation] at hother, ih h⟩
    · split at h
      · cases h
      · split at h
        · rename_i hlocates
          exact ⟨fun _ => hlocates, ih h⟩
        · cases h

theorem mem_feedsOf {wire : Json} {id relationship port : String} :
    wire ∈ feedsOf wires id relationship port ↔ wire ∈ wires ∧
      valueString wire "to_node_id" = some id ∧
      valueString wire "relationship_type" = some relationship ∧
      valueString wire "to_port_id" = some port := by
  simp [feedsOf, and_assoc]

theorem workspaceFault_none {node : Json} {id : String} (hfind : nodeById nodes id = some node)
    (h : workspaceFault contract nodes wires id = none) :
    (semanticTypeKey node ≠ kdsType → (feedsOf wires id "location" "location-in").length = 1) ∧
      (semanticTypeKey node = kdsType → ∃ wire, feedsOf wires id "generic" "operation-in" = [wire] ∧
        operationAdmitted contract wire (nodes.find? (fun node =>
          valueString node "id" == valueString wire "from_node_id")) ("workspace:" ++ kdsType) =
            true) := by
  have hkey : (((nodeById nodes id).bind (Json.get? "metadata")).bind
      (fun m => valueString m "typeKey")).getD storePos = semanticTypeKey node := by
    rw [hfind]
    rfl
  constructor
  · intro hkds
    simp only [workspaceFault, hkey, beq_eq_false_iff_ne.mpr hkds, Bool.false_eq_true, if_false] at h
    split at h
    · cases h
    · split at h
      · cases h
      · rename_i hone
        simpa using hone
  · intro hkds
    simp only [workspaceFault, hkey, hkds, beq_self_eq_true, if_true] at h
    split at h
    · cases h
    · split at h
      · cases h
      · rename_i hone
        obtain ⟨wire, hwire⟩ := List.length_eq_one_iff.mp (not_not.mp hone)
        refine ⟨wire, hwire, ?_⟩
        rw [hwire, List.head?_cons, Option.bind_some] at h
        split at h
        · assumption
        · cases h

theorem warehouseFault_none {node : Json} {id : String} (hid : valueString node "id" = some id)
    (h : warehouseFault contract nodes wires node = none) :
    (primaryFeeds contract wires id "location" "location-in").length +
        (primaryFeeds contract wires id "generic" "operation-in").length = 1 ∧
      ∀ wire ∈ primaryFeeds contract wires id "generic" "operation-in",
        operationAdmitted contract wire (nodeById nodes ((valueString wire "from_node_id").getD ""))
          "warehouse" = true := by
  simp only [warehouseFault, hid, Option.getD_some] at h
  split at h
  · cases h
  · split at h
    · cases h
    · refine ⟨by omega, ?_⟩
      intro wire hwire
      have hfault := List.findSome?_eq_none_iff.mp h wire hwire
      split at hfault
      · assumption
      · cases hfault

variable {keys : HashOrder}

structure Passed (contract : Json) (nodes wires : List Json) (keys : HashOrder) (branch : Json) :
    Prop where
  distinct : duplicateNode [] nodes = none
  tickets : ∀ node ∈ nodes, ticketFault wires node = none
  branches : nodes.filter isBranch = [branch]
  identity : identityFault branch = none
  locations : locationFault nodes ((valueString branch "id").getD "") [] wires = none
  cycles : cycleFault keys nodes wires = none
  connections : ∀ wire ∈ wires, connectionFault contract nodes wire = none
  workspaces : ∀ id ∈ idsOfType nodes "workspace", workspaceFault contract nodes wires id = none
  warehouses : ∀ node ∈ nodes, valueString node "type" = some "warehouse" →
    warehouseFault contract nodes wires node = none

theorem passed_of_ok (hfields : hasSemanticFields nodes wires = true)
    (h : validateSemanticJson contract nodes wires keys = .ok ()) :
    ∃ branch, Passed contract nodes wires keys branch := by
  unfold validateSemanticJson at h
  split at h
  · cases h
  · rename_i hnone
    simp only [Option.or_eq_none_iff, List.findSome?_eq_none_iff, hfields, if_true] at hnone
    obtain ⟨hdistinct, htickets, -, hsemantic⟩ := hnone
    unfold semanticFault at hsemantic
    split at hsemantic
    · cases hsemantic
    · rename_i branch hbranch
      simp only [Option.or_eq_none_iff, List.findSome?_eq_none_iff, List.mem_filter, beq_iff_eq,
        and_imp] at hsemantic
      obtain ⟨hidentity, hlocations, hcycles, hconnections, hworkspaces, hwarehouses⟩ := hsemantic
      exact ⟨branch, hdistinct, htickets, hbranch, hidentity, hlocations, hcycles, hconnections,
        hworkspaces, hwarehouses⟩
    · cases hsemantic

variable {branch : Json}

theorem Passed.branch_id (h : Passed contract nodes wires keys branch) :
    ∃ id, valueString branch "id" = some id := by
  have hidentity := h.identity
  cases hid : valueString branch "id" with
  | none => simp [identityFault, hid] at hidentity
  | some id => exact ⟨id, rfl⟩

theorem Passed.located (h : Passed contract nodes wires keys branch) {wire : Json}
    (hwire : wire ∈ wires) (hlocation : valueString wire "relationship_type" = some "location")
    (hto : (valueString wire "to_node_id").isSome) : Locates nodes branch wire := by
  have hlocates := locationFault_none h.locations wire hwire hlocation
  obtain ⟨id, hid⟩ := h.branch_id
  have hbranch : branch ∈ nodes :=
    (List.mem_filter.mp (h.branches ▸ List.mem_singleton_self branch)).1
  simp only [locates, hid, Option.getD_some, Bool.and_eq_true, Bool.or_eq_true, beq_iff_eq,
    List.contains_iff_mem] at hlocates
  obtain ⟨⟨⟨hfrom, hfromPort⟩, htoPort⟩, htarget⟩ := hlocates
  refine ⟨?_, hfromPort, htoPort, ?_⟩
  · rw [wireEnd, hfrom]
    exact (nodeById_eq h.distinct hbranch hid).1
  · rcases htarget with hmem | hmem
    · obtain ⟨target, hend, htype⟩ := wireEnd_of_type h.distinct hmem hto
      exact ⟨target, hend, .inl htype⟩
    · obtain ⟨target, hend, htype⟩ := wireEnd_of_type h.distinct hmem hto
      exact ⟨target, hend, .inr htype⟩

theorem Passed.workspace (h : Passed contract nodes wires keys branch) {node : Json} {id : String}
    (hnode : node ∈ nodes) (htype : valueString node "type" = some "workspace")
    (hid : valueString node "id" = some id) :
    nodeById nodes id = some node ∧ workspaceFault contract nodes wires id = none :=
  ⟨(nodeById_eq h.distinct hnode hid).1, h.workspaces id (List.mem_filterMap.mpr
    ⟨node, List.mem_filter.mpr ⟨hnode, by rw [htype, beq_self_eq_true]⟩, hid⟩)⟩

theorem nodeKindToken_workspace {node : Json} (h : valueString node "type" = some "workspace") :
    nodeKindToken node = "workspace:" ++ semanticTypeKey node := by
  simp [nodeKindToken, h]

theorem nodeKindToken_warehouse {node : Json} (h : valueString node "type" = some "warehouse") :
    nodeKindToken node = "warehouse" := by
  simp [nodeKindToken, h]

theorem isWorkspaceOperation_iff {wire fromNode : Json} :
    isWorkspaceOperation wire fromNode = true ↔
    valueString wire "from_port_id" = some "operation-out" ∧
      valueString wire "to_port_id" = some "operation-in" ∧
      valueString wire "relationship_type" = some "generic" ∧
      valueString fromNode "type" = some "workspace" := by
  simp [isWorkspaceOperation, and_assoc]

theorem matches_operation {wire fromNode toNode : Json}
    (h : isWorkspaceOperation wire fromNode = true) :
    semanticWireMatchesContract contract wire fromNode toNode = true ↔
      sharedSemanticPairingContains contract (some "operation-out") (some "operation-in")
          (some "generic") = true ∧
        pairingAdmitsKinds contract "operation-out" "operation-in" (nodeKindToken fromNode)
          (nodeKindToken toNode) = true := by
  obtain ⟨hfrom, hto, hrelationship, -⟩ := isWorkspaceOperation_iff.mp h
  simp [semanticWireMatchesContract, hfrom, hto, hrelationship]

theorem Passed.admits (h : Passed contract nodes wires keys branch) {wire fromNode toNode : Json}
    (hwire : wire ∈ wires) (hfrom : wireEnd nodes wire "from_node_id" = some fromNode)
    (hto : wireEnd nodes wire "to_node_id" = some toNode)
    (hoperation : isWorkspaceOperation wire fromNode = true)
    (hrechecked : rechecked contract toNode = true) :
    pairingAdmitsKinds contract "operation-out" "operation-in" (nodeKindToken fromNode)
      (nodeKindToken toNode) = true := by
  obtain ⟨-, hport, hrelationship, -⟩ := isWorkspaceOperation_iff.mp hoperation
  obtain ⟨htoMem, id, htoId, hid⟩ := wireEnd_spec hto
  obtain ⟨-, fromId, hfromId, -⟩ := wireEnd_spec hfrom
  have hfound : nodes.find? (fun node => valueString node "id" == some fromId) = some fromNode := by
    rwa [wireEnd, hfromId] at hfrom
  have hfeeds := mem_feedsOf.mpr ⟨hwire, htoId, hrelationship, hport⟩
  simp only [rechecked, Bool.or_eq_true, Bool.and_eq_true, beq_iff_eq] at hrechecked
  rcases hrechecked with ⟨htype, hkds⟩ | ⟨htype, hprimary⟩
  · obtain ⟨hfind, hfault⟩ := h.workspace htoMem htype hid
    obtain ⟨only, hone, hadmitted⟩ := (workspaceFault_none hfind hfault).2 hkds
    obtain rfl : wire = only := by simpa [hone] using hfeeds
    rw [hfromId, hfound] at hadmitted
    rw [nodeKindToken_workspace htype, hkds]
    simpa [operationAdmitted] using (Bool.and_eq_true_iff.mp hadmitted).2
  · have hadmitted := (warehouseFault_none hid (h.warehouses toNode htoMem htype)).2 wire
      (List.mem_filter.mpr ⟨hfeeds, by rw [hport, hprimary]⟩)
    rw [hfromId, Option.getD_some, nodeById, hfound] at hadmitted
    rw [nodeKindToken_warehouse htype]
    simpa [operationAdmitted] using (Bool.and_eq_true_iff.mp hadmitted).2

end Passes

/-- Accepted graphs meet the contract exactly where the passes after the contract pass cover what
it leaves to them. -/
theorem accepted_contract_iff (contract : Json) (keys : HashOrder) (nodes wires : List Json)
    (hfields : hasSemanticFields nodes wires = true)
    (hrefs : ∀ wire ∈ wires, (wireEnds (nodeIds nodes) wire).isSome)
    (haccepted : validateSemanticJson contract nodes wires keys = .ok ()) :
    MeetsContract contract nodes wires ↔ Covered contract nodes wires := by
  obtain ⟨branch, h⟩ := passed_of_ok hfields haccepted
  constructor
  · intro hmeets
    constructor
    · intro node hnode htype
      rcases htype with htype | htype
      · by_cases hkds : semanticTypeKey node = kdsType
        · obtain ⟨id, _, _, hid, _⟩ := hmeets.kitchens node hnode htype hkds
          exact ⟨id, hid⟩
        · obtain ⟨id, hid, _⟩ := hmeets.workspaces node hnode htype hkds
          exact ⟨id, hid⟩
      · obtain ⟨id, hid, _⟩ := hmeets.warehouses node hnode htype
        exact ⟨id, hid⟩
    · intro wire hwire fromNode toNode hfrom hto hoperation
      have hgeneric := (isWorkspaceOperation_iff.mp hoperation).2.2.1
      have hmatches := hmeets.wired wire hwire (by simp [hgeneric]) fromNode toNode hfrom hto
      obtain ⟨hdeclared, hadmits⟩ := (matches_operation hoperation).mp hmatches
      exact ⟨hdeclared, .inr hadmits⟩
  · intro hcovered
    have hends : ∀ wire ∈ wires, ∃ fromId toId, valueString wire "from_node_id" = some fromId ∧
        valueString wire "to_node_id" = some toId := by
      intro wire hwire
      obtain ⟨⟨fromId, toId⟩, hends⟩ := Option.isSome_iff_exists.mp (hrefs wire hwire)
      simp only [wireEnds, Option.bind_eq_bind, Option.bind_eq_some_iff] at hends
      obtain ⟨source, hsource, target, htarget, -⟩ := hends
      exact ⟨source, target, hsource, htarget⟩
    constructor
    · intro wire hwire hother fromNode toNode hfrom hto
      have hfault := h.connections wire hwire
      simp only [connectionFault, hother, beq_iff_eq, if_false, hfrom, hto] at hfault
      split at hfault
      · rename_i hpassed
        rcases Bool.or_eq_true_iff.mp hpassed with hoperation | hmatches
        · obtain ⟨hdeclared, hlater | hadmits⟩ :=
            hcovered.declared wire hwire fromNode toNode hfrom hto hoperation
          · exact (matches_operation hoperation).mpr
              ⟨hdeclared, h.admits hwire hfrom hto hoperation hlater⟩
          · exact (matches_operation hoperation).mpr ⟨hdeclared, hadmits⟩
        · exact hmatches
      · cases hfault
    · refine ⟨branch, h.branches, ?_⟩
      intro wire hwire hlocation
      obtain ⟨_, toId, _, htoId⟩ := hends wire hwire
      exact h.located hwire hlocation (by rw [htoId, Option.isSome_some])
    · intro node hnode htype hkds
      obtain ⟨id, hid⟩ := hcovered.named node hnode (.inl htype)
      obtain ⟨hfind, hfault⟩ := h.workspace hnode htype hid
      exact ⟨id, hid, (workspaceFault_none hfind hfault).1 hkds⟩
    · intro node hnode htype hkds
      obtain ⟨id, hid⟩ := hcovered.named node hnode (.inl htype)
      obtain ⟨hfind, hfault⟩ := h.workspace hnode htype hid
      obtain ⟨wire, hfeeds, hadmitted⟩ := (workspaceFault_none hfind hfault).2 hkds
      have hwire : wire ∈ wires := (mem_feedsOf.mp (hfeeds ▸ List.mem_singleton_self wire)).1
      obtain ⟨fromId, _, hfromId, _⟩ := hends wire hwire
      rw [operationAdmitted, hfromId, Bool.and_eq_true, beq_iff_eq] at hadmitted
      obtain ⟨source, hsource, hadmits⟩ := (Option.any_eq_true _ _).mp hadmitted.2
      refine ⟨id, wire, source, hid, hfeeds, ?_, hadmitted.1, ?_⟩
      · rw [wireEnd, hfromId]
        exact hsource
      · rw [nodeKindToken_workspace htype, hkds]
        exact hadmits
    · intro node hnode htype
      obtain ⟨id, hid⟩ := hcovered.named node hnode (.inr htype)
      exact ⟨id, hid, (warehouseFault_none hid (h.warehouses node hnode htype)).1⟩
    · intro node hnode htype id hid
      have hfault := h.tickets node hnode
      simp only [ticketFault, htype, beq_self_eq_true, if_true, hid, Option.bind_some] at hfault
      split at hfault
      · cases hfault
      · omega
    · apply (findDirectedCycleNode_none_iff keys nodes wires).mp
      have hcycles := h.cycles
      rw [cycleFault, Option.map_eq_none_iff, findDirectedCycleNode_eq, Option.join_some] at hcycles
      rw [findDirectedCycleNode_eq, hcycles]

def pairingRow (source target relationshipType : String) (endpoints : List (String × String)) :
    Json :=
  .obj [("source", .str source), ("target", .str target), ("relationshipType", .str relationshipType),
    ("endpoints", .arr (endpoints.map (fun (a, b) => .obj [("from", .str a), ("to", .str b)])))]

/-- What the validator reads of `topologySemantics.json`. -/
def topologySemantics : Json :=
  let stock := [("workspace:store-pos", "warehouse"), ("workspace:restaurant-pos", "warehouse"),
    ("warehouse", "warehouse")]
  .obj [("warehouse", .obj [("primaryInputs", .arr [.str "location-in", .str "operation-in"])]),
    ("semanticPairings", .arr [
      pairingRow "location-out" "location-in" "location"
        [("@branch-root", "workspace"), ("@branch-root", "warehouse")],
      pairingRow "operation-out" "operation-in" "generic"
        [("workspace:restaurant-pos", "workspace:kds"), ("workspace:store-pos", "warehouse")],
      pairingRow "stock-out" "stock-in" "stock-routing" stock,
      pairingRow "transfer-out" "transfer-in" "inventory-transfer" stock,
      pairingRow "ticket-out" "ticket-in" "ticket-routing" [("workspace:kds", "hardware")],
      pairingRow "device-out" "generic-in" "hardware-connection" [("hardware", "hardware")],
      pairingRow "generic-out" "generic-in" "generic" [("*", "*")]])]

def workspaceNode (id typeKey : String) : Json :=
  .obj [("id", .str id), ("type", .str "workspace"), ("metadata", .obj [("typeKey", .str typeKey)])]

def semanticWire (id fromId fromPort toId toPort relationship : String) : Json :=
  .obj [("id", .str id), ("from_node_id", .str fromId), ("from_port_id", .str fromPort),
    ("to_node_id", .str toId), ("to_port_id", .str toPort), ("relationship_type", .str relationship)]

def shopNodes : List Json :=
  [.obj [("id", .str "shop"), ("type", .str "branch-location"), ("store_profile_id", .str "profile-1")],
    workspaceNode "till" storePos, workspaceNode "floor" restaurantPos]

def crossedWires : List Json :=
  [semanticWire "w1" "shop" "location-out" "till" "location-in" "location",
    semanticWire "w2" "shop" "location-out" "floor" "location-in" "location",
    semanticWire "w3" "till" "operation-out" "floor" "operation-in" "generic"]

theorem crossed_accepted :
    validateSemanticJson topologySemantics shopNodes crossedWires (firstKey "shop") = .ok () := by
  have hok : (validateSemanticJson topologySemantics shopNodes crossedWires (firstKey "shop")).isOk =
      true := by
    decide +kernel
  obtain ⟨_, haccepted⟩ := (Except.isOk_iff _).mp hok
  exact haccepted

theorem crossed_contract_iff :
    MeetsContract topologySemantics shopNodes crossedWires ↔
      Covered topologySemantics shopNodes crossedWires :=
  accepted_contract_iff topologySemantics (firstKey "shop") shopNodes crossedWires (by decide +kernel)
    (by decide +kernel) crossed_accepted

theorem crossed_breaks_contract :
    hasSemanticFields shopNodes crossedWires = true ∧
      (∀ wire ∈ crossedWires, (wireEnds (nodeIds shopNodes) wire).isSome) ∧
      validateSemanticJson topologySemantics shopNodes crossedWires (firstKey "shop") = .ok () ∧
      ¬ MeetsContract topologySemantics shopNodes crossedWires := by
  refine ⟨by decide +kernel, by decide +kernel, crossed_accepted, ?_⟩
  intro h
  have hmatches := h.wired (semanticWire "w3" "till" "operation-out" "floor" "operation-in" "generic")
    (by decide +kernel) (by decide +kernel) (workspaceNode "till" storePos)
    (workspaceNode "floor" restaurantPos) (by decide +kernel) (by decide +kernel)
  revert hmatches
  decide +kernel

end OzPos
