import OzPos.Topology.CycleSearch
import OzPos.Licensing.Subscription

namespace OzPos

def Json.asArr? : Json → Option (List Json)
  | .arr items => some items
  | _ => none

structure TopologyError where
  code : String
  (nodeId wireId portId : Option String)
  message : String

def semanticTypeKey (node : Json) : String :=
  ((node.get? "metadata").bind (fun metadata => valueString metadata "typeKey")).getD storePos

def nodeKindToken (node : Json) : String :=
  match valueString node "type" with
  | some "store" => "branch-location"
  | some "workspace" => "workspace:" ++ semanticTypeKey node
  | some other => other
  | none => ""

/-- A token covers its family: `workspace` admits `workspace:kds`. -/
def kindTokenAdmits (endpointToken nodeKind : String) : Bool :=
  endpointToken == nodeKind || startsWith nodeKind (endpointToken ++ ":")

section Table

variable (contract : Json)

def semanticPairings : List Json :=
  ((contract.get? "semanticPairings").bind Json.asArr?).getD []

def isWarehousePrimaryInputPort (portId : Option String) : Bool :=
  portId.isSome && ((((contract.get? "warehouse").bind (Json.get? "primaryInputs")).bind
    Json.asArr?).getD []).any (fun port => port.asStr? == portId)

def sharedSemanticPairingContains (fromPortId toPortId relationshipType : Option String) : Bool :=
  (semanticPairings contract).any (fun pairing => valueString pairing "source" == fromPortId &&
    valueString pairing "target" == toPortId &&
    valueString pairing "relationshipType" == relationshipType)

def pairingAdmitsKinds (source target fromKind toKind : String) : Bool :=
  match (semanticPairings contract).find? (fun pairing =>
    valueString pairing "source" == some source && valueString pairing "target" == some target) with
  | none => false
  | some row =>
    let sourceKind := if fromKind == "branch-location" then "@branch-root" else fromKind
    (((row.get? "endpoints").bind Json.asArr?).getD []).any (fun pair =>
      let fromToken := (valueString pair "from").getD ""
      let toToken := (valueString pair "to").getD ""
      (fromToken == "*" || kindTokenAdmits fromToken sourceKind) &&
        (toToken == "*" || kindTokenAdmits toToken toKind))

def semanticWireMatchesContract (wire fromNode toNode : Json) : Bool :=
  match valueString wire "from_port_id", valueString wire "to_port_id",
    valueString wire "relationship_type" with
  | some fromPort, some toPort, some relationship =>
    sharedSemanticPairingContains contract (some fromPort) (some toPort) (some relationship) &&
      pairingAdmitsKinds contract fromPort toPort (nodeKindToken fromNode) (nodeKindToken toNode)
  | _, _, _ => false

end Table

def semanticKeys : List String := ["from_port_id", "to_port_id", "relationship_type"]

def hasSemanticFields (nodes wires : List Json) : Bool :=
  nodes.any (fun node => (node.get? "store_profile_id").isSome ||
      ((node.get? "metadata").bind (Json.get? "storeProfileId")).isSome) ||
    wires.any (fun wire => semanticKeys.any (fun key => (wire.get? key).isSome))

/-- The loop that fills `node_by_id`. -/
def duplicateNode (seen : List String) : List Json → Option TopologyError
  | [] => none
  | node :: rest =>
    match valueString node "id" with
    | none => duplicateNode seen rest
    | some id =>
      if seen.contains id then
        some ⟨"duplicate-node", some id, none, none, s!"two nodes share the id `{id}`"⟩
      else duplicateNode (id :: seen) rest

variable (nodes : List Json)

/-- `node_by_id.get`, where no id is listed twice. -/
def nodeById (id : String) : Option Json :=
  nodes.find? (fun node => valueString node "id" == some id)

variable (wire : Json)

def wireEnd (key : String) : Option Json :=
  (valueString wire key).bind (nodeById nodes)

def feedsOf (wires : List Json) (id relationship port : String) : List Json :=
  wires.filter (fun wire => valueString wire "to_node_id" == some id &&
    valueString wire "relationship_type" == some relationship &&
    valueString wire "to_port_id" == some port)

def ticketFault (wires : List Json) (node : Json) : Option TopologyError :=
  if valueString node "type" == some "hardware" then
    (valueString node "id").bind (fun deviceId =>
      let ticketFeeds := (feedsOf wires deviceId "ticket-routing" "ticket-in").length
      if 1 < ticketFeeds then
        some ⟨"multiple-ticket-inputs", some deviceId, none, some "ticket-in",
          s!"{ticketFeeds} ticket sources feed the device `{deviceId}`"⟩
      else none)
  else none

def isBranch (node : Json) : Bool :=
  [some "store", some "branch-location"].contains (valueString node "type")

def ambiguousLegacyWire : Bool :=
  if semanticKeys.any (fun key => (wire.get? key).isSome) then false
  else
    match wireEnd nodes wire "from_node_id", wireEnd nodes wire "to_node_id" with
    | some fromNode, some toNode =>
      let fromType := valueString fromNode "type"
      let toType := valueString toNode "type"
      !((isBranch fromNode && [some "workspace", some "warehouse"].contains toType) ||
        fromType == some "workspace" && (toType == some "warehouse" ||
          semanticTypeKey fromNode == restaurantPos && toType == some "workspace" &&
            semanticTypeKey toNode == kdsType ||
          semanticTypeKey fromNode == kdsType && toType == some "hardware"))
    | _, _ => false

def wireName : String := (valueString wire "id").getD "<unknown>"

def ambiguousFault : Option TopologyError :=
  if ambiguousLegacyWire nodes wire then
    some ⟨"ambiguous-legacy-wire", none, valueString wire "id", none,
      s!"legacy wire {wireName wire} has no deterministic semantic relationship; repair it in " ++
        "the topology editor"⟩
  else none

def identityFault (branch : Json) : Option TopologyError :=
  let branchId := (valueString branch "id").getD ""
  let profileId := ((valueString branch "store_profile_id").or ((branch.get? "metadata").bind
    (fun metadata => valueString metadata "storeProfileId"))).getD ""
  if branchId == "" || profileId == "" then
    some ⟨"branch-location-missing-identity", some branchId, none, none,
      "Branch Location requires a canonical store_profile_id"⟩
  else none

def idsOfType (type : String) : List String :=
  (nodes.filter (fun node => valueString node "type" == some type)).filterMap
    (fun node => valueString node "id")

/-- The branch's `location-out` feeds the `location-in` of a workspace or a warehouse. -/
def locates (branchId : String) (wire : Json) : Bool :=
  let toId := (valueString wire "to_node_id").getD ""
  valueString wire "from_node_id" == some branchId &&
    valueString wire "from_port_id" == some "location-out" &&
    valueString wire "to_port_id" == some "location-in" &&
    ((idsOfType nodes "workspace").contains toId || (idsOfType nodes "warehouse").contains toId)

def locationFault (nodes : List Json) (branchId : String) (seen : List (List (Option String))) :
    List Json → Option TopologyError
  | [] => none
  | wire :: rest =>
    let ends := ["from_node_id", "from_port_id", "to_node_id", "to_port_id"].map (valueString wire)
    if valueString wire "relationship_type" != some "location" then
      locationFault nodes branchId seen rest
    else if seen.contains ends then
      some ⟨"duplicate-wire", none, valueString wire "id", none,
        s!"duplicate semantic location wire: {wireName wire}"⟩
    else if locates nodes branchId wire then locationFault nodes branchId (ends :: seen) rest
    else
      some ⟨"invalid-location-connection", none, valueString wire "id", none,
        s!"invalid semantic location wire: {wireName wire}"⟩

/-- The search does not panic (`cycleLoop_eq`). -/
def cycleFault (keys : HashOrder) (nodes wires : List Json) : Option TopologyError :=
  (findDirectedCycleNode keys nodes wires).join.map (fun node =>
    ⟨"cycle-detected", some node, none, none,
      s!"topology contains a directed cycle involving node {node}"⟩)

/-- The wires that the contract pass leaves to the passes over their targets. -/
def isWorkspaceOperation (wire fromNode : Json) : Bool :=
  valueString wire "from_port_id" == some "operation-out" &&
    valueString wire "to_port_id" == some "operation-in" &&
    valueString wire "relationship_type" == some "generic" &&
    valueString fromNode "type" == some "workspace"

def purposeValid (purposeKey typeKey : String) : Bool :=
  purposeKey == "general" && [storePos, restaurantPos, kdsType, warehouseType].contains typeKey ||
    ["checkout", "returns"].contains purposeKey && typeKey == storePos ||
    purposeKey == "dining-room" && typeKey == restaurantPos ||
    purposeKey == "kitchen-hot-line" && typeKey == kdsType ||
    ["stock-control", "receiving"].contains purposeKey && typeKey == warehouseType

section Faults

variable (contract : Json) (nodes wires : List Json)

def connectionFault (wire : Json) : Option TopologyError :=
  if valueString wire "relationship_type" == some "location" then none
  else
    match wireEnd nodes wire "from_node_id", wireEnd nodes wire "to_node_id" with
    | some fromNode, some toNode =>
      if isWorkspaceOperation wire fromNode ||
          semanticWireMatchesContract contract wire fromNode toNode then none
      else
        some ⟨"invalid-semantic-connection", none, valueString wire "id",
          valueString wire "to_port_id",
          s!"wire {wireName wire} has an incompatible semantic connection"⟩
    | _, _ => none

def operationAdmitted (wire : Json) (source : Option Json) (toKind : String) : Bool :=
  valueString wire "from_port_id" == some "operation-out" && source.any (fun node =>
    pairingAdmitsKinds contract "operation-out" "operation-in" (nodeKindToken node) toKind)

def workspaceFault (workspaceId : String) : Option TopologyError :=
  let metadata := (nodeById nodes workspaceId).bind (Json.get? "metadata")
  let purposeKey := (metadata.bind (fun m => valueString m "purposeKey")).getD "general"
  let typeKey := (metadata.bind (fun m => valueString m "typeKey")).getD storePos
  let isKds := typeKey == kdsType
  let operationInputs := feedsOf wires workspaceId "generic" "operation-in"
  let incoming := if isKds then operationInputs.length
    else (feedsOf wires workspaceId "location" "location-in").length
  if !purposeValid purposeKey typeKey then
    some ⟨"invalid-purpose", some workspaceId, none, none, s!"workspace {workspaceId} has " ++
      s!"unsupported purpose_key {purposeKey} for type_key {typeKey}"⟩
  else if incoming ≠ 1 then
    some ⟨(if incoming = 0 then "missing-" else "multiple-") ++
        (if isKds then "operation-input" else "location-input") ++ (if incoming = 0 then "" else "s"),
      some workspaceId, none, some (if isKds then "operation-in" else "location-in"),
      s!"workspace {workspaceId} requires exactly one " ++
        (if isKds then "Operation In" else "Location In") ++ s!" connection, found {incoming}"⟩
  else if isKds then
    operationInputs.head?.bind (fun wire =>
      if operationAdmitted contract wire (nodes.find? (fun node =>
          valueString node "id" == valueString wire "from_node_id")) ("workspace:" ++ typeKey) then
        none
      else
        some ⟨"invalid-operation-source", some workspaceId, valueString wire "id",
          some "operation-in", s!"workspace {workspaceId} Operation In must receive " ++
            "operation-out from Restaurant POS"⟩)
  else none

def primaryFeeds (id relationship port : String) : List Json :=
  (feedsOf wires id relationship port).filter
    (fun wire => isWarehousePrimaryInputPort contract (valueString wire "to_port_id"))

def warehouseFault (warehouse : Json) : Option TopologyError :=
  let warehouseId := (valueString warehouse "id").getD ""
  let locationInputs := primaryFeeds contract wires warehouseId "location" "location-in"
  let operationInputs := primaryFeeds contract wires warehouseId "generic" "operation-in"
  let primaryCount := locationInputs.length + operationInputs.length
  if primaryCount = 0 then
    some ⟨"missing-warehouse-input", some warehouseId, none, some "location-in",
      s!"warehouse {warehouseId} requires one Location or Retail POS Operation connection"⟩
  else if 1 < primaryCount then
    let duplicate := operationInputs.head?.or locationInputs[1]?
    some ⟨"multiple-warehouse-inputs", some warehouseId,
      duplicate.bind (fun wire => valueString wire "id"),
      duplicate.bind (fun wire => valueString wire "to_port_id"),
      s!"warehouse {warehouseId} accepts only one primary Location or Retail POS Operation " ++
        "connection"⟩
  else operationInputs.findSome? (fun wire =>
    if operationAdmitted contract wire
        (nodeById nodes ((valueString wire "from_node_id").getD "")) "warehouse" then none
    else
      some ⟨"invalid-warehouse-operation-source", some warehouseId, valueString wire "id",
        some "operation-in",
        s!"warehouse {warehouseId} Operation In must receive operation-out from Retail POS"⟩)

def semanticFault (keys : HashOrder) : Option TopologyError :=
  match nodes.filter isBranch with
  | [] =>
    some ⟨"missing-branch-location", none, none, none,
      "semantic topology requires a Branch Location node"⟩
  | [branch] =>
    (identityFault branch).or <|
    (locationFault nodes ((valueString branch "id").getD "") [] wires).or <|
    (cycleFault keys nodes wires).or <|
    (wires.findSome? (connectionFault contract nodes)).or <|
    ((idsOfType nodes "workspace").findSome? (workspaceFault contract nodes wires)).or <|
    (nodes.filter (fun node => valueString node "type" == some "warehouse")).findSome?
      (warehouseFault contract nodes wires)
  | branches =>
    some ⟨"multiple-branch-locations", none, none, none,
      s!"semantic topology requires exactly one Branch Location, found {branches.length}"⟩

def validateSemanticJson (keys : HashOrder) : Except TopologyError Unit :=
  match (duplicateNode [] nodes).or <| (nodes.findSome? (ticketFault wires)).or <|
    (wires.findSome? (ambiguousFault nodes)).or <|
    if hasSemanticFields nodes wires then semanticFault contract nodes wires keys else none with
  | some e => .error e
  | none => .ok ()

end Faults

end OzPos
