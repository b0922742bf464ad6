import OzPos.Library.Kahn
import OzPos.Library.Run
import OzPos.Library.Table
import OzPos.Library.Trace

namespace OzPos

inductive ModuleStatus where
  | registered
  | loaded
  | started
  | stopped
  deriving DecidableEq

structure KernelModule where
  id : String
  dependencies : List String

inductive KernelError where
  | duplicateModule (id : String)
  | missingDependency (module dep : String)
  | circularDependency (unresolved : String)
  | lifecycleError (module operation source : String)
  | serviceError (service operation source : String)
  | noModulesRegistered
  | internal (message : String)

/-- What the kernel called, with how it went: the hooks, and the removal of a module's
event-bus handlers. -/
inductive Hook where
  | load (id : String) (ok : Bool)
  | start (id : String) (ok : Bool)
  | stop (id : String) (ok : Bool)
  | unsubscribe (id : String)
  | serviceStart (id : String) (ok : Bool)
  | serviceStop (id : String) (ok : Bool)
  deriving DecidableEq

/-- `log` has the newest call first. -/
structure Kernel where
  modules : Table String KernelModule KernelModule.id
  services : List String
  statuses : String → ModuleStatus
  (loaded started : Bool)
  startedServiceIds : List String
  log : List Hook

structure HashOrder where
  order : List String → List String
  perm : ∀ l, (order l).Perm l

/-- The orders of one resolution: of the modules, of their ids and of the graph. -/
structure HashOrders where
  (modules ids graph : HashOrder)

/-- How the hooks go in one call of the kernel; an error has a text. -/
structure HookResults where
  (onLoad onStart onStop serviceStart serviceStop : String → Option String)

namespace Kernel

def new : Kernel where
  modules := Table.empty
  services := []
  statuses := fun _ => .registered
  loaded := false
  started := false
  startedServiceIds := []
  log := []

variable (k : Kernel) (id : String) (status : ModuleStatus)

def setStatus : Kernel :=
  { k with statuses := Function.update k.statuses id status }

def record (hook : Hook) : Kernel := { k with log := hook :: k.log }

theorem statuses_setStatus (j : String) :
    (k.setStatus id status).statuses j = if j = id then status else k.statuses j :=
  Function.update_apply _ _ _ _

def register (module : KernelModule) : Kernel × Except KernelError Unit :=
  match k.modules.insert? module with
  | none => (k, .error (.duplicateModule module.id))
  | some modules => ({ k with modules := modules }.setStatus module.id .registered, .ok ())

def registerService : Kernel := { k with services := k.services ++ [id] }

def moduleIds : List String := k.modules.rows.map KernelModule.id

def dependenciesOf : List String :=
  ((k.modules.find? id).map KernelModule.dependencies).getD []

def missingDependency : Option (String × String) :=
  ((k.dependenciesOf id).find? (fun dep => !k.moduleIds.contains dep)).map (fun dep => (id, dep))

def resolveDependencies (orders : HashOrders) : Except KernelError (List String) :=
  let ids := k.moduleIds
  if ids.isEmpty then .ok []
  else
    match (orders.modules.order ids).findSome? k.missingDependency with
    | some (module, dep) => .error (.missingDependency module dep)
    | none =>
      let nodes := orders.ids.order ids
      let sorted := Kahn.sort k.dependenciesOf nodes (orders.graph.order ids)
      if sorted.length < nodes.length then
        .error (.circularDependency
          (", ".intercalate (nodes.filter (fun id => !sorted.contains id))))
      else .ok sorted

def notFound (id tail : String) : KernelError := .internal ("module '" ++ id ++ "' " ++ tail)

variable (r : HookResults)

/-- The loop of `load_all`; an error ends it. -/
def loadModules (r : HookResults) : Kernel → List String → Kernel × Option KernelError
  | k, [] => (k, none)
  | k, id :: order =>
    if k.statuses id = .loaded then loadModules r k order
    else if (k.modules.find? id).isNone then
      (k, some (notFound id "not found after dependency resolution"))
    else
      match r.onLoad id with
      | some source => (k.record (.load id false), some (.lifecycleError id "load" source))
      | none => loadModules r ((k.record (.load id true)).setStatus id .loaded) order

variable (orders : HashOrders)

def loadAll : Kernel × Except KernelError Unit :=
  if k.modules.rows.isEmpty then (k, .error .noModulesRegistered)
  else
    match k.resolveDependencies orders with
    | .error e => (k, .error e)
    | .ok order =>
      match loadModules r k order with
      | (k', some e) => (k', .error e)
      | (k', none) => ({ k' with loaded := true }, .ok ())

def statusName : ModuleStatus → String
  | .registered => "Registered"
  | .loaded => "Loaded"
  | .started => "Started"
  | .stopped => "Stopped"

def wrongState (expected : String) : KernelError :=
  .internal ("module '" ++ id ++ "' is in state " ++ statusName status ++ ", expected " ++ expected)

def startable : Bool := status = .loaded || status = .stopped

def startModules (r : HookResults) : Kernel → List String → Kernel × Option KernelError
  | k, [] => (k, none)
  | k, id :: order =>
    if (k.modules.find? id).isNone then (k, some (notFound id "not found during start"))
    else if !startable (k.statuses id) then
      (k, some (wrongState id (k.statuses id) "Loaded or Stopped"))
    else
      match r.onStart id with
      | some source => (k.record (.start id false), some (.lifecycleError id "start" source))
      | none => startModules r ((k.record (.start id true)).setStatus id .started) order

def startServices (r : HookResults) : Kernel → List String → Kernel × Option KernelError
  | k, [] => (k, none)
  | k, id :: services =>
    match r.serviceStart id with
    | some source => (k.record (.serviceStart id false), some (.serviceError id "start" source))
    | none =>
      startServices r
        { k.record (.serviceStart id true) with startedServiceIds := k.startedServiceIds ++ [id] }
        services

/-- What `start_all` does once the modules are loaded. -/
def startLoaded : Kernel × Except KernelError Unit :=
  match k.resolveDependencies orders with
  | .error e => (k, .error e)
  | .ok order =>
    match startModules r k order with
    | (k', some e) => (k', .error e)
    | (k', none) =>
      match startServices r { k' with startedServiceIds := [] } k'.services with
      | (k'', some e) => (k'', .error e)
      | (k'', none) => ({ k'' with started := true }, .ok ())

/-- The two resolutions of one call may order the ids differently. -/
def startAll (loading starting : HashOrders) : Kernel × Except KernelError Unit :=
  if k.loaded then k.startLoaded r starting
  else
    match k.loadAll r loading with
    | (k', .error e) => (k', .error e)
    | (k', .ok ()) => k'.startLoaded r starting

/-- The services in reverse order, those only that had started; the first error is kept. -/
def stopServices (r : HookResults) : Kernel → List String → Kernel × Option KernelError
  | k, [] => (k, none)
  | k, id :: services =>
    if !k.startedServiceIds.contains id then stopServices r k services
    else
      match r.serviceStop id with
      | some source =>
        let rest := stopServices r (k.record (.serviceStop id false)) services
        (rest.1, some (.serviceError id "stop" source))
      | none => stopServices r (k.record (.serviceStop id true)) services

def stopModules (r : HookResults) : Kernel → List String → Kernel × Option KernelError
  | k, [] => (k, none)
  | k, id :: order =>
    match r.onStop id with
    | some source =>
      let rest := stopModules r ((k.record (.stop id false)).record (.unsubscribe id)) order
      (rest.1, some (.lifecycleError id "stop" source))
    | none => stopModules r ((k.record (.stop id true)).record (.unsubscribe id)) order

def settle : ModuleStatus :=
  if status = .started || status = .loaded then .stopped else status

def toResult : Option KernelError → Except KernelError Unit
  | none => .ok ()
  | some e => .error e

def stopAll : Kernel × Except KernelError Unit :=
  let services := stopServices r k k.services.reverse
  let resolved := services.1.resolveDependencies orders
  let order :=
    match resolved with
    | .ok order => order.reverse
    | .error _ => orders.modules.order services.1.moduleIds
  let unresolved :=
    match resolved with
    | .ok _ => none
    | .error e => some e
  let modules := stopModules r services.1 order
  ({ modules.1 with
      statuses := fun id => settle (modules.1.statuses id)
      loaded := false
      started := false
      startedServiceIds := [] },
    toResult ((services.2.or unresolved).or modules.2))

def startModule (id : String) : Kernel × Except KernelError Unit :=
  if (k.modules.find? id).isNone then (k, .error (notFound id "is not registered"))
  else if !startable (k.statuses id) then
    (k, .error (wrongState id (k.statuses id) "Loaded or Stopped"))
  else
    let reload := if k.statuses id = .stopped then r.onLoad id else none
    let k' :=
      if k.statuses id = .stopped then k.record (.load id (r.onLoad id).isNone) else k
    match reload with
    | some source => (k', .error (.lifecycleError id "load" source))
    | none =>
      match r.onStart id with
      | some source => (k'.record (.start id false), .error (.lifecycleError id "start" source))
      | none => ((k'.record (.start id true)).setStatus id .started, .ok ())

def stopModule (id : String) : Kernel × Except KernelError Unit :=
  if (k.modules.find? id).isNone then (k, .error (notFound id "is not registered"))
  else if k.statuses id ≠ .started then (k, .error (wrongState id (k.statuses id) "Started"))
  else
    match r.onStop id with
    | some source => (k.record (.stop id false), .error (.lifecycleError id "stop" source))
    | none =>
      (((k.record (.stop id true)).record (.unsubscribe id)).setStatus id .stopped, .ok ())

end Kernel

inductive KernelCall where
  | register (module : KernelModule)
  | registerService (id : String)
  | loadAll (r : HookResults) (orders : HashOrders)
  | startAll (r : HookResults) (loading starting : HashOrders)
  | stopAll (r : HookResults) (orders : HashOrders)
  | startModule (r : HookResults) (id : String)
  | stopModule (r : HookResults) (id : String)

def kernelStep (k : Kernel) : KernelCall → Kernel × Except KernelError Unit
  | .register module => k.register module
  | .registerService id => (k.registerService id, .ok ())
  | .loadAll r orders => k.loadAll r orders
  | .startAll r loading starting => k.startAll r loading starting
  | .stopAll r orders => k.stopAll r orders
  | .startModule r id => k.startModule r id
  | .stopModule r id => k.stopModule r id

def kernelMachine : Machine Kernel KernelCall (Except KernelError Unit) := ⟨kernelStep⟩

end OzPos
