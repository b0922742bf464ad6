import OzPos.Kernel.Lifecycle

namespace OzPos

namespace Kernel

variable (k : Kernel)

def DependsOn (id dep : String) : Prop := dep ∈ k.dependenciesOf id

/-- Every declared dependency is a registered module. -/
def DependenciesKnown : Prop :=
  ∀ id ∈ k.moduleIds, ∀ dep ∈ k.dependenciesOf id, dep ∈ k.moduleIds

def DependenciesAcyclic : Prop := ∀ id, ¬ Relation.TransGen k.DependsOn id id

/-- Every module once, each after all its dependencies. -/
structure Sorted (k : Kernel) (order : List String) : Prop where
  perm : order.Perm k.moduleIds
  after : ∀ l id r, order = l ++ id :: r → ∀ dep ∈ k.dependenciesOf id, dep ∈ l

/-- The modules are ordered exactly when they can be. -/
structure OrdersModules (k : Kernel) (orders : HashOrders) : Prop where
  ok_iff : (∃ order, k.resolveDependencies orders = .ok order) ↔
    k.DependenciesKnown ∧ k.DependenciesAcyclic
  sorted : ∀ order, k.resolveDependencies orders = .ok order → k.Sorted order

variable (k : Kernel) (orders : HashOrders)

theorem missing_none_iff :
    (orders.modules.order k.moduleIds).findSome? k.missingDependency = none ↔
      k.DependenciesKnown := by
  rw [List.findSome?_eq_none_iff]
  unfold DependenciesKnown missingDependency
  constructor
  · intro h id hid dep hdep
    have hnone := h id ((orders.modules.perm _).mem_iff.mpr hid)
    rw [Option.map_eq_none_iff, List.find?_eq_none] at hnone
    simpa using hnone dep hdep
  · intro h id hid
    rw [Option.map_eq_none_iff, List.find?_eq_none]
    intro dep hdep
    simpa using h id ((orders.modules.perm _).mem_iff.mp hid) dep hdep

abbrev dependents : String → List String :=
  Kahn.dependents k.dependenciesOf (orders.graph.order k.moduleIds)

abbrev nodes : List String := orders.ids.order k.moduleIds

abbrev degree (id : String) : Nat := (k.dependenciesOf id).length

def sorting : Kahn.State String × List String :=
  Kahn.run (k.dependents orders) (k.nodes orders) k.degree

variable {k}

theorem nodes_nodup : (k.nodes orders).Nodup :=
  (orders.ids.perm _).nodup_iff.mpr k.modules.unique

theorem mem_nodes_iff (id : String) : id ∈ k.nodes orders ↔ id ∈ k.moduleIds :=
  (orders.ids.perm _).mem_iff

theorem bounded : Kahn.Bounded (k.dependents orders) (k.nodes orders) k.degree := by
  apply Kahn.bounded_dependents k.dependenciesOf (nodes_nodup orders)
  · exact (orders.graph.perm _).nodup_iff.mpr k.modules.unique
  · intro id
    rw [mem_nodes_iff, (orders.graph.perm _).mem_iff]

theorem sorting_inv : Kahn.Inv (k.dependents orders) (k.nodes orders) k.degree
    (k.sorting orders).1 (k.sorting orders).2 := (Kahn.run_inv (bounded orders)).1

theorem complete_iff_length :
    ¬ (k.sorting orders).2.length < (k.nodes orders).length ↔
      ∀ id ∈ k.moduleIds, id ∈ (k.sorting orders).2 := by
  rw [Nat.not_lt, (sorting_inv orders).complete_iff_length (nodes_nodup orders)]
  simp only [mem_nodes_iff]

theorem resolve_ok_iff {order : List String} :
    k.resolveDependencies orders = .ok order ↔
      k.DependenciesKnown ∧ (∀ id ∈ k.moduleIds, id ∈ (k.sorting orders).2) ∧
        order = (k.sorting orders).2 := by
  unfold resolveDependencies
  cases hempty : k.moduleIds.isEmpty with
  | true =>
    have hnil := List.isEmpty_iff.mp hempty
    have hsorted : (k.sorting orders).2 = [] := by
      apply List.eq_nil_iff_forall_not_mem.mpr
      intro id hid
      have hmem := (mem_nodes_iff orders id).mp ((sorting_inv orders).sorted_known id hid)
      rw [hnil] at hmem
      cases hmem
    simp [DependenciesKnown, hnil, hsorted, eq_comm]
  | false =>
    rw [← missing_none_iff k orders, ← complete_iff_length]
    simp only [hempty, Bool.false_eq_true, if_false, Kahn.sort_eq]
    cases hmissing : (orders.modules.order k.moduleIds).findSome? k.missingDependency with
    | some missing => simp
    | none =>
      unfold sorting
      by_cases hlength : (Kahn.run (k.dependents orders) (k.nodes orders) k.degree).2.length <
          (k.nodes orders).length
      · simp [hlength]
      · simp [hlength, eq_comm]

theorem edge_iff {dep id : String} :
    Kahn.Edge (k.dependents orders) (k.nodes orders) dep id ↔
      dep ∈ k.moduleIds ∧ id ∈ k.moduleIds ∧ k.DependsOn id dep := by
  unfold Kahn.Edge dependents Kahn.dependents DependsOn
  rw [mem_nodes_iff, List.mem_filter, (orders.graph.perm _).mem_iff, decide_eq_true_eq]

theorem mem_of_depends {id dep : String} (h : k.DependsOn id dep) : id ∈ k.moduleIds := by
  unfold DependsOn dependenciesOf at h
  cases hfound : k.modules.find? id with
  | none => simp [hfound] at h
  | some module =>
    obtain ⟨hrow, hid⟩ := (Table.find?_eq_some_iff _ _ _).mp hfound
    exact List.mem_map.mpr ⟨module, hrow, hid⟩

theorem acyclic_iff (hknown : k.DependenciesKnown) :
    (∀ id, ¬ Kahn.OnCycle (k.dependents orders) (k.nodes orders) id) ↔ k.DependenciesAcyclic := by
  have hedge : Kahn.Edge (k.dependents orders) (k.nodes orders) = Function.swap k.DependsOn := by
    funext dep id
    rw [eq_iff_iff, edge_iff]
    constructor
    · exact fun h => h.2.2
    · intro h
      have hid := mem_of_depends h
      exact ⟨hknown id hid dep h, hid, h⟩
  unfold Kahn.OnCycle DependenciesAcyclic
  rw [hedge]
  simp only [Relation.transGen_swap]

theorem sorted_of_ok {order : List String} (h : k.resolveDependencies orders = .ok order) :
    k.Sorted order := by
  obtain ⟨hknown, hall, rfl⟩ := (resolve_ok_iff orders).mp h
  have hinv := sorting_inv (k := k) orders
  constructor
  · apply (List.perm_ext_iff_of_nodup hinv.sorted_nodup
      (show k.moduleIds.Nodup from k.modules.unique)).mpr
    intro id
    exact ⟨fun hid => (mem_nodes_iff orders id).mp (hinv.sorted_known id hid), hall id⟩
  · intro l id r heq dep hdep
    have hid := mem_of_depends hdep
    exact hinv.ordered l id r heq dep ((edge_iff orders).mpr ⟨hknown id hid dep hdep, hid, hdep⟩)

theorem acyclic_of_ok {order : List String} (h : k.resolveDependencies orders = .ok order) :
    k.DependenciesAcyclic := by
  obtain ⟨hknown, hall, -⟩ := (resolve_ok_iff orders).mp h
  rw [← acyclic_iff orders hknown]
  intro id hcycle
  have hid : id ∈ k.nodes orders := by
    obtain ⟨dep, hedge, -⟩ := Relation.TransGen.head'_iff.mp hcycle
    exact hedge.1
  exact (sorting_inv orders).not_onCycle (hall id ((mem_nodes_iff orders id).mp hid)) hcycle

end Kernel

/-- The modules are ordered whenever they can be exactly if, where they can, none of them
declares a dependency twice. -/
theorem modules_ordered_iff (k : Kernel) (orders : HashOrders) :
    k.OrdersModules orders ↔
      (k.DependenciesKnown → k.DependenciesAcyclic →
        ∀ id ∈ k.moduleIds, (k.dependenciesOf id).Nodup) := by
  have hinv := Kernel.sorting_inv (k := k) orders
  have hexact : k.DependenciesKnown → ∀ id ∈ k.moduleIds,
      (Kahn.into (k.dependents orders) (k.nodes orders) id = (k.dependenciesOf id).length ↔
      (k.dependenciesOf id).Nodup) := by
    intro hknown id hid
    apply Kahn.into_dependents_eq_iff k.dependenciesOf (Kernel.nodes_nodup orders)
      ((orders.graph.perm _).nodup_iff.mpr k.modules.unique)
      ((orders.graph.perm _).mem_iff.mpr hid)
    intro dep hdep
    exact (Kernel.mem_nodes_iff orders dep).mpr (hknown id hid dep hdep)
  constructor
  · intro h hknown hacyclic id hid
    obtain ⟨order, hok⟩ := h.ok_iff.mpr ⟨hknown, hacyclic⟩
    obtain ⟨-, hall, -⟩ := (Kernel.resolve_ok_iff orders).mp hok
    -- a count above the edges that lead to the module never comes down to zero
    by_contra htwice
    have hnode := (Kernel.mem_nodes_iff orders id).mpr hid
    have hle := (Kernel.bounded (k := k) orders).enough id hnode
    have hne := fun heq => htwice ((hexact hknown id hid).mp heq)
    exact hinv.not_sorted hnode (Nat.lt_of_le_of_ne hle hne) (hall id hid)
  · intro h
    constructor
    · constructor
      · rintro ⟨order, hok⟩
        exact ⟨((Kernel.resolve_ok_iff orders).mp hok).1, Kernel.acyclic_of_ok orders hok⟩
      · rintro ⟨hknown, hacyclic⟩
        have hdegrees : ∀ id ∈ k.nodes orders,
            Kahn.into (k.dependents orders) (k.nodes orders) id = (k.dependenciesOf id).length := by
          intro id hid
          have hmem := (Kernel.mem_nodes_iff orders id).mp hid
          exact (hexact hknown id hmem).mpr (h hknown hacyclic id hmem)
        have hall := (Kahn.complete_iff (Kernel.bounded orders) hinv
          (Kahn.run_inv (Kernel.bounded orders)).2 hdegrees).mpr
            ((Kernel.acyclic_iff orders hknown).mpr hacyclic)
        refine ⟨_, (Kernel.resolve_ok_iff orders).mpr ⟨hknown, ?_, rfl⟩⟩
        intro id hid
        exact hall id ((Kernel.mem_nodes_iff orders id).mpr hid)
    · exact fun order hok => Kernel.sorted_of_ok orders hok

/-- A kernel whose maps yield their keys in the order of registration. -/
def asRegistered : HashOrders :=
  let order : HashOrder := ⟨id, fun _ => .refl _⟩
  ⟨order, order, order⟩

def taxNamedTwice : Kernel :=
  { Kernel.new with modules := ⟨[⟨"tax", []⟩, ⟨"sales", ["tax", "tax"]⟩], by decide⟩ }

theorem taxNamedTwice_unordered :
    taxNamedTwice.resolveDependencies asRegistered = .error (.circularDependency "sales") ∧
      ¬ taxNamedTwice.OrdersModules asRegistered := by
  have hfailed : taxNamedTwice.resolveDependencies asRegistered =
      .error (.circularDependency "sales") := by rfl
  have hdeps : ∀ id dep, taxNamedTwice.DependsOn id dep → id = "sales" ∧ dep = "tax" := by
    intro id dep h
    have hid : id ∈ ["tax", "sales"] := Kernel.mem_of_depends h
    simp only [List.mem_cons, List.not_mem_nil, or_false] at hid
    cases hid with
    | inl htax =>
      subst htax
      cases h
    | inr hsales =>
      subst hsales
      have hdep : dep ∈ ["tax", "tax"] := h
      exact ⟨rfl, by simpa using hdep⟩
  refine ⟨hfailed, ?_⟩
  intro h
  obtain ⟨order, hok⟩ := h.ok_iff.mpr (by
    constructor
    · intro id _ dep hdep
      obtain ⟨-, rfl⟩ := hdeps id dep hdep
      decide
    · intro id hcycle
      obtain ⟨dep, hfirst, -⟩ := Relation.TransGen.head'_iff.mp hcycle
      obtain ⟨dep', -, hlast⟩ := Relation.TransGen.tail'_iff.mp hcycle
      have hsales := (hdeps id dep hfirst).1
      have htax := (hdeps dep' id hlast).2
      rw [hsales] at htax
      exact absurd htax (by decide))
  rw [hfailed] at hok
  cases hok

end OzPos
