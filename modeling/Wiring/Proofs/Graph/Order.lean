import Wiring.Graph.Cycles
import Wiring.Proofs.Graph.Loops
import Wiring.Proofs.Graph.Targets

/-!
# Graph — Order

The check for cycles and the order of construction go through the same faults. Where all edges lead
to something, each fault is a cycle of edges that must be built at once, and without one the nodes
can be put in order. No report of a cycle or of an open request means that the graph is complete as
well.
-/

namespace Wiring.Graph

open Traversal

variable {g : Graph}

/-- No edges that must be built at once make a cycle. -/
def Acyclic (g : Graph) : Prop := ∀ nodes, ¬ IsCycle g.eagerSuccessors nodes

/-- The faults are loops, since nothing is missing, and each goes round a cycle. -/
theorem InRange.loop_of_fault (h : g.InRange) {f : Fault} (mem : f ∈ g.eagerTrace.faults) :
    ∃ nodes, f = .loop nodes ∧ IsCycle g.eagerSuccessors nodes := by
  cases f with
  | loop nodes => exact ⟨nodes, rfl, isCycle_of_loop mem⟩
  | missing v =>
    refine absurd mem (not_missing (fun v => List.mem_range.1) (fun u w leads => ?_) v)
    exact h.eagerSuccessors_lt leads

/-- Without a fault the nodes are in order, and no order goes round a cycle. -/
theorem InRange.faults_eq_nil_iff (h : g.InRange) : g.eagerTrace.faults = [] ↔ g.Acyclic := by
  constructor
  · intro none
    have ordered : Ordered g.eagerSuccessors g.eagerTrace.finished := trace_ordered none
    refine ordered.not_isCycle fun v w leads => ?_
    exact trace_perm.mem_iff.2 (List.mem_range.2 (lt_of_eagerSuccessors leads))
  · intro acyclic
    refine List.eq_nil_iff_forall_not_mem.2 fun f mem => ?_
    obtain ⟨nodes, -, isCycle⟩ := h.loop_of_fault mem
    exact acyclic nodes isCycle

/-- A cycle is found for each fault. -/
theorem InRange.faults_of_closedCycles (h : g.InRange) (none : g.closedCycles = []) :
    g.eagerTrace.faults = [] := by
  refine List.eq_nil_iff_forall_not_mem.2 fun f mem => ?_
  obtain ⟨loop, rfl, -⟩ := h.loop_of_fault mem
  have found : g.leastRotation loop ∈ g.closedCycles := List.mem_filterMap.2 ⟨_, mem, rfl⟩
  rw [none] at found
  nomatch found

theorem faults_of_closedCycles (h : g.Whole) (none : g.closedCycles = []) :
    g.eagerTrace.faults = [] :=
  h.inRange.faults_of_closedCycles none

/-- Leaving out cycles of the same names leaves out none of them all. -/
theorem closedCycles_of_distinct (none : g.distinctCycles = []) : g.closedCycles = [] := by
  unfold distinctCycles at none
  cases cycles : g.closedCycles with
  | nil => rfl
  | cons c more =>
    rw [cycles, distinctByName, if_neg List.not_mem_nil] at none
    nomatch none

/-- Every node after what it needs at once. -/
theorem topologicalOrder_ok (none : g.eagerTrace.faults = []) :
    ∃ order, g.topologicalOrder = .ok order ∧ order.Perm (List.range g.nodes.length) ∧
      Ordered g.eagerSuccessors order := by
  refine ⟨g.eagerTrace.finished, ?_, trace_perm, trace_ordered none⟩
  rw [topologicalOrder, none]

/-- There is an order of construction just when no edges that must be built at once make a cycle.
The order has every node once, after the nodes that it needs at once; and where there is none, the
error names the nodes along such edges from one node back to itself. -/
theorem topologicalOrder_decides_acyclic (g : Graph)
    (ids : g.nodes.map (·.id) = List.range g.nodes.length) (inRange : g.InRange) :
    ((∃ order, g.topologicalOrder = .ok order) ↔ g.Acyclic) ∧
    (∀ order, g.topologicalOrder = .ok order →
      order.Nodup ∧ order.Perm (g.nodes.map (·.id)) ∧
        ∀ n ∈ g.nodes, ∀ d ∈ n.dependencies, ∀ target, d.isDeferred = false →
          d.target = .node target → order.idxOf target < order.idxOf n.id) ∧
    (∀ e, g.topologicalOrder = .error e →
      ∃ first inner, (first :: inner ++ [first]).IsChain (fun v w => w ∈ g.eagerSuccessors v) ∧
        e = .cycleDetected ((first :: inner ++ [first]).map g.nameOf)) := by
  cases faults : g.eagerTrace.faults with
  | nil =>
    obtain ⟨order, ok, perm, ordered⟩ := topologicalOrder_ok faults
    rw [ok]
    refine ⟨⟨fun _ => inRange.faults_eq_nil_iff.1 faults, fun _ => ⟨order, rfl⟩⟩, ?_, nofun⟩
    rintro _ ⟨⟩
    refine ⟨perm.nodup_iff.2 List.nodup_range, ids ▸ perm, ?_⟩
    intro n mem d edge target now same
    obtain ⟨id, node⟩ := List.mem_iff_getElem?.1 mem
    have isId : n.id = id := eq_of_map_eq_range (f := Node.id) ids node
    have lt := (List.getElem?_eq_some_iff.1 node).1
    rw [isId]
    refine ordered id (perm.mem_iff.2 (List.mem_range.2 lt)) target ?_
    exact mem_eagerSuccessors.2 ⟨n, d, node, edge, now, same⟩
  | cons fault more =>
    obtain ⟨nodes, rfl, isCycle⟩ := inRange.loop_of_fault (faults ▸ List.mem_cons_self)
    have error : g.topologicalOrder = .error (.cycleDetected (g.closedNames nodes)) := by
      rw [topologicalOrder, faults]
    rw [error]
    refine ⟨⟨nofun, fun acyclic => absurd isCycle (acyclic nodes)⟩, nofun, ?_⟩
    rintro _ ⟨⟩
    obtain ⟨first, inner, rfl⟩ := List.exists_cons_of_ne_nil isCycle.ne_nil
    exact ⟨first, inner, isCycle.chain, by simp [closedNames]⟩

/-- Nodes of one type that each need another one, some of them only later. -/
def peers (needs : List (NodeId × Bool)) : Graph where
  nodes := needs.mapIdx fun id (target, isDeferred) =>
    { id := id
      contract := .named "IPeer" []
      tag := .untagged
      resultType := .named "IPeer" []
      source := .explicit 0
      kind := .factory "peer"
      lifetime := .transient
      scope := none
      owner := .resolve 0
      dependencies := [⟨.parameter "peer" (.named "IPeer" []), .node target, isDeferred⟩]
      isDisposable := false
      flags := .none }
  roots := []
  unresolved := []
  autoBindings := []

/-- Two peers can be made when one of them needs the other only later. -/
theorem topologicalOrder_decides_acyclic_peers :
    let g := peers [(1, false), (0, true)]
    g.nodes.map (·.id) = List.range g.nodes.length ∧ g.InRange ∧
      g.topologicalOrder = .ok [1, 0] ∧ g.Acyclic := by
  intro g
  have ids : g.nodes.map (·.id) = List.range g.nodes.length := by decide
  have inRange : g.InRange := by decide
  have ok : g.topologicalOrder = .ok [1, 0] := by cbv
  obtain ⟨iff, -, -⟩ := topologicalOrder_decides_acyclic g ids inRange
  exact ⟨ids, inRange, ok, iff.1 ⟨_, ok⟩⟩

theorem isComplete_of_unresolved (h : g.Whole) (none : g.unresolved = []) : g.isComplete := by
  have each (n : Node) (mem : n ∈ g.nodes) (d : Dependency) (edge : d ∈ n.dependencies) :
      ∃ id, d.target = .node id ∧ id < g.nodes.length := by
    have isIn := h n mem d edge
    cases same : d.target with
    | node id =>
      rw [same] at isIn
      exact ⟨id, rfl, isIn⟩
    | unresolved id =>
      rw [same, Target.IsIn, none] at isIn
      nomatch isIn
  rw [isComplete, none]
  simp only [List.isEmpty_nil, Bool.true_and, List.all_eq_true]
  intro n mem d edge
  obtain ⟨id, same, lt⟩ := each n mem d edge
  rw [same]
  exact Option.isSome_iff_exists.2 ⟨_, List.getElem?_eq_getElem lt⟩

theorem nil_of_no_errors {α : Type} {f : α → Diagnostic} {l : List α}
    (errors : ∀ a, (f a).isError) (h : hasErrors (l.map f) = false) : l = [] := by
  cases l with
  | nil => rfl
  | cons a l => simp [hasErrors, errors a] at h

/-- The check reports cycles and open requests as errors, and without any it changes nothing. -/
theorem check_of_no_errors (h : hasErrors g.check.2 = false) :
    g.closedCycles = [] ∧ g.unresolved = [] ∧ g.check.1 = g := by
  rw [check, hasErrors, List.any_append, Bool.or_eq_false_iff] at h
  have acyclic := closedCycles_of_distinct (nil_of_no_errors (fun _ => rfl) h.1)
  have answered := nil_of_no_errors (fun _ => rfl) h.2
  refine ⟨acyclic, answered, ?_⟩
  rw [check, acyclic]
  rfl

end Wiring.Graph
