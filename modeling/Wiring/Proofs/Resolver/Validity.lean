import Mathlib
import Wiring.Proofs.Graph.Order
import Wiring.Proofs.Resolver.Chain
import Wiring.Resolver.Resolved

/-!
# Resolver — Validity

A resolution without errors can be carried out: nothing in the graph is left open, every root has a
node, and the nodes can be built one after the other.
-/

namespace Wiring

namespace Resolver

/-- What a graph that is built always has: edges that lead to something, those of its roots
included, and nodes that know their positions. -/
theorem build_whole (r : Resolver) (found : List Diagnostic) (roots : List Root) :
    let g := (r.build found roots).1
    g.Whole ∧ (∀ e ∈ g.roots, e.target.IsIn g) ∧
      g.nodes.map (·.id) = List.range g.nodes.length := by
  obtain ⟨births, s, h, eq⟩ := build_history (r := r) found roots
  rw [eq]
  refine ⟨h.records.whole, fun e mem => ?_, ?_⟩
  · obtain ⟨i, edge⟩ := List.mem_iff_getElem?.1 mem
    obtain ⟨root, -, answer⟩ := h.root_answer edge
    exact answer.isIn
  · have faces := congrArg (List.map Node.id) h.records.faces
    rw [List.map_map, List.map_map] at faces
    exact faces.trans (h.length_eq ▸ h.records.ids)

/-- The roots of a graph that is built are the ones that were asked for. -/
theorem build_roots (r : Resolver) (found : List Diagnostic) (roots : List Root) :
    (r.build found roots).1.roots.map (·.root) = roots := by
  obtain ⟨births, s, h, eq⟩ := build_history (r := r) found roots
  have asked : roots.zipIdx.map Prod.fst = s.graph.roots.map (·.root) := by
    rw [← List.forall₂_eq_eq_eq, List.forall₂_map_left_iff, List.forall₂_map_right_iff]
    exact h.edges.imp fun _ _ edge => edge.asked.symm
  rw [eq, ← asked, List.zipIdx_map_fst]

/-- Every node of a graph that is built was opened for a request and closed with its answers. -/
theorem build_closed (r : Resolver) (found : List Diagnostic) (roots : List Root) :
    ∀ n ∈ (r.build found roots).1.nodes, ∃ births b, Closed r births b n := by
  obtain ⟨births, s, h, eq⟩ := build_history (r := r) found roots
  intro n mem
  obtain ⟨id, node⟩ := List.mem_iff_getElem?.1 (eq ▸ mem)
  obtain ⟨b, -, closed⟩ := h.birth node
  exact ⟨births, b, closed⟩

end Resolver

namespace Resolved

/-- The graph before it is checked. -/
def built (reader : PatternReader) (registry : Registry) (options : Options) (roots : List Root)
    (accumulators : List Accumulator) : Graph :=
  ((Resolver.ofOptions reader registry options accumulators).1.build
    (Resolver.ofOptions reader registry options accumulators).2 roots).1

variable {reader : PatternReader} {registry : Registry} {options : Options} {roots : List Root}
  {accumulators : List Accumulator}

theorem check_mem_diagnostics {d : Diagnostic}
    (mem : d ∈ (built reader registry options roots accumulators).check.2) :
    d ∈ (ofRoots reader registry options roots accumulators .standard).diagnostics :=
  List.mem_append_right _ mem

/-- Without errors the check finds nothing, and leaves the graph as it was built. -/
theorem checked_of_isValid
    (valid : (ofRoots reader registry options roots accumulators .standard).isValid) :
    let g := built reader registry options roots accumulators
    g.closedCycles = [] ∧ g.unresolved = [] ∧
      (ofRoots reader registry options roots accumulators .standard).graph = g := by
  refine Graph.check_of_no_errors ?_
  rw [isValid, Bool.not_eq_true', hasErrors, List.any_eq_false] at valid
  rw [hasErrors, List.any_eq_false]
  exact fun d mem => valid d (check_mem_diagnostics mem)

/-- A resolution without errors is complete, answers each of its roots with a node, and can be built
in order. -/
theorem valid_resolution (reader : PatternReader) (registry : Registry) (options : Options)
    (roots : List Root) (accumulators : List Accumulator)
    (valid : (ofRoots reader registry options roots accumulators .standard).isValid) :
    let g := (ofRoots reader registry options roots accumulators .standard).graph
    g.isComplete ∧ g.roots.map (·.root) = roots ∧
      (∀ e ∈ g.roots, ∃ id n, e.target = .node id ∧ g.node? id = some n) ∧
      ∃ order, g.topologicalOrder = .ok order ∧ order.Perm (g.nodes.map (·.id)) ∧
        ∀ id n d target, g.node? id = some n → d ∈ n.dependencies → d.isDeferred = false →
          d.target = .node target → order.idxOf target < order.idxOf id := by
  obtain ⟨acyclic, answered, same⟩ := checked_of_isValid valid
  obtain ⟨whole, rooted, ids⟩ := Resolver.build_whole
    (Resolver.ofOptions reader registry options accumulators).1
    (Resolver.ofOptions reader registry options accumulators).2 roots
  rw [same]
  obtain ⟨order, ok, perm, ordered⟩ :=
    Graph.topologicalOrder_ok (Graph.faults_of_closedCycles whole acyclic)
  refine ⟨Graph.isComplete_of_unresolved whole answered, Resolver.build_roots _ _ roots, ?_, order,
    ok, ?_, ?_⟩
  · intro e mem
    have isIn := rooted e mem
    cases target : e.target with
    | node id =>
      rw [target] at isIn
      exact ⟨id, _, rfl, List.getElem?_eq_getElem isIn⟩
    | unresolved id =>
      rw [target, Target.IsIn] at isIn
      exact absurd isIn (by rw [← built, answered]; exact Nat.not_lt_zero id)
  · exact ids ▸ perm
  · intro id n d target node edge now eq
    have lt : id < (built reader registry options roots accumulators).nodes.length :=
      (List.getElem?_eq_some_iff.1 node).1
    refine ordered id (perm.mem_iff.2 (List.mem_range.2 lt)) target ?_
    exact Graph.mem_eagerSuccessors.2 ⟨n, d, node, edge, now, eq⟩

/-- Patterns without special characters fit the texts that they occur in. -/
def literalReader : PatternReader := fun pattern =>
  .ok fun text => pattern.toList <:+: text.toList

/-- A root asks for a whole, and the whole for a part. -/
def assembly : Resolved :=
  ofRoots literalReader ((Registry.empty .empty .structural).registerAll
      [.plain (.named "IPart" []) (.factory "part" []),
        .plain (.named "IWhole" []) (.factory "whole" [.parameter "part" (.named "IPart" [])])]).1
    .standard [.untagged "main" (.named "IWhole" [])] [] .standard

theorem assembly_valid : assembly.isValid := by cbv

theorem valid_resolution_assembly :
    assembly.isValid ∧ assembly.graph.isComplete ∧
      assembly.graph.roots.map (·.root) = [.untagged "main" (.named "IWhole" [])] ∧
      ∃ order, assembly.graph.topologicalOrder = .ok order ∧
        order.Perm (assembly.graph.nodes.map (·.id)) := by
  obtain ⟨complete, roots, -, order, ok, perm, -⟩ := valid_resolution _ _ _ _ _ assembly_valid
  exact ⟨assembly_valid, complete, roots, order, ok, perm⟩

end Resolved

end Wiring
