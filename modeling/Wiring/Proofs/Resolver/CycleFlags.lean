import Wiring.Proofs.Graph.Cycles
import Wiring.Proofs.Graph.FirstPath
import Wiring.Proofs.Resolver.Validity

/-!
# Resolver — CycleFlags

Which nodes the check flags as cyclic. No node is flagged when a graph is built, and the check flags
the nodes of the loops that its traversal closes. Each of them is on a cycle; but a node on a cycle
is left out when the traversal comes to the rest of the cycle by another way first.
-/

namespace Wiring

namespace Graph

open Traversal

variable {g : Graph} {id : NodeId}

/-- An edge that must be built at once leads from the end of a first path back to a node on it, and
the path goes through the given node from there on. First paths start from the nodes in order. -/
def OnFirstLoop (g : Graph) (id : NodeId) : Prop :=
  Traversal.OnFirstLoop g.eagerSuccessors (List.range g.nodes.length) id

theorem InRange.ways_lt (h : g.InRange) (path : List NodeId) :
    ∀ w ∈ ways g.eagerSuccessors (List.range g.nodes.length) path, w < g.nodes.length :=
  Traversal.ways_lt (fun _ => List.mem_range.1) (fun _ _ => h.eagerSuccessors_lt) path

/-- The nodes of the cycles that are closed are those of the loops of the traversal. -/
theorem InRange.mem_closedCycles_iff (h : g.InRange) :
    id ∈ g.closedCycles.flatten ↔ g.OnFirstLoop id := by
  rw [OnFirstLoop, ← mem_loop_iff h.ways_lt, List.mem_flatten]
  constructor
  · rintro ⟨_, closed, mem⟩
    obtain ⟨loop, noted, rfl⟩ := mem_closedCycles.1 closed
    exact ⟨loop, noted, (leastRotation_spec g loop).1.mem_iff.2 mem⟩
  · rintro ⟨loop, noted, mem⟩
    exact ⟨_, mem_closedCycles.2 ⟨loop, noted, rfl⟩, (leastRotation_spec g loop).1.mem_iff.1 mem⟩

/-- A node that was not flagged before is flagged when it is on a loop of the traversal. -/
theorem InRange.checked_cyclic_iff (h : g.InRange)
    (unflagged : ∀ n ∈ g.nodes, n.flags.cyclic = false) {n : Node}
    (node : g.check.1.node? id = some n) : n.flags.cyclic ↔ g.OnFirstLoop id := by
  rw [check, foldl_markCyclic, node?, List.getElem?_mapIdx] at node
  obtain ⟨n, old, rfl⟩ := Option.map_eq_some_iff.1 node
  rw [← h.mem_closedCycles_iff]
  split
  · next closed => exact iff_of_true rfl closed
  · next others =>
    rw [unflagged n (List.mem_of_getElem? old)]
    exact iff_of_false Bool.false_ne_true others

end Graph

namespace Resolver

variable {r : Resolver}

theorem Closed.not_cyclic {births : List Birth} {b : Birth} {n : Node}
    (h : Closed r births b n) : n.flags.cyclic = false := by
  cases h with
  | intro opened => cases opened <;> rfl

/-- No node is flagged before the check. -/
theorem build_not_cyclic (r : Resolver) (found : List Diagnostic) (roots : List Root) :
    ∀ n ∈ (r.build found roots).1.nodes, n.flags.cyclic = false := by
  intro n mem
  obtain ⟨births, b, closed⟩ := build_closed r found roots n mem
  exact closed.not_cyclic

/-- In a graph that is built, the check flags the nodes on loops of first paths. So the flag of a
node tells whether it is on a cycle just when the node is on such a loop or on no cycle at all. -/
theorem build_cyclic_iff (r : Resolver) (found : List Diagnostic) (roots : List Root) :
    let g := (r.build found roots).1
    ∀ id n, g.check.1.node? id = some n →
      (n.flags.cyclic ↔ g.OnFirstLoop id) ∧
      ((n.flags.cyclic ↔ g.OnCycle id) ↔ (g.OnCycle id → g.OnFirstLoop id)) := by
  intro g id n node
  have inRange : g.InRange := (build_whole r found roots).1.inRange
  have flagged := inRange.checked_cyclic_iff (build_not_cyclic r found roots) node
  have onCycle : g.OnFirstLoop id → g.OnCycle id :=
    fun loop => Graph.onCycle_of_closed (inRange.mem_closedCycles_iff.2 loop)
  refine ⟨flagged, ?_⟩
  rw [flagged]
  exact ⟨fun same => same.2, fun covered => ⟨onCycle, covered⟩⟩

/-! ## A detour

The first node needs the second and the third, the third needs the second as well, and the second
needs the first. The traversal comes to the second node from the first, and so it is done with the
second when it comes to the third.
-/

def ofParts (name : String) (parts : List String) : Descriptor :=
  { Descriptor.concrete (.named name []) with
    constructors := [⟨true, none, parts.map fun part => .parameter part (.named part [])⟩] }

def detour : Resolver where
  registry := ((Registry.empty ⟨[ofParts "A" ["B", "C"], ofParts "B" ["A"], ofParts "C" ["B"]]⟩
    .structural).registerAll [
      .ofType (.named "A" []) (.named "A" []),
      { Binding.ofType (.named "B" []) (.named "B" []) with lifetime := .singleton },
      .ofType (.named "C" []) (.named "C" [])]).1
  options := { Options.standard with maxDepth := 3 }
  accumulators := []
  autoBinds := false
  filter := none

abbrev detourGraph : Graph := (detour.build [] [.untagged "main" (.named "A" [])]).1

theorem detourGraph_facts :
    detourGraph.eagerSuccessors 0 = [1, 2] ∧ detourGraph.eagerSuccessors 1 = [0] ∧
      detourGraph.eagerSuccessors 2 = [1] ∧
      (detourGraph.check.1.node? 0).map (·.flags.cyclic) = some true ∧
      (detourGraph.check.1.node? 2).map (·.flags.cyclic) = some false := by cbv

theorem build_cyclic_iff_detour :
    ∃ n n', detourGraph.check.1.node? 0 = some n ∧ detourGraph.check.1.node? 2 = some n' ∧
      detourGraph.OnFirstLoop 0 ∧ ¬ detourGraph.OnFirstLoop 2 := by
  obtain ⟨-, -, -, flagged, unflagged⟩ := detourGraph_facts
  obtain ⟨n, node, cyclic⟩ := Option.map_eq_some_iff.1 flagged
  obtain ⟨n', node', free⟩ := Option.map_eq_some_iff.1 unflagged
  have first := (build_cyclic_iff detour [] [.untagged "main" (.named "A" [])] 0 n node).1
  have third := (build_cyclic_iff detour [] [.untagged "main" (.named "A" [])] 2 n' node').1
  refine ⟨n, n', node, node', first.1 cyclic, fun loop => ?_⟩
  exact Bool.false_ne_true (free.symm.trans (third.2 loop))

/-- The third node is on the cycle through all three, but it is not flagged. -/
theorem detour_unflagged : ¬ ∀ id n, detourGraph.check.1.node? id = some n →
    (n.flags.cyclic ↔ detourGraph.OnCycle id) := by
  intro claim
  obtain ⟨first, second, third, -, unflagged⟩ := detourGraph_facts
  obtain ⟨n, node, free⟩ := Option.map_eq_some_iff.1 unflagged
  have around : Traversal.IsCycle detourGraph.eagerSuccessors [2, 1, 0] :=
    ⟨List.cons_ne_nil _ _, by decide, by simp [first, second, third]⟩
  have cyclic := (claim 2 n node).2 ⟨_, around, List.mem_cons_self⟩
  exact Bool.false_ne_true (free.symm.trans cyclic)

end Resolver

end Wiring
