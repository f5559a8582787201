import Wiring.Graph.Capture
import Wiring.Proofs.Graph.Targets
import Wiring.Proofs.Graph.Traversal

/-!
# Graph — Capture

The search for captured instances misses nothing that a shared node holds. So where no conflict is
reported, a node that lives with the composition holds no shared node that does not.
-/

namespace Wiring

theorem Lifetime.isShared_of_composition {lifetime : Lifetime}
    (long : lifetime.livesWithComposition) : lifetime.isShared := by
  cases lifetime <;> first | rfl | contradiction

theorem Lifetime.captures_of_composition {lifetime dependency : Lifetime}
    (long : lifetime.livesWithComposition) (shared : dependency.isShared)
    (short : dependency.livesWithComposition = false) : lifetime.captures dependency := by
  cases lifetime <;> cases dependency <;> first | rfl | contradiction

namespace Graph

open Traversal

variable {g : Graph} {options : Options} {consumer n : Node} {id target : NodeId}

/-- What a node reaches, itself left out, through nodes that are not shared. -/
def held (g : Graph) (consumer : Node) : List NodeId :=
  (trace g.nodes.length g.heldSuccessors consumer.targets).finished

/-- No conflict is reported. -/
def NoConflict (g : Graph) (options : Options) : Prop :=
  ∀ d ∈ g.validateLifetimes options, d.kind ≠ .lifetimeConflict

theorem mem_heldShared : id ∈ g.heldShared consumer ↔ id ∈ g.held consumer ∧ g.isSharedNode id := by
  rw [heldShared, List.mem_mergeSort, List.mem_filter, held]

theorem held_of_target (leads : target ∈ consumer.targets) (lt : target < g.nodes.length) :
    target ∈ g.held consumer :=
  mem_trace leads lt

/-- The search goes on behind a node that is neither shared nor a factory. -/
theorem held_of_held (mem : id ∈ g.held consumer) (node : g.node? id = some n)
    (unshared : n.lifetime.isShared = false) (direct : n.kind ≠ .func)
    (leads : target ∈ g.successors id) (lt : target < g.nodes.length) :
    target ∈ g.held consumer := by
  refine trace_closed mem ?_ lt
  rw [successors, node] at leads
  simp only [heldSuccessors, node, unshared, direct]
  exact leads

/-- What a shared node holds without a conflict is shared as widely. -/
theorem NoConflict.not_captures (h : g.NoConflict options) (mem : consumer ∈ g.nodes)
    (shared : consumer.lifetime.isShared) (held : id ∈ g.held consumer)
    (node : g.node? id = some n) (shared' : n.lifetime.isShared) :
    consumer.lifetime.captures n.lifetime = false := by
  by_contra captured
  have found : n ∈ g.capturedBy consumer := by
    rw [capturedBy, if_pos shared, List.mem_filter, List.mem_filterMap]
    refine ⟨⟨id, mem_heldShared.2 ⟨held, ?_⟩, node⟩, by simpa using captured⟩
    simpa [isSharedNode, node] using shared'
  refine h (captureDiagnostic options consumer n) (List.mem_flatMap.2 ⟨consumer, mem, ?_⟩) rfl
  exact List.mem_map_of_mem found

/-- A node that lives with the composition holds no shorter one. -/
theorem NoConflict.livesWithComposition (h : g.NoConflict options) (mem : consumer ∈ g.nodes)
    (long : consumer.lifetime.livesWithComposition) (held : id ∈ g.held consumer)
    (node : g.node? id = some n) (shared : n.lifetime.isShared) :
    n.lifetime.livesWithComposition := by
  by_contra short
  have captures := Lifetime.captures_of_composition long shared (by simpa using short)
  rw [h.not_captures mem (Lifetime.isShared_of_composition long) held node shared] at captures
  nomatch captures

end Graph

end Wiring
