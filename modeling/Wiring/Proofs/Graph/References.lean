import Wiring.Graph.Cycles

/-!
# Graph — References

All that leads somewhere in a graph, and the entries for requests that nothing answered. An entry
tells of the reference that leads to it: who asked, and for what.
-/

namespace Wiring

/-- The entry tells of a dependency of a node, at a site. -/
structure Unanswered.OfDependency (u : Unanswered) (id : NodeId) (place : Site) : Prop where
  consumer : u.consumer = some id
  site : u.site = some place
  contract : u.contract = place.contract
  tag : u.tag = place.tag

/-- The entry tells of a root. -/
structure Unanswered.OfRoot (u : Unanswered) (root : Root) : Prop where
  consumer : u.consumer = none
  site : u.site = none
  contract : u.contract = root.contract
  tag : u.tag = root.tag

namespace Graph

/-- What the edges of some nodes lead to. -/
def edges (nodes : List Node) : List Target := nodes.flatMap fun n => n.dependencies.map (·.target)

@[simp] theorem edges_append (nodes nodes' : List Node) :
    edges (nodes ++ nodes') = edges nodes ++ edges nodes' := List.flatMap_append

@[simp] theorem edges_cons (n : Node) (nodes : List Node) :
    edges (n :: nodes) = n.dependencies.map (·.target) ++ edges nodes := List.flatMap_cons

/-- What the roots and the edges of a graph lead to. -/
def references (g : Graph) : List Target := g.roots.map (·.target) ++ edges g.nodes

/-- The entries are numbered, and tell of the references that lead to them. -/
structure Accounts (g : Graph) : Prop where
  ids : g.unresolved.map (·.id) = List.range g.unresolved.length
  dependencies : ∀ n ∈ g.nodes, ∀ d ∈ n.dependencies, ∀ i, d.target = .unresolved i →
    ∃ u, g.unresolved[i]? = some u ∧ u.OfDependency n.id d.site
  roots : ∀ e ∈ g.roots, ∀ i, e.target = .unresolved i →
    ∃ u, g.unresolved[i]? = some u ∧ u.OfRoot e.root

/-- Each entry is led to once, and nothing leads beyond the entries. -/
def LeadsOnce (g : Graph) : Prop :=
  ∀ i, g.references.count (.unresolved i) = (List.range g.unresolved.length).count i

theorem Accounts.empty : Graph.empty.Accounts where
  ids := rfl
  dependencies := fun _ mem => absurd mem List.not_mem_nil
  roots := fun _ mem => absurd mem List.not_mem_nil

theorem LeadsOnce.empty : Graph.empty.LeadsOnce := fun _ => rfl

variable {g : Graph}

theorem LeadsOnce.count_eq_one (h : g.LeadsOnce) {i : RequestId} {u : Unanswered}
    (entry : g.unresolved[i]? = some u) : g.references.count (.unresolved i) = 1 := by
  rw [h i, List.count_range, if_pos (List.getElem?_eq_some_iff.1 entry).1]

/-- The check reports each entry, in order. -/
theorem check_unresolved (g : Graph) :
    g.check.2.filter (·.kind = .unresolved) = g.unresolved.map g.unresolvedDiagnostic := by
  have cycles : (g.distinctCycles.map g.cycleDiagnostic).filter (·.kind = .unresolved) = [] := by
    refine List.filter_eq_nil_iff.2 fun d mem => ?_
    obtain ⟨_, -, rfl⟩ := List.mem_map.1 mem
    exact of_decide_eq_false rfl
  have entries : (g.unresolved.map g.unresolvedDiagnostic).filter (·.kind = .unresolved) =
      g.unresolved.map g.unresolvedDiagnostic := by
    refine List.filter_eq_self.2 fun d mem => ?_
    obtain ⟨_, -, rfl⟩ := List.mem_map.1 mem
    rfl
  rw [check, List.filter_append, cycles, entries, List.nil_append]

/-- The reports are on the entries, one after the other. -/
theorem Accounts.check_subjects (h : g.Accounts) :
    (g.check.2.filter (·.kind = .unresolved)).map (·.subject) =
      (List.range g.unresolved.length).map fun i => some (.unresolved i) := by
  rw [check_unresolved, ← h.ids, List.map_map, List.map_map]
  rfl

end Graph

end Wiring
