import Wiring.Graph.Basic

/-!
# Graph — Targets

Where the edges of a graph lead, and when there is something at their ends.
-/

namespace Wiring

/-- What is numbered by position has its position as number. -/
theorem eq_of_map_eq_range {α : Type} {f : α → Nat} {l : List α} {i : Nat} {a : α}
    (numbers : l.map f = List.range l.length) (at_i : l[i]? = some a) : f a = i := by
  have number := congrArg (·[i]?) numbers
  obtain ⟨lt, -⟩ := List.getElem?_eq_some_iff.1 at_i
  simp only [List.getElem?_map, at_i, Option.map_some, List.getElem?_range lt] at number
  exact Option.some.inj number

theorem node?_eq_some_iff {target : Target} {id : NodeId} :
    target.node? = some id ↔ target = .node id := by
  cases target with
  | node => exact ⟨fun h => congrArg Target.node (Option.some.inj h), fun h => by cases h; rfl⟩
  | unresolved => exact ⟨nofun, nofun⟩

@[simp] theorem mem_filterMap_node {id : NodeId} {targets : List Target} :
    id ∈ targets.filterMap Target.node? ↔ .node id ∈ targets := by
  simp [List.mem_filterMap, node?_eq_some_iff]

/-- A target that is there. -/
def Target.IsIn (g : Graph) : Target → Prop
  | .node id => id < g.nodes.length
  | .unresolved id => id < g.unresolved.length

theorem Target.IsIn.mono {target : Target} {g g' : Graph} (h : target.IsIn g)
    (nodes : g.nodes <+: g'.nodes) (unresolved : g.unresolved <+: g'.unresolved) :
    target.IsIn g' := by
  cases target with
  | node => exact Nat.lt_of_lt_of_le h nodes.length_le
  | unresolved => exact Nat.lt_of_lt_of_le h unresolved.length_le

namespace Graph

variable {g : Graph} {id target : NodeId}

/-- In a graph that is numbered by position a node is found by its own number. -/
theorem id_of_node? {n : Node} (numbered : g.nodes.map (·.id) = List.range g.nodes.length)
    (node : g.node? id = some n) : n.id = id :=
  eq_of_map_eq_range (f := Node.id) numbered node

theorem mem_successors : target ∈ g.successors id ↔
    ∃ n d, g.node? id = some n ∧ d ∈ n.dependencies ∧ d.target = .node target := by
  unfold successors
  cases node : g.node? id with
  | none => simp
  | some n => simp [Node.targets, List.mem_filterMap, node?_eq_some_iff]

theorem mem_eagerSuccessors : target ∈ g.eagerSuccessors id ↔
    ∃ n d, g.node? id = some n ∧ d ∈ n.dependencies ∧ d.isDeferred = false ∧
      d.target = .node target := by
  unfold eagerSuccessors
  cases node : g.node? id with
  | none => simp
  | some n =>
    simp [Node.eagerTargets, List.mem_filterMap, List.mem_filter, node?_eq_some_iff, and_assoc]

/-- All edges lead to something. -/
def Whole (g : Graph) : Prop := ∀ n ∈ g.nodes, ∀ d ∈ n.dependencies, d.target.IsIn g

theorem Whole.successors_lt (h : g.Whole) (leads : target ∈ g.successors id) :
    target < g.nodes.length := by
  obtain ⟨n, d, node, edge, same⟩ := mem_successors.1 leads
  have isIn := h n (List.mem_of_getElem? node) d edge
  rw [same] at isIn
  exact isIn

/-- All edges to nodes lead to nodes that are there. -/
def InRange (g : Graph) : Prop := ∀ n ∈ g.nodes, ∀ target ∈ n.targets, target < g.nodes.length

instance : Decidable g.InRange :=
  inferInstanceAs (Decidable (∀ n ∈ g.nodes, ∀ target ∈ n.targets, target < g.nodes.length))

theorem Whole.inRange (h : g.Whole) : g.InRange := by
  intro n mem target leads
  rw [Node.targets, List.mem_filterMap] at leads
  obtain ⟨d, edge, same⟩ := leads
  have isIn := h n mem d edge
  rw [node?_eq_some_iff.1 same] at isIn
  exact isIn

theorem InRange.eagerSuccessors_lt (h : g.InRange) (leads : target ∈ g.eagerSuccessors id) :
    target < g.nodes.length := by
  obtain ⟨n, d, node, edge, -, same⟩ := mem_eagerSuccessors.1 leads
  refine h n (List.mem_of_getElem? node) target (List.mem_filterMap.2 ⟨d, edge, ?_⟩)
  exact node?_eq_some_iff.2 same

theorem successors_of_eagerSuccessors (leads : target ∈ g.eagerSuccessors id) :
    target ∈ g.successors id := by
  obtain ⟨n, d, node, edge, -, same⟩ := mem_eagerSuccessors.1 leads
  exact mem_successors.2 ⟨n, d, node, edge, same⟩

/-- Only a node that exists leads anywhere. -/
theorem lt_of_successors (leads : target ∈ g.successors id) : id < g.nodes.length := by
  obtain ⟨n, -, node, -⟩ := mem_successors.1 leads
  exact (List.getElem?_eq_some_iff.1 node).1

theorem lt_of_eagerSuccessors (leads : target ∈ g.eagerSuccessors id) : id < g.nodes.length :=
  lt_of_successors (successors_of_eagerSuccessors leads)

end Graph

end Wiring
