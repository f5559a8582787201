import Mathlib
import Wiring.Proofs.Graph.Lifetimes

/-!
# Graph — Conflicts

The check of lifetimes reports each conflict once: a pair of shared nodes, one of which captures the
other and holds it by way of nodes that are neither shared nor factories. The reports are in the
order of the two nodes.
-/

namespace Wiring.Graph

variable {g : Graph} {options : Options} {c d : Node} {id : NodeId}

/-- A shared node captures another one that it holds. -/
structure Conflict (g : Graph) (c d : Node) : Prop where
  consumer : c ∈ g.nodes
  dependency : d ∈ g.nodes
  consumer_shared : c.lifetime.isShared
  dependency_shared : d.lifetime.isShared
  captures : c.lifetime.captures d.lifetime
  held : ∃ inner, g.HeldPath c.id inner d.id

/-- The pairs that are reported, as they are found. -/
def conflicts (g : Graph) : List (Node × Node) :=
  g.nodes.flatMap fun c => (g.capturedBy c).map (c, ·)

/-! ## Reports -/

theorem validateLifetimes_eq (g : Graph) (options : Options) :
    g.validateLifetimes options =
      g.conflicts.map fun (c, d) => captureDiagnostic options c d := by
  rw [validateLifetimes, conflicts, List.map_flatMap]
  simp only [List.map_map, Function.comp_def]

theorem mem_capturedBy_iff : d ∈ g.capturedBy c ↔
    c.lifetime.isShared ∧ c.lifetime.captures d.lifetime ∧
      ∃ id, g.node? id = some d ∧ id ∈ g.held c ∧ d.lifetime.isShared := by
  rw [capturedBy]
  split
  · next shared =>
    simp only [List.mem_filter, List.mem_filterMap, mem_heldShared, shared, true_and]
    constructor
    · rintro ⟨⟨id, ⟨held, shared'⟩, node⟩, captures⟩
      rw [isSharedNode, node] at shared'
      exact ⟨captures, id, node, held, shared'⟩
    · rintro ⟨captures, id, node, held, shared'⟩
      exact ⟨⟨id, ⟨held, by rwa [isSharedNode, node]⟩, node⟩, captures⟩
  · next unshared => simp [unshared]

theorem heldShared_ascending (g : Graph) (c : Node) : (g.heldShared c).Pairwise (· < ·) := by
  have sorted : (g.heldShared c).SortedLE :=
    (List.pairwise_mergeSort' (· ≤ ·) _).sortedLE
  -- A search passes nothing twice, so nothing is sorted next to itself.
  have nodup : (g.heldShared c).Nodup := by
    rw [heldShared, (List.mergeSort_perm ..).nodup_iff]
    exact (Traversal.trace_visited _).visiting.nodup.filter _
  exact (sorted.sortedLT_of_nodup nodup).pairwise

section Numbered

variable (numbered : g.nodes.map (·.id) = List.range g.nodes.length)

include numbered

theorem node?_of_mem (mem : d ∈ g.nodes) : g.node? d.id = some d := by
  obtain ⟨id, node⟩ := List.mem_iff_getElem?.1 mem
  rwa [id_of_node? numbered node]

/-- What a node captures is listed by number, as it was found. -/
theorem capturedBy_ascending (c : Node) : (g.capturedBy c).Pairwise (·.id < ·.id) := by
  rw [capturedBy]
  split
  · refine List.Pairwise.filter _ (List.pairwise_filterMap.2 ?_)
    refine (heldShared_ascending g c).imp fun lt d node d' node' => ?_
    rwa [id_of_node? numbered node, id_of_node? numbered node']
  · exact .nil

theorem conflicts_ascending :
    g.conflicts.Pairwise fun p q =>
      Prod.Lex (· < ·) (· < ·) (p.1.id, p.2.id) (q.1.id, q.2.id) := by
  have nodes : g.nodes.Pairwise (·.id < ·.id) := by
    rw [← List.pairwise_map (f := Node.id), numbered]
    exact List.pairwise_lt_range
  rw [conflicts, List.pairwise_flatMap]
  -- What one node captures goes by the second number, what two nodes do by the first.
  constructor
  · intro c _
    rw [List.pairwise_map]
    exact (capturedBy_ascending numbered c).imp fun lt => .right _ lt
  · refine nodes.imp fun {c c'} lt p mem q mem' => ?_
    obtain ⟨d, -, rfl⟩ := List.mem_map.1 mem
    obtain ⟨d', -, rfl⟩ := List.mem_map.1 mem'
    exact .left _ _ lt

theorem mem_conflicts_iff : (c, d) ∈ g.conflicts ↔ g.Conflict c d := by
  have listed : (c, d) ∈ g.conflicts ↔ c ∈ g.nodes ∧ d ∈ g.capturedBy c := by
    simp [conflicts]
  rw [listed, mem_capturedBy_iff]
  constructor
  · rintro ⟨mem, shared, captures, id, node, held, shared'⟩
    have mem' : d ∈ g.nodes := List.mem_of_getElem? node
    obtain ⟨-, path⟩ := (mem_held_iff (node?_of_mem numbered mem)).1 held
    rw [← id_of_node? numbered node] at path
    exact ⟨mem, mem', shared, shared', captures, path⟩
  · rintro ⟨mem, mem', shared, shared', captures, path⟩
    have node : g.node? d.id = some d := node?_of_mem numbered mem'
    have lt : d.id < g.nodes.length := (List.getElem?_eq_some_iff.1 node).1
    have held : d.id ∈ g.held c := (mem_held_iff (node?_of_mem numbered mem)).2 ⟨lt, path⟩
    exact ⟨mem, shared, captures, d.id, node, held, shared'⟩

end Numbered

/-- What is reported are just the conflicts, each once and in the order of the two nodes, as errors
or as warnings as the options say. A report is about the node that captures, and names both nodes
with their lifetimes. -/
theorem validateLifetimes_reports (g : Graph) (options : Options)
    (numbered : g.nodes.map (·.id) = List.range g.nodes.length) :
    g.validateLifetimes options = g.conflicts.map (fun (c, d) =>
      ⟨.lifetimeConflict, if options.strictLifetimes then .error else .warning,
        "生命周期冲突: " ++ c.lifetime.name ++ " 节点 " ++ c.label ++ " 依赖更窄范围的 " ++
          d.lifetime.name ++ " 节点 " ++ d.label, none, some (.node c.id)⟩) ∧
    g.conflicts.Pairwise (fun p q =>
      Prod.Lex (· < ·) (· < ·) (p.1.id, p.2.id) (q.1.id, q.2.id)) ∧
    (∀ c d, (c, d) ∈ g.conflicts ↔ g.Conflict c d) ∧
    ∀ diagnostic ∈ g.validateLifetimes options, diagnostic.kind = .lifetimeConflict ∧
      diagnostic.severity = if options.strictLifetimes then .error else .warning := by
  refine ⟨validateLifetimes_eq g options, conflicts_ascending numbered,
    fun c d => mem_conflicts_iff numbered, ?_⟩
  intro diagnostic reported
  rw [validateLifetimes_eq] at reported
  obtain ⟨⟨c, d⟩, -, rfl⟩ := List.mem_map.1 reported
  exact ⟨rfl, rfl⟩

/-! ## A shop

The till is kept with the composition. By way of a counter, which leads back to it, it holds the
cart of a customer; a cart is made for each resolution and holds a coupon. Coupons at the counter
come from a printer, which makes them anew.
-/

def shopNode (id : NodeId) (name : String) (kind : NodeKind) (lifetime : Lifetime)
    (needs : List NodeId) : Node where
  id := id
  contract := .named name []
  tag := .untagged
  resultType := .named name []
  source := .explicit id
  kind := kind
  lifetime := lifetime
  scope := none
  owner := .composition
  dependencies := needs.map fun need => ⟨.parameter "part" (.named "Part" []), .node need, false⟩
  isDisposable := false
  flags := .none

def shop : Graph where
  nodes := [shopNode 0 "Till" (.construct none) .singleton [1, 2],
    shopNode 1 "Counter" (.construct none) .transient [0, 3, 2],
    shopNode 2 "Cart" (.construct none) .perResolve [4],
    shopNode 3 "Printer" .func .transient [4],
    shopNode 4 "Coupon" (.construct none) .perBlock []]
  roots := []
  unresolved := []
  autoBindings := []

theorem validateLifetimes_reports_shop :
    shop.nodes.map (·.id) = List.range shop.nodes.length ∧
    shop.conflicts.map (fun (c, d) => (c.id, d.id)) = [(0, 2), (2, 4)] ∧
    (shop.validateLifetimes .standard).map (·.subject) = [some (.node 0), some (.node 2)] ∧
    (∃ inner, shop.HeldPath 0 inner 2) ∧ (¬ ∃ inner, shop.HeldPath 0 inner 4) ∧
    ∀ diagnostic ∈ shop.validateLifetimes .standard, diagnostic.severity = .error := by
  have numbered : shop.nodes.map (·.id) = List.range shop.nodes.length := by decide
  have found : shop.conflicts =
      [(shop.nodes[0], shop.nodes[2]), (shop.nodes[2], shop.nodes[4])] := by
    cbv
  obtain ⟨reports, -, conflict, severity⟩ := validateLifetimes_reports shop .standard numbered
  refine ⟨numbered, ?_, ?_, ?_, ?_, fun diagnostic mem => (severity diagnostic mem).2⟩
  · rw [found]
    rfl
  · rw [reports, found]
    rfl
  · have mem : (shop.nodes[0], shop.nodes[2]) ∈ shop.conflicts := found ▸ List.mem_cons_self
    exact ((conflict _ _).1 mem).held
  · intro held
    have mem : (shop.nodes[0], shop.nodes[4]) ∈ shop.conflicts :=
      (conflict _ _).2 ⟨by decide, by decide, rfl, rfl, rfl, held⟩
    rw [found] at mem
    exact absurd mem (by decide)

end Wiring.Graph
