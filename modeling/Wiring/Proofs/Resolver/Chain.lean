import Wiring.Proofs.Resolver.History

/-!
# Resolver — Chain

The chain that a request was answered on can be read off the finished graph: it holds the nodes made
by bindings from the asking node upwards, one maker after the other.
-/

namespace Wiring.Resolver

variable {r : Resolver} {roots : List (Root × Nat)} {births : List Birth} {s : Session}

/-- A link of a chain stands for a node. -/
structure IsLink (g : Graph) (link : ChainLink) (id : NodeId) : Prop where
  node : link.node = id
  answers : g.answers link.contract link.tag id

namespace History

theorem length_eq (h : History r roots births s) : births.length = s.graph.nodes.length :=
  h.closed.length_eq

/-- A birth has become a node. -/
theorem node (h : History r roots births s) {id : Nat} {b : Birth} (born : births[id]? = some b) :
    ∃ n, s.graph.node? id = some n ∧ r.Closed births b n := by
  have lt : id < s.graph.nodes.length := h.length_eq ▸ (List.getElem?_eq_some_iff.1 born).1
  have node : s.graph.node? id = some s.graph.nodes[id] := List.getElem?_eq_getElem lt
  exact ⟨_, node, rel_of_getElem? h.closed born node⟩

/-- A node has a birth. -/
theorem birth (h : History r roots births s) {id : Nat} {n : Node}
    (node : s.graph.node? id = some n) : ∃ b, births[id]? = some b ∧ r.Closed births b n := by
  have lt : id < births.length := h.length_eq ▸ (List.getElem?_eq_some_iff.1 node).1
  have born : births[id]? = some births[id] := List.getElem?_eq_getElem lt
  exact ⟨_, born, rel_of_getElem? h.closed born node⟩

/-- A root edge is the answer to the root at its position. -/
theorem root_answer (h : History r roots births s) {i : Nat} {e : RootEdge}
    (edge : s.graph.roots[i]? = some e) :
    ∃ root, roots[i]? = some root ∧ RootAnswer r births s.graph root e := by
  have lt : i < roots.length := h.edges.length_eq ▸ (List.getElem?_eq_some_iff.1 edge).1
  have root : roots[i]? = some roots[i] := List.getElem?_eq_getElem lt
  exact ⟨_, root, rel_of_getElem? h.edges root edge⟩

theorem id_eq (h : History r roots births s) {id : Nat} {b : Birth}
    (born : births[id]? = some b) : b.node.id = id :=
  eq_of_map_eq_range (f := fun b => b.node.id) h.records.ids born

/-- What was recorded in the course of the resolution is still there. -/
theorem recalled (h : History r roots births s) {past : List Birth} {s' : Session} {id : Nat}
    {n' : Node} (records : Records past s') (earlier : past <+: births)
    (node : s'.graph.nodes[id]? = some n') :
    ∃ n, s.graph.node? id = some n ∧ n.face = n'.face := by
  have faces := congrArg (·[id]?) records.faces
  simp only [List.getElem?_map, node, Option.map_some] at faces
  obtain ⟨b, born, same⟩ := Option.map_eq_some_iff.1 faces.symm
  obtain ⟨n, node, closed⟩ := h.node (getElem?_mono earlier born)
  exact ⟨n, node, closed.face_eq.trans same⟩

/-- A node is shared as its lifetime says in the context of its birth. -/
theorem scope_eq (h : History r roots births s) {id : Nat} {b : Birth} {n : Node}
    (born : births[id]? = some b) (node : s.graph.node? id = some n) :
    n.scope = b.context.sharingOf n.lifetime := by
  cases rel_of_getElem? h.closed born node with
  | intro opened => exact opened.scope_eq

/-- A node is released by whom its lifetime says in the context of its birth. -/
theorem owner_eq (h : History r roots births s) {id : Nat} {b : Birth} {n : Node}
    (born : births[id]? = some b) (node : s.graph.node? id = some n) :
    n.owner = b.context.ownerOf n.lifetime := by
  cases rel_of_getElem? h.closed born node with
  | intro opened => exact opened.owner_eq

/-- A node was asked for by a root, or by a part of its nearest maker. -/
theorem descent (h : History r roots births s) {id : Nat} {b : Birth}
    (born : births[id]? = some b) :
    (∃ root block, b.context = .atRoot root block ∧ s.graph.makers id = []) ∨
      ∃ m maker block, births[m]? = some maker ∧ m < id ∧ b.context = maker.inside block ∧
        s.graph.makers id = m :: s.graph.makers m := by
  obtain ⟨root, block, targets, line⟩ := h.lineage id b born
  cases line with
  | asked context _ quiet =>
    exact .inl ⟨root, block, context, Graph.makers_of_quiet quiet⟩
  | inside maker _ lt context leads quiet =>
    exact .inr ⟨_, _, _, maker, lt, context, Graph.makers_of_leads lt leads quiet⟩

/-- The chain on which the parts of a node are answered. -/
theorem chain (h : History r roots births s) {id : Nat} {b : Birth} (born : births[id]? = some b)
    (block : Nat) : List.Forall₂ (IsLink s.graph) (b.inside block).chain (s.graph.chainAt id) := by
  -- From a node to its maker, which is an earlier one.
  induction id using Nat.strong_induction_on generalizing b block with
  | _ id ih =>
    obtain ⟨n, node, closed⟩ := h.node born
    have outer : List.Forall₂ (IsLink s.graph) b.context.chain
        ((s.graph.makers id).filter s.graph.isBound) := by
      rcases h.descent born with ⟨root, block, context, none⟩ | ⟨m, _, _, born', lt, context, eq⟩
      · rw [context, none]
        exact .nil
      · rw [context, eq]
        exact ih m lt born' _
    have face := closed.face_eq
    rw [Birth.inside, Graph.chainAt]
    by_cases implicit : b.node.source = .implicit
    · have unbound : s.graph.isBound id = false := by
        rw [← face] at implicit
        simpa [Graph.isBound, node, Node.face] using implicit
      rw [if_pos implicit, List.filter_cons_of_neg (by simp [unbound])]
      exact outer
    · have bound : s.graph.isBound id = true := by
        rw [← face] at implicit
        simpa [Graph.isBound, node, Node.face] using implicit
      rw [if_neg implicit, List.filter_cons_of_pos bound]
      refine .cons ⟨h.id_eq born, ?_⟩ outer
      rw [← face]
      simp [Graph.answers, node, Node.face]

/-- A link on the chain at a node stands for the node or for one of its makers. -/
theorem mem_of_link (h : History r roots births s) {id : Nat} {b : Birth}
    (born : births[id]? = some b) {block : Nat} {link : ChainLink}
    (mem : link ∈ (b.inside block).chain) : link.node ∈ s.graph.chainAt id := by
  obtain ⟨m, there, isLink⟩ := exists_rel_of_mem (h.chain born block) mem
  rw [isLink.node]
  exact there

end History

theorem IsLink.answers_iff {g : Graph} {link : ChainLink} {id : NodeId} (h : IsLink g link id)
    (contract : TypeExpr) (tag : TagKey) :
    g.answers contract tag id = decide (link.contract = contract ∧ link.tag = tag) := by
  have answers := h.answers
  unfold Graph.answers at answers ⊢
  cases node : g.node? id with
  | none => simp [node] at answers
  | some n =>
    simp only [node, Option.any_some, decide_eq_true_eq] at answers
    rw [Option.any_some, answers.1, answers.2]

/-- A chain finds what the nodes that it stands for find. -/
theorem find?_of_links {g : Graph} {links : List ChainLink} {chain : List NodeId}
    (h : List.Forall₂ (IsLink g) links chain) (contract : TypeExpr) (tag : TagKey) :
    (links.find? fun link => link.contract = contract ∧ link.tag = tag).map (·.node)
      = chain.find? (g.answers contract tag) := by
  induction h with
  | nil => rfl
  | cons first _ ih =>
    rw [List.find?_cons, List.find?_cons, first.answers_iff]
    split
    · rw [Option.map_some, first.node]
    · exact ih

end Wiring.Resolver
