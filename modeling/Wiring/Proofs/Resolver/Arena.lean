import Wiring.Proofs.Resolver.Making
import Wiring.Proofs.Resolver.Metadata
import Wiring.Proofs.Resolver.Sharing
import Wiring.Proofs.Resolver.Unanswered
import Wiring.Proofs.Resolver.Validity

/-!
# Resolver — Arena

What can be relied on when a finished graph is read by positions. Nodes are where their ids say, an
edge leads to what its site asks for, and the source of a node leads to the binding that the node
was made from.
-/

namespace Wiring

/-- The target of a request for a contract: a node of just this contract, or an entry. -/
def Target.Serves (g : Graph) (contract : TypeExpr) : Target → Prop
  | .node id => ∃ n, g.node? id = some n ∧ n.contract = contract
  | .unresolved id => id < g.unresolved.length

/-- The source of a node leads to the binding that it was made from. -/
def Node.FromSource (registry : Registry) (g : Graph) (n : Node) : Prop :=
  match n.source with
  | .explicit id => ∃ b, registry.binding? id = some b ∧ n.lifetime = b.lifetime
  | .auto index => ∃ b, g.autoBindings[index]? = some b ∧ b.lifetime = .transient ∧
      b.contract = n.contract
  | .implicit => True

/-- The positions in a graph can be relied on. -/
structure Graph.IsArena (registry : Registry) (g : Graph) : Prop where
  ids : ∀ id n, g.node? id = some n → n.id = id
  edges : ∀ n ∈ g.nodes, ∀ d ∈ n.dependencies, d.target.Serves g d.site.contract
  roots : ∀ e ∈ g.roots, e.target.Serves g e.root.contract
  deferred : ∀ n ∈ g.nodes, ∀ d ∈ n.dependencies, d.isDeferred ↔ n.kind = .func ∨ n.kind = .lazy
  sources : ∀ n ∈ g.nodes, n.FromSource registry g
  distinct : (g.autoBindings.map (·.contract)).Nodup

theorem NodeKind.isDeferred_iff (kind : NodeKind) :
    kind.isDeferred ↔ kind = .func ∨ kind = .lazy := by
  cases kind <;> simp [isDeferred]

/-- A node is as it was opened in a later session. -/
theorem Session.Endures.node {s e : Session} (h : s.Endures e) {id : NodeId} {n : Node}
    (node : s.graph.nodes[id]? = some n) :
    ∃ n', e.graph.node? id = some n' ∧ n'.face = n.face := by
  have face : (s.graph.nodes.map Node.face)[id]? = some n.face := by
    rw [List.getElem?_map, node, Option.map_some]
  have later := getElem?_mono h.faces face
  rw [List.getElem?_map] at later
  exact Option.map_eq_some_iff.1 later

namespace Resolver

open Session

variable {r : Resolver} {ask : Ask} {s s' e : Session} {target : Target}

/-! ## Contracts -/

theorem Chooses.contract_eq {choice : Choice} (h : r.Chooses ask s choice s') :
    choice.contract = ask.contract := by
  cases h <;> rfl

/-- A node that is opened for a request has its contract. -/
theorem Opens.contract_eq {o : Opening} (h : r.Opens ask s o) : o.node.contract = ask.contract := by
  cases h with
  | bound chosen => exact chosen.contract_eq
  | accumulated | shape => rfl

/-- A node that is shared for a request has its contract. -/
theorem contract_of_sharedNode? {contract : TypeExpr} {tag : TagKey} {source : Source}
    {lifetime : Lifetime} {id : NodeId}
    (share : s.sharedNode? contract tag source lifetime = some id) (after : s.Endures e) :
    ∃ n, e.graph.node? id = some n ∧ n.contract = contract := by
  obtain ⟨_, n, _, node, contract_eq, _⟩ := sharedNode?_spec share
  obtain ⟨n', node', same⟩ := after.node node
  exact ⟨n', node', (congrArg Node.contract same).trans contract_eq⟩

/-- What a request is settled by has its contract. -/
theorem Settles.contract_eq {id : NodeId} (h : r.Settles ask s (.node id) s')
    (way : r.OnTheWay e s) (after : s'.Endures e) :
    ∃ n, e.graph.node? id = some n ∧ n.contract = ask.contract := by
  cases h with
  | linked chosen link =>
    rw [chosen.extends.context] at link
    -- The link was found by the contract, and the open node is under the contract of its link.
    obtain ⟨found, isFound, rfl⟩ := Option.map_eq_some_iff.1 link
    obtain ⟨n, node, contract, -⟩ := way.links found (List.mem_of_find?_eq_some isFound)
    have same := List.find?_some isFound
    simp only [decide_eq_true_eq] at same
    exact ⟨n, node, contract.trans (same.1.trans chosen.contract_eq)⟩
  | shared chosen _ share =>
    rw [← chosen.contract_eq]
    exact contract_of_sharedNode? share after
  | accumulated _ _ _ share => exact contract_of_sharedNode? share after

/-- However a request was answered by a node, the node has its contract. -/
theorem Answered.contract_eq {id : NodeId} (h : r.Answered e ask (.node id)) :
    ∃ n, e.graph.node? id = some n ∧ n.contract = ask.contract := by
  generalize leads : Target.node id = target at h
  cases h.reply with
  | settled way settled after =>
    subst leads
    exact settled.contract_eq way after
  | opened _ opened node =>
    obtain rfl := Target.node.inj leads
    exact ⟨_, node, opened.contract_eq⟩

theorem Answered.serves (h : r.Answered e ask target) (isIn : target.IsIn e.graph) :
    target.Serves e.graph ask.contract := by
  cases target with
  | node => exact h.contract_eq
  | unresolved => exact isIn

/-! ## Bindings made for concrete types -/

/-- Concrete types that are bound by themselves have one transient binding each, and the source of
their nodes leads to it. -/
structure AutoBound (g : Graph) : Prop where
  distinct : (g.autoBindings.map (·.contract)).Nodup
  transient : ∀ b ∈ g.autoBindings, b.lifetime = .transient
  sources : ∀ n ∈ g.nodes, ∀ index, n.source = .auto index →
    ∃ b, g.autoBindings[index]? = some b ∧ b.contract = n.contract

namespace AutoBound

variable {g : Graph}

theorem empty : AutoBound .empty where
  distinct := List.nodup_nil
  transient := fun _ mem => absurd mem List.not_mem_nil
  sources := fun _ mem => absurd mem List.not_mem_nil

theorem sourced (h : AutoBound g) {n : Node} (mem : n ∈ g.nodes) {index : Nat}
    (source : n.source = .auto index) :
    ∃ b, g.autoBindings[index]? = some b ∧ b.lifetime = .transient ∧ b.contract = n.contract := by
  obtain ⟨b, isBinding, contract⟩ := h.sources n mem index source
  exact ⟨b, isBinding, h.transient b (List.mem_of_getElem? isBinding), contract⟩

theorem addNode (h : AutoBound g) {n : Node}
    (source : ∀ index, n.source = .auto index →
      ∃ b, g.autoBindings[index]? = some b ∧ b.contract = n.contract) :
    AutoBound (g.addNode n) where
  distinct := h.distinct
  transient := h.transient
  sources n' mem index isAuto := by
    rcases List.mem_append.1 mem with old | new
    · exact h.sources n' old index isAuto
    · obtain rfl := List.mem_singleton.1 new
      exact source index isAuto

theorem addNode_implicit (h : AutoBound g) {n : Node} (implicit : n.source = .implicit) :
    AutoBound (g.addNode n) := by
  refine h.addNode fun index isAuto => ?_
  rw [implicit] at isAuto
  cases isAuto

/-- Closing a node changes neither its source nor its contract. -/
theorem close (h : AutoBound s.graph) (context : Context) (id : NodeId)
    (dependencies : List Dependency) : AutoBound (s.close context id dependencies).graph where
  distinct := h.distinct
  transient := h.transient
  sources n mem index isAuto := by
    have face := List.mem_map_of_mem (f := Node.face) mem
    rw [close_faces] at face
    obtain ⟨n', mem', same⟩ := List.mem_map.1 face
    have source : n'.face.source = n.face.source := congrArg Node.source same
    have contract : n'.face.contract = n.face.contract := congrArg Node.contract same
    obtain ⟨b, isBinding, own⟩ := h.sources n' mem' index (source.trans isAuto)
    exact ⟨b, isBinding, own.trans contract⟩

/-- To note that a request was made adds no binding and no node. -/
theorem asked (h : AutoBound s.graph) {contract : TypeExpr} {d : Demand} :
    AutoBound (r.asked contract d s).graph := ⟨h.distinct, h.transient, h.sources⟩

theorem enterRoot (h : AutoBound s.graph) {root : Root} {index : Nat} :
    AutoBound (s.enterRoot root index).graph := h

theorem leaveRoot (h : AutoBound s.graph) {edge : RootEdge} :
    AutoBound (s.leaveRoot edge).graph := ⟨h.distinct, h.transient, h.sources⟩

end AutoBound

/-- The binding made for a concrete type is the one that is there for it, or a new one. -/
theorem AutoBound.autoBindingIndex (h : AutoBound s.graph) {contract : TypeExpr} {b : Binding}
    (auto : r.autoBinding contract = some b) :
    AutoBound (s.autoBindingIndex b).2.graph ∧
      ∃ b', (s.autoBindingIndex b).2.graph.autoBindings[
        (s.autoBindingIndex b).1]? = some b' ∧ b'.contract = contract := by
  obtain ⟨rfl, -⟩ := autoBinding_constructs auto
  rw [Session.autoBindingIndex]
  split
  · next index known =>
    obtain ⟨b', at_index, same⟩ := s.synthesizedIndexed.found known
    exact ⟨h, b', at_index, Option.some.inj same⟩
  · next unknown =>
    have new : ∀ b ∈ s.graph.autoBindings, b.contract ≠ contract := by
      intro b mem same
      exact s.synthesizedIndexed.missing unknown b mem (congrArg some same)
    refine ⟨⟨?_, ?_, ?_⟩, _, List.getElem?_concat_length, rfl⟩
    · show ((s.graph.autoBindings ++ [Binding.ofType contract contract]).map (·.contract)).Nodup
      rw [List.map_append, List.map_singleton, ← List.concat_eq_append]
      exact h.distinct.concat (by simpa [Binding.ofType, Binding.plain] using new)
    · intro b mem
      rcases List.mem_append.1 mem with old | added
      · exact h.transient b old
      · obtain rfl := List.mem_singleton.1 added
        rfl
    · intro n mem index source
      -- The new binding comes last, so the earlier ones keep their positions.
      obtain ⟨b, isBinding, contract⟩ := h.sources n mem index source
      exact ⟨b, getElem?_mono (List.prefix_append ..) isBinding, contract⟩

theorem Chooses.autoBound {choice : Choice} (h : r.Chooses ask s choice s')
    (bound : AutoBound s.graph) :
    AutoBound s'.graph ∧ ∀ index, choice.source = .auto index →
      ∃ b, s'.graph.autoBindings[index]? = some b ∧ b.contract = choice.contract := by
  cases h with
  | bound | candidate => exact ⟨⟨bound.distinct, bound.transient, bound.sources⟩, nofun⟩
  | auto _ _ auto =>
    obtain ⟨after, known⟩ := bound.asked.autoBindingIndex auto
    refine ⟨after, fun index source => ?_⟩
    obtain rfl := Source.auto.inj source
    exact known

theorem Settles.autoBound (h : r.Settles ask s target s') (bound : AutoBound s.graph) :
    AutoBound s'.graph := by
  cases h with
  | cut | refused | missing | lost | accumulated =>
    exact ⟨bound.distinct, bound.transient, bound.sources⟩
  | linked chosen | shared chosen => exact (chosen.autoBound bound).1

theorem Opens.autoBound {o : Opening} (h : r.Opens ask s o) (bound : AutoBound s.graph) :
    AutoBound o.inner.graph := by
  cases h with
  | bound chosen =>
    obtain ⟨after, known⟩ := chosen.autoBound bound
    exact after.addNode known
  | accumulated => exact bound.asked.addNode_implicit rfl
  | shape =>
    rw [openShape, enterShape_graph]
    exact bound.asked.addNode_implicit rfl

theorem Run.autoBound {asks targets births} (h : r.Run asks s targets s' births)
    (bound : AutoBound s.graph) : AutoBound s'.graph := by
  induction h with
  | done => exact bound
  | settle settled _ ih => exact ih (settled.autoBound bound)
  | make opened _ _ ih ih' => exact ih' ((ih (opened.autoBound bound)).close _ _ _)

theorem build_autoBound (r : Resolver) (found : List Diagnostic) (roots : List Root) :
    AutoBound (r.build found roots).1 := by
  obtain ⟨_, -, bound⟩ := resolveRoots_induction (r := r) found
    (motive := fun roots _ => AutoBound (r.resolveRoots (.begin found) roots).graph)
    .empty
    (fun _ _ _ _ _ _ _ bound run whole => by
      rw [whole]
      exact (run.autoBound bound.enterRoot).leaveRoot)
    roots
  exact bound

/-! ## Whole graphs -/

/-- Every node of a graph that is built comes from where its source says. -/
theorem build_fromSource (r : Resolver) (found : List Diagnostic) (roots : List Root) :
    ∀ n ∈ (r.build found roots).1.nodes, n.FromSource r.registry (r.build found roots).1 := by
  intro n mem
  obtain ⟨births, b, closed⟩ := build_closed r found roots n mem
  have sourced : SourcedBy r n := by
    cases closed with
    | intro opened => exact opened.sourced
  unfold Node.FromSource
  split
  · next source =>
    rw [SourcedBy, source] at sourced
    exact sourced.2
  · next source => exact (build_autoBound r found roots).sourced mem source
  · trivial

/-- In a graph that is built every node is where its id says; an edge leads to a node of the
contract that its site or its root asks for, or to an entry; the edges of factories and lazy values
are the deferred ones; and the sources lead to the bindings that the nodes were made from, of which
there is one for each concrete type that is bound by itself. -/
theorem build_isArena (r : Resolver) (found : List Diagnostic) (roots : List Root) :
    (r.build found roots).1.IsArena r.registry := by
  obtain ⟨whole, rooted, ids⟩ := build_whole r found roots
  have fromSource := build_fromSource r found roots
  have distinct := (build_autoBound r found roots).distinct
  obtain ⟨e, graph, -, made⟩ := build_made r found roots
  rw [graph] at whole rooted ids fromSource distinct ⊢
  refine ⟨fun id n node => eq_of_map_eq_range ids node, ?_, ?_, ?_, fromSource, distinct⟩
  · intro n mem d edge
    have isIn := whole n mem d edge
    obtain ⟨id, node⟩ := List.mem_iff_getElem?.1 mem
    cases made.made id n node with
    | intro _ _ opened _ answers =>
      obtain ⟨part, mem', site, answered⟩ := mem_dependenciesOf answers edge
      have asked : part.ask.contract = part.site.contract :=
        (opened.ofDependency mem' 0 "").contract
      rw [← site, ← asked]
      exact answered.serves isIn
  · intro edge mem
    exact (made.roots edge mem).serves (rooted edge mem)
  · intro n mem d edge
    obtain ⟨id, node⟩ := List.mem_iff_getElem?.1 mem
    cases made.made id n node with
    | intro =>
      rw [(of_mem_dependenciesOf edge).2]
      exact NodeKind.isDeferred_iff _

end Resolver

end Wiring
