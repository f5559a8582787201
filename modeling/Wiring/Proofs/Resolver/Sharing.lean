import Wiring.Proofs.Resolver.Isolation

/-!
# Resolver — Sharing

Instances are shared as widely as their lifetimes say, and no two shared nodes stand for the same
instance: a node is only opened when no earlier one is known by its contract, tag, scope, source and
owner. So a binding that lives with the composition has one node for each contract.
-/

namespace Wiring

@[simp] theorem Node.identity?_connected (n : Node) (dependencies : List Dependency) :
    (n.connected dependencies).identity? = n.identity? := rfl

theorem Context.sharingOf_eq_none_iff {c : Context} {lifetime : Lifetime} :
    c.sharingOf lifetime = none ↔ lifetime = .transient := by
  cases lifetime <;> simp [sharingOf]

theorem Context.shared_of_composition (c : Context) {lifetime : Lifetime}
    (long : lifetime.livesWithComposition) :
    c.sharingOf lifetime = some .composition ∧ c.ownerOf lifetime = .composition := by
  cases lifetime <;> first | exact ⟨rfl, rfl⟩ | nomatch long

namespace Resolver

open Session

variable {r : Resolver}

/-! ## Identities -/

/-- No two nodes are known by the same. -/
def Distinct (nodes : List Node) : Prop := (nodes.filterMap Node.identity?).Nodup

theorem Distinct.concat {nodes : List Node} {n : Node} (h : Distinct nodes)
    (new : ∀ n' ∈ nodes, n.scope.isSome → n'.identity? ≠ n.identity?) :
    Distinct (nodes ++ [n]) := by
  unfold Distinct at h ⊢
  rw [List.filterMap_append, List.nodup_append]
  refine ⟨h, ?_, ?_⟩
  · cases identity : n.identity? <;> simp [identity]
  · intro known mem known' mem' same
    obtain ⟨n', old, identity⟩ := List.mem_filterMap.1 mem
    have identity' : n.identity? = some known' := by simpa using mem'
    have shared : n.scope.isSome := by
      rw [← Option.isSome_map, ← Node.identity?, identity']
      rfl
    exact new n' old shared (by rw [identity, identity', same])

theorem Distinct.eq_of_identity {nodes : List Node} (h : Distinct nodes) {i j : Nat} {n n' : Node}
    (at_i : nodes[i]? = some n) (at_j : nodes[j]? = some n') (shared : n.scope.isSome)
    (same : n'.identity? = n.identity?) : i = j := by
  obtain ⟨lt, rfl⟩ := List.getElem?_eq_some_iff.1 at_i
  obtain ⟨lt', rfl⟩ := List.getElem?_eq_some_iff.1 at_j
  obtain ⟨scope, isScope⟩ := Option.isSome_iff_exists.1 shared
  have known : ∃ known, nodes[i].identity? = some known := ⟨_, by rw [Node.identity?, isScope]; rfl⟩
  obtain ⟨known, identity⟩ := known
  rw [identity] at same
  rw [Distinct, List.Nodup, List.pairwise_filterMap, List.pairwise_iff_getElem] at h
  rcases Nat.lt_trichotomy i j with before | equal | after
  · exact absurd rfl (h i j lt lt' before known identity known same)
  · exact equal
  · exact absurd rfl (h j i lt' lt after known same known identity)

theorem sharedNode?_eq_none {s : Session} {contract : TypeExpr} {tag : TagKey} {source : Source}
    {lifetime : Lifetime} (none : s.sharedNode? contract tag source lifetime = none)
    {scope : Sharing} (sharing : s.context.sharingOf lifetime = some scope) {n : Node}
    (mem : n ∈ s.graph.nodes) :
    n.identity? ≠ some (contract, tag, scope, source, s.context.ownerOf lifetime) := by
  simp only [sharedNode?, sharing] at none
  exact s.sharedIndexed.missing none n mem

/-- A node is only opened when no other is known by the same. -/
theorem Opens.distinct {ask s o} (h : r.Opens ask s o) (distinct : Distinct s.graph.nodes) :
    Distinct o.inner.graph.nodes := by
  have nodes : o.inner.graph.nodes = s.graph.nodes ++ [(o.birth s).node] := h.inner_nodes
  rw [nodes]
  refine distinct.concat fun n mem shared => ?_
  cases h with
  | @bound _ _ choice s' chosen link share =>
    obtain ⟨scope, isScope⟩ := Option.isSome_iff_exists.1 shared
    have sharing : s'.context.sharingOf choice.binding.lifetime = some scope := isScope
    have identity : ((r.openBound choice s').birth s).node.identity? = some (choice.contract,
        choice.tag, scope, choice.source, s'.context.ownerOf choice.binding.lifetime) :=
      congrArg (Option.map _) isScope
    rw [identity]
    exact sharedNode?_eq_none share sharing (chosen.nodes_eq ▸ mem)
  | @accumulated contract d s index room lookup accumulator share =>
    exact sharedNode?_eq_none share rfl mem
  | shape => simp [Opening.birth, openShape, shapeNode, Context.sharingOf] at shared

/-- Closing a node leaves its identity as it is. -/
theorem Run.distinct {asks s targets s' births} (h : r.Run asks s targets s' births)
    (distinct : Distinct s.graph.nodes) : Distinct s'.graph.nodes := by
  induction h with
  | done => exact distinct
  | settle settled _ ih => exact ih (settled.nodes_eq ▸ distinct)
  | @make _ _ o inside _ _ _ _ _ _ opened parts _ ih ih' =>
    -- The open node has its identity already, so its parts cannot be made to share it.
    obtain ⟨more, before, after⟩ := opened.closed_nodes parts.extends
      (dependenciesOf o.node.kind o.parts inside)
    have open_ := ih (opened.distinct distinct)
    rw [before] at open_
    refine ih' ?_
    rw [after]
    simpa [Distinct, List.filterMap_append, List.filterMap_cons] using open_

/-! ## Sources -/

/-- What the source of a node says of its tag and its lifetime. -/
def SourcedBy (r : Resolver) (n : Node) : Prop :=
  match n.source with
  | .explicit b => n.tag = r.registry.tagKey b ∧
      ∃ binding, r.registry.binding? b = some binding ∧ n.lifetime = binding.lifetime
  | .auto _ => n.lifetime = .transient
  | .implicit => n.lifetime = .transient ∨ n.lifetime = .perResolve

theorem lifetime_of_autoBinding {contract : TypeExpr} {b : Binding}
    (h : r.autoBinding contract = some b) : b.lifetime = .transient := by
  unfold autoBinding at h
  split at h
  · split at h
    · split at h
      · rw [← Option.some.inj h]
        rfl
      · nomatch h
    · nomatch h
  · nomatch h

theorem Opens.sourced {ask s o} (h : r.Opens ask s o) : SourcedBy r (o.birth s).node := by
  cases h with
  | bound chosen =>
    cases chosen with
    | bound _ _ binding | candidate binding => exact ⟨rfl, _, binding, rfl⟩
    | auto _ _ binding => exact lifetime_of_autoBinding binding
  | accumulated => exact .inr rfl
  | shape => exact .inl rfl

section

variable {roots : List (Root × Nat)} {births : List Birth} {s : Session} {id : Nat} {n : Node}

theorem History.sourced (h : History r roots births s) (node : s.graph.node? id = some n) :
    SourcedBy r n := by
  obtain ⟨b, -, closed⟩ := h.birth node
  cases closed with
  | intro opened => exact opened.sourced

/-- All that is left open of an instance that lives with the composition is its contract. -/
theorem History.of_long_binding (h : History r roots births s) {b : BindingId} {binding : Binding}
    (isBinding : r.registry.binding? b = some binding)
    (long : binding.lifetime.livesWithComposition) (node : s.graph.node? id = some n)
    (source : n.source = .explicit b) :
    n.tag = r.registry.tagKey b ∧ n.scope = some .composition ∧ n.owner = .composition := by
  obtain ⟨birth, born, -⟩ := h.birth node
  have sourced := h.sourced node
  simp only [SourcedBy, source] at sourced
  obtain ⟨tag, binding', isBinding', lifetime⟩ := sourced
  obtain rfl := Option.some.inj (isBinding.symm.trans isBinding')
  obtain ⟨scope, owner⟩ := birth.context.shared_of_composition long
  refine ⟨tag, ?_, ?_⟩
  · rw [h.scope_eq born node, lifetime, scope]
  · rw [h.owner_eq born node, lifetime, owner]

end

/-! ## Roots -/

variable (found : List Diagnostic)

/-- A node was made for the root at a position: the roots before it do not make the node, but those
up to it do. -/
def MadeFor (r : Resolver) (found : List Diagnostic) (roots : List Root) (index : Nat)
    (id : NodeId) : Prop :=
  index < roots.length ∧ (r.build found (roots.take index)).1.nodes.length ≤ id ∧
    id < (r.build found (roots.take (index + 1))).1.nodes.length

section

variable {found} {roots : List Root} {root : Root} {index id : Nat}

/-- A root at the end does not change for which of the others a node was made. -/
theorem madeFor_concat_of_lt (old : index < roots.length) :
    r.MadeFor found (roots ++ [root]) index id ↔ r.MadeFor found roots index id := by
  rw [MadeFor, MadeFor, List.take_append_of_le_length (Nat.le_of_lt old),
    List.take_append_of_le_length old, List.length_append, List.length_singleton]
  constructor <;> rintro ⟨-, bounds⟩ <;> exact ⟨by omega, bounds⟩

/-- For a root at the end the nodes were made that it adds. -/
theorem madeFor_concat_last : r.MadeFor found (roots ++ [root]) roots.length id ↔
    (r.build found roots).1.nodes.length ≤ id ∧
      id < (r.build found (roots ++ [root])).1.nodes.length := by
  rw [MadeFor, List.take_left' rfl, List.take_of_length_le (by simp), List.length_append,
    List.length_singleton]
  exact and_iff_right (Nat.lt_succ_self _)

end

/-- The births of a build know the root for which each node was made. -/
structure KnowsRoots (r : Resolver) (found : List Diagnostic) (roots : List Root)
    (births : List Birth) : Prop where
  le : ∀ k ≤ roots.length, (r.build found (roots.take k)).1.nodes.length ≤ births.length
  made : ∀ id < births.length, ∃ index, r.MadeFor found roots index id
  root : ∀ (id : Nat) b index, births[id]? = some b → r.MadeFor found roots index id →
    b.context.root = index

variable {found}

theorem KnowsRoots.concat {roots : List Root} {births births' : List Birth} {root : Root}
    (h : KnowsRoots r found roots births)
    (before : (r.build found roots).1.nodes.length = births.length)
    (after : (r.build found (roots ++ [root])).1.nodes.length = (births ++ births').length)
    (new : ∀ b ∈ births', b.context.root = roots.length) :
    KnowsRoots r found (roots ++ [root]) (births ++ births') := by
  have length : (roots ++ [root]).length = roots.length + 1 := by simp
  -- Each time the root in question is one of the earlier ones, or the last.
  refine ⟨fun k le => ?_, fun id lt => ?_, fun id b index born made => ?_⟩
  · rw [length] at le
    rcases Nat.lt_or_eq_of_le le with old | rfl
    · rw [List.take_append_of_le_length (by omega)]
      exact Nat.le_trans (h.le k (by omega)) (by simp)
    · exact Nat.le_of_eq (by rw [List.take_of_length_le (by simp), after])
  · rcases Nat.lt_or_ge id births.length with old | late
    · obtain ⟨index, made⟩ := h.made id old
      exact ⟨index, (madeFor_concat_of_lt made.1).2 made⟩
    · exact ⟨roots.length, madeFor_concat_last.2 ⟨before ▸ late, after ▸ lt⟩⟩
  · have bound := made.1
    rw [length] at bound
    rcases Nat.lt_or_eq_of_le (Nat.le_of_lt_succ bound) with old | rfl
    · rw [madeFor_concat_of_lt old] at made
      have lt := Nat.lt_of_lt_of_le made.2.2 (h.le (index + 1) old)
      rw [List.getElem?_append_left lt] at born
      exact h.root id b index born made
    · rw [List.getElem?_append_right (before ▸ (madeFor_concat_last.1 made).1)] at born
      exact new b (List.mem_of_getElem? born)

/-- What sharing rests on, for every build. -/
theorem build_sharing (r : Resolver) (found : List Diagnostic) (roots : List Root) :
    ∃ births s, History r roots.zipIdx births s ∧ (r.build found roots).1 = s.graph ∧
      Distinct s.graph.nodes ∧ KnowsRoots r found roots births := by
  have built (roots : List Root) : (r.build found roots).1 =
      (r.resolveRoots (.begin found) roots).graph := rfl
  obtain ⟨births, h, distinct, knows⟩ := resolveRoots_induction (r := r) found
    (motive := fun roots births => Distinct (r.build found roots).1.nodes ∧
      KnowsRoots r found roots births)
    ⟨List.nodup_nil, by simp [built]; rfl, by simp, by simp⟩
    (by
      intro roots births root target s' births' h holds run whole
      obtain ⟨records, -⟩ := run.records (h.records.enterRoot root roots.length)
      have nodes : (r.build found (roots ++ [root])).1.nodes = s'.graph.nodes := by
        rw [built, whole]
        rfl
      refine ⟨nodes ▸ run.distinct holds.1, holds.2.concat h.length_eq.symm ?_ run.root_eq⟩
      rw [nodes]
      exact records.length_eq)
    roots
  exact ⟨births, _, h, rfl, distinct, knows⟩

/-- How instances are shared. No two nodes with a scope are known by the same. The scope is the one
of the lifetime: none for a transient node, the composition, the root for which the node was made, or
a block. So of a binding that lives with the composition there is one node for each contract. -/
theorem build_shares (r : Resolver) (found : List Diagnostic) (roots : List Root) :
    let g := (r.build found roots).1
    (∀ i j n n', g.node? i = some n → g.node? j = some n' → n.scope.isSome →
      n'.contract = n.contract → n'.tag = n.tag → n'.scope = n.scope → n'.source = n.source →
      n'.owner = n.owner → i = j) ∧
    (∀ id n, g.node? id = some n →
      (n.scope = none ↔ n.lifetime = .transient) ∧
      (n.lifetime.livesWithComposition → n.scope = some .composition ∧ n.owner = .composition) ∧
      (∃ index, r.MadeFor found roots index id) ∧
      (∀ index, r.MadeFor found roots index id → n.lifetime = .perResolve →
        n.scope = some (.resolve index)) ∧
      (n.lifetime = .perBlock → ∃ block, n.scope = some (.block block))) ∧
    (∀ b binding i j n n', r.registry.binding? b = some binding →
      binding.lifetime.livesWithComposition → g.node? i = some n → g.node? j = some n' →
      n.source = .explicit b → n'.source = .explicit b → n'.contract = n.contract → i = j) := by
  obtain ⟨births, s, h, eq, distinct, knows⟩ := build_sharing r found roots
  rw [eq]
  dsimp only
  have identities (i j : NodeId) (n n' : Node) (node : s.graph.node? i = some n)
      (node' : s.graph.node? j = some n') (shared : n.scope.isSome)
      (contract : n'.contract = n.contract) (tag : n'.tag = n.tag) (scope : n'.scope = n.scope)
      (source : n'.source = n.source) (owner : n'.owner = n.owner) : i = j := by
    refine distinct.eq_of_identity node node' shared ?_
    simp only [Node.identity?, contract, tag, scope, source, owner]
  refine ⟨identities, ?_, ?_⟩
  · intro id n node
    obtain ⟨b, born, -⟩ := h.birth node
    have scope := h.scope_eq born node
    have owner := h.owner_eq born node
    refine ⟨?_, ?_, ?_, ?_, ?_⟩
    · rw [scope, Context.sharingOf_eq_none_iff]
    · intro long
      rw [scope, owner]
      exact b.context.shared_of_composition long
    · exact knows.made id (List.getElem?_eq_some_iff.1 born).1
    · intro index made lifetime
      rw [scope, lifetime, Context.sharingOf, knows.root id b index born made]
    · intro lifetime
      exact ⟨b.context.block, by rw [scope, lifetime, Context.sharingOf]⟩
  · intro b binding i j n n' isBinding long node node' source source' contract
    obtain ⟨tag, scope, owner⟩ := h.of_long_binding isBinding long node source
    obtain ⟨tag', scope', owner'⟩ := h.of_long_binding isBinding long node' source'
    exact identities i j n n' node node' (by simp [scope]) contract (tag'.trans tag.symm)
      (scope'.trans scope.symm) (source'.trans source.symm) (owner'.trans owner.symm)

/-! ## Handlers

The handlers have a session each, but one cache.
-/

theorem handlers_made :
    handlers.MadeFor [] [.untagged "first" handler, .untagged "second" handler] 1 4 ∧
      (handlers.registry.binding? 1).map (·.lifetime) = some .singleton ∧
      (handlerGraph.node? 2).map (fun n => (n.source, n.contract)) = some (.explicit 1, cache) := by
  unfold MadeFor
  cbv

theorem build_shares_handlers :
    (handlerGraph.node? 4).map (·.scope) = some (some (.resolve 1)) ∧
      ∀ id n, handlerGraph.node? id = some n → n.source = .explicit 1 → n.contract = cache →
        id = 2 := by
  obtain ⟨-, -, -, lifetime, -⟩ := handlerGraph_facts
  obtain ⟨made, long, isCache⟩ := handlers_made
  obtain ⟨n, node, lifetime⟩ := Option.map_eq_some_iff.1 lifetime
  obtain ⟨binding, isBinding, singleton⟩ := Option.map_eq_some_iff.1 long
  obtain ⟨n₂, node₂, known⟩ := Option.map_eq_some_iff.1 isCache
  obtain ⟨source₂, contract₂⟩ := Prod.mk.inj known
  obtain ⟨-, lifetimes, bindings⟩ := build_shares handlers [] [.untagged "first" handler,
    .untagged "second" handler]
  refine ⟨?_, fun id n' node' source contract => ?_⟩
  · rw [node, Option.map_some, (lifetimes 4 n node).2.2.2.1 1 made lifetime]
  · have livesLong : binding.lifetime.livesWithComposition := by
      rw [singleton]
      rfl
    exact bindings 1 binding id 2 n' n₂ isBinding livesLong node' node₂ source source₂
      (contract₂.trans contract.symm)

end Resolver

end Wiring
