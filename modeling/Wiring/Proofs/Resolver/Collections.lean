import Wiring.Proofs.Registry.Index
import Wiring.Proofs.Resolver.Choice

/-!
# Resolver — Collections

A collection has one item for each binding whose contract unifies with the element type, overridden
ones included, in the order of declaration. An item is made by its binding, unless the collection
stands below a node of the same contract and tag: then every item with that tag is linked back to
the nearest such node. So a composite that overrides the services it collects holds itself in
their place.
-/

namespace Wiring

namespace Resolver

variable {r : Resolver} {roots : List (Root × Nat)} {births : List Birth} {s : Session}

/-- Each match is asked for at its position. -/
theorem itemParts_getElem? (r : Resolver) (d : Demand) (element : TypeExpr) (id : NodeId)
    (index : Nat) {matches' : List Match} {i : Nat} {found : Match}
    (at_i : matches'[i]? = some found) :
    ∃ part d', (r.itemParts d element id index matches')[i]? = some part ∧
      part.ask = .candidate element d' found := by
  induction matches' generalizing index i with
  | nil => nomatch at_i
  | cons first more ih =>
    cases i with
    | zero =>
      cases at_i
      exact ⟨_, _, rfl, rfl⟩
    | succ i => exact ih (index + 1) at_i

theorem length_itemParts (d : Demand) (element : TypeExpr) (id : NodeId) (index : Nat)
    (matches' : List Match) :
    (r.itemParts d element id index matches').length = matches'.length := by
  induction matches' generalizing index with
  | nil => rfl
  | cons _ _ ih => exact congrArg Nat.succ (ih _)

theorem Opens.collection_parts {ask s o kind element isLazy} (h : r.Opens ask s o)
    (collection : o.node.kind = .collection kind element isLazy) :
    ∃ d id, o.parts = r.itemParts d element id 0 (r.registry.allMatches element) := by
  cases h with
  | @bound _ _ choice s' =>
    have made := recipeOf_isMade (r := r) choice.contract choice.binding choice.substitution s'.memo
    have same : (r.recipeOf choice.contract choice.binding choice.substitution s'.memo).1.kind
      = .collection kind element isLazy := collection
    rw [same] at made
    nomatch made
  | accumulated => nomatch collection
  | @shape contract d s _ _ unbound shape =>
    have shape' : contract.shape? = some (.collection kind element isLazy) := collection ▸ shape
    cases contract <;> cases shape'
    exact ⟨d, _, rfl⟩

/-- The items of a collection are answered for the matches, from the chain at the collection. -/
theorem History.items_answer (h : History r roots births s) {id : Nat} {n : Node}
    {kind : CollectionKind} {element : TypeExpr} {isLazy : Bool}
    (node : s.graph.node? id = some n) (collection : n.kind = .collection kind element isLazy) :
    n.dependencies.length = (r.registry.allMatches element).length ∧
      ∃ c, List.Forall₂ (IsLink s.graph) c.chain (s.graph.chainAt id) ∧
        ∀ (i : Nat) d found, n.dependencies[i]? = some d →
          (r.registry.allMatches element)[i]? = some found →
          ∃ d', r.Answer births c (.candidate element d' found) d.target := by
  obtain ⟨b, born, closed⟩ := h.birth node
  cases closed with
  | @intro ask s' o inside opened answers =>
    obtain ⟨block, context⟩ := opened.inner_context
    obtain ⟨demand, wrapper, parts⟩ := opened.collection_parts collection
    have length : o.parts.length = inside.length := by simpa using answers.length_eq
    have links := h.chain born block
    rw [← context] at links
    refine ⟨?_, o.inner.context, links, ?_⟩
    · show (dependenciesOf o.node.kind o.parts inside).length = _
      rw [dependenciesOf, List.length_zipWith, ← length, Nat.min_self, parts, length_itemParts]
    · intro i d found edge at_i
      obtain ⟨part, target, at_part, at_target, rfl⟩ := List.getElem?_zipWith_eq_some.1 edge
      obtain ⟨part', d', at_part', ask⟩ :=
        r.itemParts_getElem? demand element wrapper 0 at_i
      rw [parts] at at_part
      cases at_part.symm.trans at_part'
      have at_ask : (o.parts.map (·.ask))[i]? = some part.ask := by
        rw [List.getElem?_map, parts, at_part, Option.map_some]
      exact ⟨d', ask ▸ rel_of_getElem? answers at_ask at_target⟩

/-- A collection has one item for each binding that unifies with its element, in the order of
declaration. Each is a node with the contract and tag of its binding, the one on the chain if there
is one; and it is made by the binding just when that one, if there is one, is. Only a unifier that
disregards heads may hide a binding from the look-up. -/
theorem build_collection (r : Resolver) (registered : r.registry.Registered)
    (found : List Diagnostic) (roots : List Root) :
    let g := (r.build found roots).1
    ∀ id n kind element isLazy, g.node? id = some n → n.kind = .collection kind element isLazy →
      n.dependencies.length = (r.registry.reachable element).length ∧
      (∀ (i : Nat) d b e σ, n.dependencies[i]? = some d →
        (r.registry.reachable element)[i]? = some (b, e, σ) →
        g.AnsweredBy (g.onChain? id element e.key) element e.key (.explicit b) d.target ∧
        (g.MadeBy e.key (.explicit b) d.target ↔
          g.LinkFrom (g.onChain? id element e.key) (.explicit b))) ∧
      (r.registry.unifier.RespectsHeads →
        r.registry.reachable element = r.registry.unifying element) := by
  obtain ⟨births, s, h, eq⟩ := build_history (r := r) found roots
  rw [eq]
  dsimp only
  intro id n kind element isLazy node collection
  have candidates := registered.candidates_eq element
  obtain ⟨length, c, links, items⟩ := h.items_answer node collection
  refine ⟨?_, ?_, fun heads => Registry.reachable_eq heads element⟩
  · rw [length, Registry.allMatches, candidates, List.length_map]
  · intro i d b e σ edge at_i
    obtain ⟨entry, -⟩ := Registry.entry_of_candidate (candidates ▸ List.mem_of_getElem? at_i)
    have key : r.registry.tagKey b = e.key := by rw [Registry.tagKey, entry]
    have binding : r.registry.binding? b = some e.binding := by
      rw [Registry.binding?, entry, Option.map_some]
    have at_match : (r.registry.allMatches element)[i]? = some ⟨b, σ, .exact, none⟩ := by
      rw [Registry.allMatches, candidates, List.getElem?_map, at_i, Option.map_some]
    obtain ⟨d', answer⟩ := items i d _ edge at_match
    have uncut (contract : TypeExpr) (d : Demand)
        (same : Ask.candidate element d' ⟨b, σ, .exact, none⟩ = .request contract d) :
        c.depth ≠ r.options.maxDepth := by cases same
    have answered := h.answeredBy links answer rfl binding uncut
    rw [key] at answered
    exact ⟨answered, answered.madeBy_iff⟩

/-! ## A composite

A composite service overrides the one it is made of. It collects all services behind a lazy value,
but the chain already has a node for an untagged service: itself.
-/

def partsOfComposite : Site := .parameter "parts" (.lazy (.collection .list service))

def composite : Resolver where
  registry := ((Registry.empty .empty .structural).registerAll
    [.plain service (.factory "part" []), .plain service (.factory "whole" [partsOfComposite])]).1
  options := { Options.standard with maxDepth := 3 }
  accumulators := []
  autoBinds := false
  filter := none

abbrev compositeGraph : Graph := (composite.build [] [.untagged "main" service]).1

/-- The list of the composite. -/
def partsList : Node where
  id := 2
  contract := .collection .list service
  tag := .untagged
  resultType := .collection .list service
  source := .implicit
  kind := .collection .list service false
  lifetime := .transient
  scope := none
  owner := .resolve 0
  dependencies :=
    [⟨partSite "item0" service none, .node 0, false⟩,
      ⟨partSite "item1" service none, .node 0, false⟩]
  isDisposable := false
  flags := .none

theorem composite_list : compositeGraph.node? 2 = some partsList := by cbv

theorem composite_self : (compositeGraph.node? 0).map (·.source) = some (.explicit 1) := by cbv

/-- The part is the first of the services. -/
theorem composite_unifying :
    ∃ e σ, (composite.registry.unifying service)[0]? = some (0, e, σ) ∧ e.key = .untagged := by
  have found : ((composite.registry.unifying service)[0]?).map
      (fun found => (found.1, found.2.1.key)) = some (0, .untagged) := by cbv
  obtain ⟨⟨b, e, σ⟩, at_0, same⟩ := Option.map_eq_some_iff.1 found
  obtain ⟨rfl, key⟩ := Prod.mk.inj same
  exact ⟨e, σ, at_0, key⟩

theorem build_collection_composite :
    compositeGraph.MadeBy .untagged (.explicit 0) (.node 0) ↔
      compositeGraph.LinkFrom (compositeGraph.onChain? 2 service .untagged) (.explicit 0) := by
  obtain ⟨e, σ, at_0, key⟩ := composite_unifying
  obtain ⟨-, items, all⟩ := build_collection composite (.all (.empty ..) _) [] _ 2 partsList .list
    service false composite_list rfl
  rw [← all Unifier.structural_respectsHeads] at at_0
  have item := (items 0 _ 0 e σ rfl at_0).2
  rw [key] at item
  exact item

/-- The list has the composite twice, and no part. -/
theorem composite_loses_part : ¬ ∀ id n kind element isLazy, compositeGraph.node? id = some n →
    n.kind = .collection kind element isLazy →
    n.dependencies.length = (composite.registry.unifying element).length ∧
    ∀ (i : Nat) d b e σ, n.dependencies[i]? = some d →
      (composite.registry.unifying element)[i]? = some (b, e, σ) →
      ∃ t m, d.target = .node t ∧ compositeGraph.node? t = some m ∧ m.source = .explicit b := by
  intro claim
  obtain ⟨e, σ, at_0, -⟩ := composite_unifying
  obtain ⟨t, m, eq, node, source⟩ :=
    (claim 2 partsList .list service false composite_list rfl).2 0 _ 0 e σ rfl at_0
  cases eq
  have self := composite_self
  rw [node, Option.map_some, source] at self
  nomatch self

end Resolver

end Wiring
