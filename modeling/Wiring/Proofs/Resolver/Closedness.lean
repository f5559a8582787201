import Wiring.Proofs.Catalog
import Wiring.Proofs.Registry.Candidates
import Wiring.Proofs.Registry.Scan
import Wiring.Proofs.Resolver.Making
import Wiring.Proofs.Resolver.Metadata
import Wiring.Proofs.Resolver.Unanswered

/-!
# Resolver — Closedness

No marker gets into a graph. A binding is only taken when its contract unifies with what is asked
for, and a descriptor when its type does. So when a type without markers is asked for, each marker
of the contract and of the described type stands for such a type; and if all that is built from them
mentions no other markers, what is asked for next has no markers either.
-/

namespace Wiring

/-- A type mentions no markers but those of another one. -/
def TypeExpr.MentionsOnly (t declared : TypeExpr) : Prop :=
  ∀ m ∈ t.markerOccurrences, m ∈ declared.markerOccurrences

instance (t declared : TypeExpr) : Decidable (t.MentionsOnly declared) :=
  inferInstanceAs (Decidable (∀ m ∈ t.markerOccurrences, m ∈ declared.markerOccurrences))

theorem TypeExpr.MentionsOnly.apply {t declared : TypeExpr} {s : Substitution}
    (only : t.MentionsOnly declared) (closes : s.Closes declared) : (s.apply t).isOpen = false :=
  Substitution.Closes.apply fun m occurs => closes m (only m occurs)

/-- The type that is built, or the sites of what builds it, mention only the markers of a type. -/
def Implementation.MentionsOnly (declared : TypeExpr) : Implementation → Prop
  | .type built => built.MentionsOnly declared
  | .factory _ sites => ∀ site ∈ sites, site.contract.MentionsOnly declared
  | .argument _ => True

instance (declared : TypeExpr) : DecidablePred (Implementation.MentionsOnly declared)
  | .type built => inferInstanceAs (Decidable (built.MentionsOnly declared))
  | .factory _ sites =>
    inferInstanceAs (Decidable (∀ site ∈ sites, site.contract.MentionsOnly declared))
  | .argument _ => inferInstanceAs (Decidable True)

/-- What a binding builds from mentions only the markers of its contract. -/
def Binding.IsScoped (b : Binding) : Prop := b.implementation.MentionsOnly b.contract

instance : DecidablePred Binding.IsScoped :=
  fun b => inferInstanceAs (Decidable (b.implementation.MentionsOnly b.contract))

/-- The parameters and the members of a type mention only the markers of the type. -/
structure Descriptor.IsScoped (d : Descriptor) : Prop where
  params : ∀ c ∈ d.constructors, ∀ param ∈ c.params, param.contract.MentionsOnly d.type
  members : ∀ member ∈ d.members, member.contract.MentionsOnly d.type

/-- A binding that builds nothing with markers for a contract. -/
structure Choice.IsClosed (choice : Choice) : Prop where
  contract : choice.contract.isOpen = false
  binding : choice.binding.IsScoped
  closes : choice.substitution.Closes choice.binding.contract

/-- There is no marker in a node. -/
structure Node.IsClosed (n : Node) : Prop where
  contract : n.contract.isOpen = false
  result : n.resultType.isOpen = false
  sites : ∀ d ∈ n.dependencies, d.site.contract.isOpen = false

/-- There is no marker in a graph. -/
structure Graph.IsClosed (g : Graph) : Prop where
  nodes : ∀ n ∈ g.nodes, n.IsClosed
  unresolved : ∀ u ∈ g.unresolved, u.contract.isOpen = false

/-- The constructor that is chosen, if any, is one of the listed ones. -/
theorem Resolver.mem_sitesOf {d : Descriptor} {s : Substitution} {choice : Selection} {site : Site}
    (mem : site ∈ sitesOf d s choice) :
    ∃ declared, site = s.applySite declared ∧
      ((∃ c ∈ d.constructors, declared ∈ c.params) ∨ declared ∈ d.members) := by
  obtain ⟨declared, listed, rfl⟩ := List.mem_map.1 mem
  refine ⟨declared, rfl, ?_⟩
  rcases List.mem_append.1 listed with param | member
  · split at param
    · next c chosen =>
      obtain ⟨index, -, there⟩ := Option.bind_eq_some_iff.1 chosen
      exact .inl ⟨c, List.mem_of_getElem? there, param⟩
    · nomatch param
  · exact .inr (List.mem_mergeSort.1 member)

namespace Graph.IsClosed

variable {s : Session}

theorem empty : Graph.empty.IsClosed where
  nodes := fun _ mem => absurd mem List.not_mem_nil
  unresolved := fun _ mem => absurd mem List.not_mem_nil

theorem enterRoot (h : s.graph.IsClosed) {root : Root} {index : Nat} :
    (s.enterRoot root index).graph.IsClosed := h

theorem leaveRoot (h : s.graph.IsClosed) {edge : RootEdge} :
    (s.leaveRoot edge).graph.IsClosed := ⟨h.nodes, h.unresolved⟩

end Graph.IsClosed

namespace Resolver

open Session

variable {r : Resolver} {ask : Ask} {s s' : Session}

/-- All that bindings and descriptors build from is scoped, and unification is structural. -/
structure IsScoped (r : Resolver) : Prop where
  unifier : r.registry.unifier = .structural
  bindings : ∀ e ∈ r.registry.entries, e.binding.IsScoped
  types : ∀ d ∈ r.registry.catalog.types, d.IsScoped

/-- A request without markers, for a candidate only when it was found. -/
structure IsClosed (r : Resolver) (ask : Ask) : Prop where
  found : r.IsFound ask
  closed : ask.contract.isOpen = false

/-! ## Recipes -/

theorem sitesOf_closed {d : Descriptor} {t : Substitution} (own : d.IsScoped)
    (closes : t.Closes d.type) (choice : Selection) :
    ∀ site ∈ sitesOf d t choice, site.contract.isOpen = false := by
  intro site mem
  obtain ⟨declared, rfl, ⟨c, listed, param⟩ | member⟩ := mem_sitesOf mem
  · exact (own.params c listed declared param).apply closes
  · exact (own.members declared member).apply closes

variable {contract : TypeExpr} {b : Binding} {σ : Substitution}

/-- What a binding builds for a contract without markers has none. -/
theorem IsScoped.recipeOf (bounds : r.IsScoped) (own : b.IsScoped) (closes : σ.Closes b.contract)
    (closed : contract.isOpen = false) (memo : ProbeMemo) :
    (r.recipeOf contract b σ memo).1.resultType.isOpen = false ∧
      ∀ site ∈ (r.recipeOf contract b σ memo).1.sites, site.contract.isOpen = false := by
  rw [Binding.IsScoped] at own
  rw [Resolver.recipeOf]
  cases implementation : b.implementation with
  | argument => exact ⟨closed, List.forall_mem_nil _⟩
  | factory label sites =>
    rw [implementation] at own
    exact ⟨closed, List.forall_mem_map.2 fun site mem => (own site mem).apply closes⟩
  | type type =>
    rw [implementation] at own
    have result := own.apply closes
    dsimp only
    split
    · next d t described =>
      split
      · rw [descriptorOf, bounds.unifier] at described
        -- The type that is built has no markers, so it closes the type that is described.
        have known := bounds.types d (Catalog.mem_of_descriptorOf described)
        exact ⟨result, sitesOf_closed known (Catalog.closes_of_descriptorOf result described) _⟩
      · exact ⟨result, List.forall_mem_nil _⟩
    · exact ⟨result, List.forall_mem_nil _⟩

/-! ## Choices -/

/-- A match for a contract without markers closes the contract of its binding. -/
theorem IsScoped.choiceOf (bounds : r.IsScoped) {found : Match} {e : Entry}
    (candidate : (found.binding, e, found.substitution) ∈ r.registry.candidates contract)
    (isBinding : r.registry.binding? found.binding = some b) (closed : contract.isOpen = false) :
    Choice.IsClosed (r.choiceOf contract found b) := by
  obtain ⟨entry, unified⟩ := Registry.entry_of_candidate candidate
  rw [Registry.binding?, entry] at isBinding
  obtain rfl := Option.some.inj isBinding
  rw [bounds.unifier] at unified
  exact ⟨closed, bounds.bindings e (List.mem_of_getElem? entry),
    Unifier.closes_of_unify closed unified⟩

theorem Chooses.isClosed {choice : Choice} (h : r.Chooses ask s choice s') (bounds : r.IsScoped)
    (asked : r.IsClosed ask) : choice.IsClosed := by
  cases h with
  | bound _ lookup isBinding =>
    obtain ⟨e, candidate⟩ := Registry.candidate_of_lookup lookup
    exact bounds.choiceOf candidate isBinding asked.closed
  | candidate isBinding =>
    obtain ⟨e, candidate⟩ := Registry.candidate_of_allMatches asked.found
    exact bounds.choiceOf candidate isBinding asked.closed
  | auto _ _ auto =>
    obtain ⟨rfl, -⟩ := autoBinding_constructs auto
    exact ⟨asked.closed, fun _ occurs => occurs, Substitution.closes_of_closed asked.closed⟩

/-! ## Parts -/

theorem headed_of_shape {kind : NodeKind} (shape : contract.shape? = some kind) :
    contract.head? ≠ none := by
  cases contract with
  | marker => nomatch shape
  | _ => exact nofun

/-- The parts of a built-in shape ask for parts of its contract. -/
theorem contract_of_shapeParts {d : Demand} {id : NodeId} {part : Part}
    (mem : part ∈ r.shapeParts d id contract) : part.ask.contract ∈ contract.children := by
  have items (element : TypeExpr) (index : Nat) (matches' : List Match)
      (mem : part ∈ r.itemParts d element id index matches') : part.ask.contract = element := by
    induction matches' generalizing index with
    | nil => nomatch mem
    | cons found more ih =>
      rcases List.mem_cons.1 mem with rfl | later
      · rfl
      · exact ih _ later
  have fields (index : Nat) (types : List TypeExpr) (mem : part ∈ tupleParts d id index types) :
      part.ask.contract ∈ types := by
    induction types generalizing index with
    | nil => nomatch mem
    | cons item more ih =>
      rcases List.mem_cons.1 mem with rfl | later
      · exact List.mem_cons_self
      · exact List.mem_cons_of_mem _ (ih _ later)
  cases contract with
  | named | marker => nomatch mem
  | collection => exact List.mem_singleton.2 (items _ _ _ mem)
  | tuple => exact fields _ _ mem
  | func | lazy | owned =>
    obtain rfl := List.mem_singleton.1 mem
    exact List.mem_singleton_self _

/-! ## Opened nodes -/

variable {o : Opening}

/-- What is asked for inside a node has no markers. -/
theorem Opens.parts_closed (h : r.Opens ask s o) (bounds : r.IsScoped) (asked : r.IsClosed ask) :
    ∀ part ∈ o.parts, r.IsClosed part.ask := by
  refine fun part mem => ⟨h.isFound part mem, ?_⟩
  cases h with
  | accumulated => nomatch mem
  | bound chosen =>
    have choice := chosen.isClosed bounds asked
    obtain ⟨site, listed, rfl⟩ := List.mem_map.1 mem
    exact (bounds.recipeOf choice.binding choice.closes choice.contract _).2 site listed
  | shape _ _ shape =>
    have headed := headed_of_shape shape
    exact (TypeExpr.isOpen_eq_false_of_headed headed).1 asked.closed _ (contract_of_shapeParts mem)

theorem Opens.node_closed (h : r.Opens ask s o) (bounds : r.IsScoped) (asked : r.IsClosed ask) :
    (o.birth s).node.IsClosed where
  contract := by
    cases h with
    | bound chosen => exact (chosen.isClosed bounds asked).contract
    | accumulated | shape => exact asked.closed
  result := by
    cases h with
    | bound chosen =>
      have choice := chosen.isClosed bounds asked
      exact (bounds.recipeOf choice.binding choice.closes choice.contract _).1
    | accumulated | shape => exact asked.closed
  sites := by
    rw [h.dependencies_eq]
    exact List.forall_mem_nil _

/-- A node is closed with the sites of its parts. -/
theorem Opens.connected_closed (h : r.Opens ask s o) (bounds : r.IsScoped)
    (asked : r.IsClosed ask) (targets : List Target) :
    ((o.birth s).node.connected (dependenciesOf o.node.kind o.parts targets)).IsClosed where
  contract := (h.node_closed bounds asked).contract
  result := (h.node_closed bounds asked).result
  sites d edge := by
    obtain ⟨⟨part, mem, site⟩, -⟩ := of_mem_dependenciesOf edge
    have same : part.ask.contract = part.site.contract := (h.ofDependency mem 0 "").contract
    rw [← site, ← same]
    exact (h.parts_closed bounds asked part mem).closed

/-! ## Runs -/

theorem Settles.isClosed {target : Target} (h : r.Settles ask s target s')
    (asked : r.IsClosed ask) (g : s.graph.IsClosed) : s'.graph.IsClosed where
  nodes := h.nodes_eq ▸ g.nodes
  unresolved := by
    rcases h.entries with ⟨-, entries⟩ | ⟨-, entries⟩
    · rw [entries]
      exact g.unresolved
    · rw [entries]
      exact List.forall_mem_append.2 ⟨g.unresolved, List.forall_mem_singleton.2 asked.closed⟩

theorem Opens.isClosed (h : r.Opens ask s o) (bounds : r.IsScoped) (asked : r.IsClosed ask)
    (g : s.graph.IsClosed) : o.inner.graph.IsClosed where
  nodes := by
    rw [h.inner_nodes]
    exact List.forall_mem_append.2
      ⟨g.nodes, List.forall_mem_singleton.2 (h.node_closed bounds asked)⟩
  unresolved := h.unresolved_eq ▸ g.unresolved

theorem Opens.isClosed_close {targets : List Target} (h : r.Opens ask s o) (bounds : r.IsScoped)
    (asked : r.IsClosed ask) (inside : Extends o.inner s') (g : s'.graph.IsClosed) :
    (s'.close s.context s.nextNode
      (dependenciesOf o.node.kind o.parts targets)).graph.IsClosed where
  nodes := by
    obtain ⟨more, before, after⟩ := h.closed_nodes inside
      (dependenciesOf o.node.kind o.parts targets)
    have nodes := g.nodes
    -- Only the node that is closed changes, and only in its edges.
    rw [before, List.forall_mem_append, List.forall_mem_cons] at nodes
    rw [after, List.forall_mem_append, List.forall_mem_cons]
    exact ⟨nodes.1, h.connected_closed bounds asked targets, nodes.2.2⟩
  unresolved := g.unresolved

/-- When no request has markers, no marker gets into the graph. -/
theorem Run.isClosed {asks targets births} (h : r.Run asks s targets s' births)
    (bounds : r.IsScoped) (asked : ∀ ask ∈ asks, r.IsClosed ask) (g : s.graph.IsClosed) :
    s'.graph.IsClosed := by
  induction h with
  | done => exact g
  | settle settled _ ih =>
    obtain ⟨first, rest⟩ := List.forall_mem_cons.1 asked
    exact ih rest (settled.isClosed first g)
  | make opened parts _ ih ih' =>
    obtain ⟨first, rest⟩ := List.forall_mem_cons.1 asked
    have inside := ih (List.forall_mem_map.2 (opened.parts_closed bounds first))
      (opened.isClosed bounds first g)
    exact ih' rest (opened.isClosed_close bounds first parts.extends inside)

/-! ## Whole graphs -/

/-- When no root asks for a type with markers, there is none in the graph: not in what the nodes are
asked for or built as, not at their sites, and not in the entries for requests that nothing
answered. -/
theorem build_isClosed (r : Resolver) (bounds : r.IsScoped) (found : List Diagnostic)
    (roots : List Root) (closed : ∀ root ∈ roots, root.contract.isOpen = false) :
    (r.build found roots).1.IsClosed := by
  obtain ⟨_, -, holds⟩ := resolveRoots_induction (r := r) found
    (motive := fun roots _ => (∀ root ∈ roots, root.contract.isOpen = false) →
      (r.resolveRoots (.begin found) roots).graph.IsClosed)
    (fun _ => .empty)
    (fun _ _ _ _ _ _ _ ih run whole closed => by
      obtain ⟨older, last⟩ := List.forall_mem_append.1 closed
      have asked := List.forall_mem_singleton.1 last
      have inside := run.isClosed bounds (List.forall_mem_singleton.2 ⟨trivial, asked⟩)
        (ih older).enterRoot
      rw [whole]
      exact inside.leaveRoot)
    roots
  exact holds closed

/-! ### An archive of anything

A repository of anything keeps lists of it in a store, and has all the readers of it. No codec is
declared, for lists or anything else.
-/

def repositoryOf (element : TypeExpr) : TypeExpr := .named "Repository" [element]

def storeOf (element : TypeExpr) : TypeExpr := .named "IStore" [element]

def readerOf (element : TypeExpr) : TypeExpr := .named "Reader" [element]

def codecOf (element : TypeExpr) : TypeExpr := .named "ICodec" [element]

def document : TypeExpr := .named "Document" []

def anything : TypeExpr := .marker "TT"

def archiveTypes : List Descriptor :=
  [{ Descriptor.concrete (repositoryOf anything) with
      constructors := [⟨true, none,
        [.parameter "store" (.lazy (storeOf (.collection .list anything)))]⟩]
      members := [.property "readers" (.collection .array (readerOf anything))] },
    .concrete (readerOf anything)]

def archiveBindings : List Binding :=
  [.ofType (repositoryOf anything) (repositoryOf anything),
    .plain (storeOf anything) (.factory "store" [.parameter "codec" (codecOf anything)]),
    .ofType (readerOf anything) (readerOf anything)]

def archive : Resolver where
  registry := ((Registry.empty ⟨archiveTypes⟩ .structural).registerAll archiveBindings).1
  options := .standard
  accumulators := []
  autoBinds := true
  filter := none

abbrev archiveGraph : Graph := (archive.build [] [.untagged "main" (repositoryOf document)]).1

theorem archiveGraph_facts :
    archiveGraph.nodes.map (·.contract) = [repositoryOf document,
        .lazy (storeOf (.collection .list document)), storeOf (.collection .list document),
        .collection .array (readerOf document), readerOf document] ∧
      archiveGraph.unresolved.map (·.contract) = [codecOf (.collection .list document)] := by cbv

theorem archive_isScoped : archive.IsScoped where
  unifier := rfl
  bindings := by
    have declared := Registry.bindings_registerAll ⟨archiveTypes⟩ .structural archiveBindings
    have each : ∀ b ∈ archiveBindings, b.IsScoped := by decide
    exact List.forall_mem_map.1 (declared.symm ▸ each)
  types := by
    show ∀ d ∈ archiveTypes, d.IsScoped
    simp only [archiveTypes, List.forall_mem_cons]
    exact ⟨⟨by decide, by decide⟩, ⟨by decide, by decide⟩, nofun⟩

/-- Five nodes and the entry for the codec, all without markers. -/
theorem build_isClosed_archive :
    archive.IsScoped ∧ (repositoryOf document).isOpen = false ∧ archiveGraph.IsClosed ∧
      archiveGraph.nodes.length = 5 ∧ archiveGraph.unresolved.length = 1 := by
  obtain ⟨nodes, unresolved⟩ := archiveGraph_facts
  have closed : (repositoryOf document).isOpen = false := by decide
  refine ⟨archive_isScoped, closed, ?_, ?_, ?_⟩
  · exact build_isClosed archive archive_isScoped [] _ (List.forall_mem_singleton.2 closed)
  · simpa using congrArg List.length nodes
  · simpa using congrArg List.length unresolved

end Resolver

end Wiring
