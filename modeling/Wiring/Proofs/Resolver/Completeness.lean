import Mathlib
import Wiring.Proofs.Catalog
import Wiring.Proofs.Graph.Traversal
import Wiring.Proofs.Registry.Untagged
import Wiring.Proofs.Resolver.Choice
import Wiring.Proofs.Resolver.Making
import Wiring.Proofs.Resolver.Sharing

/-!
# Resolver — Completeness

What the builder can resolve, a probe answers with yes, provided that two differences do not matter.
A probe counts every step against the depth limit, where the builder counts the bindings on the
chain; and it asks for the items of a tuple without the path of the site, which the builder keeps.
-/

namespace Wiring

/-- A type leads to another through factories, lazy and owned values, and the items of tuples. -/
inductive TypeExpr.Spans : TypeExpr → TypeExpr → Prop where
  | refl (t : TypeExpr) : Spans t t
  | wrapped {t target part} (shape : t.wrapped? = some target) (inner : Spans target part) :
      Spans t part
  | item {items item part} (mem : item ∈ items) (inner : Spans item part) :
      Spans (.tuple items) part

theorem TypeExpr.Spans.eq_of_isNamed {t part : TypeExpr} (h : t.Spans part) (named : t.isNamed) :
    part = t := by
  cases h with
  | refl => rfl
  | wrapped shape => nomatch (wrapped?_of_isNamed named).symm.trans shape
  | item => nomatch named

/-- A target is a node from which no unresolved dependency is reached. -/
def Graph.IsClean (g : Graph) (target : Target) : Prop :=
  ∃ id, target = .node id ∧ ∀ m, Traversal.Reaches g.successors id m →
    ∀ n d, g.node? m = some n → d ∈ n.dependencies → d.target.isUnresolved = false

theorem Graph.not_isClean_of_isUnresolved {g : Graph} {target : Target}
    (h : target.isUnresolved) : ¬g.IsClean target := by
  rintro ⟨id, rfl, -⟩
  nomatch h

theorem Graph.isClean_of_resolved {g : Graph} {id : NodeId}
    (h : ∀ n ∈ g.nodes, ∀ d ∈ n.dependencies, d.target.isUnresolved = false) :
    g.IsClean (.node id) :=
  ⟨id, rfl, fun _ _ n d node => h n (List.mem_of_getElem? node) d⟩

/-- What a clean node depends on is clean. -/
theorem Graph.IsClean.dependency {g : Graph} {id : NodeId} {n : Node} {d : Dependency}
    (h : g.IsClean (.node id)) (node : g.node? id = some n) (edge : d ∈ n.dependencies) :
    g.IsClean d.target := by
  obtain ⟨_, ⟨⟩, clean⟩ := h
  cases target : d.target with
  | unresolved =>
    have resolved := clean id .refl n d node edge
    rw [target] at resolved
    nomatch resolved
  | node m =>
    have leads : m ∈ g.successors id := Graph.mem_successors.2 ⟨n, d, node, edge, target⟩
    exact ⟨m, rfl, fun v reach => clean v (.head leads reach)⟩

/-- There is a clean node for a type, without a tag, that a binding makes. -/
def Graph.Builds (g : Graph) (type : TypeExpr) : Prop :=
  ∃ id n, g.node? id = some n ∧ n.contract = type ∧ n.tag = .untagged ∧ n.source ≠ .implicit ∧
    g.IsClean (.node id)

namespace Resolver

open Session

variable (r : Resolver)

/-- Without a path everything in a type is found that is found with the path. -/
def Pathless (type : TypeExpr) (path : Option String) : Prop :=
  ∀ part, type.Spans part → (r.lookup ⟨part, none, path⟩).isSome →
    (r.lookup ⟨part, none, none⟩).isSome

/-- The items of a tuple do not depend on the path of the site. -/
def PathFree (Q : Question) : Prop :=
  ∀ items, Q.query.contract = .tuple items → ∀ item ∈ items, r.Pathless item Q.query.path

/-- The builder met a request: it was answered by a clean node, if only at another path that does
not matter. -/
def Met (e : Session) (q : Query) : Prop :=
  ∃ d target, d.tag = q.tag ∧
    (d.path = q.path ∨ q.tag = none ∧ q.path = none ∧ r.Pathless q.contract d.path) ∧
    r.Answered e (.request q.contract d) target ∧ e.graph.IsClean target

variable {r} {s s' e : Session} {ask : Ask} {target : Target} {contract type : TypeExpr}
  {d : Demand} {q : Query}

/-! ## Replies to unbound requests -/

/-- An unbound request is answered by its type only. -/
theorem Chooses.of_unbound {choice : Choice} (h : r.Chooses (.request contract d) s choice s')
    (unbound : r.Unbound contract d) :
    (r.autoBinding contract).isSome ∧ choice.contract = contract ∧ choice.tag = .untagged ∧
      choice.binding.lifetime = .transient := by
  cases h with
  | bound _ lookup => nomatch unbound.1.symm.trans lookup
  | auto _ _ auto => exact ⟨by rw [auto]; rfl, rfl, rfl, lifetime_of_autoBinding auto⟩

/-- A clean answer to an unbound request is a node of a built-in shape, or a node for its type. -/
theorem Answered.of_unbound (h : r.Answered e (.request contract d) target)
    (unbound : r.Unbound contract d) (clean : e.graph.IsClean target) :
    (∃ id n inside, contract.shape?.isSome ∧ e.graph.node? id = some n ∧
      n.dependencies = dependenciesOf n.kind (r.shapeParts d id contract) inside ∧
      e.graph.IsClean (.node id) ∧
      List.Forall₂ (r.Answered e) ((r.shapeParts d id contract).map (·.ask)) inside) ∨
    (r.autoBinding contract).isSome ∧ e.graph.Builds contract := by
  cases h.reply with
  | settled way settled =>
    refine .inr ?_
    cases settled with
    | cut | refused | missing => exact absurd clean (Graph.not_isClean_of_isUnresolved rfl)
    | linked chosen link =>
      obtain ⟨auto, isContract, isTag, -⟩ := chosen.of_unbound unbound
      rw [chosen.extends.context, isContract, isTag] at link
      obtain ⟨found, isFound, rfl⟩ := Option.map_eq_some_iff.1 link
      obtain ⟨n, node, sameContract, sameTag, source⟩ :=
        way.links found (List.mem_of_find?_eq_some isFound)
      have answers := List.find?_some isFound
      simp only [decide_eq_true_eq] at answers
      exact ⟨auto, _, n, node, sameContract.trans answers.1, sameTag.trans answers.2, source, clean⟩
    | shared chosen _ share =>
      obtain ⟨-, -, -, transient⟩ := chosen.of_unbound unbound
      obtain ⟨scope, _, sharing, -⟩ := sharedNode?_spec share
      rw [transient] at sharing
      nomatch sharing
    | accumulated _ _ accumulator => nomatch unbound.2.symm.trans accumulator
  | @opened s o inside way opened node answers =>
    cases opened with
    | @bound _ _ choice s' chosen =>
      obtain ⟨auto, isContract, isTag, -⟩ := chosen.of_unbound unbound
      have source : choice.source ≠ .implicit := by
        intro implicit
        cases chosen <;> cases implicit
      exact .inr ⟨auto, _, _, node, isContract, isTag, source, clean⟩
    | accumulated _ _ accumulator => nomatch unbound.2.symm.trans accumulator
    | @shape _ _ _ kind _ _ shape =>
      exact .inl ⟨_, _, inside, by rw [shape]; rfl, node, rfl, clean, answers⟩

/-- Each part leads to a dependency. -/
theorem exists_dependency {P : Ask → Target → Prop} (kind : NodeKind) {parts : List Part}
    {inside : List Target} (h : List.Forall₂ P (parts.map (·.ask)) inside) {part : Part}
    (mem : part ∈ parts) : ∃ d ∈ dependenciesOf kind parts inside, P part.ask d.target := by
  induction parts generalizing inside with
  | nil => nomatch mem
  | cons first more ih =>
    cases h with
    | cons answer rest =>
      rcases List.mem_cons.1 mem with rfl | later
      · exact ⟨_, List.mem_cons_self, answer⟩
      · obtain ⟨d, mem', found⟩ := ih rest later
        exact ⟨d, List.mem_cons_of_mem _ mem', found⟩

theorem mem_tupleParts (d : Demand) (id : NodeId) (start : Nat) {items : List TypeExpr}
    {item : TypeExpr} (mem : item ∈ items) : ∃ index : Nat,
      ⟨partSite ("item" ++ toString index) item none, .request item
        (d.inside (partSite ("item" ++ toString index) item none) id)⟩
        ∈ tupleParts d id start items := by
  induction items generalizing start with
  | nil => nomatch mem
  | cons first more ih =>
    rw [tupleParts]
    rcases List.mem_cons.1 mem with rfl | later
    · exact ⟨start, List.mem_cons_self⟩
    · obtain ⟨index, there⟩ := ih (start + 1) later
      exact ⟨index, List.mem_cons_of_mem _ there⟩

namespace Met

/-- When a probe finds no binding for a request that was met, the builder had none. -/
theorem unbound (h : r.Met e q) (unbound : r.isBound q = false) :
    ∃ d target, r.Unbound q.contract d ∧ d.tag = q.tag ∧
      (d.path = q.path ∨ q.tag = none ∧ q.path = none ∧ r.Pathless q.contract d.path) ∧
      r.Answered e (.request q.contract d) target ∧ e.graph.IsClean target := by
  obtain ⟨d, target, tag, path, answered, clean⟩ := h
  refine ⟨d, target, ?_, tag, path, answered, clean⟩
  obtain ⟨contract, tag', path'⟩ := q
  obtain rfl : d.tag = tag' := tag
  rcases path with rfl | ⟨untagged, rfl, pathless⟩
  · exact isBound_eq_false_iff.1 unbound
  · have alone : r.lookup ⟨contract, d.tag, none⟩ = none ∧ r.askedAccumulator contract = none :=
      isBound_eq_false_iff (d := ⟨d.tag, none, none, none⟩).1 unbound
    refine ⟨Option.not_isSome_iff_eq_none.1 fun found => ?_, alone.2⟩
    simp only at untagged
    rw [untagged] at found alone
    have found' := pathless contract (.refl _) found
    rw [alone.1] at found'
    nomatch found'

/-- What is met without a binding is a built-in shape or a type that may be bound by itself. -/
theorem shape_or_auto (h : r.Met e q) (open' : r.isBound q = false) :
    q.contract.shape?.isSome ∨ (r.autoBinding q.contract).isSome := by
  obtain ⟨d, target, unbound, -, -, answered, clean⟩ := h.unbound open'
  rcases answered.of_unbound unbound clean with ⟨_, _, _, shape, -⟩ | ⟨auto, -⟩
  · exact .inl shape
  · exact .inr auto

/-- What a factory, a lazy or an owned value is made for was met. -/
theorem wrapped {part : TypeExpr} (h : r.Met e q) (open' : r.isBound q = false)
    (shape : q.contract.wrapped? = some part) : r.Met e { q with contract := part } := by
  obtain ⟨d, target, unbound, tag, path, answered, clean⟩ := h.unbound open'
  rcases answered.of_unbound unbound clean with
    ⟨id, n, inside, -, node, deps, clean, answers⟩ | other
  · have parts : r.shapeParts d id q.contract = [targetPart d id part] := by
      cases contract : q.contract with
      | func | lazy | owned =>
        rw [contract] at shape
        cases shape
        rfl
      | named | marker | collection | tuple => rw [contract] at shape; nomatch shape
    rw [parts] at answers deps
    obtain ⟨dependency, edge, answer⟩ :=
      exists_dependency n.kind answers (List.mem_cons_self ..)
    refine ⟨d.inside (partSite "target" part d.tag) id, dependency.target, tag, ?_, answer,
      clean.dependency node (deps ▸ edge)⟩
    refine path.imp_right fun ⟨untagged, pathless, wide⟩ => ⟨untagged, pathless, ?_⟩
    exact fun part' spans => wide part' (.wrapped shape spans)
  · obtain ⟨b, auto⟩ := Option.isSome_iff_exists.1 other.1
    nomatch shape.symm.trans (TypeExpr.wrapped?_of_isNamed (isNamed_of_autoBinding auto))

/-- The items of a tuple were met, if at another path. -/
theorem item {items : List TypeExpr} {item : TypeExpr} (h : r.Met e q)
    (open' : r.isBound q = false) (shape : q.contract = .tuple items) (mem : item ∈ items)
    (pathless : r.Pathless item q.path) : r.Met e ⟨item, none, none⟩ := by
  obtain ⟨d, target, unbound, -, path, answered, clean⟩ := h.unbound open'
  rw [shape] at unbound answered path
  rcases answered.of_unbound unbound clean with
    ⟨id, n, inside, -, node, deps, clean, answers⟩ | other
  · obtain ⟨index, there⟩ := mem_tupleParts d id 0 mem
    obtain ⟨dependency, edge, answer⟩ := exists_dependency n.kind answers there
    refine ⟨_, dependency.target, rfl, .inr ⟨rfl, rfl, ?_⟩, answer,
      clean.dependency node (deps ▸ edge)⟩
    rcases path with same | ⟨-, -, wide⟩
    · exact same ▸ pathless
    · exact fun part spans => wide part (.item mem spans)
  · obtain ⟨b, auto⟩ := Option.isSome_iff_exists.1 other.1
    nomatch isNamed_of_autoBinding auto

theorem builds (h : r.Met e q) (open' : r.isBound q = false) (named : q.contract.isNamed) :
    e.graph.Builds q.contract := by
  obtain ⟨d, target, unbound, -, -, answered, clean⟩ := h.unbound open'
  rcases answered.of_unbound unbound clean with ⟨_, _, _, shape, -⟩ | ⟨-, built⟩
  · cases contract : q.contract with
    | named => rw [contract] at shape; nomatch shape
    | marker | collection | func | lazy | owned | tuple => rw [contract] at named; nomatch named
  · exact built

end Met

/-! ## Built types -/

/-- A node without a tag for a contract that no look-up finds a binding for is not declared. -/
theorem Chooses.autoBinding_of_untagged {choice : Choice} (h : r.Chooses ask s choice s')
    (found : r.IsFound ask) (registered : r.registry.Registered) (untagged : choice.tag = .untagged)
    (same : choice.contract = q.contract) (unbound : r.isBound q = false) :
    r.autoBinding choice.contract = some choice.binding ∧ choice.substitution = ∅ := by
  -- A declared one would be found, or else the one that overrides it.
  have declared {m : Match} (candidate : ∃ e, (m.binding, e, m.substitution) ∈
      r.registry.candidates choice.contract) (key : r.registry.tagKey m.binding = .untagged) :
      False := by
    obtain ⟨e, candidate⟩ := candidate
    rw [Registry.tagKey, (Registry.entry_of_candidate candidate).1] at key
    rw [same] at candidate
    have bound : (r.lookup q).isSome := registered.lookup_isSome_of_untagged candidate key
    rw [lookup_eq_none_of_isBound unbound] at bound
    cases bound
  cases h with
  | bound _ lookup =>
    exact (declared (Registry.candidate_of_lookup lookup) untagged).elim
  | candidate =>
    exact (declared (Registry.candidate_of_allMatches found) untagged).elim
  | auto _ _ auto => exact ⟨auto, rfl⟩

/-- A node for a type that is bound by itself is constructed as the type. -/
theorem openBound_auto {choice : Choice}
    (auto : r.autoBinding choice.contract = some choice.binding)
    (empty : choice.substitution = ∅) :
    (∃ index, (r.openBound choice s).node.kind = .construct index) ∧
      (r.openBound choice s).node.resultType = choice.contract := by
  have binding := (autoBinding_constructs auto).1
  have made : choice.binding.implementation = .type choice.contract := by rw [binding]; rfl
  refine ⟨recipeOf_kind made, ?_⟩
  show (r.recipeOf choice.contract choice.binding choice.substitution s.memo).1.resultType = _
  rw [(recipeOf_type choice.contract choice.substitution s.memo made).1, empty,
    Substitution.apply_empty]

/-- The parameters of the constructor that a clean node was made with were met. -/
theorem Made.met_params {id : NodeId} {n : Node} {index : Option Nat} {d : Descriptor}
    {t : Substitution} (h : r.Made e id n) (node : e.graph.node? id = some n)
    (clean : e.graph.IsClean (.node id)) (kind : n.kind = .construct index)
    (described : r.descriptorOf n.resultType = some (d, t)) (constructible : d.isConstructible)
    (listed : d.constructors.isEmpty = false) :
    ∃ c ∈ d.considered r.options.parameterlessFallback,
      ∀ p ∈ c.1.params, r.Met e (paramQuery t n.resultType p) := by
  obtain ⟨concrete, isPublic⟩ := Bool.and_eq_true_iff.1 constructible
  rw [listed, Bool.false_or] at isPublic
  cases h with
  | @intro _ s o inside _ _ opened _ answers =>
    obtain ⟨-, parts⟩ := opened.constructs kind described concrete
    have chosen : (r.selectConstructor d t s.memo).1.index.isNone = _ :=
      selectConstructor_index_isNone listed
    rw [isPublic, Bool.not_true, Option.isNone_eq_false_iff] at chosen
    obtain ⟨i, index⟩ := Option.isSome_iff_exists.1 chosen
    obtain ⟨c, considered, rfl⟩ := selectWith_index index
    refine ⟨c, considered, fun p mem => ?_⟩
    have site : t.applySite p ∈ sitesOf d t (r.selectConstructor d t s.memo).1 := by
      rw [sitesOf, index, Option.bind_some, Descriptor.getElem?_of_considered considered]
      exact List.mem_map_of_mem (List.mem_append_left _ mem)
    have part : ⟨t.applySite p, .request (t.applySite p).contract
        (.ofSite (t.applySite p) s.nextNode o.node.resultType)⟩ ∈ o.parts := by
      rw [parts]
      exact List.mem_map_of_mem site
    obtain ⟨dependency, edge, answer⟩ := exists_dependency o.node.kind answers part
    exact ⟨_, dependency.target, rfl, .inl rfl, answer, clean.dependency node edge⟩

/-- A type that was built by itself has a constructor whose parameters were all met. -/
theorem constructor_of_builds (registered : r.registry.Registered)
    (sound : r.registry.unifier.Sound) (made : MadeUpTo r e e) (unbound : r.isBound q = false)
    (built : e.graph.Builds q.contract) :
    (r.autoBinding q.contract).isSome ∧ ∃ d t, r.descriptorOf q.contract = some (d, t) ∧
      (d.constructors.isEmpty ∨ ∃ c ∈ d.considered r.options.parameterlessFallback,
        ∀ p ∈ c.1.params, r.Met e (paramQuery t (t.apply d.type) p)) := by
  obtain ⟨id, n, node, same, untagged, source, clean⟩ := built
  rw [← same]
  obtain ⟨auto, ⟨index, kind⟩, result⟩ : (r.autoBinding n.contract).isSome ∧
      (∃ index, n.kind = .construct index) ∧ n.resultType = n.contract := by
    -- A look-up would have found a declared binding, and so the type was bound by itself.
    cases made.made id n node with
    | intro found way opened next answers =>
      cases opened with
      | accumulated | shape => exact absurd rfl source
      | bound chosen =>
        obtain ⟨auto, empty⟩ :=
          chosen.autoBinding_of_untagged found registered untagged same unbound
        exact ⟨Option.isSome_iff_exists.2 ⟨_, auto⟩, openBound_auto auto empty⟩
  obtain ⟨b, binding⟩ := Option.isSome_iff_exists.1 auto
  obtain ⟨d, t, described, constructible⟩ := descriptorOf_of_autoBinding binding
  refine ⟨auto, d, t, described, ?_⟩
  cases listed : d.constructors.isEmpty with
  | true => exact .inl rfl
  | false =>
    rw [Catalog.apply_of_descriptorOf sound described, ← result]
    rw [← result] at described
    exact .inr ((made.made id n node).met_params node clean kind described constructible listed)

/-! ## Answers -/

/-- A type that cannot be resolved by itself was not built. -/
theorem TypeReason.not_builds {visiting : List TypeExpr} (registered : r.registry.Registered)
    (sound : r.registry.unifier.Sound) (made : MadeUpTo r e e) (unbound : r.isBound q = false)
    (h : r.TypeReason (fun Q b => b = false → ¬r.Met e Q.query) visiting q.contract false) :
    ¬e.graph.Builds q.contract := by
  intro built
  obtain ⟨auto, d, t, described, constructor⟩ :=
    constructor_of_builds registered sound made unbound built
  cases h with
  | refused none => rw [none] at auto; nomatch auto
  | lacking _ described' listed lacks =>
    cases described.symm.trans described'
    rcases constructor with unlisted | ⟨c, mem, met⟩
    · exact Bool.false_ne_true (listed.symm.trans unlisted)
    · obtain ⟨p, mem', no⟩ := lacks c mem
      exact no rfl (met p mem')

/-- Where paths do not matter, what is answered with no was not met. -/
theorem met_law (registered : r.registry.Registered) (sound : r.registry.unifier.Sound)
    (made : MadeUpTo r e e) :
    r.ProbeLaw (r.Within r.PathFree) (fun Q b => b = false → ¬r.Met e Q.query)
      (fun type b => b = false → ¬e.graph.Builds type) where
  sub h sub := h.2 _ sub
  cut := False.elim
  -- A type is remembered by what the graph says of it, whatever is being built at the time.
  remember _ unbound _ _ reason no :=
    TypeReason.not_builds registered sound made unbound (no ▸ reason)
  answer h reason no := by
    subst no
    cases reason with
    | marker unbound shape =>
      intro met
      rcases met.shape_or_auto unbound with isShape | auto
      · rw [shape] at isShape
        nomatch isShape
      · obtain ⟨b, binding⟩ := Option.isSome_iff_exists.1 auto
        have named := isNamed_of_autoBinding binding
        rw [shape] at named
        nomatch named
    | wrapped unbound shape part => exact fun met => part rfl (met.wrapped unbound shape)
    | lacking unbound shape mem part =>
      exact fun met => part rfl (met.item unbound shape mem (h.1 _ shape _ mem))
    | remembered unbound named remembered =>
      exact fun met => remembered rfl (met.builds unbound named)
    | found unbound named new reason =>
      exact fun met => reason.not_builds registered sound made unbound (met.builds unbound named)

/-- What is met is answered with yes. -/
theorem canResolve_of_met (registered : r.registry.Registered)
    (sound : r.registry.unifier.Sound) (made : MadeUpTo r e e) (met : r.Met e q)
    (within : r.Within r.PathFree (r.options.maxDepth + 1) ⟨[], q⟩) :
    (r.canResolve q.contract q.tag q.path []).1 = true := by
  refine Bool.eq_true_of_not_eq_false fun no => ?_
  exact ((met_law registered sound made).ask within .nil).1 no met

/-- The dependency of a site was answered as a request for the site. -/
theorem Made.site_answered {id : NodeId} {n : Node} {dependency : Dependency} (h : r.Made e id n)
    (sites : n.kind.hasSites) (edge : dependency ∈ n.dependencies) :
    ∃ m, r.Answered e (.request dependency.site.contract
      (.ofSite dependency.site m n.resultType)) dependency.target := by
  cases h with
  | intro _ _ opened _ answers =>
    obtain ⟨part, mem, site, answer⟩ := mem_dependenciesOf answers edge
    obtain ⟨m, ask⟩ := opened.ask_of_site sites mem
    rw [ask, site] at answer
    exact ⟨m, answer⟩

/-- When a site or a root leads to a node from which nothing unresolved is reached, a probe that
remembers nothing answers the request with yes, if it is asked within the limit and no item of a
tuple depends on the path. -/
theorem build_probesComplete (r : Resolver) (registered : r.registry.Registered)
    (sound : r.registry.unifier.Sound) (found : List Diagnostic) (roots : List Root) :
    let g := (r.build found roots).1
    let fits (q : Query) := r.Within r.PathFree (r.options.maxDepth + 1) ⟨[], q⟩
    let canResolve (q : Query) := (r.canResolve q.contract q.tag q.path []).1
    (∀ id n d, g.node? id = some n → n.kind.hasSites → d ∈ n.dependencies → g.IsClean d.target →
      fits ⟨d.site.contract, d.site.tag, some (d.site.path n.resultType)⟩ →
      canResolve ⟨d.site.contract, d.site.tag, some (d.site.path n.resultType)⟩) ∧
    ∀ edge ∈ g.roots, g.IsClean edge.target → fits ⟨edge.root.contract, edge.root.tag, none⟩ →
      canResolve ⟨edge.root.contract, edge.root.tag, none⟩ := by
  obtain ⟨e, graph, -, made⟩ := build_made r found roots
  rw [graph]
  intro _ fits canResolve
  refine ⟨fun id n d node sites edge clean fit => ?_, fun edge mem clean fit => ?_⟩
  · obtain ⟨m, answered⟩ := (made.made id n node).site_answered sites edge
    exact canResolve_of_met registered sound made
      ⟨_, d.target, rfl, .inl rfl, answered, clean⟩ fit
  · exact canResolve_of_met registered sound made
      ⟨_, edge.target, rfl, .inl rfl, made.roots edge mem, clean⟩ fit

/-! ## Tea

A table is set with a cup and a saucer, which it asks for as a pair. The cup may be reserved for
tables.
-/

def cup : TypeExpr := .named "ICup" []

def saucer : TypeExpr := .named "ISaucer" []

def table : TypeExpr := .named "Table" []

def pairSite : Site := .parameter "pair" (.tuple [cup, saucer])

def tableDescriptor : Descriptor :=
  { Descriptor.concrete table with constructors := [⟨true, none, [pairSite]⟩] }

def tea (tag : Option Tag) : Resolver where
  registry := ((Registry.empty
      ⟨[tableDescriptor, .concrete (.named "Cup" []), .concrete (.named "Saucer" [])]⟩
      .structural).registerAll
    [{ Binding.ofType cup (.named "Cup" []) with tag }, .ofType saucer (.named "Saucer" [])]).1
  options := { Options.standard with maxDepth := 6 }
  accumulators := []
  autoBinds := true
  filter := none

/-- For every site of a type that begins so. -/
def reserved : Option Tag := some (.on ["T*"])

abbrev teaBuild (tag : Option Tag) : Graph × List Diagnostic :=
  (tea tag).build [] [.untagged "main" table]

/-- What the table asks for. -/
def pairQuery : Query := ⟨pairSite.contract, none, some (pairSite.path table)⟩

theorem teaBuild_root : ⟨.untagged "main" table, .node 0⟩ ∈ (teaBuild none).1.roots := by
  have roots : (teaBuild none).1.roots = [⟨.untagged "main" table, .node 0⟩] := by cbv
  rw [roots]
  exact List.mem_cons_self

theorem teaBuild_resolved : ∀ n ∈ (teaBuild none).1.nodes, ∀ d ∈ n.dependencies,
    d.target.isUnresolved = false := by
  have resolved : (teaBuild none).1.nodes.all fun n =>
      n.dependencies.all fun d => !d.target.isUnresolved := by cbv
  simpa using resolved

theorem tea_subquestions :
    (tea none).subquestions ⟨[], ⟨table, none, none⟩⟩ = [⟨[table], pairQuery⟩] ∧
    (tea none).subquestions ⟨[table], pairQuery⟩
      = [⟨[table], ⟨cup, none, none⟩⟩, ⟨[table], ⟨saucer, none, none⟩⟩] ∧
    (tea none).subquestions ⟨[table], ⟨cup, none, none⟩⟩ = [] ∧
    (tea none).subquestions ⟨[table], ⟨saucer, none, none⟩⟩ = [] := by
  cbv

theorem tea_lookup :
    ((tea none).lookup ⟨cup, none, none⟩).isSome ∧
    ((tea none).lookup ⟨saucer, none, none⟩).isSome := by
  cbv

/-- A named type that is found without a path does not depend on one. -/
theorem pathless_of_named {path : Option String} (named : type.isNamed)
    (found : (r.lookup ⟨type, none, none⟩).isSome) : r.Pathless type path := by
  intro part spans _
  rwa [spans.eq_of_isNamed named]

theorem tea_fits : (tea none).Within (tea none).PathFree 7 ⟨[], ⟨table, none, none⟩⟩ := by
  obtain ⟨root, pair, first, second⟩ := tea_subquestions
  obtain ⟨cupFound, saucerFound⟩ := tea_lookup
  have rest : (tea none).Within (tea none).PathFree 6 ⟨[table], pairQuery⟩ := by
    refine ⟨fun items same item mem => ?_, ?_⟩
    · cases same
      rcases List.mem_pair.1 mem with rfl | rfl
      · exact pathless_of_named rfl cupFound
      · exact pathless_of_named rfl saucerFound
    · rw [pair, List.forall_mem_cons, List.forall_mem_singleton]
      exact ⟨⟨nofun, first ▸ nofun⟩, ⟨nofun, second ▸ nofun⟩⟩
  refine ⟨nofun, ?_⟩
  rw [root, List.forall_mem_singleton]
  exact rest

theorem build_probesComplete_tea : ((tea none).canResolve table none none []).1 = true := by
  have registered : (tea none).registry.Registered := .all (.empty ..) _
  have sound : (tea none).registry.unifier.Sound := Unifier.structural_sound
  obtain ⟨-, roots⟩ := build_probesComplete (tea none) registered sound [] [.untagged "main" table]
  exact roots ⟨.untagged "main" table, .node 0⟩ teaBuild_root
    (Graph.isClean_of_resolved teaBuild_resolved) tea_fits

theorem reservedTea_facts :
    (teaBuild reserved).2 = [] ∧
    ((teaBuild reserved).1.node? 0).map (·.kind) = some (.construct (some 0)) ∧
    ((teaBuild reserved).1.node? 0).map (·.resultType) = some table ∧
    ((teaBuild reserved).1.node? 0).map (·.dependencies) = some [⟨pairSite, .node 1, false⟩] ∧
    ((tea reserved).canResolve pairSite.contract none (some (pairSite.path table)) []).1
      = false := by
  cbv

theorem reservedTea_resolved : ∀ n ∈ (teaBuild reserved).1.nodes, ∀ d ∈ n.dependencies,
    d.target.isUnresolved = false := by
  have resolved : (teaBuild reserved).1.nodes.all fun n =>
      n.dependencies.all fun d => !d.target.isUnresolved := by cbv
  simpa using resolved

/-- The table gets its pair with the reserved cup, though no probe can find the cup. -/
theorem reservedTea_notFound : ¬ ((tea reserved).Uncut (teaBuild reserved).2 →
    ∀ id n d, (teaBuild reserved).1.node? id = some n → n.kind.hasSites → d ∈ n.dependencies →
      (teaBuild reserved).1.IsClean d.target →
      ((tea reserved).canResolve d.site.contract d.site.tag
        (some (d.site.path n.resultType)) []).1 = true) := by
  intro claim
  obtain ⟨silent, kind, type, dependencies, no⟩ := reservedTea_facts
  obtain ⟨n, node, isTable⟩ := Option.map_eq_some_iff.1 type
  rw [node] at kind dependencies
  have constructs : n.kind = .construct (some 0) := Option.some.inj kind
  have pairOnly : n.dependencies = [⟨pairSite, .node 1, false⟩] := Option.some.inj dependencies
  have yes := claim (uncut_of_nil silent) 0 n _ node (by rw [constructs]; rfl)
    (pairOnly ▸ List.mem_cons_self) (Graph.isClean_of_resolved reservedTea_resolved)
  rw [isTable] at yes
  exact Bool.noConfusion (no.symm.trans yes)

end Resolver

end Wiring
