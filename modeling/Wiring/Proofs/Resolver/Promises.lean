import Mathlib
import Wiring.Proofs.Catalog
import Wiring.Proofs.Registry.Candidates
import Wiring.Proofs.Resolver.Making

/-!
# Resolver — Promises

What becomes of a constructor that was chosen because all its parameters can be resolved. A probe
takes a type that is being built as resolvable without asking whether it may be bound by itself, and
so a parameter of the very type that is built can be left unresolved. That is the only way in which
the builder does not keep the promise.
-/

namespace Wiring.Resolver

open Session

variable {r : Resolver} {s s' : Session} {ask : Ask} {target : Target}

/-! ## What a probe promises -/

theorem TypeReason.autoBinding_isSome {answered : Question → Bool → Prop}
    {visiting : List TypeExpr} {type : TypeExpr}
    (h : r.TypeReason answered visiting type true) : (r.autoBinding type).isSome := by
  cases h with
  | plain auto | full auto => exact auto

/-- Whatever is answered with yes is provided, or it is being built. -/
theorem provided_law : r.ProbeLaw (fun _ _ => True)
    (fun Q b => b = true → r.provides Q.query ∨ Q.query.contract ∈ Q.visiting)
    (fun type b => b = true → (r.autoBinding type).isSome) where
  sub _ _ := trivial
  cut := nofun
  remember _ _ _ _ reason yes := (yes ▸ reason).autoBinding_isSome
  answer _ reason yes := by
    subst yes
    cases reason with
    | bound bound => exact .inl (by simp [provides, bound])
    | collection shape | whole _ shape => exact .inl (by simp [provides, shape, TypeExpr.shape?])
    | wrapped _ shape =>
      exact .inl (by simp [provides, TypeExpr.shape?_isSome_of_wrapped? shape])
    | remembered _ _ remembered => exact .inl (by simp [provides, remembered rfl])
    | visited _ _ visited =>
      -- Nothing was asked here about binding the type by itself.
      exact .inr visited
    | found _ _ _ reason => exact .inl (by simp [provides, reason.autoBinding_isSome])

/-! ## What is answered -/

theorem isUnresolved_node_iff {q : Query} {id : NodeId} (provides : r.provides q) :
    (Target.node id).isUnresolved ↔ r.provides q = false := by
  rw [provides]
  exact iff_of_false Bool.false_ne_true Bool.noConfusion

/-- A target is unresolved just when nothing provides what was requested. -/
def Provided (r : Resolver) (ask : Ask) (target : Target) : Prop :=
  ∀ contract d, ask = .request contract d →
    (target.isUnresolved ↔ r.provides ⟨contract, d.tag, d.path⟩ = false)

theorem Chooses.provides {choice : Choice} {contract : TypeExpr} {d : Demand}
    (h : r.Chooses (.request contract d) s choice s') :
    r.provides ⟨contract, d.tag, d.path⟩ := by
  cases h with
  | bound _ lookup => simp [Resolver.provides, isBound, lookup]
  | auto _ _ auto => simp [Resolver.provides, auto]

theorem Settles.provided (h : r.Settles ask s target s') (uncut : r.Uncut s'.diagnostics) :
    r.Provided ask target := by
  rintro contract d rfl
  cases h with
  | cut => exact absurd (List.mem_append_right _ List.mem_cons_self) (uncut contract d s.rootName)
  | refused _ unbound shape auto =>
    refine iff_of_true rfl ?_
    rw [provides, isBound_eq_false_iff.2 unbound, shape, auto]
    rfl
  | missing _ lookup missing =>
    obtain ⟨b, binding⟩ := Registry.binding_of_lookup lookup
    nomatch missing.symm.trans binding
  | linked chosen | shared chosen => exact isUnresolved_node_iff chosen.provides
  | accumulated _ _ accumulator =>
    have provides : r.provides ⟨contract, d.tag, d.path⟩ := by
      simp [provides, isBound, accumulator]
    exact isUnresolved_node_iff provides

theorem Opens.provided {o : Opening} {id : NodeId} (h : r.Opens ask s o) :
    r.Provided ask (.node id) := by
  rintro contract d rfl
  have provides : r.provides ⟨contract, d.tag, d.path⟩ := by
    cases h with
    | bound chosen => exact chosen.provides
    | accumulated _ _ accumulator => simp [provides, isBound, accumulator]
    | shape _ _ shape => simp [provides, shape]
  exact isUnresolved_node_iff provides

/-- An answer that is not cut leaves unresolved just what nothing provides. -/
theorem Answered.provided {e : Session} (h : r.Answered e ask target)
    (uncut : r.Uncut e.diagnostics) : r.Provided ask target := by
  cases h.reply with
  | settled _ settled after =>
    exact settled.provided fun contract d name reported =>
      uncut contract d name (after.diagnostics.mem reported)
  | opened _ opened => exact opened.provided

/-! ## Sites -/

/-- The dependency of a site is unresolved just when nothing provides what the site asks for. -/
def SiteProvided (r : Resolver) (consumer : TypeExpr) (site : Site) (d : Dependency) : Prop :=
  d.site = site ∧ (d.target.isUnresolved ↔
    r.provides ⟨site.contract, site.tag, some (site.path consumer)⟩ = false)

theorem siteProvided_of_answers {kind : NodeKind} {id : NodeId} {consumer : TypeExpr}
    {sites : List Site} {inside : List Target}
    (h : List.Forall₂ r.Provided ((siteParts id consumer sites).map (·.ask)) inside) :
    List.Forall₂ (r.SiteProvided consumer) sites
      (dependenciesOf kind (siteParts id consumer sites) inside) := by
  induction sites generalizing inside with
  | nil => exact .nil
  | cons site more ih =>
    cases h with
    | cons first rest =>
      have provided := first site.contract (.ofSite site id consumer) rfl
      exact .cons ⟨rfl, provided⟩ (ih rest)

/-- What the node of a described type was made with: the constructor that the earlier nodes leave to
be chosen, and the sites of this constructor and of the members. -/
theorem Made.constructs {e : Session} {id : NodeId} {n : Node} {index : Option Nat}
    {d : Descriptor} {t : Substitution} (h : r.Made e id n) (uncut : r.Uncut e.diagnostics)
    (kind : n.kind = .construct index) (described : r.descriptorOf n.resultType = some (d, t))
    (concrete : d.isConcrete) :
    let choice := (r.selectConstructor d t (r.memoAfter (r.selections (e.graph.nodes.take id)))).1
    index = choice.index ∧
      List.Forall₂ (r.SiteProvided n.resultType) (sitesOf d t choice) n.dependencies := by
  cases h with
  | @intro _ s o inside _ way opened next answers =>
    subst next
    rw [← way.keeps.memo_eq way.endures]
    obtain ⟨chosen, sites⟩ := opened.constructs kind described concrete
    refine ⟨chosen, ?_⟩
    have provided := answers.imp fun _ _ answer => answer.provided uncut
    rw [sites] at provided
    show List.Forall₂ _ _ (dependenciesOf o.node.kind o.parts inside)
    rw [sites]
    exact siteProvided_of_answers provided

/-- A full choice with an index rests on a constructor whose parameters are provided, or are of the
type that is built. -/
theorem exists_constructor_of_full {d : Descriptor} {t : Substitution} {calls : List ProbeCall}
    {i : Nat} (full : (r.selectConstructor d t (r.memoAfter calls)).1 = ⟨some i, true⟩) :
    ∃ c, d.constructors[i]? = some c ∧ ∀ p ∈ c.params,
      r.provides (paramQuery t (t.apply d.type) p) ∨ t.apply p.contract = t.apply d.type := by
  have remembers : Remembers _ (r.memoAfter calls) := provided_law.memoAfter fun call _ => by
    cases call <;> simp [ProbeCall.Asks]
  rw [selectConstructor] at full
  rcases selectWith_full (provided_law.answersAs fun _ _ => trivial) remembers (by rw [full]) with
    ⟨-, none⟩ | ⟨c, mem, index, params⟩
  · rw [full] at none
    cases none
  · rw [full] at index
    cases index
    refine ⟨c.1, Descriptor.getElem?_of_considered mem, fun p mem' => ?_⟩
    exact (params p mem' rfl).imp_right List.mem_singleton.1

/-- In a build that reports no cut, every node of a described type is made with the constructor that
is chosen for it. When this is a full choice, a dependency that comes from a parameter is unresolved
in one case only: the parameter asks for the type that is built, and nothing provides it. -/
theorem build_keepsPromises (r : Resolver) (sound : r.registry.unifier.Sound)
    (found : List Diagnostic) (roots : List Root) (uncut : r.Uncut (r.build found roots).2) :
    let g := (r.build found roots).1
    ∀ id n d t, g.node? id = some n → n.kind.isConstruct →
      r.descriptorOf n.resultType = some (d, t) → d.isConcrete →
      let choice := (r.selectConstructor d t (r.memoAfter (r.selections (g.nodes.take id)))).1
      n.kind = .construct choice.index ∧ ∀ i, choice = ⟨some i, true⟩ →
        ∃ c, d.constructors[i]? = some c ∧ List.Forall₂
          (fun param dependency => dependency.site = t.applySite param ∧
            (dependency.target.isUnresolved ↔
              t.apply param.contract = n.resultType ∧
                r.provides (paramQuery t n.resultType param) = false))
          c.params (n.dependencies.take c.params.length) := by
  obtain ⟨e, graph, reported, made⟩ := build_made r found roots
  rw [graph]
  intro _ id n d t node constructed described concrete
  obtain ⟨index, kind⟩ : ∃ index, n.kind = .construct index := by
    cases kind : n.kind with
    | construct index => exact ⟨index, rfl⟩
    | _ => rw [kind] at constructed; nomatch constructed
  obtain ⟨chosen, sites⟩ := (made.made id n node).constructs
    (fun contract d name mem => uncut contract d name (reported.mem mem)) kind described concrete
  refine ⟨by rw [kind, chosen], fun i full => ?_⟩
  obtain ⟨c, listed, params⟩ := exists_constructor_of_full full
  rw [Catalog.apply_of_descriptorOf sound described] at params
  refine ⟨c, listed, ?_⟩
  have first := List.forall₂_take c.params.length sites
  rw [sitesOf, full, Option.bind_some, listed, List.map_append,
    List.take_left' (List.length_map ..), List.forall₂_map_left_iff] at first
  refine ((List.forall₂_and_left _ _).2 ⟨params, first⟩).imp fun param dependency => ?_
  rintro ⟨provided, site, unresolved⟩
  refine ⟨site, unresolved.trans ⟨fun none => ?_, And.right⟩⟩
  exact ⟨provided.resolve_left (Bool.eq_false_iff.1 none), none⟩

/-! ## Dolls

A doll can be made empty, or around another doll. Only dolls that answer to their interface are
declared, so the inner one has to be bound by itself.
-/

def doll : TypeExpr := .named "Doll" []

def innerDoll : Site := .parameter "inner" doll

def dollDescriptor : Descriptor :=
  { Descriptor.concrete doll with constructors := [⟨true, none, []⟩, ⟨true, none, [innerDoll]⟩] }

def dolls (autoBinds : Bool) : Resolver where
  registry := ((Registry.empty ⟨[dollDescriptor]⟩ .structural).registerAll
    [.ofType (.named "IDoll" []) doll]).1
  options := { Options.standard with maxDepth := 3 }
  accumulators := []
  autoBinds
  filter := none

abbrev dollBuild (autoBinds : Bool) : Graph × List Diagnostic :=
  (dolls autoBinds).build [] [.untagged "main" (.named "IDoll" [])]

/-- What a doll is made around, when nothing was probed before. -/
theorem dolls_facts (autoBinds : Bool) :
    (dollBuild autoBinds).2 = [] ∧
    (dolls autoBinds).descriptorOf doll = some (dollDescriptor, ∅) ∧
    ((dolls autoBinds).selectConstructor dollDescriptor ∅ []).1 = ⟨some 1, true⟩ ∧
    ((dollBuild autoBinds).1.node? 0).map (·.resultType) = some doll ∧
    ((dollBuild autoBinds).1.node? 0).map (·.kind) = some (.construct (some 1)) ∧
    ((dollBuild autoBinds).1.node? 0).map (·.dependencies) = some [⟨innerDoll,
      if autoBinds then .node 1 else .unresolved 0, false⟩] := by
  cases autoBinds <;> cbv

theorem dolls_uncut (autoBinds : Bool) : (dolls autoBinds).Uncut (dollBuild autoBinds).2 :=
  uncut_of_nil (dolls_facts autoBinds).1

theorem dollBuild_node (autoBinds : Bool) : ∃ n, (dollBuild autoBinds).1.node? 0 = some n ∧
    n.resultType = doll ∧ n.kind = .construct (some 1) ∧
    n.dependencies = [⟨innerDoll, if autoBinds then .node 1 else .unresolved 0, false⟩] := by
  obtain ⟨-, -, -, type, kind, dependencies⟩ := dolls_facts autoBinds
  obtain ⟨n, node, same⟩ := Option.map_eq_some_iff.1 type
  rw [node] at kind dependencies
  exact ⟨n, node, same, Option.some.inj kind, Option.some.inj dependencies⟩

theorem build_keepsPromises_dolls : ∃ n dependency, (dollBuild true).1.node? 0 = some n ∧
    n.dependencies = [dependency] ∧ (dependency.target.isUnresolved ↔
      (∅ : Substitution).apply innerDoll.contract = n.resultType ∧
        (dolls true).provides (paramQuery ∅ n.resultType innerDoll) = false) := by
  obtain ⟨-, described, choice, -⟩ := dolls_facts true
  obtain ⟨n, node, type, kind, dependencies⟩ := dollBuild_node true
  obtain ⟨-, kept⟩ := build_keepsPromises (dolls true) Unifier.structural_sound [] _
    (dolls_uncut true) 0 n dollDescriptor ∅ node (by rw [kind]; rfl) (type ▸ described) rfl
  obtain ⟨c, listed, params⟩ := kept 1 choice
  obtain rfl : ⟨true, none, [innerDoll]⟩ = c := Option.some.inj listed
  rw [dependencies] at params
  cases params with
  | cons first _ => exact ⟨n, _, node, dependencies, first.2⟩

/-- The inner doll is promised, but dolls may not be bound by themselves. -/
theorem dolls_brokenPromise : ¬ ((dolls false).Uncut (dollBuild false).2 →
    ∀ id n d t i c, (dollBuild false).1.node? id = some n →
      (dolls false).descriptorOf n.resultType = some (d, t) →
      ((dolls false).selectConstructor d t ((dolls false).memoAfter
        ((dolls false).selections ((dollBuild false).1.nodes.take id)))).1 = ⟨some i, true⟩ →
      d.constructors[i]? = some c →
      ∀ dependency ∈ n.dependencies.take c.params.length, ¬dependency.target.isUnresolved) := by
  intro claim
  obtain ⟨-, described, choice, -⟩ := dolls_facts false
  obtain ⟨n, node, type, -, dependencies⟩ := dollBuild_node false
  have kept := claim (dolls_uncut false) 0 n dollDescriptor ∅ 1 ⟨true, none, [innerDoll]⟩ node
    (type ▸ described) choice rfl
  rw [dependencies] at kept
  exact kept ⟨innerDoll, .unresolved 0, false⟩ List.mem_cons_self rfl

end Wiring.Resolver
