import Mathlib.Data.List.Forall2
import Wiring.Proofs.Registry.Candidates
import Wiring.Proofs.Resolver.Arena

/-!
# Resolver — Plans

Constructed nodes are as their bindings and the catalog say. The type that is built is the one of
the binding, with the types that its markers matched. Where a concrete descriptor is found for it,
the node has a dependency for each parameter of its constructor and for each member, in order; and
where none is found it has no dependencies and is flagged. A node gets its dependencies once all
that is below it was resolved, but they are told from what it was opened with, so it does not matter
whether it was met again meanwhile.
-/

namespace Wiring

namespace Descriptor

variable {d : Descriptor}

/-- The members in order: explicit ordinals ascend, those without one come last, and members with
the same ordinal, or without any, are as they were declared. -/
structure Orders (d : Descriptor) (members : List Site) : Prop where
  perm : members.Perm d.members
  ascending : members.Pairwise fun a b => (a.ordinal = none → b.ordinal = none) ∧
    ∀ m n, a.ordinal = some m → b.ordinal = some n → m ≤ n
  stable : ∀ ordinal,
    members.filter (·.ordinal = ordinal) = d.members.filter (·.ordinal = ordinal)

theorem memberBefore_iff {a b : Site} : memberBefore a b ↔
    (a.ordinal = none → b.ordinal = none) ∧
      ∀ m n, a.ordinal = some m → b.ordinal = some n → m ≤ n := by
  rw [memberBefore]
  cases a.ordinal <;> cases b.ordinal <;> simp

theorem memberBefore_trans (a b c : Site) (first : memberBefore a b) (second : memberBefore b c) :
    memberBefore a c := by
  rw [memberBefore_iff] at first second ⊢
  refine ⟨fun none => second.1 (first.1 none), fun m n lower upper => ?_⟩
  cases middle : b.ordinal with
  | none => exact nomatch upper.symm.trans (second.1 middle)
  | some k => exact Int32.le_trans (first.2 m k lower middle) (second.2 k n middle upper)

theorem memberBefore_total (a b : Site) : memberBefore a b || memberBefore b a := by
  rw [memberBefore, memberBefore]
  cases a.ordinal <;> cases b.ordinal <;> simp [Int32.le_total]

theorem memberBefore_of_eq {a b : Site} (same : a.ordinal = b.ordinal) : memberBefore a b := by
  rw [memberBefore, same]
  cases b.ordinal <;> simp

theorem orders_orderedMembers (d : Descriptor) : d.Orders d.orderedMembers where
  perm := List.mergeSort_perm _ _
  ascending := by
    have sorted : d.orderedMembers.Pairwise (memberBefore · ·) :=
      List.pairwise_mergeSort memberBefore_trans memberBefore_total _
    exact sorted.imp memberBefore_iff.1
  stable ordinal := by
    let alike := d.members.filter (·.ordinal = ordinal)
    have sorted : alike.Pairwise (memberBefore · ·) := by
      refine List.pairwise_of_forall_mem_list fun a mem b mem' => memberBefore_of_eq ?_
      exact (of_decide_eq_true (List.mem_filter.1 mem).2).trans
        (of_decide_eq_true (List.mem_filter.1 mem').2).symm
    -- What is sorted already stays as it is within the whole.
    have kept : alike.Sublist d.orderedMembers :=
      List.sublist_mergeSort memberBefore_trans memberBefore_total sorted List.filter_sublist
    have within : alike.Sublist (d.orderedMembers.filter (·.ordinal = ordinal)) := by
      simpa [alike] using kept.filter (·.ordinal = ordinal)
    have perm : (d.orderedMembers.filter (·.ordinal = ordinal)).Perm alike :=
      (List.mergeSort_perm _ _).filter _
    exact (within.eq_of_length perm.length_eq.symm).symm

/-- The parameters of a constructor that is listed; without a constructor there are none. -/
def HasParams (d : Descriptor) : Option Nat → List Site → Prop
  | none, params => params = []
  | some i, params => ∃ c, d.constructors[i]? = some c ∧ params = c.params

end Descriptor

namespace Resolver

open Session

variable {r : Resolver} {ask : Ask} {s s' e : Session} {o : Opening}

/-! ## Bindings made for concrete types -/

/-- All bindings that were made for concrete types are the ones that are planned for them. -/
def AutoPlanned (r : Resolver) (s : Session) : Prop :=
  ∀ b ∈ s.graph.autoBindings, r.autoBinding b.contract = some b

theorem Chooses.autoPlanned {choice : Choice} (h : r.Chooses ask s choice s')
    (planned : r.AutoPlanned s) : r.AutoPlanned s' := by
  cases h with
  | bound | candidate => exact planned
  | auto _ _ binding =>
    rw [AutoPlanned, autoBindingIndex]
    split
    · exact planned
    · intro b mem
      rcases List.mem_append.1 mem with old | new
      · exact planned b old
      · obtain rfl := List.mem_singleton.1 new
        obtain ⟨rfl, -⟩ := autoBinding_constructs binding
        exact binding

theorem Settles.autoPlanned {target : Target} (h : r.Settles ask s target s')
    (planned : r.AutoPlanned s) : r.AutoPlanned s' := by
  cases h with
  | cut | refused | missing | lost | accumulated => exact planned
  | linked chosen | shared chosen => exact chosen.autoPlanned planned

theorem Opens.autoPlanned (h : r.Opens ask s o) (planned : r.AutoPlanned s) :
    r.AutoPlanned o.inner := by
  cases h with
  | bound chosen => exact chosen.autoPlanned planned
  | accumulated => exact planned
  | shape =>
    rw [AutoPlanned, openShape, enterShape_graph]
    exact planned

theorem Run.autoPlanned {asks targets births} (h : r.Run asks s targets s' births)
    (planned : r.AutoPlanned s) : r.AutoPlanned s' := by
  induction h with
  | done => exact planned
  | settle settled _ ih => exact ih (settled.autoPlanned planned)
  | make opened _ _ ih ih' => exact ih' (ih (opened.autoPlanned planned))

theorem build_autoPlanned (r : Resolver) (found : List Diagnostic) (roots : List Root) :
    ∀ b ∈ (r.build found roots).1.autoBindings, r.autoBinding b.contract = some b := by
  obtain ⟨_, -, planned⟩ := resolveRoots_induction (r := r) found
    (motive := fun roots _ => r.AutoPlanned (r.resolveRoots (.begin found) roots))
    (fun _ mem => nomatch mem)
    (fun _ _ _ _ _ _ _ planned run whole => by
      rw [whole]
      exact run.autoPlanned planned)
    roots
  exact planned

/-! ## Sources -/

/-- The binding that a node was made from, and the substitution by which it matched the contract.
A binding made for a concrete type has no markers to match. -/
def MadeFrom (r : Resolver) (g : Graph) (n : Node) (b : Binding) (σ : Substitution) : Prop :=
  match n.source with
  | .explicit id => r.registry.binding? id = some b ∧
      r.registry.unifier.unify n.contract b.contract = some σ
  | .auto index => g.autoBindings[index]? = some b ∧ b = .ofType n.contract n.contract ∧ σ = ∅
  | .implicit => False

/-- A candidate matches its contract. -/
theorem unify_of_candidate {contract : TypeExpr} {found : Match} {b : Binding} {entry : Entry}
    (candidate : (found.binding, entry, found.substitution) ∈ r.registry.candidates contract)
    (binding : r.registry.binding? found.binding = some b) :
    r.registry.unifier.unify contract b.contract = some found.substitution := by
  obtain ⟨isEntry, unified⟩ := Registry.entry_of_candidate candidate
  rw [Registry.binding?, isEntry] at binding
  obtain rfl : entry.binding = b := Option.some.inj binding
  exact unified

/-- A node that is made by a binding comes from it, by the match that was found. -/
theorem Chooses.madeFrom {g : Graph} {n : Node} {choice : Choice}
    (h : r.Chooses ask s choice s') (found : r.IsFound ask)
    (planned : ∀ b ∈ g.autoBindings, r.autoBinding b.contract = some b) (bound : AutoBound g)
    (mem : n ∈ g.nodes) (source : n.source = choice.source)
    (contract : n.contract = choice.contract) :
    r.MadeFrom g n choice.binding choice.substitution := by
  rw [MadeFrom, source, contract]
  cases h with
  | bound _ lookup binding =>
    obtain ⟨_, candidate⟩ := Registry.candidate_of_lookup lookup
    exact ⟨binding, unify_of_candidate candidate binding⟩
  | candidate binding =>
    obtain ⟨_, candidate⟩ := Registry.candidate_of_allMatches found
    exact ⟨binding, unify_of_candidate candidate binding⟩
  | auto _ _ binding =>
    obtain ⟨b, isBinding, -, same⟩ := bound.sourced mem source
    have plan := planned b (List.mem_of_getElem? isBinding)
    rw [same, contract] at plan
    obtain rfl : b = _ := Option.some.inj (plan.symm.trans binding)
    exact ⟨isBinding, (autoBinding_constructs binding).1, rfl⟩

/-! ## Recipes -/

/-- What is constructed is the type of a binding. -/
theorem recipeOf_constructed {contract : TypeExpr} {b : Binding} {σ : Substitution}
    {memo : ProbeMemo} {index : Option Nat}
    (kind : (r.recipeOf contract b σ memo).1.kind = .construct index) :
    ∃ type, b.implementation = .type type ∧
      (r.recipeOf contract b σ memo).1.resultType = σ.apply type := by
  cases made : b.implementation with
  | type type => exact ⟨type, rfl, (recipeOf_type contract σ memo made).1⟩
  | factory | argument =>
    rw [recipeOf, made] at kind
    cases kind

/-- Without a concrete descriptor nothing is asked for. -/
theorem recipeOf_undescribed {contract : TypeExpr} {b : Binding} {σ : Substitution}
    {memo : ProbeMemo} {index : Option Nat}
    (kind : (r.recipeOf contract b σ memo).1.kind = .construct index)
    (undescribed : ∀ d t,
      r.descriptorOf (r.recipeOf contract b σ memo).1.resultType = some (d, t) →
        d.isConcrete = false) :
    (r.recipeOf contract b σ memo).1.sites = [] ∧ (r.recipeOf contract b σ memo).1.isInvalid := by
  obtain ⟨type, made, result⟩ := recipeOf_constructed kind
  rw [result] at undescribed
  rw [recipeOf, made]
  dsimp only
  split
  · next d t described =>
    rw [if_neg (by simp [undescribed d t described])]
    exact ⟨rfl, rfl⟩
  · exact ⟨rfl, rfl⟩

/-- With a concrete descriptor the parameters of the constructor that is chosen are asked for first,
and then the members. -/
theorem recipeOf_described {contract : TypeExpr} {b : Binding} {σ : Substitution}
    {memo : ProbeMemo} {index : Option Nat} {d : Descriptor} {t : Substitution}
    (kind : (r.recipeOf contract b σ memo).1.kind = .construct index)
    (described : r.descriptorOf (r.recipeOf contract b σ memo).1.resultType = some (d, t))
    (concrete : d.isConcrete) :
    ∃ params, d.HasParams index params ∧
      (r.recipeOf contract b σ memo).1.sites = (params ++ d.orderedMembers).map t.applySite := by
  obtain ⟨rfl, sites⟩ := recipeOf_constructs kind described concrete
  rw [sites, sitesOf]
  cases chosen : (r.selectConstructor d t memo).1.index with
  | none => exact ⟨[], rfl, rfl⟩
  | some i =>
    obtain ⟨c, considered, rfl⟩ := selectWith_index chosen
    have listed : d.constructors[c.2]? = some c.1 := Descriptor.getElem?_of_considered considered
    exact ⟨c.1.params, ⟨c.1, listed, rfl⟩, by rw [Option.bind_some, listed]⟩

/-! ## Constructed nodes -/

/-- A constructed node is as its binding and the catalog say. -/
structure IsPlanned (r : Resolver) (g : Graph) (n : Node) (index : Option Nat) : Prop where
  /-- The type of the binding is built, with what its markers matched. -/
  type : ∃ b type σ, r.MadeFrom g n b σ ∧ b.implementation = .type type ∧
    n.resultType = σ.apply type
  /-- With a concrete descriptor there is a dependency for each parameter and each member. -/
  described : ∀ i t d, r.registry.catalog.find r.registry.unifier n.resultType = some (i, t) →
    r.registry.catalog.get? i = some d → d.isConcrete →
      ∃ params members, d.HasParams index params ∧ d.Orders members ∧
        n.dependencies.map (·.site) = (params ++ members).map t.applySite
  /-- Without one there are no dependencies. -/
  undescribed : (∀ i t d, r.registry.catalog.find r.registry.unifier n.resultType = some (i, t) →
    r.registry.catalog.get? i = some d → d.isConcrete = false) →
      n.dependencies = [] ∧ n.flags.invalidMetadata

theorem descriptorOf_eq_some_iff {type : TypeExpr} {d : Descriptor} {t : Substitution} :
    r.descriptorOf type = some (d, t) ↔
      ∃ i, r.registry.catalog.find r.registry.unifier type = some (i, t) ∧
        r.registry.catalog.get? i = some d := by
  rw [descriptorOf, Catalog.descriptorOf]
  split
  · next i s found => simp [found, and_comm]
  · next absent => simp [absent]

/-- Only bindings construct. -/
theorem Opens.constructed {index : Option Nat} (h : r.Opens ask s o)
    (kind : o.node.kind = .construct index) :
    ∃ choice s', r.Chooses ask s choice s' ∧ o = r.openBound choice s' := by
  cases h with
  | bound chosen => exact ⟨_, _, chosen, rfl⟩
  | accumulated => nomatch kind
  | @shape contract _ _ shapeKind _ _ shape =>
    obtain rfl : shapeKind = .construct index := kind
    cases contract <;> nomatch shape

theorem map_site_dependenciesOf {kind : NodeKind} {parts : List Part} {targets : List Target}
    (length : parts.length = targets.length) :
    (dependenciesOf kind parts targets).map (·.site) = parts.map (·.site) := by
  rw [dependenciesOf, List.map_zipWith]
  exact List.ext_getElem (by simp [length]) (by simp)

/-- In a graph that is built every constructed node is as planned, wherever it was met. -/
theorem build_isPlanned (r : Resolver) (found : List Diagnostic) (roots : List Root) :
    ∀ n ∈ (r.build found roots).1.nodes, ∀ index, n.kind = .construct index →
      r.IsPlanned (r.build found roots).1 n index := by
  have planned := build_autoPlanned r found roots
  have bound := build_autoBound r found roots
  obtain ⟨e, graph, -, made⟩ := build_made r found roots
  rw [graph] at planned bound ⊢
  intro n mem index kind
  obtain ⟨id, node⟩ := List.mem_iff_getElem?.1 mem
  cases made.made id n node with
  | @intro ask s o inside isFound way opened next answers =>
    obtain ⟨choice, s', chosen, rfl⟩ := opened.constructed kind
    let recipe := (r.recipeOf choice.contract choice.binding choice.substitution s'.memo).1
    have recipeKind : recipe.kind = .construct index := kind
    obtain ⟨type, made, result⟩ := recipeOf_constructed recipeKind
    -- Its parts were told when it was opened; what lies below only filled in their targets.
    have edges : (dependenciesOf recipe.kind (recipe.parts s'.nextNode) inside).map (·.site) =
        recipe.sites := by
      have length : (recipe.parts s'.nextNode).length = inside.length :=
        (List.length_map _).symm.trans answers.length_eq
      rw [map_site_dependenciesOf length, Recipe.parts, List.map_map]
      exact List.map_id _
    refine ⟨⟨choice.binding, type, choice.substitution, ?_, made, result⟩, ?_, ?_⟩
    · exact chosen.madeFrom isFound planned bound mem rfl rfl
    · intro i t d at_i descriptor concrete
      obtain ⟨params, hasParams, recipeSites⟩ := recipeOf_described recipeKind
        (descriptorOf_eq_some_iff.2 ⟨i, at_i, descriptor⟩) concrete
      exact ⟨params, _, hasParams, d.orders_orderedMembers, edges.trans recipeSites⟩
    · intro undescribed
      have noDescriptor : ∀ d t, r.descriptorOf recipe.resultType = some (d, t) →
          d.isConcrete = false := by
        intro d t described
        obtain ⟨i, at_i, descriptor⟩ := descriptorOf_eq_some_iff.1 described
        exact undescribed i t d at_i descriptor
      obtain ⟨none, isInvalid⟩ := recipeOf_undescribed recipeKind noDescriptor
      exact ⟨List.map_eq_nil_iff.1 (edges.trans none), isInvalid⟩

/-! ## Libraries

A library of anything is made with its shelf and then given some more places of it, and the shelf,
which is shared, is made with the library.
-/

def libraryOf (item : TypeExpr) : TypeExpr := .named "Library" [item]

def shelfOf (item : TypeExpr) : TypeExpr := .named "Shelf" [item]

def placeOf (name : String) (ordinal : Option Int32) : Site :=
  { Site.property name (shelfOf (.marker "TT")) with ordinal }

def libraryDescriptors : List Descriptor :=
  [{ Descriptor.concrete (libraryOf (.marker "TT")) with
      constructors := [⟨true, none, [.parameter "shelf" (shelfOf (.marker "TT"))]⟩]
      members := [placeOf "notes" none, placeOf "desk" (some 2), placeOf "door" (some 1),
        placeOf "lamp" none] },
    { Descriptor.concrete (shelfOf (.marker "TT")) with
      constructors := [⟨true, none, [.parameter "library" (libraryOf (.marker "TT"))]⟩] }]

def libraries : Resolver where
  registry := ((Registry.empty ⟨libraryDescriptors⟩ .structural).registerAll
    [.ofType (libraryOf (.marker "TT")) (libraryOf (.marker "TT")),
      { Binding.ofType (shelfOf (.marker "TT")) (shelfOf (.marker "TT")) with
        lifetime := .singleton }]).1
  options := { Options.standard with maxDepth := 4 }
  accumulators := []
  autoBinds := false
  filter := none

abbrev libraryBuild : Graph × List Diagnostic :=
  libraries.build [] [.untagged "main" (libraryOf (.named "Book" []))]

theorem libraryBuild_facts :
    (libraryBuild.1.node? 0).map (·.kind) = some (.construct (some 0)) ∧
    (libraryBuild.1.node? 0).map (·.dependencies.map (·.site.name)) =
      some ["shelf", "door", "desk", "notes", "lamp"] ∧
    libraryBuild.1.successors 0 = [1, 1, 1, 1, 1] ∧ libraryBuild.1.successors 1 = [0] := by cbv

/-- The shelf is used in five places, and it leads back to the library. -/
theorem build_isPlanned_library : ∃ n ∈ libraryBuild.1.nodes, n.kind = .construct (some 0) ∧
    n.dependencies.map (·.site.name) = ["shelf", "door", "desk", "notes", "lamp"] ∧
    libraryBuild.1.successors 0 = [1, 1, 1, 1, 1] ∧ libraryBuild.1.successors 1 = [0] ∧
    libraries.IsPlanned libraryBuild.1 n (some 0) := by
  obtain ⟨isKind, named, fromLibrary, fromShelf⟩ := libraryBuild_facts
  obtain ⟨n, node, kind⟩ := Option.map_eq_some_iff.1 isKind
  rw [node, Option.map_some] at named
  have mem : n ∈ libraryBuild.1.nodes := List.mem_of_getElem? node
  exact ⟨n, mem, kind, Option.some.inj named, fromLibrary, fromShelf,
    build_isPlanned libraries [] _ n mem (some 0) kind⟩

end Resolver

end Wiring
