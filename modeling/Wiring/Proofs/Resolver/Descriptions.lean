import Wiring.Proofs.Catalog
import Wiring.Proofs.Resolver.Selection

/-!
# Resolver — Descriptions

What is asked for once the descriptor of a type is found. The choice of a constructor asks for each
parameter on behalf of the described type, with the markers of the descriptor replaced; the builder
asks on behalf of the type of the node. These are one type, so both ask the same with the same
path, which is what the rules of positional tags are compared with.
-/

namespace Wiring

/-- A demand for a contract as the registry is asked about it. -/
def Demand.query (d : Demand) (contract : TypeExpr) : Query := ⟨contract, d.tag, d.path⟩

namespace Resolver

/-! ## What is asked for -/

/-- What a node of a type asks for at some sites, with what the markers there stand for. -/
def demandsOf (s : Substitution) (consumer : NodeId) (type : TypeExpr) (sites : List Site) :
    List (TypeExpr × Demand) :=
  sites.map fun site =>
    ((s.applySite site).contract, .ofSite (s.applySite site) consumer type)

/-- The same as the registry is asked about it. -/
def queriesOf (demands : List (TypeExpr × Demand)) : List Query :=
  demands.map fun demand => demand.2.query demand.1

/-- The answers to demands that are resolved in order, each with what the session holds by then. -/
def resolveAll (below : Resolution) : List (TypeExpr × Demand) → Session → List Target × Session
  | [], session => ([], session)
  | (contract, d) :: more, session =>
    let (target, session) := below contract d session
    let (targets, session) := resolveAll below more session
    (target :: targets, session)

section Asking

variable {s : Substitution} {type : TypeExpr} (consumer : NodeId)

/-- A parameter is probed as it is asked for by a node of the type that it is probed for. -/
theorem queriesOf_demandsOf (params : List Site) :
    queriesOf (demandsOf s consumer type params) = params.map (paramQuery s type) := by
  rw [queriesOf, demandsOf, List.map_map]
  exact List.map_congr_left fun _ _ => rfl

/-- Filling the sites of a node is to resolve what it asks for there. -/
theorem fillSites_eq (below : Resolution) (sites : List Site) (session : Session) :
    let resolved := resolveAll below (demandsOf s consumer type sites) session
    fillSites below consumer type (sites.map s.applySite) session =
      ((sites.map s.applySite).zipWith (fun site target => ⟨site, target, false⟩) resolved.1,
        resolved.2) := by
  induction sites generalizing session with
  | nil => rfl
  | cons site more ih =>
    simp only [List.map_cons, fillSites, ih]
    rfl

end Asking

/-- For the parameters of a descriptor the choice of a constructor asks just what the builder asks
on a node of a type, with the same paths. -/
structure AsksAlike (d : Descriptor) (s : Substitution) (type : TypeExpr) : Prop where
  path : ∀ constructor ∈ d.constructors, ∀ param ∈ constructor.params, ∀ consumer,
    (Demand.ofSite (s.applySite param) consumer type).path =
      some ((s.applySite param).path (s.apply d.type))
  probed : ∀ constructor ∈ d.constructors, ∀ probe memo consumer,
    let asked := askAll probe (queriesOf (demandsOf s consumer type constructor.params)) memo
    countResolvable probe s (s.apply d.type) constructor.params memo =
      (asked.1.count true, asked.2)
  built : ∀ constructor ∈ d.constructors, ∀ below session consumer,
    let resolved := resolveAll below (demandsOf s consumer type constructor.params) session
    fillSites below consumer type (constructor.params.map s.applySite) session =
      ((constructor.params.map s.applySite).zipWith (fun site target => ⟨site, target, false⟩)
        resolved.1, resolved.2)

/-- Both sides ask alike when what is described is the type of the node. -/
theorem asksAlike_of_apply_eq {d : Descriptor} {s : Substitution} {type : TypeExpr}
    (described : s.apply d.type = type) : AsksAlike d s type where
  path constructor _ param _ consumer := by rw [Demand.ofSite, described]
  probed constructor _ probe memo consumer := by
    rw [described, queriesOf_demandsOf]
    exact countResolvable_eq ..
  built constructor _ below session consumer := fillSites_eq consumer below _ session

end Resolver

/-- The search of a catalog is sound and complete. No descriptor is found just when the type fits
none. What is found is the first descriptor of the very type, or else the first open one that fits;
with what is found for its markers it is of the type that was asked for, and so its parameters are
probed with the path that they are built with. -/
theorem Catalog.find_describes (c : Catalog) (type : TypeExpr) :
    (c.find .structural type = none ↔
      ∀ d ∈ c.types, Unifier.structural.accepts type d.type = false) ∧
    ∀ i s, c.find .structural type = some (i, s) ↔
      ∃ d, c.Describes .structural type i s d ∧ s.apply d.type = type ∧
        Resolver.AsksAlike d s type := by
  constructor
  · rw [find_eq_none_iff]
    constructor
    · rintro ⟨unlisted, unfit⟩ d mem
      -- The search tries no descriptor without markers, but such a one fits only its own type.
      cases isOpen : d.type.isOpen with
      | true => exact Bool.eq_false_of_not_eq_true fun fits => unfit d mem ⟨isOpen, fits⟩
      | false =>
        rw [← Bool.not_eq_true, Unifier.structural_accepts_closed isOpen]
        exact unlisted d mem
    · intro unfit
      constructor
      · rintro d mem rfl
        exact absurd (Unifier.structural_accepts_refl d.type) (by simp [unfit d mem])
      · rintro d mem ⟨-, fits⟩
        exact absurd fits (by simp [unfit d mem])
  · intro i s
    rw [find_eq_some_iff]
    constructor
    · rintro ⟨d, describes⟩
      have same : s.apply d.type = type := describes.apply_eq Unifier.structural_sound
      exact ⟨d, describes, same, Resolver.asksAlike_of_apply_eq same⟩
    · rintro ⟨d, describes, -⟩
      exact ⟨d, describes⟩

/-- A type itself is found before an open one that comes earlier and fits. -/
example :
    let repository (of : TypeExpr) : TypeExpr := .named "Repository" [of]
    let c : Catalog := ⟨[.concrete (repository (.marker "TT")),
      .concrete (repository (.named "User" []))]⟩
    c.find .structural (repository (.named "User" [])) = some (1, ∅) ∧
      c.find .structural (repository (.named "Role" [])) =
        some (0, (∅ : Substitution).insert "TT" (.named "Role" [])) ∧
      c.find .structural (.named "User" []) = none := by
  decide

end Wiring
