import Wiring.Proofs.Resolver.Validity
import Wiring.Proofs.Substitution

/-!
# Resolver — Metadata

Which nodes are flagged for their metadata. The node of a binding is, when the catalog does not
describe the type that is built as one that can be constructed, and no other node is. Without errors
the catalog describes all declared types so. But where a declared type is open, what is built is the
type with its markers replaced, and that one may have another descriptor.
-/

namespace Wiring

/-- The catalog describes a type as one that can be constructed. -/
def Registry.constructs (registry : Registry) (type : TypeExpr) : Bool :=
  (registry.catalog.descriptorOf registry.unifier type).any (·.1.isConstructible)

theorem Registry.metadataFlaws_eq_nil_iff {registry : Registry} {type : TypeExpr} :
    registry.metadataFlaws type = [] ↔ registry.constructs type := by
  rw [metadataFlaws, constructs]
  split
  · next unknown => simp [unknown]
  · next d s described =>
    rw [described, Option.any_some]
    split
    · next missing =>
      have never : d.isConstructible = false := by
        rw [Descriptor.isConstructible, Bool.not_eq_eq_eq_not.1 missing, Bool.not_true,
          Bool.false_and]
      simp [never]
    · cases d.isConstructible <;> simp

/-- What is declared without errors can be constructed. -/
theorem Registry.constructs_of_validate {registry : Registry}
    (valid : hasErrors registry.validate = false) {id : BindingId} {b : Binding} {type : TypeExpr}
    (binding : registry.binding? id = some b) (built : b.builtType? = some type) :
    registry.constructs type := by
  obtain ⟨e, entry, rfl⟩ := Option.map_eq_some_iff.1 binding
  refine metadataFlaws_eq_nil_iff.1 (List.eq_nil_iff_forall_not_mem.2 fun flaw mem => ?_)
  have flawed : flaw ∈ registry.flaws e := by
    rw [flaws, built]
    exact List.mem_append_right _ (List.mem_append_right _ mem)
  have reported : Diagnostic.ofKind .invalidMetadata flaw.message e.binding.location
      (some (.binding id)) ∈ registry.validate :=
    List.mem_flatMap.2 ⟨(e, id), List.mk_mem_zipIdx_iff_getElem?.2 entry,
      List.mem_map.2 ⟨flaw, flawed, rfl⟩⟩
  exact List.any_eq_false.1 valid _ reported rfl

/-! ## The constructor that is chosen -/

theorem Score.preferred_isSome (measure : Score → Nat) (best : Option Score) (next : Score) :
    (preferred measure best next).isSome := by
  cases best with
  | none => rfl
  | some b =>
    rw [preferred]
    split <;> rfl

/-- Among some scores there is always a best one. -/
theorem Score.best_eq_none_iff {measure : Score → Nat} {scores : List Score} :
    best measure scores = none ↔ scores = [] := by
  cases scores using List.reverseRecOn with
  | nil => exact iff_of_true rfl rfl
  | append_singleton scores last =>
    rw [best, List.foldl_append]
    exact iff_of_false (Option.isSome_iff_ne_none.1 (preferred_isSome ..)) (by simp)

theorem Descriptor.considered_eq_nil_iff {d : Descriptor} {fallback : Bool} :
    d.considered fallback = [] ↔ d.constructors.any (·.isPublic) = false := by
  have none : d.constructors.zipIdx.filter (·.1.isPublic) = [] ↔
      d.constructors.any (·.isPublic) = false := by
    rw [← List.zipIdx_map_fst 0 d.constructors, List.any_map, List.any_eq_false]
    simp
  rw [considered]
  split
  · exact none
  · next others =>
    -- Some public constructor has parameters, and so it is considered.
    rw [Bool.or_eq_true, not_or, List.all_eq_true] at others
    refine iff_of_false (fun empty => others.2 ?_) fun hidden => others.2 ?_
    · intro c mem
      simpa using List.filter_eq_nil_iff.1 empty c mem
    · rw [none.2 hidden]
      exact nofun

namespace Resolver

variable {r : Resolver}

theorem scoreAll_eq_nil_iff {probe : Prober} {s : Substitution} {consumer : TypeExpr}
    {constructors : List (Constructor × Nat)} {memo : ProbeMemo} :
    (scoreAll probe s consumer constructors memo).1 = [] ↔ constructors = [] := by
  cases constructors <;> simp [scoreAll]

theorem selectByScore_index_eq_none_iff {scores : List Score} :
    (selectByScore scores).index = none ↔ scores = [] := by
  rw [selectByScore]
  split
  · next full found =>
    refine iff_of_false nofun ?_
    rintro rfl
    nomatch found
  · rw [Option.map_eq_none_iff, Score.best_eq_none_iff]

/-- A constructor is chosen when there is a public one. -/
theorem selectConstructor_index_isNone {d : Descriptor} {s : Substitution} {memo : ProbeMemo}
    (listed : d.constructors.isEmpty = false) :
    (r.selectConstructor d s memo).1.index.isNone = !d.constructors.any (·.isPublic) := by
  rw [selectConstructor, selectWith, if_neg (by simp [listed]), Bool.eq_iff_iff,
    Option.isNone_iff_eq_none, selectByScore_index_eq_none_iff, scoreAll_eq_nil_iff,
    Descriptor.considered_eq_nil_iff, Bool.not_eq_true']

/-! ## What is flagged -/

variable {contract type : TypeExpr} {b : Binding}

/-- What a binding of a type builds is flagged when it is not described as constructible. -/
theorem recipeOf_type (contract : TypeExpr) (σ : Substitution) (memo : ProbeMemo)
    (built : b.implementation = .type type) :
    (r.recipeOf contract b σ memo).1.resultType = σ.apply type ∧
      (r.recipeOf contract b σ memo).1.isInvalid = !r.registry.constructs (σ.apply type) := by
  have described : r.registry.constructs (σ.apply type) =
      (r.descriptorOf (σ.apply type)).any (·.1.isConstructible) := rfl
  rw [recipeOf, built, described]
  dsimp only
  split
  · next d s found =>
    rw [found, Option.any_some, Descriptor.isConstructible]
    split
    · next concrete =>
      refine ⟨rfl, ?_⟩
      cases listed : d.constructors.isEmpty with
      | true => simp [concrete]
      | false => simp [concrete, selectConstructor_index_isNone listed]
    · next abstracted => simp [abstracted]
  · next unknown => simp [unknown]

/-- A type that is bound by itself is closed and can be constructed. -/
theorem autoBinding_constructs (auto : r.autoBinding contract = some b) :
    b = .ofType contract contract ∧ contract.isOpen = false ∧ r.registry.constructs contract := by
  rw [autoBinding] at auto
  split at auto
  · next planned =>
    split at auto
    · next d s found =>
      split at auto
      · next constructible =>
        refine ⟨(Option.some.inj auto).symm, by simp_all, ?_⟩
        exact (Option.any_eq_true ..).2 ⟨_, found, constructible⟩
      · cases auto
    · cases auto
  · cases auto

/-- A node is flagged just when a binding builds it as a type that is not described as
constructible. -/
def FlaggedBy (r : Resolver) (n : Node) : Prop :=
  match n.source with
  | .explicit id => ∃ b, r.registry.binding? id = some b ∧
    match b.implementation with
    | .type type => (∃ σ : Substitution, n.resultType = σ.apply type) ∧
        n.flags.invalidMetadata = !r.registry.constructs n.resultType
    | .factory .. | .argument _ => n.flags.invalidMetadata = false
  | .auto _ | .implicit => n.flags.invalidMetadata = false

/-- The node of a binding that a match found. -/
theorem flaggedBy_of_match {found : Match} {s s' : Session}
    (binding : r.registry.binding? found.binding = some b) :
    r.FlaggedBy ((r.openBound (r.choiceOf contract found b) s).birth s').node := by
  refine ⟨b, binding, ?_⟩
  cases built : b.implementation with
  | type type =>
    obtain ⟨result, invalid⟩ := r.recipeOf_type contract found.substitution s.memo built
    exact ⟨⟨_, result⟩, invalid.trans (by rw [← result]; rfl)⟩
  | factory | argument =>
    show (r.recipeOf contract b found.substitution s.memo).1.isInvalid = false
    rw [recipeOf, built]

theorem Opens.flaggedBy {ask s o} (h : r.Opens ask s o) : r.FlaggedBy (o.birth s).node := by
  cases h with
  | @bound _ _ _ s' chosen =>
    cases chosen with
    | bound _ _ binding | candidate binding => exact flaggedBy_of_match binding
    | @auto contract _ _ _ _ _ binding =>
      obtain ⟨rfl, closed, constructs⟩ := autoBinding_constructs binding
      have valid (memo : ProbeMemo) :
          (r.recipeOf contract (.ofType contract contract) ∅ memo).1.isInvalid = false := by
        rw [(recipeOf_type contract ∅ memo rfl).2, Substitution.apply_of_closed closed, constructs]
        rfl
      exact valid _
  | accumulated | shape => rfl

/-- When the declarations have no errors, a closed type is built as it was declared and validated.
So only what becomes of an open type decides whether a node is flagged. -/
theorem FlaggedBy.not_flagged_iff {n : Node} (h : r.FlaggedBy n)
    (declared : hasErrors r.registry.validate = false) :
    n.flags.invalidMetadata = false ↔
      ∀ id b type, n.source = .explicit id → r.registry.binding? id = some b →
        b.implementation = .type type → type.isOpen → r.registry.constructs n.resultType := by
  rw [FlaggedBy] at h
  cases source : n.source with
  | auto | implicit =>
    rw [source] at h
    exact iff_of_true h fun _ _ _ isExplicit => nomatch isExplicit
  | explicit id =>
    rw [source] at h
    obtain ⟨b, binding, made⟩ := h
    constructor
    · rintro free _ b' type ⟨⟩ binding' built -
      cases binding.symm.trans binding'
      rw [built] at made
      simpa [free] using made.2
    · intro lasts
      cases built : b.implementation with
      | factory | argument =>
        rw [built] at made
        exact made
      | type type =>
        rw [built] at made
        obtain ⟨⟨σ, result⟩, isFlagged⟩ := made
        have constructs : r.registry.constructs n.resultType := by
          cases isOpen : type.isOpen with
          | true => exact lasts id b type rfl binding built isOpen
          | false =>
            have isBuilt : b.builtType? = some type := by
              rw [Binding.builtType?, built, Implementation.type?]
            rw [result, Substitution.apply_of_closed isOpen]
            exact Registry.constructs_of_validate declared binding isBuilt
        rw [isFlagged, constructs]
        rfl

/-- So it is with every node of a graph that is built. -/
theorem build_flaggedBy (r : Resolver) (found : List Diagnostic) (roots : List Root) :
    ∀ n ∈ (r.build found roots).1.nodes, r.FlaggedBy n := by
  intro n mem
  obtain ⟨births, b, closed⟩ := build_closed r found roots n mem
  cases closed with
  | intro opened => exact opened.flaggedBy

end Resolver

namespace Resolved

theorem ofOptions_registry (reader : PatternReader) (registry : Registry) (options : Options)
    (accumulators : List Accumulator) :
    (Resolver.ofOptions reader registry options accumulators).1.registry = registry := by
  unfold Resolver.ofOptions
  split
  · rfl
  · split <;> rfl

theorem validate_of_isValid {reader : PatternReader} {registry : Registry} {options : Options}
    {roots : List Root} {accumulators : List Accumulator}
    (valid : (ofRoots reader registry options roots accumulators .standard).isValid) :
    hasErrors registry.validate = false := by
  rw [isValid, Bool.not_eq_true', hasErrors, List.any_eq_false] at valid
  rw [hasErrors, List.any_eq_false]
  intro d mem
  exact valid d (List.mem_append_left _ (List.mem_append_left _ (List.mem_append_left _ mem)))

/-- Without errors no node is flagged for its metadata, exactly when every open type that a node
was declared with has become a type that is described as constructible. -/
theorem valid_metadata_iff (reader : PatternReader) (registry : Registry) (options : Options)
    (roots : List Root) (accumulators : List Accumulator)
    (valid : (ofRoots reader registry options roots accumulators .standard).isValid) :
    let g := (ofRoots reader registry options roots accumulators .standard).graph
    (∀ n ∈ g.nodes, n.flags.invalidMetadata = false) ↔
      ∀ n ∈ g.nodes, ∀ id b type, n.source = .explicit id → registry.binding? id = some b →
        b.implementation = .type type → type.isOpen → registry.constructs n.resultType := by
  have declared := validate_of_isValid valid
  obtain ⟨-, -, same⟩ := checked_of_isValid valid
  rw [same]
  refine forall₂_congr fun n mem => ?_
  have flagged : (Resolver.ofOptions reader registry options accumulators).1.FlaggedBy n :=
    Resolver.build_flaggedBy _ _ roots n mem
  have iff := flagged.not_flagged_iff (by rw [ofOptions_registry]; exact declared)
  rwa [ofOptions_registry] at iff

/-! ## Storage

A repository of anything can be constructed, and it is declared for the contract of repositories of
anything. But the repository of users has a descriptor of its own, which is no concrete type.
-/

def storageRegistry : Registry :=
  ((Registry.empty ⟨[.concrete (.named "Repo" [.marker "TT"]),
      .interface (.named "Repo" [.named "User" []])]⟩ .structural).registerAll
    [.ofType (.named "IRepo" [.marker "TT"]) (.named "Repo" [.marker "TT"])]).1

abbrev storage : Resolved :=
  ofRoots literalReader storageRegistry .standard
    [.untagged "main" (.named "IRepo" [.named "User" []])] [] .standard

theorem storage_facts :
    storage.isValid ∧ storage.graph.nodes.any (·.flags.invalidMetadata) := by cbv

theorem valid_metadata_iff_storage :
    storage.isValid ∧ ¬ ∀ n ∈ storage.graph.nodes, ∀ id b type, n.source = .explicit id →
      storageRegistry.binding? id = some b → b.implementation = .type type → type.isOpen →
      storageRegistry.constructs n.resultType := by
  obtain ⟨valid, present⟩ := storage_facts
  obtain ⟨n, mem, flagged⟩ := List.any_eq_true.1 present
  refine ⟨valid, fun constructs => ?_⟩
  have free := (valid_metadata_iff _ _ _ _ _ valid).2 constructs n mem
  exact Bool.false_ne_true (free.symm.trans flagged)

/-- Nothing is reported about the repository, but its node is flagged. -/
theorem storage_silent :
    ¬ (storage.isValid → ∀ n ∈ storage.graph.nodes, n.flags.invalidMetadata = false) := by
  obtain ⟨valid, present⟩ := storage_facts
  obtain ⟨n, mem, flagged⟩ := List.any_eq_true.1 present
  intro claim
  exact Bool.false_ne_true ((claim valid n mem).symm.trans flagged)

end Resolved

end Wiring
