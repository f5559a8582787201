import Mathlib.Data.List.ProdSigma
import Wiring.Proofs.Registry.Overriding
import Wiring.Proofs.Resolver.Membership
import Wiring.Setup.Expand

/-!
# Setup — Expand

Which bindings the declarations of a setup come to. Each declaration gives a binding for every
contract and tag, and a declaration for all implementations does so for every type that qualifies.
What was declared in so many words comes last, so it is never overridden by what was not.
-/

namespace Wiring

variable {s : Setup} {u : Unifier} {options : Options}

/-! ## Lifetimes -/

/-- A default lifetime is for the contract, or for the type that is built or what it implements. -/
def LifetimeRule.Suits (rule : LifetimeRule) (types : Catalog) (u : Unifier)
    (contract : TypeExpr) (implementation : Implementation) : Prop :=
  u.accepts contract rule.type ∨ ∃ type, implementation = .type type ∧
    (u.accepts type rule.type ∨ types.Implements u type rule.type)

theorem LifetimeRule.fits_iff {rule : LifetimeRule} {types : Catalog} {contract : TypeExpr}
    {implementation : Implementation} : rule.fits types u contract implementation ↔
      rule.Suits types u contract implementation := by
  cases implementation with
  | type type =>
    show (u.accepts contract rule.type || types.hasCapability u type rule.type) = true ↔ _
    rw [Bool.or_eq_true, Catalog.hasCapability_iff]
    refine or_congr_right ⟨fun has => ⟨type, rfl, has⟩, ?_⟩
    rintro ⟨_, ⟨⟩, has⟩
    exact has
  | factory | argument =>
    show (u.accepts contract rule.type || false) = true ↔ _
    rw [Bool.or_false]
    exact (or_iff_left nofun).symm

/-- The last element that passes a test is found from the end. -/
theorem find?_reverse_eq_some_iff {α : Type} {p : α → Bool} {l : List α} {a : α} :
    l.reverse.find? p = some a ↔
      ∃ earlier later, l = earlier ++ a :: later ∧ p a ∧ ∀ b ∈ later, p b = false := by
  rw [List.find?_eq_some_iff_append]
  constructor
  · rintro ⟨holds, later, earlier, split, after⟩
    refine ⟨earlier.reverse, later.reverse, ?_, holds, fun b mem => ?_⟩
    · rw [← List.reverse_reverse l, split]
      simp
    · simpa using after b (List.mem_reverse.1 mem)
  · rintro ⟨earlier, later, rfl, holds, after⟩
    refine ⟨holds, later.reverse, earlier.reverse, by simp, fun b mem => ?_⟩
    simpa using after b (List.mem_reverse.1 mem)

namespace Setup

/-- The lifetime of a binding: as declared, or else by the last default lifetime for it, or else by
the options. -/
inductive LifetimeOf (s : Setup) (u : Unifier) (options : Options) (contract : TypeExpr)
    (implementation : Implementation) : (declared : Option Lifetime) → Lifetime → Prop where
  | declared (lifetime) : LifetimeOf s u options contract implementation (some lifetime) lifetime
  | rule {earlier rule later} (split : s.defaultLifetimes = earlier ++ rule :: later)
      (suits : rule.Suits s.types u contract implementation)
      (last : ∀ other ∈ later, ¬ other.Suits s.types u contract implementation) :
      LifetimeOf s u options contract implementation none rule.lifetime
  | standard (unsuited : ∀ rule ∈ s.defaultLifetimes,
        ¬ rule.Suits s.types u contract implementation) :
      LifetimeOf s u options contract implementation none options.defaultLifetime

theorem lifetimeOf_getD (s : Setup) (u : Unifier) (options : Options) (contract : TypeExpr)
    (implementation : Implementation) (declared : Option Lifetime) :
    s.LifetimeOf u options contract implementation declared
      (declared.getD (s.defaultLifetime u options contract implementation)) := by
  cases declared with
  | some lifetime => exact .declared lifetime
  | none =>
    have unsuited {rule : LifetimeRule}
        (fails : rule.fits s.types u contract implementation = false) :
        ¬ rule.Suits s.types u contract implementation := fun suits =>
      Bool.eq_false_iff.1 fails (LifetimeRule.fits_iff.2 suits)
    rw [Option.getD_none, defaultLifetime]
    cases found : s.defaultLifetimes.reverse.find? (·.fits s.types u contract implementation) with
    | some rule =>
      obtain ⟨earlier, later, split, fits, last⟩ := find?_reverse_eq_some_iff.1 found
      exact .rule split (LifetimeRule.fits_iff.1 fits) fun other mem => unsuited (last other mem)
    | none =>
      refine .standard fun rule mem => unsuited (Bool.eq_false_iff.2 ?_)
      exact List.find?_eq_none.1 found rule (List.mem_reverse.2 mem)

/-! ## Contracts -/

/-- A type and what it implements, with markers filled in, each once. -/
def impliedContracts (s : Setup) (u : Unifier) (type : TypeExpr) : List TypeExpr :=
  (type :: s.types.capabilitiesOf u type).eraseDups

theorem foldl_new_eq_eraseDups {α : Type} [BEq α] [LawfulBEq α] (known l : List α)
    (nodup : known.eraseDups = known) :
    l.foldl (fun kept a => if kept.contains a then kept else kept ++ [a]) known =
      (known ++ l).eraseDups := by
  induction l generalizing known with
  | nil => simp [nodup]
  | cons a l ih =>
    rw [List.foldl_cons]
    cases old : known.contains a with
    | true =>
      have mem := List.contains_iff_mem.1 old
      rw [if_pos rfl, ih known nodup, List.eraseDups_append, List.eraseDups_append]
      refine congrArg (known.eraseDups ++ ·) (congrArg List.eraseDups ?_)
      simp [List.removeAll, mem]
    | false =>
      rw [if_neg (by simp), ih (known ++ [a]), List.append_assoc, List.singleton_append]
      have new : a ∉ known := fun mem => by simp [mem] at old
      rw [List.eraseDups_append, nodup]
      simp [List.removeAll, new, List.eraseDups_cons]

theorem ownContracts_type (s : Setup) (u : Unifier) (type : TypeExpr) :
    s.ownContracts u (.type type) = s.impliedContracts u type :=
  foldl_new_eq_eraseDups [type] _ (by simp [List.eraseDups_cons])

/-- The contracts of a declaration: those that it lists; or else the type that is built and what it
implements, each once; and none for a factory or an argument. -/
inductive ContractsOf (s : Setup) (u : Unifier) (d : Declaration) : List TypeExpr → Prop where
  | declared (listed : d.contracts ≠ []) : ContractsOf s u d d.contracts
  | implied {type} (omitted : d.contracts = []) (built : d.implementation = .type type) :
      ContractsOf s u d (s.impliedContracts u type)
  | nothing (omitted : d.contracts = []) (given : d.implementation.type? = none) :
      ContractsOf s u d []

theorem contractsOf_spec (s : Setup) (u : Unifier) (d : Declaration) :
    s.ContractsOf u d (s.contractsOf u d) := by
  rw [contractsOf]
  split
  · next empty =>
    have omitted := List.isEmpty_iff.1 empty
    cases built : d.implementation with
    | type type => exact ownContracts_type s u type ▸ .implied omitted built
    | factory | argument => exact .nothing omitted (by rw [built]; rfl)
  · next listed => exact .declared fun omitted => listed (List.isEmpty_iff.2 omitted)

/-! ## Bindings -/

/-- A binding of an implementation to a contract under a tag, with the lifetime that it gets. -/
structure Binds (s : Setup) (u : Unifier) (options : Options) (lifetime? : Option Lifetime)
    (location : Option String) (asked : Implementation × TypeExpr × Option Tag) (b : Binding) :
    Prop where
  implementation : b.implementation = asked.1
  contract : b.contract = asked.2.1
  tag : b.tag = asked.2.2
  lifetime : s.LifetimeOf u options asked.2.1 asked.1 lifetime? b.lifetime
  location : b.location = location

/-- The tags that are listed, or another one when there are none. -/
def chosenTags (tags : List Tag) (otherwise : Option Tag) : List (Option Tag) :=
  if tags = [] then [otherwise] else tags.map some

/-- An ordinary declaration gives a binding for each contract and each tag. -/
def Declares (s : Setup) (u : Unifier) (options : Options) (d : Declaration)
    (bindings : List Binding) : Prop :=
  ∃ contracts, s.ContractsOf u d contracts ∧
    List.Forall₂ (s.Binds u options d.lifetime d.location)
      ([d.implementation] ×ˢ contracts ×ˢ chosenTags d.tags none) bindings

theorem binds_expandDeclaration (s : Setup) (u : Unifier) (options : Options) (d : Declaration) :
    List.Forall₂ (s.Binds u options d.lifetime d.location)
      ([d.implementation] ×ˢ s.contractsOf u d ×ˢ tagsOf d) (s.expandDeclaration u options d) := by
  have eq : s.expandDeclaration u options d =
      ([d.implementation] ×ˢ s.contractsOf u d ×ˢ tagsOf d).map fun asked =>
        ⟨asked.2.1, asked.2.2, d.lifetime.getD (s.defaultLifetime u options asked.2.1 asked.1),
          asked.1, d.location⟩ := by
    simp [expandDeclaration, SProd.sprod, List.product, List.map_flatMap,
      Function.comp_def]
  rw [eq, List.forall₂_map_right_iff]
  exact List.forall₂_same.2 fun asked _ => ⟨rfl, rfl, rfl, lifetimeOf_getD .., rfl⟩

theorem tagsOf_eq (d : Declaration) : tagsOf d = chosenTags d.tags none := by
  simp [tagsOf, chosenTags, List.isEmpty_iff]

theorem declares_expandDeclaration (s : Setup) (u : Unifier) (options : Options)
    (d : Declaration) : s.Declares u options d (s.expandDeclaration u options d) :=
  ⟨_, contractsOf_spec s u d, tagsOf_eq d ▸ binds_expandDeclaration s u options d⟩

/-! ## All implementations -/

/-- A concrete closed type with all of some capabilities. -/
structure Qualifies (s : Setup) (u : Unifier) (capabilities : List TypeExpr) (d : Descriptor) :
    Prop where
  concrete : d.isConcrete
  closed : d.type.isOpen = false
  capable : ∀ capability ∈ capabilities,
    u.accepts d.type capability ∨ s.types.Implements u d.type capability

theorem qualifies_iff {capabilities : List TypeExpr} {d : Descriptor} :
    s.Qualifies u capabilities d ↔
      d.isConcrete && !d.type.isOpen && capabilities.all (s.types.hasCapability u d.type) := by
  rw [Bool.and_eq_true, Bool.and_eq_true, Bool.not_eq_true', List.all_eq_true]
  simp only [Catalog.hasCapability_iff]
  exact ⟨fun h => ⟨⟨h.concrete, h.closed⟩, h.capable⟩, fun ⟨⟨h, h'⟩, h''⟩ => ⟨h, h', h''⟩⟩

instance (capabilities : List TypeExpr) (d : Descriptor) :
    Decidable (s.Qualifies u capabilities d) := decidable_of_iff _ qualifies_iff.symm

/-- The types that qualify, in catalog order. -/
def qualifying (s : Setup) (u : Unifier) (capabilities : List TypeExpr) : List Descriptor :=
  s.types.types.filter (s.Qualifies u capabilities ·)

/-- A declaration for all implementations gives each type that qualifies a binding for each of its
contracts and each tag, unique without tags; or there is no such type, and just that is reported,
with the capabilities and where they were declared. -/
inductive DeclaresAll (s : Setup) (u : Unifier) (options : Options) (d : CapabilityDeclaration)
    (contracts : TypeExpr → List TypeExpr) : List Binding × List Diagnostic → Prop where
  | none (noType : s.qualifying u d.capabilities = []) :
      DeclaresAll s u options d contracts ([], [⟨.invalidMetadata, .error,
        "没有实现 " ++ " + ".intercalate (d.capabilities.map TypeExpr.text) ++ " 的具体类型",
        d.location, none⟩])
  | each {bindings} (someType : s.qualifying u d.capabilities ≠ [])
      (each : List.Forall₂ (s.Binds u options d.lifetime d.location)
        ((s.qualifying u d.capabilities).flatMap fun type =>
          [.type type.type] ×ˢ contracts type.type ×ˢ chosenTags d.tags (some .unique))
        bindings) :
      DeclaresAll s u options d contracts (bindings, [])

theorem get?_withCapabilities (c : Catalog) (u : Unifier) (capabilities : List TypeExpr) :
    (c.withCapabilities u capabilities).filterMap c.get? = c.types.filter fun d =>
      d.isConcrete && !d.type.isOpen && capabilities.all (c.hasCapability u d.type) := by
  conv_rhs => rw [← List.zipIdx_map_fst 0 c.types, List.filter_map]
  rw [Catalog.withCapabilities, List.filterMap_map, ← List.filterMap_eq_map]
  refine List.filterMap_congr fun (d, i) mem => ?_
  exact List.mk_mem_zipIdx_iff_getElem?.1 (List.mem_filter.1 mem).1

theorem get?_withCapabilities_eq_qualifying (s : Setup) (u : Unifier)
    (capabilities : List TypeExpr) :
    (s.types.withCapabilities u capabilities).filterMap s.types.get? =
      s.qualifying u capabilities := by
  rw [get?_withCapabilities, qualifying]
  exact List.filter_congr fun d _ => Bool.eq_iff_iff.2 <|
    qualifies_iff.symm.trans decide_eq_true_iff.symm

theorem tagsOf_declarationFor (d : CapabilityDeclaration) (type : TypeExpr) :
    tagsOf (declarationFor d type) = chosenTags d.tags (some .unique) := by
  rw [tagsOf_eq, declarationFor, chosenTags, chosenTags]
  cases d.tags <;> simp

/-- The contracts that a declaration for all implementations has for a type. -/
theorem declaresAll_expandAll (s : Setup) (u : Unifier) (options : Options)
    (d : CapabilityDeclaration) :
    s.DeclaresAll u options d (fun type => s.contractsOf u (declarationFor d type))
      (s.expandAll u options d) := by
  rw [expandAll, get?_withCapabilities_eq_qualifying]
  cases types : s.qualifying u d.capabilities with
  | nil => exact .none types
  | cons first more =>
    refine .each (types ▸ List.cons_ne_nil first more) ?_
    rw [types]
    refine List.rel_flatMap (R := Eq) (List.forall₂_refl _) ?_
    rintro type _ rfl
    rw [← tagsOf_declarationFor d type.type]
    exact binds_expandDeclaration s u options (declarationFor d type.type)

theorem contractsOf_declarationFor (s : Setup) (u : Unifier) (d : CapabilityDeclaration)
    (type : TypeExpr) : s.contractsOf u (declarationFor d type) =
      if d.capabilities = [] then s.impliedContracts u type else d.capabilities := by
  rw [contractsOf, declarationFor, ownContracts_type]
  simp [List.isEmpty_iff]

theorem declaresAll_of_listed {d : CapabilityDeclaration} (listed : d.capabilities ≠ []) :
    s.DeclaresAll u options d (fun _ => d.capabilities) (s.expandAll u options d) := by
  have spec := declaresAll_expandAll s u options d
  simpa only [contractsOf_declarationFor, if_neg listed] using spec

theorem declaresAll_of_omitted {d : CapabilityDeclaration} (omitted : d.capabilities = []) :
    s.DeclaresAll u options d (s.impliedContracts u) (s.expandAll u options d) := by
  have spec := declaresAll_expandAll s u options d
  simpa only [contractsOf_declarationFor, if_pos omitted] using spec

/-! ## Order -/

section Order

variable {catalog : Catalog} {unifier : Unifier} {bindings : List Binding} {i j : BindingId}

/-- Registering a binding overrides an earlier one. -/
def Overrides (catalog : Catalog) (unifier : Unifier) (bindings : List Binding)
    (later earlier : BindingId) : Prop :=
  let r := (Registry.empty catalog unifier).before bindings later
  ∃ b, bindings[later]? = some b ∧ r.overriddenBy (r.nextEntry b) = some earlier

theorem Overrides.lt (h : Overrides catalog unifier bindings j i) : i < j := by
  obtain ⟨b, at_j, overridden⟩ := h
  have registered : Registry.Registered ((Registry.empty catalog unifier).before bindings j) :=
    .all (.empty ..) _
  have known := (registered.overriddenBy_eq_some_iff.1 overridden).2.1
  exact Registry.size_before catalog unifier at_j ▸ Registry.lt_of_effectiveKey known

theorem isOverridden_of_later (lt : i < j) (inside : j < bindings.length)
    (same : let r := ((Registry.empty catalog unifier).registerAll bindings).1
      r.effectiveKey? i = r.effectiveKey? j) :
    ((Registry.empty catalog unifier).registerAll bindings).1.isOverridden i := by
  have registered : Registry.Registered ((Registry.empty catalog unifier).registerAll bindings).1 :=
    .all (.empty ..) bindings
  have known := Registry.declared?_history catalog unifier (List.getElem?_eq_getElem inside)
  have key := Registry.effectiveKey?_eq (i := j)
    (r := ((Registry.empty catalog unifier).registerAll bindings).1)
  rw [known, Option.map_some] at key
  exact (registered.isOverridden_iff (same.trans key)).2 ⟨j, lt, key⟩

end Order

/-- A setup comes to the bindings of its declarations for all implementations, one for each type
that qualifies, each capability and each tag, or to a report when no type does; and then to those of
its ordinary declarations, one for each contract and each tag. A declaration for all implementations
that lists no capability has the contracts that an ordinary one has by omission. However they are
registered, a binding of an ordinary declaration is never overridden by one for all implementations,
and overrides those of its effective key. -/
theorem expand_declares (s : Setup) (u : Unifier) (options : Options) :
    let all := s.allImplementations.map (s.expandAll u options)
    let ordinary := s.bindings.map (s.expandDeclaration u options)
    let count := (all.flatMap (·.1)).length
    s.expand u options = (all.flatMap (·.1) ++ ordinary.flatten, all.flatMap (·.2)) ∧
    (∀ d ∈ s.allImplementations,
      (d.capabilities ≠ [] →
        s.DeclaresAll u options d (fun _ => d.capabilities) (s.expandAll u options d)) ∧
      (d.capabilities = [] →
        s.DeclaresAll u options d (s.impliedContracts u) (s.expandAll u options d))) ∧
    (∀ d ∈ s.bindings, s.Declares u options d (s.expandDeclaration u options d)) ∧
    ∀ catalog unifier,
      let r := ((Registry.empty catalog unifier).registerAll (s.expand u options).1).1
      (∀ i j, Overrides catalog unifier (s.expand u options).1 j i → count ≤ i → count ≤ j) ∧
      ∀ i j, i < count → count ≤ j → j < (s.expand u options).1.length →
        r.effectiveKey? i = r.effectiveKey? j → r.isOverridden i := by
  intro all ordinary count
  refine ⟨?_, fun d _ => ⟨declaresAll_of_listed, declaresAll_of_omitted⟩,
    fun d _ => declares_expandDeclaration s u options d, fun catalog unifier => ⟨?_, ?_⟩⟩
  · rw [expand, List.flatMap_def (l := s.bindings)]
  · exact fun i j overrides ordinary => Nat.le_trans ordinary overrides.lt.le
  · exact fun i j bulk ordinary => isOverridden_of_later (Nat.lt_of_lt_of_le bulk ordinary)

/-! ### Plugins -/

def plugin : TypeExpr := .named "IPlugin" []

def pluginTypes : Catalog :=
  ⟨[{ Descriptor.concrete (.named "Audit" []) with implements := [plugin] },
    Descriptor.concrete (.named "Clock" []),
    { Descriptor.concrete (.named "Cache" []) with implements := [plugin] }]⟩

/-- All plugins under one tag, nothing for clocks that implement a missing contract, and one plugin
by name. -/
def plugins : Setup :=
  { empty with
    types := pluginTypes
    allImplementations := [⟨[plugin], [.value (.text "main")], none, none⟩,
      ⟨[.named "IMissing" []], [], none, none⟩]
    defaultLifetimes := [⟨plugin, .perResolve⟩, ⟨.named "Cache" [], .singleton⟩]
    bindings := [⟨[plugin], [.value (.text "main")], none, .factory "own" [], none⟩] }

/-- The plugin by name overrides what all plugins came to. -/
theorem expand_declares_plugins :
    let bindings := (plugins.expand .structural .standard).1
    let r := ((Registry.empty pluginTypes .structural).registerAll bindings).1
    bindings.map (·.lifetime) = [.perResolve, .singleton, .perResolve] ∧
      r.isOverridden 0 ∧ r.isOverridden 1 ∧ ¬ Overrides pluginTypes .structural bindings 1 2 ∧
      plugins.DeclaresAll .structural .standard ⟨[plugin], [.value (.text "main")], none, none⟩
        (fun _ => [plugin])
        (plugins.expandAll .structural .standard ⟨[plugin], [.value (.text "main")], none, none⟩) :=
      by
  intro bindings r
  obtain ⟨-, all, -, registered⟩ := expand_declares plugins .structural .standard
  obtain ⟨kept, overridden⟩ := registered pluginTypes .structural
  have lifetimes : bindings.map (·.lifetime) = [.perResolve, .singleton, .perResolve] := by decide
  refine ⟨lifetimes, ?_, ?_, fun overrides => ?_, ?_⟩
  · exact overridden 0 2 (by decide) (by decide) (by decide) (by decide)
  · exact overridden 1 2 (by decide) (by decide) (by decide) (by decide)
  · exact absurd (kept 2 1 overrides (by decide)) (by decide)
  · exact (all _ (by decide)).1 (by decide)

/-! ### Auditing -/

/-- All implementations of no capability in particular. -/
def auditing : Setup :=
  { empty with
    types := ⟨[{ Descriptor.concrete (.named "Audit" []) with implements := [plugin] }]⟩
    allImplementations := [⟨[], [], none, none⟩] }

/-- There is no capability to bind the type to, but it is bound to its own contracts. -/
theorem auditing_not_perCapability :
    ¬ ∃ (all : List (List Binding × List Diagnostic)) (ordinary : List (List Binding)),
      auditing.expand .structural .standard =
        (all.flatMap (·.1) ++ ordinary.flatten, all.flatMap (·.2)) ∧
      List.Forall₂ (fun d => auditing.DeclaresAll .structural .standard d fun _ => d.capabilities)
        auditing.allImplementations all ∧
      List.Forall₂ (auditing.Declares .structural .standard) auditing.bindings ordinary := by
  rintro ⟨all, ordinary, whole, declaresAll, declares⟩
  have contracts : (auditing.expand .structural .standard).1.map (·.contract) =
      [.named "Audit" [], plugin] := by decide
  have qualifying : auditing.qualifying .structural [] ≠ [] := by decide
  -- Without capabilities there is nothing to bind, and no other declaration.
  cases declares
  obtain _ | ⟨each, ⟨⟩⟩ := declaresAll
  cases each with
  | none noType => exact qualifying noType
  | @each bindings _ each =>
    have nothing : bindings = [] := by
      rw [List.flatMap_eq_nil_iff.2 fun _ _ => by rfl] at each
      cases each
      rfl
    rw [whole, nothing] at contracts
    nomatch contracts

end Setup

end Wiring
