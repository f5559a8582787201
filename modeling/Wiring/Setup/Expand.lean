import Wiring.Diagnostic
import Wiring.Setup.Basic

/-!
# Setup — Expand

From declarations to bindings. Declarations for all implementations come first, so that an ordinary
declaration of the same contract and tag overrides them.
-/

namespace Wiring

/-- A default lifetime fits a contract, or a type by what it implements. -/
def LifetimeRule.fits (rule : LifetimeRule) (types : Catalog) (u : Unifier)
    (contract : TypeExpr) (implementation : Implementation) : Bool :=
  u.accepts contract rule.type ||
    match implementation with
    | .type type => types.hasCapability u type rule.type
    | _ => false

namespace Setup

/-- The contracts of an implementation that is declared without any. -/
def ownContracts (s : Setup) (u : Unifier) : Implementation → List TypeExpr
  | .type type =>
    (s.types.capabilitiesOf u type).foldl
      (fun contracts capability =>
        if contracts.contains capability then contracts else contracts ++ [capability])
      [type]
  | _ => []

/-- The last default lifetime that fits, or else the one of the options. -/
def defaultLifetime (s : Setup) (u : Unifier) (options : Options) (contract : TypeExpr)
    (implementation : Implementation) : Lifetime :=
  match s.defaultLifetimes.reverse.find? (·.fits s.types u contract implementation) with
  | some rule => rule.lifetime
  | none => options.defaultLifetime

def contractsOf (s : Setup) (u : Unifier) (d : Declaration) : List TypeExpr :=
  if d.contracts.isEmpty then s.ownContracts u d.implementation else d.contracts

def tagsOf (d : Declaration) : List (Option Tag) :=
  if d.tags.isEmpty then [none] else d.tags.map some

/-- A binding for each contract and each tag. -/
def expandDeclaration (s : Setup) (u : Unifier) (options : Options) (d : Declaration) :
    List Binding :=
  (s.contractsOf u d).flatMap fun contract =>
    let lifetime := d.lifetime.getD (s.defaultLifetime u options contract d.implementation)
    (tagsOf d).map fun tag => ⟨contract, tag, lifetime, d.implementation, d.location⟩

def noTypeDiagnostic (d : CapabilityDeclaration) : Diagnostic :=
  .ofKind .invalidMetadata
    ("没有实现 " ++ " + ".intercalate (d.capabilities.map TypeExpr.text) ++ " 的具体类型") d.location none

/-- The declaration for one of the types that qualify; unique tags keep them apart. -/
def declarationFor (d : CapabilityDeclaration) (type : TypeExpr) : Declaration :=
  ⟨d.capabilities, if d.tags.isEmpty then [.unique] else d.tags, d.lifetime, .type type, d.location⟩

/-- The bindings of all types that qualify, or a diagnostic when there is none. -/
def expandAll (s : Setup) (u : Unifier) (options : Options) (d : CapabilityDeclaration) :
    List Binding × List Diagnostic :=
  match (s.types.withCapabilities u d.capabilities).filterMap s.types.get? with
  | [] => ([], [noTypeDiagnostic d])
  | types =>
    (types.flatMap fun type => s.expandDeclaration u options (declarationFor d type.type), [])

/-- All bindings in the order in which they are registered. -/
def expand (s : Setup) (u : Unifier) (options : Options) : List Binding × List Diagnostic :=
  let all := s.allImplementations.map (s.expandAll u options)
  (all.flatMap (·.1) ++ s.bindings.flatMap (s.expandDeclaration u options), all.flatMap (·.2))

end Setup

end Wiring
