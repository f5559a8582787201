import Wiring.Registry.Lookup

/-!
# Resolver — Basic

What a resolution reads and never changes, and what it plans for a request that no binding answers:
an accumulator, a concrete type bound by itself, or one of the built-in shapes.
-/

namespace Wiring

/-- What becomes of the text of a pattern: a test of other texts, or why it is no pattern. -/
abbrev PatternReader := String → Except String (String → Bool)

structure Resolver where
  registry : Registry
  options : Options
  accumulators : List Accumulator
  /-- Concrete types may be bound by themselves, if their names fit the filter. -/
  autoBinds : Bool
  filter : Option (String → Bool)

/-- What is done about a request without a binding. -/
inductive Plan where
  | accumulator (index : Nat)
  | autoBinding (binding : Binding)
  | collection (kind : CollectionKind) (element : TypeExpr)
  | func (target : TypeExpr)
  | lazy (target : TypeExpr)
  | owned (target : TypeExpr)
  | tuple (items : List TypeExpr)
  | unresolved
  deriving DecidableEq

namespace Resolver

def filterDiagnostic (filter reason : String) : Diagnostic :=
  .ofKind .invalidMetadata ("自动绑定过滤表达式无效: " ++ filter ++ ": " ++ reason) none none

/-- A resolver, and what is wrong with its options. A filter that is no pattern turns automatic
binding off. -/
def ofOptions (reader : PatternReader) (registry : Registry) (options : Options)
    (accumulators : List Accumulator) : Resolver × List Diagnostic :=
  match options.autoBindingFilter with
  | none => (⟨registry, options, accumulators, options.autoBinding, none⟩, [])
  | some filter =>
    match reader filter with
    | .ok fits => (⟨registry, options, accumulators, options.autoBinding, some fits⟩, [])
    | .error reason =>
      (⟨registry, options, accumulators, false, none⟩, [filterDiagnostic filter reason])

def lookup (r : Resolver) (q : Query) : Option Match := r.registry.lookup q r.options

def descriptorOf (r : Resolver) (type : TypeExpr) : Option (Descriptor × Substitution) :=
  r.registry.catalog.descriptorOf r.registry.unifier type

/-- The first accumulator that a contract asks for. -/
def askedAccumulator (r : Resolver) (contract : TypeExpr) : Option Nat :=
  r.accumulators.findIdx? fun a => r.registry.unifier.accepts contract a.type

def passesFilter (r : Resolver) (contract : TypeExpr) : Bool :=
  match r.filter with
  | some fits => fits contract.text
  | none => true

/-- A transient binding of a closed named type to itself, when the type is constructible. -/
def autoBinding (r : Resolver) (contract : TypeExpr) : Option Binding :=
  if r.autoBinds && contract.isNamed && !contract.isOpen && r.passesFilter contract then
    match r.descriptorOf contract with
    | some (d, _) => if d.isConstructible then some (.ofType contract contract) else none
    | none => none
  else none

def plan (r : Resolver) (contract : TypeExpr) : Plan :=
  match r.askedAccumulator contract with
  | some index => .accumulator index
  | none =>
    match contract with
    | .named .. =>
      match r.autoBinding contract with
      | some binding => .autoBinding binding
      | none => .unresolved
    | .collection kind element => .collection kind element
    | .func target => .func target
    | .lazy target => .lazy target
    | .owned target => .owned target
    | .tuple items => .tuple items
    | .marker _ => .unresolved

end Resolver

end Wiring
