import Wiring.Lifetime

/-!
# Options

What can be chosen about a resolution.
-/

namespace Wiring

structure Options where
  /-- Concrete types may be built without a binding. -/
  autoBinding : Bool
  /-- The pattern that names of such types must fit. -/
  autoBindingFilter : Option String
  /-- A constructor without parameters may stand in for one that has some. -/
  parameterlessFallback : Bool
  wildcardTagMatching : Bool
  /-- Lifetime conflicts are errors. -/
  strictLifetimes : Bool
  defaultLifetime : Lifetime
  maxDepth : Nat
  deriving DecidableEq

def Options.standard : Options := ⟨true, none, true, true, true, .transient, 100⟩

instance : Inhabited Options := ⟨.standard⟩

end Wiring
