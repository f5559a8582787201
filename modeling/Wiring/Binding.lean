import Wiring.Lifetime
import Wiring.Site

/-!
# Binding

What is declared: bindings of contracts to implementations, the roots of a composition, and
accumulators that collect instances.
-/

namespace Wiring

inductive Implementation where
  /-- A type, built by one of its constructors. -/
  | type (type : TypeExpr)
  /-- A factory with sites of its own. -/
  | factory (label : String) (sites : List Site)
  /-- A value that is given from outside. -/
  | argument (name : String)
  deriving DecidableEq

def Implementation.type? : Implementation → Option TypeExpr
  | .type t => some t
  | _ => none

structure Binding where
  contract : TypeExpr
  tag : Option Tag
  lifetime : Lifetime
  implementation : Implementation
  location : Option String
  deriving DecidableEq

namespace Binding

/-- Transient and without a tag. -/
def plain (contract : TypeExpr) (implementation : Implementation) : Binding :=
  ⟨contract, none, .transient, implementation, none⟩

def ofType (contract type : TypeExpr) : Binding := plain contract (.type type)

def builtType? (b : Binding) : Option TypeExpr := b.implementation.type?

end Binding

structure Root where
  name : String
  contract : TypeExpr
  tag : Option TagValue
  location : Option String
  deriving DecidableEq

namespace Root

def untagged (name : String) (contract : TypeExpr) : Root := ⟨name, contract, none, none⟩

end Root

structure Accumulator where
  /-- What is collected. -/
  contract : TypeExpr
  /-- The type that a site asks for to get what was collected. -/
  type : TypeExpr
  lifetimes : List Lifetime
  deriving DecidableEq

/-- Without lifetimes an accumulator collects instances of every lifetime. -/
def Accumulator.takes (a : Accumulator) (lifetime : Lifetime) : Bool :=
  a.lifetimes.isEmpty || a.lifetimes.contains lifetime

end Wiring
