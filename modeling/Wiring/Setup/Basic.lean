import Wiring.Catalog
import Wiring.Binding
import Wiring.Options

/-!
# Setup — Basic

A composition as it is declared. Declarations are shorter than bindings: one may bind several
contracts under several tags, or leave contracts and lifetime to be worked out.
-/

namespace Wiring

structure Declaration where
  /-- Without contracts an implementation type is bound to itself and to what it implements. -/
  contracts : List TypeExpr
  tags : List Tag
  lifetime : Option Lifetime
  implementation : Implementation
  location : Option String
  deriving DecidableEq

namespace Declaration

def of (type : TypeExpr) : Declaration := ⟨[], [], none, .type type, none⟩

def bind (contract type : TypeExpr) : Declaration := { of type with contracts := [contract] }

def ofBinding (b : Binding) : Declaration :=
  ⟨[b.contract], b.tag.toList, some b.lifetime, b.implementation, b.location⟩

end Declaration

/-- A declaration for every type that has some capabilities. -/
structure CapabilityDeclaration where
  capabilities : List TypeExpr
  tags : List Tag
  lifetime : Option Lifetime
  location : Option String
  deriving DecidableEq

/-- The lifetime of bindings that have none of their own and fit a type. -/
structure LifetimeRule where
  type : TypeExpr
  lifetime : Lifetime
  deriving DecidableEq

structure Setup where
  types : Catalog
  bindings : List Declaration
  allImplementations : List CapabilityDeclaration
  defaultLifetimes : List LifetimeRule
  roots : List Root
  accumulators : List Accumulator
  options : Option Options
  deriving DecidableEq

namespace Setup

def empty : Setup := ⟨.empty, [], [], [], [], [], none⟩

def chosenOptions (s : Setup) : Options := s.options.getD .standard

def addType (s : Setup) (d : Descriptor) : Setup := { s with types := s.types.add d }

def addBinding (s : Setup) (d : Declaration) : Setup := { s with bindings := s.bindings ++ [d] }

def addRoot (s : Setup) (r : Root) : Setup := { s with roots := s.roots ++ [r] }

def addAccumulator (s : Setup) (a : Accumulator) : Setup :=
  { s with accumulators := s.accumulators ++ [a] }

/-- One setup after another. Of two sets of options the later one counts. -/
def merge (s other : Setup) : Setup where
  types := ⟨s.types.types ++ other.types.types⟩
  bindings := s.bindings ++ other.bindings
  allImplementations := s.allImplementations ++ other.allImplementations
  defaultLifetimes := s.defaultLifetimes ++ other.defaultLifetimes
  roots := s.roots ++ other.roots
  accumulators := s.accumulators ++ other.accumulators
  options := other.options.or s.options

end Setup

end Wiring
