import Wiring.Descriptor
import Wiring.Unifier

/-!
# Catalog

The known types in the order they were described, and what can be asked of them under a unifier.
-/

namespace Wiring

structure Catalog where
  types : List Descriptor
  deriving DecidableEq, Inhabited

namespace Catalog

def empty : Catalog := ⟨[]⟩

def add (c : Catalog) (d : Descriptor) : Catalog := ⟨c.types ++ [d]⟩

def get? (c : Catalog) (index : Nat) : Option Descriptor := c.types[index]?

/-- The first open descriptor that unifies with a type, counting from an index. -/
def findOpen (u : Unifier) (type : TypeExpr) : Nat → List Descriptor → Option (Nat × Substitution)
  | _, [] => none
  | index, d :: more =>
    if d.type.isOpen then
      match u.unify type d.type with
      | some s => some (index, s)
      | none => findOpen u type (index + 1) more
    else findOpen u type (index + 1) more

/-- The descriptor of a type: one that describes just this type, or else the first open one that
unifies with it. -/
def find (c : Catalog) (u : Unifier) (type : TypeExpr) : Option (Nat × Substitution) :=
  match c.types.findIdx? (·.type = type) with
  | some index => some (index, ∅)
  | none => findOpen u type 0 c.types

/-- The descriptor itself, with the types its markers stand for. -/
def descriptorOf (c : Catalog) (u : Unifier) (type : TypeExpr) :
    Option (Descriptor × Substitution) :=
  match c.find u type with
  | some (index, s) => (c.get? index).map (·, s)
  | none => none

/-- What the descriptor of a type says it implements. -/
def capabilitiesOf (c : Catalog) (u : Unifier) (type : TypeExpr) : List TypeExpr :=
  match c.descriptorOf u type with
  | some (d, s) => d.implements.map s.apply
  | none => []

/-- A type has a capability when it is the capability or implements it. -/
def hasCapability (c : Catalog) (u : Unifier) (type capability : TypeExpr) : Bool :=
  u.accepts type capability ||
    (c.capabilitiesOf u type).any fun declared => u.accepts declared capability

/-- The closed concrete types with all the capabilities, in catalog order. -/
def withCapabilities (c : Catalog) (u : Unifier) (capabilities : List TypeExpr) : List Nat :=
  (c.types.zipIdx.filter fun (d, _) =>
    d.isConcrete && !d.type.isOpen && capabilities.all (c.hasCapability u d.type)).map (·.2)

end Catalog

end Wiring
