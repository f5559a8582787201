import Wiring.Site

/-!
# Descriptor

What is known of a type: whether it can be constructed, what it implements, its constructors and
the members that are filled after construction.
-/

namespace Wiring

structure Constructor where
  isPublic : Bool
  ordinal : Option Int32
  params : List Site
  deriving DecidableEq

structure Descriptor where
  type : TypeExpr
  isConcrete : Bool
  isDisposable : Bool
  implements : List TypeExpr
  /-- With no constructor listed the type has a public one without parameters. -/
  constructors : List Constructor
  members : List Site
  deriving DecidableEq

namespace Descriptor

def concrete (type : TypeExpr) : Descriptor := ⟨type, true, false, [], [], []⟩

def interface (type : TypeExpr) : Descriptor := { concrete type with isConcrete := false }

/-- Explicit ordinals come first and ascend; sites without one come last. -/
def memberBefore (a b : Site) : Bool :=
  match a.ordinal, b.ordinal with
  | some m, some n => m ≤ n
  | some _, none => true
  | none, some _ => false
  | none, none => true

/-- Members in the order they are filled, declaration order among equals. -/
def orderedMembers (d : Descriptor) : List Site := d.members.mergeSort memberBefore

/-- Some constructor may be called from outside. -/
def isConstructible (d : Descriptor) : Bool :=
  d.isConcrete && (d.constructors.isEmpty || d.constructors.any (·.isPublic))

end Descriptor

end Wiring
