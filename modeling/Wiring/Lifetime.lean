/-!
# Lifetime

How widely an instance is shared, from one request to the whole composition.
-/

namespace Wiring

inductive Lifetime where
  | transient | singleton | perResolve | perBlock | perScope
  deriving DecidableEq, Inhabited

namespace Lifetime

def all : List Lifetime := [transient, singleton, perResolve, perBlock, perScope]

def name : Lifetime → String
  | transient => "Transient"
  | singleton => "Singleton"
  | perResolve => "PerResolve"
  | perBlock => "PerBlock"
  | perScope => "Scoped"

def ofName? (name : String) : Option Lifetime :=
  all.find? fun lifetime => lifetime.name = name

def isShared (lifetime : Lifetime) : Bool := lifetime ≠ transient

/-- The wider the sharing, the greater; an instance that is not shared has width zero. -/
def width : Lifetime → Nat
  | transient => 0
  | perBlock => 1
  | perResolve => 2
  | perScope => 3
  | singleton => 4

/-- Instances that live as long as the composition. -/
def livesWithComposition (lifetime : Lifetime) : Bool :=
  lifetime = singleton || lifetime = perScope

/-- An instance captures a dependency that is shared less widely than itself. -/
def captures (lifetime dependency : Lifetime) : Bool :=
  lifetime.isShared && dependency.isShared && dependency.width < lifetime.width

@[simp] theorem ofName?_name (lifetime : Lifetime) : ofName? lifetime.name = some lifetime := by
  cases lifetime <;> decide

end Lifetime

end Wiring
