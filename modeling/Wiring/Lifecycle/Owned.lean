import Wiring.Lifecycle.Scope

/-!
# Lifecycle — Owned

A value together with the scope of what was built for it.
-/

namespace Wiring

structure OwnedValue (ι α : Type) where
  value : α
  scope : ReleaseScope ι

namespace OwnedValue

/-- Release what was built for the value; the value itself remains. -/
def releaseScope {ι α : Type} (dispose : Disposal ι) (o : OwnedValue ι α) :
    OwnedValue ι α × Releases ι :=
  let (scope, releases) := o.scope.release dispose
  (⟨o.value, scope⟩, releases)

end OwnedValue

end Wiring
