import Wiring.Substitution

/-!
# Unifier

Fitting a declared type to a requested one. Only the markers of the declaration may be bound; a
marker in the request is a name like any other.
-/

namespace Wiring

/-- A way to extend a substitution so that a declared type becomes the requested one. -/
structure Unifier where
  unifyWith : (requested declared : TypeExpr) → Substitution → Option Substitution

namespace Unifier

def unify (u : Unifier) (requested declared : TypeExpr) : Option Substitution :=
  u.unifyWith requested declared ∅

def accepts (u : Unifier) (requested declared : TypeExpr) : Bool :=
  (u.unify requested declared).isSome

mutual

def bindMarkers : (requested declared : TypeExpr) → Substitution → Option Substitution
  | requested, .marker marker, s => s.bind? marker requested
  | .named p as, .named q bs, s => if p = q then bindMarkersAll as bs s else none
  | .tuple as, .tuple bs, s => bindMarkersAll as bs s
  | .func a, .func b, s => bindMarkers a b s
  | .lazy a, .lazy b, s => bindMarkers a b s
  | .owned a, .owned b, s => bindMarkers a b s
  | .collection j a, .collection k b, s => if j = k then bindMarkers a b s else none
  | _, _, _ => none

def bindMarkersAll : (requested declared : List TypeExpr) → Substitution → Option Substitution
  | [], [], s => some s
  | a :: as, b :: bs, s =>
    match bindMarkers a b s with
    | some s' => bindMarkersAll as bs s'
    | none => none
  | _, _, _ => none

end

/-- Shape by shape, the same marker standing for the same type throughout. -/
def structural : Unifier := ⟨bindMarkers⟩

/-- Only equal types fit, and nothing is bound. -/
def exact : Unifier := ⟨fun requested declared s => if requested = declared then some s else none⟩

end Unifier

end Wiring
