import Wiring.TypeExpr.Basic

/-!
# TypeExpr — Order

Types in the order of their kinds (names, markers, tuples, factories, lazy and owned values,
collections), then of their parts from left to right.
-/

namespace Wiring

/-- Element by element, a proper beginning of a list coming before it. -/
def compareLists {α : Type} (cmp : α → α → Ordering) : List α → List α → Ordering
  | [], [] => .eq
  | [], _ :: _ => .lt
  | _ :: _, [] => .gt
  | a :: as, b :: bs => (cmp a b).then (compareLists cmp as bs)

namespace TypeExpr

def rank : TypeExpr → Nat
  | .named .. => 0
  | .marker _ => 1
  | .tuple _ => 2
  | .func _ => 3
  | .lazy _ => 4
  | .owned _ => 5
  | .collection .. => 6

mutual

def order : TypeExpr → TypeExpr → Ordering
  | .named p as, .named q bs => (compare p q).then (orderAll as bs)
  | .marker m, .marker n => compare m n
  | .tuple as, .tuple bs => orderAll as bs
  | .func a, .func b => order a b
  | .lazy a, .lazy b => order a b
  | .owned a, .owned b => order a b
  | .collection j a, .collection k b => (compare j k).then (order a b)
  | s, t => compare s.rank t.rank

def orderAll : List TypeExpr → List TypeExpr → Ordering
  | [], [] => .eq
  | [], _ :: _ => .lt
  | _ :: _, [] => .gt
  | a :: as, b :: bs => (order a b).then (orderAll as bs)

end

instance : Ord TypeExpr := ⟨order⟩

end TypeExpr

end Wiring
