import Wiring.Diagnostic

/-!
# Graph — Traversal

Depth-first traversal of the nodes `0, …, size - 1` along a successor function. A node finishes
after everything that it leads to; what stands in the way of that is noted as a fault: an edge back
to a node on the current path, or to a node that does not exist.

The path holds no node twice, so its length bounds the depth, and `size + 1` steps down are always
enough.
-/

namespace Wiring

inductive Fault where
  /-- An edge back to the first of these nodes, which lead to each other in turn. -/
  | loop (nodes : List NodeId)
  | missing (id : NodeId)
  deriving DecidableEq

structure Trace where
  /-- Nodes in the order they finished. -/
  finished : List NodeId
  /-- Faults in the order they were met. -/
  faults : List Fault
  deriving DecidableEq

namespace Trace

def empty : Trace := ⟨[], []⟩

def finish (t : Trace) (id : NodeId) : Trace := { t with finished := t.finished ++ [id] }

def note (t : Trace) (f : Fault) : Trace := { t with faults := t.faults ++ [f] }

end Trace

namespace Traversal

/-- The part of a path, nearest node first, that an edge back to one of its nodes closes. -/
def loopAt (id : NodeId) (path : List NodeId) : List NodeId :=
  id :: (path.takeWhile (· ≠ id)).reverse

/-- Visit a node by way of a path that leads to it. -/
def visit (size : Nat) (next : NodeId → List NodeId) :
    (room : Nat) → (path : List NodeId) → Trace → NodeId → Trace
  | 0, _, t, _ => t
  | room + 1, path, t, id =>
    if size ≤ id then t.note (.missing id)
    else if id ∈ path then t.note (.loop (loopAt id path))
    else if id ∈ t.finished then t
    else ((next id).foldl (visit size next room (id :: path)) t).finish id

/-- Visit some nodes one after the other. -/
def trace (size : Nat) (next : NodeId → List NodeId) (starts : List NodeId) : Trace :=
  starts.foldl (visit size next (size + 1) []) .empty

end Traversal

end Wiring
