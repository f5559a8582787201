import Wiring.Diagnostic
import Wiring.TypeExpr.Basic

/-!
# Registry — HeadIndex

Bindings by the head of their contract. A request can only unify with contracts of its own head
and with contracts that are a bare marker, so these are all it needs to try.
-/

namespace Wiring

structure HeadIndex where
  buckets : List (TypeExpr.Head × List BindingId)
  /-- Bindings whose contract is a bare marker. -/
  markers : List BindingId

namespace HeadIndex

def empty : HeadIndex := ⟨[], []⟩

def addTo (head : TypeExpr.Head) (id : BindingId) :
    List (TypeExpr.Head × List BindingId) → List (TypeExpr.Head × List BindingId)
  | [] => [(head, [id])]
  | bucket :: more =>
    if bucket.1 = head then (head, bucket.2 ++ [id]) :: more else bucket :: addTo head id more

def add (ix : HeadIndex) (contract : TypeExpr) (id : BindingId) : HeadIndex :=
  match contract.head? with
  | some head => { ix with buckets := addTo head id ix.buckets }
  | none => { ix with markers := ix.markers ++ [id] }

def bucket (ix : HeadIndex) (head : TypeExpr.Head) : List BindingId :=
  (ix.buckets.lookup head).getD []

/-- The bindings worth trying for a contract, in ascending order. -/
def candidates (ix : HeadIndex) (contract : TypeExpr) : List BindingId :=
  match contract.head? with
  | some head => (ix.bucket head).merge ix.markers
  | none => ix.markers

end HeadIndex

end Wiring
