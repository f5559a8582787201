import Wiring.Graph.Order
import Wiring.Registry.Basic

/-!
# Resolver — Accumulation

What each accumulator collects. Instances that belong to the composition are collected once for all
roots, any others once for each root that builds them; each list is in construction order.
-/

namespace Wiring

inductive CollectedFor where
  | composition
  | root (name : String)
  deriving DecidableEq

structure Collected where
  /-- The position of the accumulator among the declared ones. -/
  index : Nat
  type : TypeExpr
  extent : CollectedFor
  members : List NodeId
  deriving DecidableEq

namespace Accumulator

/-- A node is collected when its lifetime is, and it is or implements what is collected. -/
def collects (a : Accumulator) (r : Registry) (n : Node) : Bool :=
  !n.kind.isAccumulator && a.takes n.lifetime &&
    (r.unifier.accepts n.resultType a.contract || r.unifier.accepts n.contract a.contract ||
      r.catalog.hasCapability r.unifier n.resultType a.contract)

/-- The nodes collected from a list, either those of the composition or the others. -/
def membersAmong (a : Accumulator) (r : Registry) (g : Graph) (ofComposition : Bool)
    (ids : List NodeId) : List NodeId :=
  ids.filter fun id =>
    match g.node? id with
    | some n => a.collects r n && n.lifetime.livesWithComposition == ofComposition
    | none => false

/-- The accumulator itself is asked for among some nodes. -/
def isAskedAmong (g : Graph) (index : Nat) (ids : List NodeId) : Bool :=
  ids.any fun id => (g.node? id).any fun n => n.kind = .accumulator index

/-- What belongs to the composition, each node where it is first built. -/
def compositionMembers (a : Accumulator) (r : Registry) (g : Graph) : List NodeId :=
  ((g.roots.flatMap fun root =>
    match root.target with
    | .node id => a.membersAmong r g true (g.buildOrder id)
    | .unresolved _ => [])).eraseDups

def rootInstance (a : Accumulator) (index : Nat) (r : Registry) (g : Graph)
    (root : RootEdge) : Option Collected :=
  match root.target with
  | .unresolved _ => none
  | .node id =>
    let order := g.buildOrder id
    let members := a.membersAmong r g false order
    if isAskedAmong g index order || !members.isEmpty then
      some ⟨index, a.type, .root root.root.name, members⟩
    else none

/-- The instance of the composition, if it has members, and then those of the roots. -/
def instances (a : Accumulator) (index : Nat) (r : Registry) (g : Graph) :
    List Collected :=
  let ofComposition := match a.compositionMembers r g with
    | [] => []
    | members => [⟨index, a.type, .composition, members⟩]
  ofComposition ++ g.roots.filterMap (a.rootInstance index r g)

end Accumulator

/-- What the accumulators collect, one after the other. -/
def Graph.collect (g : Graph) (accumulators : List Accumulator) (r : Registry) :
    List Collected :=
  accumulators.zipIdx.flatMap fun (a, index) => a.instances index r g

end Wiring
