import Wiring.Graph.Basic
import Wiring.Graph.Traversal

/-!
# Graph — Order

An order of construction: every node after the nodes that it needs at once. Edges whose target is
built later do not count.
-/

namespace Wiring

inductive GraphError where
  /-- The names along a cycle, the first one repeated at the end. -/
  | cycleDetected (names : List String)
  | nodeNotFound (id : NodeId)
  deriving DecidableEq

def GraphError.message : GraphError → String
  | .cycleDetected names => "对象图中存在循环: " ++ " -> ".intercalate names
  | .nodeNotFound id => "节点不存在: " ++ toString id

namespace Graph

/-- Visit every node along the edges that must be built at once. -/
def eagerTrace (g : Graph) : Trace :=
  Traversal.trace g.nodes.length g.eagerSuccessors (List.range g.nodes.length)

/-- The names of some nodes and of the first one again. -/
def closedNames (g : Graph) (loop : List NodeId) : List String :=
  let names := loop.map g.nameOf
  names ++ names.take 1

def topologicalOrder (g : Graph) : Except GraphError (List NodeId) :=
  match g.eagerTrace.faults with
  | [] => .ok g.eagerTrace.finished
  | .loop nodes :: _ => .error (.cycleDetected (g.closedNames nodes))
  | .missing id :: _ => .error (.nodeNotFound id)

/-- Everything that a node leads to by any edges and then the node itself, each node after what it
leads to. -/
def buildOrder (g : Graph) (root : NodeId) : List NodeId :=
  (Traversal.trace g.nodes.length g.successors [root]).finished

end Graph

end Wiring
