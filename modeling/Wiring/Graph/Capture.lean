import Wiring.Graph.Basic
import Wiring.Graph.Traversal
import Wiring.Options

/-!
# Graph — Capture

A shared instance must not hold on to one that is shared less widely. It holds what it reaches
through instances of its own, that is, through nodes that are not shared; a factory ends the search
because it builds its target anew on every call.
-/

namespace Wiring.Graph

def isSharedNode (g : Graph) (id : NodeId) : Bool :=
  match g.node? id with
  | some n => n.lifetime.isShared
  | none => false

/-- Where the search goes on from a node. -/
def heldSuccessors (g : Graph) (id : NodeId) : List NodeId :=
  match g.node? id with
  | some n => if n.lifetime.isShared || n.kind = .func then [] else n.targets
  | none => []

/-- The shared nodes that a node holds, in ascending order. -/
def heldShared (g : Graph) (consumer : Node) : List NodeId :=
  ((Traversal.trace g.nodes.length g.heldSuccessors consumer.targets).finished.filter
    g.isSharedNode).mergeSort (fun a b => decide (a ≤ b))

def captureDiagnostic (options : Options) (consumer dependency : Node) : Diagnostic :=
  { kind := .lifetimeConflict
    severity := if options.strictLifetimes then .error else .warning
    message := "生命周期冲突: " ++ consumer.lifetime.name ++ " 节点 " ++ consumer.label
      ++ " 依赖更窄范围的 " ++ dependency.lifetime.name ++ " 节点 " ++ dependency.label
    location := none
    subject := some (.node consumer.id) }

/-- The nodes that a shared node captures. -/
def capturedBy (g : Graph) (consumer : Node) : List Node :=
  if consumer.lifetime.isShared then
    ((g.heldShared consumer).filterMap g.node?).filter fun dependency =>
      consumer.lifetime.captures dependency.lifetime
  else []

def validateLifetimes (g : Graph) (options : Options) : List Diagnostic :=
  g.nodes.flatMap fun consumer => (g.capturedBy consumer).map (captureDiagnostic options consumer)

end Wiring.Graph
