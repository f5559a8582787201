import Wiring.Binding
import Wiring.Diagnostic

/-!
# Graph — Basic

The construction graph: nodes in the order they were made, addressed by their position, with edges
to other nodes or to requests that nothing answered. A cycle is an ordinary set of edges.
-/

namespace Wiring

/-- Which binding a node comes from. -/
inductive Source where
  | explicit (id : BindingId)
  /-- A binding made for a concrete type without one; the index is into the graph's list. -/
  | auto (index : Nat)
  | implicit
  deriving DecidableEq

inductive NodeKind where
  /-- Built by a constructor of its type, or without one. -/
  | construct (constructor : Option Nat)
  | factory (label : String)
  | argument (name : String)
  | collection (kind : CollectionKind) (element : TypeExpr) (isLazy : Bool)
  | func
  | lazy
  | owned
  | tuple
  | accumulator (index : Nat)
  deriving DecidableEq

/-- The target of a factory or a lazy value is built later than the node itself. -/
def NodeKind.isDeferred : NodeKind → Bool
  | .func | .lazy => true
  | _ => false

def NodeKind.isAccumulator : NodeKind → Bool
  | .accumulator _ => true
  | _ => false

def NodeKind.isConstruct : NodeKind → Bool
  | .construct _ => true
  | _ => false

/-- Within what an instance is shared. -/
inductive Sharing where
  | composition
  | resolve (root : Nat)
  | block (block : Nat)
  deriving DecidableEq

/-- Who releases an instance. -/
inductive Owner where
  | composition
  | resolve (root : Nat)
  | owned (wrapper : NodeId)
  deriving DecidableEq

inductive Target where
  | node (id : NodeId)
  | unresolved (id : RequestId)
  deriving DecidableEq

namespace Target

def node? : Target → Option NodeId
  | .node id => some id
  | .unresolved _ => none

def isUnresolved : Target → Bool
  | .node _ => false
  | .unresolved _ => true

end Target

structure Dependency where
  site : Site
  target : Target
  isDeferred : Bool
  deriving DecidableEq

structure Flags where
  cyclic : Bool
  hasUnresolved : Bool
  invalidMetadata : Bool
  deriving DecidableEq

def Flags.none : Flags := ⟨false, false, false⟩

structure Node where
  id : NodeId
  contract : TypeExpr
  tag : TagKey
  /-- The type that is built. -/
  resultType : TypeExpr
  source : Source
  kind : NodeKind
  lifetime : Lifetime
  /-- No scope when the instance is not shared. -/
  scope : Option Sharing
  owner : Owner
  dependencies : List Dependency
  isDisposable : Bool
  flags : Flags
  deriving DecidableEq

namespace Node

def isValid (n : Node) : Bool :=
  !(n.flags.cyclic || n.flags.hasUnresolved || n.flags.invalidMetadata)

def label (n : Node) : String :=
  if n.tag = .untagged then n.contract.text else n.contract.text ++ "(" ++ n.tag.label ++ ")"

/-- The node with its dependencies; it is flagged when one of them is unresolved. -/
def connected (n : Node) (dependencies : List Dependency) : Node :=
  { n with
    dependencies
    flags := { n.flags with
      hasUnresolved := n.flags.hasUnresolved || dependencies.any fun d => d.target.isUnresolved } }

/-- The nodes it depends on, in the order of its sites. -/
def targets (n : Node) : List NodeId := n.dependencies.filterMap (·.target.node?)

/-- The nodes that must be built before it. -/
def eagerTargets (n : Node) : List NodeId :=
  (n.dependencies.filter (!·.isDeferred)).filterMap (·.target.node?)

end Node

/-- A request that nothing answered. -/
structure Unanswered where
  id : RequestId
  contract : TypeExpr
  tag : Option TagValue
  /-- No site when a root asked. -/
  site : Option Site
  consumer : Option NodeId
  root : String
  deriving DecidableEq

structure RootEdge where
  root : Root
  target : Target
  deriving DecidableEq

structure Graph where
  nodes : List Node
  roots : List RootEdge
  unresolved : List Unanswered
  /-- The bindings made for concrete types without one. -/
  autoBindings : List Binding
  deriving DecidableEq

namespace Graph

def empty : Graph := ⟨[], [], [], []⟩

def node? (g : Graph) (id : NodeId) : Option Node := g.nodes[id]?

/-! ## Growing -/

/-- A new node gets the next position as its id. -/
def addNode (g : Graph) (n : Node) : Graph :=
  { g with nodes := g.nodes ++ [{ n with id := g.nodes.length }] }

def modifyNode (g : Graph) (id : NodeId) (f : Node → Node) : Graph :=
  { g with nodes := g.nodes.modify id f }

def addUnresolved (g : Graph) (u : Unanswered) : Graph :=
  { g with unresolved := g.unresolved ++ [{ u with id := g.unresolved.length }] }

def addRoot (g : Graph) (r : RootEdge) : Graph := { g with roots := g.roots ++ [r] }

def addAutoBinding (g : Graph) (b : Binding) : Graph :=
  { g with autoBindings := g.autoBindings ++ [b] }

/-! ## Questions -/

def root? (g : Graph) (name : String) : Option RootEdge :=
  g.roots.find? (·.root.name = name)

def nodeOfRoot? (g : Graph) (name : String) : Option Node :=
  match g.root? name with
  | some r => r.target.node?.bind g.node?
  | none => none

def nodesOf (g : Graph) (contract : TypeExpr) : List Node :=
  g.nodes.filter (·.contract = contract)

def successors (g : Graph) (id : NodeId) : List NodeId :=
  match g.node? id with
  | some n => n.targets
  | none => []

def eagerSuccessors (g : Graph) (id : NodeId) : List NodeId :=
  match g.node? id with
  | some n => n.eagerTargets
  | none => []

def nameOf (g : Graph) (id : NodeId) : String :=
  match g.node? id with
  | some n => n.label
  | none => ""

/-- Nothing is unresolved, and every edge leads to a node. -/
def isComplete (g : Graph) : Bool :=
  g.unresolved.isEmpty && g.nodes.all fun n => n.dependencies.all fun d =>
    match d.target with
    | .node id => (g.node? id).isSome
    | .unresolved _ => false

/-- Where an unanswered request comes from. -/
def askedBy (g : Graph) (u : Unanswered) : String :=
  match u.site, u.consumer.bind g.node? with
  | some site, some consumer => site.path consumer.resultType
  | some site, none => site.member ++ ":" ++ site.name
  | none, _ => "root " ++ u.root

end Graph

end Wiring
