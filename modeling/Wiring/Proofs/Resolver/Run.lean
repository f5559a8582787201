import Wiring.Resolver.Build

/-!
# Resolver — Run

A resolution as a sequence of requests. Each is settled at once, by an old node or by nothing, or
it opens a new node; the parts of an open node are requests in turn, and when they are answered the
node is closed with what they lead to. `Run` says this once for every kind of node, with a record of
the nodes as they were opened.
-/

namespace Wiring

/-- A request for an instance, open or for a binding that was found before. -/
inductive Ask where
  | request (contract : TypeExpr) (demand : Demand)
  | candidate (contract : TypeExpr) (demand : Demand) (found : Match)

/-- A part of a node: where it goes and what is asked for it. -/
structure Part where
  site : Site
  ask : Ask

/-- A binding that answers a request, with the contract and tag that it answers. -/
structure Choice where
  contract : TypeExpr
  tag : TagKey
  source : Source
  binding : Binding
  substitution : Substitution

/-- A new node, its parts, and the session in which they are resolved. -/
structure Opening where
  node : Node
  parts : List Part
  inner : Session

/-- A node as it was opened, and where the resolution stood. -/
structure Birth where
  context : Context
  node : Node

/-- The record of a node that is opened in a session. -/
def Opening.birth (o : Opening) (s : Session) : Birth :=
  ⟨s.context, { o.node with id := s.nextNode }⟩

/-- The built-in shape of a contract. -/
def TypeExpr.shape? : TypeExpr → Option NodeKind
  | .collection kind element => some (.collection kind element kind.isLazy)
  | .func _ => some .func
  | .lazy _ => some .lazy
  | .owned _ => some .owned
  | .tuple _ => some .tuple
  | .named .. | .marker _ => none

/-- Nodes that a binding makes. -/
def NodeKind.isMade : NodeKind → Bool
  | .construct _ | .factory _ | .argument _ => true
  | _ => false

/-- The dependencies of a node, from its parts and what they lead to. -/
def dependenciesOf (kind : NodeKind) (parts : List Part) (targets : List Target) :
    List Dependency :=
  List.zipWith (fun part target => ⟨part.site, target, kind.isDeferred⟩) parts targets

namespace Session

/-- Go on inside a node of a built-in shape. -/
def enterShape (s : Session) (kind : NodeKind) (id : NodeId) : Session :=
  match kind with
  | .func | .lazy | .collection _ _ true => s.enterBlock
  | .owned => s.enterBlock.setOwner (.owned id)
  | _ => s

/-- Come back to a context and give an open node its dependencies. -/
def close (s : Session) (context : Context) (id : NodeId) (dependencies : List Dependency) :
    Session :=
  { s with context }.connect id dependencies

end Session

def Recipe.parts (c : Recipe) (id : NodeId) : List Part :=
  c.sites.map fun site => ⟨site, .request site.contract (.ofSite site id c.resultType)⟩

namespace Resolver

def itemParts (r : Resolver) (d : Demand) (element : TypeExpr) (id : NodeId) :
    (index : Nat) → List Match → List Part
  | _, [] => []
  | index, found :: more =>
    let tag := (r.registry.tagKey found.binding).value?
    let site := partSite ("item" ++ toString index) element tag
    ⟨site, .candidate element (d.inside site id) found⟩ :: r.itemParts d element id (index + 1) more

def tupleParts (d : Demand) (id : NodeId) : (index : Nat) → List TypeExpr → List Part
  | _, [] => []
  | index, item :: more =>
    let site := partSite ("item" ++ toString index) item none
    ⟨site, .request item (d.inside site id)⟩ :: tupleParts d id (index + 1) more

def targetPart (d : Demand) (id : NodeId) (target : TypeExpr) : Part :=
  let site := partSite "target" target d.tag
  ⟨site, .request target (d.inside site id)⟩

/-- The parts of a node of a built-in shape. -/
def shapeParts (r : Resolver) (d : Demand) (id : NodeId) : TypeExpr → List Part
  | .collection _ element => r.itemParts d element id 0 (r.registry.allMatches element)
  | .func target | .lazy target | .owned target => [targetPart d id target]
  | .tuple items => tupleParts d id 0 items
  | .named .. | .marker _ => []

/-- The session once a request was taken to the registry. -/
def asked (r : Resolver) (contract : TypeExpr) (d : Demand) (s : Session) : Session :=
  s.useRules (r.registry.matchingRules ⟨contract, d.tag, d.path⟩)

/-- No binding and no accumulator answers a request. -/
def Unbound (r : Resolver) (contract : TypeExpr) (d : Demand) : Prop :=
  r.lookup ⟨contract, d.tag, d.path⟩ = none ∧ r.askedAccumulator contract = none

/-- The binding of a match answers a contract. -/
def choiceOf (r : Resolver) (contract : TypeExpr) (found : Match) (b : Binding) : Choice :=
  ⟨contract, r.registry.tagKey found.binding, .explicit found.binding, b, found.substitution⟩

variable (r : Resolver)

/-- The binding that a request is answered by. -/
inductive Chooses : Ask → Session → Choice → Session → Prop where
  | bound {contract d s found b} (room : s.context.depth < r.options.maxDepth)
      (lookup : r.lookup ⟨contract, d.tag, d.path⟩ = some found)
      (binding : r.registry.binding? found.binding = some b) :
      Chooses (.request contract d) s (r.choiceOf contract found b) (r.asked contract d s)
  | auto {contract d s b} (room : s.context.depth < r.options.maxDepth)
      (unbound : r.Unbound contract d) (binding : r.autoBinding contract = some b) :
      Chooses (.request contract d) s
        ⟨contract, .untagged, .auto ((r.asked contract d s).autoBindingIndex b).1, b, ∅⟩
        ((r.asked contract d s).autoBindingIndex b).2
  | candidate {contract d s found b} (binding : r.registry.binding? found.binding = some b) :
      Chooses (.candidate contract d found) s (r.choiceOf contract found b) s

/-- Requests that make no node. -/
inductive Settles : Ask → Session → Target → Session → Prop where
  | cut {contract d s} (room : s.context.depth = r.options.maxDepth) :
      Settles (.request contract d) s (r.cut contract d s).1 (r.cut contract d s).2
  | refused {contract d s} (room : s.context.depth < r.options.maxDepth)
      (unbound : r.Unbound contract d) (shape : contract.shape? = none)
      (auto : r.autoBinding contract = none) :
      Settles (.request contract d) s ((r.asked contract d s).reject contract d).1
        ((r.asked contract d s).reject contract d).2
  | missing {contract d s found} (room : s.context.depth < r.options.maxDepth)
      (lookup : r.lookup ⟨contract, d.tag, d.path⟩ = some found)
      (binding : r.registry.binding? found.binding = none) :
      Settles (.request contract d) s ((r.asked contract d s).reject contract d).1
        ((r.asked contract d s).reject contract d).2
  | lost {contract d s found} (binding : r.registry.binding? found.binding = none) :
      Settles (.candidate contract d found) s (s.reject contract d).1 (s.reject contract d).2
  | linked {ask s choice s' id} (chosen : r.Chooses ask s choice s')
      (link : s'.context.find? choice.contract choice.tag = some id) :
      Settles ask s (.node id) s'
  | shared {ask s choice s' id} (chosen : r.Chooses ask s choice s')
      (link : s'.context.find? choice.contract choice.tag = none)
      (share : s'.sharedNode? choice.contract choice.tag choice.source choice.binding.lifetime
        = some id) :
      Settles ask s (.node id) s'
  | accumulated {contract d s index id} (room : s.context.depth < r.options.maxDepth)
      (lookup : r.lookup ⟨contract, d.tag, d.path⟩ = none)
      (accumulator : r.askedAccumulator contract = some index)
      (share : (r.asked contract d s).sharedNode? contract (.ofValue? d.tag) .implicit .perResolve
        = some id) :
      Settles (.request contract d) s (.node id) (r.asked contract d s)

/-- The node that a binding makes, with its sites as parts. -/
def openBound (choice : Choice) (s : Session) : Opening :=
  let (c, memo) := r.recipeOf choice.contract choice.binding choice.substitution s.memo
  let node := boundNode s.context choice.contract choice.tag choice.source
    choice.binding.lifetime c
  ⟨node, c.parts s.nextNode,
    (({ s with memo }.addNode node).setOwner node.owner).pushLink choice.contract choice.tag
      s.nextNode⟩

/-- An accumulator has no parts. -/
def openAccumulator (contract : TypeExpr) (d : Demand) (index : Nat) (s : Session) : Opening :=
  let node := shapeNode s.context contract d (.accumulator index) .perResolve
  ⟨node, [], s.addNode node⟩

def openShape (contract : TypeExpr) (d : Demand) (kind : NodeKind) (s : Session) : Opening :=
  let node := shapeNode s.context contract d kind .transient
  ⟨node, r.shapeParts d s.nextNode contract, (s.addNode node).enterShape kind s.nextNode⟩

/-- Requests that make a node. -/
inductive Opens : Ask → Session → Opening → Prop where
  | bound {ask s choice s'} (chosen : r.Chooses ask s choice s')
      (link : s'.context.find? choice.contract choice.tag = none)
      (share : s'.sharedNode? choice.contract choice.tag choice.source choice.binding.lifetime
        = none) :
      Opens ask s (r.openBound choice s')
  | accumulated {contract d s index} (room : s.context.depth < r.options.maxDepth)
      (lookup : r.lookup ⟨contract, d.tag, d.path⟩ = none)
      (accumulator : r.askedAccumulator contract = some index)
      (share : (r.asked contract d s).sharedNode? contract (.ofValue? d.tag) .implicit .perResolve
        = none) :
      Opens (.request contract d) s (openAccumulator contract d index (r.asked contract d s))
  | shape {contract d s kind} (room : s.context.depth < r.options.maxDepth)
      (unbound : r.Unbound contract d) (shape : contract.shape? = some kind) :
      Opens (.request contract d) s (r.openShape contract d kind (r.asked contract d s))

/-- Some requests are answered in order, with what they lead to and the nodes born on the way, in
the order of their ids. -/
inductive Run : List Ask → Session → List Target → Session → List Birth → Prop where
  | done {s} : Run [] s [] s []
  | settle {ask s target s' more targets s'' births} (settled : r.Settles ask s target s')
      (rest : Run more s' targets s'' births) :
      Run (ask :: more) s (target :: targets) s'' births
  | make {ask s o inside s' births more targets s'' births'} (opened : r.Opens ask s o)
      (parts : Run (o.parts.map (·.ask)) o.inner inside s' births)
      (rest : Run more
        (s'.close s.context s.nextNode (dependenciesOf o.node.kind o.parts inside))
        targets s'' births') :
      Run (ask :: more) s (.node s.nextNode :: targets) s''
        (o.birth s :: births ++ births')

end Resolver

end Wiring
