import Wiring.Resolver.Session

/-!
# Resolver — Build

Building the graph from the roots down. A request is answered by the binding that the registry
chooses, or else by what is planned for its contract; then the sites of what is built are requests
in turn, one link further down the chain. A request that is already on the chain is linked back to.

The chain never grows past the depth limit: a request that arrives there is recorded as unresolved.
Built-in shapes lead to the parts of their contract without a link, so resolution ends by the room
left on the chain and then by the size of the contract.
-/

namespace Wiring

/-- Answering a request for a contract. -/
abbrev Resolution := TypeExpr → Demand → Session → Target × Session

/-- What a binding builds. -/
structure Recipe where
  kind : NodeKind
  resultType : TypeExpr
  sites : List Site
  isDisposable : Bool
  isInvalid : Bool

namespace Resolver

/-! ## Construction -/

/-- The parameters of the chosen constructor and then the members, with the types that the
descriptor's markers stand for. -/
def sitesOf (d : Descriptor) (s : Substitution) (choice : Selection) : List Site :=
  let params := match choice.index.bind (d.constructors[·]?) with
    | some constructor => constructor.params
    | none => []
  (params ++ d.orderedMembers).map s.applySite

def recipeOf (r : Resolver) (contract : TypeExpr) (b : Binding) (s : Substitution)
    (memo : ProbeMemo) : Recipe × ProbeMemo :=
  match b.implementation with
  | .type type =>
    let resultType := s.apply type
    match r.descriptorOf resultType with
    | some (d, s') =>
      if d.isConcrete then
        let (choice, memo) := r.selectConstructor d s' memo
        ({ kind := .construct choice.index
           resultType
           sites := sitesOf d s' choice
           isDisposable := d.isDisposable
           isInvalid := choice.index.isNone && !d.constructors.isEmpty }, memo)
      else (⟨.construct none, resultType, [], false, true⟩, memo)
    | none => (⟨.construct none, resultType, [], false, true⟩, memo)
  | .factory label sites =>
    (⟨.factory label, contract, sites.map s.applySite, false, false⟩, memo)
  | .argument name => (⟨.argument name, contract, [], false, false⟩, memo)

/-- Resolve the sites of a node in order. -/
def fillSites (below : Resolution) (consumer : NodeId) (consumerType : TypeExpr) :
    List Site → Session → List Dependency × Session
  | [], s => ([], s)
  | site :: more, s =>
    let (target, s) := below site.contract (.ofSite site consumer consumerType) s
    let (dependencies, s) := fillSites below consumer consumerType more s
    (⟨site, target, false⟩ :: dependencies, s)

/-- The node that a binding makes here, before its sites are resolved. -/
def boundNode (context : Context) (contract : TypeExpr) (tag : TagKey) (source : Source)
    (lifetime : Lifetime) (c : Recipe) : Node :=
  { id := 0
    contract, tag
    resultType := c.resultType
    source
    kind := c.kind
    lifetime
    scope := context.sharingOf lifetime
    owner := context.ownerOf lifetime
    dependencies := []
    isDisposable := c.isDisposable
    flags := { Flags.none with invalidMetadata := c.isInvalid } }

/-- Answer a request by a binding: by the node on the chain that already does, by a shared node, or
by a new one. -/
def construct (r : Resolver) (below : Resolution) (contract : TypeExpr) (tag : TagKey)
    (source : Source) (b : Binding) (σ : Substitution) (s : Session) : Target × Session :=
  match s.context.find? contract tag with
  | some id => (.node id, s)
  | none =>
    match s.sharedNode? contract tag source b.lifetime with
    | some id => (.node id, s)
    | none =>
      let (c, memo) := r.recipeOf contract b σ s.memo
      let id := s.nextNode
      let node := boundNode s.context contract tag source b.lifetime c
      let opened := (({ s with memo }.addNode node).setOwner node.owner).pushLink contract tag id
      let (dependencies, filled) := fillSites below id c.resultType c.sites opened
      (.node id, (filled.popLink.setOwner s.context.owner).connect id dependencies)

def constructMatch (r : Resolver) (below : Resolution) (contract : TypeExpr) (d : Demand)
    (found : Match) (s : Session) : Target × Session :=
  match r.registry.binding? found.binding with
  | none => s.reject contract d
  | some b =>
    r.construct below contract (r.registry.tagKey found.binding) (.explicit found.binding) b
      found.substitution s

/-! ## Built-in shapes -/

/-- A node that no binding makes. -/
def shapeNode (context : Context) (contract : TypeExpr) (d : Demand) (kind : NodeKind)
    (lifetime : Lifetime) : Node :=
  { id := 0
    contract
    tag := .ofValue? d.tag
    resultType := contract
    source := .implicit
    kind
    lifetime
    scope := context.sharingOf lifetime
    owner := context.ownerOf lifetime
    dependencies := []
    isDisposable := decide (kind = .owned)
    flags := .none }

/-- An accumulator is one node for each resolution of a root. -/
def accumulate (contract : TypeExpr) (d : Demand) (index : Nat) (s : Session) : Target × Session :=
  match s.sharedNode? contract (.ofValue? d.tag) .implicit .perResolve with
  | some id => (.node id, s)
  | none =>
    (.node s.nextNode,
      s.addNode (shapeNode s.context contract d (.accumulator index) .perResolve))

/-- The items of a collection from the bindings that make them. -/
def collectItems (r : Resolver) (below : Resolution) (d : Demand) (element : TypeExpr)
    (wrapper : NodeId) : (index : Nat) → List Match → Session → List Dependency × Session
  | _, [], s => ([], s)
  | index, found :: more, s =>
    let tag := (r.registry.tagKey found.binding).value?
    let site := partSite ("item" ++ toString index) element tag
    let (target, s) := r.constructMatch below element (d.inside site wrapper) found s
    let (dependencies, s) := r.collectItems below d element wrapper (index + 1) more s
    (⟨site, target, false⟩ :: dependencies, s)

/-- A collection has an item for each binding of its element type. A lazy one fills its items in a
block of its own. -/
def collect (r : Resolver) (below : Resolution) (contract : TypeExpr) (kind : CollectionKind)
    (element : TypeExpr) (d : Demand) (s : Session) : Target × Session :=
  let id := s.nextNode
  let opened := s.addNode
    (shapeNode s.context contract d (.collection kind element kind.isLazy) .transient)
  let inner := if kind.isLazy then opened.enterBlock else opened
  let (dependencies, filled) :=
    r.collectItems below d element id 0 (r.registry.allMatches element) inner
  (.node id, (filled.setBlock s.context.block).connect id dependencies)

/-- A factory, a lazy or an owned value: its target is resolved in a block of its own, and what an
owned value builds belongs to it. -/
def wrap (kind : NodeKind) (contract target : TypeExpr)
    (resolveTarget : Demand → Session → Target × Session) (d : Demand) (s : Session) :
    Target × Session :=
  let id := s.nextNode
  let opened := (s.addNode (shapeNode s.context contract d kind .transient)).enterBlock
  let inner := if kind = .owned then opened.setOwner (.owned id) else opened
  let site := partSite "target" target d.tag
  let (resolved, filled) := resolveTarget (d.inside site id) inner
  (.node id, ((filled.setBlock s.context.block).setOwner s.context.owner).connect id
    [⟨site, resolved, kind.isDeferred⟩])

/-- Answer a request for a concrete type that has no binding. -/
def constructAuto (r : Resolver) (below : Resolution) (contract : TypeExpr) (b : Binding)
    (s : Session) : Target × Session :=
  let (index, s) := s.autoBindingIndex b
  r.construct below contract .untagged (.auto index) b ∅ s

/-! ## Resolution -/

mutual

/-- Answer a request while there is room on the chain; the sites of what is built go `below`. -/
def resolveAt (r : Resolver) (below : Resolution) : Resolution
  | contract, d, s =>
    let q : Query := ⟨contract, d.tag, d.path⟩
    let s := s.useRules (r.registry.matchingRules q)
    match r.lookup q with
    | some found => r.constructMatch below contract d found s
    | none =>
      match r.askedAccumulator contract with
      | some index => accumulate contract d index s
      | none =>
        match contract with
        | .named path args =>
          match r.autoBinding (.named path args) with
          | some b => r.constructAuto below (.named path args) b s
          | none => s.reject (.named path args) d
        | .marker name => s.reject (.marker name) d
        | .collection kind element =>
          r.collect below (.collection kind element) kind element d s
        | .func target => wrap .func (.func target) target (r.resolveAt below target) d s
        | .lazy target => wrap .lazy (.lazy target) target (r.resolveAt below target) d s
        | .owned target => wrap .owned (.owned target) target (r.resolveAt below target) d s
        | .tuple items =>
          let id := s.nextNode
          let opened := s.addNode (shapeNode s.context (.tuple items) d .tuple .transient)
          let (dependencies, filled) := r.resolveItems below d id 0 items opened
          (.node id, filled.connect id dependencies)

/-- The items of a tuple in order, each without a tag. -/
def resolveItems (r : Resolver) (below : Resolution) (d : Demand) (wrapper : NodeId) :
    (index : Nat) → List TypeExpr → Session → List Dependency × Session
  | _, [], s => ([], s)
  | index, item :: more, s =>
    let site := partSite ("item" ++ toString index) item none
    let (target, s) := r.resolveAt below item (d.inside site wrapper) s
    let (dependencies, s) := r.resolveItems below d wrapper (index + 1) more s
    (⟨site, target, false⟩ :: dependencies, s)

end

def depthDiagnostic (maxDepth : Nat) (contract : TypeExpr) (d : Demand) (rootName : String) :
    Diagnostic :=
  .ofKind .invalidMetadata ("解析深度超过上限 " ++ toString maxDepth ++ ": " ++ contract.text)
    (d.site.bind (·.location)) (some (.root rootName))

/-- A request at the depth limit is reported and recorded as unresolved. -/
def cut (r : Resolver) : Resolution := fun contract d s =>
  (s.report (depthDiagnostic r.options.maxDepth contract d s.rootName)).reject contract d

/-- Answer a request with some room left on the chain. -/
def resolve (r : Resolver) : (room : Nat) → Resolution
  | 0 => r.cut
  | room + 1 => r.resolveAt (r.resolve room)

/-! ## Building -/

def resolveRoot (r : Resolver) (s : Session) (root : Root) (index : Nat) : Session :=
  let s := { s with
    rootName := root.name
    blocks := s.blocks + 1
    context := .atRoot index (s.blocks + 1) }
  let (target, s) := r.resolve r.options.maxDepth root.contract (.ofRoot root) s
  { s with graph := s.graph.addRoot ⟨root, target⟩ }

def resolveRoots (r : Resolver) (s : Session) (roots : List Root) : Session :=
  roots.zipIdx.foldl (fun s (root, index) => r.resolveRoot s root index) s

def unusedDiagnostic (r : Resolver) (rule : Rule) : Diagnostic :=
  .ofKind .unusedTagOnWarning ("位置规则 " ++ rule.2 ++ " 未匹配任何注入点")
    ((r.registry.binding? rule.1).bind (·.location)) (some (.binding rule.1))

/-- The graph of some roots, and what there is to say about it, the positional rules last that no
request fitted. -/
def build (r : Resolver) (found : List Diagnostic) (roots : List Root) :
    Graph × List Diagnostic :=
  let s := r.resolveRoots (.begin found) roots
  (s.graph, s.diagnostics ++ (r.registry.unusedRules s.usedRules).map r.unusedDiagnostic)

end Resolver

end Wiring
