import Wiring.Proofs.Resolver.Chain
import Wiring.Proofs.Resolver.Probing

/-!
# Resolver — Making

How each node of a finished graph was made: in a session that had just the earlier nodes, and that
remembered of the probes what choosing the constructors of these nodes left behind. So the
constructor of a node can be told from the graph, and so can the sites that it was given.
-/

namespace Wiring

namespace Session

/-- What was opened and reported by a session is there in a later one. -/
structure Endures (s e : Session) : Prop where
  faces : s.graph.nodes.map Node.face <+: e.graph.nodes.map Node.face
  diagnostics : s.diagnostics <+: e.diagnostics

namespace Endures

variable {s s' e : Session}

theorem refl (s : Session) : Endures s s := ⟨List.prefix_refl _, List.prefix_refl _⟩

theorem trans (h : Endures s s') (h' : Endures s' e) : Endures s e :=
  ⟨h.faces.trans h'.faces, h.diagnostics.trans h'.diagnostics⟩

/-- The nodes that are opened in a session are the first of a later one. -/
theorem faces_eq (h : Endures s e) :
    (e.graph.nodes.take s.nextNode).map Node.face = s.graph.nodes.map Node.face := by
  rw [List.map_take, nextNode, ← List.length_map (f := Node.face)]
  exact (List.prefix_iff_eq_take.1 h.faces).symm

end Endures

theorem close_faces (s : Session) (context : Context) (id : NodeId)
    (dependencies : List Dependency) :
    (s.close context id dependencies).graph.nodes.map Node.face = s.graph.nodes.map Node.face := by
  rw [close_graph]
  refine List.ext_getElem? fun i => ?_
  simp only [Graph.modifyNode, List.getElem?_map, List.getElem?_modify]
  cases s.graph.nodes[i]? with
  | none => rfl
  | some n => by_cases h : id = i <;> simp [h]

theorem close_length (s : Session) (context : Context) (id : NodeId)
    (dependencies : List Dependency) :
    (s.close context id dependencies).graph.nodes.length = s.graph.nodes.length := by
  simpa using congrArg List.length (close_faces s context id dependencies)

/-- Closing a node leaves the others. -/
theorem close_getElem? {s : Session} {context : Context} {id id' : NodeId}
    {dependencies : List Dependency} (other : id ≠ id') :
    (s.close context id dependencies).graph.nodes[id']? = s.graph.nodes[id']? := by
  rw [close_graph, Graph.modifyNode, List.getElem?_modify_ne _ _ other]

/-- Closing a node changes neither what was opened nor what was reported. -/
theorem endures_close {s e : Session} {context : Context} {id : NodeId}
    {dependencies : List Dependency} :
    (s.close context id dependencies).Endures e ↔ s.Endures e := by
  have faces := close_faces s context id dependencies
  constructor
  · intro h
    exact ⟨by rw [← faces]; exact h.faces, h.diagnostics⟩
  · intro h
    exact ⟨by rw [faces]; exact h.faces, h.diagnostics⟩

/-- What is opened between two sessions is in a finished one as it was left. -/
structure Leaves (s s' e : Session) : Prop where
  endures : s'.Endures e
  closed : ∀ id n, s.nextNode ≤ id → s'.graph.nodes[id]? = some n → e.graph.node? id = some n

end Session

namespace Resolver

open Session

variable (r : Resolver)

/-! ## Selections -/

/-- The choice of a constructor that a node of some kind was made with. -/
def selection? (kind : NodeKind) (resultType : TypeExpr) : Option ProbeCall :=
  match kind with
  | .construct _ =>
    match r.descriptorOf resultType with
    | some (d, s) => if d.isConcrete then some (.select d s) else none
    | none => none
  | _ => none

/-- The choices that some nodes were made with. -/
def selections (nodes : List Node) : List ProbeCall :=
  nodes.filterMap fun n => r.selection? n.kind n.resultType

/-- A session remembers what choosing the constructors of its nodes left behind. -/
def Keeps (s : Session) : Prop := s.memo = r.memoAfter (r.selections s.graph.nodes)

/-- A link of a chain stands for a node that a binding made. -/
def LinkIn (g : Graph) (link : ChainLink) : Prop :=
  ∃ n, g.node? link.node = some n ∧ n.contract = link.contract ∧ n.tag = link.tag ∧
    n.source ≠ .implicit

/-- A session on the way to a finished one. -/
structure OnTheWay (e s : Session) : Prop where
  keeps : r.Keeps s
  endures : s.Endures e
  links : ∀ link ∈ s.context.chain, LinkIn e.graph link

/-- What was asked and answered on the way to a finished session. -/
def Answered (e : Session) (ask : Ask) (target : Target) : Prop :=
  ∃ s s' births, r.OnTheWay e s ∧ r.Run [ask] s [target] s' births ∧ s.Leaves s' e

/-- How something was answered: at once, or by a new node whose parts were answered in turn. -/
inductive Reply (e : Session) (ask : Ask) : Target → Prop where
  | settled {s target s'} (way : r.OnTheWay e s) (settled : r.Settles ask s target s')
      (after : s'.Endures e) : Reply e ask target
  | opened {s o inside} (way : r.OnTheWay e s) (opened : r.Opens ask s o)
      (node : e.graph.node? s.nextNode =
        some ((o.birth s).node.connected (dependenciesOf o.node.kind o.parts inside)))
      (answers : List.Forall₂ (r.Answered e) (o.parts.map (·.ask)) inside) :
      Reply e ask (.node s.nextNode)

/-- The depth limit was not reported. -/
def Uncut (diagnostics : List Diagnostic) : Prop :=
  ∀ contract d name, depthDiagnostic r.options.maxDepth contract d name ∉ diagnostics

/-- A candidate is one of the bindings for its contract. -/
def IsFound : Ask → Prop
  | .request .. => True
  | .candidate contract _ found => found ∈ r.registry.allMatches contract

/-- How a node was made that has the given number in a finished session: opened when the nodes
before it were there, and closed with what its parts were answered with. -/
inductive Made (e : Session) (id : NodeId) : Node → Prop where
  | intro {ask s o inside} (found : r.IsFound ask) (way : r.OnTheWay e s)
      (opened : r.Opens ask s o) (next : s.nextNode = id)
      (answers : List.Forall₂ (r.Answered e) (o.parts.map (·.ask)) inside) :
      Made e id ((o.birth s).node.connected (dependenciesOf o.node.kind o.parts inside))

variable {r} {s s' e : Session} {ask : Ask} {o : Opening}

theorem uncut_of_nil {diagnostics : List Diagnostic} (silent : diagnostics = []) :
    r.Uncut diagnostics := fun _ _ _ => by
  rw [silent]
  exact List.not_mem_nil

theorem selections_face (nodes : List Node) :
    r.selections (nodes.map Node.face) = r.selections nodes := by
  rw [selections, List.filterMap_map]
  rfl

theorem selections_eq_of_faces {nodes nodes' : List Node}
    (same : nodes.map Node.face = nodes'.map Node.face) :
    r.selections nodes = r.selections nodes' := by
  rw [← selections_face, same, selections_face]

/-- A recipe remembers what choosing its constructor leaves behind. -/
theorem recipeOf_memo (contract : TypeExpr) (b : Binding) (σ : Substitution) (memo : ProbeMemo) :
    (r.recipeOf contract b σ memo).2 =
      match r.selection? (r.recipeOf contract b σ memo).1.kind
        (r.recipeOf contract b σ memo).1.resultType with
      | some call => call.remember r memo
      | none => memo := by
  rw [recipeOf]
  cases b.implementation with
  | factory | argument => rfl
  | type type =>
    dsimp only
    split
    · next d s described =>
      split
      · next concrete => simp [selection?, described, concrete, ProbeCall.remember]
      · next abstracted => simp [selection?, described, abstracted]
    · next unknown => simp [selection?, unknown]

/-! ## What is remembered -/

theorem enterShape_memo (s : Session) (kind : NodeKind) (id : NodeId) :
    (s.enterShape kind id).memo = s.memo := by
  unfold enterShape
  split <;> rfl

theorem enterShape_diagnostics (s : Session) (kind : NodeKind) (id : NodeId) :
    (s.enterShape kind id).diagnostics = s.diagnostics := by
  unfold enterShape
  split <;> rfl

theorem Chooses.memo_eq {choice : Choice} (h : r.Chooses ask s choice s') : s'.memo = s.memo := by
  cases h with
  | bound | candidate => rfl
  | auto =>
    rw [autoBindingIndex]
    split <;> rfl

theorem Settles.memo_eq {target : Target} (h : r.Settles ask s target s') : s'.memo = s.memo := by
  cases h with
  | cut | refused | missing | lost | accumulated => rfl
  | linked chosen | shared chosen => exact chosen.memo_eq

theorem Settles.keeps {target : Target} (h : r.Settles ask s target s') (keeps : r.Keeps s) :
    r.Keeps s' := by
  rw [Keeps, h.memo_eq, h.nodes_eq]
  exact keeps

theorem selection?_of_shape {contract type : TypeExpr} {kind : NodeKind}
    (h : contract.shape? = some kind) : r.selection? kind type = none := by
  cases contract <;> cases h <;> rfl

theorem memoAfter_toList (calls : List ProbeCall) (call : Option ProbeCall) :
    r.memoAfter (calls ++ call.toList) =
      match call with
      | some call => call.remember r (r.memoAfter calls)
      | none => r.memoAfter calls := by
  cases call with
  | none => rw [Option.toList_none, List.append_nil]
  | some call => exact List.foldl_concat ..

theorem Opens.keeps (h : r.Opens ask s o) (keeps : r.Keeps s) : r.Keeps o.inner := by
  have nodes : r.selections o.inner.graph.nodes = r.selections s.graph.nodes ++
      (r.selection? o.node.kind o.node.resultType).toList := by
    rw [h.inner_nodes, selections, List.filterMap_append]
    congr 1
  rw [Keeps, nodes, memoAfter_toList, ← keeps]
  cases h with
  | bound chosen =>
    rw [← chosen.memo_eq]
    exact recipeOf_memo ..
  | accumulated => rfl
  | @shape contract d _ kind _ _ shape =>
    have unchosen : r.selection? (r.openShape contract d kind (r.asked contract d s)).node.kind
        contract = none := selection?_of_shape shape
    show _ = (match r.selection? (r.openShape contract d kind (r.asked contract d s)).node.kind
        contract with
      | some call => call.remember r s.memo
      | none => s.memo)
    rw [unchosen]
    exact enterShape_memo ..

theorem keeps_close {context : Context} {id : NodeId} {dependencies : List Dependency} :
    r.Keeps (s.close context id dependencies) ↔ r.Keeps s := by
  rw [Keeps, Keeps, selections_eq_of_faces (close_faces s context id dependencies)]
  rfl

theorem Run.keeps {asks targets births} (h : r.Run asks s targets s' births)
    (keeps : r.Keeps s) : r.Keeps s' := by
  induction h with
  | done => exact keeps
  | settle settled _ ih => exact ih (settled.keeps keeps)
  | make opened _ _ ih ih' => exact ih' (keeps_close.2 (ih (opened.keeps keeps)))

/-! ## What endures -/

theorem Chooses.diagnostics_eq {choice : Choice} (h : r.Chooses ask s choice s') :
    s'.diagnostics = s.diagnostics := by
  cases h with
  | bound | candidate => rfl
  | auto =>
    rw [autoBindingIndex]
    split <;> rfl

theorem Settles.endures {target : Target} (h : r.Settles ask s target s') : s.Endures s' := by
  refine ⟨h.nodes_eq ▸ List.prefix_refl _, ?_⟩
  cases h with
  | cut => exact List.prefix_append ..
  | refused | missing | lost | accumulated => exact List.prefix_refl _
  | linked chosen | shared chosen => exact chosen.diagnostics_eq ▸ List.prefix_refl _

theorem Opens.endures (h : r.Opens ask s o) : s.Endures o.inner := by
  refine ⟨?_, ?_⟩
  · rw [h.inner_nodes, List.map_append]
    exact List.prefix_append ..
  · cases h with
    | bound chosen => exact chosen.diagnostics_eq ▸ List.prefix_refl _
    | accumulated => exact List.prefix_refl _
    | shape =>
      show s.diagnostics <+: (enterShape _ _ _).diagnostics
      rw [enterShape_diagnostics]
      exact List.prefix_refl _

theorem Run.endures {asks targets births} (h : r.Run asks s targets s' births) :
    s.Endures s' := by
  induction h with
  | done => exact .refl _
  | settle settled _ ih => exact settled.endures.trans ih
  | make opened _ _ ih ih' => exact (opened.endures.trans ih).trans (endures_close.1 ih')

/-! ## Answers -/

theorem Run.onTheWay {asks targets births} (h : r.Run asks s targets s' births)
    (way : r.OnTheWay e s) (after : s'.Endures e) : r.OnTheWay e s' :=
  ⟨h.keeps way.keeps, after, h.context_eq ▸ way.links⟩

/-- What is left by a run is left by its first part. -/
theorem Run.leaves_first {asks targets births s''} (rest : r.Run asks s' targets s'' births)
    (left : s.Leaves s'' e) : s.Leaves s' e where
  endures := rest.endures.trans left.endures
  closed id n new node := left.closed id n new (getElem?_mono rest.extends.nodes node)

/-- What is left by a run is left by the rest of it. -/
theorem Run.leaves_rest {asks targets births s''} (first : r.Run asks s targets s' births)
    (left : s.Leaves s'' e) : s'.Leaves s'' e where
  endures := left.endures
  closed id n new node := left.closed id n (Nat.le_trans first.extends.length_le new) node

theorem Run.answered {asks targets births} (h : r.Run asks s targets s' births)
    (way : r.OnTheWay e s) (left : s.Leaves s' e) : List.Forall₂ (r.Answered e) asks targets := by
  induction h with
  | done => exact .nil
  | settle settled rest ih =>
    have first := Run.settle settled .done
    have before := rest.leaves_first left
    exact .cons ⟨_, _, _, way, first, before⟩
      (ih (first.onTheWay way before.endures) (first.leaves_rest left))
  | make opened parts rest _ ih =>
    have first := Run.make opened parts .done
    have before := rest.leaves_first left
    exact .cons ⟨_, _, _, way, first, before⟩
      (ih (first.onTheWay way before.endures) (first.leaves_rest left))

/-- An open node is closed as it is in the finished session. -/
theorem Opens.node_of_leaves {dependencies : List Dependency} (h : r.Opens ask s o)
    (inside : Extends o.inner s')
    (left : s.Leaves (s'.close s.context s.nextNode dependencies) e) :
    e.graph.node? s.nextNode = some ((o.birth s).node.connected dependencies) := by
  obtain ⟨more, -, nodes⟩ := h.closed_nodes inside dependencies
  refine left.closed _ _ (Nat.le_refl _) ?_
  rw [nodes, nextNode, List.getElem?_append_right (Nat.le_refl _), Nat.sub_self]
  rfl

/-- What is opened inside a node is left as it was. -/
theorem Opens.leaves_inner {dependencies : List Dependency} (h : r.Opens ask s o)
    (left : s.Leaves (s'.close s.context s.nextNode dependencies) e) : o.inner.Leaves s' e where
  endures := endures_close.1 left.endures
  closed id n new node := by
    have later : s.nextNode < id := by
      rw [nextNode, h.inner_nodes, List.length_append] at new
      exact new
    refine left.closed id n (Nat.le_of_lt later) ?_
    rw [close_getElem? (Nat.ne_of_lt later)]
    exact node

theorem Opens.onTheWay {n : Node} (h : r.Opens ask s o) (way : r.OnTheWay e s)
    (after : o.inner.Endures e) (node : e.graph.node? s.nextNode = some n)
    (same : n.face = (o.birth s).node) : r.OnTheWay e o.inner where
  keeps := h.keeps way.keeps
  endures := after
  links link mem := by
    obtain ⟨_, context⟩ := h.inner_context
    rw [context, Birth.inside] at mem
    split at mem
    · exact way.links link mem
    · next bound =>
      rcases List.mem_cons.1 mem with rfl | older
      · have contract := congrArg Node.contract same
        have tag := congrArg Node.tag same
        rw [← same] at bound
        exact ⟨n, node, contract, tag, bound⟩
      · exact way.links link older

/-- What is remembered on the way can be told from the finished session. -/
theorem Keeps.memo_eq (keeps : r.Keeps s) (after : s.Endures e) :
    s.memo = r.memoAfter (r.selections (e.graph.nodes.take s.nextNode)) := by
  rw [selections_eq_of_faces after.faces_eq]
  exact keeps

theorem Answered.reply {target : Target} (h : r.Answered e ask target) : r.Reply e ask target := by
  obtain ⟨s, s', births, way, run, left⟩ := h
  cases run with
  | settle settled done =>
    cases done
    exact .settled way settled left.endures
  | make opened parts done =>
    cases done
    have node := opened.node_of_leaves parts.extends left
    have inner := opened.leaves_inner left
    have way' := opened.onTheWay way (parts.endures.trans inner.endures) node opened.face_eq
    exact .opened way opened node (parts.answered way' inner)

/-! ## Every node -/

/-- The items of a collection are candidates that were found. -/
theorem isFound_of_itemParts {d : Demand} {element : TypeExpr} {id : NodeId} {index : Nat}
    {matches' : List Match} (found : ∀ m ∈ matches', m ∈ r.registry.allMatches element) :
    ∀ part ∈ r.itemParts d element id index matches', r.IsFound part.ask := by
  induction matches' generalizing index with
  | nil => exact fun _ mem => nomatch mem
  | cons m more ih =>
    intro part mem
    rw [itemParts, List.mem_cons] at mem
    rcases mem with rfl | later
    · exact found m List.mem_cons_self
    · exact ih (fun m mem => found m (List.mem_cons_of_mem _ mem)) part later

theorem isFound_of_tupleParts {d : Demand} {id : NodeId} {index : Nat} {items : List TypeExpr} :
    ∀ part ∈ tupleParts d id index items, r.IsFound part.ask := by
  induction items generalizing index with
  | nil => exact fun _ mem => nomatch mem
  | cons item more ih =>
    intro part mem
    rw [tupleParts, List.mem_cons] at mem
    rcases mem with rfl | later
    · exact trivial
    · exact ih part later

theorem Opens.isFound (h : r.Opens ask s o) : ∀ part ∈ o.parts, r.IsFound part.ask := by
  cases h with
  | bound =>
    intro part mem
    obtain ⟨site, -, rfl⟩ := List.mem_map.1 mem
    exact trivial
  | accumulated => exact fun _ mem => nomatch mem
  | @shape contract _ _ _ _ _ shape =>
    intro part mem
    cases contract with
    | named | marker => nomatch shape
    | collection => exact isFound_of_itemParts (fun _ mem => mem) part mem
    | tuple => exact isFound_of_tupleParts part mem
    | func | lazy | owned =>
      simp only [openShape, shapeParts, List.mem_singleton] at mem
      rw [mem]
      exact trivial

theorem Run.made {asks targets births} (h : r.Run asks s targets s' births)
    (found : ∀ ask ∈ asks, r.IsFound ask) (way : r.OnTheWay e s) (left : s.Leaves s' e) :
    ∀ id n, s.nextNode ≤ id → s'.graph.nodes[id]? = some n → r.Made e id n := by
  induction h with
  | done =>
    intro id n new node
    exact absurd (List.getElem?_eq_some_iff.1 node).1 (Nat.not_lt_of_le new)
  | settle settled rest ih =>
    intro id n new node
    have first := Run.settle settled .done
    refine ih (List.forall_mem_cons.1 found).2 ?_ (first.leaves_rest left) id n ?_ node
    · exact first.onTheWay way (rest.leaves_first left).endures
    · rw [nextNode, settled.nodes_eq]
      exact new
  | @make ask s o inside s' births more targets s'' births' opened parts rest ih ih' =>
    intro id n new node
    obtain ⟨isFound, found'⟩ := List.forall_mem_cons.1 found
    have first := Run.make opened parts .done
    have before := rest.leaves_first left
    have inner := opened.leaves_inner before
    have node' := opened.node_of_leaves parts.extends before
    have way' := opened.onTheWay way (parts.endures.trans inner.endures) node' opened.face_eq
    have length := close_length s' s.context s.nextNode (dependenciesOf o.node.kind o.parts inside)
    rcases Nat.lt_or_ge id s'.graph.nodes.length with old | later
    · -- A node that is there when this one is closed does not change afterwards.
      have there := List.getElem?_eq_getElem (length ▸ old)
      rw [getElem?_mono rest.extends.nodes there] at node
      rw [node] at there
      rcases Nat.eq_or_lt_of_le new with rfl | within
      · have same := before.closed _ _ (Nat.le_refl _) there
        cases node'.symm.trans same
        exact .intro isFound way opened rfl (parts.answered way' inner)
      · refine ih (List.forall_mem_map.2 opened.isFound) way' inner id n ?_ ?_
        · rw [nextNode, opened.inner_nodes, List.length_append]
          exact within
        · rw [← close_getElem? (Nat.ne_of_lt within)]
          exact there
    · exact ih' found' (first.onTheWay way before.endures) (first.leaves_rest left) id n
        (Nat.le_trans (Nat.le_of_eq length) later) node

/-! ## Roots -/

/-- The nodes and reports of a session are the first of a finished one. -/
structure Begins (s e : Session) : Prop where
  nodes : s.graph.nodes <+: e.graph.nodes
  diagnostics : s.diagnostics <+: e.diagnostics

theorem Begins.refl (s : Session) : Begins s s := ⟨List.prefix_refl _, List.prefix_refl _⟩

/-- A session remembers what it should, and its nodes and roots came about on the way to a finished
one. -/
structure MadeUpTo (r : Resolver) (s e : Session) : Prop where
  keeps : r.Keeps s
  made : ∀ id n, s.graph.node? id = some n → r.Made e id n
  roots : ∀ edge ∈ s.graph.roots,
    r.Answered e (.request edge.root.contract (.ofRoot edge.root)) edge.target

/-- The session before a root begins what that after it does. -/
theorem Run.begins_root {root : Root} {index : Nat} {asks targets births} {edge : RootEdge}
    (h : r.Run asks (s.enterRoot root index) targets s' births)
    (begins : Begins (s'.leaveRoot edge) e) : Begins s e :=
  ⟨h.extends.nodes.trans begins.nodes, h.endures.diagnostics.trans begins.diagnostics⟩

/-- The run of a root leaves its nodes as they are afterwards. -/
theorem leaves_root {edge : RootEdge} (begins : Begins (s'.leaveRoot edge) e) : s.Leaves s' e where
  endures := ⟨begins.nodes.map Node.face, begins.diagnostics⟩
  closed _ _ _ node := getElem?_mono begins.nodes node

/-- The run of one more root. -/
theorem MadeUpTo.run {root : Root} {index : Nat} {target : Target} {births : List Birth}
    (h : ∀ e, Begins s e → MadeUpTo r s e)
    (resolved : r.Run [.request root.contract (.ofRoot root)] (s.enterRoot root index) [target] s'
      births)
    (begins : Begins (s'.leaveRoot ⟨root, target⟩) e) :
    MadeUpTo r (s'.leaveRoot ⟨root, target⟩) e := by
  have before := resolved.begins_root begins
  have left : (s.enterRoot root index).Leaves s' e := leaves_root begins
  have ih := h e before
  have way : r.OnTheWay e (s.enterRoot root index) :=
    ⟨ih.keeps, ⟨before.nodes.map Node.face, before.diagnostics⟩, nofun⟩
  refine ⟨resolved.keeps ih.keeps, fun id n node => ?_, fun edge mem => ?_⟩
  · rcases Nat.lt_or_ge id s.graph.nodes.length with old | new
    · have there := List.getElem?_eq_getElem old
      have node' : s'.graph.nodes[id]? = some n := node
      rw [getElem?_mono resolved.extends.nodes there] at node'
      exact ih.made id n (there.trans node')
    · refine resolved.made (fun ask mem => ?_) way left id n new node
      obtain rfl := List.mem_singleton.1 mem
      trivial
  · have mem' : edge ∈ s'.graph.roots ++ [⟨root, target⟩] := mem
    rw [resolved.extends.roots] at mem'
    rcases List.mem_append.1 mem' with old | new
    · exact ih.roots edge old
    · obtain rfl := List.mem_singleton.1 new
      cases resolved.answered way left with
      | cons answer => exact answer

/-- Every node of a graph was made so, and every root was answered so, in the session that the graph
comes from. -/
theorem build_made (r : Resolver) (found : List Diagnostic) (roots : List Root) :
    ∃ e, (r.build found roots).1 = e.graph ∧ e.diagnostics <+: (r.build found roots).2 ∧
      MadeUpTo r e e := by
  obtain ⟨_, -, made⟩ := resolveRoots_induction (r := r) found
    (motive := fun roots _ => ∀ e, Begins (r.resolveRoots (.begin found) roots) e →
      MadeUpTo r (r.resolveRoots (.begin found) roots) e)
    (fun _ _ => ⟨rfl, fun _ _ node => (nomatch node), nofun⟩)
    (fun _ _ _ _ _ _ _ ih run whole e begins => by
      rw [whole] at begins ⊢
      exact .run ih run begins) roots
  exact ⟨_, rfl, List.prefix_append .., made _ (.refl _)⟩

/-! ## Constructed nodes -/

/-- The sites of a node, as its parts. -/
def siteParts (id : NodeId) (resultType : TypeExpr) (sites : List Site) : List Part :=
  sites.map fun site => ⟨site, .request site.contract (.ofSite site id resultType)⟩

/-- What a binding constructs as a described type has the sites of the constructor chosen. -/
theorem recipeOf_constructs {contract : TypeExpr} {b : Binding} {σ : Substitution}
    {memo : ProbeMemo} {index : Option Nat} {d : Descriptor} {t : Substitution}
    (kind : (r.recipeOf contract b σ memo).1.kind = .construct index)
    (described : r.descriptorOf (r.recipeOf contract b σ memo).1.resultType = some (d, t))
    (concrete : d.isConcrete) :
    index = (r.selectConstructor d t memo).1.index ∧
      (r.recipeOf contract b σ memo).1.sites = sitesOf d t (r.selectConstructor d t memo).1 := by
  cases made : b.implementation with
  | factory | argument =>
    rw [recipeOf, made] at kind
    cases kind
  | type type =>
    rw [(recipeOf_type contract σ memo made).1] at described
    simp only [recipeOf, made, described, concrete, if_pos] at kind ⊢
    cases kind
    exact ⟨rfl, trivial⟩

/-- A binding of a type constructs it, by a constructor or without one. -/
theorem recipeOf_kind {contract type : TypeExpr} {b : Binding} {σ : Substitution}
    {memo : ProbeMemo} (made : b.implementation = .type type) :
    ∃ index, (r.recipeOf contract b σ memo).1.kind = .construct index := by
  rw [recipeOf, made]
  dsimp only
  split
  · split
    · exact ⟨_, rfl⟩
    · exact ⟨none, rfl⟩
  · exact ⟨none, rfl⟩

/-- The constructor of a node that is opened is chosen with what is remembered, and its parameters
and the members of its type are the parts. -/
theorem Opens.constructs {index : Option Nat} {d : Descriptor} {t : Substitution}
    (h : r.Opens ask s o) (kind : o.node.kind = .construct index)
    (described : r.descriptorOf o.node.resultType = some (d, t)) (concrete : d.isConcrete) :
    index = (r.selectConstructor d t s.memo).1.index ∧
      o.parts = siteParts s.nextNode o.node.resultType
        (sitesOf d t (r.selectConstructor d t s.memo).1) := by
  cases h with
  | @bound _ _ choice s' chosen =>
    have next : s'.nextNode = s.nextNode := congrArg List.length chosen.nodes_eq
    rw [← chosen.memo_eq, ← next]
    obtain ⟨chosenIndex, sites⟩ := recipeOf_constructs kind described concrete
    refine ⟨chosenIndex, ?_⟩
    rw [← sites]
    rfl
  | accumulated => nomatch kind
  | @shape contract _ _ kind' _ _ shape =>
    obtain rfl : kind' = .construct index := kind
    cases contract <;> nomatch shape

/-- Every node of a described type has the constructor that is chosen after those of the earlier
nodes. -/
def Chosen (r : Resolver) (g : Graph) : Prop :=
  ∀ id n index d t, g.node? id = some n → n.kind = .construct index →
    r.descriptorOf n.resultType = some (d, t) → d.isConcrete →
      index = (r.selectConstructor d t (r.memoAfter (r.selections (g.nodes.take id)))).1.index

theorem build_chosen (r : Resolver) (found : List Diagnostic) (roots : List Root) :
    r.Chosen (r.build found roots).1 := by
  obtain ⟨e, graph, -, made⟩ := build_made r found roots
  rw [graph]
  intro id n index d t node kind described concrete
  cases made.made id n node with
  | intro _ way opened next =>
    subst next
    rw [← way.keeps.memo_eq way.endures]
    exact (opened.constructs kind described concrete).1

end Resolver

end Wiring
