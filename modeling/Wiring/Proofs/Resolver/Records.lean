import Mathlib.Data.List.Forall2
import Wiring.Proofs.Graph.Targets
import Wiring.Proofs.Resolver.Execution

/-!
# Resolver — Records

The births of a run record every node of the graph as it was opened, in the order of the ids. With
them it can be said of a finished graph how each of its edges came about: every node was closed with
answers to its parts, and every answer was either settled while some of the records were there or
opened the node that it leads to.
-/

namespace Wiring

/-- The node without what closing adds to it. -/
def Node.face (n : Node) : Node :=
  { n with dependencies := [], flags := { n.flags with hasUnresolved := false } }

@[simp] theorem Node.face_connected (n : Node) (dependencies : List Dependency) :
    (n.connected dependencies).face = n.face := rfl

theorem rel_of_getElem? {α β : Type} {R : α → β → Prop} {as : List α} {bs : List β} {i : Nat}
    {a : α} {b : β} (h : List.Forall₂ R as bs) (at_i : as[i]? = some a) (at_i' : bs[i]? = some b) :
    R a b := by
  obtain ⟨lt, rfl⟩ := List.getElem?_eq_some_iff.1 at_i
  obtain ⟨lt', rfl⟩ := List.getElem?_eq_some_iff.1 at_i'
  exact h.get lt lt'

theorem exists_rel_of_mem {α β : Type} {R : α → β → Prop} {as : List α} {bs : List β} {a : α}
    (h : List.Forall₂ R as bs) (mem : a ∈ as) : ∃ b ∈ bs, R a b := by
  induction h with
  | nil => nomatch mem
  | cons first _ ih =>
    rcases List.mem_cons.1 mem with rfl | later
    · exact ⟨_, List.mem_cons_self, first⟩
    · obtain ⟨b, mem', rel⟩ := ih later
      exact ⟨b, List.mem_cons_of_mem _ mem', rel⟩

theorem length_append_cons {α : Type} (past inner : List α) (a : α) :
    (past ++ a :: inner).length = past.length + 1 + inner.length := by
  rw [List.length_append, List.length_cons]
  omega

/-- What comes after some more does not matter before. -/
theorem getElem?_append_cons {α : Type} {past inner rest : List α} {a : α} {i : Nat}
    (lt : i < (past ++ a :: inner).length) :
    (past ++ (a :: inner ++ rest))[i]? = (past ++ [a] ++ inner)[i]? := by
  rw [List.append_assoc past [a], List.singleton_append, ← List.append_assoc]
  exact List.getElem?_append_left lt

/-- Each part leads to its target. -/
theorem targets_dependenciesOf {parts : List Part} {targets : List Target} (kind : NodeKind)
    (h : parts.length = targets.length) :
    (dependenciesOf kind parts targets).map (·.target) = targets := by
  induction parts generalizing targets with
  | nil => exact (List.eq_nil_of_length_eq_zero h.symm).symm
  | cons part parts ih =>
    obtain ⟨target, targets, rfl⟩ := List.exists_cons_of_length_eq_add_one h.symm
    rw [dependenciesOf, List.zipWith_cons_cons, List.map_cons]
    exact congrArg _ (ih (Nat.succ.inj h))

/-- A dependency has the site of a part, and its node says whether it is deferred. -/
theorem of_mem_dependenciesOf {kind : NodeKind} {parts : List Part} {targets : List Target}
    {d : Dependency} (edge : d ∈ dependenciesOf kind parts targets) :
    (∃ part ∈ parts, part.site = d.site) ∧ d.isDeferred = kind.isDeferred := by
  obtain ⟨i, at_i⟩ := List.mem_iff_getElem?.1 edge
  obtain ⟨part, target, there, -, rfl⟩ := List.getElem?_zipWith_eq_some.1 at_i
  exact ⟨⟨part, List.mem_of_getElem? there, rfl⟩, rfl⟩

/-- A dependency is a part with what it was answered with. -/
theorem mem_dependenciesOf {P : Ask → Target → Prop} {kind : NodeKind} {parts : List Part}
    {targets : List Target} (h : List.Forall₂ P (parts.map (·.ask)) targets) {d : Dependency}
    (edge : d ∈ dependenciesOf kind parts targets) :
    ∃ part ∈ parts, part.site = d.site ∧ P part.ask d.target := by
  induction parts generalizing targets with
  | nil => nomatch edge
  | cons part parts ih =>
    cases h with
    | cons first rest =>
      rcases List.mem_cons.1 edge with rfl | later
      · exact ⟨part, List.mem_cons_self, rfl, first⟩
      · obtain ⟨part', mem, found⟩ := ih rest later
        exact ⟨part', List.mem_cons_of_mem _ mem, found⟩

/-- The context in which the parts of a node are resolved, but for its block. -/
def Birth.inside (b : Birth) (block : Nat) : Context where
  chain :=
    if b.node.source = .implicit then b.context.chain
    else ⟨b.node.contract, b.node.tag, b.node.id⟩ :: b.context.chain
  root := b.context.root
  block := block
  owner :=
    if b.node.source ≠ .implicit then b.node.owner
    else if b.node.kind = .owned then .owned b.node.id else b.context.owner

namespace Resolver

open Session

variable {r : Resolver}

/-- The births of all nodes so far, when the resolution stands at `s`. -/
structure Records (births : List Birth) (s : Session) : Prop where
  faces : s.graph.nodes.map Node.face = births.map (·.node)
  ids : births.map (·.node.id) = List.range births.length
  whole : s.graph.Whole
  chain : ∀ link ∈ s.context.chain, link.node < births.length
  blocks : s.context.block ≤ s.blocks ∧ ∀ b ∈ births, b.context.block ≤ s.blocks
  /-- A block belongs to one root. -/
  root : ∀ b ∈ births, b.context.block = s.context.block → b.context.root = s.context.root

/-- What a request in a context was answered with: it was settled when the first births were
recorded, or it opened a node. -/
inductive Answer (r : Resolver) (births : List Birth) (c : Context) : Ask → Target → Prop where
  | settled {ask s target s' past} (context : s.context = c) (records : Records past s)
      (earlier : past <+: births) (settled : r.Settles ask s target s') :
      Answer r births c ask target
  | opened {ask s o} (context : s.context = c) (opened : r.Opens ask s o)
      (birth : births[s.nextNode]? = some (o.birth s)) :
      Answer r births c ask (.node s.nextNode)

/-- The node that a birth has become, closed with the answers to its parts. -/
inductive Closed (r : Resolver) (births : List Birth) : Birth → Node → Prop where
  | intro {ask s o inside} (opened : r.Opens ask s o)
      (answers : List.Forall₂ (Answer r births o.inner.context) (o.parts.map (·.ask)) inside) :
      Closed r births (o.birth s)
        ((o.birth s).node.connected (dependenciesOf o.node.kind o.parts inside))

theorem Answer.mono {births births' : List Birth} {c : Context} {ask : Ask} {target : Target}
    (h : Answer r births c ask target) (more : births <+: births') :
    Answer r births' c ask target := by
  cases h with
  | settled context records earlier settled =>
    exact .settled context records (earlier.trans more) settled
  | opened context opened birth =>
    exact .opened context opened (getElem?_mono more birth)

theorem Closed.mono {births births' : List Birth} {b : Birth} {n : Node}
    (h : Closed r births b n) (more : births <+: births') : Closed r births' b n := by
  cases h with
  | intro opened answers => exact .intro opened (answers.imp fun _ _ answer => answer.mono more)

theorem Opens.dependencies_eq {ask s o} (h : r.Opens ask s o) :
    (o.birth s).node.dependencies = [] := by
  cases h <;> rfl

theorem Opens.face_eq {ask s o} (h : r.Opens ask s o) :
    (o.birth s).node.face = (o.birth s).node := by
  cases h <;> rfl

/-- A node is shared as its lifetime says where it is opened. -/
theorem Opens.scope_eq {ask s o} (h : r.Opens ask s o) :
    (o.birth s).node.scope = s.context.sharingOf (o.birth s).node.lifetime := by
  cases h with
  | @bound _ _ choice s' chosen =>
    rw [← chosen.extends.context]
    rfl
  | accumulated | shape => rfl

theorem Opens.owner_eq {ask s o} (h : r.Opens ask s o) :
    (o.birth s).node.owner = s.context.ownerOf (o.birth s).node.lifetime := by
  cases h with
  | @bound _ _ choice s' chosen =>
    rw [← chosen.extends.context]
    rfl
  | accumulated | shape => rfl

theorem Closed.face_eq {births : List Birth} {b : Birth} {n : Node} (h : Closed r births b n) :
    n.face = b.node := by
  cases h with
  | intro opened answers => exact opened.face_eq

/-- Where the parts of an open node are resolved. -/
theorem Opens.inner_context {ask s o} (h : r.Opens ask s o) :
    ∃ block, o.inner.context = (o.birth s).inside block := by
  cases h with
  | @bound _ _ choice s' chosen =>
    have context : s'.context = s.context := chosen.extends.context
    have next : s'.nextNode = s.nextNode := congrArg List.length chosen.nodes_eq
    have source : choice.source ≠ .implicit := by
      intro implicit
      cases chosen <;> cases implicit
    refine ⟨s.context.block, ?_⟩
    simp [openBound, Birth.inside, Opening.birth, boundNode, source, pushLink, setOwner, addNode,
      Context.push, context, next]
  | accumulated => exact ⟨s.context.block, rfl⟩
  | @shape contract d _ kind _ _ shape =>
    cases contract with
    | named | marker => cases shape
    | func | lazy | owned | tuple =>
      cases shape
      exact ⟨_, rfl⟩
    | collection collected =>
      cases shape
      cases collected <;> exact ⟨_, rfl⟩

theorem enterShape_block (s : Session) (kind : NodeKind) (id : NodeId) :
    (s.enterShape kind id).context.block = s.context.block ∧
        (s.enterShape kind id).blocks = s.blocks ∨
      (s.enterShape kind id).context.block = s.blocks + 1 ∧
        (s.enterShape kind id).blocks = s.blocks + 1 := by
  unfold enterShape
  split
  · exact .inr ⟨rfl, rfl⟩
  · exact .inr ⟨rfl, rfl⟩
  · exact .inr ⟨rfl, rfl⟩
  · exact .inr ⟨rfl, rfl⟩
  · exact .inl ⟨rfl, rfl⟩

theorem Chooses.blocks_eq {ask s choice s'} (h : r.Chooses ask s choice s') :
    s'.blocks = s.blocks := by
  cases h with
  | bound | candidate => rfl
  | auto =>
    rw [autoBindingIndex]
    split <;> rfl

/-- The parts of a node are resolved in the block of the node, or in one that was never used. -/
theorem Opens.inner_block {ask s o} (h : r.Opens ask s o) :
    o.inner.context.block = s.context.block ∧ o.inner.blocks = s.blocks ∨
      o.inner.context.block = s.blocks + 1 ∧ o.inner.blocks = s.blocks + 1 := by
  cases h with
  | @bound _ _ choice s' chosen =>
    have context : s'.context = s.context := chosen.extends.context
    exact .inl ⟨by rw [← context]; rfl, chosen.blocks_eq⟩
  | accumulated => exact .inl ⟨rfl, rfl⟩
  | shape => exact enterShape_block ..

theorem sharedNode?_spec {s : Session} {contract : TypeExpr} {tag : TagKey} {source : Source}
    {lifetime : Lifetime} {id : NodeId}
    (h : s.sharedNode? contract tag source lifetime = some id) :
    ∃ scope n, s.context.sharingOf lifetime = some scope ∧ s.graph.nodes[id]? = some n ∧
      n.contract = contract ∧ n.tag = tag ∧ n.scope = some scope ∧ n.source = source ∧
      n.owner = s.context.ownerOf lifetime := by
  rw [Session.sharedNode?] at h
  split at h
  · nomatch h
  · next scope sharing =>
    obtain ⟨n, at_id, identity⟩ := s.sharedIndexed.found h
    obtain ⟨scope', isScope, same⟩ := Option.map_eq_some_iff.1 identity
    simp only [Prod.mk.injEq] at same
    obtain ⟨contract, tag, rfl, source, owner⟩ := same
    exact ⟨scope', n, sharing, at_id, contract, tag, isScope, source, owner⟩

theorem sharedNode?_lt {s : Session} {contract : TypeExpr} {tag : TagKey} {source : Source}
    {lifetime : Lifetime} {id : NodeId}
    (h : s.sharedNode? contract tag source lifetime = some id) : id < s.graph.nodes.length := by
  obtain ⟨_, _, _, there, _⟩ := sharedNode?_spec h
  exact (List.getElem?_eq_some_iff.1 there).1

/-- A node that settles a request is on the chain, or it is shared. -/
theorem Settles.finds {ask s s'} {id : NodeId} (h : r.Settles ask s (.node id) s') :
    (∃ link ∈ s.context.chain, link.node = id) ∨
      ∃ contract tag source lifetime, s'.sharedNode? contract tag source lifetime = some id := by
  cases h with
  | linked chosen link =>
    rw [chosen.extends.context] at link
    obtain ⟨found, isFound, same⟩ := Option.map_eq_some_iff.1 link
    exact .inl ⟨found, List.mem_of_find?_eq_some isFound, same⟩
  | shared chosen link share => exact .inr ⟨_, _, _, _, share⟩
  | accumulated _ _ _ share => exact .inr ⟨_, _, _, _, share⟩

/-! ## Records of a run -/

/-- All that a run opens belongs to the root it runs for. -/
theorem Run.root_eq {asks s targets s' births} (h : r.Run asks s targets s' births) :
    ∀ b ∈ births, b.context.root = s.context.root := by
  induction h with
  | done => simp
  | settle settled _ ih => exact settled.extends.context ▸ ih
  | make opened _ _ ih ih' =>
    obtain ⟨_, context⟩ := opened.inner_context
    intro b mem
    rcases List.mem_append.1 mem with within | after
    · rcases List.mem_cons.1 within with rfl | later
      · rfl
      · rw [ih b later, context]
        rfl
    · exact ih' b after

namespace Records

variable {births : List Birth} {s s' : Session}

theorem length_eq (h : Records births s) : s.nextNode = births.length := by
  simpa [nextNode] using congrArg List.length h.faces

theorem of_extends (h : Records births s) (more : Extends s s')
    (nodes : s'.graph.nodes = s.graph.nodes) : Records births s' where
  faces := nodes ▸ h.faces
  ids := h.ids
  whole := by
    intro n mem d edge
    exact (h.whole n (nodes ▸ mem) d edge).mono more.nodes more.unresolved
  chain := more.context ▸ h.chain
  blocks := by
    refine ⟨more.context ▸ Nat.le_trans h.blocks.1 more.blocks, fun b born => ?_⟩
    exact Nat.le_trans (h.blocks.2 b born) more.blocks
  root := more.context ▸ h.root

theorem settle {ask target} (h : Records births s) (settled : r.Settles ask s target s') :
    Records births s' :=
  h.of_extends settled.extends settled.nodes_eq

/-- A request is settled by something that is there. -/
theorem settled_isIn {ask target} (h : Records births s) (settled : r.Settles ask s target s') :
    target.IsIn s'.graph := by
  have lt_of_reject (s : Session) (contract : TypeExpr) (d : Demand) :
      (s.reject contract d).1.IsIn (s.reject contract d).2.graph := by
    simp [Target.IsIn, Session.reject, Graph.addUnresolved]
  cases settled with
  | cut | refused | missing | lost => exact lt_of_reject ..
  | linked chosen link =>
    have nodes := congrArg List.length chosen.nodes_eq
    rw [chosen.extends.context] at link
    obtain ⟨found, isFound, rfl⟩ := Option.map_eq_some_iff.1 link
    have lt := h.chain found (List.mem_of_find?_eq_some isFound)
    rw [← h.length_eq, nextNode, ← nodes] at lt
    exact lt
  | shared chosen link share => exact sharedNode?_lt share
  | accumulated room lookup accumulator share => exact sharedNode?_lt share

theorem opening {ask o} (h : Records births s) (opened : r.Opens ask s o) :
    Records (births ++ [o.birth s]) o.inner where
  faces := by
    have nodes : o.inner.graph.nodes = s.graph.nodes ++ [(o.birth s).node] := opened.inner_nodes
    rw [nodes, List.map_append, List.map_append, h.faces]
    simp [opened.face_eq]
  ids := by simp [h.ids, List.range_succ, ← h.length_eq, Opening.birth]
  whole := by
    intro n mem d edge
    rw [opened.inner_nodes] at mem
    rcases List.mem_append.1 mem with old | new
    · have more := opened.extends
      exact (h.whole n old d edge).mono more.nodes more.unresolved
    · obtain rfl := List.mem_singleton.1 new
      have none : o.node.dependencies = [] := opened.dependencies_eq
      simp only [none] at edge
      nomatch edge
  chain := by
    intro link mem
    obtain ⟨block, context⟩ := opened.inner_context
    have old (held : link ∈ s.context.chain) : link.node < (births ++ [o.birth s]).length :=
      Nat.lt_of_lt_of_le (h.chain link held) (by simp)
    rw [context, Birth.inside] at mem
    split at mem
    · exact old mem
    · rcases List.mem_cons.1 mem with rfl | held
      · simp [Opening.birth, h.length_eq]
      · exact old held
  blocks := by
    have known := h.blocks
    have born (b : Birth) (mem : b ∈ births ++ [o.birth s]) : b.context.block ≤ s.blocks := by
      rcases List.mem_append.1 mem with old | new
      · exact known.2 b old
      · obtain rfl := List.mem_singleton.1 new
        exact known.1
    rcases opened.inner_block with ⟨block, blocks⟩ | ⟨block, blocks⟩
    · exact ⟨by omega, fun b mem => blocks ▸ born b mem⟩
    · exact ⟨by omega, fun b mem => by have := born b mem; omega⟩
  root := by
    intro b mem block
    obtain ⟨_, context⟩ := opened.inner_context
    have known := h.blocks
    rw [context]
    show b.context.root = s.context.root
    rcases List.mem_append.1 mem with old | new
    · -- An earlier node cannot be in a block that is new.
      have older := known.2 b old
      refine h.root b old ?_
      rcases opened.inner_block with ⟨same, -⟩ | ⟨fresh, -⟩ <;> omega
    · obtain rfl := List.mem_singleton.1 new
      rfl

theorem isIn_close {target : Target} {context : Context} {id : NodeId}
    {dependencies : List Dependency} :
    target.IsIn (s.close context id dependencies).graph ↔ target.IsIn s.graph := by
  cases target with
  | node => simp [Target.IsIn, close_graph, Graph.modifyNode]
  | unresolved => rfl

/-- A node is closed with what is there. -/
theorem closing {ask o inside within} (h : Records births s) (opened : r.Opens ask s o)
    (parts : r.Run (o.parts.map (·.ask)) o.inner inside s' within)
    (inner : Records (births ++ o.birth s :: within) s')
    (there : ∀ target ∈ inside, target.IsIn s'.graph) :
    Records (births ++ o.birth s :: within)
      (s'.close s.context s.nextNode (dependenciesOf o.node.kind o.parts inside)) := by
  obtain ⟨more, before, after⟩ := opened.closed_nodes parts.extends
    (dependenciesOf o.node.kind o.parts inside)
  have opening := opened.extends
  have below := parts.extends
  -- Only the node that is closed differs from what is recorded inside, and only in its edges.
  refine ⟨?_, inner.ids, ?_, ?_, ⟨?_, inner.blocks.2⟩, ?_⟩
  · rw [← inner.faces, before, after]
    simp
  · intro n mem d edge
    refine isIn_close.2 ?_
    rw [after] at mem
    rcases List.mem_append.1 mem with old | new
    · refine inner.whole n ?_ d edge
      rw [before]
      exact List.mem_append_left _ old
    · rcases List.mem_cons.1 new with rfl | later
      · have target := List.mem_map_of_mem (f := Dependency.target) edge
        rw [Node.connected, targets_dependenciesOf _ (by simpa using parts.length_targets.symm)]
          at target
        exact there _ target
      · refine inner.whole n ?_ d edge
        rw [before]
        exact List.mem_append_right _ (List.mem_cons_of_mem _ later)
  · intro link mem
    exact Nat.lt_of_lt_of_le (h.chain link mem) (by simp)
  · exact Nat.le_trans h.blocks.1 (Nat.le_trans opening.blocks below.blocks)
  · intro b mem block
    rcases List.mem_append.1 mem with old | new
    · exact h.root b old block
    · rcases List.mem_cons.1 new with rfl | later
      · rfl
      · obtain ⟨_, context⟩ := opened.inner_context
        rw [parts.root_eq b later, context]
        rfl

end Records

/-- A run records its nodes, and what it answers with is there. -/
theorem Run.records {asks s targets s' births past} (h : r.Run asks s targets s' births)
    (records : Records past s) :
    Records (past ++ births) s' ∧ ∀ target ∈ targets, target.IsIn s'.graph := by
  induction h generalizing past with
  | done => simpa using records
  | settle settled rest ih =>
    obtain ⟨after, there⟩ := ih (records.settle settled)
    refine ⟨after, fun target mem => ?_⟩
    rcases List.mem_cons.1 mem with rfl | later
    · have more := rest.extends
      exact (records.settled_isIn settled).mono more.nodes more.unresolved
    · exact there target later
  | make opened parts rest ih ih' =>
    obtain ⟨inner, below⟩ := ih (records.opening opened)
    rw [List.append_assoc, List.singleton_append] at inner
    have closing := records.closing opened parts inner below
    obtain ⟨after, there⟩ := ih' closing
    rw [List.append_assoc] at after
    refine ⟨after, fun target mem => ?_⟩
    rcases List.mem_cons.1 mem with rfl | later
    · refine Nat.lt_of_lt_of_le ?_ rest.extends.length_le
      rw [← nextNode, closing.length_eq, records.length_eq]
      simp
    · exact there target later

/-! ## Recorded runs -/

/-- A run with the records of the nodes before each of its steps. -/
inductive Recorded (r : Resolver) :
    List Birth → List Ask → Session → List Target → Session → List Birth → Prop where
  | done {past s} (records : Records past s) : Recorded r past [] s [] s []
  | settle {past ask s target s' more targets s'' births} (records : Records past s)
      (settled : r.Settles ask s target s') (rest : Recorded r past more s' targets s'' births) :
      Recorded r past (ask :: more) s (target :: targets) s'' births
  | make {past ask s o inside s' births more targets s'' births'} (records : Records past s)
      (opened : r.Opens ask s o)
      (parts : Recorded r (past ++ [o.birth s]) (o.parts.map (·.ask)) o.inner inside s' births)
      (rest : Recorded r (past ++ o.birth s :: births) more
        (s'.close s.context s.nextNode (dependenciesOf o.node.kind o.parts inside))
        targets s'' births') :
      Recorded r past (ask :: more) s (.node s.nextNode :: targets) s''
        (o.birth s :: births ++ births')

theorem Run.recorded {asks s targets s' births past} (h : r.Run asks s targets s' births)
    (records : Records past s) : Recorded r past asks s targets s' births := by
  induction h generalizing past with
  | done => exact .done records
  | settle settled _ ih => exact .settle records settled (ih (records.settle settled))
  | make opened parts _ ih ih' =>
    have opening := records.opening opened
    obtain ⟨filled, there⟩ := parts.records opening
    rw [List.append_assoc, List.singleton_append] at filled
    exact .make records opened (ih opening) (ih' (records.closing opened parts filled there))

namespace Recorded

variable {asks : List Ask} {s s' : Session} {targets : List Target} {births past : List Birth}

theorem run (h : Recorded r past asks s targets s' births) :
    r.Run asks s targets s' births := by
  induction h with
  | done => exact .done
  | settle _ settled _ ih => exact .settle settled ih
  | make _ opened _ _ ih ih' => exact .make opened ih ih'

theorem records (h : Recorded r past asks s targets s' births) : Records past s := by
  cases h with
  | done records | settle records | make records => exact records

/-- A run answers what is asked in order, and closes every node that it opens. -/
theorem closes (h : Recorded r past asks s targets s' births) :
    ∃ new, s'.graph.nodes = s.graph.nodes ++ new ∧
      List.Forall₂ (Closed r (past ++ births)) births new ∧
      List.Forall₂ (Answer r (past ++ births) s.context) asks targets := by
  induction h with
  | done => exact ⟨[], by simp, .nil, .nil⟩
  | settle records settled rest ih =>
    obtain ⟨new, nodes, closed, answers⟩ := ih
    refine ⟨new, by rw [nodes, settled.nodes_eq], closed, .cons ?_ ?_⟩
    · exact .settled rfl records (List.prefix_append ..) settled
    · rw [← settled.extends.context]
      exact answers
  | @make past ask s o inside s' births more targets s'' births' records opened parts rest ih ih' =>
    -- The parts begin with the records and the birth of the open node.
    obtain ⟨inner, nodes, closedInside, answersInside⟩ := ih
    rw [List.append_assoc, List.singleton_append] at closedInside answersInside
    have head : Closed r (past ++ o.birth s :: births) (o.birth s)
        ((o.birth s).node.connected (dependenciesOf o.node.kind o.parts inside)) :=
      .intro opened answersInside
    obtain ⟨inner', nodes', closed⟩ := opened.closed_nodes parts.run.extends
      (dependenciesOf o.node.kind o.parts inside)
    obtain rfl : inner' = inner := by
      rw [opened.inner_nodes, List.append_assoc, List.singleton_append] at nodes
      simpa using nodes'.symm.trans nodes
    -- What is asked next begins with the records of everything inside as well.
    obtain ⟨new, nodes'', closed', answers'⟩ := ih'
    rw [List.append_assoc] at closed' answers'
    have later : past ++ o.birth s :: births <+: past ++ (o.birth s :: births ++ births') := by
      rw [← List.append_assoc]
      exact List.prefix_append ..
    have born : (past ++ (o.birth s :: births ++ births'))[s.nextNode]? = some (o.birth s) := by
      simp [records.length_eq]
    have closedInside' := closedInside.imp fun _ _ c => c.mono later
    refine ⟨(o.birth s).node.connected (dependenciesOf o.node.kind o.parts inside) ::
      (inner' ++ new), ?_, ?_, ?_⟩
    · rw [nodes'', closed, List.append_assoc]
      rfl
    · exact .cons (head.mono later) (List.rel_append closedInside' closed')
    · exact .cons (.opened rfl opened born) answers'

end Recorded

end Resolver

end Wiring
