import Wiring.Proofs.Resolver.Arena
import Wiring.Proofs.Resolver.Course

/-!
# Resolver — Requests

The requests of a build can be read off its graph. Each root is one, with no path, and so is each
site of a node that a binding makes, with the path of the site. A factory, a lazy or an owned value
and a tuple are made for one request only, and what they ask for keeps the path of that request. The
items of a collection are no requests: their bindings were found before.
-/

namespace Wiring

/-- Nodes whose parts are requests with the path of the one that the node answers. -/
def NodeKind.forwards : NodeKind → Bool
  | .func | .lazy | .owned | .tuple => true
  | _ => false

theorem NodeKind.isMade_of_forwards {kind : NodeKind} (h : kind.forwards) :
    kind.isMade = false := by
  cases kind with
  | func | lazy | owned | tuple => rfl
  | construct | factory | argument | collection | accumulator => nomatch h

/-- A request of a graph and what it leads to. -/
inductive Graph.Asks (g : Graph) : Query → Target → Prop where
  | root {edge} (mem : edge ∈ g.roots) :
      Asks g ⟨edge.root.contract, edge.root.tag, none⟩ edge.target
  | site {id n d} (node : g.node? id = some n) (made : n.kind.isMade)
      (edge : d ∈ n.dependencies) :
      Asks g ⟨d.site.contract, d.site.tag, some (d.site.path n.resultType)⟩ d.target
  | forwarded {q id n d} (asked : Asks g q (.node id)) (node : g.node? id = some n)
      (forwards : n.kind.forwards) (edge : d ∈ n.dependencies) :
      Asks g ⟨d.site.contract, d.site.tag, q.path⟩ d.target

/-- What is asked of the registry, unless it is a binding that was found before. -/
def Ask.query? : Ask → Option Query
  | .request contract d => some ⟨contract, d.tag, d.path⟩
  | .candidate .. => none

/-- Some requests have one that asks for something and is answered with a target. -/
def AnsweredIn (arrivals : List Arrival) (ask : Ask) (target : Target) : Prop :=
  ∃ a ∈ arrivals, a.ask = ask ∧ a.target = target

theorem AnsweredIn.mono {arrivals arrivals' : List Arrival} {ask : Ask} {target : Target}
    (h : AnsweredIn arrivals ask target) (more : arrivals ⊆ arrivals') :
    AnsweredIn arrivals' ask target := by
  obtain ⟨a, mem, answered⟩ := h
  exact ⟨a, more mem, answered⟩

namespace Resolver

open Session

variable (r : Resolver)

/-- A request opened a node, which was closed with the answers to its parts. -/
inductive Opened (e : Session) (course : List Arrival) : Arrival → Prop where
  | intro {ask s o inside} (opened : r.Opens ask s o)
      (node : e.graph.node? s.nextNode =
        some ((o.birth s).node.connected (dependenciesOf o.node.kind o.parts inside)))
      (answers : List.Forall₂ (AnsweredIn course) (o.parts.map (·.ask)) inside) :
      Opened e course ⟨ask, s, .node s.nextNode⟩

/-- What came of a request in a finished session. -/
inductive Accounted (e : Session) (course : List Arrival) (a : Arrival) : Prop where
  | settled {s'} (way : r.OnTheWay e a.session) (settled : r.Settles a.ask a.session a.target s')
      (after : s'.Endures e) : Accounted e course a
  | opened (opened : r.Opened e course a) : Accounted e course a

variable {r} {s s' e : Session} {ask : Ask} {asks : List Ask} {targets : List Target}
  {target : Target} {o : Opening} {arrivals course : List Arrival} {a : Arrival} {q : Query}

/-! ## Parts -/

/-- What a part of a built-in shape asks of the registry. -/
theorem query?_of_shapeParts {contract : TypeExpr} {kind : NodeKind} {d : Demand} {id : NodeId}
    {part : Part} (shape : contract.shape? = some kind) (mem : part ∈ r.shapeParts d id contract) :
    part.ask.query? =
      if kind.forwards then some ⟨part.site.contract, part.site.tag, d.path⟩ else none := by
  have items (element : TypeExpr) (index : Nat) (matches' : List Match)
      (mem : part ∈ r.itemParts d element id index matches') : part.ask.query? = none := by
    induction matches' generalizing index with
    | nil => nomatch mem
    | cons found more ih =>
      rcases List.mem_cons.1 mem with rfl | later
      · rfl
      · exact ih _ later
  have fields (index : Nat) (types : List TypeExpr) (mem : part ∈ tupleParts d id index types) :
      part.ask.query? = some ⟨part.site.contract, part.site.tag, d.path⟩ := by
    induction types generalizing index with
    | nil => nomatch mem
    | cons item more ih =>
      rcases List.mem_cons.1 mem with rfl | later
      · rfl
      · exact ih _ later
  cases contract with
  | named | marker => nomatch mem
  | collection =>
    cases shape
    exact items _ _ _ mem
  | tuple =>
    cases shape
    exact fields _ _ mem
  | func | lazy | owned =>
    cases shape
    obtain rfl := List.mem_singleton.1 mem
    rfl

/-- What a part of an open node asks of the registry. -/
theorem Opens.part_query? (h : r.Opens ask s o) {part : Part} (mem : part ∈ o.parts) :
    part.ask.query? =
      if o.node.kind.isMade then
        some ⟨part.site.contract, part.site.tag, some (part.site.path o.node.resultType)⟩
      else if o.node.kind.forwards then
        ask.query?.map fun q => ⟨part.site.contract, part.site.tag, q.path⟩
      else none := by
  cases h with
  | bound =>
    obtain ⟨site, -, rfl⟩ := List.mem_map.1 mem
    exact (if_pos (recipeOf_isMade ..)).symm
  | accumulated => nomatch mem
  | @shape contract d s kind room unbound shape =>
    rw [if_neg]
    · exact query?_of_shapeParts shape mem
    · cases contract <;> cases shape <;> exact Bool.false_ne_true

/-- A node that passes on the path of its request is made for no other one. -/
theorem Opens.of_forwards (h : r.Opens ask s o) (forwards : o.node.kind.forwards) :
    o.node.source = .implicit ∧ o.node.scope = none := by
  cases h with
  | @bound _ _ choice s' =>
    have made := recipeOf_isMade (r := r) choice.contract choice.binding choice.substitution s'.memo
    exact absurd made (Bool.eq_false_iff.1 (NodeKind.isMade_of_forwards forwards))
  | accumulated => nomatch forwards
  | shape => exact ⟨rfl, rfl⟩

/-- Such a node settles no request. -/
theorem Settles.not_forwards {id : NodeId} {n : Node} (h : r.Settles ask s (.node id) s')
    (way : r.OnTheWay e s) (after : s'.Endures e) (node : e.graph.node? id = some n)
    (source : n.source = .implicit) (scope : n.scope = none) : False := by
  have unshared {contract : TypeExpr} {tag : TagKey} {source : Source} {lifetime : Lifetime}
      (share : s'.sharedNode? contract tag source lifetime = some id) : False := by
    obtain ⟨shared, n', -, there, -, -, isShared, -⟩ := sharedNode?_spec share
    obtain ⟨n'', node', same⟩ := after.node there
    cases node.symm.trans node'
    nomatch scope.symm.trans ((congrArg Node.scope same).trans isShared)
  rcases h.finds with ⟨link, mem, rfl⟩ | ⟨contract, tag, source, lifetime, share⟩
  · obtain ⟨n', node', -, -, bound⟩ := way.links link mem
    cases node.symm.trans node'
    exact bound source
  · exact unshared share

/-! ## Accounts -/

theorem Accounted.mono {course' : List Arrival} (h : r.Accounted e course a)
    (more : course ⊆ course') : r.Accounted e course' a := by
  cases h with
  | settled way settled after => exact .settled way settled after
  | opened opened =>
    obtain ⟨opened, node, answers⟩ := opened
    exact .opened ⟨opened, node, answers.imp fun _ _ answer => answer.mono more⟩

/-- The requests that a run is for are among those of its trace. -/
theorem Trace.answered (h : r.Trace asks s targets s' arrivals) :
    List.Forall₂ (AnsweredIn arrivals) asks targets := by
  induction h with
  | done => exact .nil
  | settle _ _ ih =>
    refine .cons ⟨_, List.mem_cons_self, rfl, rfl⟩ (ih.imp fun _ _ answer => answer.mono ?_)
    exact List.subset_cons_self ..
  | make _ _ _ _ ih =>
    refine .cons ⟨_, List.mem_append_left _ List.mem_cons_self, rfl, rfl⟩
      (ih.imp fun _ _ answer => answer.mono ?_)
    exact List.subset_append_right ..

/-- All requests of a run are accounted for. -/
theorem Trace.accounted (h : r.Trace asks s targets s' arrivals) (way : r.OnTheWay e s)
    (left : s.Leaves s' e) : ∀ a ∈ arrivals, r.Accounted e arrivals a := by
  induction h with
  | done => exact fun _ mem => nomatch mem
  | settle settled rest ih =>
    obtain ⟨_, rest⟩ := rest.run
    have first := Run.settle settled .done
    have after := (rest.leaves_first left).endures
    refine List.forall_mem_cons.2 ⟨.settled way settled after, fun a mem => ?_⟩
    exact (ih (first.onTheWay way after) (first.leaves_rest left) a mem).mono
      (List.subset_cons_self ..)
  | @make ask s o inside s' inner more targets s'' later opened parts rest ih ih' =>
    obtain ⟨_, run⟩ := parts.run
    obtain ⟨_, rest⟩ := rest.run
    have first := Run.make opened run .done
    have before := rest.leaves_first left
    have node := opened.node_of_leaves parts.extends before
    have within := opened.leaves_inner before
    have way' := opened.onTheWay way (run.endures.trans within.endures) node opened.face_eq
    have there : inner ⊆ ⟨ask, s, .node s.nextNode⟩ :: inner ++ later :=
      List.subset_append_of_subset_left _ (List.subset_cons_self ..)
    refine List.forall_mem_append.2 ⟨List.forall_mem_cons.2 ⟨?_, fun a mem => ?_⟩,
      fun a mem => ?_⟩
    · exact .opened ⟨opened, node, parts.answered.imp fun _ _ answer => answer.mono there⟩
    · exact (ih way' within a mem).mono there
    · exact (ih' (first.onTheWay way before.endures) (first.leaves_rest left) a mem).mono
        (List.subset_append_right ..)

/-- Each node of a run was opened for one of its requests. -/
theorem Trace.opens (h : r.Trace asks s targets s' arrivals) {id : NodeId}
    (new : s.nextNode ≤ id) (lt : id < s'.nextNode) :
    ∃ a ∈ arrivals, a.session.nextNode = id ∧ ∃ o, r.Opens a.ask a.session o := by
  induction h with
  | done => exact absurd lt (Nat.not_lt_of_le new)
  | settle settled _ ih =>
    obtain ⟨a, mem, found⟩ := ih (by rw [nextNode, settled.nodes_eq]; exact new) lt
    exact ⟨a, List.mem_cons_of_mem _ mem, found⟩
  | @make ask s o inside s' _ _ _ _ _ opened parts rest ih ih' =>
    have length := close_length s' s.context s.nextNode (dependenciesOf o.node.kind o.parts inside)
    rcases Nat.eq_or_lt_of_le new with rfl | later
    · exact ⟨_, List.mem_append_left _ List.mem_cons_self, rfl, o, opened⟩
    · rcases Nat.lt_or_ge id s'.nextNode with within | after
      · have next : o.inner.nextNode ≤ id := by
          rw [nextNode, opened.inner_nodes, List.length_append]
          exact later
        obtain ⟨a, mem, found⟩ := ih next within
        exact ⟨a, List.mem_append_left _ (List.mem_cons_of_mem _ mem), found⟩
      · obtain ⟨a, mem, found⟩ := ih' (Nat.le_trans (Nat.le_of_eq length) after) lt
        exact ⟨a, List.mem_append_right _ mem, found⟩

/-! ## Requests of the graph -/

/-- What is asked of the registry for a target is a request of the graph. -/
def AsksIn (g : Graph) (ask : Ask) (target : Target) : Prop :=
  ∀ q, ask.query? = some q → g.Asks q target

/-- Parts are related to their targets when that can be told from the dependencies. -/
theorem forall₂_of_dependencies {P : Ask → Target → Prop} (kind : NodeKind) {parts : List Part}
    {inside : List Target} (length : parts.length = inside.length)
    (h : ∀ part ∈ parts, ∀ target,
      ⟨part.site, target, kind.isDeferred⟩ ∈ dependenciesOf kind parts inside →
      P part.ask target) : List.Forall₂ P (parts.map (·.ask)) inside := by
  induction parts generalizing inside with
  | nil =>
    obtain rfl := List.eq_nil_of_length_eq_zero length.symm
    exact .nil
  | cons part parts ih =>
    obtain ⟨target, inside, rfl⟩ := List.exists_cons_of_length_eq_add_one length.symm
    refine .cons (h part List.mem_cons_self target List.mem_cons_self) ?_
    exact ih (Nat.succ.inj length) fun part mem target edge =>
      h part (List.mem_cons_of_mem _ mem) target (List.mem_cons_of_mem _ edge)

/-- The parts of an open node are requests of the graph when the node answers one. -/
theorem Opens.asks_parts {g : Graph} {inside : List Target} (h : r.Opens ask s o)
    (asked : AsksIn g ask (.node s.nextNode))
    (node : g.node? s.nextNode =
      some ((o.birth s).node.connected (dependenciesOf o.node.kind o.parts inside)))
    (length : o.parts.length = inside.length) :
    List.Forall₂ (AsksIn g) (o.parts.map (·.ask)) inside := by
  refine forall₂_of_dependencies o.node.kind length fun part mem target edge q query => ?_
  rw [h.part_query? mem] at query
  split at query
  · next made =>
    cases query
    exact .site node made edge
  · split at query
    · next forwards =>
      obtain ⟨outer, asks, rfl⟩ := Option.map_eq_some_iff.1 query
      exact .forwarded (asked outer asks) node forwards edge
    · nomatch query

/-- When those that a run is for are requests of the graph, all of them are. -/
theorem Trace.asksIn (h : r.Trace asks s targets s' arrivals) (left : s.Leaves s' e)
    (asked : List.Forall₂ (AsksIn e.graph) asks targets) :
    ∀ a ∈ arrivals, AsksIn e.graph a.ask a.target := by
  induction h with
  | done => exact fun _ mem => nomatch mem
  | settle settled rest ih =>
    obtain ⟨first, later⟩ := List.forall₂_cons.1 asked
    have run := Run.settle settled .done
    exact List.forall_mem_cons.2 ⟨first, ih (run.leaves_rest left) later⟩
  | make opened parts rest ih ih' =>
    obtain ⟨first, later⟩ := List.forall₂_cons.1 asked
    obtain ⟨_, run⟩ := parts.run
    obtain ⟨_, rest⟩ := rest.run
    have before := rest.leaves_first left
    have node := opened.node_of_leaves parts.extends before
    have length := (List.length_map ..).symm.trans run.length_targets.symm
    have inside := ih (opened.leaves_inner before) (opened.asks_parts first node length)
    have after := ih' ((Run.make opened run .done).leaves_rest left) later
    exact List.forall_mem_append.2 ⟨List.forall_mem_cons.2 ⟨first, inside⟩, after⟩

/-! ## Whole courses -/

section Course

variable {roots : List (Root × Nat)}

theorem Stretch.way (part : r.Stretch roots e course) :
    r.OnTheWay e (part.before.enterRoot part.root part.index) := by
  obtain ⟨births, run⟩ := part.trace.run
  have before := run.begins_root part.begins
  exact ⟨part.keeps, ⟨before.nodes.map Node.face, before.diagnostics⟩, nofun⟩

theorem Stretch.accounted (part : r.Stretch roots e course) (mem : a ∈ part.arrivals) :
    r.Accounted e course a :=
  (part.trace.accounted part.way (leaves_root part.begins) a mem).mono part.inside

/-- Each node of a course was opened for one of its requests. -/
theorem Course.opened (h : r.Course roots s e course) (keeps : r.Keeps s) {id : NodeId}
    (new : s.nextNode ≤ id) (lt : id < e.nextNode) :
    ∃ a ∈ course, a.session.nextNode = id ∧ r.Opened e course a := by
  obtain ⟨part, first, last⟩ := (h.covers keeps).2.1 id new lt
  obtain ⟨a, mem, next, o, opens⟩ := part.trace.opens first last
  refine ⟨a, part.inside mem, next, ?_⟩
  cases part.accounted mem with
  | opened opened => exact opened
  | settled _ settled => nomatch opens.outcome.symm.trans settled.outcome

theorem Course.accounted (h : r.Course roots s e course) (keeps : r.Keeps s) (mem : a ∈ course) :
    r.Accounted e course a := by
  obtain ⟨part, mem⟩ := (h.covers keeps).1 a mem
  exact part.accounted mem

theorem Course.asksIn (h : r.Course roots s e course) (keeps : r.Keeps s) (mem : a ∈ course) :
    AsksIn e.graph a.ask a.target := by
  obtain ⟨part, mem⟩ := (h.covers keeps).1 a mem
  refine part.trace.asksIn (leaves_root part.begins) (.cons ?_ .nil) a mem
  rintro q ⟨⟩
  exact .root part.edge

/-- Each part of an opened node was a request of the course. -/
theorem Opened.part (h : r.Opened e course a) : ∃ n, a.target = .node a.session.nextNode ∧
    e.graph.node? a.session.nextNode = some n ∧
    (n.kind.forwards → n.source = .implicit ∧ n.scope = none) ∧
    ∀ d ∈ n.dependencies, ∃ b ∈ course, b.target = d.target ∧ b.ask.query? =
      if n.kind.isMade then
        some ⟨d.site.contract, d.site.tag, some (d.site.path n.resultType)⟩
      else if n.kind.forwards then
        a.ask.query?.map fun q => ⟨d.site.contract, d.site.tag, q.path⟩
      else none := by
  obtain ⟨opened, node, answers⟩ := h
  refine ⟨_, rfl, node, opened.of_forwards, fun d edge => ?_⟩
  obtain ⟨part, mem, site, b, mem', asked, target⟩ := mem_dependenciesOf answers edge
  refine ⟨b, mem', target, ?_⟩
  rw [asked, opened.part_query? mem, site]
  rfl

/-- What is asked in a graph was a request of the course. -/
theorem Course.exists_of_asks (h : r.Course roots s e course) (keeps : r.Keeps s)
    (fresh : s.graph.roots = []) (empty : s.nextNode = 0) (asked : e.graph.Asks q target) :
    ∃ a ∈ course, a.ask.query? = some q ∧ a.target = target := by
  have opened {id : NodeId} {n : Node} (node : e.graph.node? id = some n) :
      ∃ a ∈ course, a.session.nextNode = id ∧ r.Opened e course a :=
    h.opened keeps (empty ▸ Nat.zero_le id) (List.getElem?_eq_some_iff.1 node).1
  induction asked with
  | @root edge mem =>
    rcases (h.covers keeps).2.2 edge mem with old | ⟨part, rfl⟩
    · rw [fresh] at old
      nomatch old
    · obtain ⟨⟨a, mem, asked, target⟩, -⟩ := List.forall₂_cons.1 part.trace.answered
      exact ⟨a, part.inside mem, asked ▸ rfl, target⟩
  | @site id n d node made edge =>
    obtain ⟨a, mem, rfl, account⟩ := opened node
    obtain ⟨n', -, node', -, parts⟩ := account.part
    cases node.symm.trans node'
    obtain ⟨b, mem', target, query⟩ := parts d edge
    exact ⟨b, mem', query.trans (if_pos made), target⟩
  | @forwarded q id n d asked node forwards edge ih =>
    obtain ⟨a, mem, query, target⟩ := ih
    have alone : n.source = .implicit ∧ n.scope = none := by
      obtain ⟨_, -, rfl, account⟩ := opened node
      obtain ⟨n', -, node', alone, -⟩ := account.part
      cases node.symm.trans node'
      exact alone forwards
    cases h.accounted keeps mem with
    | settled way settled after =>
      rw [target] at settled
      exact (settled.not_forwards way after node alone.1 alone.2).elim
    | opened account =>
      obtain ⟨n', target', node', -, parts⟩ := account.part
      cases target.symm.trans target'
      cases node.symm.trans node'
      obtain ⟨b, mem', target, query'⟩ := parts d edge
      have unmade := Bool.eq_false_iff.1 (NodeKind.isMade_of_forwards forwards)
      refine ⟨b, mem', ?_, target⟩
      rw [query', if_neg unmade, if_pos forwards, query]
      rfl

end Course

/-- The requests of a build are those of its graph: of its roots, of the sites of what its bindings
make, and of the parts of its factories, lazy and owned values and tuples. -/
theorem build_asks_iff (found : List Diagnostic) (roots : List Root)
    (h : r.Course roots.zipIdx (.begin found) (r.resolveRoots (.begin found) roots) course) :
    (r.build found roots).1.Asks q target ↔
      ∃ a ∈ course, a.ask.query? = some q ∧ a.target = target := by
  refine ⟨h.exists_of_asks rfl rfl rfl, ?_⟩
  rintro ⟨a, mem, query, rfl⟩
  exact h.asksIn rfl mem q query

end Resolver

end Wiring
