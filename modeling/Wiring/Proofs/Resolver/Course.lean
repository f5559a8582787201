import Wiring.Proofs.Resolver.Closedness
import Wiring.Proofs.Resolver.Outcome

/-!
# Resolver — Course

The requests of a build, one after the other as they arrive, each with where it arrived and with
what it was answered in the end. A session is what the requests so far have made of it. From one
request to those that it leads to, either the chain grows or the contract becomes smaller, and the
chain never grows past the depth limit; so every build comes to an end, and it reports the requests
that it cuts.
-/

namespace Wiring

/-- A request as it arrives, and what it is answered with in the end. -/
structure Arrival where
  ask : Ask
  session : Session
  target : Target

namespace Arrival

/-- The length of the chain on which a request arrives. -/
def depth (a : Arrival) : Nat := a.session.context.depth

/-- The entry of a request that nothing answers. -/
def unanswered? (a : Arrival) : Option Unanswered :=
  match a.target with
  | .unresolved id => some (a.ask.unanswered id a.session.rootName)
  | .node _ => none

/-- An open request arrives where the chain is as long as it may be. -/
def isCut (a : Arrival) (maxDepth : Nat) : Bool :=
  match a.ask with
  | .request .. => a.depth = maxDepth
  | .candidate .. => false

/-- The entry of a request that is cut. -/
def cut? (a : Arrival) (maxDepth : Nat) : Option Unanswered :=
  if a.isCut maxDepth then a.unanswered? else none

/-- The room left on the chain, and then the size of the contract. -/
noncomputable def measure (a : Arrival) (maxDepth : Nat) : Nat × Nat :=
  (maxDepth - a.depth, sizeOf a.ask.contract)

end Arrival

/-- What is reported of a request that was cut, told by its entry. -/
def Unanswered.depthReport (u : Unanswered) (maxDepth : Nat) : Diagnostic :=
  ⟨.invalidMetadata, .error, "解析深度超过上限 " ++ toString maxDepth ++ ": " ++ u.contract.text,
    u.site.bind (·.location), some (.root u.root)⟩

namespace Resolver

open Session

variable (r : Resolver)

/-- The requests of a run in the order of their arrival. -/
inductive Trace : List Ask → Session → List Target → Session → List Arrival → Prop where
  | done {s} : Trace [] s [] s []
  | settle {ask s target s' more targets s'' arrivals} (settled : r.Settles ask s target s')
      (rest : Trace more s' targets s'' arrivals) :
      Trace (ask :: more) s (target :: targets) s'' (⟨ask, s, target⟩ :: arrivals)
  | make {ask s o inside s' arrivals more targets s'' arrivals'} (opened : r.Opens ask s o)
      (parts : Trace (o.parts.map (·.ask)) o.inner inside s' arrivals)
      (rest : Trace more
        (s'.close s.context s.nextNode (dependenciesOf o.node.kind o.parts inside))
        targets s'' arrivals') :
      Trace (ask :: more) s (.node s.nextNode :: targets) s''
        (⟨ask, s, .node s.nextNode⟩ :: arrivals ++ arrivals')

/-- The requests of some roots, which are resolved one after the other. -/
inductive Course : List (Root × Nat) → Session → Session → List Arrival → Prop where
  | done {s} : Course [] s s []
  | root {root index s target s' arrivals more s'' arrivals'}
      (trace : r.Trace [.request root.contract (.ofRoot root)] (s.enterRoot root index) [target] s'
        arrivals)
      (rest : Course more (s'.leaveRoot ⟨root, target⟩) s'' arrivals') :
      Course ((root, index) :: more) s s'' (arrivals ++ arrivals')

/-- A request leads to another one, for a part of the node that it opens. -/
inductive LeadsTo : Arrival → Arrival → Prop where
  | part {a b o part} (opened : r.Opens a.ask a.session o) (mem : part ∈ o.parts)
      (asked : b.ask = part.ask) (context : b.session.context = o.inner.context) : LeadsTo a b

/-- Where a request of a build comes from: it is that of a root, or another one leads to it. -/
inductive Origin (roots : List Root) (arrivals : List Arrival) (b : Arrival) : Prop where
  | root {root index block} (listed : roots[index]? = some root)
      (asked : b.ask = .request root.contract (.ofRoot root))
      (context : b.session.context = .atRoot index block) : Origin roots arrivals b
  | led {a} (earlier : a ∈ arrivals) (leads : r.LeadsTo a b)
      (less : Prod.Lex (· < ·) (· < ·) (b.measure r.options.maxDepth)
        (a.measure r.options.maxDepth)) : Origin roots arrivals b

/-- What comes of a request when it arrives. -/
inductive Arrives (a : Arrival) : Prop where
  | settled {s'} (settled : r.Settles a.ask a.session a.target s') : Arrives a
  | opened {o} (opened : r.Opens a.ask a.session o)
      (answered : a.target = .node a.session.nextNode) : Arrives a

/-- Where a request may arrive: an open one is cut at the depth limit, and a match is only asked for
before it. -/
def HasRoom (ask : Ask) (depth : Nat) : Prop :=
  match ask with
  | .request .. => depth ≤ r.options.maxDepth
  | .candidate .. => depth < r.options.maxDepth

variable {r} {s s' : Session} {ask : Ask} {asks : List Ask} {targets : List Target}
  {target : Target} {o : Opening} {arrivals : List Arrival} {a b : Arrival}

/-! ## Runs and traces -/

theorem Run.trace {births : List Birth} (h : r.Run asks s targets s' births) :
    ∃ arrivals, r.Trace asks s targets s' arrivals := by
  induction h with
  | done => exact ⟨_, .done⟩
  | settle settled _ ih =>
    obtain ⟨_, rest⟩ := ih
    exact ⟨_, .settle settled rest⟩
  | make opened _ _ ih ih' =>
    obtain ⟨_, parts⟩ := ih
    obtain ⟨_, rest⟩ := ih'
    exact ⟨_, .make opened parts rest⟩

theorem Trace.run (h : r.Trace asks s targets s' arrivals) :
    ∃ births, r.Run asks s targets s' births := by
  induction h with
  | done => exact ⟨_, .done⟩
  | settle settled _ ih =>
    obtain ⟨_, rest⟩ := ih
    exact ⟨_, .settle settled rest⟩
  | make opened _ _ ih ih' =>
    obtain ⟨_, parts⟩ := ih
    obtain ⟨_, rest⟩ := ih'
    exact ⟨_, .make opened parts rest⟩

theorem Trace.extends (h : r.Trace asks s targets s' arrivals) : Extends s s' := by
  obtain ⟨births, run⟩ := h.run
  exact run.extends

/-- There is one trace for some requests in a session. -/
theorem Trace.unique {targets' : List Target} {s'' : Session} {arrivals' : List Arrival}
    (h : r.Trace asks s targets s' arrivals) (h' : r.Trace asks s targets' s'' arrivals') :
    targets' = targets ∧ s'' = s' ∧ arrivals' = arrivals := by
  induction h generalizing targets' s'' arrivals' with
  | done =>
    cases h'
    exact ⟨rfl, rfl, rfl⟩
  | settle settled _ ih =>
    cases h' with
    | settle settled' rest' =>
      cases settled.outcome.symm.trans settled'.outcome
      obtain ⟨rfl, rfl, rfl⟩ := ih rest'
      exact ⟨rfl, rfl, rfl⟩
    | make opened' => nomatch settled.outcome.symm.trans opened'.outcome
  | make opened _ _ ih ih' =>
    cases h' with
    | settle settled' => nomatch opened.outcome.symm.trans settled'.outcome
    | make opened' parts' rest' =>
      cases opened.outcome.symm.trans opened'.outcome
      obtain ⟨rfl, rfl, rfl⟩ := ih parts'
      obtain ⟨rfl, rfl, rfl⟩ := ih' rest'
      exact ⟨rfl, rfl, rfl⟩

theorem Course.unique {roots : List (Root × Nat)} {s'' : Session} {arrivals' : List Arrival}
    (h : r.Course roots s s' arrivals) (h' : r.Course roots s s'' arrivals') :
    arrivals' = arrivals := by
  induction h generalizing s'' arrivals' with
  | done =>
    cases h'
    rfl
  | root trace _ ih =>
    cases h' with
    | root trace' rest' =>
      obtain ⟨targets, rfl, rfl⟩ := trace.unique trace'
      cases targets
      rw [ih rest']

theorem exists_course (r : Resolver) (roots : List (Root × Nat)) (s : Session) :
    ∃ arrivals, r.Course roots s
      (roots.foldl (fun s (root, index) => r.resolveRoot s root index) s) arrivals := by
  induction roots generalizing s with
  | nil => exact ⟨[], .done⟩
  | cons first more ih =>
    obtain ⟨root, index⟩ := first
    obtain ⟨births, run⟩ := resolve_run (r := r) (Nat.zero_add r.options.maxDepth) root.contract
      (.ofRoot root) (s.enterRoot root index) rfl
    obtain ⟨arrivals, trace⟩ := run.trace
    obtain ⟨arrivals', rest⟩ := ih (r.resolveRoot s root index)
    exact ⟨arrivals ++ arrivals', .root trace rest⟩

/-! ## Room on the chain -/

theorem hasRoom_of_lt (room : s.context.depth < r.options.maxDepth) (ask : Ask) :
    r.HasRoom ask s.context.depth := by
  cases ask with
  | request => exact Nat.le_of_lt room
  | candidate => exact room

theorem HasRoom.le {depth : Nat} (h : r.HasRoom ask depth) : depth ≤ r.options.maxDepth := by
  cases ask with
  | request => exact h
  | candidate => exact Nat.le_of_lt h

/-- Nothing is opened at the depth limit. -/
theorem Opens.room (h : r.Opens ask s o) (room : r.HasRoom ask s.context.depth) :
    s.context.depth < r.options.maxDepth := by
  cases h with
  | bound chosen =>
    cases chosen with
    | bound room | auto room => exact room
    | candidate => exact room
  | accumulated room | shape room => exact room

/-- The chain grows inside a node that a binding makes. Inside any other it does not, and what is
asked for there is a part of the contract. -/
theorem Opens.descends (h : r.Opens ask s o) :
    o.inner.context.depth = s.context.depth + 1 ∧ (∀ part ∈ o.parts, ∃ contract d,
        part.ask = .request contract d) ∨
      o.inner.context.depth = s.context.depth ∧
        ∀ part ∈ o.parts, part.ask.contract ∈ ask.contract.children := by
  obtain ⟨block, context⟩ := h.inner_context
  rw [context]
  cases h with
  | @bound _ _ choice _ chosen =>
    have explicit : choice.source ≠ .implicit := by
      intro implicit
      cases chosen <;> cases implicit
    refine .inl ⟨congrArg List.length (if_neg explicit), fun part mem => ?_⟩
    obtain ⟨site, -, rfl⟩ := List.mem_map.1 mem
    exact ⟨_, _, rfl⟩
  | accumulated => exact .inr ⟨rfl, fun _ mem => nomatch mem⟩
  | shape => exact .inr ⟨rfl, fun part mem => contract_of_shapeParts mem⟩

/-- Inside a node there is room for its parts, and less than for the node or a smaller contract. -/
theorem Opens.parts_descend (h : r.Opens ask s o) (room : r.HasRoom ask s.context.depth) :
    ∀ part ∈ o.parts, r.HasRoom part.ask o.inner.context.depth ∧
      Prod.Lex (· < ·) (· < ·)
        (r.options.maxDepth - o.inner.context.depth, sizeOf part.ask.contract)
        (r.options.maxDepth - s.context.depth, sizeOf ask.contract) := by
  have lt := h.room room
  intro part mem
  rcases h.descends with ⟨deeper, requests⟩ | ⟨same, children⟩
  · obtain ⟨contract, d, request⟩ := requests part mem
    rw [deeper, request]
    exact ⟨lt, .left _ _ (Nat.sub_lt_sub_left lt (Nat.lt_succ_self _))⟩
  · rw [same]
    refine ⟨hasRoom_of_lt lt _, .right _ ?_⟩
    exact TypeExpr.sizeOf_lt_of_mem_children (children part mem)

/-- What a request leads to has room where it arrives, and the measure becomes less. -/
theorem LeadsTo.descends (h : r.LeadsTo a b) (room : r.HasRoom a.ask a.depth) :
    r.HasRoom b.ask b.depth ∧ Prod.Lex (· < ·) (· < ·) (b.measure r.options.maxDepth)
      (a.measure r.options.maxDepth) := by
  obtain ⟨opened, mem, asked, context⟩ := h
  have depth : b.depth = _ := congrArg Context.depth context
  rw [Arrival.measure, asked, depth]
  exact opened.parts_descend room _ mem

/-- Requests do not lead to others for ever. -/
theorem wellFounded_leadsTo (r : Resolver) :
    WellFounded fun b a => r.HasRoom a.ask a.depth ∧ r.LeadsTo a b := by
  have measure : WellFounded (InvImage (Prod.Lex (· < ·) (· < ·))
      fun a : Arrival => a.measure r.options.maxDepth) :=
    InvImage.wf _ (WellFounded.prod_lex Nat.lt_wfRel.wf Nat.lt_wfRel.wf)
  exact Subrelation.wf (fun h => (h.2.descends h.1).2) measure

/-! ## Arrivals -/

theorem Trace.arrives (h : r.Trace asks s targets s' arrivals) :
    ∀ a ∈ arrivals, r.Arrives a := by
  induction h with
  | done => exact fun _ mem => nomatch mem
  | settle settled _ ih => exact List.forall_mem_cons.2 ⟨.settled settled, ih⟩
  | make opened _ _ ih ih' =>
    exact List.forall_mem_append.2 ⟨List.forall_mem_cons.2 ⟨.opened opened rfl, ih⟩, ih'⟩

/-- All requests of a run arrive in the resolution of its root. -/
theorem Trace.root_eq (h : r.Trace asks s targets s' arrivals) :
    ∀ a ∈ arrivals, a.session.rootName = s.rootName ∧
      a.session.context.root = s.context.root := by
  induction h with
  | done => exact fun _ mem => nomatch mem
  | settle settled _ ih =>
    have more := settled.extends
    refine List.forall_mem_cons.2 ⟨⟨rfl, rfl⟩, ?_⟩
    rw [more.rootName, more.context] at ih
    exact ih
  | @make ask s o inside s' _ _ _ _ _ opened parts _ ih ih' =>
    obtain ⟨block, context⟩ := opened.inner_context
    have name : o.inner.rootName = s.rootName := opened.extends.rootName
    have more := opened.extends_close parts.extends
      (dependenciesOf o.node.kind o.parts inside)
    rw [name, context] at ih
    rw [more.rootName, more.context] at ih'
    exact List.forall_mem_append.2 ⟨List.forall_mem_cons.2 ⟨⟨rfl, rfl⟩, ih⟩, ih'⟩

/-- A request is one of those that a run is for, or another one leads to it. -/
theorem Trace.led (h : r.Trace asks s targets s' arrivals) :
    ∀ b ∈ arrivals, b.ask ∈ asks ∧ b.session.context = s.context ∨
      ∃ a ∈ arrivals, r.LeadsTo a b := by
  induction h with
  | done => exact fun _ mem => nomatch mem
  | settle settled _ ih =>
    refine List.forall_mem_cons.2 ⟨.inl ⟨List.mem_cons_self, rfl⟩, fun b mem => ?_⟩
    rcases ih b mem with ⟨asked, context⟩ | ⟨a, mem', leads⟩
    · exact .inl ⟨List.mem_cons_of_mem _ asked, context.trans settled.extends.context⟩
    · exact .inr ⟨a, List.mem_cons_of_mem _ mem', leads⟩
  | make opened _ _ ih ih' =>
    refine List.forall_mem_append.2 ⟨List.forall_mem_cons.2 ⟨.inl ⟨List.mem_cons_self, rfl⟩,
      fun b mem => ?_⟩, fun b mem => ?_⟩
    · rcases ih b mem with ⟨asked, context⟩ | ⟨a, mem', leads⟩
      · obtain ⟨part, mem', asked⟩ := List.mem_map.1 asked
        exact .inr ⟨_, List.mem_append_left _ List.mem_cons_self,
          .part opened mem' asked.symm context⟩
      · exact .inr ⟨a, List.mem_append_left _ (List.mem_cons_of_mem _ mem'), leads⟩
    · rcases ih' b mem with ⟨asked, context⟩ | ⟨a, mem', leads⟩
      · exact .inl ⟨List.mem_cons_of_mem _ asked, context⟩
      · exact .inr ⟨a, List.mem_append_right _ mem', leads⟩

/-- There is room for every request of a run when there is for those that it is for. -/
theorem Trace.hasRoom (h : r.Trace asks s targets s' arrivals)
    (room : ∀ ask ∈ asks, r.HasRoom ask s.context.depth) :
    ∀ a ∈ arrivals, r.HasRoom a.ask a.depth := by
  induction h with
  | done => exact fun _ mem => nomatch mem
  | settle settled _ ih =>
    obtain ⟨first, later⟩ := List.forall_mem_cons.1 room
    exact List.forall_mem_cons.2 ⟨first, ih (settled.extends.context ▸ later)⟩
  | make opened _ _ ih ih' =>
    obtain ⟨first, later⟩ := List.forall_mem_cons.1 room
    have inside := ih (List.forall_mem_map.2 fun part mem =>
      (opened.parts_descend first part mem).1)
    exact List.forall_mem_append.2 ⟨List.forall_mem_cons.2 ⟨first, inside⟩, ih' later⟩

/-! ## What a session keeps of its requests -/

/-- What each request makes of something in a session when it arrives, and nothing else changes. -/
structure Tracks (r : Resolver) {σ : Type} (view : Session → σ) (step : σ → Arrival → σ) :
    Prop where
  settled : ∀ {ask s target s'}, r.Settles ask s target s' →
    view s' = step (view s) ⟨ask, s, target⟩
  opened : ∀ {ask s o}, r.Opens ask s o → view o.inner = step (view s) ⟨ask, s, .node s.nextNode⟩
  closed : ∀ s context id dependencies, view (s.close context id dependencies) = view s
  entered : ∀ s root index, view (s.enterRoot root index) = view s
  left : ∀ s edge, view (s.leaveRoot edge) = view s

section Tracks

variable {σ : Type} {view : Session → σ} {step : σ → Arrival → σ}

theorem Tracks.trace (h : r.Tracks view step) (trace : r.Trace asks s targets s' arrivals) :
    view s' = arrivals.foldl step (view s) := by
  induction trace with
  | done => rfl
  | settle settled _ ih => rw [ih, h.settled settled, List.foldl_cons]
  | make opened _ _ ih ih' =>
    rw [ih', h.closed, ih, h.opened opened, List.foldl_append, List.foldl_cons]

theorem Tracks.course {roots : List (Root × Nat)} (h : r.Tracks view step)
    (course : r.Course roots s s' arrivals) : view s' = arrivals.foldl step (view s) := by
  induction course with
  | done => rfl
  | root trace _ ih => rw [ih, h.left, h.trace trace, h.entered, List.foldl_append]

end Tracks

/-- A session keeps the entries of its requests. -/
theorem tracks_entries (r : Resolver) :
    r.Tracks (·.graph.unresolved) fun entries a => entries ++ a.unanswered?.toList where
  settled h := by
    rcases h.entries with ⟨⟨id, rfl⟩, same⟩ | ⟨rfl, new⟩
    · exact same.trans (List.append_nil _).symm
    · exact new
  opened h := h.unresolved_eq.trans (List.append_nil _).symm
  closed _ _ _ _ := rfl
  entered _ _ _ := rfl
  left _ _ := rfl

theorem cut?_node {ask : Ask} {s : Session} {id : NodeId} {maxDepth : Nat} :
    (Arrival.mk ask s (.node id)).cut? maxDepth = none := by
  rw [Arrival.cut?]
  exact ite_self _

/-- Only a request that arrives at the depth limit is cut. -/
theorem cut?_of_room {contract : TypeExpr} {d : Demand}
    (room : s.context.depth < r.options.maxDepth) :
    (Arrival.mk (.request contract d) s target).cut? r.options.maxDepth = none :=
  if_neg fun cut => absurd (of_decide_eq_true cut) (Nat.ne_of_lt room)

theorem Opens.diagnostics_eq (h : r.Opens ask s o) : o.inner.diagnostics = s.diagnostics := by
  cases h with
  | bound chosen => exact chosen.diagnostics_eq
  | accumulated => rfl
  | shape => exact enterShape_diagnostics ..

/-- A session keeps a report of each request that is cut. -/
theorem tracks_diagnostics (r : Resolver) : r.Tracks (·.diagnostics) fun diagnostics a =>
    diagnostics ++ ((a.cut? r.options.maxDepth).map
      (·.depthReport r.options.maxDepth)).toList where
  settled {ask s target s'} h := by
    cases h with
    | @cut contract d _ room =>
      have entry : (Arrival.mk (.request contract d) s (r.cut contract d s).1).cut?
          r.options.maxDepth = some _ := if_pos (decide_eq_true room)
      rw [entry]
      rfl
    | refused room | missing room =>
      rw [cut?_of_room room]
      exact (List.append_nil _).symm
    | lost => exact (List.append_nil _).symm
    | linked chosen | shared chosen =>
      rw [cut?_node]
      exact chosen.diagnostics_eq.trans (List.append_nil _).symm
    | accumulated =>
      rw [cut?_node]
      exact (List.append_nil _).symm
  opened h := by
    rw [cut?_node]
    exact h.diagnostics_eq.trans (List.append_nil _).symm
  closed _ _ _ _ := rfl
  entered _ _ _ := rfl
  left _ _ := rfl

theorem root_of_unanswered {u : Unanswered} (h : a.unanswered? = some u) :
    u.root = a.session.rootName := by
  rw [Arrival.unanswered?] at h
  split at h
  · cases h
    rfl
  · nomatch h

/-- A request that is cut is answered with its entry. -/
theorem Arrives.unanswered_of_isCut (h : r.Arrives a) (cut : a.isCut r.options.maxDepth) :
    ∃ u, a.unanswered? = some u := by
  obtain ⟨ask, s, target⟩ := a
  cases ask with
  | candidate => nomatch cut
  | request contract d =>
    have limit : s.context.depth = r.options.maxDepth := of_decide_eq_true cut
    have outcome : r.outcome s (.request contract d) = .inl (r.cut contract d s) := if_pos limit
    cases h with
    | opened opened => nomatch opened.outcome.symm.trans outcome
    | settled settled =>
      cases settled.outcome.symm.trans outcome
      exact ⟨_, rfl⟩

/-! ## Whole builds -/

theorem Course.begins {roots : List (Root × Nat)} (h : r.Course roots s s' arrivals) :
    Begins s s' := by
  induction h with
  | done => exact .refl _
  | root trace _ ih =>
    obtain ⟨births, run⟩ := trace.run
    exact run.begins_root ih

/-- What a session has for roots once another one is resolved. -/
theorem Trace.roots_leaveRoot {root : Root} {index : Nat} {edge : RootEdge}
    (h : r.Trace asks (s.enterRoot root index) targets s' arrivals) :
    (s'.leaveRoot edge).graph.roots = s.graph.roots ++ [edge] :=
  congrArg (· ++ _) h.extends.roots

theorem Course.roots_prefix {roots : List (Root × Nat)} (h : r.Course roots s s' arrivals) :
    s.graph.roots <+: s'.graph.roots := by
  induction h with
  | done => exact List.prefix_refl _
  | root trace _ ih =>
    rw [trace.roots_leaveRoot] at ih
    exact (List.prefix_append ..).trans ih

/-- The part of a course that is for one of its roots. -/
structure Stretch (r : Resolver) (roots : List (Root × Nat)) (e : Session)
    (course : List Arrival) where
  root : Root
  index : Nat
  before : Session
  target : Target
  after : Session
  arrivals : List Arrival
  listed : (root, index) ∈ roots
  trace : r.Trace [.request root.contract (.ofRoot root)] (before.enterRoot root index) [target]
    after arrivals
  inside : arrivals ⊆ course
  keeps : r.Keeps before
  begins : Begins (after.leaveRoot ⟨root, target⟩) e
  edge : ⟨root, target⟩ ∈ e.graph.roots

/-- It is also a part of what follows on some other roots. -/
def Stretch.following {roots : List (Root × Nat)} {e : Session}
    (stretch : r.Stretch roots e arrivals) (root : Root × Nat) (earlier : List Arrival) :
    r.Stretch (root :: roots) e (earlier ++ arrivals) :=
  { stretch with
    listed := List.mem_cons_of_mem _ stretch.listed
    inside := List.subset_append_of_subset_right _ stretch.inside }

/-- A course is made of the parts for its roots, and so are the nodes and root edges that come of
it. -/
theorem Course.covers {roots : List (Root × Nat)} {e : Session} (h : r.Course roots s e arrivals)
    (keeps : r.Keeps s) :
    (∀ a ∈ arrivals, ∃ part : r.Stretch roots e arrivals, a ∈ part.arrivals) ∧
    (∀ id, s.nextNode ≤ id → id < e.nextNode → ∃ part : r.Stretch roots e arrivals,
      part.before.nextNode ≤ id ∧ id < part.after.nextNode) ∧
    ∀ edge ∈ e.graph.roots, edge ∈ s.graph.roots ∨ ∃ part : r.Stretch roots e arrivals,
      edge = ⟨part.root, part.target⟩ := by
  induction h with
  | done =>
    exact ⟨fun _ mem => (nomatch mem), fun id le lt => absurd lt (Nat.not_lt_of_le le),
      fun edge mem => .inl mem⟩
  | @root root index s target s' arrivals more e arrivals' trace rest ih =>
    obtain ⟨births, run⟩ := trace.run
    have edges : (s'.leaveRoot ⟨root, target⟩).graph.roots = s.graph.roots ++ [⟨root, target⟩] :=
      trace.roots_leaveRoot
    let first : r.Stretch ((root, index) :: more) e (arrivals ++ arrivals') :=
      { root, index, before := s, target, after := s', arrivals
        listed := List.mem_cons_self
        trace
        inside := List.subset_append_left ..
        keeps
        begins := rest.begins
        edge := rest.roots_prefix.subset (edges ▸ List.mem_concat_self) }
    obtain ⟨requests, nodes, roots⟩ := ih (run.keeps keeps)
    refine ⟨fun a mem => ?_, fun id le lt => ?_, fun edge mem => ?_⟩
    · rcases List.mem_append.1 mem with now | later
      · exact ⟨first, now⟩
      · obtain ⟨part, mem⟩ := requests a later
        exact ⟨part.following _ _, mem⟩
    · rcases Nat.lt_or_ge id s'.nextNode with now | later
      · exact ⟨first, le, now⟩
      · obtain ⟨part, within⟩ := nodes id later lt
        exact ⟨part.following _ _, within⟩
    · rcases roots edge mem with old | ⟨part, rfl⟩
      · rw [edges] at old
        rcases List.mem_append.1 old with before | now
        · exact .inl before
        · exact .inr ⟨first, List.mem_singleton.1 now⟩
      · exact .inr ⟨part.following _ _, rfl⟩

/-- The reports of a course are those of its requests that are cut. -/
theorem Course.diagnostics_eq {roots : List (Root × Nat)} (h : r.Course roots s s' arrivals) :
    s'.diagnostics = s.diagnostics ++ (arrivals.filterMap (·.cut? r.options.maxDepth)).map
      (·.depthReport r.options.maxDepth) := by
  rw [(tracks_diagnostics r).course h, List.foldl_append_eq_append, ← List.flatMap_def,
    ← List.filterMap_eq_flatMap_toList, List.map_filterMap]

/-- A build comes to an end: its requests make one course, requests do not lead to others for ever,
since with each step there is less room on the chain, or as much and the contract is smaller, and
the chain is never longer than the depth limit. The entries of a build are those of its requests in
order, and for each request that arrives at the limit there is an entry and, in the same order, a
report which is about the root that is being resolved and names the limit and the contract. -/
theorem build_course (r : Resolver) (found : List Diagnostic) (roots : List Root) :
    let maxDepth := r.options.maxDepth
    let g := (r.build found roots).1
    WellFounded (fun b a => r.HasRoom a.ask a.depth ∧ r.LeadsTo a b) ∧
    ∃ arrivals,
      (∀ arrivals', r.Course roots.zipIdx (.begin found) (r.resolveRoots (.begin found) roots)
        arrivals' ↔ arrivals' = arrivals) ∧
      (∀ a ∈ arrivals, r.Origin roots arrivals a ∧ r.HasRoom a.ask a.depth ∧ a.depth ≤ maxDepth ∧
        (∀ o, r.Opens a.ask a.session o → o.inner.context.depth ≤ maxDepth) ∧
        (∃ root, roots[a.session.context.root]? = some root ∧ a.session.rootName = root.name) ∧
        (a.isCut maxDepth → ∃ u, a.cut? maxDepth = some u ∧ u.root = a.session.rootName)) ∧
      g.unresolved = arrivals.filterMap (·.unanswered?) ∧
      g.unresolved.map (·.id) = List.range g.unresolved.length ∧
      ∃ unused : List Rule, (r.build found roots).2 =
        found ++ (arrivals.filterMap (·.cut? maxDepth)).map (fun u =>
          ⟨.invalidMetadata, .error,
            "解析深度超过上限 " ++ toString maxDepth ++ ": " ++ u.contract.text,
            u.site.bind (·.location), some (.root u.root)⟩) ++
          unused.map r.unusedDiagnostic ∧
        ∀ d ∈ unused.map r.unusedDiagnostic, d.kind = .unusedTagOnWarning := by
  intro maxDepth g
  obtain ⟨arrivals, course⟩ := exists_course r roots.zipIdx (.begin found)
  refine ⟨wellFounded_leadsTo r, arrivals, fun arrivals' => ⟨course.unique, ?_⟩, fun a mem => ?_,
    ?_, ?_, ?_⟩
  · rintro rfl
    exact course
  · obtain ⟨part, mem'⟩ := (course.covers rfl).1 a mem
    have listed : roots[part.index]? = some part.root :=
      List.mk_mem_zipIdx_iff_getElem?.1 part.listed
    have room := part.trace.hasRoom (List.forall_mem_singleton.2 (Nat.zero_le _))
    obtain ⟨name, position⟩ := part.trace.root_eq a mem'
    refine ⟨?_, room a mem', (room a mem').le, fun o opened => ?_, ⟨part.root, ?_, name⟩,
      fun cut => ?_⟩
    · rcases part.trace.led a mem' with ⟨asked, context⟩ | ⟨b, earlier, leads⟩
      · exact .root listed (List.mem_singleton.1 asked) context
      · exact .led (part.inside earlier) leads (leads.descends (room b earlier)).2
    · have lt := opened.room (room a mem')
      rcases opened.descends with ⟨deeper, -⟩ | ⟨same, -⟩
      · exact deeper ▸ lt
      · exact same ▸ Nat.le_of_lt lt
    · rw [position]
      exact listed
    · obtain ⟨u, entry⟩ := (part.trace.arrives a mem').unanswered_of_isCut cut
      exact ⟨u, (if_pos cut).trans entry, root_of_unanswered entry⟩
  · have entries := (tracks_entries r).course course
    rw [List.foldl_append_eq_append, ← List.flatMap_def,
      ← List.filterMap_eq_flatMap_toList] at entries
    exact entries
  · obtain ⟨_, s, -, eq, accounts, -⟩ := resolveRoots_accounts (r := r) found roots
    show (r.build found roots).1.unresolved.map _ =
      List.range (r.build found roots).1.unresolved.length
    rw [eq]
    exact accounts.ids
  · refine ⟨_, congrArg (· ++ _) course.diagnostics_eq, fun d mem => ?_⟩
    obtain ⟨rule, -, rfl⟩ := List.mem_map.1 mem
    rfl

end Resolver

end Wiring
