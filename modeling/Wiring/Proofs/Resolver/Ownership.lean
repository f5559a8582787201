import Mathlib
import Wiring.Proofs.Resolver.Sharing
import Wiring.Proofs.Resolver.Validity

/-!
# Resolver — Ownership

What is made below an owned value is released with it. Owners go down from each node to what it is
the maker of, as far as an instance that lives with the composition: below that the wrapper is
forgotten, but the nodes above can still be linked back to. Such links are the only way to an owned
instance that does not pass its wrapper.
-/

namespace Wiring

namespace Graph

/-- A path from a root down to a node, with the nodes that it passes before, the nearest first. -/
inductive RootPath (g : Graph) : NodeId → List NodeId → Prop where
  | root {e id} (edge : e ∈ g.roots) (target : e.target = .node id) : RootPath g id []
  | step {id target above} (path : RootPath g id above) (leads : target ∈ g.successors id) :
      RootPath g target (id :: above)

/-- A node is released with an owned value. -/
def OwnedBy (g : Graph) (wrapper id : NodeId) : Prop :=
  ∃ n, g.node? id = some n ∧ n.owner = .owned wrapper

/-- What is made for the parts of a node is released with an owned value: with the node itself, or
with the one that the node is released with. -/
def PartsOwnedBy (g : Graph) (wrapper id : NodeId) : Prop :=
  ∃ n, g.node? id = some n ∧
    if n.source = .implicit ∧ n.kind = .owned then id = wrapper else n.owner = .owned wrapper

/-- Something lives with the composition on the way up from a node to one of its makers. -/
def Across (g : Graph) (id maker : NodeId) : Prop :=
  ∃ m n, m ∈ id :: g.makers id ∧ maker ∈ g.makers m ∧ g.node? m = some n ∧
    n.lifetime.livesWithComposition

/-- Before each owned node a path passes its wrapper. -/
def PassesWrappers (g : Graph) (path : List NodeId) : Prop :=
  ∀ id above wrapper, id :: above <:+ path → g.OwnedBy wrapper id → wrapper ∈ above

/-- It does so before the nodes that it is linked back to across something that lives with the
composition. -/
def LinksPassWrappers (g : Graph) (path : List NodeId) : Prop :=
  ∀ id above target wrapper, target :: id :: above <:+ path → g.Across id target →
    g.OwnedBy wrapper target → wrapper ∈ id :: above

/-- What a path to a node has passed: the wrapper of the node, and those of the instances above the
node from which nothing separates it that lives with the composition. -/
structure HasPassed (g : Graph) (id : NodeId) (above : List NodeId) : Prop where
  own : ∀ wrapper, g.OwnedBy wrapper id → wrapper ∈ above
  others : ∀ wrapper maker, g.OwnedBy wrapper maker → g.isBound maker → maker ∈ g.makers id →
    ¬ g.Across id maker → wrapper ∈ id :: above

variable {g : Graph} {id maker wrapper : NodeId} {above : List NodeId}

/-- A part of a path from its root on is a path. -/
theorem RootPath.of_suffix (h : g.RootPath id above) {m : NodeId} {above' : List NodeId}
    (part : m :: above' <:+ id :: above) : g.RootPath m above' := by
  induction h with
  | root edge target =>
    rcases List.suffix_cons_iff.1 part with whole | none
    · obtain ⟨rfl, rfl⟩ := List.cons.inj whole
      exact .root edge target
    · nomatch List.suffix_nil.1 none
  | step path leads ih =>
    rcases List.suffix_cons_iff.1 part with whole | shorter
    · obtain ⟨rfl, rfl⟩ := List.cons.inj whole
      exact path.step leads
    · exact ih shorter

theorem LinksPassWrappers.of_suffix {path path' : List NodeId} (h : g.LinksPassWrappers path)
    (part : path' <:+ path) : g.LinksPassWrappers path' :=
  fun id above target wrapper link => h id above target wrapper (link.trans part)

theorem OwnedBy.lt (h : g.OwnedBy wrapper id) : id < g.nodes.length := by
  obtain ⟨n, node, -⟩ := h
  exact (List.getElem?_eq_some_iff.1 node).1

theorem PartsOwnedBy.cases (h : g.PartsOwnedBy wrapper id) :
    id = wrapper ∨ g.OwnedBy wrapper id := by
  obtain ⟨n, node, owner⟩ := h
  split at owner
  · exact .inl owner
  · exact .inr ⟨n, node, owner⟩

/-- The parts of an owned node are released with its wrapper, unless it is a wrapper itself. -/
theorem OwnedBy.parts (h : g.OwnedBy wrapper id) :
    ∃ v, g.PartsOwnedBy v id ∧ (v = wrapper ∨ v = id ∧ g.isBound id = false) := by
  obtain ⟨n, node, owner⟩ := h
  by_cases isWrapper : n.source = .implicit ∧ n.kind = .owned
  · refine ⟨id, ⟨n, node, by rw [if_pos isWrapper]⟩, .inr ⟨rfl, ?_⟩⟩
    simp [isBound, node, isWrapper.1]
  · exact ⟨wrapper, ⟨n, node, by rwa [if_neg isWrapper]⟩, .inl rfl⟩

theorem Across.of_maker {m : NodeId} (h : g.Across m maker) (mem : m ∈ g.makers id) :
    g.Across id maker := by
  obtain ⟨m', n, held, above, node, long⟩ := h
  refine ⟨m', n, List.mem_cons_of_mem _ ?_, above, node, long⟩
  rcases List.mem_cons.1 held with rfl | further
  · exact mem
  · exact makers_subset mem further

end Graph

theorem Context.ownerOf_eq_owned_iff {c : Context} {lifetime : Lifetime} {wrapper : NodeId} :
    c.ownerOf lifetime = .owned wrapper ↔
      lifetime.livesWithComposition = false ∧ c.owner = .owned wrapper := by
  cases lifetime with
  | singleton | perScope => simp [ownerOf, Lifetime.livesWithComposition]
  | transient | perBlock => simp [ownerOf, Lifetime.livesWithComposition]
  | perResolve => cases owner : c.owner <;> simp [ownerOf, owner, Lifetime.livesWithComposition]

namespace Resolver

variable {r : Resolver} {roots : List (Root × Nat)} {births : List Birth} {s : Session}
  {id maker wrapper : NodeId} {b : Birth}

/-! ## Owners of parts -/

namespace History

theorem ownedBy_iff (h : History r roots births s) (born : births[id]? = some b) :
    s.graph.OwnedBy wrapper id ↔ b.context.owner = .owned wrapper ∧
      ∃ n, s.graph.node? id = some n ∧ n.lifetime.livesWithComposition = false := by
  obtain ⟨n, node, -⟩ := h.node born
  simp only [Graph.OwnedBy, node, Option.some.injEq, exists_eq_left', h.owner_eq born node,
    Context.ownerOf_eq_owned_iff, and_comm]

/-- Nothing that is made by no binding lives with the composition. -/
theorem not_long_of_implicit (h : History r roots births s) {n : Node}
    (node : s.graph.node? id = some n) (implicit : n.source = .implicit) :
    n.lifetime.livesWithComposition = false := by
  have sourced := h.sourced node
  rw [SourcedBy, implicit] at sourced
  rcases sourced with lifetime | lifetime <;> rw [lifetime] <;> rfl

theorem inside_owner (h : History r roots births s) (born : births[id]? = some b) (block : Nat) :
    (b.inside block).owner = .owned wrapper ↔ s.graph.PartsOwnedBy wrapper id := by
  obtain ⟨n, node, closed⟩ := h.node born
  have face := closed.face_eq
  simp only [Graph.PartsOwnedBy, node, Option.some.injEq, exists_eq_left', Birth.inside, ← face,
    Node.face]
  by_cases implicit : n.source = .implicit
  · by_cases kind : n.kind = .owned
    · have at_id : n.id = id := by
        rw [← h.id_eq born, ← face]
        rfl
      simp [implicit, kind, at_id]
    · have outer := h.owner_eq born node
      simp [implicit, kind, outer, Context.ownerOf_eq_owned_iff,
        h.not_long_of_implicit node implicit]
  · simp [implicit]

/-- A node is released with whom the parts of its nearest maker are released with. -/
theorem owned_descent (h : History r roots births s) (lt : id < s.graph.nodes.length) :
    (s.graph.makers id = [] ∧ ∀ wrapper, ¬ s.graph.OwnedBy wrapper id) ∨
      ∃ m < id, s.graph.makers id = m :: s.graph.makers m ∧ ∀ wrapper,
        s.graph.OwnedBy wrapper id ↔ s.graph.PartsOwnedBy wrapper m ∧
          ∃ n, s.graph.node? id = some n ∧ n.lifetime.livesWithComposition = false := by
  rw [← h.length_eq] at lt
  have born : births[id]? = some births[id] := List.getElem?_eq_getElem lt
  rcases h.descent born with
    ⟨root, block, context, none⟩ | ⟨m, maker, block, born', lt', context, eq⟩
  · refine .inl ⟨none, fun wrapper owned => ?_⟩
    rw [h.ownedBy_iff born, context] at owned
    nomatch owned.1
  · refine .inr ⟨m, lt', eq, fun wrapper => ?_⟩
    rw [h.ownedBy_iff born, context, h.inside_owner born']

/-- An owned value stands above all that is released with it. -/
theorem mem_makers_of_ownedBy (h : History r roots births s) (owned : s.graph.OwnedBy wrapper id) :
    wrapper ∈ s.graph.makers id := by
  induction id using Nat.strong_induction_on with
  | _ id ih =>
    rcases h.owned_descent owned.lt with ⟨-, none⟩ | ⟨m, lt, eq, iff⟩
    · exact absurd owned (none wrapper)
    · rw [eq]
      rcases ((iff wrapper).1 owned).1.cases with rfl | further
      · exact List.mem_cons_self
      · exact List.mem_cons_of_mem _ (ih m lt further)

/-- As long as nothing lives with the composition, what is below an instance made by a binding is
released with the same owned value, or with one that is itself below the instance. -/
theorem owned_below (h : History r roots births s) (owned : s.graph.OwnedBy wrapper maker)
    (bound : s.graph.isBound maker) (below : maker ∈ s.graph.makers id)
    (clear : ¬ s.graph.Across id maker) :
    ∃ v, s.graph.OwnedBy v id ∧ (v = wrapper ∨ maker ∈ s.graph.makers v) := by
  induction id using Nat.strong_induction_on with
  | _ id ih =>
    have lt := h.records.whole.lt_of_mem_makers below
    have node : s.graph.node? id = some s.graph.nodes[id] := List.getElem?_eq_getElem lt
    have short : s.graph.nodes[id].lifetime.livesWithComposition = false := by
      by_contra long
      exact clear ⟨id, _, List.mem_cons_self, below, node, by simpa using long⟩
    rcases h.owned_descent lt with ⟨none, -⟩ | ⟨m, lt', eq, iff⟩
    · simp [none] at below
    · -- Whom the parts of the nearest maker are released with, its own parts are released with.
      have passes {v : NodeId} (parts : s.graph.PartsOwnedBy v m) : s.graph.OwnedBy v id :=
        (iff v).2 ⟨parts, _, node, short⟩
      have further (across : s.graph.Across m maker) : False :=
        clear (across.of_maker (by simp [eq]))
      rw [eq] at below
      rcases List.mem_cons.1 below with rfl | above
      · obtain ⟨v, parts, rfl | ⟨-, unbound⟩⟩ := owned.parts
        · exact ⟨v, passes parts, .inl rfl⟩
        · simp [unbound] at bound
      · obtain ⟨v', owned', found⟩ := ih m lt' above further
        obtain ⟨v, parts, rfl | ⟨rfl, -⟩⟩ := owned'.parts
        · exact ⟨v, passes parts, found⟩
        · exact ⟨v, passes parts, .inr above⟩

/-! ## Edges -/

/-- A shared instance is released with whom a new one would be. -/
theorem owner_of_shared (h : History r roots births s) {past : List Birth} {s' : Session}
    (records : Records past s') (earlier : past <+: births) {contract : TypeExpr} {tag : TagKey}
    {source : Source} {lifetime : Lifetime}
    (share : s'.sharedNode? contract tag source lifetime = some id)
    (owned : s.graph.OwnedBy wrapper id) : s'.context.owner = .owned wrapper := by
  obtain ⟨n, node, owner⟩ := owned
  obtain ⟨_, n', -, node', -, -, -, -, owner'⟩ := sharedNode?_spec share
  obtain ⟨n'', node'', face⟩ := h.recalled records earlier node'
  cases node.symm.trans node''
  have same : s'.context.ownerOf lifetime = .owned wrapper :=
    owner'.symm.trans ((congrArg Node.owner face).symm.trans owner)
  exact (Context.ownerOf_eq_owned_iff.1 same).2

/-- What a request leads to is released with whom the request says, or is linked back to. -/
theorem owner_of_answer (h : History r roots births s) {c : Context} {ask : Ask} {target : Target}
    (answer : r.Answer births c ask target) (eq : target = .node id)
    (owned : s.graph.OwnedBy wrapper id) :
    c.owner = .owned wrapper ∨ ∃ link ∈ c.chain, link.node = id := by
  cases answer with
  | settled context records earlier settled =>
    subst context eq
    rcases settled.finds with linked | ⟨_, _, _, _, share⟩
    · exact .inr linked
    · rw [← settled.extends.context]
      exact .inl (h.owner_of_shared (records.settle settled) earlier share owned)
  | opened context opened birth =>
    cases eq
    rw [h.ownedBy_iff birth] at owned
    exact .inl (context ▸ owned.1)

/-- An edge to an owned node is from below its wrapper, or a link back. -/
theorem owner_of_edge (h : History r roots births s) {target : NodeId}
    (leads : target ∈ s.graph.successors id) (owned : s.graph.OwnedBy wrapper target) :
    s.graph.PartsOwnedBy wrapper id ∨ target ∈ s.graph.chainAt id := by
  obtain ⟨n, d, node, edge, eq⟩ := Graph.mem_successors.1 leads
  obtain ⟨b, born, closed⟩ := h.birth node
  cases closed with
  | @intro ask s' o inside opened answers =>
    obtain ⟨block, context⟩ := opened.inner_context
    obtain ⟨part, -, -, answer⟩ := mem_dependenciesOf answers edge
    rw [context] at answer
    rcases h.owner_of_answer answer eq owned with owner | ⟨link, held, same⟩
    · exact .inl ((h.inside_owner born block).1 owner)
    · exact .inr (same ▸ h.mem_of_link born held)

theorem not_owned_of_root (h : History r roots births s) {e : RootEdge} (mem : e ∈ s.graph.roots)
    (eq : e.target = .node id) : ¬ s.graph.OwnedBy wrapper id := by
  intro owned
  obtain ⟨i, edge⟩ := List.mem_iff_getElem?.1 mem
  obtain ⟨root, -, answer⟩ := h.root_answer edge
  obtain ⟨block, answer⟩ := answer.answer
  rcases h.owner_of_answer answer eq owned with owner | ⟨link, held, -⟩
  · nomatch owner
  · nomatch held

/-! ## Paths -/

/-- One edge further down. -/
theorem owner_passed (h : History r roots births s) {before : NodeId} {above : List NodeId}
    (passed : s.graph.HasPassed before above) (leads : id ∈ s.graph.successors before)
    (links : s.graph.LinksPassWrappers (id :: before :: above))
    (owned : s.graph.OwnedBy wrapper id) : wrapper ∈ before :: above := by
  rcases h.owner_of_edge leads owned with parts | linked
  · rcases parts.cases with rfl | owned'
    · exact List.mem_cons_self
    · exact List.mem_cons_of_mem _ (passed.own wrapper owned')
  · obtain ⟨mem, bound⟩ := List.mem_filter.1 linked
    rcases List.mem_cons.1 mem with rfl | back
    · exact List.mem_cons_of_mem _ (passed.own wrapper owned)
    · by_cases across : s.graph.Across before id
      · exact links before above id wrapper (List.suffix_refl _) across owned
      · exact passed.others wrapper id owned bound back across

/-- A path passes the wrappers when its links do. -/
theorem hasPassed (h : History r roots births s) {above : List NodeId}
    (path : s.graph.RootPath id above) (links : s.graph.LinksPassWrappers (id :: above)) :
    s.graph.HasPassed id above := by
  -- The wrappers themselves are met earlier on the path, so the induction is on its length.
  obtain ⟨length, eq⟩ : ∃ length, above.length = length := ⟨_, rfl⟩
  induction length using Nat.strong_induction_on generalizing id above with
  | _ length ih =>
    subst eq
    have own : ∀ wrapper, s.graph.OwnedBy wrapper id → wrapper ∈ above := by
      intro wrapper owned
      cases path with
      | root edge target => exact absurd owned (h.not_owned_of_root edge target)
      | @step before _ above path leads =>
        have passed := ih above.length (by simp) path (links.of_suffix (List.suffix_cons ..)) rfl
        exact h.owner_passed passed leads links owned
    refine ⟨own, fun wrapper maker owned bound below clear => ?_⟩
    obtain ⟨v, owned', found⟩ := h.owned_below owned bound below clear
    have mem := own v owned'
    rcases found with rfl | inside
    · exact List.mem_cons_of_mem _ mem
    · -- The wrapper found so far is itself below the instance, so go on from there.
      obtain ⟨before, above', rfl⟩ := List.append_of_mem mem
      have part : v :: above' <:+ id :: (before ++ v :: above') :=
        (List.suffix_append ..).trans (List.suffix_cons ..)
      have clear' (across : s.graph.Across v maker) : False :=
        clear (across.of_maker (h.mem_makers_of_ownedBy owned'))
      have shorter : above'.length < (before ++ v :: above').length := by
        simp only [List.length_append, List.length_cons]
        omega
      have passed := ih _ shorter (path.of_suffix part) (links.of_suffix part) rfl
      exact part.subset (passed.others wrapper maker owned bound inside clear')

end History

end Resolver

namespace Resolved

open Resolver

/-- In a resolution without errors, a path from a root passes the wrappers of all owned instances
exactly when it passes those of the instances that it is linked back to across something that lives
with the composition. -/
theorem passesWrappers_iff (reader : PatternReader) (registry : Registry) (options : Options)
    (roots : List Root) (accumulators : List Accumulator)
    (valid : (ofRoots reader registry options roots accumulators .standard).isValid) :
    let g := (ofRoots reader registry options roots accumulators .standard).graph
    ∀ id above, g.RootPath id above →
      (g.PassesWrappers (id :: above) ↔ g.LinksPassWrappers (id :: above)) := by
  obtain ⟨-, -, same⟩ := checked_of_isValid valid
  let r := (ofOptions reader registry options accumulators).1
  obtain ⟨births, s, h, eq⟩ :=
    build_history (r := r) (ofOptions reader registry options accumulators).2 roots
  rw [same, built, eq]
  intro g id above path
  constructor
  · intro passes id above target wrapper link _ owned
    exact passes target (id :: above) wrapper link owned
  · intro links id above wrapper part owned
    exact (h.hasPassed (path.of_suffix part) (links.of_suffix part)).own wrapper owned

/-! ## A hub

The worker of an owned value asks for a hub, which lives with the composition and makes its workers
later. It is linked back to the worker that was open when it was made, and so another root that asks
for the hub gets at the owned worker.
-/

def worker : TypeExpr := .named "Worker" []

def hub : TypeExpr := .named "Hub" []

/-- A type that is built from one thing. -/
def builtFrom (type : TypeExpr) (part : Site) : Descriptor :=
  { Descriptor.concrete type with constructors := [⟨true, none, [part]⟩] }

def workshop : Resolved :=
  ofRoots literalReader ((Registry.empty ⟨[builtFrom worker (.parameter "hub" hub),
      builtFrom hub (.parameter "worker" (.lazy worker))]⟩ .structural).registerAll
      [.ofType worker worker, { Binding.ofType hub hub with lifetime := .singleton }]).1
    .standard [.untagged "first" (.owned worker), .untagged "second" hub] [] .standard

theorem workshop_valid : workshop.isValid := by cbv

theorem workshop_facts :
    workshop.graph.roots[1]?.map (·.target) = some (.node 2) ∧
      workshop.graph.successors 2 = [3] ∧ workshop.graph.successors 3 = [1] ∧
      (workshop.graph.node? 1).map (·.owner) = some (.owned 0) := by cbv

theorem workshop_owned : workshop.graph.OwnedBy 0 1 := by
  obtain ⟨-, -, -, owner⟩ := workshop_facts
  exact Option.map_eq_some_iff.1 owner

/-- The way of the second root to the worker. -/
theorem workshop_path : workshop.graph.RootPath 1 [3, 2] := by
  obtain ⟨root, fromHub, fromLazy, -⟩ := workshop_facts
  obtain ⟨e, edge, target⟩ := Option.map_eq_some_iff.1 root
  refine ((Graph.RootPath.root (List.mem_of_getElem? edge) target).step ?_).step ?_
  · rw [fromHub]
    exact List.mem_cons_self
  · rw [fromLazy]
    exact List.mem_cons_self

/-- The path does not pass the wrapper, so it has a link of this kind. -/
theorem passesWrappers_iff_workshop : workshop.isValid ∧
    ¬ workshop.graph.LinksPassWrappers [1, 3, 2] := by
  refine ⟨workshop_valid, fun links => ?_⟩
  have passes := (passesWrappers_iff _ _ _ _ _ workshop_valid 1 [3, 2] workshop_path).2 links
  exact absurd (passes 1 [3, 2] 0 (List.suffix_refl _) workshop_owned) (by decide)

/-- The second root gets at the worker past its wrapper. -/
theorem workshop_escapes : workshop.isValid ∧
    ¬ ∀ id above wrapper, workshop.graph.RootPath id above → workshop.graph.OwnedBy wrapper id →
      wrapper ∈ above := by
  refine ⟨workshop_valid, fun claim => ?_⟩
  exact absurd (claim 1 [3, 2] 0 workshop_path workshop_owned) (by decide)

end Resolved

end Wiring
