import Mathlib.Data.List.Forall2
import Wiring.Proofs.Graph.Walk
import Wiring.Resolver.Accumulation

/-!
# Resolver — Membership

What accumulators collect, told by what the roots lead to. In each graph an accumulator has one
instance for the composition, unless it would be empty, and one for each root that leads to the
accumulator itself or to a member of its own.
-/

namespace Wiring

/-! ## What an accumulator collects -/

/-- What the descriptor of a type lists, with its markers filled in, answers for a capability. -/
def Catalog.Implements (c : Catalog) (u : Unifier) (type capability : TypeExpr) : Prop :=
  ∃ d s, c.descriptorOf u type = some (d, s) ∧
    ∃ declared ∈ d.implements, u.accepts (s.apply declared) capability

theorem Catalog.hasCapability_iff {c : Catalog} {u : Unifier} {type capability : TypeExpr} :
    c.hasCapability u type capability ↔
      u.accepts type capability ∨ c.Implements u type capability := by
  simp only [hasCapability, capabilitiesOf, Implements, Bool.or_eq_true]
  split
  · next d s known => simp [known]
  · next unknown => simp [unknown]

namespace Accumulator

/-- A node that an accumulator collects. -/
structure Fits (a : Accumulator) (r : Registry) (n : Node) : Prop where
  notAccumulator : n.kind.isAccumulator = false
  lifetime : a.lifetimes = [] ∨ n.lifetime ∈ a.lifetimes
  contract : r.unifier.accepts n.resultType a.contract ∨ r.unifier.accepts n.contract a.contract ∨
    r.catalog.Implements r.unifier n.resultType a.contract

variable {a : Accumulator} {index : Nat} {r : Registry} {g : Graph} {id : NodeId}

theorem collects_iff {n : Node} : a.collects r n ↔ a.Fits r n := by
  have contract : (r.unifier.accepts n.resultType a.contract ||
      r.unifier.accepts n.contract a.contract ||
        r.catalog.hasCapability r.unifier n.resultType a.contract) = true ↔
      r.unifier.accepts n.resultType a.contract ∨ r.unifier.accepts n.contract a.contract ∨
        r.catalog.Implements r.unifier n.resultType a.contract := by
    rw [Bool.or_eq_true, Bool.or_eq_true, Catalog.hasCapability_iff]
    tauto
  have lifetime : a.takes n.lifetime = true ↔ a.lifetimes = [] ∨ n.lifetime ∈ a.lifetimes := by
    simp [takes]
  rw [collects, Bool.and_eq_true, Bool.and_eq_true, contract, lifetime, Bool.not_eq_true']
  exact ⟨fun ⟨⟨kind, life⟩, fits⟩ => ⟨kind, life, fits⟩,
    fun ⟨kind, life, fits⟩ => ⟨⟨kind, life⟩, fits⟩⟩

/-- A node that the accumulator collects, among those of the composition or among the others. -/
def Member (a : Accumulator) (r : Registry) (g : Graph) (ofComposition : Bool)
    (id : NodeId) : Prop :=
  ∃ n, g.node? id = some n ∧ a.Fits r n ∧ n.lifetime.livesWithComposition = ofComposition

theorem mem_membersAmong {ofComposition : Bool} {ids : List NodeId} :
    id ∈ a.membersAmong r g ofComposition ids ↔ id ∈ ids ∧ a.Member r g ofComposition id := by
  rw [membersAmong, List.mem_filter, Member]
  refine and_congr_right fun _ => ?_
  split
  · next n node => simp [node, collects_iff]
  · next absent => simp [absent]

end Accumulator

/-! ## What the roots lead to -/

/-- The nodes that answer the roots. -/
def Graph.rootNodes (g : Graph) : List NodeId := g.roots.filterMap (·.target.node?)

theorem Graph.mem_rootNodes {g : Graph} {start : NodeId} :
    start ∈ g.rootNodes ↔ ∃ e ∈ g.roots, e.target = .node start := by
  rw [rootNodes, List.mem_filterMap]
  refine exists_congr fun e => and_congr_right fun _ => ?_
  cases e.target <;> simp [Target.node?]

/-- The answer of a root leads to a node by edges of any kind. -/
def RootEdge.LeadsTo (g : Graph) (e : RootEdge) (id : NodeId) : Prop :=
  ∃ start, e.target = .node start ∧ Traversal.Reaches g.successors start id

namespace Accumulator

variable {a : Accumulator} {index : Nat} {r : Registry} {g : Graph} {id : NodeId}

/-- An instance is one of an accumulator and for an extent, and it holds some nodes and each one
once. -/
structure Gathers (a : Accumulator) (index : Nat) (extent : CollectedFor) (p : NodeId → Prop)
    (c : Collected) : Prop where
  index_eq : c.index = index
  type_eq : c.type = a.type
  extent_eq : c.extent = extent
  nodup : c.members.Nodup
  mem_iff : ∀ id, id ∈ c.members ↔ p id

/-- A member that some root leads to and that lives with the composition. -/
def SharedMember (a : Accumulator) (r : Registry) (g : Graph) (id : NodeId) : Prop :=
  a.Member r g true id ∧ ∃ e ∈ g.roots, e.LeadsTo g id

/-- A member that a root leads to and that does not live with the composition. -/
def OwnMember (a : Accumulator) (r : Registry) (g : Graph) (e : RootEdge) (id : NodeId) : Prop :=
  a.Member r g false id ∧ e.LeadsTo g id

/-- A root leads to the accumulator itself. -/
def AskedBy (index : Nat) (g : Graph) (e : RootEdge) : Prop :=
  ∃ id n, g.node? id = some n ∧ n.kind = .accumulator index ∧ e.LeadsTo g id

/-- One instance for the composition, if it has any member. -/
inductive OfComposition (a : Accumulator) (index : Nat) (r : Registry) (g : Graph) :
    List Collected → Prop where
  | none (empty : ∀ id, ¬ a.SharedMember r g id) : OfComposition a index r g []
  | one {c : Collected} (member : ∃ id, a.SharedMember r g id)
      (gathers : a.Gathers index .composition (a.SharedMember r g) c) :
      OfComposition a index r g [c]

/-- One instance for each root that asks for the accumulator or has any member of its own, in the
order of the roots. -/
inductive OfRoots (a : Accumulator) (index : Nat) (r : Registry) (g : Graph) :
    List RootEdge → List Collected → Prop where
  | nil : OfRoots a index r g [] []
  | pass {e : RootEdge} {es : List RootEdge} {cs : List Collected} (notAsked : ¬ AskedBy index g e)
      (empty : ∀ id, ¬ a.OwnMember r g e id) (more : OfRoots a index r g es cs) :
      OfRoots a index r g (e :: es) cs
  | collect {e : RootEdge} {es : List RootEdge} {c : Collected} {cs : List Collected}
      (concerned : AskedBy index g e ∨ ∃ id, a.OwnMember r g e id)
      (gathers : a.Gathers index (.root e.root.name) (a.OwnMember r g e) c)
      (more : OfRoots a index r g es cs) : OfRoots a index r g (e :: es) (c :: cs)

/-! ## The instance of the composition -/

theorem compositionMembers_eq (a : Accumulator) (r : Registry) (g : Graph) :
    a.compositionMembers r g = a.membersAmong r g true (g.walk g.rootNodes) := by
  refine Eq.trans (congrArg List.eraseDups ?_) (g.eraseDups_walks _ g.rootNodes)
  unfold Graph.rootNodes
  induction g.roots with
  | nil => rfl
  | cons e es ih =>
    rw [List.flatMap_cons, ih, List.filterMap_cons]
    cases e.target <;> rfl

theorem mem_compositionMembers : id ∈ a.compositionMembers r g ↔ a.SharedMember r g id := by
  rw [compositionMembers_eq, mem_membersAmong, Graph.mem_walk_iff, SharedMember, and_comm]
  refine and_congr_right fun ⟨n, node, _⟩ => ?_
  constructor
  · rintro ⟨-, start, mem, reach⟩
    obtain ⟨e, root, target⟩ := Graph.mem_rootNodes.1 mem
    exact ⟨e, root, start, target, reach⟩
  · rintro ⟨e, root, start, target, reach⟩
    have mem := Graph.mem_rootNodes.2 ⟨e, root, target⟩
    exact ⟨(List.getElem?_eq_some_iff.1 node).1, start, mem, reach⟩

theorem compositionMembers_nodup : (a.compositionMembers r g).Nodup := by
  rw [compositionMembers_eq]
  exact (g.walk_nodup _).filter _

/-! ## The instances of the roots -/

/-- On a walk from the answer of a root is what exists and what the root leads to. -/
theorem mem_walk_root {e : RootEdge} {start : NodeId} {n : Node} (target : e.target = .node start)
    (node : g.node? id = some n) : id ∈ g.walk [start] ↔ e.LeadsTo g id := by
  rw [Graph.mem_walk_iff]
  constructor
  · rintro ⟨-, start', mem, reach⟩
    rw [List.mem_singleton] at mem
    exact ⟨start', mem ▸ target, reach⟩
  · rintro ⟨start', target', reach⟩
    have same : start = start' := Target.node.inj (target ▸ target')
    exact ⟨(List.getElem?_eq_some_iff.1 node).1, start, List.mem_singleton_self _, same ▸ reach⟩

theorem isAskedAmong_iff {e : RootEdge} {start : NodeId} (target : e.target = .node start) :
    isAskedAmong g index (g.walk [start]) ↔ AskedBy index g e := by
  rw [isAskedAmong, List.any_eq_true]
  constructor
  · rintro ⟨id, mem, asked⟩
    obtain ⟨n, node, kind⟩ := (Option.any_eq_true _ _).1 asked
    exact ⟨id, n, node, of_decide_eq_true kind, (mem_walk_root target node).1 mem⟩
  · rintro ⟨id, n, node, kind, leads⟩
    refine ⟨id, (mem_walk_root target node).2 leads, ?_⟩
    simp [node, kind]

theorem mem_membersAmong_walk {e : RootEdge} {start : NodeId} (target : e.target = .node start) :
    id ∈ a.membersAmong r g false (g.walk [start]) ↔ a.OwnMember r g e id := by
  rw [mem_membersAmong, OwnMember, and_comm]
  exact and_congr_right fun ⟨n, node, _⟩ => mem_walk_root target node

/-- A root without an instance has nothing to collect. -/
theorem rootInstance_none {e : RootEdge} (h : a.rootInstance index r g e = none) :
    ¬ AskedBy index g e ∧ ∀ id, ¬ a.OwnMember r g e id := by
  unfold rootInstance at h
  split at h
  · next target =>
    have nowhere (id : NodeId) : ¬ e.LeadsTo g id := by
      rintro ⟨start, target', -⟩
      exact nomatch target.symm.trans target'
    exact ⟨fun ⟨id, _, _, _, leads⟩ => nowhere id leads, fun id own => nowhere id own.2⟩
  · next start target =>
    dsimp only at h
    split at h
    · nomatch h
    · next idle =>
      rw [Graph.buildOrder_eq, Bool.or_eq_true, not_or, isAskedAmong_iff target,
        Bool.not_eq_true', Bool.not_eq_false, List.isEmpty_iff] at idle
      refine ⟨idle.1, fun id own => ?_⟩
      exact List.eq_nil_iff_forall_not_mem.1 idle.2 id ((mem_membersAmong_walk target).2 own)

/-- An instance of a root is read off from a walk. -/
theorem walk_of_rootInstance {e : RootEdge} {c : Collected}
    (h : a.rootInstance index r g e = some c) :
    ∃ start, e.target = .node start ∧
      (isAskedAmong g index (g.walk [start]) || !c.members.isEmpty) ∧
      c = ⟨index, a.type, .root e.root.name, a.membersAmong r g false (g.walk [start])⟩ := by
  unfold rootInstance at h
  split at h
  · nomatch h
  · next start target =>
    dsimp only at h
    split at h
    · next concerned =>
      cases h
      exact ⟨start, target, concerned, rfl⟩
    · nomatch h

/-- The instance of a root holds the root's own members. -/
theorem rootInstance_some {e : RootEdge} {c : Collected}
    (h : a.rootInstance index r g e = some c) :
    (AskedBy index g e ∨ ∃ id, a.OwnMember r g e id) ∧
      a.Gathers index (.root e.root.name) (a.OwnMember r g e) c := by
  obtain ⟨start, target, concerned, rfl⟩ := walk_of_rootInstance h
  rw [Bool.or_eq_true, isAskedAmong_iff target, Bool.not_eq_true',
    List.isEmpty_eq_false_iff_exists_mem] at concerned
  refine ⟨concerned.imp_right fun ⟨id, mem⟩ => ⟨id, (mem_membersAmong_walk target).1 mem⟩, ?_⟩
  exact ⟨rfl, rfl, rfl, (g.walk_nodup _).filter _, fun id => mem_membersAmong_walk target⟩

theorem rootInstances_ofRoots (a : Accumulator) (index : Nat) (r : Registry) (g : Graph)
    (es : List RootEdge) : a.OfRoots index r g es (es.filterMap (a.rootInstance index r g)) := by
  induction es with
  | nil => exact .nil
  | cons e es more =>
    rw [List.filterMap_cons]
    split
    · next none =>
      obtain ⟨notAsked, empty⟩ := rootInstance_none none
      exact .pass notAsked empty more
    · next c found =>
      obtain ⟨concerned, gathers⟩ := rootInstance_some found
      exact .collect concerned gathers more

/-! ## All instances -/

theorem instances_ofComposition (a : Accumulator) (index : Nat) (r : Registry) (g : Graph) :
    ∃ shared, a.OfComposition index r g shared ∧
      a.instances index r g = shared ++ g.roots.filterMap (a.rootInstance index r g) := by
  refine ⟨_, ?_, rfl⟩
  split
  · next empty =>
    refine .none fun id member => ?_
    exact List.not_mem_nil (empty ▸ mem_compositionMembers.2 member)
  · next some =>
    obtain ⟨id, mem⟩ := List.exists_mem_of_ne_nil _ some
    exact .one ⟨id, mem_compositionMembers.1 mem⟩
      ⟨rfl, rfl, rfl, compositionMembers_nodup, fun id => mem_compositionMembers⟩

end Accumulator

/-- What is collected is, for each accumulator in turn, the instance of the composition and then
those of the roots: with what the roots lead to by edges of any kind, and no more. -/
theorem Graph.collect_membership (g : Graph) (accumulators : List Accumulator) (r : Registry) :
    ∃ parts, g.collect accumulators r = parts.flatten ∧
      List.Forall₂ (fun (a, index) part => ∃ shared own, part = shared ++ own ∧
        a.OfComposition index r g shared ∧ a.OfRoots index r g g.roots own)
        accumulators.zipIdx parts := by
  refine ⟨_, List.flatMap_def .., ?_⟩
  rw [List.forall₂_map_right_iff, List.forall₂_same]
  rintro ⟨a, index⟩ -
  obtain ⟨shared, ofComposition, instances⟩ := a.instances_ofComposition index r g
  exact ⟨shared, _, instances, ofComposition, a.rootInstances_ofRoots index r g g.roots⟩

end Wiring
