import Wiring.Proofs.Graph.Capture

/-!
# Graph — Lifetimes

The check of lifetimes looks from each shared node only as far as the next shared one. Yet it speaks
of whole paths: where it reports nothing, the width never shrinks from one shared node on a path to
the next, and so it does not from the first to the last.
-/

namespace Wiring

theorem Lifetime.captures_eq_false_iff {lifetime dependency : Lifetime}
    (shared : lifetime.isShared) (shared' : dependency.isShared) :
    lifetime.captures dependency = false ↔ lifetime.width ≤ dependency.width := by
  simp [captures, shared, shared']

namespace Graph

variable {g : Graph} {options : Options} {a b id target : NodeId} {consumer n : Node}

/-- A path along edges from one node to another, by way of others that are no factories. -/
structure DirectPath (g : Graph) (a : NodeId) (inner : List NodeId) (b : NodeId) : Prop where
  chain : (a :: inner ++ [b]).IsChain fun id target => target ∈ g.successors id
  direct : ∀ m ∈ inner, ∀ n, g.node? m = some n → n.kind ≠ .func

theorem directPath_nil : g.DirectPath a [] b ↔ b ∈ g.successors a := by
  constructor
  · intro h
    simpa using h.chain
  · intro leads
    exact ⟨by simpa using leads, by simp⟩

theorem directPath_cons {m : NodeId} {inner : List NodeId} :
    g.DirectPath a (m :: inner) b ↔
      m ∈ g.successors a ∧ (∀ n, g.node? m = some n → n.kind ≠ .func) ∧
        g.DirectPath m inner b := by
  constructor
  · intro h
    have chain := h.chain
    simp only [List.cons_append, List.isChain_cons_cons] at chain
    have direct := List.forall_mem_cons.1 h.direct
    exact ⟨chain.1, direct.1, chain.2, direct.2⟩
  · rintro ⟨leads, direct, rest⟩
    refine ⟨?_, List.forall_mem_cons.2 ⟨direct, rest.direct⟩⟩
    simpa only [List.cons_append, List.isChain_cons_cons] using ⟨leads, rest.chain⟩

theorem DirectPath.start_lt {inner : List NodeId} (h : g.DirectPath a inner b) :
    a < g.nodes.length := by
  cases inner with
  | nil => exact lt_of_successors (directPath_nil.1 h)
  | cons m inner => exact lt_of_successors (directPath_cons.1 h).1

/-! ## What a node holds -/

theorem mem_heldSuccessors_iff : target ∈ g.heldSuccessors id ↔
    target ∈ g.successors id ∧
      ∀ n, g.node? id = some n → n.lifetime = .transient ∧ n.kind ≠ .func := by
  unfold heldSuccessors successors
  cases node : g.node? id with
  | none => simp
  | some n =>
    dsimp only
    split
    · next stops =>
      refine iff_of_false List.not_mem_nil fun ⟨_, goesOn⟩ => ?_
      obtain ⟨transient, direct⟩ := goesOn n rfl
      simp [Lifetime.isShared, transient, direct] at stops
    · next goesOn =>
      simp only [Lifetime.isShared, ne_eq, Bool.or_eq_true, decide_eq_true_eq, not_or,
        Decidable.not_not] at goesOn
      refine (and_iff_left fun n' same => ?_).symm
      obtain rfl := Option.some.inj same
      exact goesOn

/-- A direct path by way of nodes that are not shared: what is at its end is held as long as what
is at its start. -/
structure HeldPath (g : Graph) (a : NodeId) (inner : List NodeId) (b : NodeId) : Prop
    extends g.DirectPath a inner b where
  transient : ∀ m ∈ inner, ∀ n, g.node? m = some n → n.lifetime = .transient

theorem heldPath_nil : g.HeldPath a [] b ↔ b ∈ g.successors a :=
  ⟨fun h => directPath_nil.1 h.toDirectPath, fun leads => ⟨directPath_nil.2 leads, by simp⟩⟩

theorem heldPath_cons {m : NodeId} {inner : List NodeId} :
    g.HeldPath a (m :: inner) b ↔
      m ∈ g.successors a ∧
        (∀ n, g.node? m = some n → n.lifetime = .transient ∧ n.kind ≠ .func) ∧
        g.HeldPath m inner b := by
  constructor
  · intro h
    obtain ⟨leads, direct, rest⟩ := directPath_cons.1 h.toDirectPath
    have transient := List.forall_mem_cons.1 h.transient
    exact ⟨leads, fun n node => ⟨transient.1 n node, direct n node⟩, rest, transient.2⟩
  · rintro ⟨leads, own, rest⟩
    refine ⟨directPath_cons.2 ⟨leads, fun n node => (own n node).2, rest.toDirectPath⟩, ?_⟩
    exact List.forall_mem_cons.2 ⟨fun n node => (own n node).1, rest.transient⟩

/-- The search is started from what a node leads to, so its paths are those from the node itself
but for the first edge. -/
theorem exists_heldPath_iff : (∃ inner, g.HeldPath a inner b) ↔
    ∃ start ∈ g.successors a, Traversal.Reaches g.heldSuccessors start b := by
  constructor
  · rintro ⟨inner, path⟩
    induction inner generalizing a with
    | nil => exact ⟨b, heldPath_nil.1 path, .refl⟩
    | cons m inner ih =>
      obtain ⟨leads, own, rest⟩ := heldPath_cons.1 path
      obtain ⟨start, leads', reach⟩ := ih rest
      exact ⟨m, leads, .head (mem_heldSuccessors_iff.2 ⟨leads', own⟩) reach⟩
  · rintro ⟨start, leads, reach⟩
    induction reach using Relation.ReflTransGen.head_induction_on generalizing a with
    | refl => exact ⟨[], heldPath_nil.2 leads⟩
    | @head m m' next _ ih =>
      obtain ⟨leads', own⟩ := mem_heldSuccessors_iff.1 next
      obtain ⟨inner, path⟩ := ih leads'
      exact ⟨m :: inner, heldPath_cons.2 ⟨leads, own, path⟩⟩

/-- A node holds what is at the end of a path by way of nodes that are neither shared nor
factories. -/
theorem mem_held_iff (node : g.node? a = some consumer) :
    id ∈ g.held consumer ↔ id < g.nodes.length ∧ ∃ inner, g.HeldPath a inner id := by
  have within : ∀ v, ∀ w ∈ g.heldSuccessors v, v < g.nodes.length :=
    fun _ _ leads => lt_of_successors (mem_heldSuccessors_iff.1 leads).1
  have targets : g.successors a = consumer.targets := by rw [successors, node]
  rw [held, Traversal.mem_trace_iff within, exists_heldPath_iff, targets]

theorem exists_directPath_of_held (node : g.node? a = some consumer) (held : id ∈ g.held consumer) :
    ∃ inner, g.DirectPath a inner id := by
  obtain ⟨-, inner, path⟩ := (mem_held_iff node).1 held
  exact ⟨inner, path.toDirectPath⟩

/-! ## Paths without a conflict -/

/-- Where the search from a shared node goes on: at the node itself, and at what it holds that is
neither shared nor a factory. -/
def GoesOnAt (g : Graph) (consumer : Node) (id : NodeId) : Prop :=
  g.node? id = some consumer ∨ id ∈ g.held consumer ∧
    ∃ n, g.node? id = some n ∧ n.lifetime.isShared = false ∧ n.kind ≠ .func

theorem GoesOnAt.held (h : g.GoesOnAt consumer id) (leads : target ∈ g.successors id)
    (lt : target < g.nodes.length) : target ∈ g.held consumer := by
  rcases h with node | ⟨held, n, node, unshared, direct⟩
  · rw [successors, node] at leads
    exact held_of_target leads lt
  · exact held_of_held held node unshared direct leads lt

theorem NoConflict.width_le_of_held (clean : g.NoConflict options) (mem : consumer ∈ g.nodes)
    (shared : consumer.lifetime.isShared) (held : id ∈ g.held consumer)
    (node : g.node? id = some n) (shared' : n.lifetime.isShared) :
    consumer.lifetime.width ≤ n.lifetime.width :=
  (Lifetime.captures_eq_false_iff shared shared').1
    (clean.not_captures mem shared held node shared')

/-- Without a conflict, a path from a shared node leads to none that is shared less widely. -/
theorem NoConflict.width_le (clean : g.NoConflict options) {inner : List NodeId}
    (mem : consumer ∈ g.nodes) (shared : consumer.lifetime.isShared)
    (goesOn : g.GoesOnAt consumer id) (path : g.DirectPath id inner b)
    (node : g.node? b = some n) (shared' : n.lifetime.isShared) :
    consumer.lifetime.width ≤ n.lifetime.width := by
  -- The consumer changes whenever the path meets another shared node.
  induction inner generalizing consumer id with
  | nil =>
    have lt := (List.getElem?_eq_some_iff.1 node).1
    have held := goesOn.held (directPath_nil.1 path) lt
    exact clean.width_le_of_held mem shared held node shared'
  | cons m inner ih =>
    obtain ⟨leads, direct, rest⟩ := directPath_cons.1 path
    have lt := rest.start_lt
    have node' : g.node? m = some g.nodes[m] := List.getElem?_eq_getElem lt
    have held := goesOn.held leads lt
    by_cases meets : g.nodes[m].lifetime.isShared
    · have first := clean.width_le_of_held mem shared held node' meets
      have later := ih (List.getElem_mem lt) meets (.inl node') rest
      omega
    · have unshared : g.nodes[m].lifetime.isShared = false := by simpa using meets
      exact ih mem shared (.inr ⟨held, _, node', unshared, direct _ node'⟩) rest

/-- Nothing is reported just when no shared node captures another to which a path leads that passes
no factory, whatever else is on the way. -/
theorem validateLifetimes_eq_nil_iff (g : Graph) (options : Options) :
    g.validateLifetimes options = [] ↔
      ∀ a b inner consumer dependency, g.node? a = some consumer → g.node? b = some dependency →
        consumer.lifetime.isShared → dependency.lifetime.isShared → g.DirectPath a inner b →
        consumer.lifetime.captures dependency.lifetime = false := by
  constructor
  · intro none a b inner consumer dependency node node' shared shared' path
    have clean : g.NoConflict options := by simp [NoConflict, none]
    exact (Lifetime.captures_eq_false_iff shared shared').2
      (clean.width_le (List.mem_of_getElem? node) shared (.inl node) path node' shared')
  · intro paths
    simp only [validateLifetimes, List.flatMap_eq_nil_iff, List.map_eq_nil_iff]
    intro consumer mem
    obtain ⟨a, node⟩ := List.mem_iff_getElem?.1 mem
    unfold capturedBy
    split
    · next shared =>
      simp only [List.filter_eq_nil_iff, List.mem_filterMap]
      rintro dependency ⟨b, found, node'⟩
      obtain ⟨held, shared'⟩ := mem_heldShared.1 found
      obtain ⟨inner, path⟩ := exists_directPath_of_held node held
      simp only [isSharedNode, node'] at shared'
      simp [paths a b inner consumer dependency node node' shared shared' path]
    · rfl

end Graph

end Wiring
