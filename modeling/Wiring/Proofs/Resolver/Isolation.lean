import Mathlib
import Wiring.Proofs.Graph.Capture
import Wiring.Proofs.Resolver.Chain

/-!
# Resolver — Isolation

Instances of one resolution do not leak into another. Each node belongs to the root for which it was
made, and an edge only leads to another root's node when that one lives with the composition. What
such a node holds lives with the composition too, unless a conflict is reported; so on the way down
from a root no instance of another resolution is met, up to the factories, which begin anew.
-/

namespace Wiring.Resolver

open Session

variable {r : Resolver} {roots : List (Root × Nat)} {births : List Birth} {s : Session}

/-! ## Roots of nodes -/

/-- A node was made for a root, or it lives with the composition. -/
def BelongsTo (births : List Birth) (g : Graph) (root : Nat) (id : NodeId) : Prop :=
  ∀ b n, births[id]? = some b → g.node? id = some n →
    b.context.root = root ∨ n.lifetime.livesWithComposition

/-- Who shares an instance has the root or the block in common, or else the composition. -/
theorem sharing_common {c c' : Context} {lifetime lifetime' : Lifetime} {scope : Sharing}
    (h : c.sharingOf lifetime = some scope) (h' : c'.sharingOf lifetime' = some scope) :
    c'.root = c.root ∨ c'.block = c.block ∨ lifetime'.livesWithComposition := by
  have same := h'.trans h.symm
  cases lifetime' with
  | transient => nomatch h'
  | singleton | perScope => exact .inr (.inr rfl)
  | perResolve =>
    cases lifetime with
    | perResolve => exact .inl (by simpa [Context.sharingOf] using same)
    | _ => nomatch same
  | perBlock =>
    cases lifetime with
    | perBlock => exact .inr (.inl (by simpa [Context.sharingOf] using same))
    | _ => nomatch same

theorem History.shared_belongs (h : History r roots births s) {past : List Birth} {s' : Session}
    (records : Records past s') (earlier : past <+: births) {contract : TypeExpr} {tag : TagKey}
    {source : Source} {lifetime : Lifetime} {id : NodeId}
    (share : s'.sharedNode? contract tag source lifetime = some id) :
    BelongsTo births s.graph s'.context.root id := by
  intro b n born node
  obtain ⟨scope, n', sharing, node', -, -, sharing', -⟩ := sharedNode?_spec share
  obtain ⟨n'', node'', face⟩ := h.recalled records earlier node'
  cases node.symm.trans node''
  have lt : id < past.length := records.length_eq ▸ (List.getElem?_eq_some_iff.1 node').1
  have old : past[id]? = some b := by
    have at_id : past[id]? = some past[id] := List.getElem?_eq_getElem lt
    rw [at_id]
    exact (getElem?_mono earlier at_id).symm.trans born
  have sharing'' : b.context.sharingOf n.lifetime = some scope := by
    rw [← h.scope_eq born node]
    exact (congrArg Node.scope face).trans sharing'
  rcases sharing_common sharing sharing'' with root | block | long
  · exact .inl root
  · exact .inl (records.root b (List.mem_of_getElem? old) block)
  · exact .inr long

/-- What a request leads to belongs to the root that it was made for. -/
theorem History.answer_belongs (h : History r roots births s) {c : Context}
    (chain : ∀ link ∈ c.chain, BelongsTo births s.graph c.root link.node) {ask : Ask}
    {target : Target} (answer : r.Answer births c ask target) {id : NodeId}
    (eq : target = .node id) : BelongsTo births s.graph c.root id := by
  cases answer with
  | settled context records earlier settled =>
    subst context eq
    rcases settled.finds with ⟨link, held, rfl⟩ | ⟨_, _, _, _, share⟩
    · exact chain link held
    · rw [← settled.extends.context]
      exact h.shared_belongs (records.settle settled) earlier share
  | opened context opened birth =>
    cases eq
    intro b n born node
    cases born.symm.trans birth
    exact .inl (congrArg Context.root context)

/-- All makers of a node were made for its root. -/
theorem History.root_of_makers (h : History r roots births s) {id m : Nat} {b b' : Birth}
    (born : births[id]? = some b) (mem : m ∈ s.graph.makers id) (born' : births[m]? = some b') :
    b'.context.root = b.context.root := by
  induction id using Nat.strong_induction_on generalizing b with
  | _ id ih =>
    rcases h.descent born with ⟨_, _, _, none⟩ | ⟨m', maker, _, isMaker, lt, context, eq⟩
    · simp [none] at mem
    · rw [eq] at mem
      rw [context]
      rcases List.mem_cons.1 mem with rfl | above
      · cases isMaker.symm.trans born'
        rfl
      · exact ih m' lt isMaker above

theorem History.chain_belongs (h : History r roots births s) {id m : Nat} {b : Birth}
    (born : births[id]? = some b) (mem : m ∈ s.graph.chainAt id) :
    BelongsTo births s.graph b.context.root m := by
  intro b' n born' node
  rcases List.mem_cons.1 (List.mem_of_mem_filter mem) with rfl | above
  · cases born.symm.trans born'
    exact .inl rfl
  · exact .inl (h.root_of_makers born above born')

/-- An edge leads to a node of the same root, or to one that lives with the composition. -/
theorem History.edge_belongs (h : History r roots births s) {id target : Nat} {b : Birth}
    (born : births[id]? = some b) (leads : target ∈ s.graph.successors id) :
    BelongsTo births s.graph b.context.root target := by
  obtain ⟨n, d, node, edge, eq⟩ := Graph.mem_successors.1 leads
  cases rel_of_getElem? h.closed born node with
  | @intro ask s' o inside opened answers =>
    obtain ⟨block, context⟩ := opened.inner_context
    obtain ⟨part, -, -, answer⟩ := mem_dependenciesOf answers edge
    have root : o.inner.context.root = s'.context.root := by rw [context]; rfl
    show BelongsTo births s.graph s'.context.root target
    rw [← root]
    refine h.answer_belongs (fun link mem => ?_) answer eq
    rw [context] at mem
    rw [root]
    exact h.chain_belongs born (h.mem_of_link born mem)

theorem History.root_belongs (h : History r roots births s) {i : Nat} {e : RootEdge} {id : NodeId}
    (edge : s.graph.roots[i]? = some e) (eq : e.target = .node id) :
    id < s.graph.nodes.length ∧
      ∃ root, roots[i]? = some root ∧ BelongsTo births s.graph root.2 id := by
  obtain ⟨root, at_i, -, isIn, block, answer⟩ := h.root_answer edge
  have belongs := h.answer_belongs (fun link mem => absurd mem List.not_mem_nil) answer eq
  rw [eq] at isIn
  exact ⟨isIn, root, at_i, belongs⟩

/-! ## Paths -/

/-- How a node stands to the root from which a path came down to it. -/
inductive Isolated (births : List Birth) (g : Graph) (root : Nat) (id : NodeId) : Prop where
  | own {b} (born : births[id]? = some b) (same : b.context.root = root)
  | long {n} (node : g.node? id = some n) (long : n.lifetime.livesWithComposition)
  | held {n consumer} (node : g.node? id = some n) (unshared : n.lifetime.isShared = false)
      (mem : consumer ∈ g.nodes) (long : consumer.lifetime.livesWithComposition)
      (held : id ∈ g.held consumer)

variable {options : Options} {root : Nat} {id target : Nat} {n consumer : Node}

theorem History.isolated_of_belongs (h : History r roots births s)
    (belongs : BelongsTo births s.graph root id) (lt : id < s.graph.nodes.length) :
    Isolated births s.graph root id := by
  have node : s.graph.node? id = some s.graph.nodes[id] := List.getElem?_eq_getElem lt
  obtain ⟨b, born, -⟩ := h.birth node
  rcases belongs b _ born node with same | long
  · exact .own born same
  · exact .long node long

theorem isolated_of_held {g : Graph} (clean : g.NoConflict options) (mem : consumer ∈ g.nodes)
    (long : consumer.lifetime.livesWithComposition) (held : id ∈ g.held consumer)
    (node : g.node? id = some n) : Isolated births g root id := by
  by_cases shared : n.lifetime.isShared
  · exact .long node (clean.livesWithComposition mem long held node shared)
  · exact .held node (by simpa using shared) mem long held

/-- One edge further down, unless it is the one of a factory. -/
theorem History.isolated_step (h : History r roots births s) (clean : s.graph.NoConflict options)
    (isolated : Isolated births s.graph root id)
    (direct : ∀ n, s.graph.node? id = some n → n.kind ≠ .func)
    (leads : target ∈ s.graph.successors id) : Isolated births s.graph root target := by
  have lt := h.records.whole.successors_lt leads
  have node : s.graph.node? target = some s.graph.nodes[target] := List.getElem?_eq_getElem lt
  cases isolated with
  | own born same => exact h.isolated_of_belongs (same ▸ h.edge_belongs born leads) lt
  | @long n above long =>
    have mem := List.mem_of_getElem? above
    rw [Graph.successors, above] at leads
    exact isolated_of_held clean mem long (Graph.held_of_target leads lt) node
  | held above unshared mem long held =>
    have below := Graph.held_of_held held above unshared (direct _ above) leads lt
    exact isolated_of_held clean mem long below node

theorem History.isolated_path (h : History r roots births s) (clean : s.graph.NoConflict options)
    {path : List Nat} (chain : path.IsChain fun id target => target ∈ s.graph.successors id)
    (direct : ∀ id ∈ path.dropLast, ∀ n, s.graph.node? id = some n → n.kind ≠ .func)
    (start : ∀ id, path.head? = some id → Isolated births s.graph root id) :
    ∀ id ∈ path, Isolated births s.graph root id := by
  induction chain with
  | nil => simp
  | singleton => simpa using start
  | @cons_cons id target path leads _ ih =>
    have first := start id rfl
    have next := h.isolated_step clean first (direct id List.mem_cons_self) leads
    intro m mem
    rcases List.mem_cons.1 mem with rfl | later
    · exact first
    · refine ih (fun id held => direct id (List.mem_cons_of_mem _ held)) ?_ m later
      intro id head
      exact Option.some.inj head ▸ next

/-- Where no lifetime conflict is reported, a path from a root that passes no factory meets only
instances of its own resolution, among those that are shared within one. -/
theorem build_isolates (r : Resolver) (found : List Diagnostic) (roots : List Root)
    (options : Options) :
    let g := (r.build found roots).1
    (∀ d ∈ g.validateLifetimes options, d.kind ≠ .lifetimeConflict) →
    ∀ (i : Nat) e start (path : List NodeId), g.roots[i]? = some e → e.target = .node start →
      path.head? = some start → (path.IsChain fun id target => target ∈ g.successors id) →
      (∀ id ∈ path.dropLast, ∀ n, g.node? id = some n → n.kind ≠ .func) →
      ∀ id ∈ path, ∀ n, g.node? id = some n → n.lifetime = .perResolve →
        n.scope = some (.resolve i) := by
  obtain ⟨births, s, h, eq⟩ := build_history (r := r) found roots
  rw [eq]
  dsimp only
  intro clean i e start path edge target head chain direct id mem n node lifetime
  obtain ⟨lt, root, at_i, belongs⟩ := h.root_belongs edge target
  have index : root.2 = i := by
    rw [List.getElem?_zipIdx] at at_i
    obtain ⟨_, -, rfl⟩ := Option.map_eq_some_iff.1 at_i
    exact Nat.zero_add i
  have first := h.isolated_of_belongs (index ▸ belongs) lt
  have isolated := h.isolated_path clean chain direct
    (fun id head' => Option.some.inj (head.symm.trans head') ▸ first) id mem
  -- The last two cases are of nodes with another lifetime.
  cases isolated with
  | own born same => rw [h.scope_eq born node, lifetime, Context.sharingOf, same]
  | long node' long =>
    cases node.symm.trans node'
    rw [lifetime] at long
    nomatch long
  | held node' unshared =>
    cases node.symm.trans node'
    rw [lifetime] at unshared
    nomatch unshared

/-! ## Handlers

Two roots ask for a handler. Each gets one with a session of its own, but with the same cache.
-/

def session : TypeExpr := .named "ISession" []

def cache : TypeExpr := .named "ICache" []

def handler : TypeExpr := .named "IHandler" []

def handlers : Resolver where
  registry := ((Registry.empty .empty .structural).registerAll
    [{ Binding.plain session (.factory "session" []) with lifetime := .perResolve },
      { Binding.plain cache (.factory "cache" []) with lifetime := .singleton },
      .plain handler (.factory "handler"
        [.parameter "session" session, .parameter "cache" cache])]).1
  options := { Options.standard with maxDepth := 2 }
  accumulators := []
  autoBinds := false
  filter := none

abbrev handlerGraph : Graph :=
  (handlers.build [] [.untagged "first" handler, .untagged "second" handler]).1

theorem handlerGraph_facts :
    handlerGraph.roots[1]? = some ⟨.untagged "second" handler, .node 3⟩ ∧
      handlerGraph.successors 3 = [4, 2] ∧
      (handlerGraph.node? 3).map (·.kind) = some (.factory "handler") ∧
      (handlerGraph.node? 4).map (·.lifetime) = some .perResolve ∧
      handlerGraph.validateLifetimes .standard = [] := by cbv

theorem build_isolates_handlers :
    (handlerGraph.node? 4).map (·.scope) = some (some (.resolve 1)) := by
  obtain ⟨edge, successors, kind, lifetime, clean⟩ := handlerGraph_facts
  obtain ⟨n, node, lifetime⟩ := Option.map_eq_some_iff.1 lifetime
  have leads : 4 ∈ handlerGraph.successors 3 := by
    rw [successors]
    exact List.mem_cons_self
  have direct (id : NodeId) (mem : id ∈ [3, 4].dropLast) (m : Node)
      (node : handlerGraph.node? id = some m) : m.kind ≠ .func := by
    obtain rfl : id = 3 := List.mem_singleton.1 mem
    rw [node, Option.map_some, Option.some.injEq] at kind
    rw [kind]
    nofun
  have scope := build_isolates handlers [] _ .standard (by simp [clean]) 1 _ 3
    [3, 4] edge rfl rfl (.cons_cons leads (.singleton 4)) direct 4 (.tail _ (.head _))
    n node lifetime
  rw [node, Option.map_some, scope]

end Wiring.Resolver
