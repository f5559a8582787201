import Mathlib.Data.List.Induction
import Wiring.Proofs.Resolver.Execution
import Wiring.Proofs.Resolver.Lineage

/-!
# Resolver — History

A graph is built by one run for each root, each in a context of its own. Between the roots the
records of the earlier runs still hold, so a finished graph has a history: the births of all its
nodes, from which each of them was closed, and what each root was answered with.
-/

namespace Wiring

/-- Where the resolution of a root begins. -/
def Session.enterRoot (s : Session) (root : Root) (index : Nat) : Session :=
  { s with
    rootName := root.name
    blocks := s.blocks + 1
    context := .atRoot index (s.blocks + 1) }

/-- Where it ends. -/
def Session.leaveRoot (s : Session) (edge : RootEdge) : Session :=
  { s with graph := s.graph.addRoot edge }

namespace Resolver

open Session

variable {r : Resolver}

/-- What a root, at its position, was answered with. -/
structure RootAnswer (r : Resolver) (births : List Birth) (g : Graph) (root : Root × Nat)
    (edge : RootEdge) : Prop where
  asked : edge.root = root.1
  isIn : edge.target.IsIn g
  answer : ∃ block, r.Answer births (.atRoot root.2 block)
    (.request root.1.contract (.ofRoot root.1)) edge.target

/-- How the graph came about when some roots are resolved. -/
structure History (r : Resolver) (roots : List (Root × Nat)) (births : List Birth)
    (s : Session) : Prop where
  records : Records births s
  closed : List.Forall₂ (r.Closed births) births s.graph.nodes
  lineage : ∀ id b, births[id]? = some b → ∃ root block targets,
    Lineage s.graph births (.atRoot root block) 0 targets id b
  edges : List.Forall₂ (RootAnswer r births s.graph) roots s.graph.roots

/-- No block of the earlier nodes is the block of a new root. -/
theorem Records.enterRoot {births : List Birth} {s : Session} (h : Records births s) (root : Root)
    (index : Nat) : Records births (s.enterRoot root index) where
  faces := h.faces
  ids := h.ids
  whole := h.whole
  chain := nofun
  blocks := ⟨Nat.le_refl _, fun b born => Nat.le_succ_of_le (h.blocks.2 b born)⟩
  root := by
    intro b born block
    have older := h.blocks.2 b born
    have fresh : b.context.block = s.blocks + 1 := block
    omega

namespace History

variable {roots : List (Root × Nat)} {births : List Birth} {s : Session}

theorem begin (found : List Diagnostic) : History r [] [] (.begin found) where
  records := by
    refine ⟨rfl, rfl, ?_, ?_, ⟨Nat.le_refl _, ?_⟩, ?_⟩ <;>
      simp [Session.begin, Graph.empty, Graph.Whole, Context.atRoot]
  closed := .nil
  lineage := by simp
  edges := .nil

/-- The run of one more root. -/
theorem run {root : Root} {index : Nat} {target : Target} {s' : Session} {births' : List Birth}
    (h : History r roots births s)
    (resolved : r.Run [.request root.contract (.ofRoot root)] (s.enterRoot root index)
      [target] s' births') :
    History r (roots ++ [(root, index)]) (births ++ births') (s'.leaveRoot ⟨root, target⟩) := by
  have entered := h.records.enterRoot root index
  obtain ⟨after, there⟩ := resolved.records entered
  have recorded := resolved.recorded entered
  obtain ⟨new, nodes, closed, answers⟩ := recorded.closes
  have more := resolved.extends
  have later : births <+: births ++ births' := List.prefix_append ..
  refine ⟨⟨after.faces, after.ids, after.whole, after.chain, after.blocks, after.root⟩, ?_, ?_, ?_⟩
  · show List.Forall₂ _ _ s'.graph.nodes
    rw [nodes]
    exact List.rel_append (h.closed.imp fun _ _ c => c.mono later) closed
  · intro id b born
    rcases Nat.lt_or_ge id births.length with old | new
    · rw [List.getElem?_append_left old] at born
      obtain ⟨root, block, targets, line⟩ := h.lineage id b born
      exact ⟨root, block, targets, line.mono later (fun asked => asked) fun m _ lt =>
        entered.successors_eq more (Nat.lt_trans lt old)⟩
    · -- No earlier node leads to it, since those were closed before.
      have quiet (m : Nat) (_ : 0 ≤ m) (lt : m < births.length) : id ∉ s'.graph.successors m := by
        intro leads
        rw [entered.successors_eq more lt] at leads
        exact absurd (entered.successors_lt leads) (Nat.not_lt_of_le new)
      have line := (recorded.lineage new born).of_rest
        (Nat.zero_le _) (fun asked => asked) quiet
      exact ⟨index, s.blocks + 1, [target],
        line.mono (List.prefix_refl _) (fun asked => asked) fun _ _ _ => rfl⟩
  · show List.Forall₂ _ _ (s'.graph.roots ++ [⟨root, target⟩])
    rw [more.roots]
    refine List.rel_append (h.edges.imp fun _ _ old => ?_) (.cons ?_ .nil)
    · obtain ⟨block, answer⟩ := old.answer
      exact ⟨old.asked, old.isIn.mono more.nodes more.unresolved, block, answer.mono later⟩
    · cases answers with
      | cons answer => exact ⟨rfl, there target List.mem_cons_self, _, answer⟩

end History

variable (found : List Diagnostic)

theorem resolveRoots_concat (s : Session) (roots : List Root) (root : Root) :
    r.resolveRoots s (roots ++ [root]) =
      r.resolveRoot (r.resolveRoots s roots) root roots.length := by
  simp [resolveRoots, List.zipIdx_append]

/-- The last root is resolved by a run that begins where the others leave off. -/
theorem resolveRoots_run (roots : List Root) (root : Root) :
    ∃ target s' births,
      r.Run [.request root.contract (.ofRoot root)]
        ((r.resolveRoots (.begin found) roots).enterRoot root roots.length) [target] s' births ∧
      r.resolveRoots (.begin found) (roots ++ [root]) = s'.leaveRoot ⟨root, target⟩ := by
  obtain ⟨births, run⟩ := resolve_run (r := r) (Nat.zero_add r.options.maxDepth)
    root.contract (.ofRoot root)
    ((r.resolveRoots (.begin found) roots).enterRoot root roots.length) rfl
  exact ⟨_, _, births, run, resolveRoots_concat ..⟩

/-- What the run of one more root keeps holds of all roots. -/
theorem resolveRoots_induction {motive : List Root → List Birth → Prop} (nil : motive [] [])
    (concat : ∀ roots births root target s' births',
      History r roots.zipIdx births (r.resolveRoots (.begin found) roots) → motive roots births →
      r.Run [.request root.contract (.ofRoot root)]
        ((r.resolveRoots (.begin found) roots).enterRoot root roots.length) [target] s' births' →
      r.resolveRoots (.begin found) (roots ++ [root]) = s'.leaveRoot ⟨root, target⟩ →
      motive (roots ++ [root]) (births ++ births'))
    (roots : List Root) :
    ∃ births, History r roots.zipIdx births (r.resolveRoots (.begin found) roots) ∧
      motive roots births := by
  induction roots using List.reverseRecOn with
  | nil => exact ⟨[], .begin found, nil⟩
  | append_singleton roots root ih =>
    obtain ⟨births, h, holds⟩ := ih
    obtain ⟨target, s', births', run, whole⟩ := resolveRoots_run (r := r) found roots root
    refine ⟨births ++ births', ?_, concat roots births root target s' births' h holds run whole⟩
    rw [whole, List.zipIdx_append, List.zipIdx_singleton, Nat.zero_add]
    exact h.run run

/-- Every graph that is built has a history. -/
theorem build_history (found : List Diagnostic) (roots : List Root) :
    ∃ births s, History r roots.zipIdx births s ∧ (r.build found roots).1 = s.graph := by
  obtain ⟨births, h, -⟩ := resolveRoots_induction (r := r) found (motive := fun _ _ => True)
    trivial (fun _ _ _ _ _ _ _ _ _ _ => trivial) roots
  exact ⟨births, _, h, rfl⟩

end Resolver

end Wiring
