import Wiring.Proofs.Graph.PostOrder
import Wiring.Proofs.Resolver.Membership
import Wiring.Proofs.Resolver.Validity

/-!
# Resolver — MemberOrder

In which order an instance of an accumulator holds its members: as a walk passes them that starts
at its root, or for the composition at all roots in turn. The walk goes along all edges, so a member
that needs another one at once may come before it, when the need goes through a node that leads back
to it by an edge whose target is built later.
-/

namespace Wiring

namespace Graph

open Traversal

/-- The starts of the walk that an instance is read off from. -/
def WalksFor (g : Graph) : CollectedFor → List NodeId → Prop
  | .composition, starts => starts = g.rootNodes
  | .root name, starts => ∃ e ∈ g.roots, ∃ start, e.root.name = name ∧ e.target = .node start ∧
      starts = [start]

variable {g : Graph} {accumulators : List Accumulator} {r : Registry} {c : Collected}

theorem members_of_collect (mem : c ∈ g.collect accumulators r) :
    ∃ starts, g.WalksFor c.extent starts ∧ ∃ keep, c.members = (g.walk starts).filter keep := by
  obtain ⟨⟨a, index⟩, -, mem⟩ := List.mem_flatMap.1 mem
  rcases List.mem_append.1 mem with shared | own
  · split at shared
    · nomatch shared
    · rw [List.mem_singleton.1 shared]
      exact ⟨_, rfl, _, a.compositionMembers_eq r g⟩
  · obtain ⟨e, root, found⟩ := List.mem_filterMap.1 own
    obtain ⟨start, target, -, rfl⟩ := Accumulator.walk_of_rootInstance found
    exact ⟨_, ⟨e, root, start, rfl, target, rfl⟩, _, rfl⟩

theorem WalksFor.lt {extent : CollectedFor} {starts : List NodeId}
    (h : g.WalksFor extent starts) (rooted : ∀ e ∈ g.roots, e.target.IsIn g) :
    ∀ start ∈ starts, start < g.nodes.length := by
  have answer_lt {e : RootEdge} {start : NodeId} (root : e ∈ g.roots)
      (target : e.target = .node start) : start < g.nodes.length := by
    have isIn := rooted e root
    rw [target] at isIn
    exact isIn
  intro start mem
  cases extent with
  | composition =>
    rw [h] at mem
    obtain ⟨e, root, target⟩ := mem_rootNodes.1 mem
    exact answer_lt root target
  | root =>
    obtain ⟨e, root, start', -, target, rfl⟩ := h
    exact answer_lt root (List.mem_singleton.1 mem ▸ target)

end Graph

namespace Resolved

open Traversal

/-- Without errors all edges lead to something, and none that must be built at once is at fault. -/
theorem whole_of_isValid {reader : PatternReader} {registry : Registry} {options : Options}
    {roots : List Root} {accumulators : List Accumulator}
    (valid : (ofRoots reader registry options roots accumulators .standard).isValid) :
    let g := (ofRoots reader registry options roots accumulators .standard).graph
    g.Whole ∧ (∀ e ∈ g.roots, e.target.IsIn g) ∧ g.eagerTrace.faults = [] := by
  obtain ⟨acyclic, -, same⟩ := checked_of_isValid valid
  obtain ⟨whole, rooted, -⟩ := Resolver.build_whole
    (Resolver.ofOptions reader registry options accumulators).1
    (Resolver.ofOptions reader registry options accumulators).2 roots
  rw [same]
  exact ⟨whole, rooted, Graph.faults_of_closedCycles whole acyclic⟩

/-- Without errors an instance holds a member before another just when a walk has passed it first.
What a member needs at once comes before it, unless the need goes through a node that leads back to
the member, though not by edges that must be built at once. -/
theorem valid_members_ordered (reader : PatternReader) (registry : Registry) (options : Options)
    (roots : List Root) (accumulators : List Accumulator)
    (valid : (ofRoots reader registry options roots accumulators .standard).isValid) :
    let resolved := ofRoots reader registry options roots accumulators .standard
    ∀ c ∈ resolved.accumulators, ∃ starts, resolved.graph.WalksFor c.extent starts ∧
      ∀ a ∈ c.members, ∀ b ∈ c.members,
        (c.members.idxOf b < c.members.idxOf a ↔ resolved.graph.PassedFirst starts b a) ∧
        (resolved.graph.NeedsAtOnce a b → c.members.idxOf b < c.members.idxOf a ∨
          ∃ m, resolved.graph.NeedsAtOnce a m ∧ (m = b ∨ resolved.graph.NeedsAtOnce m b) ∧
            Reaches resolved.graph.successors m a ∧ ¬ resolved.graph.NeedsAtOnce m a) := by
  intro resolved c mem
  obtain ⟨whole, rooted, faultless⟩ := whole_of_isValid valid
  obtain ⟨starts, walksFor, keep, members⟩ := Graph.members_of_collect (g := resolved.graph) mem
  refine ⟨starts, walksFor, fun a mem_a b mem_b => ?_⟩
  rw [members] at mem_a mem_b ⊢
  obtain ⟨walked, kept⟩ := List.mem_filter.1 mem_a
  have starts_lt := walksFor.lt rooted
  rw [idxOf_filter_lt_iff (List.mem_filter.1 mem_b).2 kept]
  refine ⟨Graph.walk_idxOf_lt_iff whole starts_lt walked, fun needs => ?_⟩
  refine (Graph.walk_needs whole starts_lt walked needs).imp_right ?_
  rintro ⟨m, before, after, back⟩
  refine ⟨m, before, after, back, fun needs' => ?_⟩
  exact Graph.not_needsAtOnce_self faultless a (before.trans needs')

/-! ## An editor

An editor makes its preview later, and the preview needs the editor. Both are panels.
-/

def editor : TypeExpr := .named "Editor" []

def preview : TypeExpr := .named "Preview" []

/-- A panel with one part. -/
def panelOf (type : TypeExpr) (part : Site) : Descriptor :=
  { Descriptor.concrete type with
    implements := [.named "IPanel" []], constructors := [⟨true, none, [part]⟩] }

def editing : Resolved :=
  ofRoots literalReader ((Registry.empty ⟨[panelOf editor (.parameter "preview" (.lazy preview)),
      panelOf preview (.parameter "editor" editor)]⟩ .structural).registerAll
      [.ofType editor editor, .ofType preview preview]).1
    .standard [.untagged "main" editor] [⟨.named "IPanel" [], .named "Panels" [], []⟩] .standard

theorem editing_facts : editing.isValid ∧
    editing.accumulators = [⟨0, .named "Panels" [], .root "main", [2, 0]⟩] ∧
    editing.graph.eagerSuccessors 2 = [0] := by cbv

/-- The preview needs the editor. -/
theorem editing_needs : editing.graph.NeedsAtOnce 2 0 := by
  obtain ⟨-, -, leads⟩ := editing_facts
  exact .single (leads ▸ List.mem_cons_self)

/-- The preview is held before the editor, so its need goes through a node that leads back to it. -/
theorem valid_members_ordered_editing : editing.isValid ∧
    ∃ m, editing.graph.NeedsAtOnce 2 m ∧ Reaches editing.graph.successors m 2 ∧
      ¬ editing.graph.NeedsAtOnce m 2 := by
  obtain ⟨valid, held, -⟩ := editing_facts
  obtain ⟨starts, -, ordered⟩ := valid_members_ordered _ _ _ _ _ valid
    ⟨0, .named "Panels" [], .root "main", [2, 0]⟩ (held ▸ List.mem_cons_self)
  rcases (ordered 2 (.head _) 0 (.tail _ (.head _))).2 editing_needs with
    before | ⟨m, needs, -, back, oneWay⟩
  · exact absurd before (by decide)
  · exact ⟨valid, m, needs, back, oneWay⟩

/-- The editor comes after the preview that needs it. -/
theorem editing_outOfOrder : editing.isValid ∧
    ¬ ∀ c ∈ editing.accumulators, ∀ a ∈ c.members, ∀ b ∈ c.members,
      editing.graph.NeedsAtOnce a b → c.members.idxOf b < c.members.idxOf a := by
  obtain ⟨valid, held, -⟩ := editing_facts
  refine ⟨valid, fun claim => ?_⟩
  have before := claim ⟨0, .named "Panels" [], .root "main", [2, 0]⟩
    (held ▸ List.mem_cons_self) 2 (.head _) 0 (.tail _ (.head _)) editing_needs
  exact absurd before (by decide)

end Resolved

end Wiring
