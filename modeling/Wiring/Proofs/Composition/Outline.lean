import Wiring.Composition.Basic
import Wiring.Proofs.Graph.Cycles
import Wiring.Proofs.Graph.Outline
import Wiring.Proofs.Resolver.Validity

/-!
# Composition — Outline

The outline of a root of a composition. All edges of its graph lead to something, whatever was
reported, so every root that is there is outlined in full.
-/

namespace Wiring

namespace Resolved

variable {reader : PatternReader} {registry : Registry} {options : Options} {roots : List Root}
  {accumulators : List Accumulator}

/-- All edges of a resolution lead to something, with errors or without. -/
theorem whole_graph :
    let g := (ofRoots reader registry options roots accumulators .standard).graph
    g.Whole ∧ ∀ e ∈ g.roots, e.target.IsIn g := by
  let g := built reader registry options roots accumulators
  obtain ⟨whole, rooted, -⟩ : g.Whole ∧ (∀ e ∈ g.roots, e.target.IsIn g) ∧ _ :=
    Resolver.build_whole _ _ roots
  refine ⟨whole.check, fun e mem => Graph.isIn_check.2 (rooted e ?_)⟩
  have same : g.check.1.roots = g.roots := by rw [Graph.check, Graph.foldl_markCyclic]
  exact same ▸ mem

end Resolved

namespace Composition

/-- There is an outline of a root just when there is one of that name. The first of them unfolds
into one tree, and the outline is this tree in preorder. It is the same with any more room than
there are nodes, and no place in the tree has a node above it twice, or more nodes than there are in
all. -/
theorem outline_unfolds (reader : PatternReader) (s : Setup) (options : Options) (name : String) :
    let g := (compose reader s options).graph
    (g.outlineText name = none ↔ g.root? name = none) ∧
    ∀ e, g.root? name = some e → ∃ t,
      (∀ u, g.IsUnfolding [] e.lead u ↔ u = t) ∧
      g.outlineRoot name = some (t.lines 0) ∧
      g.outlineText name = some (String.join ((t.lines 0).map fun line => line.text ++ "\n")) ∧
      (∀ room, g.nodes.length < room → g.outlineLead room [] e.lead = t.lines 0) ∧
      ∀ above part, t.Stands above part → above.Nodup ∧ above.length ≤ g.nodes.length := by
  intro g
  refine ⟨Graph.outlineText_eq_none_iff, fun e root => ?_⟩
  obtain ⟨whole, rooted⟩ : g.Whole ∧ ∀ e ∈ g.roots, e.target.IsIn g := Resolved.whole_graph
  have isIn : e.lead.target.IsIn g := rooted e (List.mem_of_find?_eq_some root)
  have isPath : Traversal.IsPath g.nodes.length [] (g.nodes.length + 1) := ⟨.nil, nofun, rfl⟩
  obtain ⟨t, only, listed⟩ := Graph.exists_unfolding whole isPath isIn
  have lines : g.outlineRoot name = some (t.lines 0) := by
    rw [Graph.outlineRoot_eq root, listed _ le_rfl]
    rfl
  refine ⟨t, only, lines, ?_, listed, fun above part => ((only t).2 rfl).above_distinct⟩
  rw [Graph.outlineText, lines, Option.map_some]

/-! ## A page

A page has a toolbar, which opens pages and asks for a theme that nobody makes.
-/

def page : TypeExpr := .named "Page" []

def toolbar : TypeExpr := .named "Toolbar" []

def theme : TypeExpr := .named "ITheme" []

def builtFrom (type : TypeExpr) (params : List Site) : Descriptor :=
  { Descriptor.concrete type with constructors := [⟨true, none, params⟩] }

def browser : Setup :=
  { Setup.empty with
    types := ⟨[builtFrom page [.parameter "toolbar" toolbar],
      builtFrom toolbar [.parameter "open" (.func page), .parameter "theme" theme]]⟩
    bindings := [.of page, .of toolbar]
    roots := [.untagged "main" page] }

abbrev browserGraph : Graph := (compose Resolved.literalReader browser .standard).graph

def browserLines : List String :=
  ["main: Page [Transient]",
    "  toolbar: Toolbar [Transient]",
    "    open: Func<Page> [Transient]",
    "      target: Page [Transient] (延迟) (循环)",
    "    theme: <未解析 ITheme>"]

theorem browserGraph_facts :
    browserGraph.root? "main" = some ⟨.untagged "main" page, .node 0⟩ ∧
      (browserGraph.outlineRoot "main").map (·.map OutlineLine.text) = some browserLines := by cbv

/-- The page ends where it stands below itself, and the toolbar goes on after it. -/
theorem outline_unfolds_browser :
    browserGraph.root? "main" = some ⟨.untagged "main" page, .node 0⟩ ∧
    ∃ t, browserGraph.IsUnfolding [] (RootEdge.lead ⟨.untagged "main" page, .node 0⟩) t ∧
      (t.lines 0).map OutlineLine.text = browserLines := by
  obtain ⟨root, texts⟩ := browserGraph_facts
  obtain ⟨-, tree⟩ := outline_unfolds Resolved.literalReader browser .standard "main"
  obtain ⟨t, only, lines, -⟩ := tree _ root
  rw [lines] at texts
  exact ⟨root, t, (only t).2 rfl, Option.some.inj texts⟩

end Composition

end Wiring
