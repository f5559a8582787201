import Wiring.Graph.Order

/-!
# Graph — Cycles

Cycles of edges that must be built at once. A cycle is written from the node where its sequence of
names is least, and cycles with the same names are reported once; but every node on a cycle that
was found is flagged. The check also reports each unresolved request.
-/

namespace Wiring.Graph

/-- Nodes one after the other, each with its name. -/
abbrev NamedPath := List (NodeId × String)

def named (g : Graph) (cycle : List NodeId) : NamedPath := cycle.map fun id => (id, g.nameOf id)

def rotations (path : NamedPath) : List NamedPath :=
  (List.range path.length).map fun k => path.drop k ++ path.take k

/-- The first of the given paths whose names come first. -/
def leastNamed (best : NamedPath) : List NamedPath → NamedPath
  | [] => best
  | p :: more =>
    if compareLists (fun a b => compare a.2 b.2) p best = .lt then leastNamed p more
    else leastNamed best more

/-- A cycle turned so that its names come first in dictionary order. -/
def leastRotation (g : Graph) (cycle : List NodeId) : List NodeId :=
  (leastNamed (g.named cycle) (rotations (g.named cycle))).map (·.1)

/-- Every cycle that a traversal of the graph closes, turned to its least rotation. -/
def closedCycles (g : Graph) : List (List NodeId) :=
  g.eagerTrace.faults.filterMap fun
    | .loop nodes => some (g.leastRotation nodes)
    | .missing _ => none

/-- The first cycle of each sequence of names. -/
def distinctByName (g : Graph) : (seen : List (List String)) → List (List NodeId) →
    List (List NodeId)
  | _, [] => []
  | seen, c :: cs =>
    let names := c.map g.nameOf
    if names ∈ seen then g.distinctByName seen cs
    else c :: g.distinctByName (names :: seen) cs

def distinctCycles (g : Graph) : List (List NodeId) := g.distinctByName [] g.closedCycles

/-! ## The check -/

def cycleDiagnostic (g : Graph) (cycle : List NodeId) : Diagnostic :=
  .ofKind .cyclicDependency ("检测到循环依赖: " ++ " -> ".intercalate (g.closedNames cycle)) none
    (cycle.head?.map .node)

def unresolvedDiagnostic (g : Graph) (u : Unanswered) : Diagnostic :=
  let tag := match u.tag with
    | some tag => " (标签 " ++ tag.label ++ ")"
    | none => ""
  .ofKind .unresolved ("无法解析依赖 " ++ u.contract.text ++ tag ++ ", 请求方: " ++ g.askedBy u)
    (u.site.bind (·.location)) (some (.unresolved u.id))

def markCyclic (n : Node) : Node := { n with flags := { n.flags with cyclic := true } }

/-- The graph with the nodes of its cycles flagged, and what is wrong with it. -/
def check (g : Graph) : Graph × List Diagnostic :=
  (g.closedCycles.flatten.foldl (fun g' id => g'.modifyNode id markCyclic) g,
    g.distinctCycles.map g.cycleDiagnostic ++ g.unresolved.map g.unresolvedDiagnostic)

end Wiring.Graph
