import Wiring.Graph.Basic

/-!
# Graph — Outline

A root written as an indented tree. A node is written again wherever it is needed, but where it
already stands among its own ancestors it is only marked.
-/

namespace Wiring

inductive OutlineLine where
  | node (depth : Nat) (label : String) (node : Node) (isDeferred isRepeated : Bool)
  | unresolved (depth : Nat) (label : String) (contract : TypeExpr)
  deriving DecidableEq

namespace OutlineLine

def indent (depth : Nat) : String := String.join (List.replicate depth "  ")

def text : OutlineLine → String
  | .node depth label n isDeferred isRepeated =>
    indent depth ++ label ++ ": " ++ n.label ++ " [" ++ n.lifetime.name ++ "]"
      ++ (if n.resultType ≠ n.contract ∧ n.kind.isConstruct then " = " ++ n.resultType.text else "")
      ++ (if isDeferred then " (延迟)" else "")
      ++ (if isRepeated then " (循环)" else "")
  | .unresolved depth label contract =>
    indent depth ++ label ++ ": <未解析 " ++ contract.text ++ ">"

end OutlineLine

namespace Graph

/-- The lines of a node below a path of ancestors. No ancestor stands twice on a path, so
`nodes.length + 1` steps down are always enough. -/
def outline (g : Graph) : (room : Nat) → (path : List NodeId) → (label : String) →
    (isDeferred : Bool) → NodeId → List OutlineLine
  | 0, _, _, _, _ => []
  | room + 1, path, label, isDeferred, id =>
    match g.node? id with
    | none => []
    | some n =>
      if id ∈ path then [.node path.length label n isDeferred true]
      else .node path.length label n isDeferred false :: n.dependencies.flatMap fun d =>
        match d.target with
        | .node target => g.outline room (id :: path) d.site.name d.isDeferred target
        | .unresolved _ => [.unresolved (path.length + 1) d.site.name d.site.contract]

/-- The lines of the first root with a name. -/
def outlineRoot (g : Graph) (name : String) : Option (List OutlineLine) :=
  (g.root? name).map fun r =>
    match r.target with
    | .node id => g.outline (g.nodes.length + 1) [] name false id
    | .unresolved _ => [.unresolved 0 name r.root.contract]

def outlineText (g : Graph) (name : String) : Option String :=
  (g.outlineRoot name).map fun lines => String.join (lines.map fun line => line.text ++ "\n")

end Graph

end Wiring
