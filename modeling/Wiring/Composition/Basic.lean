import Wiring.Form.Setup
import Wiring.Graph.Outline
import Wiring.Resolver.Resolved
import Wiring.Setup.Expand
import Wiring.Text.Quoted

/-!
# Composition — Basic

A setup brought together: its options settled, its declarations registered and its roots resolved,
with everything there is to report.
-/

namespace Wiring

def validationMessage (errors : List String) : String := "组合验证失败: " ++ Text.quotedList errors

structure Composition where
  registry : Registry
  roots : List Root
  accumulators : List Accumulator
  options : Options
  resolved : Resolved
  diagnostics : List Diagnostic

namespace Composition

/-- Given options count before those that are loaded over the setup's own, and these before the
setup's own. -/
def settleOptions (s : Setup) (given : Option Options)
    (load : Option (Options → Except SetupError Options)) : Except SetupError Options :=
  match given, load with
  | some options, _ => .ok options
  | none, some load => load s.chosenOptions
  | none, none => .ok s.chosenOptions

def compose (reader : PatternReader) (s : Setup) (options : Options) : Composition :=
  let (bindings, expanding) := s.expand .structural options
  let (registry, registering) := (Registry.empty s.types .structural).registerAll bindings
  let resolved := Resolved.ofRoots reader registry options s.roots s.accumulators .standard
  ⟨registry, s.roots, s.accumulators, options, resolved,
    expanding ++ registering ++ resolved.diagnostics⟩

def build (reader : PatternReader) (s : Setup) (given : Option Options)
    (load : Option (Options → Except SetupError Options)) : Except SetupError Composition :=
  (settleOptions s given load).map (compose reader s)

def graph (c : Composition) : Graph := c.resolved.graph

def isValid (c : Composition) : Bool := !hasErrors c.diagnostics

def errors (c : Composition) : List Diagnostic := c.diagnostics.filter Diagnostic.isError

def warnings (c : Composition) : List Diagnostic := c.diagnostics.filter Diagnostic.isWarning

/-- A composition is valid when nothing reported is an error. -/
def validate (c : Composition) : Except SetupError Unit :=
  if c.isValid then .ok ()
  else .error (.validationFailed (c.errors.map fun e => e.kind.name ++ ": " ++ e.message))

def buildOrder (c : Composition) : Except GraphError (List NodeId) :=
  c.graph.topologicalOrder

end Composition

end Wiring
