import Wiring.Graph.Capture
import Wiring.Graph.Cycles
import Wiring.Registry.Validation
import Wiring.Resolver.Accumulation
import Wiring.Resolver.Build

/-!
# Resolver — Resolved

A whole resolution: the declarations are validated, the graph is built, lifetimes and cycles are
checked, and accumulators collect their members.
-/

namespace Wiring

structure Resolved where
  graph : Graph
  diagnostics : List Diagnostic
  accumulators : List Collected

/-- What is done with a graph once it is built. -/
structure Checks where
  lifetimes : Graph → Options → List Diagnostic
  cycles : Graph → Graph × List Diagnostic
  collect : Graph → List Accumulator → Registry → List Collected

def Checks.standard : Checks := ⟨Graph.validateLifetimes, Graph.check, Graph.collect⟩

namespace Resolved

def isValid (r : Resolved) : Bool := !hasErrors r.diagnostics

/-- The resolution of some roots; what the declarations are reported for stands first. -/
def ofRoots (reader : PatternReader) (registry : Registry) (options : Options)
    (roots : List Root) (accumulators : List Accumulator) (checks : Checks) : Resolved :=
  let (resolver, found) := Resolver.ofOptions reader registry options accumulators
  let (built, building) := resolver.build found roots
  let lifetimes := checks.lifetimes built options
  let (graph, cycles) := checks.cycles built
  ⟨graph, registry.validate ++ building ++ lifetimes ++ cycles,
    checks.collect graph accumulators registry⟩

end Resolved

end Wiring
