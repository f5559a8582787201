import Wiring.Composition.Basic
import Wiring.Form.Graph
import Wiring.Lifecycle.Scope
import Wiring.LogSettings

/-!
# Form — Report

The written form of what is found out: errors, matches, rules, plans, what accumulators collected,
and diagnostics together with their text. Reports are only written.
-/

namespace Wiring

/-! ## Errors -/

def errorOf (kind : String) : Value := .record [("error", .str kind)]

def errorWith (kind message : String) : Value :=
  .record [("error", .str kind), ("message", .str message)]

def NotationError.report (e : NotationError) : Value :=
  let kind := match e with
    | .empty => "Empty"
    | .unexpectedChar .. => "UnexpectedChar"
    | .unexpectedEnd _ => "UnexpectedEnd"
    | .arity .. => "Arity"
    | .invalidTag _ => "InvalidTag"
  errorWith kind e.message

def GraphError.report (e : GraphError) : Value :=
  let kind := match e with
    | .cycleDetected _ => "CycleDetected"
    | .nodeNotFound _ => "NodeNotFound"
  errorWith kind e.message

def ReleaseError.report (e : ReleaseError) : Value :=
  let kind := match e with
    | .failed .. => "DisposeFailed"
    | .scopeClosed _ => "ScopeDisposed"
  errorWith kind e.message

/-! ## Findings -/

def idsToValue (ids : List Nat) : Value := .list (ids.map .ofNat)

/-- A tag value with a word for what it is. -/
def TagValue.kindToValue : TagValue → Value
  | .text t => .record [("str", .str t)]
  | .number n => .record [("int", .int n.toInt)]
  | .type t => .record [("type", t.toValue)]

/-- The entries of a substitution as pairs. -/
def Substitution.toValue (s : Substitution) : Value :=
  .list (s.entries.map fun (marker, type) => .list [.str marker, type.toValue])

def Match.toValue (m : Match) : Value :=
  .record
    [("binding", .ofNat m.binding), ("substitution", m.substitution.toValue),
      ("kind", .str m.kind.name), ("pattern", .ofOption .str m.pattern)]

def rulesToValue (rules : List Rule) : Value :=
  .list (rules.map fun (id, pattern) => .list [.ofNat id, .str pattern])

def Plan.toValue : Plan → Value
  | .accumulator index => .record [("plan", .str "Accumulator"), ("spec", .ofNat index)]
  | .autoBinding b => .record [("plan", .str "AutoBinding"), ("binding", b.toValue)]
  | .collection kind element =>
    .record [("plan", .str "Collection"), ("kind", .str kind.name), ("element", element.toValue)]
  | .func target => .record [("plan", .str "Func"), ("target", target.toValue)]
  | .lazy target => .record [("plan", .str "Lazy"), ("target", target.toValue)]
  | .owned target => .record [("plan", .str "Owned"), ("target", target.toValue)]
  | .tuple items => .record [("plan", .str "Tuple"), ("items", .list (items.map TypeExpr.toValue))]
  | .unresolved => .record [("plan", .str "Unresolved")]

def CollectedFor.toValue : CollectedFor → Value
  | .composition => .str "Composition"
  | .root name => .record [("Resolve", .record [("root", .str name)])]

def Collected.toValue (i : Collected) : Value :=
  .record
    [("spec", .ofNat i.index), ("accumulator", i.type.toValue), ("scope", i.extent.toValue),
      ("members", idsToValue i.members)]

/-- A diagnostic with its text as one more field. -/
def Diagnostic.report (d : Diagnostic) : Value :=
  match d.toValue with
  | .record fields => .record (fields ++ [("text", .str d.text)])
  | v => v

/-- How many diagnostics there are, of each severity and of each kind. -/
def countDiagnostics (ds : List Diagnostic) : Value :=
  .record
    [("len", .ofNat ds.length), ("empty", .bool ds.isEmpty), ("has_errors", .bool (hasErrors ds)),
      ("errors", .ofNat (ds.countP Diagnostic.isError)),
      ("warnings", .ofNat (ds.countP Diagnostic.isWarning)),
      ("counts", .record (DiagnosticKind.all.map fun kind =>
        (kind.name, .ofNat (ds.countP (·.kind = kind)))))]

def Lifetime.report (l : Lifetime) : Value :=
  .record
    [("display", .str l.name), ("shared", .bool l.isShared), ("breadth", .ofNat l.width),
      ("composition_owned", .bool l.livesWithComposition),
      ("captures", .list ((all.filter l.captures).map toValue))]

def LogSettings.toValue (l : LogSettings) : Value :=
  .record
    [("level", .str l.level.name), ("target", .bool l.showsTarget),
      ("thread_ids", .bool l.showsThreadIds), ("file", .bool l.showsFile),
      ("line", .bool l.showsLine), ("json", .bool l.isJson)]

def diagnosticsReport (ds : List Diagnostic) : Value := .list (ds.map Diagnostic.report)

def accumulatorsReport (is : List Collected) : Value :=
  .list (is.map Collected.toValue)

/-- A registered binding in short. -/
def Entry.summary (e : Entry) : Value :=
  .list
    [e.binding.contract.toValue, .str e.key.label, e.binding.lifetime.toValue,
      .bool e.isOverridden]

def Resolved.report (r : Resolved) : List (String × Value) :=
  [("graph", .record r.graph.fieldsToValue), ("diagnostics", diagnosticsReport r.diagnostics),
    ("accumulators", accumulatorsReport r.accumulators), ("valid", .bool r.isValid),
    ("complete", .bool r.graph.isComplete),
    ("names", .list (r.graph.nodes.map fun n => .str n.label)),
    ("requesters", .list (r.graph.unresolved.map fun u => .str (r.graph.askedBy u)))]

/-- A composition in short; its roots, and those of some more names, are outlined. -/
def Composition.report (c : Composition) (names : List String) : List (String × Value) :=
  [("options", c.options.toValue), ("bindings", .list (c.registry.entries.map Entry.summary)),
    ("diagnostics", diagnosticsReport c.diagnostics), ("errors", .ofNat c.errors.length),
    ("warnings", .ofNat c.warnings.length), ("valid", .bool c.isValid),
    ("specs", .ofNat c.accumulators.length),
    ("accumulators", accumulatorsReport c.resolved.accumulators),
    ("describe", .record ((c.roots.map (·.name) ++ names).map fun name =>
      (name, .ofOption .str (c.graph.outlineText name)))),
    ("nodes", .ofNat c.graph.nodes.length),
    ("synthesized", .ofNat c.graph.autoBindings.length),
    ("unresolved", .ofNat c.graph.unresolved.length)]

end Wiring
