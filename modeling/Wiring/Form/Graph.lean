import Wiring.Form.Binding
import Wiring.Graph.Basic
import Wiring.Registry.Lookup

/-!
# Form — Graph

The written form of diagnostics and graphs. Graphs are only written; diagnostics are read too.
-/

namespace Wiring

open Decoder RecordDecoder

/-! ## Diagnostics -/

namespace DiagnosticKind

def ofName? (name : String) : Option DiagnosticKind := all.find? fun kind => kind.name = name

def decoder : Decoder DiagnosticKind := named ofName?

end DiagnosticKind

namespace Severity

def all : List Severity := [info, warning, error]

def ofName? (name : String) : Option Severity := all.find? fun severity => severity.name = name

def decoder : Decoder Severity := named ofName?

end Severity

namespace Subject

def toValue : Subject → Value
  | .node id => .record [("Node", .ofNat id)]
  | .edge n s => .record [("Edge", .record [("node", .ofNat n), ("site", .ofNat s)])]
  | .binding id => .record [("Binding", .ofNat id)]
  | .unresolved id => .record [("Unresolved", .ofNat id)]
  | .root name => .record [("Root", .str name)]

def edgeFields : RecordDecoder Subject :=
  Subject.edge <$> field "node" nat <*> field "site" nat

def decoder : Decoder Subject := variant fun name =>
  match name with
  | "Node" => some (.payload fun format d => (nat format d).map .node)
  | "Edge" => some (.payload edgeFields.payload)
  | "Binding" => some (.payload fun format d => (nat format d).map .binding)
  | "Unresolved" => some (.payload fun format d => (nat format d).map .unresolved)
  | "Root" => some (.payload fun format d => (string format d).map .root)
  | _ => none

end Subject

def Diagnostic.toValue (d : Diagnostic) : Value :=
  .record
    [("kind", .str d.kind.name), ("severity", .str d.severity.name), ("message", .str d.message),
      ("location", .ofOption .str d.location), ("target", .ofOption Subject.toValue d.subject)]

/-! ## Graphs -/

def Source.toValue : Source → Value
  | .explicit id => .record [("Explicit", .ofNat id)]
  | .auto index => .record [("Synthesized", .ofNat index)]
  | .implicit => .str "Implicit"

def NodeKind.toValue : NodeKind → Value
  | .construct index => .record [("Construct", .record [("constructor", .ofOption .ofNat index)])]
  | .factory label => .record [("Factory", .record [("label", .str label)])]
  | .argument name => .record [("Arg", .record [("name", .str name)])]
  | .collection kind element isLazy =>
    .record [("Collection", .record
      [("kind", .str kind.name), ("element", element.toValue),
        ("materialize_once", .bool isLazy)])]
  | .func => .str "Func"
  | .lazy => .str "Lazy"
  | .owned => .str "Owned"
  | .tuple => .str "Tuple"
  | .accumulator index => .record [("Accumulator", .record [("spec", .ofNat index)])]

def Sharing.toValue : Sharing → Value
  | .composition => .str "Composition"
  | .resolve root => .record [("Resolve", .ofNat root)]
  | .block n => .record [("Block", .ofNat n)]

def Owner.toValue : Owner → Value
  | .composition => .str "Composition"
  | .resolve root => .record [("Resolve", .ofNat root)]
  | .owned wrapper => .record [("Owned", .ofNat wrapper)]

def Target.toValue : Target → Value
  | .node id => .record [("Node", .ofNat id)]
  | .unresolved id => .record [("Unresolved", .ofNat id)]

def Dependency.toValue (d : Dependency) : Value :=
  .record
    [("site", d.site.toValue), ("target", d.target.toValue), ("deferred", .bool d.isDeferred)]

def Flags.toValue (f : Flags) : Value :=
  .record
    [("cyclic", .bool f.cyclic), ("has_unresolved", .bool f.hasUnresolved),
      ("invalid_metadata", .bool f.invalidMetadata)]

def Node.toValue (n : Node) : Value :=
  .record
    [("id", .ofNat n.id), ("contract", n.contract.toValue), ("tag", n.tag.toValue),
      ("result_type", n.resultType.toValue), ("source", n.source.toValue),
      ("kind", n.kind.toValue), ("lifetime", n.lifetime.toValue),
      ("scope", .ofOption Sharing.toValue n.scope), ("owner", n.owner.toValue),
      ("dependencies", .list (n.dependencies.map Dependency.toValue)),
      ("disposable", .bool n.isDisposable), ("flags", n.flags.toValue)]

def Unanswered.toValue (u : Unanswered) : Value :=
  .record
    [("id", .ofNat u.id), ("contract", u.contract.toValue),
      ("tag", .ofOption TagValue.toValue u.tag), ("site", .ofOption Site.toValue u.site),
      ("consumer", .ofOption .ofNat u.consumer), ("root", .str u.root)]

def RootEdge.toValue (r : RootEdge) : Value :=
  .record [("root", r.root.toValue), ("target", r.target.toValue)]

namespace Graph

def fieldsToValue (g : Graph) : List (String × Value) :=
  [("nodes", .list (g.nodes.map Node.toValue)), ("roots", .list (g.roots.map RootEdge.toValue)),
    ("unresolved", .list (g.unresolved.map Unanswered.toValue)),
    ("synthesized", .list (g.autoBindings.map Binding.toValue))]

/-- A graph on record, with the name and the time of its build. -/
def toValue (g : Graph) (buildId builtAt : String) : Value :=
  .record (("build_id", .str buildId) :: ("built_at", .str builtAt) :: g.fieldsToValue)

end Graph

end Wiring
