/-!
# Diagnostic

What is reported about a composition. Nothing stops a resolution; every problem becomes a
diagnostic on a node, an edge, a binding, an unresolved request or a root.
-/

namespace Wiring

abbrev NodeId := Nat
abbrev BindingId := Nat
abbrev RequestId := Nat

def nodeLabel (id : NodeId) : String := "node#" ++ toString id
def bindingLabel (id : BindingId) : String := "binding#" ++ toString id
def unresolvedLabel (id : RequestId) : String := "unresolved#" ++ toString id

inductive Severity where
  | info | warning | error
  deriving DecidableEq

def Severity.name : Severity → String
  | info => "Info"
  | warning => "Warning"
  | error => "Error"

inductive DiagnosticKind where
  | unresolved | cyclicDependency | invalidMetadata | lifetimeConflict | overrideWarning
  | unusedTagOnWarning
  deriving DecidableEq

namespace DiagnosticKind

def all : List DiagnosticKind :=
  [unresolved, cyclicDependency, invalidMetadata, lifetimeConflict, overrideWarning,
    unusedTagOnWarning]

def name : DiagnosticKind → String
  | unresolved => "Unresolved"
  | cyclicDependency => "CyclicDependency"
  | invalidMetadata => "InvalidMetadata"
  | lifetimeConflict => "LifetimeConflict"
  | overrideWarning => "OverrideWarning"
  | unusedTagOnWarning => "UnusedTagOnWarning"

def severity : DiagnosticKind → Severity
  | overrideWarning | unusedTagOnWarning => .warning
  | _ => .error

end DiagnosticKind

inductive Subject where
  | node (id : NodeId)
  | edge (node : NodeId) (site : Nat)
  | binding (id : BindingId)
  | unresolved (id : RequestId)
  | root (name : String)
  deriving DecidableEq

structure Diagnostic where
  kind : DiagnosticKind
  severity : Severity
  message : String
  location : Option String
  subject : Option Subject
  deriving DecidableEq

namespace Diagnostic

/-- A diagnostic of the severity that its kind has by itself. -/
def ofKind (kind : DiagnosticKind) (message : String) (location : Option String)
    (subject : Option Subject) : Diagnostic :=
  ⟨kind, kind.severity, message, location, subject⟩

def isError (d : Diagnostic) : Bool := d.severity = .error

def isWarning (d : Diagnostic) : Bool := d.severity = .warning

def text (d : Diagnostic) : String :=
  "[" ++ d.severity.name ++ "/" ++ d.kind.name ++ "] " ++ d.message ++
    match d.location with
    | some location => " (" ++ location ++ ")"
    | none => ""

end Diagnostic

/-- Some diagnostic of the list is an error. -/
def hasErrors (ds : List Diagnostic) : Bool := ds.any Diagnostic.isError

end Wiring
