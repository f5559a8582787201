import Wiring.TypeExpr.Order
import Wiring.TypeExpr.Printer
import Wiring.TypeExpr.Reader

/-!
# Tag

Tags tell apart the bindings of one contract. A request carries a value; a declaration carries a
value, a wildcard, a rule on the place of the request, or leaves the choice to the registry.
-/

namespace Wiring

/-! ## Values -/

inductive TagValue where
  | text (text : String)
  | number (number : Int64)
  | type (type : TypeExpr)
  deriving DecidableEq

namespace TagValue

/-- A text names a type after `typeof:`, and otherwise stands for itself. -/
def parse (input : String) : Except NotationError TagValue :=
  match "typeof:".toList.isPrefixOf? input.toList with
  | some rest => (TypeExpr.parse (String.ofList rest)).map .type
  | none => .ok (.text input)

def label : TagValue → String
  | .text t => "\"" ++ t ++ "\""
  | .number n => toString n.toInt
  | .type t => "typeof(" ++ t.text ++ ")"

/-- Texts, then numbers, then types. -/
def order : TagValue → TagValue → Ordering
  | .text a, .text b => compare a b
  | .number a, .number b => compare a b
  | .type a, .type b => compare a b
  | .text _, _ => .lt
  | .number _, .text _ => .gt
  | .number _, .type _ => .lt
  | .type _, _ => .gt

instance : Ord TagValue := ⟨order⟩

end TagValue

/-! ## Declared tags -/

inductive Tag where
  | value (value : TagValue)
  /-- Any requested value, or none. -/
  | any
  /-- A number of its own for each binding. -/
  | unique
  /-- The implementation type, as a requested value. -/
  | type
  /-- The places whose path fits one of the patterns. -/
  | on (patterns : List String)
  deriving DecidableEq

/-- The patterns of a list, trimmed and without empty ones. -/
def tagPatterns (list : List Char) : List String :=
  ((Text.pieces (· = ',') list).map Text.trimBlank).filterMap fun piece =>
    if piece.isEmpty then none else some (String.ofList piece)

namespace Tag

def parse (input : String) : Except NotationError Tag :=
  if input = "*" then .ok .any
  else if input = "Unique" then .ok .unique
  else if input = "Type" then .ok .type
  else match "on:".toList.isPrefixOf? input.toList with
    | some rest =>
      match tagPatterns rest with
      | [] => .error (.invalidTag input)
      | patterns => .ok (.on patterns)
    | none => (TagValue.parse input).map .value

def label : Tag → String
  | .value v => v.label
  | .any => "*"
  | .unique => "Unique"
  | .type => "Type"
  | .on patterns => "on(" ++ ", ".intercalate patterns ++ ")"

end Tag

/-- A pattern that ends in a star fits every path it begins, any other only itself. -/
def patternFits (pattern path : String) : Bool :=
  if pattern.toList.getLast? = some '*' then pattern.toList.dropLast.isPrefixOf path.toList
  else pattern = path

/-! ## Keys -/

/-- The tag of a registered binding: unique tags have got their number. -/
inductive TagKey where
  | untagged
  | value (value : TagValue)
  | any
  | type
  | on (patterns : List String)
  | unique (number : Nat)
  deriving DecidableEq

namespace TagKey

/-- The key of a declared tag before the registry numbers it. -/
def ofTag? : Option Tag → TagKey
  | none => .untagged
  | some (.value v) => .value v
  | some .any => .any
  | some .unique => .unique 0
  | some .type => .type
  | some (.on patterns) => .on patterns

/-- The key of a request. -/
def ofValue? : Option TagValue → TagKey
  | none => .untagged
  | some v => .value v

def value? : TagKey → Option TagValue
  | .value v => some v
  | _ => none

def isUnique : TagKey → Bool
  | .unique _ => true
  | _ => false

def label : TagKey → String
  | .untagged => "<none>"
  | .value v => v.label
  | .any => "*"
  | .type => "Type"
  | .on patterns => "on(" ++ ", ".intercalate patterns ++ ")"
  | .unique n => "Unique#" ++ toString n

def rank : TagKey → Nat
  | .untagged => 0
  | .value _ => 1
  | .any => 2
  | .type => 3
  | .on _ => 4
  | .unique _ => 5

def order : TagKey → TagKey → Ordering
  | .value a, .value b => compare a b
  | .on a, .on b => compareLists compare a b
  | .unique a, .unique b => compare a b
  | a, b => compare a.rank b.rank

instance : Ord TagKey := ⟨order⟩

end TagKey

end Wiring
