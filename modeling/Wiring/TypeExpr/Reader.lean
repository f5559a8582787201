import Wiring.TypeExpr.Basic
import Wiring.TypeExpr.Lexeme

/-!
# TypeExpr — Reader

Reading a type from its notation, one lexeme at a time. The reader keeps the unfinished argument
lists and parentheses around it as a stack of frames and says what may come next; a lexeme either
moves it on or is the first offending one.

- type := base (`[` `]`)*
- base := ident | ident `<` type (`,` type)* `>` | `(` `)` | `(` type (`,` type)* [`,`] `)`
-/

namespace Wiring

/-- Why a text denotes no type, or no tag. -/
inductive NotationError where
  | empty
  | unexpectedChar (input : String) (position : Nat) (found : Char)
  | unexpectedEnd (input : String)
  | arity (name : String) (expected found : Nat)
  | invalidTag (text : String)
  deriving DecidableEq

def NotationError.message : NotationError → String
  | .empty => "类型表示为空"
  | .unexpectedChar input position found =>
    "类型表示 `" ++ input ++ "` 在位置 " ++ toString position ++ " 处出现意外字符 '"
      ++ String.singleton found ++ "'"
  | .unexpectedEnd input => "类型表示 `" ++ input ++ "` 意外结束"
  | .arity name expected found =>
    "类型 " ++ name ++ " 需要 " ++ toString expected ++ " 个类型参数，实际 " ++ toString found ++ " 个"
  | .invalidTag text => "标签表示无效: " ++ text

namespace TypeExpr

/-! ## Building -/

/-- An identifier without arguments. -/
def ofName (name : String) : TypeExpr :=
  if isMarkerSpelling name then .marker name else .named name []

/-- The built-in shapes that take exactly one argument. -/
def wrapper? (name : String) : Option (TypeExpr → TypeExpr) :=
  if name = "Func" then some .func
  else if name = "Lazy" then some .lazy
  else if name = "Owned" then some .owned
  else (CollectionKind.ofName? name).map .collection

/-- An identifier with arguments. -/
def ofApplication (name : String) (args : List TypeExpr) : Option TypeExpr :=
  match wrapper? name with
  | none => some (.named name args)
  | some wrap =>
    match args with
    | [arg] => some (wrap arg)
    | _ => none

/-- A parenthesis closed right after a type: one item alone is only grouped. -/
def ofItems : List TypeExpr → TypeExpr
  | [item] => item
  | items => .tuple items

/-! ## The reader's state -/

/-- What encloses the type being read, with what is finished of it. -/
inductive Frame where
  | args (name : String) (done : List TypeExpr)
  | items (done : List TypeExpr)

inductive Place where
  /-- A type begins here; in a parenthesis that may end here, `)` may stand instead. -/
  | start (mayClose : Bool)
  /-- An identifier was read, and `<` may follow. -/
  | afterName (name : String)
  | afterType (type : TypeExpr)
  /-- A `[` was read, and `]` must follow. -/
  | bracket (element : TypeExpr)

structure Reading where
  frames : List Frame
  place : Place

/-- Why a lexeme cannot come next. -/
inductive Refusal where
  | unexpected
  | arity (name : String) (found : Nat)
  deriving DecidableEq

namespace Reading

def initial : Reading := ⟨[], .start false⟩

/-- A lexeme after a whole type. -/
def afterType (frames : List Frame) (type : TypeExpr) : Token → Except Refusal Reading
  | .mark '[' => .ok ⟨frames, .bracket type⟩
  | .mark ',' =>
    match frames with
    | .args name done :: outer => .ok ⟨.args name (done ++ [type]) :: outer, .start false⟩
    | .items done :: outer => .ok ⟨.items (done ++ [type]) :: outer, .start true⟩
    | [] => .error .unexpected
  | .mark '>' =>
    match frames with
    | .args name done :: outer =>
      match ofApplication name (done ++ [type]) with
      | some applied => .ok ⟨outer, .afterType applied⟩
      | none => .error (.arity name (done.length + 1))
    | _ => .error .unexpected
  | .mark ')' =>
    match frames with
    | .items done :: outer => .ok ⟨outer, .afterType (ofItems (done ++ [type]))⟩
    | _ => .error .unexpected
  | _ => .error .unexpected

/-- A lexeme where a type may begin. -/
def atStart (frames : List Frame) (mayClose : Bool) : Token → Except Refusal Reading
  | .name name => .ok ⟨frames, .afterName name⟩
  | .mark '(' => .ok ⟨.items [] :: frames, .start true⟩
  | .mark ')' =>
    match mayClose, frames with
    | true, .items done :: outer => .ok ⟨outer, .afterType (.tuple done)⟩
    | _, _ => .error .unexpected
  | _ => .error .unexpected

def step (r : Reading) (token : Token) : Except Refusal Reading :=
  match r.place with
  | .start mayClose => atStart r.frames mayClose token
  | .afterName name =>
    if token = .mark '<' then .ok ⟨.args name [] :: r.frames, .start false⟩
    else afterType r.frames (ofName name) token
  | .afterType type => afterType r.frames type token
  | .bracket element =>
    if token = .mark ']' then .ok ⟨r.frames, .afterType (.collection .array element)⟩
    else .error .unexpected

/-- The type read, when the text may end here. -/
def result? (r : Reading) : Option TypeExpr :=
  match r.frames, r.place with
  | [], .afterName name => some (ofName name)
  | [], .afterType type => some type
  | _, _ => none

end Reading

/-- Read on until a lexeme is refused; the lexeme comes with the reason. -/
def readLexemes : Reading → List Lexeme → Except (Lexeme × Refusal) Reading
  | r, [] => .ok r
  | r, lexeme :: more =>
    match r.step lexeme.token with
    | .ok next => readLexemes next more
    | .error refusal => .error (lexeme, refusal)

def parse (input : String) : Except NotationError TypeExpr :=
  match Lexeme.scan 0 input.toList with
  | [] => .error .empty
  | lexemes =>
    match readLexemes .initial lexemes with
    | .ok r =>
      match r.result? with
      | some type => .ok type
      | none => .error (.unexpectedEnd input)
    | .error (lexeme, .unexpected) => .error (.unexpectedChar input lexeme.position lexeme.first)
    | .error (_, .arity name found) => .error (.arity name 1 found)

end TypeExpr

end Wiring
