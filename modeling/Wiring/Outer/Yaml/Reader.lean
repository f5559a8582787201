import Wiring.Outer.Yaml.Lexer
import Wiring.Outer.Yaml.Scalar

/-!
# Outer — Yaml — Reader

Reading YAML: the value of a text that holds at most one document.
-/

namespace Wiring.Yaml

/-- What a token or several spell. There is nothing where a text does not fit its tag or an alias
stands inside of what it names; in the place of a key that leaves the place empty. -/
abbrev Node := Option Draft

/-- A document being read. A name may be given to several nodes one after the other, and a node has
its number from its start on but is known from its end on. -/
structure Reading where
  tokens : List Token
  /-- A handle of tags and what it stands for. -/
  declared : Option (String × String)
  numbers : List (String × Nat)
  nodes : List (Nat × Node)
  next : Nat

abbrev Parsing := StateT Reading Option

namespace Parsing

def peek : Parsing (Option Token) := do return (← get).tokens.head?

def skip : Parsing Unit := modify fun r => { r with tokens := r.tokens.tail }

/-- Whether one of some tokens comes next. -/
def comes (ts : List Token) : Parsing Bool := do
  match ← peek with
  | some t => return ts.contains t
  | none => return false

def expect (t : Token) : Parsing Unit := do
  if ← comes [t] then skip else failure

end Parsing

open Parsing

/-! ## Names -/

/-- Give a name to the node that begins here. -/
def nameNode (name : String) : Parsing Nat := do
  let r ← get
  set { r with numbers := (name, r.next) :: r.numbers, next := r.next + 1 }
  return r.next

/-- The node with a name. -/
def named (name : String) : Parsing Node := do
  let r ← get
  match r.numbers.lookup name with
  | some n => return (r.nodes.lookup n).join
  | none => failure

/-- Keep a node if it has a name. -/
def keepNode (number : Option Nat) (node : Node) : Parsing Node := do
  if let some n := number then modify fun r => { r with nodes := (n, node) :: r.nodes }
  return node

/-- The anchor that comes next, if one does. -/
def anchor? : Parsing (Option Nat) := do
  match ← peek with
  | some (.anchor name) => skip; return some (← nameNode name)
  | _ => return none

/-- The tag that comes next, if one does. -/
def tag? : Parsing (Option Typing) := do
  match ← peek with
  | some (.tag handle suffix) =>
    skip
    match Typing.ofTag? (← get).declared handle suffix with
    | some typing => return some typing
    | none => failure
  | _ => return none

/-- An anchor and a tag before a node, in either order. -/
def properties : Parsing (Option Nat × Option Typing) := do
  match ← anchor? with
  | some n => return (some n, ← tag?)
  | none =>
    match ← tag? with
    | some typing => return (← anchor?, some typing)
    | none => return (none, none)

/-! ## Lists and records -/

def listOf (nodes : List Node) : Node := some (.list (nodes.map (·.getD .null)) none)

/-- Texts and whole numbers are keys. -/
def keyOf : Draft → Key
  | .str s => .text s
  | .int n => .text (toString n)
  | _ => .flawed .data

/-- Keys and their values in turn. -/
def entriesOf : List Node → List (Key × Draft)
  | none :: more => entriesOf more
  | some key :: v :: more => (keyOf key, v.getD .null) :: entriesOf more
  | [] | [some _] => []

def recordOf (nodes : List Node) : Node := some (.ofEntries (entriesOf nodes))

def nothing : Node := some .null

/-- An anchor or a tag before nothing. -/
def bareNode (number : Option Nat) (typing : Option Typing) : Parsing Node :=
  if number.isNone && typing.isNone then failure
  else keepNode number ((typing.getD .untagged).draft? "")

mutual

/-- A node that begins here. Without brackets around it a list or record may be indented, and as a
value a list need not be. Room for some steps per token is enough. -/
def node (inBlock mayBeLevel : Bool) : (room : Nat) → Parsing Node
  | 0 => failure
  | room + 1 => do
    if let some (.alias name) ← peek then
      skip
      named name
    else
      let (number, typing) ← properties
      match ← peek with
      | some .entry =>
        if mayBeLevel then keepNode number (listOf (← levelItems room))
        else bareNode number typing
      | some (.plain text) =>
        skip
        keepNode number ((typing.getD .untagged).draft? text)
      | some (.quoted text) =>
        skip
        keepNode number (some (.str text))
      | some .flowList =>
        skip
        keepNode number (listOf (← flowItems true room))
      | some .flowRecord =>
        skip
        keepNode number (recordOf (← flowNodes true room))
      | some .blockList =>
        if inBlock then
          skip
          keepNode number (listOf (← blockItems room))
        else bareNode number typing
      | some .blockRecord =>
        if inBlock then
          skip
          keepNode number (recordOf (← blockNodes room))
        else bareNode number typing
      | _ => bareNode number typing

/-- A node, or nothing before some tokens. -/
def nodeUnless (ends : List Token) (inBlock mayBeLevel : Bool) : (room : Nat) → Parsing Node
  | 0 => failure
  | room + 1 => do
    if ← comes ends then return nothing else node inBlock mayBeLevel room

/-- The value of a key, if there is one. -/
def valueUnless (ends : List Token) (inBlock : Bool) : (room : Nat) → Parsing Node
  | 0 => failure
  | room + 1 => do
    if ← comes [.value] then
      skip
      nodeUnless ends inBlock inBlock room
    else return nothing

/-- The items of an indented list. -/
def blockItems : (room : Nat) → Parsing (List Node)
  | 0 => failure
  | room + 1 => do
    match ← peek with
    | some .blockEnd => skip; return []
    | some .entry =>
      skip
      let item ← nodeUnless [.entry, .blockEnd] true false room
      return item :: (← blockItems room)
    | _ => failure

/-- The items of a list that is not indented in its record. -/
def levelItems : (room : Nat) → Parsing (List Node)
  | 0 => failure
  | room + 1 => do
    if ← comes [.entry] then
      skip
      let item ← nodeUnless [.entry, .key, .value, .blockEnd] true false room
      return item :: (← levelItems room)
    else return []

/-- The keys and values of an indented record. -/
def blockNodes : (room : Nat) → Parsing (List Node)
  | 0 => failure
  | room + 1 => do
    let ends := [.key, .value, .blockEnd]
    match ← peek with
    | some .blockEnd => skip; return []
    | some .key =>
      skip
      let key ← nodeUnless ends true true room
      let v ← valueUnless ends true room
      return key :: v :: (← blockNodes room)
    | some .value =>
      let v ← valueUnless ends true room
      return nothing :: v :: (← blockNodes room)
    | _ => failure

/-- The items of a list in brackets. A key makes a record of one entry. -/
def flowItems (isFirst : Bool) : (room : Nat) → Parsing (List Node)
  | 0 => failure
  | room + 1 => do
    if ← comes [.flowListEnd] then
      skip
      return []
    else
      if !isFirst then expect .comma
      match ← peek with
      | some .flowListEnd => skip; return []
      | some .key =>
        skip
        let key ← if ← comes [.value, .comma, .flowListEnd] then
            skip
            pure nothing
          else node false false room
        let v ← valueUnless [.comma, .flowListEnd] false room
        return recordOf [key, v] :: (← flowItems false room)
      | _ =>
        let item ← node false false room
        return item :: (← flowItems false room)

/-- The keys and values of a record in braces. -/
def flowNodes (isFirst : Bool) : (room : Nat) → Parsing (List Node)
  | 0 => failure
  | room + 1 => do
    if ← comes [.flowRecordEnd] then
      skip
      return []
    else
      if !isFirst then expect .comma
      match ← peek with
      | some .flowRecordEnd => skip; return []
      | some .key =>
        skip
        let key ← nodeUnless [.value, .comma, .flowRecordEnd] false false room
        let v ← valueUnless [.comma, .flowRecordEnd] false room
        return key :: v :: (← flowNodes false room)
      | some .value =>
        let v ← valueUnless [.comma, .flowRecordEnd] false room
        return nothing :: v :: (← flowNodes false room)
      | _ =>
        let key ← node false false room
        return key :: nothing :: (← flowNodes false room)

end

/-! ## Documents -/

/-- The directives before a document, of which one may name a version. The last one says what a
handle of tags stands for, if any is to. -/
def directives : (room : Nat) → (hasVersion : Bool) → Parsing Unit
  | 0, _ => failure
  | room + 1, hasVersion => do
    match ← peek with
    | some .version =>
      if hasVersion then failure
      else
        skip
        modify fun r => { r with declared := none }
        directives room true
    | some (.handle handle text) =>
      skip
      modify fun r => { r with declared := some (handle, text) }
      directives room hasVersion
    | some .directive =>
      skip
      modify fun r => { r with declared := none }
      directives room hasVersion
    | _ => return

def isDirective : Token → Bool
  | .version | .handle _ _ | .directive => true
  | _ => false

/-- Pass over marks of the end of a document. -/
def skipEnds : Parsing Unit :=
  modify fun r => { r with tokens := r.tokens.dropWhile (· = .documentEnd) }

/-- The only document; without one there is an empty record. Directives need a start mark. -/
def document (room : Nat) : Parsing Node := do
  skipEnds
  match ← peek with
  | none => return recordOf []
  | some t =>
    if t = .documentStart || isDirective t then
      directives room false
      expect .documentStart
      match ← peek with
      | none | some .documentStart | some .documentEnd => return nothing
      | some t => if isDirective t then return nothing else node true false room
    else node true false room

/-- The value that a text spells. A NUL ends the text. -/
def parse? (text : String) : Option Value := do
  let tokens ← tokens? (text.toList.takeWhile (· ≠ '\x00'))
  let room := 4 * tokens.length + 4
  let (root, r) ← (do let root ← document room; skipEnds; return root).run
    ⟨tokens, none, [], [], 1⟩
  if r.tokens.isEmpty then (root.getD .null).whole.toOption else none

end Wiring.Yaml
