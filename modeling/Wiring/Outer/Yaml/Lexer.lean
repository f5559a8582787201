import Wiring.Outer.Yaml.Block
import Wiring.Outer.Yaml.Plain
import Wiring.Outer.Yaml.Quoted
import Wiring.Outer.Yaml.Tag
import Wiring.Outer.Yaml.Token

/-!
# Outer — Yaml — Lexer

The tokens of a text. Indentation opens and closes lists and records, and a colon may make a key of
what was read before, so that tokens are put where the key begins.
-/

namespace Wiring.Yaml

/-- Something that a colon on its line would make a key. -/
structure PendingKey where
  /-- Nothing but a key can stand here. -/
  isRequired : Bool
  /-- How many tokens stand before it. -/
  number : Nat
  index : Nat
  line : Nat
  column : Nat

/-- How far something is indented, as the indentation around it. -/
structure Indent where
  around : Int
  /-- It belongs to a list or record, which ends with it. -/
  isBlock : Bool

structure Lexer where
  cursor : Cursor
  tokens : Array Token
  /-- Where a colon needs no gap behind it, since a quoted text or a bracket stands before it. -/
  adjacentAt : Nat
  /-- What comes next may become a key: outside of brackets at the start of a line, for one. -/
  keyAllowed : Bool
  /-- What may become a key, innermost brackets first and the outside last. -/
  keys : List (Option PendingKey)
  /-- The indentation here, or -1 outside of all lists and records. -/
  indent : Int
  indents : List Indent
  /-- How many brackets are open. -/
  depth : Nat
  /-- A record between braces, or one with an explicit key, was opened. -/
  isRecordOpen : Bool
  /-- For each open list in brackets, whether it is inside a record without braces. -/
  bareRecords : List Bool

namespace Lexer

def ofText (cs : List Char) : Lexer :=
  { cursor := .ofText cs, tokens := #[], adjacentAt := 0, keyAllowed := true, keys := [none],
    indent := -1, indents := [], depth := 0, isRecordOpen := false, bareRecords := [] }

def push (t : Token) (l : Lexer) : Lexer := { l with tokens := l.tokens.push t }

/-- Put a token before those from some number on. -/
def insert (number : Nat) (t : Token) (l : Lexer) : Lexer :=
  { l with tokens := l.tokens.insertIdxIfInBounds number t }

def inFlow (l : Lexer) : Bool := l.depth ≠ 0

/-! ## Indentation -/

/-- What is left of some indentations when all further than a column have ended, with the ends of
their lists and records. -/
def closedTo (column : Int) : List Indent → Int → List Indent × Int × List Token
  | [], indent => ([], indent, [])
  | i :: more, indent =>
    if column < indent then
      let (indents, indent, ends) := closedTo column more i.around
      (indents, indent, if i.isBlock then .blockEnd :: ends else ends)
    else (i :: more, indent, [])

/-- Close what is indented further than a column, except between brackets. -/
def unroll (column : Int) (l : Lexer) : Lexer :=
  if l.inFlow then l
  else
    let (indents, indent, ends) := closedTo column l.indents l.indent
    { l with indents, indent, tokens := l.tokens ++ ends }

/-- Open a list or record at a column, unless it is open or between brackets. -/
def roll (column : Int) (number : Nat) (t : Token) (l : Lexer) : Lexer :=
  if l.inFlow then l
  else
    let l := match l.indents with
      | ⟨around, false⟩ :: more =>
        if l.indent ≤ column then { l with indent := around, indents := more } else l
      | _ => l
    if l.indent < column then
      { l.insert number t with indent := column, indents := ⟨l.indent, true⟩ :: l.indents }
    else l

/-- Indent what comes next by one column more than the list or record around it. -/
def rollOne (l : Lexer) : Lexer :=
  match l.inFlow, l.indents with
  | false, ⟨_, true⟩ :: _ =>
    { l with indent := l.indent + 1, indents := ⟨l.indent, false⟩ :: l.indents }
  | _, _ => l

/-- Indentations without those that belong to no list or record. -/
def withoutLoose : List Indent → Int → List Indent × Int
  | ⟨around, false⟩ :: more, _ => withoutLoose more around
  | indents, indent => (indents, indent)

def unrollLoose (l : Lexer) : Lexer :=
  let (indents, indent) := withoutLoose l.indents l.indent
  { l with indents, indent }

/-! ## Keys -/

/-- Say whether what comes next may become a key. -/
def allowKey (isAllowed : Bool) (l : Lexer) : Lexer := { l with keyAllowed := isAllowed }

/-- Remember what comes next, if it may become a key. -/
def saveKey (l : Lexer) : Lexer :=
  if !l.keyAllowed then l
  else
    let isRequired :=
      !l.inFlow && l.indent = l.cursor.column && (l.indents.head?.any Indent.isBlock)
    let c := l.cursor
    { l with keys := some ⟨isRequired, l.tokens.size, c.index, c.line, c.column⟩ :: l.keys.drop 1 }

/-- What may become a key cannot any more. -/
def dropKey (l : Lexer) : Option Lexer :=
  match l.keys with
  | some key :: more => if key.isRequired then none else some { l with keys := none :: more }
  | _ => some l

/-- Outside of brackets a key has one line, and at most 1024 characters. -/
def dropStaleKey (l : Lexer) : Option Lexer :=
  match l.inFlow, l.keys with
  | false, some key :: _ =>
    if key.line < l.cursor.line || key.index + 1024 < l.cursor.index then l.dropKey else some l
  | _, _ => some l

/-! ## Blanks -/

/-- Pass over blanks, comments and line breaks. A line of a list or record is not indented with
tabs unless it is empty. -/
def skipToToken : (room : Nat) → Lexer → Option Lexer
  | 0, _ => none
  | room + 1, l =>
    let c := l.cursor
    match c.rest with
    | [] => some l
    | ch :: _ =>
      if ch = '\t' ∧ !l.indents.isEmpty ∧ c.atLineStart ∧ c.column < l.indent then
        c.passEmptyLine.bind fun c => skipToToken room { l with cursor := c }
      else if isBlank ch then skipToToken room { l with cursor := c.passBlanks 1 }
      else if isBreak ch then
        skipToToken room { l with cursor := c.passBreak, keyAllowed := l.keyAllowed || !l.inFlow }
      else if ch = '#' then skipToToken room { l with cursor := c.passLine }
      else some l

/-- Pass over spaces, comments and line breaks behind the mark of a key: at least one that is not a
comment, and no tab. -/
def skipAfterMark : (room : Nat) → (isApart : Bool) → Lexer → Option Lexer
  | 0, _, _ => none
  | room + 1, isApart, l =>
    let c := l.cursor
    match c.rest with
    | ' ' :: _ => skipAfterMark room true { l with cursor := c.passBlanks 1 }
    | '#' :: _ => skipAfterMark room isApart { l with cursor := c.passLine }
    | '\t' :: _ => none
    | ch :: _ =>
      if isBreak ch then
        skipAfterMark room true
          { l with cursor := c.passBreak, keyAllowed := l.keyAllowed || !l.inFlow }
      else if isApart then some l
      else none
    | [] => if isApart then some l else none

/-- Pass over some characters and the blanks and comment behind them. -/
def passMark (n : Nat) (l : Lexer) : Option (List Char × Lexer) :=
  (l.cursor.pass n).passMargin.map fun (blanks, c) => (blanks, { l with cursor := c })

/-! ## Documents -/

/-- Close all lists and records before a line that is about documents. -/
def closeAll (l : Lexer) : Option Lexer := (l.unroll (-1)).dropKey.map (allowKey false)

def documentMark (l : Lexer) : Option Lexer := do
  let l ← l.closeAll
  if startsEndMark l.cursor.rest then
    let c ← (l.cursor.pass 3).passEmptyLine
    return { l.push .documentEnd with cursor := c }
  else return { l.push .documentStart with cursor := l.cursor.pass 3 }

/-- A line that begins with a percent sign. -/
def directive (l : Lexer) : Option Lexer := do
  let l ← l.closeAll
  let c := l.cursor.pass 1
  let name := c.rest.takeWhile isWordPart
  let c := c.pass name.length
  if name.isEmpty || !startsGap c.rest then none
  else
    let afterBlanks := c.passBlanks (c.rest.takeWhile isBlank).length
    let (t, c) ← match String.ofList name with
      | "YAML" => (afterBlanks.passRead fun cs => (version cs).map ((), ·)).map fun (_, c) =>
        (Token.version, c)
      | "TAG" => (afterBlanks.passRead handleMeaning).map fun ((handle, text), c) =>
        (Token.handle handle text, c)
      | _ => some (Token.directive, c.passLine)
    let c ← c.passEmptyLine
    return { l.push t with cursor := c.passBreak }

/-! ## Brackets -/

/-- How many brackets may be open. -/
def maxDepth : Nat := 255

def openFlow (isRecord : Bool) (l : Lexer) : Option Lexer := do
  let l := l.saveKey.rollOne
  if l.depth = maxDepth then none
  else
    let l := { l with keys := none :: l.keys, depth := l.depth + 1, keyAllowed := true }
    let l := if isRecord then { l with isRecordOpen := true }
      else { l with bareRecords := false :: l.bareRecords }
    let (_, l) ← l.passMark 1
    return l.push (if isRecord then .flowRecord else .flowList)

/-- End a record without braces, if the list in brackets is inside one. -/
def closeBareRecord (l : Lexer) : Lexer :=
  match l.bareRecords with
  | true :: more =>
    { l.push .flowRecordEnd with isRecordOpen := false, bareRecords := false :: more }
  | _ => l

def closeFlow (isRecord : Bool) (l : Lexer) : Option Lexer := do
  let l ← l.dropKey
  let l := if l.inFlow then { l with keys := l.keys.drop 1, depth := l.depth - 1 } else l
  let l := l.allowKey false
  let l := if isRecord then l
    else
      let l := l.closeBareRecord
      { l with bareRecords := l.bareRecords.drop 1 }
  let (_, l) ← l.passMark 1
  let l := if l.inFlow then { l with adjacentAt := l.cursor.index } else l
  return l.push (if isRecord then .flowRecordEnd else .flowListEnd)

def comma (l : Lexer) : Option Lexer := do
  let l ← l.dropKey
  let (_, l) ← (l.allowKey true).closeBareRecord.passMark 1
  return l.push .comma

/-! ## Items and keys -/

/-- A dash before an item, which only a list without brackets has. -/
def entry (l : Lexer) : Option Lexer := do
  if l.inFlow || !l.keyAllowed then none
  else
    let l := l.roll l.cursor.column l.tokens.size .blockList
    let (blanks, l) ← l.passMark 1
    let rest := l.cursor.rest
    if blanks.contains '\t' && rest.head? = some '-' && startsGap (rest.drop 1) then none
    else
      let isLoose := rest.head?.any fun c => isBreak c || isFlow c
      let l ← (if isLoose then l.rollOne else l).dropKey
      return (l.allowKey true).push .entry

/-- The mark of a key that need not be simple. -/
def explicitKey (room : Nat) (l : Lexer) : Option Lexer := do
  if !l.inFlow && !l.keyAllowed then none
  else
    let l := if l.inFlow then { l with isRecordOpen := true }
      else l.roll l.cursor.column l.tokens.size .blockRecord
    let l ← l.dropKey
    let l := l.allowKey !l.inFlow
    let l ← skipAfterMark room false { l with cursor := l.cursor.pass 1 }
    return l.push .key

/-- A colon before a value. What stands before it on its line becomes the key, and in a list in
brackets it makes a record without braces. -/
def value (l : Lexer) : Option Lexer := do
  let c := l.cursor
  let isBare := !l.bareRecords.isEmpty && !l.isRecordOpen
  let l := if isBare then { l with bareRecords := true :: l.bareRecords.drop 1 } else l
  let (blanks, after) ← if (c.rest.drop 1).head? = some '\t' then l.passMark 1
    else some ([], { l with cursor := c.pass 1 })
  let isUnset := blanks.head? = some '\t' && !blanks.contains ' '
  if isUnset && after.cursor.rest.head?.any isWordPart then none
  else match after.keys with
    | some key :: more =>
      if isBare && key.line < c.line then none
      else
        let l := after.insert key.number .key
        let l := if isBare then l.insert key.number .flowRecord else l
        let l := (l.roll key.column key.number .blockRecord).rollOne
        return { l.push .value with keys := none :: more, keyAllowed := false }
    | _ =>
      let l := if isBare then after.push .flowRecord else after
      if !l.inFlow && !l.keyAllowed then none
      else
        let l := (l.roll c.column l.tokens.size .blockRecord).rollOne
        return (l.allowKey !l.inFlow).push .value

/-! ## Names and texts -/

/-- Something that may become a key but holds none. -/
def atom (read : Lexer → Option (Token × Cursor)) (l : Lexer) : Option Lexer :=
  let l := l.saveKey.allowKey false
  (read l).map fun (t, c) => { l.push t with cursor := c }

def named (make : String → Token) (l : Lexer) : Option Lexer :=
  l.atom fun l => ((l.cursor.pass 1).passRead anchorName).map fun (name, c) => (make name, c)

def tagged (l : Lexer) : Option Lexer :=
  l.atom fun l => do
    let ((handle, suffix), c) ← l.cursor.passRead tag
    if startsGap c.rest || (l.inFlow && startsFlow c.rest) then some (.tag handle suffix, c)
    else none

def quotedText (quote : Char) (room : Nat) (l : Lexer) : Option Lexer := do
  let l := l.saveKey.allowKey false
  let (text, c) ← quoted l.indent l.inFlow quote room l.cursor
  let l ← skipToToken room { l with cursor := c }
  return { l.push (.quoted text) with adjacentAt := l.cursor.index }

/-- A text that ends with a line may have a key behind it. -/
def plainText (room : Nat) (l : Lexer) : Option Lexer := do
  let l := (l.saveKey.allowKey false).unrollLoose
  let (text, c) ← plain (l.indent + 1) l.inFlow room l.cursor
  return { l.push (.plain text) with cursor := c, keyAllowed := c.atLineStart }

def blockText (isFolded : Bool) (room : Nat) (l : Lexer) : Option Lexer := do
  let l := (l.saveKey.allowKey true).unrollLoose
  let (text, c) ← block l.indent isFolded room l.cursor
  return { l.push (.quoted text) with cursor := c }

/-! ## Whole texts -/

/-- The token that begins here, with those that it brings with it. -/
def token (room : Nat) (l : Lexer) (c : Char) (rest : List Char) : Option Lexer :=
  let column := l.cursor.column
  let isApart := startsGap rest
  if column = 0 && c = '%' then l.directive
  else if column = 0 && startsMark (c :: rest) then l.documentMark
  else if column < l.indent then none
  else match c with
    | '[' => l.openFlow false
    | '\x7b' => l.openFlow true
    | ']' => l.closeFlow false
    | '\x7d' => l.closeFlow true
    | ',' => l.comma
    | '*' => l.named .alias
    | '&' => l.named .anchor
    | '!' => l.tagged
    | '\'' | '"' => l.quotedText c room
    | '%' | '@' => none
    | _ =>
      let isAdjacent := startsFlow rest || l.cursor.index = l.adjacentAt
      if c = '-' && isApart then l.entry
      else if c = '?' && isApart then l.explicitKey room
      else if c = ':' && (isApart || (l.inFlow && isAdjacent)) then l.value
      else if (c = '|' || c = '>') && !l.inFlow then l.blockText (c = '>') room
      else if c = '\x60' then none
      else l.plainText room

/-- The end of the text, where no key may be missing. -/
def finish (l : Lexer) : Option (List Token) :=
  if l.keys.any fun key => key.any PendingKey.isRequired then none
  else some (l.unroll (-1)).tokens.toList

/-- All tokens from here on. Each takes a character, so the length of the text bounds the steps. -/
def run : (room : Nat) → Lexer → Option (List Token)
  | 0, _ => none
  | room + 1, l => do
    let l ← l.skipToToken (room + 1)
    let l ← l.dropStaleKey
    let l := l.unroll l.cursor.column
    match l.cursor.rest with
    | [] => l.finish
    | c :: rest => run room (← l.token (room + 1) c rest)

end Lexer

/-- The tokens of a text. -/
def tokens? (cs : List Char) : Option (List Token) := Lexer.run (cs.length + 2) (.ofText cs)

end Wiring.Yaml
