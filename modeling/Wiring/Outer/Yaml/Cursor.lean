import Wiring.Outer.Numeral

/-!
# Outer — Yaml — Cursor

Places in a text by line and column, and what the characters there begin.
-/

namespace Wiring.Yaml

/-! ## Characters -/

def isBreak (c : Char) : Bool := c = '\n' || c = '\x0d'

def isBlank (c : Char) : Bool := c = ' ' || c = '\t'

/-- Marks of lists and records between brackets. -/
def isFlow (c : Char) : Bool :=
  c = ',' || c = '[' || c = ']' || c = '\x7b' || c = '\x7d'

/-- Characters of directives and of the handles of tags. -/
def isWordPart (c : Char) : Bool := c.isAlphanum || c = '_' || c = '-'

/-- A line ends here, maybe with the text. -/
def startsLineEnd (cs : List Char) : Bool := cs.head?.all isBreak

/-- Blanks begin here, or a line ends. -/
def startsGap (cs : List Char) : Bool := cs.head?.all fun c => isBlank c || isBreak c

def startsFlow (cs : List Char) : Bool := cs.head?.any isFlow

/-- The end of a document is marked here. -/
def startsEndMark : List Char → Bool
  | '.' :: '.' :: '.' :: rest => startsGap rest
  | _ => false

/-- The start or the end of a document is marked here, if a line starts here. -/
def startsMark : List Char → Bool
  | '-' :: '-' :: '-' :: rest => startsGap rest
  | cs => startsEndMark cs

/-! ## Places -/

structure Cursor where
  rest : List Char
  index : Nat
  line : Nat
  column : Nat
  /-- No more than blanks stand before it on its line. -/
  atLineStart : Bool

namespace Cursor

def ofText (cs : List Char) : Cursor := ⟨cs, 0, 0, 0, true⟩

/-- Pass over some blanks. -/
def passBlanks (n : Nat) (c : Cursor) : Cursor :=
  { c with rest := c.rest.drop n, index := c.index + n, column := c.column + n }

/-- Pass over some characters, not all of them blanks. -/
def pass (n : Nat) (c : Cursor) : Cursor := { c.passBlanks n with atLineStart := false }

/-- Pass over a line break; two characters may make one. -/
def passBreak (c : Cursor) : Cursor :=
  match c.rest with
  | '\x0d' :: '\n' :: rest => ⟨rest, c.index + 2, c.line + 1, 0, true⟩
  | _ :: rest => ⟨rest, c.index + 1, c.line + 1, 0, true⟩
  | [] => c

/-- Pass over what is left of the line. -/
def passLine (c : Cursor) : Cursor := c.pass (c.rest.takeWhile (!isBreak ·)).length

/-- Pass over blanks and a comment behind them, which blanks must set apart. The blanks are
returned. -/
def passMargin (c : Cursor) : Option (List Char × Cursor) :=
  let blanks := c.rest.takeWhile isBlank
  let c := c.passBlanks blanks.length
  if c.rest.head? = some '#' then
    if blanks.isEmpty then none else some (blanks, c.passLine)
  else some (blanks, c)

/-- Pass over the margin of a line in which nothing else may be left. -/
def passEmptyLine (c : Cursor) : Option Cursor :=
  c.passMargin.bind fun (_, c) => if startsLineEnd c.rest then some c else none

/-- Pass over what something was read from. -/
def passRead {α : Type} (read : List Char → Reads α) (c : Cursor) : Option (α × Cursor) :=
  (read c.rest).map fun (a, rest) => (a, c.pass (c.rest.length - rest.length))

end Cursor

/-- What some line breaks in a text stand for: one for a blank, and of more all but the first for
themselves. -/
def folded (breaks : Nat) : List Char :=
  if breaks = 1 then [' '] else List.replicate (breaks - 1) '\n'

end Wiring.Yaml
