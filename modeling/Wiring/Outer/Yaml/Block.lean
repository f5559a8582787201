import Wiring.Outer.Yaml.Cursor

/-!
# Outer — Yaml — Block

Texts that are set apart as indented lines. A bar keeps the lines as they are, an angle folds them,
and signs behind it say what becomes of the breaks at the end and how far the lines are indented.
-/

namespace Wiring.Yaml

/-- What becomes of the line breaks at the end of a text. -/
inductive Chomping where
  /-- The first is kept. -/
  | clip
  | strip
  | keep
  deriving DecidableEq

def chompingSign? : List Char → Option Chomping
  | '+' :: _ => some .keep
  | '-' :: _ => some .strip
  | _ => none

/-- A digit other than zero. Zero is an error. -/
def indentSign? (cs : List Char) : Option (Option Nat) :=
  match cs.head?.filter Char.isDigit with
  | some '0' => none
  | some c => some (some (c.toNat - '0'.toNat))
  | none => some none

/-- The signs behind the bar or angle, in either order, and how many they are. -/
def blockSigns? (cs : List Char) : Option (Chomping × Option Nat × Nat) :=
  match chompingSign? cs with
  | some chomping => do
    let width ← indentSign? (cs.drop 1)
    return (chomping, width, if width.isSome then 2 else 1)
  | none => do
    match ← indentSign? cs with
    | none => return (.clip, none, 0)
    | some width =>
      match chompingSign? (cs.drop 1) with
      | some chomping => return (chomping, some width, 2)
      | none => return (.clip, some width, 1)

/-- Empty lines, counted, and the indentation of the line behind them, up to a width. -/
def blockIndent (width : Nat) : (room : Nat) → (breaks : Nat) → Cursor → Nat × Cursor
  | 0, breaks, c => (breaks, c)
  | room + 1, breaks, c =>
    let spaces := (c.rest.take (width - c.column)).takeWhile (· = ' ')
    let c := c.passBlanks spaces.length
    if c.rest.head?.any isBreak then blockIndent width room (breaks + 1) c.passBreak
    else (breaks, c)

/-- Empty lines, counted, and the indentation of the line behind them, with the widest of all. -/
def widestIndent : (room : Nat) → (widest breaks : Nat) → Cursor → Nat × Nat × Cursor
  | 0, widest, breaks, c => (widest, breaks, c)
  | room + 1, widest, breaks, c =>
    let c := c.passBlanks (c.rest.takeWhile (· = ' ')).length
    let widest := max widest c.column
    if c.rest.head?.any isBreak then widestIndent room widest (breaks + 1) c.passBreak
    else (widest, breaks, c)

/-- Lines of a text while it is read: the text with its latest first, whether a break came last, how
many empty lines behind it, and whether the line before begins with a blank. -/
structure Lines where
  done : List Char
  isBroken : Bool
  emptyLines : Nat
  isIndented : Bool

namespace Lines

/-- The breaks behind the last line as they stand. -/
def breaks (l : Lines) : List Char :=
  List.replicate ((if l.isBroken then 1 else 0) + l.emptyLines) '\n'

/-- Add a line. Folding joins it to the one before unless one of them begins with a blank. -/
def add (l : Lines) (isFolded : Bool) (line : List Char) : Lines :=
  let isIndented := line.head?.any isBlank
  let gap :=
    if isFolded && l.isBroken && !l.isIndented && !isIndented then folded (l.emptyLines + 1)
    else l.breaks
  ⟨line.reverse ++ (gap ++ l.done), false, 0, isIndented⟩

end Lines

/-- The lines of a text that are indented by a width. -/
def blockLines (isFolded : Bool) (width : Nat) : (room : Nat) → Lines → Cursor → Lines × Cursor
  | 0, l, c => (l, c)
  | room + 1, l, c =>
    if c.column ≠ width || c.rest.isEmpty || (width = 0 && startsEndMark c.rest) then (l, c)
    else
      let line := c.rest.takeWhile (!isBreak ·)
      let l := l.add isFolded line
      let c := c.passBlanks line.length
      if c.rest.isEmpty then (l, c)
      else
        let (emptyLines, c) := blockIndent width room 0 c.passBreak
        blockLines isFolded width room { l with isBroken := true, emptyLines } c

/-- A text that begins with its bar or angle, below lines that are indented so far. -/
def block (indent : Int) (isFolded : Bool) (room : Nat) (c : Cursor) :
    Option (String × Cursor) := do
  let (chomping, step, signs) ← blockSigns? (c.rest.drop 1)
  let c ← (c.pass (signs + 1)).passEmptyLine
  let hasLines := !c.rest.isEmpty
  let c := c.passBreak
  if c.rest.head? = some '\t' then none
  else
    let (width, emptyLines, c) := match step with
      | some step =>
        let width := (max indent 0).toNat + step
        let (emptyLines, c) := blockIndent width room 0 c
        (width, emptyLines, c)
      | none =>
        let (widest, emptyLines, c) := widestIndent room 0 0 c
        (max widest (indent + 1).toNat, emptyLines, c)
    if c.rest.isEmpty then
      let breaks := if chomping = .strip || !hasLines then 0
        else if chomping = .clip then 1
        else max emptyLines 1
      return (String.ofList (List.replicate breaks '\n'), c)
    else if c.column < width && indent < c.column then none
    else
      let (l, c) := blockLines isFolded width room ⟨[], false, emptyLines, false⟩ c
      let last := if l.isBroken then ['\n'] else []
      let unbroken := if c.rest.isEmpty && max width 1 ≤ c.column then ['\n'] else []
      let tail := match chomping with
        | .strip => []
        | .clip => last ++ unbroken
        | .keep => last ++ unbroken ++ List.replicate l.emptyLines '\n'
      return (String.ofList (l.done.reverse ++ tail), c)

end Wiring.Yaml
