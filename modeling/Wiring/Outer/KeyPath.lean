import Wiring.Outer.Numeral

/-!
# Outer — KeyPath

Keys that lead into a setting: names with points between them, and positions in brackets.
-/

namespace Wiring

/-- A step from a setting to one inside it. -/
inductive KeyStep where
  | field (name : String)
  /-- An item of a list, whichever it is. -/
  | item
  deriving DecidableEq

namespace KeyStep

def isNameChar (c : Char) : Bool := c.isAlphanum || c = ' ' || c = '_' || c = '-'

/-- A name that is not empty, and what follows it. -/
def name? (cs : List Char) : Option (KeyStep × List Char) :=
  match cs.takeWhile isNameChar with
  | [] => none
  | name => some (.field (String.ofList name), cs.dropWhile isNameChar)

def skipBlanks (cs : List Char) : List Char := cs.dropWhile fun c => c = ' ' || c = '\t'

/-- A position up to its closing bracket: a whole number of 64 bits with a sign. -/
def item? (cs : List Char) : Option (KeyStep × List Char) :=
  let (sign, cs) : Int × List Char := match skipBlanks cs with
    | '-' :: cs => (-1, cs)
    | cs => (1, cs)
  let digits := cs.takeWhile Char.isDigit
  match skipBlanks (cs.dropWhile Char.isDigit) with
  | ']' :: rest =>
    if digits.isEmpty || !Value.fits64 (sign * Numeral.ofDigits digits) then none
    else some (.item, rest)
  | _ => none

/-- The steps after the first. Each takes a character, so the length of the key bounds them. -/
def more? : (room : Nat) → List Char → Option (List KeyStep)
  | _, [] => some []
  | 0, _ => none
  | room + 1, c :: cs =>
    let step := if c = '.' then name? cs else if c = '[' then item? cs else none
    step.bind fun (step, rest) => (more? room rest).map (step :: ·)

/-- The steps that a key spells. A key that spells none is one name as it stands. -/
def ofKey (key : String) : List KeyStep :=
  let cs := key.toList
  let steps := (name? cs).bind fun (step, rest) => (more? cs.length rest).map (step :: ·)
  steps.getD [.field key]

end KeyStep

end Wiring
