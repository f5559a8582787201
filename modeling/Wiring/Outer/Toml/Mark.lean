import Wiring.Outer.Toml.Moment

/-!
# Outer — Toml — Mark

Moments that are written as tables. A table whose first key is the mark of a moment stands for the
moment that the text under the mark spells, whatever follows the mark in the table.
-/

namespace Wiring.Toml

def momentMark : String := "$__toml_private_datetime"

/-- The first key of a table is the mark. -/
def isMarked (fields : List (String × Value)) : Bool :=
  fields.head?.any (·.1 = momentMark)

/-- The moment of a marked table. -/
def markedMoment? : List (String × Value) → Option Moment
  | (_, .str text) :: _ => momentOfText? text
  | _ => none

mutual

/-- The value with moments in the stead of marked tables, each of which must spell one. -/
def readMarks : Value → Option Value
  | .list vs => (readMarksOfItems vs).map .list
  | .record fields =>
    if isMarked fields then (markedMoment? fields).map .moment
    else (readMarksOfFields fields).map .record
  | v => some v

def readMarksOfItems : List Value → Option (List Value)
  | [] => some []
  | v :: more => do return (← readMarks v) :: (← readMarksOfItems more)

def readMarksOfFields : List (String × Value) → Option (List (String × Value))
  | [] => some []
  | (key, v) :: more => do return (key, ← readMarks v) :: (← readMarksOfFields more)

end

end Wiring.Toml
