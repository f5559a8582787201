import Wiring.Binary64
import Wiring.Document.Moment

/-!
# Document — Value

The values that a document holds.
-/

namespace Wiring

inductive Value where
  | null
  | bool (value : Bool)
  | int (value : Int)
  | real (value : Binary64)
  | str (value : String)
  | moment (value : Moment)
  | list (items : List Value)
  | record (fields : List (String × Value))
  deriving Inhabited

namespace Value

def ofOption {α : Type} (write : α → Value) : Option α → Value
  | some a => write a
  | none => .null

def ofNat (n : Nat) : Value := .int n

/-- Whole numbers of 64 bits with a sign. -/
def fits64 (n : Int) : Bool := Int64.minValue.toInt ≤ n && n ≤ Int64.maxValue.toInt

/-! ## Fields in order -/

/-- Put a field at its place, in the stead of one with the same name. -/
def insertField (name : String) (v : Value) :
    List (String × Value) → List (String × Value)
  | [] => [(name, v)]
  | field :: more =>
    if name < field.1 then (name, v) :: field :: more
    else if name = field.1 then (name, v) :: more
    else field :: insertField name v more

mutual

/-- The value with the fields of its records in ascending order of their names; of several fields
with one name the last counts. -/
def sorted : Value → Value
  | .list items => .list (sortedItems items)
  | .record fields => .record (sortedFields [] fields)
  | v => v

def sortedItems : List Value → List Value
  | [] => []
  | v :: more => sorted v :: sortedItems more

def sortedFields (done : List (String × Value)) : List (String × Value) → List (String × Value)
  | [] => done
  | (name, v) :: more => sortedFields (insertField name (sorted v) done) more

end

end Value

end Wiring
