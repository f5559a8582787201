import Wiring.Document.Value

/-!
# Outer — Toml — Table

The tables of a TOML text while it is read. A table remembers how it came about, since that decides
who may still add to it: a header may name a table once, and the last part of a dotted key only
stands in a table that dotted keys made.
-/

namespace Wiring.Toml

inductive Origin where
  /-- Made on the way to another table. -/
  | implied
  | header
  | dotted
  deriving DecidableEq

inductive Node where
  | leaf (value : Value)
  | table (origin : Origin) (fields : List (String × Node))
  /-- An array of tables, the open one first. -/
  | tables (items : List (List (String × Node)))

abbrev Fields := List (String × Node)

namespace Fields

def find? (fields : Fields) (key : String) : Option Node := fields.lookup key

/-- Put a node at the place of its key, or at the end. -/
def set (key : String) (node : Node) : Fields → Fields
  | [] => [(key, node)]
  | (k, n) :: more => if k = key then (key, node) :: more else (k, n) :: set key node more

/-- Change the table that a header's path leads to; tables on the way are made if need be, and of
an array of tables the last one is meant. -/
def modifyAt (f : Fields → Option Fields) : List String → Fields → Option Fields
  | [], fields => f fields
  | key :: path, fields =>
    match fields.find? key with
    | none => (modifyAt f path []).map fun sub => set key (.table .implied sub) fields
    | some (.table origin sub) =>
      (modifyAt f path sub).map fun sub => set key (.table origin sub) fields
    | some (.tables (item :: more)) =>
      (modifyAt f path item).map fun item => set key (.tables (item :: more)) fields
    | some _ => none

/-- Give a table the header that names it. Its place is that of the header, after all that came
before. -/
def openTable (key : String) (fields : Fields) : Option Fields :=
  match fields.find? key with
  | none => some (fields ++ [(key, .table .header [])])
  | some (.table .implied sub) =>
    some (fields.filter (·.1 ≠ key) ++ [(key, .table .header sub)])
  | some _ => none

/-- Begin the next table of an array. -/
def appendTable (key : String) (fields : Fields) : Option Fields :=
  match fields.find? key with
  | none => some (set key (.tables [[]]) fields)
  | some (.tables items) => some (set key (.tables ([] :: items)) fields)
  | some _ => none

/-- Give a value to a key, which may be dotted and must be new. The key may lead through any table
without a header of its own, but only one that dotted keys made takes the value, or the open
one. -/
def assignFrom (value : Value) : (takes : Bool) → List String → Fields → Option Fields
  | _, [], _ => none
  | takes, [key], fields =>
    if takes && (fields.find? key).isNone then some (set key (.leaf value) fields) else none
  | _, key :: path, fields =>
    match fields.find? key with
    | none => (assignFrom value true path []).map fun sub => set key (.table .dotted sub) fields
    | some (.table .dotted sub) =>
      (assignFrom value true path sub).map fun sub => set key (.table .dotted sub) fields
    | some (.table .implied sub) =>
      (assignFrom value false path sub).map fun sub => set key (.table .implied sub) fields
    | some (.tables (item :: more)) =>
      (assignFrom value false path item).map fun item =>
        set key (.tables (item :: more)) fields
    | some _ => none

/-- Give a value to a key of the open table. -/
def assign (value : Value) (path : List String) (fields : Fields) : Option Fields :=
  assignFrom value true path fields

end Fields

mutual

def Node.value : Node → Value
  | .leaf value => value
  | .table _ fields => .record (fieldValues fields)
  | .tables items => .list (tableValues items).reverse

def fieldValues : List (String × Node) → List (String × Value)
  | [] => []
  | (key, node) :: more => (key, node.value) :: fieldValues more

def tableValues : List (List (String × Node)) → List Value
  | [] => []
  | fields :: more => .record (fieldValues fields) :: tableValues more

end

end Wiring.Toml
