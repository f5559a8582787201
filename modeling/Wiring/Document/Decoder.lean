import Wiring.Document.Draft

/-!
# Document — Decoder

Taking drafts apart. A decoder meets the parts of a draft from left to right and fails with the
first fault; a field that is missing fails where its record ends.

The decoders of records and variants are not written by hand in the program: a library derives them
from the declarations of the types. They are defined here by what is assumed of that library.

* A field is read under one name, the one that it is declared with or renamed to.
* A field that is missing gets its declared default, and an option is none; without either it is a
  fault.
* Null stands for no value where an option is read, and is a fault everywhere else.
* An entry with any other name is passed over, and a second entry for a field is a fault.
* A record may be written as the list of its fields, in the order of their declaration.
* A variant is its name, or a record with its name as the only entry when something goes with it.
* An integer outside the range of its type is a fault.
-/

namespace Wiring

/-- The decisions in which formats differ. -/
structure Format where
  /-- The record that goes with a variant may be written as a list. -/
  listsInVariants : Bool
  /-- The record that goes with a variant may have no fields but its own. -/
  closedVariants : Bool
  /-- Of a list that stands for a record, the items past the last field are passed over. -/
  passesExcess : Bool
  /-- What stands with a variant that has nothing with it is an empty list or record, not null. -/
  emptyForNothing : Bool

namespace Format

/-- Values that were read before. -/
def tree : Format := ⟨false, false, false, false⟩

def json : Format := ⟨true, false, false, false⟩

def toml : Format := ⟨true, true, true, true⟩

end Format

/-- How a type is read, in a format, from what is written. -/
abbrev Decoder (α : Type) := Format → Draft → Except ReadFault α

namespace Decoder

def ofValue {α : Type} (d : Decoder α) (format : Format) (v : Value) : Except ReadFault α :=
  d format v.draft

/-! ## Scalars and lists -/

def bool : Decoder Bool
  | _, .bool b => .ok b
  | _, d => .error d.mismatch

def string : Decoder String
  | _, .str s => .ok s
  | _, d => .error d.mismatch

/-- An integer in a closed range. -/
def intBetween (low high : Int) : Decoder Int
  | _, .int n => if low ≤ n ∧ n ≤ high then .ok n else .error .data
  | _, d => .error d.mismatch

def int32 : Decoder Int32 := fun format d =>
  (intBetween Int32.minValue.toInt Int32.maxValue.toInt format d).map Int32.ofInt

/-- A natural number of at most 64 bits. -/
def nat : Decoder Nat := fun format d =>
  (intBetween 0 (UInt64.size - 1 : Nat) format d).map Int.toNat

def option {α : Type} (d : Decoder α) : Decoder (Option α)
  | _, .null => .ok none
  | _, .flawed .null fault _ => .error fault
  | format, draft => (d format draft).map some

def all {α : Type} (d : Decoder α) (format : Format) : List Draft → Except ReadFault (List α)
  | [] => .ok []
  | draft :: more =>
    match d format draft with
    | .error fault => .error fault
    | .ok a => (all d format more).map (a :: ·)

def list {α : Type} (d : Decoder α) : Decoder (List α)
  | format, .list items stop => do Draft.upTo stop (← all d format items)
  | _, draft => .error draft.mismatch

/-! ## Variants -/

/-- What a name stands for: a value, or one that is decoded from what follows. -/
inductive Variant (α : Type) where
  | plain (value : α)
  | payload (decoder : Decoder α)

/-- What goes with a variant that has nothing with it. -/
def nothing : Decoder Unit := fun format d =>
  if format.emptyForNothing then
    match d with
    | .list [] none | .record [] none => .ok ()
    | d => .error d.mismatch
  else
    match d with
    | .null => .ok ()
    | d => .error d.mismatch

/-- Nothing may follow the one entry that names a variant. -/
def closing {α : Type} (a : α) (stop : Option ReadFault) : List (Key × Draft) → Except ReadFault α
  | [] => Draft.upTo stop a
  | _ => .error .syntaxError

/-- A variant that is the only entry of a record. -/
def onlyEntry {α : Type} (cases : String → Option (Variant α)) (format : Format)
    (entries : List (Key × Draft)) (stop : Option ReadFault) : Except ReadFault α :=
  match entries with
  | [] => .error .syntaxError
  | (.absent fault, _) :: _ => .error fault
  | (.flawed fault, _) :: _ => .error fault
  | (.text name, d) :: more =>
    match cases name with
    | none => .error .data
    | some (.plain a) => do
      nothing format d
      closing a stop more
    | some (.payload p) => do closing (← p format d) stop more

/-- A variant is its name, or a record with the name as its only field. -/
def variant {α : Type} (cases : String → Option (Variant α)) : Decoder α
  | _, .str name =>
    match cases name with
    | some (.plain a) => .ok a
    | _ => .error .data
  | format, .record entries stop => onlyEntry cases format entries stop
  | _, .flawed .text fault _ => .error fault
  | _, .missing fault => .error fault
  | _, _ => .error .syntaxError

/-- A variant without anything that goes with its name. -/
def named {α : Type} (ofName? : String → Option α) : Decoder α :=
  variant fun name => (ofName? name).map .plain

end Decoder

/-! ## Records -/

/-- Reading some fields of a record, each under its name and with its default if it has one. A fault
comes with the position of its entry; a field that is missing comes after all entries and after what
stops them. -/
structure RecordDecoder (α : Type) where
  names : List String
  run : Format → List (Key × Draft) → Except (Nat × ReadFault) α

namespace RecordDecoder

/-- Of two faults the one that stands first. -/
def earlier (a b : Nat × ReadFault) : Nat × ReadFault := if a.1 ≤ b.1 then a else b

def apply {α β : Type} (f : RecordDecoder (α → β)) (x : RecordDecoder α) : RecordDecoder β where
  names := f.names ++ x.names
  run format entries :=
    match f.run format entries, x.run format entries with
    | .ok g, .ok a => .ok (g a)
    | .error e, .error e' => .error (earlier e e')
    | .error e, .ok _ => .error e
    | .ok _, .error e => .error e

instance : Applicative RecordDecoder where
  pure a := ⟨[], fun _ _ => .ok a⟩
  seq f x := f.apply (x ())

/-- The first entry with a name, and its position. -/
def locate (name : String) : (position : Nat) → List (Key × Draft) → Option (Nat × Draft)
  | _, [] => none
  | position, (.text key, d) :: more =>
    if key = name then some (position, d) else locate name (position + 1) more
  | position, _ :: more => locate name (position + 1) more

def fieldOr {α : Type} (name : String) (missing : Option α) (d : Decoder α) : RecordDecoder α where
  names := [name]
  run format entries :=
    match locate name 0 entries, missing with
    | some (position, draft), _ => (d format draft).mapError (position, ·)
    | none, some a => .ok a
    | none, none => .error (entries.length + 1, .data)

def field {α : Type} (name : String) (d : Decoder α) : RecordDecoder α := fieldOr name none d

/-- A field that may be missing. -/
def optional {α : Type} (name : String) (default : α) (d : Decoder α) : RecordDecoder α :=
  fieldOr name (some default) d

/-- The first entry that is there twice or without a key, or whose value may not be passed over. -/
def strayFault (names : List String) (stop : Option ReadFault) :
    (position : Nat) → (seen : List String) → List (Key × Draft) → Option (Nat × ReadFault)
  | position, _, [] => stop.map (position, ·)
  | position, _, (.absent fault, _) :: _ => some (position, fault)
  | position, _, (.flawed fault, _) :: _ => some (position, fault)
  | position, seen, (.text key, d) :: more =>
    if key ∈ names then
      if key ∈ seen then some (position, .data)
      else strayFault names stop (position + 1) (key :: seen) more
    else match d.passing with
      | some fault => some (position, fault)
      | none => strayFault names stop (position + 1) seen more

/-- What follows the items of a list that stands for a record. -/
def excess (format : Format) (names : List String) (items : List Draft)
    (stop : Option ReadFault) : Option (Nat × ReadFault) :=
  if names.length < items.length then
    if format.passesExcess then none else some (names.length, .syntaxError)
  else stop.map (items.length, ·)

/-- The outcome of reading fields next to a fault of the record itself. -/
def settle {α : Type} (stray : Option (Nat × ReadFault)) :
    Except (Nat × ReadFault) α → Except ReadFault α
  | .ok a =>
    match stray with
    | some e => .error e.2
    | none => .ok a
  | .error e =>
    match stray with
    | some e' => .error (earlier e e').2
    | none => .error e.2

/-- A record is written with its fields by name, or as the list of them in order. A moment counts
as a record with none of the fields. -/
def decode {α : Type} (r : RecordDecoder α) : Decoder α
  | format, .record entries stop =>
    settle (strayFault r.names stop 0 [] entries) (r.run format entries)
  | format, .list items stop =>
    settle (excess format r.names items stop) (r.run format ((r.names.map .text).zip items))
  | format, .moment _ => settle none (r.run format [])
  | _, d => .error d.mismatch

/-- Every entry has the name of a field. -/
def isClosed {α : Type} (r : RecordDecoder α) (entries : List (Key × Draft)) : Bool :=
  entries.all fun
    | (.text key, _) => key ∈ r.names
    | _ => false

/-- A record that goes with a variant. -/
def payload {α : Type} (r : RecordDecoder α) : Decoder α := fun format d =>
  match d with
  | .list .. => if format.listsInVariants then r.decode format d else .error .data
  | .record entries _ =>
    if format.closedVariants && !r.isClosed entries then .error .data else r.decode format d
  | d => r.decode format d

end RecordDecoder

end Wiring
