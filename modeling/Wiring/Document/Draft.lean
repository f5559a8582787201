import Wiring.Document.Value

/-!
# Document — Draft

A value as far as its text can be read. Faults stand in a draft where they stand in the text, so
that whoever looks at it from left to right meets first what comes first. Some parts of a text are
only passed over, and what may not be read may still be passed over.
-/

namespace Wiring

/-- Why a document cannot be used. -/
inductive ReadFault where
  /-- The text ends inside a value. -/
  | eof
  /-- The text does not follow the format. -/
  | syntaxError
  /-- A value is not what is needed in its place. -/
  | data
  deriving DecidableEq

/-- What the text of a scalar begins like. -/
inductive Start where
  | text
  | null
  | other
  deriving DecidableEq

/-- What stands in the place of a key. -/
inductive Key where
  | text (key : String)
  /-- A text that may be passed over but not read. -/
  | flawed (reading : ReadFault)
  /-- No text, and so no value either. -/
  | absent (fault : ReadFault)
  deriving DecidableEq

inductive Draft where
  | null
  | bool (value : Bool)
  | int (value : Int)
  | real (value : Binary64)
  | str (value : String)
  | moment (value : Moment)
  /-- A list, with the fault that stands where it should end or go on. -/
  | list (items : List Draft) (stop : Option ReadFault)
  /-- A record, with the fault that stands where it should end or go on. -/
  | record (entries : List (Key × Draft)) (stop : Option ReadFault)
  /-- A value with a fault for those who read it, and maybe one for those who pass over it. -/
  | flawed (start : Start) (reading : ReadFault) (passing : Option ReadFault)
  /-- No value begins here. -/
  | missing (fault : ReadFault)
  deriving Inhabited

namespace Draft

mutual

/-- The first fault that is met in passing over a value. -/
def passing : Draft → Option ReadFault
  | .missing fault => some fault
  | .flawed _ _ fault => fault
  | .list items stop => (passingItems items).or stop
  | .record entries stop => (passingEntries entries).or stop
  | _ => none

def passingItems : List Draft → Option ReadFault
  | [] => none
  | d :: more => d.passing.or (passingItems more)

def passingEntries : List (Key × Draft) → Option ReadFault
  | [] => none
  | (.absent fault, _) :: _ => some fault
  | (_, d) :: more => d.passing.or (passingEntries more)

end

/-- What was read up to a stop, unless there is one. -/
def upTo {α : Type} (stop : Option ReadFault) (a : α) : Except ReadFault α :=
  match stop with
  | some fault => .error fault
  | none => .ok a

mutual

/-- The value that is read when any value will do. -/
def whole : Draft → Except ReadFault Value
  | .null => .ok .null
  | .bool b => .ok (.bool b)
  | .int n => .ok (.int n)
  | .real x => .ok (.real x)
  | .str s => .ok (.str s)
  | .moment m => .ok (.moment m)
  | .list items stop => do upTo stop (.list (← wholeItems items))
  | .record entries stop => do upTo stop (.record (← wholeEntries entries))
  | .flawed _ fault _ => .error fault
  | .missing fault => .error fault

def wholeItems : List Draft → Except ReadFault (List Value)
  | [] => .ok []
  | d :: more => do
    let v ← d.whole
    return v :: (← wholeItems more)

def wholeEntries : List (Key × Draft) → Except ReadFault (List (String × Value))
  | [] => .ok []
  | (.text key, d) :: more => do
    let v ← d.whole
    return (key, v) :: (← wholeEntries more)
  | (.flawed fault, _) :: _ => .error fault
  | (.absent fault, _) :: _ => .error fault

end

/-- Of several entries with one key the last counts. -/
def lastEntries : List (Key × Draft) → List (Key × Draft)
  | [] => []
  | (key, d) :: more =>
    if more.any fun entry => entry.1 = key then lastEntries more
    else (key, d) :: lastEntries more

/-- A record of some entries, which ends where it should. -/
def ofEntries (entries : List (Key × Draft)) : Draft := .record (lastEntries entries) none

/-- The fault of reading a value of another shape than the one needed. -/
def mismatch : Draft → ReadFault
  | .flawed _ fault _ => fault
  | .missing fault => fault
  | _ => .data

/-- A list or record that may not be read, since it stands too deep. -/
def tooDeep (passing : Option ReadFault) : Draft := .flawed .other .syntaxError passing

mutual

/-- The draft with at most so many lists and records inside each other; those that stand deeper may
not be read. -/
def bounded : (depth : Nat) → Draft → Draft
  | depth + 1, .list items stop => .list (boundedItems depth items) stop
  | 0, .list items stop => tooDeep ((passingItems items).or stop)
  | depth + 1, .record entries stop => .record (boundedEntries depth entries) stop
  | 0, .record entries stop => tooDeep ((passingEntries entries).or stop)
  | _, d => d

def boundedItems (depth : Nat) : List Draft → List Draft
  | [] => []
  | d :: more => bounded depth d :: boundedItems depth more

def boundedEntries (depth : Nat) : List (Key × Draft) → List (Key × Draft)
  | [] => []
  | (key, d) :: more => (key, bounded depth d) :: boundedEntries depth more

end

end Draft

namespace Value

mutual

/-- A value as a draft without faults. -/
def draft : Value → Draft
  | .null => .null
  | .bool b => .bool b
  | .int n => .int n
  | .real x => .real x
  | .str s => .str s
  | .moment m => .moment m
  | .list items => .list (draftItems items) none
  | .record fields => .record (draftFields fields) none

def draftItems : List Value → List Draft
  | [] => []
  | v :: more => v.draft :: draftItems more

def draftFields : List (String × Value) → List (Key × Draft)
  | [] => []
  | (name, v) :: more => (.text name, v.draft) :: draftFields more

end

mutual

/-- Nothing of a value is lost in its draft. -/
theorem whole_draft (v : Value) : v.draft.whole = .ok v := by
  cases v with
  | list items =>
    simp only [draft, Draft.whole, wholeItems_draftItems items]
    rfl
  | record fields =>
    simp only [draft, Draft.whole, wholeEntries_draftFields fields]
    rfl
  | _ => rfl

theorem wholeItems_draftItems (items : List Value) :
    Draft.wholeItems (draftItems items) = .ok items := by
  cases items with
  | nil => rfl
  | cons v more =>
    simp only [draftItems, Draft.wholeItems, whole_draft v, wholeItems_draftItems more]
    rfl

theorem wholeEntries_draftFields (fields : List (String × Value)) :
    Draft.wholeEntries (draftFields fields) = .ok fields := by
  match fields with
  | [] => rfl
  | (name, v) :: more =>
    simp only [draftFields, Draft.wholeEntries, whole_draft v, wholeEntries_draftFields more]
    rfl

end

end Value

end Wiring
