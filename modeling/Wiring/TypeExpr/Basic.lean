import Wiring.Text.Pieces

/-!
# TypeExpr — Basic

The types a container speaks of: named types with arguments, markers that stand for any type in a
declaration, and the built-in shapes (tuples, factories, lazy and owned values, collections).
-/

namespace Wiring

inductive CollectionKind where
  | array | list | set | queue | stack | enumerable
  deriving DecidableEq, Ord

namespace CollectionKind

def all : List CollectionKind := [array, list, set, queue, stack, enumerable]

def name : CollectionKind → String
  | array => "Array"
  | list => "List"
  | set => "Set"
  | queue => "Queue"
  | stack => "Stack"
  | enumerable => "Enumerable"

def ofName? (name : String) : Option CollectionKind :=
  all.find? fun kind => kind.name = name

/-- Only an enumerable is filled when it is first walked. -/
def isLazy (kind : CollectionKind) : Bool := kind = enumerable

theorem name_of_ofName? {name : String} {kind : CollectionKind}
    (h : ofName? name = some kind) : kind.name = name := by
  simpa using List.find?_some h

end CollectionKind

inductive TypeExpr where
  | named (path : String) (args : List TypeExpr)
  | marker (name : String)
  | tuple (items : List TypeExpr)
  | func (target : TypeExpr)
  | lazy (target : TypeExpr)
  | owned (target : TypeExpr)
  | collection (kind : CollectionKind) (element : TypeExpr)
  deriving Inhabited

namespace TypeExpr

/-! ## Equality -/

mutual

def decEq : (s t : TypeExpr) → Decidable (s = t)
  | .named p as, t => match t with
    | .named q bs =>
      if hp : p = q then
        match decEqAll as bs with
        | isTrue h => isTrue (by rw [hp, h])
        | isFalse h => isFalse (by simp [h])
      else isFalse (by simp [hp])
    | .marker _ | .tuple _ | .func _ | .lazy _ | .owned _ | .collection .. => isFalse nofun
  | .marker m, t => match t with
    | .marker n => if h : m = n then isTrue (by rw [h]) else isFalse (by simp [h])
    | .named .. | .tuple _ | .func _ | .lazy _ | .owned _ | .collection .. => isFalse nofun
  | .tuple as, t => match t with
    | .tuple bs =>
      match decEqAll as bs with
      | isTrue h => isTrue (by rw [h])
      | isFalse h => isFalse (by simp [h])
    | .named .. | .marker _ | .func _ | .lazy _ | .owned _ | .collection .. => isFalse nofun
  | .func a, t => match t with
    | .func b =>
      match decEq a b with
      | isTrue h => isTrue (by rw [h])
      | isFalse h => isFalse (by simp [h])
    | .named .. | .marker _ | .tuple _ | .lazy _ | .owned _ | .collection .. => isFalse nofun
  | .lazy a, t => match t with
    | .lazy b =>
      match decEq a b with
      | isTrue h => isTrue (by rw [h])
      | isFalse h => isFalse (by simp [h])
    | .named .. | .marker _ | .tuple _ | .func _ | .owned _ | .collection .. => isFalse nofun
  | .owned a, t => match t with
    | .owned b =>
      match decEq a b with
      | isTrue h => isTrue (by rw [h])
      | isFalse h => isFalse (by simp [h])
    | .named .. | .marker _ | .tuple _ | .func _ | .lazy _ | .collection .. => isFalse nofun
  | .collection j a, t => match t with
    | .collection k b =>
      if hk : j = k then
        match decEq a b with
        | isTrue h => isTrue (by rw [hk, h])
        | isFalse h => isFalse (by simp [h])
      else isFalse (by simp [hk])
    | .named .. | .marker _ | .tuple _ | .func _ | .lazy _ | .owned _ => isFalse nofun

def decEqAll : (ss ts : List TypeExpr) → Decidable (ss = ts)
  | [], [] => isTrue rfl
  | [], _ :: _ => isFalse nofun
  | _ :: _, [] => isFalse nofun
  | s :: ss, t :: ts =>
    match decEq s t with
    | isTrue h =>
      match decEqAll ss ts with
      | isTrue hs => isTrue (by rw [h, hs])
      | isFalse hs => isFalse (by simp [hs])
    | isFalse h => isFalse (by simp [h])

end

instance : DecidableEq TypeExpr := decEq

/-! ## Parts -/

def children : TypeExpr → List TypeExpr
  | .named _ args => args
  | .marker _ => []
  | .tuple items => items
  | .func target | .lazy target | .owned target => [target]
  | .collection _ element => [element]

def isNamed : TypeExpr → Bool
  | .named .. => true
  | _ => false

/-! ## Markers -/

/-- A marker's name is `TT` followed by ASCII digits, possibly none. -/
def isMarkerSpelling (name : String) : Bool :=
  match ['T', 'T'].isPrefixOf? name.toList with
  | some digits => digits.all Char.isDigit
  | none => false

mutual

/-- Every marker where it stands, from left to right. -/
def markerOccurrences : TypeExpr → List String
  | .named _ args => markerOccurrencesAll args
  | .marker name => [name]
  | .tuple items => markerOccurrencesAll items
  | .func target | .lazy target | .owned target => target.markerOccurrences
  | .collection _ element => element.markerOccurrences

def markerOccurrencesAll : List TypeExpr → List String
  | [] => []
  | t :: ts => t.markerOccurrences ++ markerOccurrencesAll ts

end

@[simp] theorem markerOccurrencesAll_eq_flatMap (ts : List TypeExpr) :
    markerOccurrencesAll ts = ts.flatMap markerOccurrences := by
  induction ts with
  | nil => rfl
  | cons t ts ih => simp [markerOccurrencesAll, ih]

/-- The markers of a type, each once and in ascending order. -/
def markers (t : TypeExpr) : List String :=
  (t.markerOccurrences.mergeSort (fun a b => decide (a ≤ b))).eraseReps

/-- A type is open when a marker stands in it somewhere. -/
def isOpen (t : TypeExpr) : Bool := !t.markerOccurrences.isEmpty

theorem isOpen_iff {t : TypeExpr} : t.isOpen = true ↔ ∃ m, m ∈ t.markerOccurrences := by
  simp [isOpen, List.eq_nil_iff_forall_not_mem]

/-! ## Heads -/

/-- The outermost shape of a type that is not a marker. Types that unify have the same head. -/
inductive Head where
  | named (path : String) (arity : Nat)
  | tuple (arity : Nat)
  | func
  | lazy
  | owned
  | collection (kind : CollectionKind)
  deriving DecidableEq

def head? : TypeExpr → Option Head
  | .named path args => some (.named path args.length)
  | .marker _ => none
  | .tuple items => some (.tuple items.length)
  | .func _ => some .func
  | .lazy _ => some .lazy
  | .owned _ => some .owned
  | .collection kind _ => some (.collection kind)

end TypeExpr

end Wiring
