import Wiring.Outer.Pattern.CharSet

/-!
# Outer — Pattern — Class

Reading a class of characters: characters, ranges, classes with a name, classes inside classes, and
the operators `&&`, `--` and `~~`, which all bind alike, from left to right.
-/

namespace Wiring.Pattern

/-- What was read, and how many brackets, joins and repetitions its notation has inside each
other. -/
structure Nested (α : Type) where
  content : α
  depth : Nat

namespace Nested

variable {α : Type}

def leaf (a : α) : Nested α := ⟨a, 0⟩

def inside {β : Type} (f : α → β) (n : Nested α) : Nested β := ⟨f n.content, n.depth + 1⟩

/-- Some parts as one; a part that is alone is not nested any deeper. -/
def join (combine : List α → α) : List (Nested α) → Nested α
  | [] => leaf (combine [])
  | [n] => n
  | parts =>
    ⟨combine (parts.map (·.content)), (parts.foldl (fun depth n => max depth n.depth) 0) + 1⟩

end Nested

/-- Letters, digits and angles do not stand for themselves after a backslash. -/
def isEscapable (c : Char) : Bool :=
  c.toNat < 128 && !c.isAlphanum && c ≠ '<' && c ≠ '>'

/-- A character of a class or one end of a range, and what follows it. -/
def classChar : List Char → Option (Char × List Char)
  | [] => none
  | ['\\'] => none
  | '\\' :: c :: rest => if isEscapable c then some (c, rest) else none
  | c :: rest => some (c, rest)

/-- A character or a range. A dash before another or before the end of the class is a character by
itself, and a range must not go backwards. -/
def classRange (cs : List Char) : Option (CharSet × List Char) := do
  let (first, rest) ← classChar cs
  match rest with
  | '-' :: ']' :: _ | '-' :: '-' :: _ => return (.single first, rest)
  | '-' :: rest =>
    let (last, rest) ← classChar rest
    if first ≤ last then return (.range first last, rest) else none
  | rest => return (.single first, rest)

/-- The class that a name between `[:` and `:]` stands for, when its bracket was read. -/
def namedClass (cs : List Char) : Option (CharSet × List Char) :=
  match cs with
  | ':' :: rest =>
    let (negated, rest) := match rest with
      | '^' :: rest => (true, rest)
      | rest => (false, rest)
    match rest.dropWhile (· ≠ ':') with
    | ':' :: ']' :: after =>
      (CharSet.named? (String.ofList (rest.takeWhile (· ≠ ':')))).map fun s =>
        (if negated then .complement s else s, after)
    | _ => none
  | _ => none

/-- A class being read: what stands before the last operator with the operator, and the members
after it, the latest first. -/
structure ClassReading where
  left : Option (Nested CharSet × (CharSet → CharSet → CharSet))
  members : List (Nested CharSet)

namespace ClassReading

def add (r : ClassReading) (s : Nested CharSet) : ClassReading :=
  { r with members := s :: r.members }

/-- All that was read, as one set. -/
def total (r : ClassReading) : Nested CharSet :=
  let right := Nested.join CharSet.unionOf r.members
  match r.left with
  | some (left, operator) =>
    ⟨operator left.content right.content, max left.depth right.depth + 1⟩
  | none => right

def operate (r : ClassReading) (operator : CharSet → CharSet → CharSet) : ClassReading :=
  ⟨some (r.total, operator), []⟩

end ClassReading

mutual

/-- A class after its opening bracket. Dashes that come first are characters by themselves, and if
there are none, so is a closing bracket. Two steps take a character at least, so twice the length of
the text bounds the steps. -/
def charClass : (room : Nat) → List Char → Option (Nested CharSet × List Char)
  | 0, _ => none
  | room + 1, cs =>
    let (negated, cs) := match cs with
      | '^' :: cs => (true, cs)
      | cs => (false, cs)
    let first := match cs with
      | ']' :: _ => [']']
      | cs => cs.takeWhile (· = '-')
    let members := first.map fun c => Nested.leaf (CharSet.single c)
    (classMembers room ⟨none, members⟩ (cs.drop first.length)).map fun (s, rest) =>
      (s.inside fun s => if negated then .complement s else s, rest)

/-- Members up to the closing bracket. -/
def classMembers : (room : Nat) → ClassReading → List Char → Option (Nested CharSet × List Char)
  | 0, _, _ => none
  | _ + 1, _, [] => none
  | room + 1, r, cs =>
    match cs with
    | ']' :: rest => some (r.total, rest)
    | '&' :: '&' :: rest => classMembers room (r.operate .intersection) rest
    | '-' :: '-' :: rest => classMembers room (r.operate .difference) rest
    | '~' :: '~' :: rest => classMembers room (r.operate .symmetricDifference) rest
    | '[' :: rest =>
      match namedClass rest with
      | some (s, rest) => classMembers room (r.add (.leaf s)) rest
      | none => (charClass room rest).bind fun (s, rest) => classMembers room (r.add s) rest
    | cs => (classRange cs).bind fun (s, rest) => classMembers room (r.add (.leaf s)) rest

end

end Wiring.Pattern
