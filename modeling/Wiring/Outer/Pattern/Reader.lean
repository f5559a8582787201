import Wiring.Outer.Pattern.Basic
import Wiring.Outer.Pattern.Class

/-!
# Outer — Pattern — Reader

Reading a pattern from its notation: literals, `.`, `^`, `$`, `*`, `+`, `?`, `|`, groups, classes of
characters, and a backslash before a punctuation mark. Braces are not part of the notation. This is
one reader that can stand for the parameter of the library; others know more.
-/

namespace Wiring.Pattern

/-- A group being read: its finished alternatives and the items of the current one, both with the
latest first. -/
structure Group where
  alternatives : List (Nested Pattern)
  items : List (Nested Pattern)

def ofItems : List Pattern → Pattern
  | [] => .empty
  | [p] => p
  | p :: more => .seq (ofItems more) p

def ofAlternatives : List Pattern → Pattern
  | [] => .empty
  | [p] => p
  | p :: more => .alt (ofAlternatives more) p

namespace Group

def fresh : Group := ⟨[], []⟩

/-- The current alternative. -/
def current (g : Group) : Nested Pattern := .join ofItems g.items

def pattern (g : Group) : Nested Pattern := .join ofAlternatives (g.current :: g.alternatives)

end Group

structure Reading where
  /-- The groups around the current one, innermost first. -/
  outer : List Group
  group : Group
  /-- The last item was just repeated, so that `?` only says how eagerly. -/
  isRepeated : Bool

namespace Reading

def initial : Reading := ⟨[], .fresh, false⟩

def push (r : Reading) (p : Nested Pattern) : Reading :=
  { r with group := { r.group with items := p :: r.group.items }, isRepeated := false }

def repeatLast (r : Reading) (f : Pattern → Pattern) : Option Reading :=
  match r.group.items with
  | p :: more =>
    some { r with group := { r.group with items := p.inside f :: more }, isRepeated := true }
  | [] => none

/-- Go on with a character that is neither a bracket nor a backslash. -/
def step (r : Reading) (c : Char) : Option Reading :=
  match c with
  | '.' => some (r.push (.leaf anyChar))
  | '^' => some (r.push (.leaf .start))
  | '$' => some (r.push (.leaf .stop))
  | '*' => r.repeatLast .star
  | '+' => r.repeatLast .plus
  | '?' => if r.isRepeated then some { r with isRepeated := false }
    else r.repeatLast opt
  | '|' =>
    some { r with group := ⟨r.group.current :: r.group.alternatives, []⟩, isRepeated := false }
  | '(' => some { r with outer := r.group :: r.outer, group := .fresh, isRepeated := false }
  | ')' =>
    match r.outer with
    | g :: more => some ({ r with outer := more, group := g }.push (r.group.pattern.inside id))
    | [] => none
  | '{' => none
  | c => some (r.push (.leaf (char c)))

/-- Read to the end of a text. Each step takes a character, so its length bounds the steps. -/
def read : (room : Nat) → Reading → List Char → Option Reading
  | _, r, [] => some r
  | 0, _, _ => none
  | room + 1, r, c :: rest =>
    if c = '[' then
      (charClass (2 * rest.length + 1) rest).bind fun (s, rest) =>
        read room (r.push ⟨.oneOf s.content, s.depth⟩) rest
    else if c = '\\' then
      match rest with
      | d :: rest => if isEscapable d then read room (r.push (.leaf (char d))) rest else none
      | [] => none
    else (r.step c).bind fun r => read room r rest

end Reading

/-- How deep a notation may be nested. -/
def maxNesting : Nat := 250

/-- The pattern that a text denotes, if any. No group may be left open. -/
def parse? (text : String) : Option Pattern := do
  let cs := text.toList
  let r ← Reading.read cs.length .initial cs
  let p := r.group.pattern
  if r.outer.isEmpty && p.depth ≤ maxNesting then return p.content else none

end Wiring.Pattern
