/-!
# Outer — Pattern — CharSet

Sets of characters, put together from ranges.
-/

namespace Wiring

inductive CharSet where
  | none
  /-- The characters from one to another, both of them included. -/
  | range (first last : Char)
  | complement (s : CharSet)
  | union (s t : CharSet)
  | intersection (s t : CharSet)
  | difference (s t : CharSet)
  | symmetricDifference (s t : CharSet)
  deriving DecidableEq

namespace CharSet

def holds : CharSet → Char → Bool
  | .none, _ => false
  | .range first last, c => first ≤ c && c ≤ last
  | .complement s, c => !s.holds c
  | .union s t, c => s.holds c || t.holds c
  | .intersection s t, c => s.holds c && t.holds c
  | .difference s t, c => s.holds c && !t.holds c
  | .symmetricDifference s t, c => s.holds c != t.holds c

def single (c : Char) : CharSet := .range c c

def unionOf : List CharSet → CharSet
  | [] => .none
  | [s] => s
  | s :: more => .union s (unionOf more)

/-! ## Sets with a name -/

def ofRanges (ranges : List (Char × Char)) : CharSet :=
  unionOf (ranges.map fun (first, last) => .range first last)

/-- The classes of ASCII characters. -/
def named? : String → Option CharSet
  | "alnum" => some (ofRanges [('0', '9'), ('A', 'Z'), ('a', 'z')])
  | "alpha" => some (ofRanges [('A', 'Z'), ('a', 'z')])
  | "ascii" => some (.range '\x00' '\x7f')
  | "blank" => some (ofRanges [('\t', '\t'), (' ', ' ')])
  | "cntrl" => some (ofRanges [('\x00', '\x1f'), ('\x7f', '\x7f')])
  | "digit" => some (.range '0' '9')
  | "graph" => some (.range '!' '~')
  | "lower" => some (.range 'a' 'z')
  | "print" => some (.range ' ' '~')
  | "punct" => some (ofRanges [('!', '/'), (':', '@'), ('[', '\x60'), ('\x7b', '~')])
  | "space" => some (ofRanges [('\t', '\r'), (' ', ' ')])
  | "upper" => some (.range 'A' 'Z')
  | "word" => some (ofRanges [('0', '9'), ('A', 'Z'), ('_', '_'), ('a', 'z')])
  | "xdigit" => some (ofRanges [('0', '9'), ('A', 'F'), ('a', 'f')])
  | _ => none

end CharSet

end Wiring
