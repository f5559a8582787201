import Wiring.Outer.Pattern.CharSet

/-!
# Outer — Pattern — Basic

Regular patterns over the characters of a text.
-/

namespace Wiring

inductive Pattern where
  /-- The empty text. -/
  | empty
  /-- The empty text at the start. -/
  | start
  /-- The empty text at the end. -/
  | stop
  /-- One character of a set. -/
  | oneOf (set : CharSet)
  | seq (p q : Pattern)
  | alt (p q : Pattern)
  /-- Any number of times. -/
  | star (p : Pattern)
  /-- Once or more often. -/
  | plus (p : Pattern)

namespace Pattern

def char (c : Char) : Pattern := .oneOf (.single c)

/-- Any character but a line feed. -/
def anyChar : Pattern := .oneOf (.complement (.single '\n'))

def opt (p : Pattern) : Pattern := .alt p .empty

end Pattern

end Wiring
