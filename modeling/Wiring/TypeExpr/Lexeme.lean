import Wiring.Text.Alphanumeric
import Wiring.Text.Blank

/-!
# TypeExpr — Lexeme

The notation cut into lexemes: longest runs of identifier characters, and every other character
that is not blank by itself. Each lexeme knows the position of its first character, counted in code
points.
-/

namespace Wiring

/-- Letters and numbers of every script, and the characters that join the steps of a path. -/
def isIdentChar (c : Char) : Bool :=
  Text.isAlphanumeric c || c = '_' || c = '.' || c = ':'

inductive Token where
  | name (name : String)
  | mark (char : Char)
  deriving DecidableEq

structure Lexeme where
  position : Nat
  /-- The character at the position. -/
  first : Char
  token : Token
  deriving DecidableEq

namespace Lexeme

/-- Put an identifier character before lexemes that begin right after it: it joins the run there,
or begins one. -/
def prepend (start : Nat) (c : Char) : List Lexeme → List Lexeme
  | [] => [⟨start, c, .name (String.singleton c)⟩]
  | next :: more =>
    match next.token with
    | .name run =>
      if next.position = start + 1 then ⟨start, c, .name (String.singleton c ++ run)⟩ :: more
      else ⟨start, c, .name (String.singleton c)⟩ :: next :: more
    | .mark _ => ⟨start, c, .name (String.singleton c)⟩ :: next :: more

/-- The lexemes of a text whose first character has the given position. -/
def scan (start : Nat) : List Char → List Lexeme
  | [] => []
  | c :: cs =>
    if Text.isBlank c then scan (start + 1) cs
    else if isIdentChar c then prepend start c (scan (start + 1) cs)
    else ⟨start, c, .mark c⟩ :: scan (start + 1) cs

end Lexeme

end Wiring
