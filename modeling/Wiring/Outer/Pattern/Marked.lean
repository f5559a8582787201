import Wiring.Outer.Pattern.Basic

/-!
# Outer — Pattern — Marked

Where a pattern occurs. A text is read character by character, and in the pattern each set of
characters is marked by which the latest one may just have been matched. The marks stand for all
ways to match at once, so a character takes one walk over the pattern, however its parts are nested.
-/

namespace Wiring.Pattern

/-- A place between the characters of a text. -/
structure Place where
  isStart : Bool
  isStop : Bool

/-- What may be matched at a place. -/
structure Here where
  /-- The empty text is. -/
  passes : Bool
  /-- The characters up to here are, the latest one at least. -/
  ends : Bool

namespace Here

def andThen (p q : Here) : Here := ⟨p.passes && q.passes, p.ends && q.passes || q.ends⟩

def orElse (p q : Here) : Here := ⟨p.passes || q.passes, p.ends || q.ends⟩

def isMatch (p : Here) : Bool := p.passes || p.ends

end Here

/-- A pattern with its marks. Each part that has parts of its own keeps what it matches. -/
inductive Marked where
  | empty
  | start (passes : Bool)
  | stop (passes : Bool)
  | oneOf (set : CharSet) (mark : Bool)
  | seq (here : Here) (p q : Marked)
  | alt (here : Here) (p q : Marked)
  | star (here : Here) (p : Marked)
  | plus (here : Here) (p : Marked)

namespace Marked

def here : Marked → Here
  | .empty => ⟨true, false⟩
  | .start passes => ⟨passes, false⟩
  | .stop passes => ⟨passes, false⟩
  | .oneOf _ mark => ⟨false, mark⟩
  | .seq here _ _ => here
  | .alt here _ _ => here
  | .star here _ => here
  | .plus here _ => here

def ofSeq (p q : Marked) : Marked := .seq (p.here.andThen q.here) p q

def ofAlt (p q : Marked) : Marked := .alt (p.here.orElse q.here) p q

def ofStar (p : Marked) : Marked := .star ⟨true, p.here.ends⟩ p

def ofPlus (p : Marked) : Marked := .plus p.here p

/-- A pattern before a character is read. -/
def ofPattern (place : Place) : Pattern → Marked
  | .empty => .empty
  | .start => .start place.isStart
  | .stop => .stop place.isStop
  | .oneOf set => .oneOf set false
  | .seq p q => ofSeq (ofPattern place p) (ofPattern place q)
  | .alt p q => ofAlt (ofPattern place p) (ofPattern place q)
  | .star p => ofStar (ofPattern place p)
  | .plus p => ofPlus (ofPattern place p)

/-- Read a character that leads to a place. The flag says whether what the part matches may begin
with the character. -/
def step (place : Place) (c : Char) : (begins : Bool) → Marked → Marked
  | _, .empty => .empty
  | _, .start _ => .start place.isStart
  | _, .stop _ => .stop place.isStop
  | begins, .oneOf set _ => .oneOf set (begins && set.holds c)
  | begins, .seq _ p q =>
    ofSeq (step place c begins p) (step place c (begins && p.here.passes || p.here.ends) q)
  | begins, .alt _ p q => ofAlt (step place c begins p) (step place c begins q)
  | begins, .star _ p => ofStar (step place c (begins || p.here.ends) p)
  | begins, .plus _ p => ofPlus (step place c (begins || p.here.ends) p)

/-- A match ends here or further on in the text. -/
def matchesIn (p : Marked) : List Char → Bool
  | [] => p.here.isMatch
  | c :: rest => p.here.isMatch || (p.step ⟨false, rest.isEmpty⟩ c true).matchesIn rest

end Marked

/-- The pattern occurs somewhere in the text. -/
def occursIn (p : Pattern) (text : String) : Bool :=
  let cs := text.toList
  (Marked.ofPattern ⟨true, cs.isEmpty⟩ p).matchesIn cs

end Wiring.Pattern
