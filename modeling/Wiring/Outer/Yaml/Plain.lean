import Wiring.Outer.Yaml.Cursor

/-!
# Outer — Yaml — Plain

Texts without quotes. A colon before a gap ends them, as does a comment, and between brackets the
marks of lists and records do. They may go on over lines that are indented enough.
-/

namespace Wiring.Yaml

/-- A word of a plain text does not go on here. -/
def endsWord (inFlow : Bool) : List Char → Bool
  | [] => true
  | ':' :: rest => startsGap rest || (inFlow && startsFlow rest)
  | c :: _ => isBlank c || isBreak c || (inFlow && isFlow c)

def plainWord (inFlow : Bool) : List Char → List Char
  | [] => []
  | c :: rest => if endsWord inFlow (c :: rest) then [] else c :: plainWord inFlow rest

/-- Blanks and line breaks between the words of a text, as the blanks of its line, latest first, and
how many breaks. Where the text must be indented only an empty line may hold a tab, and the break
behind a comment does not count. -/
def plainGap (indent : Int) : (room : Nat) → List Char → (breaks : Nat) → Cursor →
    Option (List Char × Nat × Cursor)
  | 0, _, _, _ => none
  | room + 1, blanks, breaks, c =>
    match c.rest with
    | [] => some (blanks, breaks, c)
    | ch :: _ =>
      if isBlank ch then
        if !c.atLineStart then plainGap indent room (ch :: blanks) breaks (c.passBlanks 1)
        else if ch = '\t' ∧ c.column < indent then
          c.passEmptyLine.bind fun c => plainGap indent room blanks breaks c
        else plainGap indent room blanks breaks (c.passBlanks 1)
      else if isBreak ch then
        plainGap indent room [] (if c.atLineStart then breaks + 1 else max breaks 1) c.passBreak
      else some (blanks, breaks, c)

/-- The words of a text from here on, behind a gap; what was read has the latest first. -/
def plainWords (indent : Int) (inFlow : Bool) : (room : Nat) → List Char → (gap : List Char) →
    Cursor → Option (List Char × Cursor)
  | 0, _, _, _ => none
  | room + 1, done, gap, c =>
    let word := plainWord inFlow c.rest
    let isOver := (c.column = 0 && startsMark c.rest) || c.rest.head? = some '#'
    if !isOver && inFlow && c.rest.head? = some '-' && startsFlow (c.rest.drop 1) then none
    else if isOver || word.isEmpty then some (done, c)
    else do
      let done := word.reverse ++ (gap ++ done)
      let c := c.pass word.length
      if c.rest.isEmpty || !startsGap c.rest then return (done, c)
      else
        let (blanks, breaks, c) ← plainGap indent room [] 0 c
        if !inFlow && c.column < indent then return (done, c)
        else plainWords indent inFlow room done (if breaks = 0 then blanks else folded breaks) c

/-- A text that is indented at least so far. -/
def plain (indent : Int) (inFlow : Bool) (room : Nat) (c : Cursor) : Option (String × Cursor) :=
  if inFlow && c.column < indent then none
  else (plainWords indent inFlow room [] [] c).bind fun (done, c) =>
    if done.isEmpty then none else some (String.ofList done.reverse, c)

end Wiring.Yaml
