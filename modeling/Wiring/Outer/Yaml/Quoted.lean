import Wiring.Outer.Yaml.Cursor

/-!
# Outer — Yaml — Quoted

Texts between quotes. A single quote is written twice inside single quotes; inside double quotes a
backslash escapes. The room of a reader is more than the length of the text, as each step takes a
character.
-/

namespace Wiring.Yaml

/-- What a character after a backslash stands for by itself. -/
def simpleEscape? (c : Char) : Option Char :=
  match c with
  | '0' => some '\x00'
  | 'a' => some '\x07'
  | 'b' => some '\x08'
  | 't' | '\t' => some '\t'
  | 'n' => some '\n'
  | 'v' => some '\x0b'
  | 'f' => some '\x0c'
  | 'r' => some '\x0d'
  | 'e' => some '\x1b'
  | ' ' | '"' | '/' | '\\' => some c
  | 'N' => some '\u0085'
  | '_' => some '\u00a0'
  | 'L' => some '\u2028'
  | 'P' => some '\u2029'
  | _ => none

/-- A character after a backslash, with how many characters stand for it. -/
def escaped? : List Char → Option (Char × Nat)
  | 'x' :: rest => (Numeral.codePoint 2 rest).map fun (c, _) => (c, 3)
  | 'u' :: rest => (Numeral.codePoint 4 rest).map fun (c, _) => (c, 5)
  | 'U' :: rest => (Numeral.codePoint 8 rest).map fun (c, _) => (c, 9)
  | c :: _ => (simpleEscape? c).map (·, 1)
  | [] => none

/-- The characters up to a gap or the closing quote, added to those before, and whether an escaped
line break ends them. -/
def quotedWord (quote : Char) : (room : Nat) → List Char → Cursor →
    Option (List Char × Bool × Cursor)
  | 0, _, _ => none
  | room + 1, done, c =>
    if startsGap c.rest then some (done, false, c)
    else match c.rest with
      | '\'' :: '\'' :: _ =>
        if quote = '\'' then quotedWord quote room ('\'' :: done) (c.pass 2)
        else quotedWord quote room ('\'' :: done) (c.pass 1)
      | '\\' :: rest =>
        if quote = '\'' then quotedWord quote room ('\\' :: done) (c.pass 1)
        else if rest.head?.any isBreak then some (done, true, (c.pass 1).passBreak)
        else (escaped? rest).bind fun (ch, n) => quotedWord quote room (ch :: done) (c.pass (n + 1))
      | ch :: _ =>
        if ch = quote then some (done, false, c)
        else quotedWord quote room (ch :: done) (c.pass 1)
      | [] => none

/-- Blanks and line breaks between the words of a text, as the blanks of its line, latest first, and
how many breaks. Blanks at the start of a line do not count, and a tab may not indent it. -/
def quotedGap (indent : Int) : (room : Nat) → (isNewLine : Bool) → List Char → (breaks : Nat) →
    Cursor → Option (List Char × Nat × Cursor)
  | 0, _, _, _, _ => none
  | room + 1, isNewLine, blanks, breaks, c =>
    match c.rest with
    | [] => some (blanks, breaks, c)
    | ch :: _ =>
      if isBlank ch then
        if !isNewLine then quotedGap indent room false (ch :: blanks) breaks (c.passBlanks 1)
        else if ch = '\t' ∧ c.column < indent then none
        else quotedGap indent room true blanks breaks (c.passBlanks 1)
      else if isBreak ch then quotedGap indent room true [] (breaks + 1) c.passBreak
      else some (blanks, breaks, c)

/-- A text up to its closing quote; what was read of it has the latest first. -/
def quotedRest (indent : Int) (quote : Char) : (room : Nat) → List Char → Cursor →
    Option (List Char × Cursor)
  | 0, _, _ => none
  | room + 1, done, c =>
    if (c.column = 0 && startsMark c.rest) || c.column < indent then none
    else do
      let (done, isContinued, c) ← quotedWord quote room done c
      if c.rest.isEmpty then none
      else if !isContinued && c.rest.head? = some quote then return (done.reverse, c.pass 1)
      else
        let (blanks, breaks, c) ← quotedGap indent room isContinued [] 0 c
        let gap :=
          if isContinued then List.replicate breaks '\n'
          else if breaks = 0 then blanks
          else folded breaks
        quotedRest indent quote room (gap ++ done) c

/-- A text that begins with its opening quote. What follows on its line must set it apart, and
outside of brackets a key has one line. -/
def quoted (indent : Int) (inFlow : Bool) (quote : Char) (room : Nat) (c : Cursor) :
    Option (String × Cursor) := do
  let line := c.line
  let (text, c) ← quotedRest indent quote room [] (c.pass 1)
  let (_, c) ← c.passMargin
  let isApart := match c.rest with
    | [] => true
    | ':' :: _ => inFlow || line = c.line
    | ch :: _ => isBreak ch || (inFlow && (ch = ',' || ch = ']' || ch = '\x7d'))
  if isApart then some (String.ofList text, c) else none

end Wiring.Yaml
