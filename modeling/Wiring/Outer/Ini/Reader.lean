import Wiring.Outer.Numeral
import Wiring.Text.Blank

/-!
# Outer — Ini — Reader

Reading INI: keys with their values, line by line, in sections. Values are texts. A backslash
escapes the next character everywhere, and what a sign or bracket closes may go over several lines.
-/

namespace Wiring.Ini

/-! ## Texts -/

/-- The character whose number four hexadecimal digits spell; a plus may stand for the first. -/
def hexChar? (digits : List Char) : Option Char :=
  (Numeral.unsignedOfBase? 16 digits).bind Numeral.char?

/-- What a backslash and the characters after it stand for: before a line break, nothing. -/
def escaped : List Char → Reads (List Char)
  | [] => none
  | '0' :: rest => some (['\x00'], rest)
  | 'a' :: rest => some (['\x07'], rest)
  | 'b' :: rest => some (['\x08'], rest)
  | 't' :: rest => some (['\t'], rest)
  | 'r' :: rest => some (['\x0d'], rest)
  | 'n' :: rest => some (['\n'], rest)
  | '\n' :: rest => some ([], rest)
  | 'x' :: a :: b :: c :: d :: rest => (hexChar? [a, b, c, d]).map fun ch => ([ch], rest)
  | 'x' :: _ => none
  | c :: rest => some ([c], rest)

/-- The text up to a character of a class, which is left; what was read of it has the latest first.
Where the class is open the end of the document ends the text too. -/
def textUntil (isEnd : Char → Bool) (isOpen : Bool) :
    (room : Nat) → List Char → List Char → Reads (List Char)
  | 0, _, _ => none
  | _ + 1, done, [] => if isOpen then some (done.reverse, []) else none
  | room + 1, done, c :: rest =>
    if isEnd c then some (done.reverse, c :: rest)
    else if c = '\\' then
      (escaped rest).bind fun (cs, rest) => textUntil isEnd isOpen room (cs ++ done) rest
    else textUntil isEnd isOpen room (c :: done) rest

def isLineEnd (c : Char) : Bool := c = '\n' || c = '\x0d'

def untilLineEnd (cs : List Char) : Reads (List Char) :=
  textUntil isLineEnd true (cs.length + 1) [] cs

def untilQuote (quote : Char) (cs : List Char) : Reads (List Char) :=
  textUntil (· = quote) false (cs.length + 1) [] cs

/-- A value after its sign. It may begin with a quoted part, and ends with the line. -/
def entryValue (cs : List Char) : Reads (List Char) :=
  match cs.dropWhile fun c => Text.isBlank c && !isLineEnd c with
  | [] => some ([], [])
  | c :: rest =>
    if c = '"' || c = '\'' then
      (untilQuote c rest).bind fun (quoted, rest) =>
        (untilLineEnd (rest.drop 1)).map fun (more, rest) => (quoted ++ more, rest)
    else untilLineEnd (c :: rest)

/-! ## Lines -/

/-- A document being read, with the latest first in all lists. The key is empty unless its value
comes next. -/
structure Reading where
  general : List (String × Value)
  sections : List (String × List (String × Value))
  key : List Char

namespace Reading

def openSection (r : Reading) (name : List Char) : Reading :=
  { r with sections := (String.ofList (Text.trimBlank name), []) :: r.sections }

/-- Give the key its value, in the open section if there is one. -/
def assign (r : Reading) (text : List Char) : Reading :=
  let field := (String.ofList r.key, Value.str (String.ofList (Text.trimBlank text)))
  match r.sections with
  | [] => { r with general := field :: r.general, key := [] }
  | (name, fields) :: more => { r with sections := (name, field :: fields) :: more, key := [] }

/-- The settings outside of sections, and then the sections as records. -/
def record (r : Reading) : Value :=
  .record (r.general.reverse ++
    r.sections.reverse.map fun (name, fields) => (name, .record fields.reverse))

end Reading

/-- Blanks and line breaks, as far as they go, and whether a line starts behind them. -/
def skipBlank (isLineStart : Bool) : List Char → Bool × List Char
  | [] => (isLineStart, [])
  | c :: rest =>
    if Text.isBlank c then skipBlank (c = '\n') rest else (isLineStart, c :: rest)

def isSign (c : Char) : Bool := c = '=' || c = ':'

/-- The rest of a document. Comments begin where their line does. -/
def entries : (room : Nat) → Reading → (isLineStart : Bool) → List Char → Option Reading
  | 0, _, _, _ => none
  | room + 1, r, isLineStart, cs =>
    match skipBlank isLineStart cs with
    | (_, []) => some r
    | (isLineStart, c :: rest) =>
      if c = ';' || c = '#' then
        if isLineStart then entries room r true ((rest.dropWhile (· ≠ '\n')).drop 1) else none
      else if c = '[' then
        (textUntil (· = ']') false (rest.length + 1) [] rest).bind fun (name, rest) =>
          entries room (r.openSection name) false (rest.drop 1)
      else if isSign c then
        if r.key.isEmpty then none
        else (entryValue rest).bind fun (text, rest) => entries room (r.assign text) false rest
      else
        (textUntil isSign false (rest.length + 2) [] (c :: rest)).bind fun (key, rest) =>
          entries room { r with key := Text.trimBlank key } false rest

/-- The record that a text spells. -/
def parse? (text : String) : Option Value :=
  let cs := text.toList
  (entries (cs.length + 1) ⟨[], [], []⟩ true cs).map Reading.record

end Wiring.Ini
