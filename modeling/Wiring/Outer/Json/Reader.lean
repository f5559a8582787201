import Wiring.Document.Decoder
import Wiring.Outer.Numeral

/-!
# Outer — Json — Reader

Reading JSON. The reader never refuses a text: it drafts the value that the text spells as far as it
goes, and says whether something stands after it. A text or number that may not be read may still
be passed over, and then reading goes on behind it.
-/

namespace Wiring.Json

def isSpace (c : Char) : Bool := c = ' ' || c = '\n' || c = '\t' || c = '\x0d'

def skipSpace (cs : List Char) : List Char := cs.dropWhile isSpace

/-- What was read, and the text after it unless reading stopped inside. -/
abbrev Outcome := Draft × Option (List Char)

/-! ## Literals -/

/-- The rest of a word whose first letter was read. -/
def word (start : Start) (value : Draft) : List Char → List Char → Outcome
  | [], rest => (value, some rest)
  | _ :: _, [] => (.flawed start .eof (some .eof), none)
  | c :: more, d :: rest =>
    if c = d then word start value more rest
    else (.flawed start .syntaxError (some .syntaxError), none)

/-! ## Numbers -/

/-- Digits, at least one, and what follows them. -/
def someDigits (cs : List Char) : Except ReadFault (List Char × List Char) :=
  match cs.takeWhile Char.isDigit, cs.dropWhile Char.isDigit with
  | [], [] => .error .eof
  | [], _ :: _ => .error .syntaxError
  | digits, rest => .ok (digits, rest)

/-- The digits before the point: a zero stands alone. -/
def wholeDigits (cs : List Char) : Except ReadFault (List Char × List Char) :=
  match someDigits cs with
  | .ok ('0' :: _ :: _, _) => .error .syntaxError
  | outcome => outcome

/-- The digits after a point, if there is one. -/
def fractionDigits : List Char → Except ReadFault (Option (List Char) × List Char)
  | '.' :: rest => (someDigits rest).map fun (digits, rest) => (some digits, rest)
  | rest => .ok (none, rest)

def signedExponent (negative : Bool) (cs : List Char) :
    Except ReadFault (Option Int × List Char) :=
  (someDigits cs).map fun (digits, rest) =>
    let n : Int := Numeral.ofDigits digits
    (some (if negative then -n else n), rest)

/-- The exponent, if there is one. -/
def exponentPart : List Char → Except ReadFault (Option Int × List Char)
  | c :: rest =>
    if c = 'e' ∨ c = 'E' then
      match rest with
      | '+' :: rest => signedExponent false rest
      | '-' :: rest => signedExponent true rest
      | rest => signedExponent false rest
    else .ok (none, c :: rest)
  | [] => .ok (none, [])

/-- Digits taken into a number as long as it stays below 64 bits, and how many were taken. -/
def takeDigits (n : Nat) : List Char → Nat × Nat
  | [] => (n, 0)
  | c :: more =>
    let next := n * 10 + (c.toNat - '0'.toNat)
    if next < UInt64.size then
      let (m, taken) := takeDigits next more
      (m, taken + 1)
    else (n, 0)

/-- Whole numbers of at most 64 bits are integers. Any other number is real, of its digits those
count that make less than 64 bits, and one that is too great may not be read. -/
def numberValue (negative : Bool) (whole : List Char) (fraction : Option (List Char))
    (exponent : Option Int) : Draft :=
  let (n, taken) := takeDigits 0 whole
  let isWhole := fraction.isNone && exponent.isNone && taken = whole.length
  if isWhole && !negative then .int n
  else if isWhole && n ≠ 0 && Value.fits64 (-n) then .int (-n)
  else
    let (n, places) := takeDigits n (fraction.getD [])
    let exponent := (exponent.getD 0) + (whole.length - taken : Nat) - places
    match Binary64.ofParts? negative n exponent with
    | some x => .real x
    | none => .flawed .other .syntaxError none

/-- A number after its sign. Who passes over a broken one does not mind where it breaks off. -/
def number (negative : Bool) (cs : List Char) : Outcome :=
  let parts := do
    let (whole, rest) ← wholeDigits cs
    let (fraction, rest) ← fractionDigits rest
    let (exponent, rest) ← exponentPart rest
    return (numberValue negative whole fraction exponent, rest)
  match parts with
  | .ok (value, rest) => (value, some rest)
  | .error fault => (.flawed .other fault (some .syntaxError), none)

/-! ## Strings -/

/-- Four hexadecimal digits. The text ends too soon when fewer than four bytes are left of it. -/
def hex4 (cs : List Char) : Except ReadFault (Nat × List Char) :=
  if (String.ofList (cs.take 4)).utf8ByteSize < 4 then .error .eof
  else match Numeral.hexDigits 4 0 cs with
    | some outcome => .ok outcome
    | none => .error .syntaxError

/-- What a character after a backslash stands for, `u` apart. -/
def escape? : Char → Option Char
  | '"' => some '"'
  | '\\' => some '\\'
  | '/' => some '/'
  | 'b' => some '\x08'
  | 'f' => some '\x0c'
  | 'n' => some '\n'
  | 'r' => some '\x0d'
  | 't' => some '\t'
  | _ => none

/-- The second half of a surrogate pair. -/
def secondHalf : List Char → Except ReadFault (Nat × List Char)
  | [] | ['\\'] => .error .eof
  | '\\' :: 'u' :: rest =>
    match hex4 rest with
    | .ok (low, rest) =>
      if 0xDC00 ≤ low ∧ low < 0xE000 then .ok (low, rest) else .error .syntaxError
    | .error fault => .error fault
  | _ => .error .syntaxError

/-- A character after a backslash. Halves of surrogate pairs must stand together. -/
def escaped : List Char → Except ReadFault (Char × List Char)
  | [] => .error .eof
  | 'u' :: rest => do
    let (high, rest) ← hex4 rest
    if high < 0xD800 ∨ 0xE000 ≤ high then return (Char.ofNat high, rest)
    else if 0xDC00 ≤ high then throw .syntaxError
    else
      let (low, rest) ← secondHalf rest
      return (Char.ofNat (0x10000 + (high - 0xD800) * 0x400 + (low - 0xDC00)), rest)
  | c :: rest =>
    match escape? c with
    | some c => .ok (c, rest)
    | none => .error .syntaxError

/-- The characters of a string up to its closing quote, latest first in what was read so far. -/
def readString : (room : Nat) → List Char → List Char → Except ReadFault String
  | 0, _, _ => .error .eof
  | _ + 1, _, [] => .error .eof
  | _ + 1, done, '"' :: _ => .ok (String.ofList done.reverse)
  | room + 1, done, '\\' :: rest => do
    let (c, rest) ← escaped rest
    readString room (c :: done) rest
  | room + 1, done, c :: rest =>
    if c.toNat < 32 then .error .syntaxError else readString room (c :: done) rest

/-- The text after a character after a backslash. -/
def passEscaped : List Char → Except ReadFault (List Char)
  | [] => .error .eof
  | 'u' :: rest => (hex4 rest).map Prod.snd
  | c :: rest => if (escape? c).isSome then .ok rest else .error .syntaxError

/-- The text after a string's closing quote. -/
def passString : (room : Nat) → List Char → Except ReadFault (List Char)
  | 0, _ => .error .eof
  | _ + 1, [] => .error .eof
  | _ + 1, '"' :: rest => .ok rest
  | room + 1, '\\' :: rest => do passString room (← passEscaped rest)
  | room + 1, c :: rest =>
    if c.toNat < 32 then .error .syntaxError else passString room rest

/-- A string after its opening quote, for those who read it and for those who pass over it. -/
def string (cs : List Char) : Except ReadFault String × Except ReadFault (List Char) :=
  (readString (cs.length + 1) [] cs, passString (cs.length + 1) cs)

/-- A string as a value. -/
def stringValue (cs : List Char) : Outcome :=
  match string cs with
  | (.ok s, .ok rest) => (.str s, some rest)
  | (.error fault, .ok rest) => (.flawed .text fault none, some rest)
  | (.ok _, .error passing) => (.flawed .text passing (some passing), none)
  | (.error fault, .error passing) => (.flawed .text fault (some passing), none)

def keyOf : Except ReadFault String → Key
  | .ok s => .text s
  | .error fault => .flawed fault

/-! ## Values -/

mutual

/-- A value and what follows it. Each step takes a character, so the length of the text bounds the
steps. -/
def value : (room : Nat) → List Char → Outcome
  | 0, _ => (.missing .eof, none)
  | room + 1, cs =>
    match skipSpace cs with
    | [] => (.missing .eof, none)
    | 'n' :: rest => word .null .null ['u', 'l', 'l'] rest
    | 't' :: rest => word .other (.bool true) ['r', 'u', 'e'] rest
    | 'f' :: rest => word .other (.bool false) ['a', 'l', 's', 'e'] rest
    | '"' :: rest => stringValue rest
    | '[' :: rest =>
      match skipSpace rest with
      | ']' :: rest => (.list [] none, some rest)
      | rest =>
        let (items, stop, rest) := items room rest
        (.list items stop, rest)
    | '{' :: rest =>
      match skipSpace rest with
      | '}' :: rest => (.record [] none, some rest)
      | rest =>
        let (entries, stop, rest) := entries room rest
        (.record entries stop, rest)
    | '-' :: rest => number true rest
    | c :: rest =>
      if c.isDigit then number false (c :: rest) else (.missing .syntaxError, none)

/-- Items from the next one to the closing bracket, or to what stands in its place. -/
def items : (room : Nat) → List Char → List Draft × Option ReadFault × Option (List Char)
  | 0, _ => ([], some .eof, none)
  | room + 1, cs =>
    match value room cs with
    | (d, none) => ([d], none, none)
    | (d, some rest) =>
      match skipSpace rest with
      | ']' :: rest => ([d], none, some rest)
      | ',' :: rest =>
        match skipSpace rest with
        | ']' :: _ => ([d, .missing .syntaxError], none, none)
        | rest =>
          let (more, stop, rest) := items room rest
          (d :: more, stop, rest)
      | [] => ([d], some .eof, none)
      | _ => ([d], some .syntaxError, none)

/-- Entries from the next one to the closing brace, or to what stands in its place. -/
def entries : (room : Nat) → List Char →
    List (Key × Draft) × Option ReadFault × Option (List Char)
  | 0, _ => ([], some .eof, none)
  | room + 1, cs =>
    match skipSpace cs with
    | [] => ([(.absent .eof, .missing .eof)], none, none)
    | '"' :: rest =>
      match string rest with
      | (key, .error passing) => ([(keyOf key, .missing passing)], none, none)
      | (key, .ok rest) =>
        match skipSpace rest with
        | [] => ([(keyOf key, .missing .eof)], none, none)
        | ':' :: rest =>
          match value room rest with
          | (d, none) => ([(keyOf key, d)], none, none)
          | (d, some rest) =>
            match skipSpace rest with
            | '}' :: rest => ([(keyOf key, d)], none, some rest)
            | ',' :: rest =>
              let (more, stop, rest) := entries room rest
              ((keyOf key, d) :: more, stop, rest)
            | [] => ([(keyOf key, d)], some .eof, none)
            | _ => ([(keyOf key, d)], some .syntaxError, none)
        | _ => ([(keyOf key, .missing .syntaxError)], none, none)
    | _ => ([(.absent .syntaxError, .missing .syntaxError)], none, none)

end

/-- How many lists and records may stand inside each other. -/
def maxNesting : Nat := 127

/-- A whole text: its draft, and whether more than blanks follows it. -/
def draft (text : String) : Draft × Bool :=
  let cs := text.toList
  match value (2 * cs.length + 2) cs with
  | (d, some rest) => (d.bounded maxNesting, !(skipSpace rest).isEmpty)
  | (d, none) => (d.bounded maxNesting, false)

/-- Read a text and take its draft apart. What follows the value is a fault that comes last. -/
def read {α : Type} (decoder : Decoder α) (text : String) : Except ReadFault α := do
  let (d, isTrailed) := draft text
  let a ← decoder .json d
  if isTrailed then throw .syntaxError else return a

/-- The value of a text that is read as a whole. -/
def readWhole (text : String) : Except ReadFault Value := read (fun _ d => d.whole) text

end Wiring.Json
