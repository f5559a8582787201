import Wiring.Outer.Numeral
import Wiring.Outer.Text.Identifier
import Wiring.Text.Blank

/-!
# Outer — Json5 — Reader

Reading JSON5: JSON with comments, bare keys, either kind of quote, a comma behind the last item,
and numbers with a sign, a bare point or hexadecimal digits.
-/

namespace Wiring.Json5

/-! ## Blanks -/

def isLineEnd (c : Char) : Bool :=
  c = '\n' || c = '\x0d' || c = '\u2028' || c = '\u2029'

/-- All white space but the next-line control, and the mark of the byte order. -/
def isSpace (c : Char) : Bool := (Text.isBlank c && c ≠ '\u0085') || c = '\ufeff'

/-- What stands between two tokens. -/
inductive Gap where
  | blank
  | lineComment
  | blockComment

/-- The text after blanks and comments; a comment that is opened must be closed. -/
def skipGap : Gap → List Char → Option (List Char)
  | .blank, '/' :: '/' :: rest => skipGap .lineComment rest
  | .blank, '/' :: '*' :: rest => skipGap .blockComment rest
  | .blank, c :: rest => if isSpace c then skipGap .blank rest else some (c :: rest)
  | .lineComment, c :: rest => skipGap (if isLineEnd c then .blank else .lineComment) rest
  | .blockComment, '*' :: '/' :: rest => skipGap .blank rest
  | .blockComment, _ :: rest => skipGap .blockComment rest
  | .blockComment, [] => none
  | .blank, [] | .lineComment, [] => some []

def skipSpace (cs : List Char) : Option (List Char) := skipGap .blank cs

/-! ## Strings and names -/

/-- A part of a string: a character, or a unit of 16 bits, of which a character may take two. -/
inductive Piece where
  | char (c : Char)
  | unit (n : Nat)

/-- The characters of some pieces. Two halves of a surrogate pair must follow each other. -/
def textOf : List Piece → Option (List Char)
  | [] => some []
  | .char c :: more => (textOf more).map (c :: ·)
  | .unit n :: more =>
    match Numeral.char? n, more with
    | some c, more => (textOf more).map (c :: ·)
    | none, .unit low :: more =>
      if n < 0xDC00 ∧ 0xDC00 ≤ low ∧ low < 0xE000 then
        (textOf more).map (Char.ofNat (0x10000 + (n - 0xD800) * 0x400 + (low - 0xDC00)) :: ·)
      else none
    | none, _ => none

/-- What a character after a backslash stands for. -/
def escape (c : Char) : Char :=
  match c with
  | 'b' => '\x08'
  | 'f' => '\x0c'
  | 'n' => '\n'
  | 'r' => '\x0d'
  | 't' => '\t'
  | 'v' => '\x0b'
  | c => c

/-- What follows a backslash. Before a line break it stands for nothing. -/
def escaped : List Char → Reads (List Piece)
  | [] => none
  | '\x0d' :: '\n' :: rest => some ([], rest)
  | 'x' :: rest => (Numeral.hexDigits 2 0 rest).map fun (n, rest) => ([.unit n], rest)
  | 'u' :: rest => (Numeral.hexDigits 4 0 rest).map fun (n, rest) => ([.unit n], rest)
  | '0' :: rest => some ([.char '\x00'], rest)
  | c :: rest =>
    if isLineEnd c then some ([], rest)
    else if c.isDigit then none
    else some ([.char (escape c)], rest)

/-- A string up to its closing quote; what was read of it has the latest first. -/
def pieces (quote : Char) : (room : Nat) → List Piece → List Char → Reads (List Piece)
  | 0, _, _ => none
  | _ + 1, _, [] => none
  | room + 1, done, c :: rest =>
    if c = quote then some (done.reverse, rest)
    else if c = '\\' then
      (escaped rest).bind fun (ps, rest) => pieces quote room (ps ++ done) rest
    else if isLineEnd c then none
    else pieces quote room (.char c :: done) rest

/-- A string after its opening quote. -/
def string (quote : Char) (cs : List Char) : Reads String :=
  (pieces quote (cs.length + 1) [] cs).bind fun (ps, rest) =>
    (textOf ps).map fun text => (String.ofList text, rest)

def isNameStart (c : Char) : Bool := Text.isLetter c || c = '$' || c = '_'

def isNamePart (c : Char) : Bool := isNameStart c || Text.isJoining c

/-- The longest name from here on. -/
def namePieces (isFirst : Bool) : (room : Nat) → List Char → List Piece × List Char
  | 0, cs => ([], cs)
  | _ + 1, [] => ([], [])
  | room + 1, c :: rest =>
    if c = '\\' then
      match rest with
      | 'u' :: digits =>
        match Numeral.hexDigits 4 0 digits with
        | some (n, rest) =>
          let (ps, rest) := namePieces false room rest
          (.unit n :: ps, rest)
        | none => ([], c :: rest)
      | _ => ([], c :: rest)
    else if isNameStart c || (!isFirst && isNamePart c) then
      let (ps, rest) := namePieces false room rest
      (.char c :: ps, rest)
    else ([], c :: rest)

def key (cs : List Char) : Reads String :=
  match cs with
  | '"' :: rest => string '"' rest
  | '\'' :: rest => string '\'' rest
  | cs =>
    match namePieces true (cs.length + 1) cs with
    | ([], _) => none
    | (ps, rest) => (textOf ps).map fun text => (String.ofList text, rest)

/-! ## Words -/

/-- A number without a point or an exponent is whole and must have 64 bits with a sign; any other
must not be too great. A zero in front stands alone. -/
def decimal? (word : List Char) : Option Value :=
  let unsigned := match word with
    | '+' :: cs | '-' :: cs => cs
    | cs => cs
  match unsigned.takeWhile Char.isDigit with
  | '0' :: _ :: _ => none
  | _ =>
    if word.any fun c => c = '.' || c = 'e' || c = 'E' then
      ((Numeral.real? word).filter (!·.isInfinite)).map .real
    else (Numeral.integer? word).map .int

/-- Hexadecimal digits spell a number of 32 bits. -/
def hexadecimal? (digits : List Char) : Option Value :=
  ((Numeral.ofBase? 16 digits).filter (· < UInt32.size)).map Value.ofNat

/-- A word that is not quoted. -/
def bareValue? (word : List Char) : Option Value :=
  match String.ofList word with
  | "null" => some .null
  | "true" => some (.bool true)
  | "false" => some (.bool false)
  | "Infinity" => some (.real (.infinite false))
  | "-Infinity" => some (.real (.infinite true))
  | "NaN" | "-NaN" => some (.real .nan)
  | _ =>
    match word with
    | '0' :: 'x' :: digits | '0' :: 'X' :: digits => hexadecimal? digits
    | word => decimal? word

def isBareValue (c : Char) : Bool := c.isAlphanum || c = '.' || c = '+' || c = '-'

/-! ## Values -/

mutual

/-- A value that begins here. Each step takes a character, so the length of the text bounds the
steps. -/
def value : (room : Nat) → List Char → Option (Value × List Char)
  | 0, _ => none
  | room + 1, cs =>
    match cs with
    | '"' :: rest => (string '"' rest).map fun (s, rest) => (.str s, rest)
    | '\'' :: rest => (string '\'' rest).map fun (s, rest) => (.str s, rest)
    | '[' :: rest => do
      let (vs, rest) ← items room (← skipSpace rest)
      return (.list vs, rest)
    | '{' :: rest => do
      let (fields, rest) ← fields room (← skipSpace rest)
      return (.record fields, rest)
    | cs => (bareValue? (cs.takeWhile isBareValue)).map fun v => (v, cs.dropWhile isBareValue)

/-- The items of a list from here to its closing bracket; a comma may stand before it. -/
def items : (room : Nat) → List Char → Option (List Value × List Char)
  | 0, _ => none
  | _ + 1, ']' :: rest => some ([], rest)
  | room + 1, cs => do
    let (v, rest) ← value room cs
    match ← skipSpace rest with
    | ']' :: rest => return ([v], rest)
    | ',' :: rest =>
      let (vs, rest) ← items room (← skipSpace rest)
      return (v :: vs, rest)
    | _ => none

/-- The fields of a record from here to its closing brace; a comma may stand before it. -/
def fields : (room : Nat) → List Char → Option (List (String × Value) × List Char)
  | 0, _ => none
  | _ + 1, '}' :: rest => some ([], rest)
  | room + 1, cs => do
    let (name, rest) ← key cs
    match ← skipSpace rest with
    | ':' :: rest =>
      let (v, rest) ← value room (← skipSpace rest)
      match ← skipSpace rest with
      | '}' :: rest => return ([(name, v)], rest)
      | ',' :: rest =>
        let (more, rest) ← fields room (← skipSpace rest)
        return ((name, v) :: more, rest)
      | _ => none
    | _ => none

end

/-- The value that a text spells. -/
def parse? (text : String) : Option Value := do
  let cs := text.toList
  let (v, rest) ← value (2 * cs.length + 2) (← skipSpace cs)
  if (← skipSpace rest).isEmpty then some v else none

end Wiring.Json5
