import Wiring.Document.Draft
import Wiring.Outer.Numeral

/-!
# Outer — Ron — Reader

Reading RON: lists in brackets, records in braces, whose keys are values, and structures in
parentheses, which are records or lists and may have a name in front.
-/

namespace Wiring.Ron

/-! ## Blanks -/

def isSpace (c : Char) : Bool := c = ' ' || c = '\t' || c = '\n' || c = '\x0d'

/-- What stands between two tokens. Block comments stand inside each other. -/
inductive Gap where
  | blank
  | lineComment
  | blockComment (depth : Nat)

/-- The text after blanks and comments. A slash begins a comment, and a block must be closed. -/
def skipGap : Gap → List Char → Option (List Char)
  | .blank, '/' :: '/' :: rest => skipGap .lineComment rest
  | .blank, '/' :: '*' :: rest => skipGap (.blockComment 0) rest
  | .blank, c :: rest =>
    if isSpace c then skipGap .blank rest else if c = '/' then none else some (c :: rest)
  | .lineComment, c :: rest => skipGap (if c = '\n' then .blank else .lineComment) rest
  | .blockComment n, '/' :: '*' :: rest => skipGap (.blockComment (n + 1)) rest
  | .blockComment 0, '*' :: '/' :: rest => skipGap .blank rest
  | .blockComment (n + 1), '*' :: '/' :: rest => skipGap (.blockComment n) rest
  | .blockComment n, _ :: rest => skipGap (.blockComment n) rest
  | .blockComment _, [] => none
  | .blank, [] | .lineComment, [] => some []

def skipSpace (cs : List Char) : Option (List Char) := skipGap .blank cs

/-! ## Names -/

def isNamePart (c : Char) : Bool := c.isAlphanum || c = '_'

/-- Characters of a name that is marked as raw. -/
def isRawPart (c : Char) : Bool := isNamePart c || c = '.' || c = '+' || c = '-'

/-- A name, unless it is the start of a raw string. -/
def name (cs : List Char) : Reads String :=
  match cs with
  | ['r'] | 'r' :: '"' :: _ => none
  | 'r' :: '#' :: rest =>
    let raw := rest.takeWhile isRawPart
    if raw.isEmpty then none else some (String.ofList raw, rest.dropWhile isRawPart)
  | [] => none
  | c :: _ =>
    if c.isAlpha || c = '_' then
      some (String.ofList (cs.takeWhile isNamePart), cs.dropWhile isNamePart)
    else none

/-! ## Texts -/

/-- Up to six hexadecimal digits, at least one, and the brace that closes them. -/
def bracedDigits (cs : List Char) : Reads Nat :=
  let digits := (cs.take 6).takeWhile Numeral.isHexDigit
  match Numeral.ofBase? 16 digits, cs.drop digits.length with
  | some n, '\x7d' :: rest => some (n, rest)
  | _, _ => none

/-- A character after a backslash. -/
def escaped : List Char → Reads Char
  | '\'' :: rest => some ('\'', rest)
  | '"' :: rest => some ('"', rest)
  | '\\' :: rest => some ('\\', rest)
  | 'n' :: rest => some ('\n', rest)
  | 'r' :: rest => some ('\x0d', rest)
  | 't' :: rest => some ('\t', rest)
  | '0' :: rest => some ('\x00', rest)
  | 'x' :: rest => Numeral.codePoint 2 rest
  | 'u' :: '\x7b' :: rest =>
    (bracedDigits rest).bind fun (n, rest) => (Numeral.char? n).map (·, rest)
  | _ => none

/-- A string up to its closing quote; what was read of it has the latest first. -/
def string : (room : Nat) → List Char → List Char → Reads String
  | 0, _, _ => none
  | _ + 1, _, [] => none
  | _ + 1, done, '"' :: rest => some (String.ofList done.reverse, rest)
  | room + 1, done, '\\' :: rest =>
    (escaped rest).bind fun (c, rest) => string room (c :: done) rest
  | room + 1, done, c :: rest => string room (c :: done) rest

/-- A text without escapes up to a closing mark; what was read of it has the latest first. -/
def textBefore (mark : List Char) (done : List Char) : List Char → Reads String
  | [] => none
  | c :: rest =>
    if mark.isPrefixOf (c :: rest) then
      some (String.ofList done.reverse, (c :: rest).drop mark.length)
    else textBefore mark (c :: done) rest

/-- A raw string after its first letter. A quote with as many hashes as stand in front closes it. -/
def rawString (cs : List Char) : Reads String :=
  let hashes := cs.takeWhile (· = '#')
  match cs.drop hashes.length with
  | '"' :: rest => textBefore ('"' :: hashes) [] rest
  | _ => none

/-- A string, or a character between single quotes as one. -/
def text : List Char → Reads String
  | '"' :: rest => string (rest.length + 1) [] rest
  | 'r' :: rest => rawString rest
  | '\'' :: '\\' :: rest =>
    match escaped rest with
    | some (c, '\'' :: rest) => some (String.singleton c, rest)
    | _ => none
  | '\'' :: c :: '\'' :: rest => if c = '\'' then none else some (String.singleton c, rest)
  | _ => none

/-! ## Numbers -/

def isRealPart (c : Char) : Bool :=
  c.isDigit || c = '.' || c = 'e' || c = 'E' || c = '+' || c = '-' || c = '_'

def isWholePart (c : Char) : Bool := Numeral.isHexDigit c || c = '_'

/-- A whole number without a sign, with underscores behind its first digit. -/
def whole (cs : List Char) : Reads Nat :=
  let (base, cs) : Nat × List Char := match cs with
    | '0' :: 'x' :: cs => (16, cs)
    | '0' :: 'o' :: cs => (8, cs)
    | '0' :: 'b' :: cs => (2, cs)
    | cs => (10, cs)
  match cs.takeWhile isWholePart with
  | '_' :: _ => none
  | digits =>
    (Numeral.ofBase? base (digits.filter (· ≠ '_'))).map (·, cs.dropWhile isWholePart)

/-- A whole number: with a sign it must have 63 bits, without one 64. -/
def integer (cs : List Char) : Reads Int :=
  let outcome : Reads Int := match cs with
    | '-' :: cs => (whole cs).map fun (n, rest) => (-(n : Int), rest)
    | '+' :: cs => (whole cs).map fun (n, rest) => ((n : Int), rest)
    | cs => (whole cs).map fun (n, rest) => ((n : Int), rest)
  outcome.filter fun (n, _) => Value.fits64 n || (cs.head?.all Char.isDigit && n < UInt64.size)

/-- A real number, which may be endless but has no underscores. -/
def real (cs : List Char) : Reads Binary64 :=
  let (negative, unsigned) : Bool × List Char := match cs with
    | '-' :: rest => (true, rest)
    | '+' :: rest => (false, rest)
    | cs => (false, cs)
  match String.ofList (unsigned.takeWhile isNamePart) with
  | "inf" => some (.infinite negative, unsigned.dropWhile isNamePart)
  | "NaN" => some (.nan, unsigned.dropWhile isNamePart)
  | _ => (Numeral.real? (cs.takeWhile isRealPart)).map (·, cs.dropWhile isRealPart)

/-- A number that may be whole is so if it can be. -/
def number (cs : List Char) : Reads Draft :=
  let unsigned := match cs with
    | '-' :: rest | '+' :: rest => rest
    | cs => cs
  let mayBeWhole :=
    (unsigned.takeWhile isRealPart).length ≤ (unsigned.takeWhile isWholePart).length
  match if mayBeWhole then integer cs else none with
  | some (n, rest) => some (.int n, rest)
  | none => (real cs).map fun (x, rest) => (.real x, rest)

/-! ## Values -/

/-- A structure begins here that is a record: it has a field with a name and a colon. -/
def isRecord (cs : List Char) : Bool :=
  match (name cs).bind fun (_, rest) => skipSpace rest with
  | some (':' :: _) => true
  | _ => false

mutual

/-- A value that begins here and may hold others down to a depth. Each step takes a character, so
the length of the text bounds the steps. -/
def value : (room depth : Nat) → List Char → Option (Draft × List Char)
  | 0, _, _ => none
  | room + 1, depth, cs => do
    let rest := cs.dropWhile isNamePart
    match String.ofList (cs.takeWhile isNamePart), depth, cs with
    | "true", _, _ => return (.bool true, rest)
    | "false", _, _ => return (.bool false, rest)
    | "None", _, _ => return (.null, rest)
    | "inf", _, _ => return (.real (.infinite false), rest)
    | "NaN", _, _ => return (.real .nan, rest)
    | "Some", 0, _ => none
    | "Some", depth + 1, _ =>
      match ← skipSpace rest with
      | '(' :: rest =>
        let (d, rest) ← value room depth (← skipSpace rest)
        match ← skipSpace rest with
        | ')' :: rest => return (d, rest)
        | ',' :: rest =>
          match ← skipSpace rest with
          | ')' :: rest => return (d, rest)
          | _ => none
        | _ => none
      | _ => none
    | _, _, '(' :: ')' :: rest => return (.null, rest)
    | _, depth, cs =>
      match name cs with
      | some (_, rest) =>
        match ← skipSpace rest with
        | '(' :: rest => body room depth rest
        | rest => return (.null, rest)
      | none =>
        match depth, cs with
        | depth, '(' :: rest => body room depth rest
        | depth + 1, '[' :: rest =>
          let (ds, rest) ← items ']' room depth (← skipSpace rest)
          return (.list ds none, rest)
        | depth + 1, '\x7b' :: rest =>
          let (entries, rest) ← entries '\x7d' room depth (← skipSpace rest)
          return (.ofEntries entries, rest)
        | 0, '[' :: _ | 0, '\x7b' :: _ => none
        | _, c :: rest =>
          if c.isDigit || c = '+' || c = '-' || c = '.' then number (c :: rest)
          else (text (c :: rest)).map fun (s, rest) => (.str s, rest)
        | _, [] => none

/-- A structure after its opening parenthesis. -/
def body : (room depth : Nat) → List Char → Option (Draft × List Char)
  | 0, _, _ | _, 0, _ => none
  | room + 1, depth + 1, cs => do
    let cs ← skipSpace cs
    if isRecord cs then
      let (entries, rest) ← entries ')' room depth cs
      return (.ofEntries entries, rest)
    else
      let (ds, rest) ← items ')' room depth cs
      return (.list ds none, rest)

/-- Items from here to what closes them; a comma may stand before it. -/
def items (close : Char) : (room depth : Nat) → List Char → Option (List Draft × List Char)
  | 0, _, _ => none
  | _ + 1, _, [] => none
  | room + 1, depth, c :: rest =>
    if c = close then some ([], rest)
    else match depth with
      | 0 => none
      | inner + 1 => do
        let (d, rest) ← value room inner (c :: rest)
        match ← skipSpace rest with
        | ',' :: rest =>
          let (ds, rest) ← items close room depth (← skipSpace rest)
          return (d :: ds, rest)
        | c :: rest => if c = close then return ([d], rest) else none
        | [] => none

/-- Entries from here to what closes them; a comma may stand before it. Between parentheses keys
are names; elsewhere they are values, of which only texts can be used. -/
def entries (close : Char) : (room depth : Nat) → List Char →
    Option (List (Key × Draft) × List Char)
  | 0, _, _ => none
  | _ + 1, _, [] => none
  | room + 1, depth, c :: rest =>
    if c = close then some ([], rest)
    else match depth with
      | 0 => none
      | inner + 1 => do
        let key :=
          if close = ')' then (name (c :: rest)).map fun (key, rest) => (Key.text key, rest)
          else match text (c :: rest) with
            | some (key, rest) => some (.text key, rest)
            | none => (value room inner (c :: rest)).map fun (_, rest) => (.flawed .data, rest)
        let (key, rest) ← key
        match ← skipSpace rest with
        | ':' :: rest =>
          let (d, rest) ← value room inner (← skipSpace rest)
          match ← skipSpace rest with
          | ',' :: rest =>
            let (more, rest) ← entries close room depth (← skipSpace rest)
            return ((key, d) :: more, rest)
          | c :: rest => if c = close then return ([(key, d)], rest) else none
          | [] => none
        | _ => none

end

/-! ## Extensions -/

/-- The text after a token and blanks. -/
def token (word cs : List Char) : Option (List Char) :=
  if word.isPrefixOf cs then skipSpace (cs.drop word.length) else none

/-- Extensions that a text may ask for. They make no difference to its value. -/
def extensionNames : List String :=
  ["unwrap_newtypes", "implicit_some", "unwrap_variant_newtypes"]

/-- Names of extensions, at least one, with commas between them and maybe one behind. -/
def extensions : (room : Nat) → List Char → Option (List Char)
  | 0, _ => none
  | room + 1, cs => do
    let (extension, rest) ← name cs
    if extension ∉ extensionNames then none
    else match ← skipSpace rest with
      | ',' :: rest =>
        let rest ← skipSpace rest
        if rest.head?.any isNamePart then extensions room rest else return rest
      | rest => return rest

/-- The text after all requests for extensions, which stand at its start. -/
def skipRequests : (room : Nat) → List Char → Option (List Char)
  | 0, _ => none
  | room + 1, '#' :: rest => do
    let rest ← token ['!'] (← skipSpace rest)
    let rest ← token ['e', 'n', 'a', 'b', 'l', 'e'] (← token ['['] rest)
    let rest ← extensions room (← token ['('] rest)
    skipRequests room (← token [']'] (← token [')'] (← skipSpace rest)))
  | _ + 1, cs => some cs

/-- How many steps into values are allowed. A list or record takes one and what it holds another. -/
def maxDepth : Nat := 128

/-- The value that a text spells. -/
def parse? (text : String) : Option Value := do
  let cs := text.toList
  let cs ← skipRequests (cs.length + 1) (← skipSpace cs)
  let (d, rest) ← value (3 * cs.length + 3) maxDepth cs
  if (← skipSpace rest).isEmpty then d.whole.toOption else none

end Wiring.Ron
