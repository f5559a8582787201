import Wiring.Outer.Toml.Moment
import Wiring.Outer.Toml.Table

/-!
# Outer — Toml — Reader

Reading TOML: headers of tables and arrays of tables, and keys with their values.
-/

namespace Wiring.Toml

/-! ## Blanks -/

def skipBlanks (cs : List Char) : List Char := cs.dropWhile fun c => c = ' ' || c = '\t'

/-- Controls other than the tab may stand nowhere, not even in a comment. -/
def isControl (c : Char) : Bool := (c.toNat < 32 && c ≠ '\t') || c.toNat = 127

/-- The text after a line break, if one stands here. -/
def afterBreak? : List Char → Option (List Char)
  | '\n' :: rest => some rest
  | '\x0d' :: '\n' :: rest => some rest
  | _ => none

/-- The text after a comment, which ends before the line break. -/
def skipComment : List Char → Option (List Char)
  | '#' :: rest =>
    let rest := rest.dropWhile fun c => !isControl c
    if rest.isEmpty || (afterBreak? rest).isSome then some rest else none
  | rest => some rest

/-- The end of a line: blanks, a comment, and a line break or the end of the text. -/
def endOfLine (cs : List Char) : Option (List Char) :=
  (skipComment (skipBlanks cs)).bind fun rest =>
    if rest.isEmpty then some [] else afterBreak? rest

/-- Blanks, comments and line breaks between the items of an array. -/
def skipLines : (room : Nat) → List Char → Option (List Char)
  | 0, _ => none
  | room + 1, cs =>
    match skipComment (skipBlanks cs) with
    | none => none
    | some rest =>
      match afterBreak? rest with
      | some rest => skipLines room rest
      | none => some rest

/-! ## Strings -/

/-- A character after a backslash. -/
def escaped : List Char → Reads Char
  | 'b' :: rest => some ('\x08', rest)
  | 't' :: rest => some ('\t', rest)
  | 'n' :: rest => some ('\n', rest)
  | 'f' :: rest => some ('\x0c', rest)
  | 'r' :: rest => some ('\x0d', rest)
  | '"' :: rest => some ('"', rest)
  | '\\' :: rest => some ('\\', rest)
  | 'u' :: rest => Numeral.codePoint 4 rest
  | 'U' :: rest => Numeral.codePoint 8 rest
  | _ => none

/-- A string on one line up to its closing quote; what was read of it has the latest first. -/
def lineString (quote : Char) : (room : Nat) → List Char → List Char → Reads String
  | 0, _, _ => none
  | _ + 1, _, [] => none
  | room + 1, done, c :: rest =>
    if c = quote then some (String.ofList done.reverse, rest)
    else if c = '\\' ∧ quote = '"' then
      (escaped rest).bind fun (c, rest) => lineString quote room (c :: done) rest
    else if isControl c then none
    else lineString quote room (c :: done) rest

/-- Blanks and line breaks, as far as they go. -/
def skipSpace : List Char → List Char
  | '\x0d' :: '\n' :: rest => skipSpace rest
  | c :: rest => if c = ' ' || c = '\t' || c = '\n' then skipSpace rest else c :: rest
  | [] => []

/-- A backslash before the end of a line takes the line break and all blanks after it away. -/
def skipContinued (cs : List Char) : Option (List Char) :=
  (afterBreak? (skipBlanks cs)).map skipSpace

/-- A string over several lines up to its three closing quotes, before which up to two quotes may
belong to the text. -/
def blockString (quote : Char) : (room : Nat) → List Char → List Char → Reads String
  | 0, _, _ => none
  | _ + 1, _, [] => none
  | room + 1, done, c :: rest =>
    let quotes := (c :: rest).takeWhile (· = quote)
    if 3 ≤ quotes.length then
      if quotes.length ≤ 5 then
        let kept := List.replicate (quotes.length - 3) quote
        some (String.ofList (kept ++ done).reverse, (c :: rest).drop quotes.length)
      else none
    else if c = '\\' ∧ quote = '"' then
      match skipContinued rest with
      | some rest => blockString quote room done rest
      | none => (escaped rest).bind fun (c, rest) => blockString quote room (c :: done) rest
    else match afterBreak? (c :: rest) with
      | some rest => blockString quote room ('\n' :: done) rest
      | none => if isControl c then none else blockString quote room (c :: done) rest

/-- A string after its first opening quote. -/
def string (quote : Char) (cs : List Char) : Reads String :=
  match cs with
  | a :: b :: rest =>
    if a = quote ∧ b = quote then
      let rest := (afterBreak? rest).getD rest
      blockString quote (rest.length + 1) [] rest
    else lineString quote (cs.length + 1) [] cs
  | _ => lineString quote (cs.length + 1) [] cs

/-! ## Keys -/

def isBareKey (c : Char) : Bool := c.isAlphanum || c = '_' || c = '-'

def simpleKey (cs : List Char) : Reads String :=
  match cs with
  | '"' :: rest => lineString '"' (rest.length + 1) [] rest
  | '\'' :: rest => lineString '\'' (rest.length + 1) [] rest
  | cs =>
    let bare := cs.takeWhile isBareKey
    if bare.isEmpty then none else some (String.ofList bare, cs.dropWhile isBareKey)

/-- A key's parts between its dots, and blanks after it. -/
def keyParts : (room : Nat) → List Char → Reads (List String)
  | 0, _ => none
  | room + 1, cs =>
    match simpleKey (skipBlanks cs) with
    | none => none
    | some (key, rest) =>
      match skipBlanks rest with
      | '.' :: rest => (keyParts room rest).map fun (path, rest) => (key :: path, rest)
      | rest => some ([key], rest)

/-- Keys, and arrays and inline tables inside each other, go no deeper. -/
def maxNesting : Nat := 79

/-- A key with its dots, and blanks after it. -/
def dottedKey (cs : List Char) : Reads (List String) :=
  (keyParts (cs.length + 1) cs).bind fun (path, rest) =>
    if path.length ≤ maxNesting then some (path, rest) else none

/-! ## Numbers -/

/-- Digits of a class with single underscores between them. -/
def separatedDigits (isDigit : Char → Bool) (cs : List Char) : Option (List Char) :=
  match cs with
  | [] => none
  | [c] => if isDigit c then some [c] else none
  | c :: '_' :: rest =>
    if isDigit c then (separatedDigits isDigit rest).map (c :: ·) else none
  | c :: rest => if isDigit c then (separatedDigits isDigit rest).map (c :: ·) else none

/-- A whole number, within 64 bits with a sign. -/
def integer (n : Int) : Option Value :=
  if Value.fits64 n then some (.int n) else none

def radix (base : Nat) (isDigit : Char → Bool) (cs : List Char) : Option Value :=
  (separatedDigits isDigit cs).bind fun digits =>
    (Numeral.ofBase? base digits).bind fun n => integer n

/-- Decimal digits without a needless zero in front. -/
def wholeDigits (cs : List Char) : Option (List Char) :=
  match separatedDigits Char.isDigit cs with
  | some ('0' :: _ :: _) => none
  | outcome => outcome

def exponentDigits (cs : List Char) : Option Int :=
  match cs with
  | '-' :: cs => (separatedDigits Char.isDigit cs).map fun ds => -(Numeral.ofDigits ds : Int)
  | '+' :: cs => (separatedDigits Char.isDigit cs).map fun ds => (Numeral.ofDigits ds : Int)
  | cs => (separatedDigits Char.isDigit cs).map fun ds => (Numeral.ofDigits ds : Int)

/-- A number after its sign: whole, or with a fraction or an exponent, which make it real. A real
number may be too small but not too great. -/
def decimal (negative : Bool) (cs : List Char) : Option Value :=
  let isMark := fun c : Char => c = 'e' || c = 'E'
  let mantissa := cs.takeWhile fun c => !isMark c
  let whole := mantissa.takeWhile (· ≠ '.')
  (wholeDigits whole).bind fun digits =>
    let fraction := match mantissa.drop whole.length with
      | [] => some none
      | _ :: cs => (separatedDigits Char.isDigit cs).map some
    let exponent := match cs.drop mantissa.length with
      | [] => some none
      | _ :: cs => (exponentDigits cs).map some
    match fraction, exponent with
    | some none, some none =>
      let n : Int := Numeral.ofDigits digits
      integer (if negative then -n else n)
    | some fraction, some exponent =>
      let places := fraction.getD []
      let x := Binary64.ofDecimal negative (Numeral.ofDigits (digits ++ places))
        (exponent.getD 0 - places.length)
      if x.isInfinite && !negative then none else some (.real x)
    | _, _ => none

def signedNumber (negative : Bool) (cs : List Char) : Option Value :=
  if cs = ['i', 'n', 'f'] then some (.real (.infinite negative))
  else if cs = ['n', 'a', 'n'] then some (.real .nan)
  else decimal negative cs

/-- A word that is neither quoted nor a moment: a truth value or a number. -/
def bareValue (cs : List Char) : Option Value :=
  match cs with
  | ['t', 'r', 'u', 'e'] => some (.bool true)
  | ['f', 'a', 'l', 's', 'e'] => some (.bool false)
  | '0' :: 'x' :: cs => radix 16 Numeral.isHexDigit cs
  | '0' :: 'o' :: cs => radix 8 (fun c => '0' ≤ c && c ≤ '7') cs
  | '0' :: 'b' :: cs => radix 2 (fun c => c = '0' || c = '1') cs
  | '+' :: cs => signedNumber false cs
  | '-' :: cs => signedNumber true cs
  | cs => signedNumber false cs

def isBareValue (c : Char) : Bool :=
  c.isAlphanum || c = '_' || c = '-' || c = '+' || c = '.'

/-! ## Values -/

mutual

/-- A value that may hold arrays and inline tables down to a depth. Each step takes a character, so
the length of the text bounds the steps. -/
def value : (room depth : Nat) → List Char → Reads Value
  | 0, _, _ => none
  | room + 1, depth, cs =>
    match cs, depth with
    | '"' :: rest, _ => (string '"' rest).map fun (s, rest) => (.str s, rest)
    | '\'' :: rest, _ => (string '\'' rest).map fun (s, rest) => (.str s, rest)
    | '[' :: _, 0 | '{' :: _, 0 => none
    | '[' :: rest, depth + 1 => (items room depth rest).map fun (vs, rest) => (.list vs, rest)
    | '{' :: rest, depth + 1 =>
      match skipBlanks rest with
      | '}' :: rest => some (.record [], rest)
      | rest =>
        (inlineFields room depth [] rest).map fun (fs, rest) => (.record (fieldValues fs), rest)
    | cs, _ =>
      match moment cs with
      | some (m, rest) => some (.moment m, rest)
      | none => (bareValue (cs.takeWhile isBareValue)).map fun v => (v, cs.dropWhile isBareValue)

/-- The items of an array from here to its closing bracket; a comma may stand before it. -/
def items : (room depth : Nat) → List Char → Reads (List Value)
  | 0, _, _ => none
  | room + 1, depth, cs =>
    match skipLines (cs.length + 1) cs with
    | none => none
    | some (']' :: rest) => some ([], rest)
    | some cs =>
      match value room depth cs with
      | none => none
      | some (v, rest) =>
        match skipLines (rest.length + 1) rest with
        | some (']' :: rest) => some ([v], rest)
        | some (',' :: rest) => (items room depth rest).map fun (vs, rest) => (v :: vs, rest)
        | _ => none

/-- The keys of an inline table from here to its closing brace. -/
def inlineFields : (room depth : Nat) → Fields → List Char → Reads Fields
  | 0, _, _, _ => none
  | room + 1, depth, fields, cs =>
    match dottedKey cs with
    | some (path, '=' :: rest) =>
      match value room depth (skipBlanks rest) with
      | none => none
      | some (v, rest) =>
        match fields.assign v path, skipBlanks rest with
        | some fields, '}' :: rest => some (fields, rest)
        | some fields, ',' :: rest => inlineFields room depth fields rest
        | _, _ => none
    | _ => none

end

/-! ## Lines -/

/-- A text being read: all tables so far, and the path of the open one. -/
structure Reading where
  fields : Fields
  path : List String

def openHeader (r : Reading) (isArray : Bool) (path : List String) : Option Reading :=
  match path.getLast? with
  | none => none
  | some key =>
    let change := if isArray then Fields.appendTable key else Fields.openTable key
    (Fields.modifyAt change path.dropLast r.fields).map fun fields => ⟨fields, path⟩

/-- A line that is not empty, with what follows it. -/
def line (r : Reading) (cs : List Char) : Reads Reading :=
  match cs with
  | '[' :: '[' :: rest =>
    match dottedKey rest with
    | some (path, ']' :: ']' :: rest) =>
      (openHeader r true path).bind fun r => (endOfLine rest).map (r, ·)
    | _ => none
  | '[' :: rest =>
    match dottedKey rest with
    | some (path, ']' :: rest) =>
      (openHeader r false path).bind fun r => (endOfLine rest).map (r, ·)
    | _ => none
  | cs =>
    match dottedKey cs with
    | some (key, '=' :: rest) =>
      (value (2 * rest.length + 2) maxNesting (skipBlanks rest)).bind fun (v, rest) =>
        (Fields.modifyAt (Fields.assign v key) r.path r.fields).bind fun fields =>
          (endOfLine rest).map fun rest => ({ r with fields }, rest)
    | _ => none

def lines : (room : Nat) → Reading → List Char → Option Reading
  | 0, _, _ => none
  | room + 1, r, cs =>
    match skipLines (cs.length + 1) cs with
    | none => none
    | some [] => some r
    | some cs => (line r cs).bind fun (r, rest) => lines room r rest

/-- The record that a text spells. A mark of the byte order may stand first. -/
def parse? (text : String) : Option Value :=
  let cs := match text.toList with
    | '\ufeff' :: cs => cs
    | cs => cs
  (lines (cs.length + 1) ⟨[], []⟩ cs).map fun r => .record (fieldValues r.fields)

end Wiring.Toml
