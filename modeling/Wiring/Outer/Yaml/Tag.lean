import Wiring.Outer.Yaml.Cursor

/-!
# Outer — Yaml — Tag

Tags, anchors and directives: what stands before a value or a document and says something about it.
-/

namespace Wiring.Yaml

/-! ## Names of resources -/

def isUriPart (c : Char) : Bool :=
  c.isAlphanum || "-#;/?:@&=+$,_.!~*'()[]%".toList.contains c

def isTagPart (c : Char) : Bool := isUriPart c && !isFlow c && c ≠ '!'

/-- An octet behind a percent sign. -/
def octet : List Char → Reads Nat
  | '%' :: rest => Numeral.hexDigits 2 0 rest
  | _ => none

/-- An escaped character: an octet of ASCII, or one past it, which opens a pair of octets that make
a number. -/
def escapedOctets (cs : List Char) : Option (Char × List Char) := do
  let (n, rest) ← octet cs
  if n < 0x80 then return (Char.ofNat n, rest)
  else if n < 0xC0 || 0xE0 ≤ n then none
  else
    let (m, rest) ← octet rest
    if m < 0x80 || 0xC0 ≤ m then none else (Numeral.char? (n * 256 + m)).map (·, rest)

/-- Characters of a class and escaped ones, as far as they go. -/
def uriText (isPart : Char → Bool) : (room : Nat) → List Char →
    Option (List Char × List Char)
  | 0, _ => none
  | _ + 1, [] => some ([], [])
  | room + 1, c :: rest =>
    if !isPart c then some ([], c :: rest)
    else do
      let (c, rest) ← if c = '%' then escapedOctets (c :: rest) else some (c, rest)
      let (cs, rest) ← uriText isPart room rest
      return (c :: cs, rest)

/-! ## Tags -/

/-- The handle of a tag, or as much of it as there is: in a directive a word must be closed. -/
def tagHandle (inDirective : Bool) : List Char → Reads (List Char)
  | '!' :: rest =>
    let word := rest.takeWhile isWordPart
    match rest.drop word.length with
    | '!' :: rest => some ('!' :: word ++ ['!'], rest)
    | rest => if inDirective && !word.isEmpty then none else some ('!' :: word, rest)
  | _ => none

/-- A handle that is closed by a second sign. -/
def isClosed (handle : List Char) : Bool :=
  2 ≤ handle.length && handle.head? = some '!' && handle.getLast? = some '!'

/-- A tag as its handle and what follows. A single sign is a tag without a handle. -/
def tag (cs : List Char) : Option ((String × String) × List Char) :=
  match cs with
  | '!' :: '<' :: rest => do
    match ← uriText isUriPart (rest.length + 1) rest with
    | (text, '>' :: rest) => return (("", String.ofList text), rest)
    | _ => none
  | cs => do
    let (handle, rest) ← tagHandle false cs
    let (text, rest) ← uriText isTagPart (rest.length + 1) rest
    if isClosed handle then
      if text.isEmpty then none
      else return ((String.ofList handle, String.ofList text), rest)
    else
      match handle.drop 1 ++ text with
      | [] => return (("", "!"), rest)
      | text => return (("!", String.ofList text), rest)

/-! ## Anchors -/

def isAnchorPart (c : Char) : Bool := !isBreak c && !isBlank c && !isFlow c && c ≠ '\ufeff'

/-- The name of an anchor after its sign. -/
def anchorName (cs : List Char) : Reads String :=
  match cs.takeWhile isAnchorPart with
  | [] => none
  | name => some (String.ofList name, cs.dropWhile isAnchorPart)

/-! ## Directives -/

/-- A part of a version: at most nine digits. -/
def versionPart (cs : List Char) : Option (List Char) :=
  let digits := cs.takeWhile Char.isDigit
  if digits.isEmpty || 9 < digits.length then none else some (cs.drop digits.length)

/-- The text after a version. -/
def version (cs : List Char) : Option (List Char) := do
  match ← versionPart cs with
  | '.' :: rest => versionPart rest
  | _ => none

/-- What the tags of a handle begin with: a tag character or a sign, and then any others. -/
def tagStart (cs : List Char) : Reads String :=
  match cs with
  | [] => none
  | c :: rest =>
    if c = '!' then
      (uriText isUriPart (rest.length + 1) rest).map fun (text, rest) =>
        (String.ofList ('!' :: text), rest)
    else if !isTagPart c then none
    else (uriText isUriPart (rest.length + 2) cs).map fun (text, rest) =>
      (String.ofList text, rest)

/-- A handle and what its tags begin with. -/
def handleMeaning (cs : List Char) : Option ((String × String) × List Char) := do
  let (handle, rest) ← tagHandle true cs
  let (text, rest) ← tagStart (rest.dropWhile isBlank)
  if startsGap rest then return ((String.ofList handle, text), rest) else none

end Wiring.Yaml
