import Wiring.Document.Value

/-!
# Outer — Numeral

Numbers as texts spell them, and characters by their numbers. Each reader of a whole text has none
left over; the others return what follows.
-/

namespace Wiring

/-- Something read and the text after it. -/
abbrev Reads (α : Type) := Option (α × List Char)

namespace Numeral

/-! ## Digits -/

def hexDigit? (c : Char) : Option Nat :=
  if '0' ≤ c ∧ c ≤ '9' then some (c.toNat - '0'.toNat)
  else if 'a' ≤ c ∧ c ≤ 'f' then some (c.toNat - 'a'.toNat + 10)
  else if 'A' ≤ c ∧ c ≤ 'F' then some (c.toNat - 'A'.toNat + 10)
  else none

def isHexDigit (c : Char) : Bool := (hexDigit? c).isSome

/-- The number that decimal digits spell. -/
def ofDigits (digits : List Char) : Nat :=
  digits.foldl (fun n c => n * 10 + (c.toNat - '0'.toNat)) 0

/-- Hexadecimal digits of a given count, after those that make a number. -/
def hexDigits : (count : Nat) → Nat → List Char → Reads Nat
  | 0, n, rest => some (n, rest)
  | _ + 1, _, [] => none
  | count + 1, n, c :: rest => (hexDigit? c).bind fun d => hexDigits count (n * 16 + d) rest

/-- The character with a number, if there is one. -/
def char? (n : Nat) : Option Char :=
  if h : n.isValidChar then some (Char.ofNatAux n h) else none

/-- A character by its number in hexadecimal digits of a given count. -/
def codePoint (count : Nat) (cs : List Char) : Reads Char :=
  (hexDigits count 0 cs).bind fun (n, rest) => (char? n).map (·, rest)

/-! ## Whole numbers -/

/-- Digits of a base below 17, at least one and nothing else. -/
def ofBase? (base : Nat) : List Char → Option Nat
  | [] => none
  | cs => cs.foldlM (fun n c => ((hexDigit? c).filter (· < base)).map (n * base + ·)) 0

/-- The number that a text spells which has nothing but digits. -/
def digits? (cs : List Char) : Option Nat := ofBase? 10 cs

/-- A number that may have a plus in front. -/
def unsignedOfBase? (base : Nat) : List Char → Option Nat
  | '+' :: cs => ofBase? base cs
  | cs => ofBase? base cs

/-- A number that may have a sign in front. -/
def signedOfBase? (base : Nat) : List Char → Option Int
  | '-' :: cs => (ofBase? base cs).map fun n => -(n : Int)
  | cs => (unsignedOfBase? base cs).map Int.ofNat

/-- A whole number of 64 bits without a sign. -/
def natural? (cs : List Char) : Option Nat := (unsignedOfBase? 10 cs).filter (· < UInt64.size)

/-- A whole number of 64 bits with a sign. -/
def integerOfBase? (base : Nat) (cs : List Char) : Option Int :=
  (signedOfBase? base cs).filter Value.fits64

def integer? (cs : List Char) : Option Int := integerOfBase? 10 cs

/-! ## Real numbers -/

/-- Digits with a point somewhere among or beside them, and an exponent if there is one. -/
def unsignedReal? (negative : Bool) (cs : List Char) : Option Binary64 :=
  let word := String.ofList (cs.map Char.toLower)
  if word = "inf" || word = "infinity" then some (.infinite negative)
  else if word = "nan" then some .nan
  else
    let mantissa := cs.takeWhile fun c => c ≠ 'e' && c ≠ 'E'
    let whole := mantissa.takeWhile (· ≠ '.')
    let places := (mantissa.drop whole.length).drop 1
    let exponent := match cs.drop mantissa.length with
      | [] => some 0
      | _ :: cs => signedOfBase? 10 cs
    match digits? (whole ++ places), exponent with
    | some n, some e => some (.ofDecimal negative n (e - places.length))
    | _, _ => none

def real? : List Char → Option Binary64
  | '+' :: cs => unsignedReal? false cs
  | '-' :: cs => unsignedReal? true cs
  | cs => unsignedReal? false cs

end Numeral

end Wiring
