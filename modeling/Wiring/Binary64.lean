/-!
# Binary64

Numbers with 53 significant bits and an eleven-bit exponent, in exact arithmetic: the number
nearest to a decimal, the shortest decimal that is nearest to a number, and the nearest whole
number.
-/

namespace Wiring

inductive Binary64 where
  /-- The mantissa times a power of two. -/
  | finite (negative : Bool) (mantissa : Nat) (exponent : Int)
  | infinite (negative : Bool)
  | nan
  deriving DecidableEq

namespace Binary64

/-- The numerator and denominator of a natural number times a power of a base. -/
def scaled (n base : Nat) (exponent : Int) : Nat × Nat :=
  match exponent with
  | .ofNat e => (n * Nat.pow base e, 1)
  | .negSucc e => (n, Nat.pow base (e + 1))

/-- A quotient rounded to the nearest whole number, a half to the even neighbour. -/
def roundHalfEven (num den : Nat) : Nat :=
  let q := num / den
  let twice := 2 * (num % den)
  if twice < den then q
  else if den < twice then q + 1
  else if q % 2 = 0 then q else q + 1

/-- The exponent of the greatest power of two that is at most a quotient of positive numbers. -/
def floorLog2 (num den : Nat) : Int :=
  let guess : Int := (num.log2 : Int) - den.log2
  let (n, d) := scaled den 2 guess
  if n ≤ num * d then guess else guess - 1

/-- The least mantissa of a number that is not subnormal. -/
def leastNormal : Nat := Nat.pow 2 52

/-- The number nearest to a positive quotient. The least exponent is that of the subnormal
numbers, and past the greatest mantissa and exponent everything is infinite. -/
def ofQuotient (negative : Bool) (num den : Nat) : Binary64 :=
  let exponent := max (floorLog2 num den - 52) (-1074)
  let (n, d) := scaled den 2 exponent
  let mantissa := roundHalfEven (num * d) n
  let (mantissa, exponent) :=
    if mantissa = 2 * leastNormal then (leastNormal, exponent + 1) else (mantissa, exponent)
  if 971 < exponent then .infinite negative else .finite negative mantissa exponent

/-- The number nearest to a decimal, its digits times a power of ten. -/
def ofDecimal (negative : Bool) (digits : Nat) (exponent : Int) : Binary64 :=
  if digits = 0 then .finite negative 0 (-1074)
  else
    let magnitude : Int := (Nat.toDigits 10 digits).length + exponent
    if 400 < magnitude then .infinite negative
    else if magnitude < -400 then .finite negative 0 (-1074)
    else
      let (num, den) := scaled digits 10 exponent
      ofQuotient negative num den

/-- The number nearest to a quotient times a power of two. -/
def ofScaled (num den : Nat) (exponent : Int) : Binary64 :=
  if num = 0 then .finite false 0 (-1074)
  else
    let (n, d) := scaled num 2 exponent
    ofQuotient false n (d * den)

/-- The number nearest to the product of two finite magnitudes. -/
def times : Binary64 → Binary64 → Binary64
  | .finite _ m e, .finite _ m' e' => ofScaled (m * m') 1 (e + e')
  | _, _ => .infinite false

/-- The number nearest to the quotient of two finite magnitudes. -/
def dividedBy : Binary64 → Binary64 → Binary64
  | .finite _ m e, .finite _ m' e' => ofScaled m m' (e - e')
  | _, _ => .infinite false

def withSign (negative : Bool) : Binary64 → Binary64
  | .finite _ mantissa exponent => .finite negative mantissa exponent
  | .infinite _ => .infinite negative
  | .nan => .nan

def isZero : Binary64 → Bool
  | .finite _ mantissa _ => mantissa = 0
  | _ => false

def isInfinite : Binary64 → Bool
  | .infinite _ => true
  | _ => false

/-- The powers of ten by which one multiplies or divides at once. -/
def maxPower : Int := 308

def powerOfTen (n : Int) : Binary64 := ofDecimal false 1 n

/-- A decimal in steps, each of which rounds: its digits, then their product or quotient with a
power of ten. The result need not be the nearest number; there is none when it is too great. -/
def ofParts? (negative : Bool) (digits : Nat) (exponent : Int) : Option Binary64 :=
  let start := ofDecimal false digits 0
  let magnitude :=
    if start.isZero then start
    else if maxPower < exponent then .infinite false
    else if 0 ≤ exponent then start.times (powerOfTen exponent)
    else if -maxPower ≤ exponent then start.dividedBy (powerOfTen (-exponent))
    else if -2 * maxPower ≤ exponent then
      (start.dividedBy (powerOfTen maxPower)).dividedBy (powerOfTen (-(exponent + maxPower)))
    else .finite false 0 (-1074)
  if magnitude.isInfinite then none else some (magnitude.withSign negative)

/-- The nearest natural number up to a bound, halves away from zero; negative numbers and what is
not a number give zero. -/
def toNat (bound : Nat) : Binary64 → Nat
  | .finite false mantissa exponent =>
    let (num, den) := scaled mantissa 2 exponent
    min bound ((2 * num + den) / (2 * den))
  | .infinite false => bound
  | _ => 0

/-! ## Shortest decimals -/

/-- The quotients that read back as a number: the number itself and the lower and the upper end, as
numerators over a common denominator. -/
structure Interval where
  value : Nat
  low : Nat
  high : Nat
  den : Nat
  /-- The ends belong to it. -/
  isClosed : Bool

def interval (mantissa : Nat) (exponent : Int) : Interval :=
  let (num, den) := scaled mantissa 2 exponent
  let (unit, _) := scaled 1 2 exponent
  let below := if mantissa = leastNormal ∧ -1074 < exponent then unit else 2 * unit
  ⟨4 * num, 4 * num - below, 4 * num + 2 * unit, 4 * den, mantissa % 2 = 0⟩

def Interval.holds (i : Interval) (num den : Nat) : Bool :=
  if i.isClosed then i.low * den ≤ num * i.den && num * i.den ≤ i.high * den
  else i.low * den < num * i.den && num * i.den < i.high * den

/-- The exponent of the greatest power of ten that is at most a positive quotient. -/
def floorLog10 (num den : Nat) : Int :=
  let guess : Int := ((Nat.toDigits 10 num).length : Int) - (Nat.toDigits 10 den).length
  let (n, d) := scaled den 10 guess
  if n ≤ num * d then guess else guess - 1

/-- The nearer of the two neighbours on the grid of multiples of a power of ten, if one reads back
as the number. A half goes to the upper one. -/
def onGrid (i : Interval) (exponent : Int) : Option Nat :=
  let (n, d) := scaled i.den 10 exponent
  let lower := i.value * d / n
  let candidates := [lower, lower + 1].filter fun k =>
    let (num, den) := scaled k 10 exponent
    i.holds num den
  match candidates with
  | [] => none
  | [k] => some k
  | k :: _ => if 2 * (i.value * d % n) < n then some k else some (k + 1)

/-- The fewest digits that read back as the number, with the power of ten they are multiplied by.
Seventeen always suffice. -/
def shortest (i : Interval) : Nat × Int :=
  let top := floorLog10 i.value i.den
  match (List.range 17).findSome? fun (n : Nat) =>
    (onGrid i (top - n)).map fun k => (k, top - (n : Int)) with
  | some found => found
  | none => (0, 0)

/-- Digits written with a point, never with an exponent. -/
def positional (digits : Nat) (exponent : Int) : String :=
  let text := String.ofList (Nat.toDigits 10 digits)
  match exponent with
  | .ofNat e => text ++ String.ofList (List.replicate e '0')
  | .negSucc e =>
    let places := e + 1
    let padded := List.replicate (places + 1 - text.length) '0' ++ text.toList
    let whole := padded.take (padded.length - places)
    let fraction := (padded.drop (padded.length - places)).reverse.dropWhile (· = '0')
    if fraction.isEmpty then String.ofList whole
    else String.ofList whole ++ "." ++ String.ofList fraction.reverse

def text : Binary64 → String
  | .finite negative mantissa exponent =>
    let magnitude :=
      if mantissa = 0 then "0"
      else
        let (digits, e) := shortest (interval mantissa exponent)
        positional digits e
    if negative then "-" ++ magnitude else magnitude
  | .infinite negative => if negative then "-inf" else "inf"
  | .nan => "NaN"

end Binary64

end Wiring
