/-!
# Document — Moment

Dates and times of day, alone or together, and their text.
-/

namespace Wiring

structure Date where
  year : Nat
  month : Nat
  day : Nat
  deriving DecidableEq

/-- A minute may have a sixty-first second. -/
structure TimeOfDay where
  hour : Nat
  minute : Nat
  second : Nat
  nanosecond : Nat
  deriving DecidableEq

/-- How far a clock is from universal time. -/
inductive ClockOffset where
  | universal
  | ahead (minutes : Nat)
  | behind (minutes : Nat)
  deriving DecidableEq

inductive Moment where
  | date (date : Date)
  | time (time : TimeOfDay)
  | both (date : Date) (time : TimeOfDay) (offset : Option ClockOffset)
  deriving DecidableEq

/-! ## The calendar -/

namespace Date

def isLeap (year : Nat) : Bool := year % 4 = 0 && (year % 100 ≠ 0 || year % 400 = 0)

def daysIn (year month : Nat) : Nat :=
  if month = 2 then if isLeap year then 29 else 28
  else if month ∈ [4, 6, 9, 11] then 30
  else 31

end Date

/-! ## Text -/

/-- A number with zeros in front, up to a width. -/
def padded (width n : Nat) : List Char :=
  let digits := Nat.toDigits 10 n
  List.replicate (width - digits.length) '0' ++ digits

namespace Date

def text (d : Date) : List Char :=
  padded 4 d.year ++ '-' :: padded 2 d.month ++ '-' :: padded 2 d.day

end Date

namespace TimeOfDay

/-- Parts of a second, without the zeros that end them. -/
def fractionText (nanosecond : Nat) : List Char :=
  if nanosecond = 0 then []
  else '.' :: ((padded 9 nanosecond).reverse.dropWhile (· = '0')).reverse

def text (t : TimeOfDay) : List Char :=
  padded 2 t.hour ++ ':' :: padded 2 t.minute ++ ':' :: padded 2 t.second
    ++ fractionText t.nanosecond

end TimeOfDay

namespace ClockOffset

def minutesText (n : Nat) : List Char := padded 2 (n / 60) ++ ':' :: padded 2 (n % 60)

/-- An offset of no minutes is ahead. -/
def text : ClockOffset → List Char
  | .universal => ['Z']
  | .ahead n => '+' :: minutesText n
  | .behind n => (if n = 0 then '+' else '-') :: minutesText n

end ClockOffset

namespace Moment

def text : Moment → String
  | .date d => String.ofList d.text
  | .time t => String.ofList t.text
  | .both d t offset =>
    String.ofList (d.text ++ 'T' :: t.text ++ (offset.map ClockOffset.text).getD [])

end Moment

end Wiring
