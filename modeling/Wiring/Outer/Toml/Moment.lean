import Wiring.Outer.Numeral

/-!
# Outer — Toml — Moment

Reading dates and times of day, which stand for themselves or in a text of their own.
-/

namespace Wiring.Toml

/-- A number with a fixed count of digits, within bounds. -/
def boundedNumber (count low high : Nat) (cs : List Char) : Reads Nat :=
  let digits := cs.take count
  let n := Numeral.ofDigits digits
  if digits.length = count ∧ digits.all Char.isDigit ∧ low ≤ n ∧ n ≤ high then
    some (n, cs.drop count)
  else none

/-- The text after a separator. -/
def separator (c : Char) : List Char → Option (List Char)
  | [] => none
  | d :: rest => if c = d then some rest else none

def date (cs : List Char) : Option (Date × List Char) := do
  let (year, cs) ← boundedNumber 4 0 9999 cs
  let (month, cs) ← boundedNumber 2 1 12 (← separator '-' cs)
  let (day, cs) ← boundedNumber 2 1 (Date.daysIn year month) (← separator '-' cs)
  return (⟨year, month, day⟩, cs)

/-- Parts of a second after a point; what is less than a nanosecond is dropped. -/
def nanosecond : List Char → Nat × List Char
  | '.' :: rest =>
    let digits := rest.takeWhile Char.isDigit
    if digits.isEmpty then (0, '.' :: rest)
    else
      (Numeral.ofDigits ((digits ++ List.replicate 9 '0').take 9), rest.dropWhile Char.isDigit)
  | rest => (0, rest)

def hourMinute (cs : List Char) : Option ((Nat × Nat) × List Char) := do
  let (hour, cs) ← boundedNumber 2 0 23 cs
  let (minute, cs) ← boundedNumber 2 0 59 (← separator ':' cs)
  return ((hour, minute), cs)

def timeOfDay (cs : List Char) : Option (TimeOfDay × List Char) := do
  let ((hour, minute), cs) ← hourMinute cs
  let (second, cs) ← boundedNumber 2 0 60 (← separator ':' cs)
  let (nanosecond, cs) := nanosecond cs
  return (⟨hour, minute, second, nanosecond⟩, cs)

def clockOffset (cs : List Char) : Reads ClockOffset :=
  match cs with
  | 'Z' :: rest | 'z' :: rest => some (.universal, rest)
  | '+' :: rest => (hourMinute rest).map fun (t, rest) => (.ahead (t.1 * 60 + t.2), rest)
  | '-' :: rest => (hourMinute rest).map fun (t, rest) => (.behind (t.1 * 60 + t.2), rest)
  | _ => none

/-- The time of day that goes with a date before it. -/
def timeAfterDate : List Char → Reads TimeOfDay
  | c :: rest => if c = 'T' ∨ c = 't' ∨ c = ' ' then timeOfDay rest else none
  | [] => none

/-- As much of a moment as stands here. -/
def moment (cs : List Char) : Reads Moment :=
  match date cs with
  | none => (timeOfDay cs).map fun (t, rest) => (.time t, rest)
  | some (d, rest) =>
    match timeAfterDate rest with
    | none => some (.date d, rest)
    | some (t, rest) =>
      match clockOffset rest with
      | none => some (.both d t none, rest)
      | some (offset, rest) => some (.both d t (some offset), rest)

/-- The moment that a text spells from its start to its end. -/
def momentOfText? (text : String) : Option Moment :=
  match moment text.toList with
  | some (m, []) => some m
  | _ => none

end Wiring.Toml
