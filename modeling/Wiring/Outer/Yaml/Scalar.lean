import Wiring.Document.Draft
import Wiring.Outer.Numeral

/-!
# Outer — Yaml — Scalar

What plain texts spell, alone or under a tag.
-/

namespace Wiring.Yaml

/-- What a tag says about a text. -/
inductive Typing where
  | untagged
  /-- A type that every document knows, by its name. -/
  | core (name : String)
  | foreign

/-- What the tags of core types begin with. -/
def coreStart : String := "tag:yaml.org,2002:"

/-- What a tag says where a directive may have given a meaning to one handle. Two signs stand for
core types; any other handle that is closed needs a directive. -/
def Typing.ofTag? (declared : Option (String × String)) (handle suffix : String) :
    Option Typing :=
  let meaning := (declared.filter (·.1 = handle)).map Prod.snd
  let isClosed := 2 ≤ handle.length && handle.startsWith "!" && handle.endsWith "!"
  let start := match meaning with
    | some start => some start
    | none =>
      if handle = "!!" then some coreStart else if isClosed then none else some handle
  start.map fun start => if start = coreStart then .core suffix else .foreign

def infinityTexts : List String :=
  [".inf", ".Inf", ".INF", "+.inf", "+.Inf", "+.INF", "-.inf", "-.Inf", "-.INF"]

def nanTexts : List String := [".nan", ".NaN", ".NAN"]

/-- The draft of a real number. Those without digits are real numbers too, but not of a kind that
can be used. -/
def real? (text : String) : Option Draft :=
  if text ∈ infinityTexts ∨ text ∈ nanTexts then some (.flawed .other .data none)
  else if text.toList.any Char.isDigit then (Numeral.real? text.toList).map .real
  else none

/-- A whole number of 64 bits that is marked by its base or by a plus, either of which may stand
before a sign. -/
def markedInteger? : List Char → Option Int
  | '0' :: 'x' :: cs => Numeral.integerOfBase? 16 cs
  | '0' :: 'o' :: cs => Numeral.integerOfBase? 8 cs
  | '+' :: cs => Numeral.integer? cs
  | _ => none

/-- What a text spells without a tag. -/
def ofUntagged (text : String) : Draft :=
  match markedInteger? text.toList with
  | some n => .int n
  | none =>
    if text = "" ∨ text = "~" ∨ text = "null" then .null
    else if text = "true" then .bool true
    else if text = "false" then .bool false
    else match Numeral.integer? text.toList with
      | some n => .int n
      | none => (real? text).getD (.str text)

/-- What a text spells as a core type, if it fits the type. A type that is not known has texts. -/
def ofCore? (name text : String) : Option Draft :=
  match name with
  | "bool" =>
    if text = "true" then some (.bool true)
    else if text = "false" then some (.bool false)
    else none
  | "int" => (Numeral.integer? text.toList).map .int
  | "float" => real? text
  | "null" => if text = "~" ∨ text = "null" then some .null else none
  | _ => some (.str text)

def Typing.draft? (typing : Typing) (text : String) : Option Draft :=
  match typing with
  | .untagged => some (ofUntagged text)
  | .core name => ofCore? name text
  | .foreign => some (.str text)

end Wiring.Yaml
