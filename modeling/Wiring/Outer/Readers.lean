import Wiring.Form.Setup
import Wiring.Outer.Json.Reader
import Wiring.Outer.Pattern.Marked
import Wiring.Outer.Pattern.Reader
import Wiring.Outer.Toml.Reader
import Wiring.Resolver.Basic

/-!
# Outer — Readers

The outer layer is what a program puts in the place of the readers that the library takes as
parameters: readers of patterns, of setups in their formats, and of options in layers. Other readers
do as well, and these need not read all that others do. No definition or theorem of the library
rests on them: what is proved of a composition holds for all readers.
-/

namespace Wiring

/-- A reader of the usual patterns. Of a text that it cannot read nothing more is said. -/
def Pattern.reader : PatternReader := fun text =>
  match parse? text with
  | some pattern => .ok pattern.occursIn
  | none => .error "<regex error>"

namespace Setup

def ofJson (text : String) : Except SetupError Setup :=
  (Json.read decoder text).mapError fun fault => .unreadable (some fault)

def ofToml (text : String) : Except SetupError Setup :=
  match Toml.parse? text with
  | none => .error (.unreadable none)
  | some v => (decoder.ofValue .toml v).mapError fun _ => .unreadable none

end Setup

end Wiring
