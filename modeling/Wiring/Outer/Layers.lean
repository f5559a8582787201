import Wiring.Form.Setup
import Wiring.Outer.Ini.Reader
import Wiring.Outer.Json.Reader
import Wiring.Outer.Json5.Reader
import Wiring.Outer.KeyPath
import Wiring.Outer.Ron.Reader
import Wiring.Outer.Text.Lower
import Wiring.Outer.Toml.Mark
import Wiring.Outer.Toml.Reader
import Wiring.Outer.Yaml.Reader

/-!
# Outer — Layers

Options put together from layers: a base, a file and the environment, later layers overriding
earlier ones key by key. A key may lead into a setting, and records are merged field by field.
Settings from texts need not have the type of their option; each option says what it makes of other
types.
-/

namespace Wiring

/-- Settings by key. -/
abbrev Settings := List (String × Value)

/-- Where options come from besides their base. -/
structure OptionsSource where
  file : Option TextFile
  /-- What the names of variables begin with, when the environment counts. -/
  environment : Option String

def OptionsSource.standard : OptionsSource := ⟨none, some "DI"⟩

namespace Settings

/-! ## Setting keys -/

/-- The settings inside a value. -/
def inside : Value → Settings
  | .record s => s
  | _ => []

mutual

/-- Set a key, which is taken in lower case. A record is merged into what was set before. -/
def put (s : Settings) (key : String) (v : Value) : Settings :=
  let key := Text.lower key
  match v with
  | .record fields => Value.insertField key (merge ((s.lookup key).getD (.record [])) fields) s
  | v => Value.insertField key v s

/-- Set some fields inside a value. Unless there are none it becomes a record. -/
def merge (before : Value) : List (String × Value) → Value
  | [] => before
  | (key, v) :: more => merge (.record (put (inside before) key v)) more

end

/-- Set what lies some steps inside a value. Whatever the steps lead through becomes a record, or a
list, in which no item is told from another. Names on the way are taken in lower case too. -/
def putAt (v : Value) : (before : Value) → List KeyStep → Value
  | _, [] => v
  | _, .item :: _ => .list []
  | before, [.field key] => .record (put (inside before) key v)
  | before, .field key :: steps =>
    let s := inside before
    let key := Text.lower key
    .record (Value.insertField key (putAt v ((s.lookup key).getD .null) steps) s)

/-- Set what a key leads to. -/
def set (s : Settings) (key : String) (v : Value) : Settings :=
  inside (putAt v (.record s) (KeyStep.ofKey key))

/-! ## Layers -/

/-- What the text of a variable means: a truth value, a number or itself. -/
def ofVariable (text : String) : Value :=
  if Text.lower text = "true" then .bool true
  else if Text.lower text = "false" then .bool false
  else match Numeral.integer? text.toList, Numeral.real? text.toList with
    | some n, _ => .int n
    | none, some x => .real x
    | none, none => .str text

/-- The variables whose names begin with a word and an underscore, without regard to case. -/
def ofEnvironment (word : String) (environment : List (String × String)) : Settings :=
  environment.filterMap fun (name, text) =>
    match (Text.lower (word ++ "_")).toList.isPrefixOf? (Text.lower name).toList with
    | some key => some (String.ofList key, ofVariable text)
    | none => none

/-- Whole numbers past 63 bits are real ones, and moments are texts. -/
def ofFileValue : Value → Value
  | .int n =>
    if Value.fits64 n then .int n else .real (.ofDecimal false n.toNat 0)
  | .moment m => .str m.text
  | v => v

def ofRecord : Value → Option Settings
  | .record fields =>
    some ((Value.sortedFields [] fields).map fun (key, v) => (key, ofFileValue v))
  | _ => none

/-- The value that a text spells in the format of an extension, if there is such a format. -/
def readFormat (extension text : String) : Option (Option Value) :=
  match extension with
  | "toml" => some ((Toml.parse? text).bind Toml.readMarks)
  | "json" => some (Json.readWhole text).toOption
  | "ini" => some (Ini.parse? text)
  | "json5" => some (Json5.parse? text)
  | "ron" => some (Ron.parse? text)
  | "yaml" | "yml" => some (Yaml.parse? text)
  | _ => none

/-- A file that is missing or of no known format has no settings; one that cannot be read is an
error. -/
def ofFile (file : TextFile) : Option Settings :=
  match file.text.bind (readFormat file.extension) with
  | some v => v.bind ofRecord
  | none => some []

/-- Options as settings. The depth must be within 63 bits. -/
def ofOptions (o : Options) : Option Settings :=
  if Value.fits64 o.maxDepth then ofRecord o.toValue else none

/-! ## Options from settings -/

def bool? : Value → Option Bool
  | .bool b => some b
  | .int n => some (n ≠ 0)
  | .real x => some (!x.isZero)
  | .str s =>
    if Text.lower s ∈ ["1", "true", "on", "yes"] then some true
    else if Text.lower s ∈ ["0", "false", "off", "no"] then some false
    else none
  | _ => none

def nat? : Value → Option Nat
  | .bool b => some (if b then 1 else 0)
  | .int n => if 0 ≤ n then some n.toNat else none
  | .real x => some (x.toNat (UInt64.size - 1))
  | .str s =>
    if Text.lower s ∈ ["true", "on", "yes"] then some 1
    else if Text.lower s ∈ ["false", "off", "no"] then some 0
    else Numeral.natural? s.toList
  | _ => none

def string? : Value → Option String
  | .bool b => some (if b then "true" else "false")
  | .int n => some (toString n)
  | .real x => some x.text
  | .str s => some s
  | _ => none

def optionalString? : Value → Option (Option String)
  | .null => some none
  | v => (string? v).map some

def lifetimeNamed? (name : String) : Option Lifetime :=
  Lifetime.all.find? fun lifetime => Text.lower lifetime.name = Text.lower name

def lifetime? : Value → Option Lifetime
  | .str name => lifetimeNamed? name
  | .record [(name, _)] => lifetimeNamed? name
  | _ => none

/-- The setting of a key as a type of option. -/
def get? {α : Type} (s : Settings) (key : String) (convert : Value → Option α) : Option α :=
  (s.lookup key).bind convert

def options? (s : Settings) : Option Options := do
  return {
    autoBinding := ← s.get? "auto_binding" bool?
    autoBindingFilter := ← s.get? "auto_binding_filter" optionalString?
    parameterlessFallback := ← s.get? "parameterless_fallback" bool?
    wildcardTagMatching := ← s.get? "wildcard_tag_matching" bool?
    strictLifetimes := ← s.get? "strict_lifetimes" bool?
    defaultLifetime := ← s.get? "default_lifetime" lifetime?
    maxDepth := ← s.get? "max_depth" nat? }

end Settings

/-- Options over a base: first a file, then the environment. -/
def OptionsSource.over (source : OptionsSource) (environment : List (String × String))
    (base : Options) : Except SetupError Options :=
  let settings := do
    let base ← Settings.ofOptions base
    let file ← match source.file with
      | some file => Settings.ofFile file
      | none => some []
    let set := match source.environment with
      | some word => Settings.ofEnvironment word environment
      | none => []
    Settings.options? ((base ++ file ++ set).foldl (fun s (key, v) => s.set key v) [])
  match settings with
  | some options => .ok options
  | none => .error .options

end Wiring
