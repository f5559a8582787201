import Wiring.Form.Binding
import Wiring.Setup.Basic

/-!
# Form — Setup

The written form of options, declarations and whole setups, which may stand in JSON or TOML.

The decoders are taken to be the ones derived from the declarations, so they rest on what
`Wiring.Document.Decoder` assumes of derived decoders. All fields of a setup and of the options have
defaults; a binding needs its implementation, a capability declaration its capabilities, and a
lifetime rule both of its fields. Names are as declared, but for `type`, to which the type of a
lifetime rule is renamed.
-/

namespace Wiring

open Decoder RecordDecoder

namespace Options

def toValue (o : Options) : Value :=
  .record
    [("auto_binding", .bool o.autoBinding),
      ("auto_binding_filter", .ofOption .str o.autoBindingFilter),
      ("parameterless_fallback", .bool o.parameterlessFallback),
      ("wildcard_tag_matching", .bool o.wildcardTagMatching),
      ("strict_lifetimes", .bool o.strictLifetimes),
      ("default_lifetime", o.defaultLifetime.toValue), ("max_depth", .ofNat o.maxDepth)]

def fields : RecordDecoder Options :=
  Options.mk
    <$> optional "auto_binding" Options.standard.autoBinding bool
    <*> optional "auto_binding_filter" Options.standard.autoBindingFilter (option string)
    <*> optional "parameterless_fallback" Options.standard.parameterlessFallback bool
    <*> optional "wildcard_tag_matching" Options.standard.wildcardTagMatching bool
    <*> optional "strict_lifetimes" Options.standard.strictLifetimes bool
    <*> optional "default_lifetime" Options.standard.defaultLifetime Lifetime.decoder
    <*> optional "max_depth" Options.standard.maxDepth nat

def decoder : Decoder Options := fields.decode

end Options

namespace Catalog

def toValue (c : Catalog) : Value := .list (c.types.map Descriptor.toValue)

def decoder : Decoder Catalog := fun format d => (list Descriptor.decoder format d).map .mk

end Catalog

namespace Declaration

def toValue (d : Declaration) : Value :=
  .record
    [("contracts", .list (d.contracts.map TypeExpr.toValue)),
      ("tags", .list (d.tags.map Tag.toValue)),
      ("lifetime", .ofOption Lifetime.toValue d.lifetime),
      ("implementation", d.implementation.toValue), ("location", .ofOption .str d.location)]

def fields : RecordDecoder Declaration :=
  Declaration.mk
    <$> optional "contracts" [] (list TypeExpr.decoder)
    <*> optional "tags" [] (list Tag.decoder)
    <*> optional "lifetime" none (option Lifetime.decoder)
    <*> field "implementation" Implementation.decoder
    <*> optional "location" none (option string)

def decoder : Decoder Declaration := fields.decode

end Declaration

namespace CapabilityDeclaration

def toValue (d : CapabilityDeclaration) : Value :=
  .record
    [("capabilities", .list (d.capabilities.map TypeExpr.toValue)),
      ("tags", .list (d.tags.map Tag.toValue)),
      ("lifetime", .ofOption Lifetime.toValue d.lifetime),
      ("location", .ofOption .str d.location)]

def fields : RecordDecoder CapabilityDeclaration :=
  CapabilityDeclaration.mk
    <$> field "capabilities" (list TypeExpr.decoder)
    <*> optional "tags" [] (list Tag.decoder)
    <*> optional "lifetime" none (option Lifetime.decoder)
    <*> optional "location" none (option string)

def decoder : Decoder CapabilityDeclaration := fields.decode

end CapabilityDeclaration

namespace LifetimeRule

def toValue (rule : LifetimeRule) : Value :=
  .record [("type", rule.type.toValue), ("lifetime", rule.lifetime.toValue)]

def fields : RecordDecoder LifetimeRule :=
  LifetimeRule.mk <$> field "type" TypeExpr.decoder <*> field "lifetime" Lifetime.decoder

def decoder : Decoder LifetimeRule := fields.decode

end LifetimeRule

/-- Why a setup cannot be had, or a composition is not valid. -/
inductive SetupError where
  | fileNotFound
  /-- The fault that a JSON text has; for TOML nothing more is known. -/
  | unreadable (fault : Option ReadFault)
  /-- No format goes with the name of the file. -/
  | invalidDeclaration
  | options
  | validationFailed (errors : List String)
  deriving DecidableEq

/-- A file: the extension of its name, and its text unless there is no such file. -/
structure TextFile where
  extension : String
  text : Option String

namespace Setup

def toValue (s : Setup) : Value :=
  .record
    [("types", s.types.toValue), ("bindings", .list (s.bindings.map Declaration.toValue)),
      ("all_implementations", .list (s.allImplementations.map CapabilityDeclaration.toValue)),
      ("default_lifetimes", .list (s.defaultLifetimes.map LifetimeRule.toValue)),
      ("roots", .list (s.roots.map Root.toValue)),
      ("accumulators", .list (s.accumulators.map Accumulator.toValue)),
      ("options", .ofOption Options.toValue s.options)]

def fields : RecordDecoder Setup :=
  Setup.mk
    <$> optional "types" .empty Catalog.decoder
    <*> optional "bindings" [] (list Declaration.decoder)
    <*> optional "all_implementations" [] (list CapabilityDeclaration.decoder)
    <*> optional "default_lifetimes" [] (list LifetimeRule.decoder)
    <*> optional "roots" [] (list Root.decoder)
    <*> optional "accumulators" [] (list Accumulator.decoder)
    <*> optional "options" none (option Options.decoder)

def decoder : Decoder Setup := fields.decode

/-- The extension says by which reader a file is read. -/
def ofFile (toml json : String → Except SetupError Setup) (file : TextFile) :
    Except SetupError Setup :=
  match file.text with
  | none => .error .fileNotFound
  | some text =>
    if file.extension = "toml" then toml text
    else if file.extension = "json" then json text
    else .error .invalidDeclaration

end Setup

end Wiring
