import Wiring.Binding
import Wiring.Form.Metadata

/-!
# Form — Binding

The written form of bindings, roots and accumulators.
-/

namespace Wiring

open Decoder RecordDecoder

namespace Implementation

def toValue : Implementation → Value
  | .type t => .record [("type", t.toValue)]
  | .factory label sites =>
    .record [("factory", .record
      [("label", .str label), ("sites", .list (sites.map Site.toValue))])]
  | .argument name => .record [("arg", .record [("name", .str name)])]

def factoryFields : RecordDecoder Implementation :=
  Implementation.factory <$> field "label" string <*> optional "sites" [] (list Site.decoder)

def argumentFields : RecordDecoder Implementation :=
  Implementation.argument <$> field "name" string

def decoder : Decoder Implementation := variant fun name =>
  match name with
  | "type" => some (.payload fun format d => (TypeExpr.decoder format d).map .type)
  | "factory" => some (.payload factoryFields.payload)
  | "arg" => some (.payload argumentFields.payload)
  | _ => none

end Implementation

namespace Binding

def toValue (b : Binding) : Value :=
  .record
    [("contract", b.contract.toValue), ("tag", .ofOption Tag.toValue b.tag),
      ("lifetime", b.lifetime.toValue), ("implementation", b.implementation.toValue),
      ("location", .ofOption .str b.location)]

def fields : RecordDecoder Binding :=
  Binding.mk
    <$> field "contract" TypeExpr.decoder
    <*> optional "tag" none (option Tag.decoder)
    <*> optional "lifetime" .transient Lifetime.decoder
    <*> field "implementation" Implementation.decoder
    <*> optional "location" none (option string)

def decoder : Decoder Binding := fields.decode

end Binding

namespace Root

def toValue (r : Root) : Value :=
  .record
    [("name", .str r.name), ("type", r.contract.toValue),
      ("tag", .ofOption TagValue.toValue r.tag), ("location", .ofOption .str r.location)]

def fields : RecordDecoder Root :=
  Root.mk
    <$> field "name" string
    <*> field "type" TypeExpr.decoder
    <*> optional "tag" none (option TagValue.decoder)
    <*> optional "location" none (option string)

def decoder : Decoder Root := fields.decode

end Root

namespace Accumulator

def toValue (a : Accumulator) : Value :=
  .record
    [("contract", a.contract.toValue), ("accumulator", a.type.toValue),
      ("lifetimes", .list (a.lifetimes.map Lifetime.toValue))]

def fields : RecordDecoder Accumulator :=
  Accumulator.mk
    <$> field "contract" TypeExpr.decoder
    <*> field "accumulator" TypeExpr.decoder
    <*> optional "lifetimes" [] (list Lifetime.decoder)

def decoder : Decoder Accumulator := fields.decode

end Accumulator

end Wiring
