import Wiring.Descriptor
import Wiring.Document.Decoder
import Wiring.Lifetime

/-!
# Form — Metadata

The written form of types, tags, lifetimes, sites and descriptors: how each is written as a value,
and how it is read from one.
-/

namespace Wiring

/-! ## Types and tags -/

namespace TypeExpr

def toValue (t : TypeExpr) : Value := .str t.text

def decoder : Decoder TypeExpr := fun format d => do
  match parse (← Decoder.string format d) with
  | .ok type => return type
  | .error _ => throw .data

end TypeExpr

/-- A tag is written as a number or a text. Its value is read as a whole before it is judged. -/
def tagScalar {α : Type} (ofNumber : Int64 → α) (ofText : String → Except NotationError α) :
    Decoder α := fun _ d => do
  match ← d.whole with
  | .int n => if Value.fits64 n then .ok (ofNumber (.ofInt n)) else .error .data
  | .str text => (ofText text).mapError fun _ => .data
  | _ => .error .data

namespace TagValue

def toValue : TagValue → Value
  | .text t => .str t
  | .number n => .int n.toInt
  | .type t => .str ("typeof:" ++ t.text)

def decoder : Decoder TagValue := tagScalar .number parse

end TagValue

namespace Tag

def toValue : Tag → Value
  | .value v => v.toValue
  | .any => .str "*"
  | .unique => .str "Unique"
  | .type => .str "Type"
  | .on patterns => .str ("on:" ++ ",".intercalate patterns)

def decoder : Decoder Tag := tagScalar (fun n => .value (.number n)) parse

end Tag

namespace TagKey

def toValue : TagKey → Value
  | .untagged => .str "None"
  | .value v => .record [("Value", v.toValue)]
  | .any => .str "Any"
  | .type => .str "Type"
  | .on patterns => .record [("On", .list (patterns.map .str))]
  | .unique n => .record [("Unique", .ofNat n)]

/-- A decoder's result made into another. -/
def payload {α : Type} (d : Decoder α) (f : α → TagKey) : Decoder.Variant TagKey :=
  .payload fun format draft => (d format draft).map f

def decoder : Decoder TagKey := Decoder.variant fun name =>
  match name with
  | "None" => some (.plain .untagged)
  | "Value" => some (payload TagValue.decoder .value)
  | "Any" => some (.plain .any)
  | "Type" => some (.plain .type)
  | "On" => some (payload (Decoder.list Decoder.string) .on)
  | "Unique" => some (payload Decoder.nat .unique)
  | _ => none

end TagKey

namespace Lifetime

def toValue (l : Lifetime) : Value := .str l.name

def decoder : Decoder Lifetime := Decoder.named ofName?

end Lifetime

/-! ## Sites -/

namespace SiteKind

def all : List SiteKind := [constructorParameter, property, field, methodParameter, implicit]

def name : SiteKind → String
  | constructorParameter => "constructor_parameter"
  | property => "property"
  | field => "field"
  | methodParameter => "method_parameter"
  | implicit => "implicit"

def ofName? (name : String) : Option SiteKind := all.find? fun kind => kind.name = name

def toValue (kind : SiteKind) : Value := .str kind.name

def decoder : Decoder SiteKind := Decoder.named ofName?

end SiteKind

def ordinalValue (ordinal : Option Int32) : Value := .ofOption (fun n => .int n.toInt) ordinal

open Decoder RecordDecoder

namespace Site

def toValue (site : Site) : Value :=
  .record
    [("kind", site.kind.toValue), ("member", .str site.member), ("name", .str site.name),
      ("type", site.contract.toValue), ("tag", .ofOption TagValue.toValue site.tag),
      ("ordinal", ordinalValue site.ordinal), ("location", .ofOption .str site.location)]

def fields : RecordDecoder Site :=
  Site.mk
    <$> optional "kind" .constructorParameter SiteKind.decoder
    <*> optional "member" "ctor" string
    <*> RecordDecoder.field "name" string
    <*> RecordDecoder.field "type" TypeExpr.decoder
    <*> optional "tag" none (option TagValue.decoder)
    <*> optional "ordinal" none (option int32)
    <*> optional "location" none (option string)

def decoder : Decoder Site := fields.decode

end Site

/-! ## Descriptors -/

namespace Constructor

def toValue (c : Constructor) : Value :=
  .record
    [("public", .bool c.isPublic), ("ordinal", ordinalValue c.ordinal),
      ("params", .list (c.params.map Site.toValue))]

def fields : RecordDecoder Constructor :=
  Constructor.mk
    <$> optional "public" true bool
    <*> optional "ordinal" none (option int32)
    <*> optional "params" [] (list Site.decoder)

def decoder : Decoder Constructor := fields.decode

end Constructor

namespace Descriptor

def toValue (d : Descriptor) : Value :=
  .record
    [("name", d.type.toValue), ("concrete", .bool d.isConcrete),
      ("disposable", .bool d.isDisposable),
      ("implements", .list (d.implements.map TypeExpr.toValue)),
      ("constructors", .list (d.constructors.map Constructor.toValue)),
      ("members", .list (d.members.map Site.toValue))]

def fields : RecordDecoder Descriptor :=
  Descriptor.mk
    <$> RecordDecoder.field "name" TypeExpr.decoder
    <*> optional "concrete" true bool
    <*> optional "disposable" false bool
    <*> optional "implements" [] (list TypeExpr.decoder)
    <*> optional "constructors" [] (list Constructor.decoder)
    <*> optional "members" [] (list Site.decoder)

def decoder : Decoder Descriptor := fields.decode

end Descriptor

end Wiring
