import Mathlib
import Wiring.Form.Setup
import Wiring.Proofs.Form.Metadata

/-!
# Form — Setup

A setup that was read, from whatever document, is written in a form that is read as the same setup.
-/

namespace Wiring

open Decoder RecordDecoder

/-! ## Implementations -/

namespace Implementation

/-- Whatever is read as a variant is read again from what stands with its name. -/
def RestoresBeside (name : String) (d : Decoder Implementation) : Prop :=
  d.Produces fun a => ∃ v, a.toValue = .record [(name, v)] ∧ d.Reads v a

theorem type_restores :
    RestoresBeside "type" fun format d => (TypeExpr.decoder format d).map Implementation.type :=
  Produces.map TypeExpr.decoder_restores fun t reads =>
    ⟨t.toValue, rfl, reads.map Implementation.type⟩

theorem factoryFields_covers : Covers factoryFields
    (fun i : String × List Site => .factory i.1 i.2)
    fun i => [("label", .str i.1), ("sites", .list (i.2.map Site.toValue))] :=
  (field_covers string_restores).map Implementation.factory
    |>.seq (optional_covers (list_restores Site.decoder_restores) (nil_reads _))

theorem argumentFields_covers : Covers argumentFields .argument fun name => [("name", .str name)] :=
  (field_covers string_restores).map Implementation.argument

theorem factory_restores : RestoresBeside "factory" factoryFields.payload := by
  have distinct : factoryFields.names.Nodup := by decide
  intro format draft a read
  obtain ⟨i, rfl, reads⟩ := factoryFields_covers.payload distinct format draft a read
  exact ⟨_, rfl, reads⟩

theorem argument_restores : RestoresBeside "arg" argumentFields.payload := by
  have distinct : argumentFields.names.Nodup := by decide
  intro format draft a read
  obtain ⟨i, rfl, reads⟩ := argumentFields_covers.payload distinct format draft a read
  exact ⟨_, rfl, reads⟩

theorem decoder_restores : decoder.Restores toValue := by
  have beside {name : String} {p : Decoder Implementation} (h : RestoresBeside name p)
      (case : ∀ v a, p.Reads v a → decoder.Reads (.record [(name, v)]) a) :
      p.Produces fun a => decoder.Reads a.toValue a := by
    intro format draft a read
    obtain ⟨v, written, reads⟩ := h format draft a read
    rw [written]
    exact case v a reads
  refine variant_produces (fun name a case => ?_) fun name p case => ?_
  · split at case <;> nomatch case
  · split at case
    · obtain rfl := Variant.payload.inj (Option.some.inj case)
      exact beside type_restores fun _ _ => variant_reads rfl
    · obtain rfl := Variant.payload.inj (Option.some.inj case)
      exact beside factory_restores fun _ _ => variant_reads rfl
    · obtain rfl := Variant.payload.inj (Option.some.inj case)
      exact beside argument_restores fun _ _ => variant_reads rfl
    · nomatch case

end Implementation

/-! ## Bindings, roots and accumulators -/

theorem types_restore : (list TypeExpr.decoder).Restores fun types =>
    .list (types.map TypeExpr.toValue) := list_restores TypeExpr.decoder_restores

theorem tags_restore : (list Tag.decoder).Restores fun tags => .list (tags.map Tag.toValue) :=
  list_restores Tag.decoder_restores

theorem lifetime_restores : (option Lifetime.decoder).Restores (.ofOption Lifetime.toValue) :=
  option_restores Lifetime.decoder_restores nofun

theorem Root.decoder_restores : decoder.Restores toValue := by
  have covers : Covers fields _ _ :=
    (field_covers string_restores).map Root.mk
      |>.seq (field_covers TypeExpr.decoder_restores)
      |>.seq (optional_covers requestTag_restores (none_reads _))
      |>.seq (optional_covers optionalText_restores (none_reads _))
  have distinct : fields.names.Nodup := by decide
  exact covers.restores distinct fun _ => rfl

theorem Accumulator.decoder_restores : decoder.Restores toValue := by
  have covers : Covers fields _ _ :=
    (field_covers TypeExpr.decoder_restores).map Accumulator.mk
      |>.seq (field_covers TypeExpr.decoder_restores)
      |>.seq (optional_covers (list_restores Lifetime.decoder_restores) (nil_reads _))
  have distinct : fields.names.Nodup := by decide
  exact covers.restores distinct fun _ => rfl

theorem Declaration.decoder_restores : decoder.Restores toValue := by
  have covers : Covers fields _ _ :=
    (optional_covers types_restore (nil_reads _)).map Declaration.mk
      |>.seq (optional_covers tags_restore (nil_reads _))
      |>.seq (optional_covers lifetime_restores (none_reads _))
      |>.seq (field_covers Implementation.decoder_restores)
      |>.seq (optional_covers optionalText_restores (none_reads _))
  have distinct : fields.names.Nodup := by decide
  exact covers.restores distinct fun _ => rfl

theorem CapabilityDeclaration.decoder_restores : decoder.Restores toValue := by
  have covers : Covers fields _ _ :=
    (field_covers types_restore).map CapabilityDeclaration.mk
      |>.seq (optional_covers tags_restore (nil_reads _))
      |>.seq (optional_covers lifetime_restores (none_reads _))
      |>.seq (optional_covers optionalText_restores (none_reads _))
  have distinct : fields.names.Nodup := by decide
  exact covers.restores distinct fun _ => rfl

theorem LifetimeRule.decoder_restores : decoder.Restores toValue := by
  have covers : Covers fields _ _ :=
    (field_covers TypeExpr.decoder_restores).map LifetimeRule.mk
      |>.seq (field_covers Lifetime.decoder_restores)
  have distinct : fields.names.Nodup := by decide
  exact covers.restores distinct fun _ => rfl

/-! ## Setups -/

theorem Options.decoder_restores : decoder.Restores toValue := by
  have covers : Covers fields _ _ :=
    (optional_covers bool_restores fun _ => rfl).map Options.mk
      |>.seq (optional_covers optionalText_restores fun _ => rfl)
      |>.seq (optional_covers bool_restores fun _ => rfl)
      |>.seq (optional_covers bool_restores fun _ => rfl)
      |>.seq (optional_covers bool_restores fun _ => rfl)
      |>.seq (optional_covers Lifetime.decoder_restores fun _ => rfl)
      |>.seq (optional_covers nat_restores fun _ => rfl)
  have distinct : fields.names.Nodup := by decide
  exact covers.restores distinct fun _ => rfl

theorem Catalog.decoder_restores : decoder.Restores toValue :=
  Produces.map (list_restores Descriptor.decoder_restores) fun _ reads => reads.map Catalog.mk

theorem Setup.decoder_restores : decoder.Restores toValue := by
  have covers : Covers fields _ _ :=
    (optional_covers Catalog.decoder_restores fun _ => rfl).map Setup.mk
      |>.seq (optional_covers (list_restores Declaration.decoder_restores) (nil_reads _))
      |>.seq (optional_covers (list_restores CapabilityDeclaration.decoder_restores) (nil_reads _))
      |>.seq (optional_covers (list_restores LifetimeRule.decoder_restores) (nil_reads _))
      |>.seq (optional_covers (list_restores Root.decoder_restores) (nil_reads _))
      |>.seq (optional_covers (list_restores Accumulator.decoder_restores) (nil_reads _))
      |>.seq (optional_covers (option_restores Options.decoder_restores nofun) (none_reads _))
  have distinct : fields.names.Nodup := by decide
  exact covers.restores distinct fun _ => rfl

/-- Whatever document a setup was read from, and in whatever format, its written form is read as the
same setup in every format. -/
theorem Setup.decoder_reads_toValue (format : Format) (d : Draft) (s : Setup)
    (read : decoder format d = .ok s) (format' : Format) :
    decoder.ofValue format' s.toValue = .ok s :=
  decoder_restores format d s read format'

namespace Setup

/-! ### A short document

It leaves out what has defaults, spells types and tags freely, and has a field that is not known.
-/

def deskDocument : Value :=
  .record
    [("note", .list [.null]),
      ("roots", .list [.record [("type", .str "Lazy< IDesk >"), ("name", .str "main")]]),
      ("bindings", .list [.record
        [("implementation", .record [("factory", .record [("label", .str "desk")])]),
          ("contracts", .list [.str "IDesk"]),
          ("tags", .list [.str "on: App.* , ,Main", .int 7])]])]

def deskSetup : Setup :=
  { Setup.empty with
    bindings := [⟨[.named "IDesk" []], [.on ["App.*", "Main"], .value (.number 7)], none,
      .factory "desk" [], none⟩]
    roots := [.untagged "main" (.lazy (.named "IDesk" []))] }

theorem deskDocument_read : decoder.ofValue .json deskDocument = .ok deskSetup := by cbv

theorem decoder_reads_toValue_desk :
    decoder.ofValue .json deskDocument = .ok deskSetup ∧
      decoder.ofValue .toml deskSetup.toValue = .ok deskSetup :=
  ⟨deskDocument_read,
    decoder_reads_toValue .json deskDocument.draft deskSetup deskDocument_read .toml⟩

end Setup

end Wiring
