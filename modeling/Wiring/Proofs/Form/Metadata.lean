import Wiring.Proofs.Document.Decoder
import Wiring.Proofs.Tag

/-!
# Form — Metadata

Types, tags, lifetimes, sites and descriptors that were read are read again from their written form.
Of types and tags not all can be written, but those can that are ever read.
-/

namespace Wiring

open Decoder RecordDecoder

/-! ## Types, tags and lifetimes -/

theorem TypeExpr.decoder_reads {input : String} {type : TypeExpr} (h : parse input = .ok type) :
    decoder.Reads (.str input) type := by
  intro format
  have text : Decoder.string format (.str input) = .ok input := rfl
  simp only [ofValue, decoder, Value.draft, text, bind, Except.bind, h]
  rfl

theorem TypeExpr.decoder_restores : decoder.Restores toValue := by
  intro format draft type read
  obtain ⟨input, -, read⟩ := ok_of_bind read
  split at read
  · next parsed =>
    obtain rfl := Except.ok.inj read
    exact decoder_reads (wellFormed_of_parse parsed).parse_text
  · nomatch read

theorem TagValue.decoder_restores : decoder.Restores toValue :=
  fun _ _ _ read => (isFaithful_of_decoder read).decoder_toValue

theorem Tag.decoder_restores : decoder.Restores toValue :=
  fun _ _ _ read => (isFaithful_of_decoder read).decoder_toValue

theorem TagValue.toValue_ne_null (v : TagValue) : v.toValue ≠ .null := by cases v <;> nofun

theorem Lifetime.decoder_restores : decoder.Restores toValue := named_restores ofName?_name

theorem SiteKind.decoder_restores : decoder.Restores toValue :=
  named_restores fun kind => by cases kind <;> decide

/-! ## Sites and descriptors -/

theorem optionalText_restores : (option string).Restores (.ofOption .str) :=
  option_restores string_restores nofun

theorem ordinal_restores : (option int32).Restores ordinalValue :=
  option_restores int32_restores nofun

theorem requestTag_restores : (option TagValue.decoder).Restores (.ofOption TagValue.toValue) :=
  option_restores TagValue.decoder_restores TagValue.toValue_ne_null

theorem Site.decoder_restores : decoder.Restores toValue := by
  have covers : Covers fields _ _ :=
    (optional_covers SiteKind.decoder_restores fun _ => rfl).map Site.mk
      |>.seq (optional_covers string_restores fun _ => rfl)
      |>.seq (field_covers string_restores)
      |>.seq (field_covers TypeExpr.decoder_restores)
      |>.seq (optional_covers requestTag_restores (none_reads _))
      |>.seq (optional_covers ordinal_restores (none_reads _))
      |>.seq (optional_covers optionalText_restores (none_reads _))
  have distinct : fields.names.Nodup := by decide
  exact covers.restores distinct fun _ => rfl

theorem Constructor.decoder_restores : decoder.Restores toValue := by
  have covers : Covers fields _ _ :=
    (optional_covers bool_restores fun _ => rfl).map Constructor.mk
      |>.seq (optional_covers ordinal_restores (none_reads _))
      |>.seq (optional_covers (list_restores Site.decoder_restores) (nil_reads _))
  have distinct : fields.names.Nodup := by decide
  exact covers.restores distinct fun _ => rfl

theorem Descriptor.decoder_restores : decoder.Restores toValue := by
  have covers : Covers fields _ _ :=
    (field_covers TypeExpr.decoder_restores).map Descriptor.mk
      |>.seq (optional_covers bool_restores fun _ => rfl)
      |>.seq (optional_covers bool_restores fun _ => rfl)
      |>.seq (optional_covers (list_restores TypeExpr.decoder_restores) (nil_reads _))
      |>.seq (optional_covers (list_restores Constructor.decoder_restores) (nil_reads _))
      |>.seq (optional_covers (list_restores Site.decoder_restores) (nil_reads _))
  have distinct : fields.names.Nodup := by decide
  exact covers.restores distinct fun _ => rfl

end Wiring
