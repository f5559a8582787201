import Mathlib.Data.List.DropRight
import Wiring.Form.Metadata
import Wiring.Proofs.Document.Decoder
import Wiring.Proofs.TypeExpr.Notation

/-!
# Tag

What becomes of a tag that is written and read again. Numbers and texts are the only forms that it
is written in, so a text that looks like a keyword, a list of patterns or the name of a type is read
as such; and a pattern comes back without what the list of patterns does not keep. The tags that
come back as they are, are just those that are ever read.
-/

namespace Wiring

namespace Text

/-! ## Pieces -/

theorem pieces_eq_splitOnP (isBreak : Char → Bool) (cs : List Char) :
    pieces isBreak cs = cs.splitOnP isBreak := by
  induction cs with
  | nil => rw [pieces, List.splitOnP_nil]
  | cons c cs ih =>
    rw [pieces, List.splitOnP_cons_eq_if_modifyHead, ih]
    split
    · rfl
    · obtain ⟨piece, more, split⟩ := List.exists_cons_of_ne_nil (List.splitOnP_ne_nil isBreak cs)
      rw [split]
      rfl

/-- There is no break in a piece. -/
theorem not_isBreak_of_mem_pieces {isBreak : Char → Bool} {cs piece : List Char}
    (h : piece ∈ pieces isBreak cs) : ∀ c ∈ piece, isBreak c = false := by
  induction cs generalizing piece with
  | nil =>
    obtain rfl := List.mem_singleton.1 h
    nofun
  | cons c cs ih =>
    rw [pieces] at h
    split at h
    · rcases List.mem_cons.1 h with rfl | later
      · nofun
      · exact ih later
    · next plain =>
      have plain := Bool.eq_false_iff.2 plain
      split at h
      · obtain rfl := List.mem_singleton.1 h
        exact List.forall_mem_singleton.2 plain
      · next first more split =>
        rcases List.mem_cons.1 h with rfl | later
        · exact List.forall_mem_cons.2 ⟨plain, ih (split ▸ List.mem_cons_self)⟩
        · exact ih (split ▸ List.mem_cons_of_mem _ later)

/-! ## Trimming -/

/-- No white space at either end. -/
structure IsTrimmed (cs : List Char) : Prop where
  first : ∀ c ∈ cs.head?, isBlank c = false
  last : ∀ c ∈ cs.getLast?, isBlank c = false

theorem trimBlank_eq (cs : List Char) : trimBlank cs = (cs.dropWhile isBlank).rdropWhile isBlank :=
  rfl

theorem trimBlank_infix (cs : List Char) : trimBlank cs <:+: cs :=
  (List.rdropWhile_prefix ..).isInfix.trans (List.dropWhile_suffix ..).isInfix

theorem isTrimmed_trimBlank (cs : List Char) : IsTrimmed (trimBlank cs) where
  first c isFirst := by
    -- What is dropped at the end leaves the first character where it is.
    obtain ⟨more, split⟩ := List.rdropWhile_prefix isBlank (cs.dropWhile isBlank)
    have head : (cs.dropWhile isBlank).head? = some c := by
      rw [← split, List.head?_append, ← trimBlank_eq, Option.mem_def.1 isFirst, Option.some_or]
    have kept := List.head?_dropWhile_not isBlank cs
    rw [head] at kept
    exact kept
  last c isLast := by
    obtain ⟨nonempty, rfl⟩ := List.mem_getLast?_eq_getLast isLast
    exact Bool.eq_false_iff.2 (List.rdropWhile_last_not isBlank _ nonempty)

theorem IsTrimmed.trimBlank_eq {cs : List Char} (h : IsTrimmed cs) : trimBlank cs = cs := by
  have first : cs.dropWhile isBlank = cs := by
    cases cs with
    | nil => rfl
    | cons c cs => exact List.dropWhile_cons_of_neg (Bool.eq_false_iff.1 (h.first c rfl))
  rw [Text.trimBlank_eq, first, List.rdropWhile_eq_self_iff]
  exact fun nonempty => Bool.eq_false_iff.1 (h.last _ (List.getLast?_eq_some_getLast nonempty))

/-! ## Openings -/

/-- A text begins with another one. -/
def Opens (start text : String) : Prop := start.toList <+: text.toList

theorem isPrefixOf?_append (start rest : String) :
    start.toList.isPrefixOf? (start ++ rest).toList = some rest.toList :=
  List.isPrefixOf?_eq_some_iff_append_eq.2 String.toList_append.symm

theorem isPrefixOf?_eq_none_iff {start text : String} :
    start.toList.isPrefixOf? text.toList = none ↔ ¬ Opens start text := by
  rw [Option.eq_none_iff_forall_ne_some, Opens, List.IsPrefix, not_exists]
  exact forall_congr' fun rest => not_congr List.isPrefixOf?_eq_some_iff_append_eq

end Text

/-! ## Patterns -/

/-- A pattern that a list of patterns can hold. -/
structure IsPattern (pattern : String) : Prop where
  nonempty : pattern ≠ ""
  noComma : ',' ∉ pattern.toList
  trimmed : Text.IsTrimmed pattern.toList

theorem isPattern_of_mem_tagPatterns {list : List Char} {pattern : String}
    (h : pattern ∈ tagPatterns list) : IsPattern pattern := by
  obtain ⟨_, trimmed, kept⟩ := List.mem_filterMap.1 h
  obtain ⟨piece, cut, rfl⟩ := List.mem_map.1 trimmed
  split at kept
  · nomatch kept
  · next nonempty =>
    obtain rfl := Option.some.inj kept
    refine ⟨?_, ?_, ?_⟩
    · rw [ne_eq, String.ofList_eq_empty_iff, ← List.isEmpty_iff]
      exact nonempty
    · rw [String.toList_ofList]
      intro comma
      have inside := (Text.trimBlank_infix piece).subset comma
      nomatch Text.not_isBreak_of_mem_pieces cut ',' inside
    · rw [String.toList_ofList]
      exact Text.isTrimmed_trimBlank piece

/-- A text is read as the patterns that its pieces are once they are trimmed. -/
theorem tagPatterns_of_pieces {list : List Char} {patterns : List String}
    (each : ∀ pattern ∈ patterns, IsPattern pattern)
    (cut : (Text.pieces (· = ',') list).map Text.trimBlank = patterns.map String.toList) :
    tagPatterns list = patterns := by
  rw [tagPatterns, cut, List.filterMap_map]
  refine (List.filterMap_congr fun pattern mem => ?_).trans List.filterMap_some
  have nonempty : ¬ pattern.toList.isEmpty := by simpa using (each pattern mem).nonempty
  rw [Function.comp_apply, String.ofList_toList, if_neg nonempty]

/-- Patterns that are written one after the other are read again. -/
theorem tagPatterns_intercalate {patterns : List String} (nonempty : patterns ≠ [])
    (each : ∀ pattern ∈ patterns, IsPattern pattern) :
    tagPatterns (",".intercalate patterns).toList = patterns := by
  refine tagPatterns_of_pieces each ?_
  have cut : Text.pieces (· = ',') (",".intercalate patterns).toList =
      patterns.map String.toList := by
    rw [Text.pieces_eq_splitOnP, String.toList_intercalate]
    refine List.splitOn_intercalate ',' ?_ (by simpa using nonempty)
    exact List.forall_mem_map.2 fun pattern mem => (each pattern mem).noComma
  rw [cut, List.map_map]
  exact List.map_congr_left fun pattern mem => (each pattern mem).trimmed.trimBlank_eq

/-! ## Scalars -/

section Scalars

variable {α : Type} {ofNumber : Int64 → α} {ofText : String → Except NotationError α}

theorem fits64_toInt (n : Int64) : Value.fits64 n.toInt = true := by
  rw [Value.fits64, Bool.and_eq_true, decide_eq_true_eq, decide_eq_true_eq]
  exact ⟨n.minValue_le_toInt, n.toInt_le⟩

theorem tagScalar_number (format : Format) (n : Int64) :
    tagScalar ofNumber ofText format (.int n.toInt) = .ok (ofNumber n) := by
  show (if Value.fits64 n.toInt then _ else _) = _
  rw [if_pos (fits64_toInt n), Int64.ofInt_toInt]

theorem tagScalar_text {text : String} {a : α} (format : Format) (h : ofText text = .ok a) :
    tagScalar ofNumber ofText format (.str text) = .ok a := by
  show (ofText text).mapError _ = _
  rw [h, Except.mapError]

/-- What is read comes from a number or from a text. -/
theorem of_tagScalar {format : Format} {d : Draft} {a : α}
    (h : tagScalar ofNumber ofText format d = .ok a) :
    (∃ n, a = ofNumber n) ∨ ∃ text, ofText text = .ok a := by
  obtain ⟨v, -, h⟩ := ok_of_bind h
  cases v with
  | int n =>
    dsimp only at h
    split at h
    · exact .inl ⟨_, (Except.ok.inj h).symm⟩
    · nomatch h
  | str text => exact .inr ⟨text, ok_of_mapError h⟩
  | _ => nomatch h

end Scalars

/-! ## Values -/

/-- A value that its written form stands for. -/
def TagValue.IsFaithful : TagValue → Prop
  | .text t => ¬ Text.Opens "typeof:" t
  | .number _ => True
  | .type t => TypeExpr.parse t.text = .ok t

namespace TagValue

theorem parse_of_not_opens {input : String} (plain : ¬ Text.Opens "typeof:" input) :
    parse input = .ok (.text input) := by
  rw [parse, Text.isPrefixOf?_eq_none_iff.2 plain]

theorem parse_typeof (name : String) :
    parse ("typeof:" ++ name) = (TypeExpr.parse name).map .type := by
  rw [parse, Text.isPrefixOf?_append]
  dsimp only
  rw [String.ofList_toList]

/-- A text is read as itself or as a type, and only a faithful value is ever read. -/
theorem parse_spec {input : String} {v : TagValue} (h : parse input = .ok v) :
    (v = .text input ∨ ∃ type, v = .type type) ∧ v.IsFaithful := by
  rw [parse] at h
  split at h
  · next rest opens =>
    obtain ⟨type, read, rfl⟩ := ok_of_map h
    exact ⟨.inr ⟨type, rfl⟩, (TypeExpr.wellFormed_of_parse read).parse_text⟩
  · next plain =>
    obtain rfl := Except.ok.inj h
    exact ⟨.inl rfl, Text.isPrefixOf?_eq_none_iff.1 plain⟩

theorem isFaithful_of_decoder {format : Format} {d : Draft} {v : TagValue}
    (h : decoder format d = .ok v) : v.IsFaithful := by
  obtain ⟨n, rfl⟩ | ⟨input, read⟩ := of_tagScalar h
  · trivial
  · exact (parse_spec read).2

theorem IsFaithful.decoder_toValue {v : TagValue} (h : v.IsFaithful) (format : Format) :
    decoder.ofValue format v.toValue = .ok v := by
  cases v with
  | text t => exact tagScalar_text format (parse_of_not_opens h)
  | number n => exact tagScalar_number format n
  | type t =>
    refine tagScalar_text format ?_
    have read : TypeExpr.parse t.text = .ok t := h
    rw [parse_typeof, read, Except.map]

end TagValue

/-! ## Tags -/

/-- A tag that its written form stands for. -/
def Tag.IsFaithful : Tag → Prop
  | .value (.text t) => t ≠ "*" ∧ t ≠ "Unique" ∧ t ≠ "Type" ∧ ¬ Text.Opens "on:" t ∧
      ¬ Text.Opens "typeof:" t
  | .value v => v.IsFaithful
  | .any | .unique | .type => True
  | .on patterns => patterns ≠ [] ∧ ∀ pattern ∈ patterns, IsPattern pattern

namespace Tag

/-- A text that is neither a keyword nor a list of patterns. -/
structure IsPlain (input : String) : Prop where
  notAny : input ≠ "*"
  notUnique : input ≠ "Unique"
  notType : input ≠ "Type"
  noList : ¬ Text.Opens "on:" input

theorem parse_of_isPlain {input : String} (plain : IsPlain input) :
    parse input = (TagValue.parse input).map .value := by
  rw [parse, if_neg plain.notAny, if_neg plain.notUnique, if_neg plain.notType,
    Text.isPrefixOf?_eq_none_iff.2 plain.noList]

theorem isPlain_typeof (name : String) : IsPlain ("typeof:" ++ name) := by
  constructor <;> simp [← String.toList_inj, Text.Opens]

theorem parse_on {list : String} {patterns : List String}
    (read : tagPatterns list.toList = patterns) (nonempty : patterns ≠ []) :
    parse ("on:" ++ list) = .ok (.on patterns) := by
  rw [← read] at nonempty ⊢
  rw [parse, if_neg (by simp [← String.toList_inj]), if_neg (by simp [← String.toList_inj]),
    if_neg (by simp [← String.toList_inj]), Text.isPrefixOf?_append]
  dsimp only
  split
  · next empty => exact absurd empty nonempty
  · rfl

theorem isFaithful_of_parse {input : String} {t : Tag} (h : parse input = .ok t) :
    t.IsFaithful := by
  rw [parse] at h
  split at h
  · obtain rfl := Except.ok.inj h
    trivial
  split at h
  · obtain rfl := Except.ok.inj h
    trivial
  split at h
  · obtain rfl := Except.ok.inj h
    trivial
  next notAny notUnique notType =>
  split at h
  · next rest opens =>
    split at h
    · nomatch h
    · next nonempty =>
      obtain rfl := Except.ok.inj h
      exact ⟨nonempty, fun _ => isPattern_of_mem_tagPatterns⟩
  · next noList =>
    obtain ⟨v, read, rfl⟩ := ok_of_map h
    obtain ⟨rfl | ⟨type, rfl⟩, faithful⟩ := TagValue.parse_spec read
    · exact ⟨notAny, notUnique, notType, Text.isPrefixOf?_eq_none_iff.1 noList, faithful⟩
    · exact faithful

theorem isFaithful_of_decoder {format : Format} {d : Draft} {t : Tag}
    (h : decoder format d = .ok t) : t.IsFaithful := by
  obtain ⟨n, rfl⟩ | ⟨input, read⟩ := of_tagScalar h
  · trivial
  · exact isFaithful_of_parse read

theorem decoder_of_parse {input : String} {t : Tag} (h : parse input = .ok t) (format : Format) :
    decoder format (.str input) = .ok t := tagScalar_text format h

theorem IsFaithful.decoder_toValue {t : Tag} (h : t.IsFaithful) (format : Format) :
    decoder.ofValue format t.toValue = .ok t := by
  cases t with
  | any | unique | type => exact decoder_of_parse rfl format
  | on patterns =>
    obtain ⟨nonempty, each⟩ := h
    exact decoder_of_parse (parse_on (tagPatterns_intercalate nonempty each) nonempty) format
  | value v =>
    cases v with
    | number n =>
      show tagScalar (fun n => .value (.number n)) parse format (.int n.toInt) = _
      rw [tagScalar_number]
    | text t =>
      obtain ⟨notAny, notUnique, notType, noList, noType⟩ := h
      refine decoder_of_parse ?_ format
      rw [parse_of_isPlain ⟨notAny, notUnique, notType, noList⟩,
        TagValue.parse_of_not_opens noType, Except.map]
    | type t =>
      have read : TypeExpr.parse t.text = .ok t := h
      refine decoder_of_parse ?_ format
      rw [parse_of_isPlain (isPlain_typeof t.text), TagValue.parse_typeof, read]
      rfl

/-- A tag is read back from its written form exactly when it is faithful, and no other tag is ever
read from a number or a text; and so for the values of tags. -/
theorem decoder_toValue_eq_ok_iff_isFaithful :
    (∀ (t : Tag) format, decoder.ofValue format t.toValue = .ok t ↔ t.IsFaithful) ∧
      (∀ (t : Tag) format draft, decoder format draft = .ok t → t.IsFaithful) ∧
      (∀ (v : TagValue) format,
        TagValue.decoder.ofValue format v.toValue = .ok v ↔ v.IsFaithful) ∧
      (∀ (v : TagValue) format draft, TagValue.decoder format draft = .ok v → v.IsFaithful) := by
  refine ⟨fun t format => ?_, fun t format draft => isFaithful_of_decoder, fun v format => ?_,
    fun v format draft => TagValue.isFaithful_of_decoder⟩
  · exact ⟨isFaithful_of_decoder, fun h => h.decoder_toValue format⟩
  · exact ⟨TagValue.isFaithful_of_decoder, fun h => h.decoder_toValue format⟩

end Tag

end Wiring
