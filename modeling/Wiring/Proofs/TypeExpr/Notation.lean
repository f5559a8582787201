import Wiring.Proofs.TypeExpr.Language
import Wiring.TypeExpr.Printer

/-!
# TypeExpr — Notation

The printer against the reader. The text of a well-formed type spells tokens that the grammar
derives to this type, so the reader gives the type back; and the grammar derives no other types.
-/

namespace Wiring.TypeExpr

/-- A type that the notation can express: its names are identifiers, and none of them would be read
as a marker or as one of the built-in shapes. -/
inductive WellFormed : TypeExpr → Prop where
  | named {path args} (ident : IsIdent path) (alone : args = [] → ¬ IsMarkerName path)
      (applied : args ≠ [] → ∀ wrap, ¬ NamesShape path wrap)
      (each : ∀ arg ∈ args, WellFormed arg) : WellFormed (.named path args)
  | marker {name} (marks : IsMarkerName name) : WellFormed (.marker name)
  | tuple {items} (each : ∀ item ∈ items, WellFormed item) : WellFormed (.tuple items)
  | func {target} (well : WellFormed target) : WellFormed (.func target)
  | lazy {target} (well : WellFormed target) : WellFormed (.lazy target)
  | owned {target} (well : WellFormed target) : WellFormed (.owned target)
  | collection {kind element} (well : WellFormed element) : WellFormed (.collection kind element)

/-! ## Only well-formed types are derived -/

theorem WellFormed.shape {name : String} {wrap : TypeExpr → TypeExpr} {type : TypeExpr}
    (known : NamesShape name wrap) (h : type.WellFormed) : (wrap type).WellFormed := by
  cases known with
  | func => exact .func h
  | lazy => exact .lazy h
  | owned => exact .owned h
  | collection => exact .collection h

theorem Denotes.wellFormed {tokens : List Token} {type : TypeExpr} (h : Denotes tokens type)
    (proper : ∀ token ∈ tokens, token.IsProper) : type.WellFormed := by
  induction h with
  | @name name plain =>
    refine .named (proper (.name name) List.mem_cons_self) (fun _ => plain) (fun some => ?_) nofun
    exact absurd rfl some
  | marker marks => exact .marker marks
  | @generic name parts plain nonempty _ ih =>
    refine .named (proper (.name name) (by simp)) (fun none => ?_) (fun _ => plain) ?_
    · exact absurd (List.map_eq_nil_iff.1 none) nonempty
    · -- What is proper about the whole is proper about each part.
      exact List.forall_mem_map.2 fun part mem => ih part mem fun token inside =>
        proper token (by simp [mem_separated mem inside])
  | shape known _ ih => exact .shape known (ih fun token mem => proper token (by simp [mem]))
  | unit => exact .tuple nofun
  | group _ ih => exact ih fun token mem => proper token (by simp [mem])
  | tuple _ _ ih | trailing _ _ ih =>
    exact .tuple <| List.forall_mem_map.2 fun part mem => ih part mem fun token inside =>
      proper token (by simp [mem_separated mem inside])
  | array _ ih => exact .collection (ih fun token mem => proper token (by simp [mem]))

/-! ## Names -/

theorem isIdentChar_of_isDigit {d : Char} (h : d.isDigit) : isIdentChar d := by
  have upper := UInt32.le_iff_toNat_le.1 (of_decide_eq_true (Bool.and_eq_true_iff.1 h).2)
  have ascii : d.toNat < 128 := Nat.lt_of_le_of_lt upper (by decide)
  simp [isIdentChar, Text.isAlphanumeric, ascii, Char.isAlphanum, h]

theorem isIdent_of_isMarkerName {name : String} (marks : IsMarkerName name) : IsIdent name := by
  obtain ⟨digits, spelled, all⟩ := marks
  constructor
  · rintro rfl
    simp at spelled
  · have upper : isIdentChar 'T' := by decide +kernel
    rw [spelled]
    refine List.forall_mem_cons.2 ⟨upper, List.forall_mem_cons.2 ⟨upper, fun d mem => ?_⟩⟩
    exact isIdentChar_of_isDigit (all d mem)

theorem isIdent_of_namesShape {name : String} {wrap : TypeExpr → TypeExpr}
    (known : NamesShape name wrap) : IsIdent name := by
  cases known with
  | func | lazy | owned => decide +kernel
  | collection kind => cases kind <;> decide +kernel

/-! ## The text of a well-formed type -/

/-- The text of a type spells tokens that denote the type. -/
def Written (type : TypeExpr) : Prop :=
  ∃ tokens, Spells type.text.toList tokens ∧ Denotes tokens type

section Lists

variable {types : List TypeExpr}

theorem toList_textTail_cons (type : TypeExpr) (types : List TypeExpr) :
    (textTail (type :: types)).toList =
      ',' :: ' ' :: (type.text.toList ++ (textTail types).toList) := by
  simp [textTail]

theorem breaks_textTail (types : List TypeExpr) : Breaks (textTail types).toList := by
  cases types with
  | nil => exact breaks_nil
  | cons =>
    rw [toList_textTail_cons]
    exact breaks_of_punctuation (by decide)

theorem written_textTail (written : ∀ type ∈ types, Written type) :
    ∃ parts : List (List Token × TypeExpr), parts.map (·.2) = types ∧
      (∀ part ∈ parts, Denotes part.1 part.2) ∧
      Spells (textTail types).toList (parts.flatMap fun part => .mark ',' :: part.1) := by
  induction types with
  | nil => exact ⟨[], rfl, nofun, .nil⟩
  | cons type types ih =>
    obtain ⟨⟨tokens, spells, denotes⟩, later⟩ := List.forall_mem_cons.1 written
    obtain ⟨parts, rfl, derived, rest⟩ := ih later
    refine ⟨(tokens, type) :: parts, rfl, List.forall_mem_cons.2 ⟨denotes, derived⟩, ?_⟩
    rw [toList_textTail_cons]
    exact .mark (by decide) (.blank (by decide) (spells.append (breaks_textTail _) rest))

theorem written_parts {type : TypeExpr} (written : ∀ t ∈ type :: types, Written t) :
    ∃ parts : List (List Token × TypeExpr), parts ≠ [] ∧ parts.map (·.2) = type :: types ∧
      (∀ part ∈ parts, Denotes part.1 part.2) ∧
      Spells (type.text.toList ++ (textTail types).toList) (separated parts) := by
  obtain ⟨⟨tokens, spells, denotes⟩, later⟩ := List.forall_mem_cons.1 written
  obtain ⟨parts, rfl, derived, rest⟩ := written_textTail later
  refine ⟨(tokens, type) :: parts, nofun, rfl, List.forall_mem_cons.2 ⟨denotes, derived⟩, ?_⟩
  exact spells.append (breaks_textTail _) rest

end Lists

theorem spells_application {name : String} {cs : List Char} {tokens : List Token}
    (ident : IsIdent name) (h : Spells cs tokens) :
    Spells (name.toList ++ '<' :: (cs ++ ['>']))
      ([.name name, .mark '<'] ++ tokens ++ [.mark '>']) :=
  spells_ident ident (breaks_of_punctuation (by decide))
    (.mark (by decide) (h.closed ['>'] (by simp [punctuation])))

theorem spells_parenthesis {cs : List Char} {tokens : List Token} (h : Spells cs tokens)
    (marks : List Char) (known : marks ⊆ punctuation) :
    Spells ('(' :: (cs ++ marks)) ([.mark '('] ++ tokens ++ marks.map .mark) :=
  .mark (by decide) (h.closed marks known)

theorem Written.shape {name : String} {wrap : TypeExpr → TypeExpr} {type : TypeExpr}
    (known : NamesShape name wrap) (h : Written type)
    (printed : (wrap type).text = name ++ "<" ++ type.text ++ ">") : Written (wrap type) := by
  obtain ⟨tokens, spells, denotes⟩ := h
  refine ⟨_, ?_, .shape known denotes⟩
  rw [printed]
  simpa using spells_application (isIdent_of_namesShape known) spells

theorem WellFormed.written {type : TypeExpr} (h : type.WellFormed) : Written type := by
  induction h with
  | @named path args ident alone applied _ ih =>
    cases args with
    | nil => exact ⟨_, spells_name ident, .name (alone rfl)⟩
    | cons arg args =>
      obtain ⟨parts, nonempty, same, derived, spells⟩ := written_parts ih
      have denotes := Denotes.generic (applied (List.cons_ne_nil arg args)) nonempty derived
      rw [same] at denotes
      refine ⟨_, ?_, denotes⟩
      simpa [text] using spells_application ident spells
  | marker marks => exact ⟨_, spells_name (isIdent_of_isMarkerName marks), .marker marks⟩
  | @tuple items _ ih =>
    -- As the printer has it: no item, one item with its comma, or several.
    rcases items with _ | ⟨first, _ | ⟨second, more⟩⟩
    · exact ⟨_, spells_marks ['(', ')'] (by simp [punctuation]), .unit⟩
    · obtain ⟨parts, nonempty, same, derived, spells⟩ := written_parts ih
      have denotes := Denotes.trailing nonempty derived
      rw [same] at denotes
      refine ⟨_, ?_, denotes⟩
      simpa [text, textTail] using spells_parenthesis spells [',', ')'] (by simp [punctuation])
    · obtain ⟨parts, nonempty, same, derived, spells⟩ := written_parts ih
      have several : 2 ≤ parts.length := by
        have length := congrArg List.length same
        rw [List.length_map] at length
        exact length ▸ Nat.le_add_left ..
      have denotes := Denotes.tuple several derived
      rw [same] at denotes
      refine ⟨_, ?_, denotes⟩
      simpa [text] using spells_parenthesis spells [')'] (by simp [punctuation])
  | func _ ih => exact ih.shape .func (by simp [text])
  | lazy _ ih => exact ih.shape .lazy (by simp [text])
  | owned _ ih => exact ih.shape .owned (by simp [text])
  | @collection kind element _ ih =>
    cases kind with
    | array =>
      obtain ⟨tokens, spells, denotes⟩ := ih
      refine ⟨_, ?_, .array denotes⟩
      simpa [text] using spells.closed ['[', ']'] (by simp [punctuation])
    | list | set | queue | stack | enumerable =>
      exact ih.shape (.collection _) (by simp [text])

/-! ## Reading what was printed -/

theorem wellFormed_of_parse {input : String} {type : TypeExpr} (h : parse input = .ok type) :
    type.WellFormed := by
  have derived := parse_eq_ok_iff_denotes.1 h
  exact derived.wellFormed (Lexeme.spells_tokens derived.known).proper

theorem WellFormed.parse_text {type : TypeExpr} (h : type.WellFormed) :
    parse type.text = .ok type := by
  obtain ⟨tokens, spells, denotes⟩ := h.written
  rw [parse_eq_ok_iff_denotes, Lexeme.tokens_of_spells spells]
  exact denotes

/-- The text of a type is read back as the type exactly when it is well-formed, and only well-formed
types are ever read. -/
theorem parse_text_eq_ok_iff_wellFormed (type : TypeExpr) :
    (parse type.text = .ok type ↔ type.WellFormed) ∧
      ((∃ input, parse input = .ok type) ↔ type.WellFormed) := by
  refine ⟨⟨wellFormed_of_parse, WellFormed.parse_text⟩, ?_, fun h => ⟨_, h.parse_text⟩⟩
  rintro ⟨input, read⟩
  exact wellFormed_of_parse read

end Wiring.TypeExpr
