import Mathlib.Data.List.Basic
import Wiring.Proofs.TypeExpr.Lexeme
import Wiring.TypeExpr.Reader

/-!
# TypeExpr — Grammar

The notation of types as a grammar on tokens, said without the reader:

- type := base | type `[` `]`
- base := ident | ident `<` type (`,` type)* `>` | `(` `)` | `(` type (`,` type)* [`,`] `)`

Each rule says which type its tokens denote.
-/

namespace Wiring.TypeExpr

/-! ## Names -/

/-- `TT` followed by ASCII digits, possibly none. -/
def IsMarkerName (name : String) : Prop :=
  ∃ digits : List Char, name.toList = 'T' :: 'T' :: digits ∧ ∀ d ∈ digits, d.isDigit

/-- The names of the built-in shapes that take exactly one argument. -/
inductive NamesShape : String → (TypeExpr → TypeExpr) → Prop where
  | func : NamesShape "Func" .func
  | lazy : NamesShape "Lazy" .lazy
  | owned : NamesShape "Owned" .owned
  | collection (kind : CollectionKind) : NamesShape kind.name (.collection kind)

theorem isMarkerSpelling_iff {name : String} : isMarkerSpelling name ↔ IsMarkerName name := by
  unfold isMarkerSpelling IsMarkerName
  split
  · next digits stripped =>
    rw [List.isPrefixOf?_eq_some_iff_append_eq] at stripped
    rw [List.all_eq_true]
    constructor
    · exact fun all => ⟨digits, stripped.symm, all⟩
    · rintro ⟨digits', spelled, all⟩
      obtain rfl : digits = digits' := by simpa using stripped.trans spelled
      exact all
  · next stripped =>
    refine iff_of_false nofun fun ⟨digits, spelled, _⟩ => ?_
    have found : ['T', 'T'].isPrefixOf? name.toList = some digits :=
      List.isPrefixOf?_eq_some_iff_append_eq.2 spelled.symm
    nomatch stripped.symm.trans found

theorem wrapper?_eq_some_iff {name : String} {wrap : TypeExpr → TypeExpr} :
    wrapper? name = some wrap ↔ NamesShape name wrap := by
  constructor
  · intro h
    unfold wrapper? at h
    split at h
    · next same => exact Option.some.inj h ▸ same ▸ .func
    · split at h
      · next same => exact Option.some.inj h ▸ same ▸ .lazy
      · split at h
        · next same => exact Option.some.inj h ▸ same ▸ .owned
        · obtain ⟨kind, known, rfl⟩ := Option.map_eq_some_iff.1 h
          exact CollectionKind.name_of_ofName? known ▸ .collection kind
  · rintro (_ | _ | _ | kind)
    · rfl
    · rfl
    · rfl
    · cases kind <;> rfl

/-! ## The grammar -/

/-- Types separated by commas. -/
def separated : List (List Token × TypeExpr) → List Token
  | [] => []
  | first :: more => first.1 ++ more.flatMap fun part => .mark ',' :: part.1

/-- Some tokens denote a type. An identifier alone is a marker or a plain name; with arguments it is
a built-in shape or a generic name. A parenthesis around one type only groups it, unless a comma
follows the type, and any other is a tuple. A pair of brackets makes an array of the type before. -/
inductive Denotes : List Token → TypeExpr → Prop where
  | name {name} (plain : ¬ IsMarkerName name) : Denotes [.name name] (.named name [])
  | marker {name} (marks : IsMarkerName name) : Denotes [.name name] (.marker name)
  | generic {name} {parts : List (List Token × TypeExpr)} (plain : ∀ wrap, ¬ NamesShape name wrap)
      (nonempty : parts ≠ []) (args : ∀ part ∈ parts, Denotes part.1 part.2) :
      Denotes ([.name name, .mark '<'] ++ separated parts ++ [.mark '>'])
        (.named name (parts.map (·.2)))
  | shape {name wrap tokens type} (known : NamesShape name wrap) (arg : Denotes tokens type) :
      Denotes ([.name name, .mark '<'] ++ tokens ++ [.mark '>']) (wrap type)
  | unit : Denotes [.mark '(', .mark ')'] (.tuple [])
  | group {tokens type} (item : Denotes tokens type) :
      Denotes ([.mark '('] ++ tokens ++ [.mark ')']) type
  | tuple {parts : List (List Token × TypeExpr)} (several : 2 ≤ parts.length)
      (items : ∀ part ∈ parts, Denotes part.1 part.2) :
      Denotes ([.mark '('] ++ separated parts ++ [.mark ')']) (.tuple (parts.map (·.2)))
  | trailing {parts : List (List Token × TypeExpr)} (nonempty : parts ≠ [])
      (items : ∀ part ∈ parts, Denotes part.1 part.2) :
      Denotes ([.mark '('] ++ separated parts ++ [.mark ',', .mark ')']) (.tuple (parts.map (·.2)))
  | array {tokens type} (element : Denotes tokens type) :
      Denotes (tokens ++ [.mark '[', .mark ']']) (.collection .array type)

section Lists

variable {parts : List (List Token × TypeExpr)}

@[simp] theorem separated_singleton (part : List Token × TypeExpr) : separated [part] = part.1 :=
  List.append_nil part.1

/-- Finished types, each with the comma after it. -/
def ended (parts : List (List Token × TypeExpr)) : List Token :=
  parts.flatMap fun part => part.1 ++ [.mark ',']

theorem ended_concat (part : List Token × TypeExpr) :
    ended (parts ++ [part]) = ended parts ++ (part.1 ++ [.mark ',']) := by
  simp [ended]

theorem ended_eq_separated (nonempty : parts ≠ []) :
    ended parts = separated parts ++ [.mark ','] := by
  obtain ⟨first, more, rfl⟩ := List.exists_cons_of_ne_nil nonempty
  induction more generalizing first with
  | nil => simp [ended, separated]
  | cons next more ih =>
    have rest := ih next nofun
    simp only [ended, separated, List.flatMap_cons] at rest ⊢
    rw [rest]
    simp

/-- A comma after the last type closes a parenthesis like the commas before it. -/
theorem closed_ended (nonempty : parts ≠ []) :
    [.mark '('] ++ ended parts ++ [.mark ')'] =
      [.mark '('] ++ separated parts ++ [.mark ',', .mark ')'] := by
  simp [ended_eq_separated nonempty]

theorem separated_concat (part : List Token × TypeExpr) :
    separated (parts ++ [part]) = ended parts ++ part.1 := by
  have nonempty : parts ++ [part] ≠ [] := by simp
  have whole := ended_eq_separated nonempty
  rw [ended_concat, ← List.append_assoc] at whole
  exact (List.append_cancel_right whole).symm

theorem mem_separated {part : List Token × TypeExpr} {token : Token} (mem : part ∈ parts)
    (inside : token ∈ part.1) : token ∈ separated parts := by
  cases parts with
  | nil => nomatch mem
  | cons first more =>
    rcases List.mem_cons.1 mem with rfl | later
    · exact List.mem_append_left _ inside
    · exact List.mem_append_right _
        (List.mem_flatMap.2 ⟨part, later, List.mem_cons_of_mem _ inside⟩)

theorem forall_mem_separated {P : Token → Prop} (comma : P (.mark ','))
    (each : ∀ part ∈ parts, ∀ token ∈ part.1, P token) : ∀ token ∈ separated parts, P token := by
  cases parts with
  | nil => nofun
  | cons first more =>
    obtain ⟨here, later⟩ := List.forall_mem_cons.1 each
    refine List.forall_mem_append.2 ⟨here, fun token mem => ?_⟩
    obtain ⟨part, isPart, mem⟩ := List.mem_flatMap.1 mem
    exact List.forall_mem_cons.2 ⟨comma, later part isPart⟩ token mem

end Lists

theorem Denotes.known {tokens : List Token} {type : TypeExpr} (h : Denotes tokens type) :
    ∀ token ∈ tokens, token.IsKnown := by
  have comma : Token.IsKnown (.mark ',') := by simp [Token.IsKnown, punctuation]
  induction h with
  | name | marker | unit => simp [Token.IsKnown, punctuation]
  | generic _ _ _ ih | tuple _ _ ih | trailing _ _ ih =>
    simpa [or_imp, forall_and, Token.IsKnown, punctuation] using forall_mem_separated comma ih
  | shape _ _ ih | group _ ih | array _ ih =>
    simpa [or_imp, forall_and, Token.IsKnown, punctuation] using ih

end Wiring.TypeExpr
