import Mathlib.Data.List.Chain
import Wiring.Proofs.TypeExpr.Notation

/-!
# TypeExpr — Parentheses

Where parentheses open in the text of a type. Inside of it they open only right after a character
that the text cannot end with, so a parenthesis that follows the text does not belong to it, and
where the text ends is told from what is written.
-/

namespace Wiring.TypeExpr

/-! ## Nesting -/

/-- The characters after which a parenthesis can open. -/
def openers : List Char := ['<', '(', ' ']

def MayPrecede (before next : Char) : Prop := next = '(' → before ∈ openers

variable {cs ds : List Char}

theorem isChain_of_plain (plain : '(' ∉ cs) : cs.IsChain MayPrecede := by
  refine (List.pairwise_of_forall_mem_list fun before _ next mem opens => ?_).isChain
  exact absurd (opens ▸ mem) plain

theorem isChain_append_plain (nests : cs.IsChain MayPrecede) (stop : List Char)
    (plain : '(' ∉ stop) : (cs ++ stop).IsChain MayPrecede := by
  refine nests.append (isChain_of_plain plain) fun _ _ next first opens => ?_
  exact absurd (opens ▸ List.mem_of_mem_head? first) plain

/-- Parentheses open at the start or after an opener, and none could open at the end. -/
structure Closes (cs : List Char) : Prop where
  nests : cs.IsChain MayPrecede
  last : ∃ c ∈ cs.getLast?, c ∉ openers

namespace Closes

theorem ne_nil (h : Closes cs) : cs ≠ [] := by
  obtain ⟨_, last, -⟩ := h.last
  rintro rfl
  nomatch last

theorem of_plain (plain : '(' ∉ cs) (last : ∃ c ∈ cs.getLast?, c ∉ openers) : Closes cs :=
  ⟨isChain_of_plain plain, last⟩

/-- A closed text goes on behind an opener. -/
theorem after (h : Closes cs) {start : List Char} (nests : start.IsChain MayPrecede)
    (ends : ∃ c ∈ start.getLast?, c ∈ openers) : Closes (start ++ cs) := by
  obtain ⟨opener, lastOfStart, known⟩ := ends
  obtain ⟨c, last, plain⟩ := h.last
  refine ⟨nests.append h.nests fun before isLast _ _ _ => ?_, c, ?_, plain⟩
  · obtain rfl := Option.mem_unique isLast lastOfStart
    exact known
  · exact List.mem_getLast?_append_of_mem_getLast? last

/-- A closed text stays closed when something without parentheses follows. -/
theorem before (h : Closes cs) (stop : List Char) (plain : '(' ∉ stop)
    (last : ∃ c ∈ stop.getLast?, c ∉ openers) : Closes (cs ++ stop) := by
  obtain ⟨c, last, known⟩ := last
  exact ⟨isChain_append_plain h.nests stop plain, c, List.mem_getLast?_append_of_mem_getLast? last,
    known⟩

theorem listed (h : Closes cs) (h' : Closes ds) : Closes (cs ++ ',' :: ' ' :: ds) := by
  have start := isChain_append_plain h.nests [',', ' '] (by decide)
  have both := h'.after start ⟨' ', by simp, by decide⟩
  rwa [List.append_assoc] at both

/-- No closed text is another one followed by a parenthesis. -/
theorem eq_nil_of_append (h : Closes cs) (longer : (cs ++ ds).IsChain MayPrecede)
    (opens : ∀ c ∈ ds.head?, c = '(') : ds = [] := by
  obtain ⟨c, last, plain⟩ := h.last
  cases ds with
  | nil => rfl
  | cons d ds =>
    have joint := (List.isChain_append.1 longer).2.2 c last d rfl
    exact absurd (joint (opens d rfl)) plain

/-- Where a closed text ends before a parenthesis is told from the whole. -/
theorem append_inj {rest rest' : List Char} (h : Closes cs) (h' : Closes ds)
    (opens : ∀ c ∈ rest.head?, c = '(') (opens' : ∀ c ∈ rest'.head?, c = '(')
    (same : cs ++ rest = ds ++ rest') : cs = ds ∧ rest = rest' := by
  -- One of the two is the beginning of the other, and what it goes on with begins the rest.
  have head {more rest : List Char} (opens : ∀ c ∈ (more ++ rest).head?, c = '(') :
      ∀ c ∈ more.head?, c = '(' := fun c first => opens c (by
    rw [List.head?_append, Option.mem_def.1 first, Option.some_or]; rfl)
  obtain ⟨more, rfl, rfl⟩ | ⟨more, rfl, rfl⟩ := List.append_eq_append_iff.1 same
  · obtain rfl := h.eq_nil_of_append h'.nests (head opens)
    exact ⟨(List.append_nil cs).symm, rfl⟩
  · obtain rfl := h'.eq_nil_of_append h.nests (head opens')
    exact ⟨List.append_nil ds, rfl⟩

end Closes

/-! ## The text of a well-formed type -/

theorem closes_of_isIdent {name : String} (ident : IsIdent name) : Closes name.toList := by
  have noOpener (c : Char) (mem : c ∈ name.toList) : c ∉ openers := fun known => by
    have char := ident.2 c mem
    rcases List.mem_cons.1 known with rfl | known
    · nomatch char.symm.trans (isIdentChar_of_punctuation _ (by decide))
    rcases List.mem_cons.1 known with rfl | known
    · nomatch char.symm.trans (isIdentChar_of_punctuation _ (by decide))
    · obtain rfl := List.mem_singleton.1 known
      nomatch char.symm.trans (isIdentChar_of_isBlank (by decide))
  refine .of_plain (fun opens => noOpener '(' opens (by decide)) ?_
  have nonempty : name.toList ≠ [] := by simpa using ident.1
  exact ⟨_, List.getLast?_eq_some_getLast nonempty, noOpener _ (List.getLast_mem nonempty)⟩

theorem Closes.application {name : String} (ident : IsIdent name) (h : Closes cs) :
    Closes (name.toList ++ '<' :: (cs ++ ['>'])) := by
  have start := isChain_append_plain (closes_of_isIdent ident).nests ['<'] (by decide)
  have inner := h.before ['>'] (by decide) ⟨'>', rfl, by decide⟩
  have whole := inner.after start ⟨'<', by simp, by decide⟩
  rwa [List.append_assoc] at whole

theorem Closes.parenthesis (h : Closes cs) (stop : List Char) (plain : '(' ∉ stop)
    (last : ∃ c ∈ stop.getLast?, c ∉ openers) : Closes ('(' :: (cs ++ stop)) :=
  (h.before stop plain last).after (.singleton '(') ⟨'(', rfl, by decide⟩

theorem Closes.append_textTail {types : List TypeExpr} (h : Closes cs)
    (each : ∀ type ∈ types, Closes type.text.toList) :
    Closes (cs ++ (textTail types).toList) := by
  induction types generalizing cs with
  | nil => simpa [textTail] using h
  | cons type types ih =>
    obtain ⟨first, later⟩ := List.forall_mem_cons.1 each
    rw [toList_textTail_cons]
    simpa using ih (h.listed first) later

theorem Closes.shape {name : String} {wrap : TypeExpr → TypeExpr} {type : TypeExpr}
    (known : NamesShape name wrap) (h : Closes type.text.toList)
    (printed : (wrap type).text = name ++ "<" ++ type.text ++ ">") :
    Closes (wrap type).text.toList := by
  rw [printed]
  simpa using h.application (isIdent_of_namesShape known)

theorem WellFormed.closes {type : TypeExpr} (h : type.WellFormed) : Closes type.text.toList := by
  induction h with
  | @named path args ident _ _ _ ih =>
    cases args with
    | nil => exact closes_of_isIdent ident
    | cons arg args =>
      obtain ⟨first, later⟩ := List.forall_mem_cons.1 ih
      simpa [text] using (first.append_textTail later).application ident
  | marker marks => exact closes_of_isIdent (isIdent_of_isMarkerName marks)
  | @tuple items _ ih =>
    -- As the printer has it: no item, one item with its comma, or several.
    rcases items with _ | ⟨first, _ | ⟨second, more⟩⟩
    · exact ⟨by simp [text, MayPrecede], ')', by simp [text], by decide⟩
    · obtain ⟨first, -⟩ := List.forall_mem_cons.1 ih
      simpa [text] using first.parenthesis [',', ')'] (by decide) ⟨')', rfl, by decide⟩
    · obtain ⟨first, later⟩ := List.forall_mem_cons.1 ih
      simpa [text] using
        (first.append_textTail later).parenthesis [')'] (by decide) ⟨')', rfl, by decide⟩
  | func _ ih => exact ih.shape .func (by simp [text])
  | lazy _ ih => exact ih.shape .lazy (by simp [text])
  | owned _ ih => exact ih.shape .owned (by simp [text])
  | @collection kind element _ ih =>
    cases kind with
    | array => simpa [text] using ih.before ['[', ']'] (by decide) ⟨']', rfl, by decide⟩
    | list | set | queue | stack | enumerable =>
      exact ih.shape (.collection _) (by simp [text])

/-- Well-formed types with the same text are the same. -/
theorem WellFormed.text_inj {s t : TypeExpr} (hs : s.WellFormed) (ht : t.WellFormed)
    (same : s.text = t.text) : s = t := by
  have read := hs.parse_text
  rw [same, ht.parse_text] at read
  exact (Except.ok.inj read).symm

theorem WellFormed.text_ne_empty {t : TypeExpr} (h : t.WellFormed) : t.text ≠ "" := by
  simpa using h.closes.ne_nil

/-- A well-formed type is told from its text and whatever is written in parentheses behind it. -/
theorem WellFormed.text_append_inj {s t : TypeExpr} {rest rest' : String} (hs : s.WellFormed)
    (ht : t.WellFormed) (opens : ∀ c ∈ rest.toList.head?, c = '(')
    (opens' : ∀ c ∈ rest'.toList.head?, c = '(') (same : s.text ++ rest = t.text ++ rest') :
    s = t ∧ rest = rest' := by
  have chars := congrArg String.toList same
  rw [String.toList_append, String.toList_append] at chars
  obtain ⟨texts, rests⟩ := hs.closes.append_inj ht.closes opens opens' chars
  exact ⟨hs.text_inj ht (String.toList_inj.1 texts), String.toList_inj.1 rests⟩

end Wiring.TypeExpr
