import Wiring.TypeExpr.Lexeme

/-!
# TypeExpr — Lexeme

What the lexemes of a text are, said without the scan: a text spells a list of tokens when it is
made of longest runs of identifier characters and of marks, with any blanks between them. A text
spells at most one list, and the scan finds it.
-/

namespace Wiring

/-! ## Classes of characters -/

namespace Text

theorem inRanges_eq_false_of_apart {ranges others : List (Nat × Nat)} {c : Char}
    (apart : ∀ r ∈ ranges, ∀ o ∈ others, r.2 < o.1 ∨ o.2 < r.1) (h : inRanges ranges c = true) :
    inRanges others c = false := by
  obtain ⟨r, mem, low, high⟩ := inRanges_iff.1 h
  refine Bool.eq_false_iff.2 fun also => ?_
  obtain ⟨o, mem', low', high'⟩ := inRanges_iff.1 also
  have := apart r mem o mem'
  omega

theorem blankRanges_apart :
    ∀ r ∈ blankRanges, ∀ o ∈ alphanumericRanges, r.2 < o.1 ∨ o.2 < r.1 := by
  decide +kernel

theorem isAlphanum_of_isBlank_ascii (n : Fin 128) (h : isBlank (Char.ofNat n) = true) :
    (Char.ofNat n).isAlphanum = false := by
  revert n
  decide +kernel

theorem isAlphanumeric_of_isBlank {c : Char} (h : isBlank c = true) :
    isAlphanumeric c = false := by
  unfold isAlphanumeric
  split
  · next ascii =>
    have plain := isAlphanum_of_isBlank_ascii ⟨c.toNat, ascii⟩
    rw [Char.ofNat_toNat] at plain
    exact plain h
  · exact inRanges_eq_false_of_apart blankRanges_apart h

end Text

theorem isIdentChar_of_isBlank {c : Char} (h : Text.isBlank c = true) : isIdentChar c = false := by
  have joining : ∀ j ∈ ['_', '.', ':'], Text.isBlank j = false := by
    have all : ['_', '.', ':'].all (!Text.isBlank ·) := by decide
    simpa only [List.all_eq_true, Bool.not_eq_true'] using all
  have other (j : Char) (mem : j ∈ ['_', '.', ':']) : c ≠ j := by
    rintro rfl
    nomatch h.symm.trans (joining c mem)
  simp [isIdentChar, Text.isAlphanumeric_of_isBlank h, other]

/-- The characters that stand for themselves in the notation. -/
def punctuation : List Char := ['<', '>', '(', ')', '[', ']', ',']

theorem isIdentChar_of_punctuation : ∀ c ∈ punctuation, isIdentChar c = false := by
  have all : punctuation.all (!isIdentChar ·) := by decide +kernel
  simpa only [List.all_eq_true, Bool.not_eq_true'] using all

theorem isBlank_of_punctuation : ∀ c ∈ punctuation, Text.isBlank c = false := by
  have all : punctuation.all (!Text.isBlank ·) := by decide
  simpa only [List.all_eq_true, Bool.not_eq_true'] using all

/-! ## Spelling -/

/-- A text does not go on with an identifier character. -/
def Breaks (cs : List Char) : Prop := ∀ c ∈ cs.head?, isIdentChar c = false

/-- A text is made of longest runs of identifier characters and of punctuation, with blanks
anywhere between them. -/
inductive Spells : List Char → List Token → Prop where
  | nil : Spells [] []
  | blank {c cs tokens} (blank : Text.isBlank c) (rest : Spells cs tokens) :
      Spells (c :: cs) tokens
  | mark {c cs tokens} (known : c ∈ punctuation) (rest : Spells cs tokens) :
      Spells (c :: cs) (.mark c :: tokens)
  | name {run cs tokens} (nonempty : run ≠ []) (inside : ∀ c ∈ run, isIdentChar c)
      (breaks : Breaks cs) (rest : Spells cs tokens) :
      Spells (run ++ cs) (.name (String.ofList run) :: tokens)

theorem breaks_nil : Breaks [] := fun c first => absurd first (Option.not_mem_none c)

theorem breaks_of_punctuation {c : Char} {cs : List Char} (h : c ∈ punctuation) :
    Breaks (c :: cs) := by
  rintro c' ⟨⟩
  exact isIdentChar_of_punctuation c h

theorem Breaks.append {cs ds : List Char} (left : Breaks cs) (right : Breaks ds) :
    Breaks (cs ++ ds) := by
  cases cs with
  | nil => exact right
  | cons c cs => exact left

/-- Texts put one after the other spell what they spell alone, unless a run of the first goes on in
the second. -/
theorem Spells.append {cs ds : List Char} {tokens more : List Token} (h : Spells cs tokens)
    (breaks : Breaks ds) (rest : Spells ds more) : Spells (cs ++ ds) (tokens ++ more) := by
  induction h with
  | nil => exact rest
  | blank blank _ ih => exact .blank blank ih
  | mark known _ ih => exact .mark known ih
  | name nonempty inside breaks' _ ih =>
    rw [List.append_assoc]
    exact .name nonempty inside (breaks'.append breaks) ih

/-- A mark is one of the notation. -/
def Token.IsKnown : Token → Prop
  | .name _ => True
  | .mark c => c ∈ punctuation

/-- A run of identifier characters. -/
def IsIdent (name : String) : Prop := name ≠ "" ∧ ∀ c ∈ name.toList, isIdentChar c

instance (name : String) : Decidable (IsIdent name) :=
  decidable_of_iff (name ≠ "" ∧ name.toList.all isIdentChar) (and_congr_right' List.all_eq_true)

/-- The tokens of a text have the characters that they may have. -/
def Token.IsProper : Token → Prop
  | .name n => IsIdent n
  | .mark c => c ∈ punctuation

theorem Spells.proper {cs : List Char} {tokens : List Token} (h : Spells cs tokens) :
    ∀ token ∈ tokens, token.IsProper := by
  induction h with
  | nil => nofun
  | blank _ _ ih => exact ih
  | mark known _ ih => exact List.forall_mem_cons.2 ⟨known, ih⟩
  | name nonempty inside _ _ ih =>
    refine List.forall_mem_cons.2 ⟨⟨fun empty => nonempty ?_, ?_⟩, ih⟩
    · simpa using congrArg String.toList empty
    · simpa using inside

section Pieces

variable {name : String} {cs : List Char} {tokens : List Token}

theorem spells_ident (ident : IsIdent name) (breaks : Breaks cs) (rest : Spells cs tokens) :
    Spells (name.toList ++ cs) (.name name :: tokens) := by
  have run := Spells.name (by simpa using ident.1) ident.2 breaks rest
  rwa [String.ofList_toList] at run

theorem spells_name (ident : IsIdent name) : Spells name.toList [.name name] := by
  have alone := spells_ident ident breaks_nil .nil
  rwa [List.append_nil] at alone

theorem spells_marks (marks : List Char) (known : marks ⊆ punctuation) :
    Spells marks (marks.map .mark) := by
  induction marks with
  | nil => exact .nil
  | cons c marks ih =>
    obtain ⟨first, later⟩ := List.cons_subset.1 known
    exact .mark first (ih later)

theorem Spells.closed (h : Spells cs tokens) (marks : List Char) (known : marks ⊆ punctuation) :
    Spells (cs ++ marks) (tokens ++ marks.map .mark) :=
  h.append (fun c first => isIdentChar_of_punctuation c (known (List.mem_of_mem_head? first)))
    (spells_marks marks known)

end Pieces

namespace Lexeme

/-! ## The scan -/

theorem scan_blank {c : Char} (start : Nat) (cs : List Char) (h : Text.isBlank c) :
    scan start (c :: cs) = scan (start + 1) cs := by
  rw [scan, if_pos h]

theorem scan_mark {c : Char} (start : Nat) (cs : List Char) (blank : Text.isBlank c = false)
    (ident : isIdentChar c = false) :
    scan start (c :: cs) = ⟨start, c, .mark c⟩ :: scan (start + 1) cs := by
  rw [scan, if_neg (by simp [blank]), if_neg (by simp [ident])]

theorem scan_ident {c : Char} (start : Nat) (cs : List Char) (h : isIdentChar c) :
    scan start (c :: cs) = prepend start c (scan (start + 1) cs) := by
  have solid : Text.isBlank c = false :=
    Bool.eq_false_iff.2 fun blank => by simp [isIdentChar_of_isBlank blank] at h
  rw [scan, if_neg (by simp [solid]), if_pos h]

theorem mem_prepend {start : Nat} {c : Char} {lexemes : List Lexeme} {l : Lexeme}
    (h : l ∈ prepend start c lexemes) : l.position = start ∨ l ∈ lexemes := by
  unfold prepend at h
  split at h
  · exact .inl (congrArg position (List.mem_singleton.1 h))
  · split at h
    · split at h
      · rcases List.mem_cons.1 h with rfl | later
        · exact .inl rfl
        · exact .inr (List.mem_cons_of_mem _ later)
      · rcases List.mem_cons.1 h with rfl | later
        · exact .inl rfl
        · exact .inr later
    · rcases List.mem_cons.1 h with rfl | later
      · exact .inl rfl
      · exact .inr later

theorem le_position {start : Nat} {cs : List Char} {l : Lexeme} (h : l ∈ scan start cs) :
    start ≤ l.position := by
  induction cs generalizing start with
  | nil => nomatch h
  | cons c cs ih =>
    unfold scan at h
    split at h
    · exact Nat.le_of_succ_le (ih h)
    · split at h
      · rcases mem_prepend h with here | later
        · exact Nat.le_of_eq here.symm
        · exact Nat.le_of_succ_le (ih later)
      · rcases List.mem_cons.1 h with rfl | later
        · exact Nat.le_refl _
        · exact Nat.le_of_succ_le (ih later)

/-- An identifier character before a text that breaks is a run of its own. -/
theorem scan_single {c : Char} (start : Nat) {cs : List Char} (h : isIdentChar c)
    (breaks : Breaks cs) : scan start (c :: cs) =
      ⟨start, c, .name (String.singleton c)⟩ :: scan (start + 1) cs := by
  rw [scan_ident start cs h]
  cases cs with
  | nil => rfl
  | cons c' cs =>
    have ident : isIdentChar c' = false := breaks c' rfl
    cases blank : Text.isBlank c' with
    | false =>
      rw [scan_mark _ _ blank ident]
      rfl
    | true =>
      -- Whatever comes after the blank does not begin where the run would go on.
      rw [scan_blank _ _ blank]
      cases scanned : scan (start + 1 + 1) cs with
      | nil => rfl
      | cons next more =>
        have far : start + 1 + 1 ≤ next.position := le_position (scanned ▸ List.mem_cons_self)
        unfold prepend
        dsimp only
        split
        · rw [if_neg (by omega)]
        · rfl

theorem scan_run (start : Nat) (c : Char) {run cs : List Char}
    (inside : ∀ d ∈ c :: run, isIdentChar d) (breaks : Breaks cs) :
    scan start (c :: run ++ cs) =
      ⟨start, c, .name (String.ofList (c :: run))⟩ :: scan (start + (c :: run).length) cs := by
  induction run generalizing start c with
  | nil =>
    rw [List.singleton_append, scan_single start (inside c List.mem_cons_self) breaks,
      String.singleton_eq_ofList]
    rfl
  | cons d run ih =>
    obtain ⟨first, later⟩ := List.forall_mem_cons.1 inside
    rw [List.cons_append, scan_ident _ _ first, ih (start + 1) d later]
    unfold prepend
    dsimp only
    rw [if_pos rfl, String.singleton_eq_ofList, ← String.ofList_append, Nat.add_assoc,
      Nat.add_comm 1]
    rfl

/-- What a text spells are the tokens of its lexemes. -/
theorem tokens_of_spells {cs : List Char} {tokens : List Token} (h : Spells cs tokens)
    (start : Nat) : (scan start cs).map token = tokens := by
  induction h generalizing start with
  | nil => rfl
  | blank blank _ ih =>
    rw [scan_blank _ _ blank]
    exact ih _
  | mark known _ ih =>
    rw [scan_mark _ _ (isBlank_of_punctuation _ known) (isIdentChar_of_punctuation _ known),
      List.map_cons, ih]
  | @name run cs tokens nonempty inside breaks _ ih =>
    obtain ⟨c, run, rfl⟩ := List.exists_cons_of_ne_nil nonempty
    rw [scan_run _ _ inside breaks, List.map_cons, ih]

/-- Induction on a text, lexeme by lexeme. -/
theorem text_induction {motive : List Char → Prop} (nil : motive [])
    (blank : ∀ c cs, Text.isBlank c → motive cs → motive (c :: cs))
    (mark : ∀ c cs, Text.isBlank c = false → isIdentChar c = false → motive cs → motive (c :: cs))
    (run : ∀ c run cs, (∀ d ∈ c :: run, isIdentChar d) → Breaks cs → motive cs →
      motive (c :: run ++ cs)) (cs : List Char) : motive cs := by
  induction length : cs.length using Nat.strongRecOn generalizing cs with
  | ind n ih =>
    obtain rfl := length
    match cs with
    | [] => exact nil
    | c :: cs =>
      have rest : motive cs := ih _ (Nat.lt_succ_self _) cs rfl
      cases isBlank : Text.isBlank c with
      | true => exact blank c cs isBlank rest
      | false =>
        cases isIdent : isIdentChar c with
        | false => exact mark c cs isBlank isIdent rest
        | true =>
          have split : c :: cs = c :: cs.takeWhile isIdentChar ++ cs.dropWhile isIdentChar := by
            rw [List.cons_append, List.takeWhile_append_dropWhile]
          have inside : ∀ d ∈ c :: cs.takeWhile isIdentChar, isIdentChar d :=
            List.forall_mem_cons.2 ⟨isIdent, List.all_eq_true.1 (List.all_takeWhile ..)⟩
          have breaks : Breaks (cs.dropWhile isIdentChar) := fun d first => by
            have stop := List.head?_dropWhile_not isIdentChar cs
            rw [Option.mem_def.1 first] at stop
            exact stop
          have shorter : (cs.dropWhile isIdentChar).length < (c :: cs).length :=
            Nat.lt_succ_of_le (List.dropWhile_sublist _).length_le
          rw [split]
          exact run c _ _ inside breaks (ih _ shorter _ rfl)

/-- A text spells the tokens of its lexemes when its marks are punctuation. -/
theorem spells_tokens {cs : List Char} {start : Nat}
    (h : ∀ t ∈ (scan start cs).map token, t.IsKnown) :
    Spells cs ((scan start cs).map token) := by
  induction cs using text_induction generalizing start with
  | nil => exact .nil
  | blank c cs isBlank ih =>
    rw [scan_blank _ _ isBlank] at h ⊢
    exact .blank isBlank (ih h)
  | mark c cs isBlank isIdent ih =>
    rw [scan_mark _ _ isBlank isIdent, List.map_cons] at h ⊢
    exact .mark (h _ List.mem_cons_self) (ih (List.forall_mem_cons.1 h).2)
  | run c run cs inside breaks ih =>
    rw [scan_run _ _ inside breaks, List.map_cons] at h ⊢
    exact .name nofun inside breaks (ih (List.forall_mem_cons.1 h).2)

end Lexeme

end Wiring
