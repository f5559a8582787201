import Wiring.Proofs.TypeExpr.Language

/-!
# TypeExpr — Refusal

Where a text goes wrong. The lexemes before a place, and whether a name or which mark begins there,
are settled by the text up to the first character of the lexeme that begins there. A lexeme that is
unexpected is so for what it begins with; hence its first character is to blame, and no text that
goes on after this character in another way is read any further.
-/

namespace Wiring

namespace Lexeme

/-! ## Lexemes in texts that go on in another way -/

/-- Lexemes that begin at one place with one character: both are names, or both the same mark. -/
structure BeginsLike (l l' : Lexeme) : Prop where
  position : l'.position = l.position
  first : l'.first = l.first
  mark : ∀ c, l'.token = .mark c ↔ l.token = .mark c

theorem exists_prepend (start : Nat) (c : Char) (lexemes : List Lexeme) :
    ∃ run more, prepend start c lexemes = ⟨start, c, .name run⟩ :: more := by
  unfold prepend
  split
  · exact ⟨_, _, rfl⟩
  · split
    · split
      · exact ⟨_, _, rfl⟩
      · exact ⟨_, _, rfl⟩
    · exact ⟨_, _, rfl⟩

/-- An identifier character begins a name, whatever comes after it. -/
theorem exists_scan_ident {c : Char} (start : Nat) (cs : List Char) (h : isIdentChar c) :
    ∃ run more, scan start (c :: cs) = ⟨start, c, .name run⟩ :: more := by
  rw [scan_ident start cs h]
  exact exists_prepend start c _

theorem breaks_append_cons {done cs ds : List Char} {c : Char} (h : Breaks (done ++ c :: cs)) :
    Breaks (done ++ c :: ds) := by
  cases done with
  | nil => exact h
  | cons => exact h

/-- A lexeme begins after some characters, and the lexemes before it and its beginning are the same
however the text goes on after its first character. -/
structure BeginsAfter (start : Nat) (done : List Char) (before : List Lexeme) (l : Lexeme) :
    Prop where
  position : l.position = start + done.length
  alike : ∀ other, ∃ l' after, scan start (done ++ l.first :: other) = before ++ l' :: after ∧
    l.BeginsLike l'

section

variable {start : Nat} {part done : List Char} {before after : List Lexeme} {l : Lexeme}

/-- A part that has its lexemes apart from the rest stands before the other characters. -/
theorem BeginsAfter.past (lexemes : List Lexeme)
    (h : BeginsAfter (start + part.length) done before l)
    (apart : ∀ other, scan start (part ++ (done ++ l.first :: other)) =
      lexemes ++ scan (start + part.length) (done ++ l.first :: other)) :
    BeginsAfter start (part ++ done) (lexemes ++ before) l where
  position := by rw [h.position, List.length_append, Nat.add_assoc]
  alike other := by
    obtain ⟨l', after, scanned, like⟩ := h.alike other
    exact ⟨l', after, by rw [List.append_assoc, apart, scanned, List.append_assoc], like⟩

/-- Every lexeme of a text begins with the character at its position. -/
theorem exists_beginsAfter {cs : List Char} (h : scan start cs = before ++ l :: after) :
    ∃ done rest, cs = done ++ l.first :: rest ∧ BeginsAfter start done before l := by
  induction cs using text_induction generalizing start before with
  | nil =>
    have none : [] = before ++ l :: after := h
    exact absurd none.symm (List.append_ne_nil_of_right_ne_nil before (List.cons_ne_nil l after))
  | blank c cs blank ih =>
    rw [scan_blank _ _ blank] at h
    obtain ⟨done, rest, rfl, begins⟩ := ih h
    exact ⟨[c] ++ done, rest, rfl, begins.past [] fun _ => scan_blank _ _ blank⟩
  | mark c cs blank ident ih =>
    rw [scan_mark _ _ blank ident] at h
    cases before with
    | nil =>
      obtain ⟨rfl, rfl⟩ := List.cons.inj h
      have alike (other : List Char) := scan_mark start other blank ident
      exact ⟨[], cs, rfl, rfl, fun other => ⟨_, _, alike other, rfl, rfl, fun _ => Iff.rfl⟩⟩
    | cons earlier before =>
      obtain ⟨rfl, later⟩ := List.cons.inj h
      obtain ⟨done, rest, rfl, begins⟩ := ih later
      exact ⟨[c] ++ done, rest, rfl, begins.past [_] fun _ =>
        scan_mark _ _ blank ident⟩
  | run c run cs inside breaks ih =>
    rw [scan_run _ _ inside breaks] at h
    cases before with
    | nil =>
      -- The run may end elsewhere, or go on, but it begins here as a name.
      obtain ⟨rfl, rfl⟩ := List.cons.inj h
      refine ⟨[], run ++ cs, rfl, rfl, fun other => ?_⟩
      obtain ⟨run', more, scanned⟩ := exists_scan_ident start other (inside c List.mem_cons_self)
      exact ⟨_, more, scanned, rfl, rfl, fun _ => ⟨nofun, nofun⟩⟩
    | cons earlier before =>
      obtain ⟨rfl, later⟩ := List.cons.inj h
      obtain ⟨done, rest, rfl, begins⟩ := ih later
      exact ⟨c :: run ++ done, rest, by simp, begins.past [_] fun _ =>
        scan_run _ _ inside (breaks_append_cons breaks)⟩

end

end Lexeme

namespace TypeExpr

/-! ## Refused lexemes -/

/-- The reader stops at the first lexeme that it does not take. -/
theorem readLexemes_eq_error_iff {r : Reading} {lexemes : List Lexeme} {l : Lexeme}
    {refusal : Refusal} : readLexemes r lexemes = .error (l, refusal) ↔
      ∃ before after last, lexemes = before ++ l :: after ∧
        Reads r (before.map (·.token)) last ∧ last.step l.token = .error refusal := by
  induction lexemes generalizing r with
  | nil =>
    refine iff_of_false nofun ?_
    rintro ⟨before, after, last, split, -⟩
    exact absurd split (by simp)
  | cons lexeme more ih =>
    rw [readLexemes]
    constructor
    · intro h
      split at h
      · next next step =>
        obtain ⟨before, after, last, rfl, reads, refused⟩ := ih.1 h
        exact ⟨lexeme :: before, after, last, rfl, .cons step reads, refused⟩
      · next reason step =>
        obtain ⟨rfl, rfl⟩ := Prod.mk.inj (Except.error.inj h)
        exact ⟨[], more, r, rfl, .nil r, step⟩
    · rintro ⟨_ | ⟨_, before⟩, after, last, split, reads, refused⟩
      · obtain ⟨rfl, rfl⟩ := List.cons.inj split
        cases reads
        rw [refused]
      · obtain ⟨rfl, rfl⟩ := List.cons.inj split
        cases reads with
        | cons step reads =>
          rw [step]
          exact ih.2 ⟨before, after, last, rfl, reads, refused⟩

/-- Where one name is unexpected, any name is. -/
theorem step_name_unexpected {r : Reading} {name : String}
    (h : r.step (.name name) = .error .unexpected) (other : String) :
    r.step (.name other) = .error .unexpected := by
  obtain ⟨frames, place⟩ := r
  cases place with
  | start => nomatch h
  | afterName | afterType | bracket => rfl

/-- Whether a lexeme is unexpected shows in its beginning. -/
theorem step_unexpected_of_like {r : Reading} {l l' : Lexeme} (like : l.BeginsLike l')
    (h : r.step l.token = .error .unexpected) : r.step l'.token = .error .unexpected := by
  cases token : l.token with
  | mark c =>
    rw [token] at h
    rw [(like.mark c).2 token]
    exact h
  | name name =>
    cases token' : l'.token with
    | mark c => nomatch token.symm.trans ((like.mark c).1 token')
    | name name' =>
      rw [token] at h
      exact step_name_unexpected h name'

theorem parse_eq_unexpectedChar_iff {input text : String} {p : Nat} {c : Char} :
    parse input = .error (.unexpectedChar text p c) ↔ text = input ∧
      ∃ before l after r, Lexeme.scan 0 input.toList = before ++ l :: after ∧
        Reads .initial (before.map (·.token)) r ∧ r.step l.token = .error .unexpected ∧
        l.position = p ∧ l.first = c := by
  unfold parse
  constructor
  · intro h
    split at h
    · nomatch h
    · split at h
      · split at h
        · nomatch h
        · nomatch h
      · next l read =>
        obtain ⟨rfl, rfl, rfl⟩ := NotationError.unexpectedChar.inj (Except.error.inj h)
        obtain ⟨before, after, r, split, reads, refused⟩ := readLexemes_eq_error_iff.1 read
        exact ⟨rfl, before, l, after, r, split, reads, refused, rfl, rfl⟩
      · nomatch h
  · rintro ⟨rfl, before, l, after, r, split, reads, refused, rfl, rfl⟩
    split
    · next empty => exact absurd (empty.symm.trans split) (by simp)
    · rw [readLexemes_eq_error_iff.2 ⟨before, after, r, split, reads, refused⟩]

/-! ## The first offending character -/

/-- The character that is reported stands at its position, and whatever stands after it does not
matter. -/
theorem unexpectedChar_alike {input text : String} {p : Nat} {c : Char}
    (h : parse input = .error (.unexpectedChar text p c)) :
    input.toList[p]? = some c ∧ ∀ other : String,
      other.toList.take (p + 1) = input.toList.take (p + 1) →
        parse other = .error (.unexpectedChar other p c) := by
  obtain ⟨-, before, l, after, r, split, reads, refused, rfl, rfl⟩ :=
    parse_eq_unexpectedChar_iff.1 h
  obtain ⟨done, rest, spelled, position, alike⟩ := Lexeme.exists_beginsAfter split
  rw [Nat.zero_add] at position
  refine ⟨by rw [spelled, position]; simp, fun other same => ?_⟩
  -- The other text is the same up to the character, and so it has a lexeme like this one there.
  have upTo : other.toList.take (done.length + 1) = done ++ [l.first] := by
    rw [← position, same, spelled, position, List.take_length_add_append]
    rfl
  have goesOn : other.toList = done ++ l.first :: other.toList.drop (done.length + 1) := by
    conv => lhs; rw [← List.take_append_drop (done.length + 1) other.toList, upTo]
    simp
  obtain ⟨l', after', scanned, like⟩ := alike (other.toList.drop (done.length + 1))
  rw [← goesOn] at scanned
  exact parse_eq_unexpectedChar_iff.2 ⟨rfl, before, l', after', r, scanned, reads,
    step_unexpected_of_like like refused, like.position, like.first⟩

/-- An unexpected character is the first one that offends: it stands at the position that is
reported, every text that is the same up to and including it fails just so, and no text that is the
same before it has an unexpected character sooner. -/
theorem parse_blames_first_offender {input text : String} {p : Nat} {c : Char}
    (h : parse input = .error (.unexpectedChar text p c)) :
    text = input ∧ p < input.length ∧ input.toList[p]? = some c ∧
      (∀ other : String, other.toList.take (p + 1) = input.toList.take (p + 1) →
        parse other = .error (.unexpectedChar other p c)) ∧
      ∀ other : String, other.toList.take p = input.toList.take p →
        ∀ q d, parse other = .error (.unexpectedChar other q d) → p ≤ q := by
  obtain ⟨there, alike⟩ := unexpectedChar_alike h
  have within : p < input.length := (List.getElem?_eq_some_iff.1 there).1
  refine ⟨(parse_eq_unexpectedChar_iff.1 h).1, within, there, alike, ?_⟩
  intro other same q d fails
  by_contra sooner
  -- Otherwise the text itself would fail there.
  have less : min (q + 1) p = q + 1 := by omega
  have shorter : input.toList.take (q + 1) = other.toList.take (q + 1) := by
    rw [← less, ← List.take_take, ← List.take_take, same]
  have both := h.symm.trans ((unexpectedChar_alike fails).2 input shorter)
  have eq : p = q := (NotationError.unexpectedChar.inj (Except.error.inj both)).2.1
  omega

/-- A list of arguments that ends after a comma fails at the mark that ends it, however the text
goes on. -/
theorem parse_blames_first_offender_missing :
    parse "Map<Key, >" = .error (.unexpectedChar "Map<Key, >" 9 '>') ∧
      parse "Map<Key, >Value>" = .error (.unexpectedChar "Map<Key, >Value>" 9 '>') := by
  have fails : parse "Map<Key, >" = .error (.unexpectedChar "Map<Key, >" 9 '>') := rfl
  obtain ⟨-, -, -, alike, -⟩ := parse_blames_first_offender fails
  exact ⟨fails, alike _ (by decide)⟩

end TypeExpr

end Wiring
