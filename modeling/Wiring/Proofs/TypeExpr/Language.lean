import Wiring.Proofs.TypeExpr.Grammar

/-!
# TypeExpr — Language

The language of the reader is the grammar. What the reader holds after some tokens always spells
these tokens, so what it reads is derived; and from every state in which a type may begin it reads
each derived type through. Hence a text is read as a type exactly when its tokens derive the type.
-/

namespace Wiring.TypeExpr

/-! ## What the reader makes is derived -/

theorem denotes_ofName (name : String) : Denotes [.name name] (ofName name) := by
  unfold ofName
  split
  · next marks => exact .marker (isMarkerSpelling_iff.1 marks)
  · next plain => exact .name fun marks => plain (isMarkerSpelling_iff.2 marks)

section Derived

variable {parts : List (List Token × TypeExpr)}
  (derived : ∀ part ∈ parts, Denotes part.1 part.2) (nonempty : parts ≠ [])

include derived nonempty

theorem denotes_ofApplication {name : String} {type : TypeExpr}
    (h : ofApplication name (parts.map (·.2)) = some type) :
    Denotes ([.name name, .mark '<'] ++ separated parts ++ [.mark '>']) type := by
  unfold ofApplication at h
  split at h
  · next other =>
    obtain rfl := Option.some.inj h
    refine .generic (fun wrap known => ?_) nonempty derived
    nomatch other.symm.trans (wrapper?_eq_some_iff.2 known)
  · next wrap known =>
    split at h
    · next arg single =>
      obtain rfl := Option.some.inj h
      obtain ⟨part, rfl, rfl⟩ := List.map_eq_singleton_iff.1 single
      rw [separated_singleton]
      exact .shape (wrapper?_eq_some_iff.1 known) (derived part List.mem_cons_self)
    · nomatch h

theorem denotes_ofItems :
    Denotes ([.mark '('] ++ separated parts ++ [.mark ')']) (ofItems (parts.map (·.2))) := by
  match parts, nonempty with
  | [part], _ =>
    rw [separated_singleton]
    exact .group (derived part List.mem_cons_self)
  | _ :: _ :: _, _ => exact .tuple (Nat.le_add_left ..) derived

omit nonempty in
theorem denotes_closed :
    Denotes ([.mark '('] ++ ended parts ++ [.mark ')']) (.tuple (parts.map (·.2))) := by
  by_cases empty : parts = []
  · rw [empty]
    exact .unit
  · rw [closed_ended empty]
    exact .trailing empty derived

end Derived

/-! ## Runs of the reader -/

/-- The reader takes some tokens one after the other. -/
inductive Reads : Reading → List Token → Reading → Prop where
  | nil (r : Reading) : Reads r [] r
  | cons {r next last : Reading} {token tokens} (first : r.step token = .ok next)
      (rest : Reads next tokens last) : Reads r (token :: tokens) last

theorem Reads.append {r middle last : Reading} {tokens more : List Token}
    (first : Reads r tokens middle) (rest : Reads middle more last) :
    Reads r (tokens ++ more) last := by
  induction first with
  | nil => exact rest
  | cons step _ ih => exact .cons step (ih rest)

theorem Reads.concat {r middle last : Reading} {tokens : List Token} {token : Token}
    (first : Reads r tokens middle) (step : middle.step token = .ok last) :
    Reads r (tokens ++ [token]) last :=
  first.append (.cons step (.nil last))

theorem readLexemes_eq_ok_iff {r last : Reading} {lexemes : List Lexeme} :
    readLexemes r lexemes = .ok last ↔ Reads r (lexemes.map (·.token)) last := by
  induction lexemes generalizing r with
  | nil =>
    constructor
    · rintro ⟨⟩
      exact .nil last
    · rintro ⟨⟩
      rfl
  | cons lexeme more ih =>
    rw [readLexemes, List.map_cons]
    constructor
    · intro h
      split at h
      · next step => exact .cons step (ih.1 h)
      · nomatch h
    · rintro (_ | ⟨step, rest⟩)
      rw [step]
      exact ih.2 rest

theorem parse_eq_ok_iff {input : String} {type : TypeExpr} : parse input = .ok type ↔
    ∃ r, Reads .initial ((Lexeme.scan 0 input.toList).map (·.token)) r ∧
      r.result? = some type := by
  unfold parse
  split
  · next empty =>
    rw [empty]
    refine iff_of_false nofun ?_
    rintro ⟨r, ⟨⟩, result⟩
    nomatch result
  · constructor
    · intro h
      split at h
      · next r read =>
        split at h
        · next result =>
          obtain rfl := Except.ok.inj h
          exact ⟨r, readLexemes_eq_ok_iff.1 read, result⟩
        · nomatch h
      · nomatch h
      · nomatch h
    · rintro ⟨r, reads, result⟩
      rw [readLexemes_eq_ok_iff.2 reads]
      dsimp only
      rw [result]

/-! ## Soundness

What the reader holds spells the tokens that it has taken: its unfinished frames with their finished
parts, and then what stands at its place.
-/

namespace Frame

/-- The tokens with which a frame begins. -/
def opening : Frame → List Token
  | args name _ => [.name name, .mark '<']
  | items _ => [.mark '(']

def done : Frame → List TypeExpr
  | args _ done => done
  | items done => done

/-- A frame with more finished types. -/
def add (frame : Frame) (types : List TypeExpr) : Frame :=
  match frame with
  | args name done => args name (done ++ types)
  | items done => items (done ++ types)

/-- After a comma a parenthesis may be closed; a list of arguments may not. -/
def mayClose : Frame → Bool
  | args .. => false
  | items _ => true

variable (frame : Frame) (types more : List TypeExpr)

@[simp] theorem opening_add : (frame.add types).opening = frame.opening := by
  cases frame <;> rfl

@[simp] theorem done_add : (frame.add types).done = frame.done ++ types := by
  cases frame <;> rfl

@[simp] theorem mayClose_add : (frame.add types).mayClose = frame.mayClose := by
  cases frame <;> rfl

@[simp] theorem add_nil : frame.add [] = frame := by
  cases frame <;> simp [add]

@[simp] theorem add_add : (frame.add types).add more = frame.add (types ++ more) := by
  cases frame <;> simp [add]

end Frame

/-- The tokens of unfinished frames, of which the innermost is first. -/
inductive Opened : List Frame → List Token → Prop where
  | nil : Opened [] []
  | cons {frame outer tokens} {parts : List (List Token × TypeExpr)} (rest : Opened outer tokens)
      (derived : ∀ part ∈ parts, Denotes part.1 part.2) (done : frame.done = parts.map (·.2)) :
      Opened (frame :: outer) (tokens ++ (frame.opening ++ ended parts))

/-- The tokens at a reader's place, after those of its frames. -/
inductive Stands : Place → List Token → Prop where
  | start (mayClose : Bool) : Stands (.start mayClose) []
  | afterName (name : String) : Stands (.afterName name) [.name name]
  | afterType {type tokens} (derived : Denotes tokens type) : Stands (.afterType type) tokens
  | bracket {element tokens} (derived : Denotes tokens element) :
      Stands (.bracket element) (tokens ++ [.mark '['])

/-- What a reader holds spells some tokens. -/
inductive Holds : Reading → List Token → Prop where
  | intro {frames place outer own} (opened : Opened frames outer) (stands : Stands place own) :
      Holds ⟨frames, place⟩ (outer ++ own)

theorem Opened.holds {frames : List Frame} {tokens : List Token} (opened : Opened frames tokens)
    (mayClose : Bool) : Holds ⟨frames, .start mayClose⟩ tokens := by
  have whole := Holds.intro opened (.start mayClose)
  rwa [List.append_nil] at whole

theorem Opened.open {frames : List Frame} {tokens : List Token} (opened : Opened frames tokens)
    (frame : Frame) (fresh : frame.done = []) :
    Opened (frame :: frames) (tokens ++ frame.opening) := by
  have whole := opened.cons (List.forall_mem_nil _) fresh
  rwa [ended, List.flatMap_nil, List.append_nil] at whole

section Innermost

variable {frame : Frame} {frames : List Frame} {outer own : List Token} {type : TypeExpr}

/-- The innermost frame with one more type. -/
theorem Opened.parts (opened : Opened (frame :: frames) outer) (derived : Denotes own type) :
    ∃ before parts, Opened frames before ∧ parts ≠ [] ∧
      (∀ part ∈ parts, Denotes part.1 part.2) ∧ frame.done ++ [type] = parts.map (·.2) ∧
      outer ++ own = before ++ (frame.opening ++ separated parts) ∧
      outer ++ own ++ [.mark ','] = before ++ (frame.opening ++ ended parts) := by
  cases opened with
  | @cons _ _ before parts rest all done =>
    refine ⟨before, parts ++ [(own, type)], rest, by simp, ?_, by simp [done], ?_, ?_⟩
    · exact List.forall_mem_append.2 ⟨all, List.forall_mem_singleton.2 derived⟩
    · rw [separated_concat, List.append_assoc, List.append_assoc]
    · rw [ended_concat, List.append_assoc, List.append_assoc, List.append_assoc]

theorem Opened.add (opened : Opened (frame :: frames) outer) (derived : Denotes own type) :
    Opened (frame.add [type] :: frames) (outer ++ own ++ [.mark ',']) := by
  obtain ⟨before, parts, rest, -, all, done, -, whole⟩ := opened.parts derived
  rw [whole, ← Frame.opening_add frame [type]]
  exact .cons rest all ((Frame.done_add ..).trans done)

end Innermost

/-- After a type, a bracket begins an array, a comma adds the type to the innermost frame, and the
closing mark of that frame makes it a type. -/
theorem holds_afterType {frames : List Frame} {outer own : List Token} {type : TypeExpr}
    {token : Token} {next : Reading} (opened : Opened frames outer) (derived : Denotes own type)
    (h : Reading.afterType frames type token = .ok next) :
    Holds next (outer ++ own ++ [token]) := by
  unfold Reading.afterType at h
  -- One case for each mark that may come here, and then for each innermost frame.
  split at h
  · obtain rfl := Except.ok.inj h
    rw [List.append_assoc]
    exact .intro opened (.bracket derived)
  · split at h
    · obtain rfl := Except.ok.inj h
      exact (opened.add derived).holds false
    · obtain rfl := Except.ok.inj h
      exact (opened.add derived).holds true
    · nomatch h
  · split at h
    · next name done rest =>
      split at h
      · next applied made =>
        obtain rfl := Except.ok.inj h
        obtain ⟨before, parts, opened, nonempty, all, same, whole, -⟩ := opened.parts derived
        rw [whole, List.append_assoc]
        exact .intro opened (.afterType (denotes_ofApplication all nonempty (same ▸ made)))
      · nomatch h
    · nomatch h
  · split at h
    · next done rest =>
      obtain rfl := Except.ok.inj h
      obtain ⟨before, parts, opened, nonempty, all, same, whole, -⟩ := opened.parts derived
      simp only [Frame.done] at same
      rw [whole, List.append_assoc, same]
      exact .intro opened (.afterType (denotes_ofItems all nonempty))
    · nomatch h
  · nomatch h

theorem holds_atStart {frames : List Frame} {outer : List Token} {mayClose : Bool} {token : Token}
    {next : Reading} (opened : Opened frames outer)
    (h : Reading.atStart frames mayClose token = .ok next) : Holds next (outer ++ [token]) := by
  unfold Reading.atStart at h
  split at h
  · obtain rfl := Except.ok.inj h
    exact .intro opened (.afterName _)
  · obtain rfl := Except.ok.inj h
    exact (opened.open (.items []) rfl).holds true
  · split at h
    · obtain rfl := Except.ok.inj h
      cases opened with
      | @cons _ _ before parts rest all done =>
        simp only [Frame.done] at done
        rw [List.append_assoc, done]
        exact .intro rest (.afterType (denotes_closed all))
    · nomatch h
  · nomatch h

/-- One lexeme: what the reader holds goes on to spell the tokens taken. -/
theorem Holds.step {r next : Reading} {tokens : List Token} {token : Token} (h : Holds r tokens)
    (step : r.step token = .ok next) : Holds next (tokens ++ [token]) := by
  obtain ⟨opened, stands⟩ := h
  cases stands with
  | start mayClose =>
    rw [List.append_nil]
    exact holds_atStart opened step
  | afterName name =>
    unfold Reading.step at step
    dsimp only at step
    split at step
    · next begins =>
      obtain rfl := Except.ok.inj step
      rw [begins, List.append_assoc]
      exact (opened.open (.args name []) rfl).holds false
    · exact holds_afterType opened (denotes_ofName name) step
  | afterType derived => exact holds_afterType opened derived step
  | @bracket element own derived =>
    unfold Reading.step at step
    dsimp only at step
    split at step
    · next closes =>
      obtain rfl := Except.ok.inj step
      rw [closes, List.append_assoc, List.append_assoc]
      exact .intro opened (.afterType (.array derived))
    · nomatch step

theorem Holds.reads {r last : Reading} {tokens more : List Token} (h : Holds r tokens)
    (reads : Reads r more last) : Holds last (tokens ++ more) := by
  induction reads generalizing tokens with
  | nil => rwa [List.append_nil]
  | cons first _ ih =>
    have := ih (h.step first)
    rwa [List.append_assoc] at this

theorem Holds.denotes {r : Reading} {tokens : List Token} {type : TypeExpr} (h : Holds r tokens)
    (result : r.result? = some type) : Denotes tokens type := by
  obtain ⟨opened, stands⟩ := h
  cases opened with
  | nil =>
    cases stands with
    | start => nomatch result
    | afterName name =>
      obtain rfl := Option.some.inj result
      exact denotes_ofName name
    | afterType derived =>
      obtain rfl := Option.some.inj result
      exact derived
    | bracket => nomatch result
  | cons => cases stands <;> nomatch result

/-! ## Completeness

From every state in which a type may begin, the reader takes all the tokens of a derived type and
then stands after it.
-/

/-- The reader stands after a type, or after a name that is a type by itself. -/
inductive After (frames : List Frame) (type : TypeExpr) : Reading → Prop where
  | type : After frames type ⟨frames, .afterType type⟩
  | name {name} (made : ofName name = type) : After frames type ⟨frames, .afterName name⟩

theorem After.step {frames : List Frame} {type : TypeExpr} {r : Reading} (h : After frames type r)
    {token : Token} (other : token ≠ .mark '<') :
    r.step token = Reading.afterType frames type token := by
  cases h with
  | type => rfl
  | name made => exact made ▸ if_neg other

theorem After.result? {type : TypeExpr} {r : Reading} (h : After [] type r) :
    r.result? = some type := by
  cases h with
  | type => rfl
  | name made => exact congrArg some made

/-- A type is read through wherever a type may begin. -/
def ReadThrough (tokens : List Token) (type : TypeExpr) : Prop :=
  ∀ frames mayClose, ∃ r, Reads ⟨frames, .start mayClose⟩ tokens r ∧ After frames type r

theorem afterType_comma (frame : Frame) (frames : List Frame) (type : TypeExpr) :
    Reading.afterType (frame :: frames) type (.mark ',') =
      .ok ⟨frame.add [type] :: frames, .start frame.mayClose⟩ := by
  cases frame <;> rfl

section Lists

variable {parts : List (List Token × TypeExpr)}
  (each : ∀ part ∈ parts, ReadThrough part.1 part.2) (frame : Frame) (frames : List Frame)
  (mayClose : Bool)

include each

/-- Parts with their commas are added to the frame. -/
theorem reads_ended : Reads ⟨frame :: frames, .start mayClose⟩ (ended parts)
    ⟨frame.add (parts.map (·.2)) :: frames,
      .start (if parts = [] then mayClose else frame.mayClose)⟩ := by
  induction parts generalizing frame mayClose with
  | nil =>
    rw [List.map_nil, Frame.add_nil]
    exact .nil _
  | cons part parts ih =>
    obtain ⟨here, later⟩ := List.forall_mem_cons.1 each
    obtain ⟨r, reads, after⟩ := here (frame :: frames) mayClose
    have comma := (after.step (by decide)).trans (afterType_comma frame frames part.2)
    have rest := ih later (frame.add [part.2]) frame.mayClose
    -- Once a part is added, it is for the frame to say whether it may be closed.
    rw [Frame.mayClose_add, ite_self, Frame.add_add] at rest
    rw [if_neg (List.cons_ne_nil part parts)]
    exact (reads.concat comma).append rest

/-- Of parts without the last comma, the last one is not yet added to the frame. -/
theorem reads_separated (nonempty : parts ≠ []) :
    ∃ done last r, parts.map (·.2) = done ++ [last] ∧
      Reads ⟨frame :: frames, .start mayClose⟩ (separated parts) r ∧
      After (frame.add done :: frames) last r := by
  obtain ⟨earlier, part, rfl⟩ := (List.eq_nil_or_concat' parts).resolve_left nonempty
  obtain ⟨before, here⟩ := List.forall_mem_append.1 each
  have first := reads_ended before frame frames mayClose
  obtain ⟨r, reads, after⟩ := List.forall_mem_singleton.1 here
    (frame.add (earlier.map (·.2)) :: frames)
    (if earlier = [] then mayClose else frame.mayClose)
  refine ⟨earlier.map (·.2), part.2, r, by simp, ?_, after⟩
  rw [separated_concat]
  exact first.append reads

end Lists

theorem readThrough_ofName {name : String} {type : TypeExpr} (made : ofName name = type) :
    ReadThrough [.name name] type :=
  fun _ _ => ⟨_, .cons rfl (.nil _), .name made⟩

theorem readThrough_application {name : String} {parts : List (List Token × TypeExpr)}
    {type : TypeExpr} (each : ∀ part ∈ parts, ReadThrough part.1 part.2) (nonempty : parts ≠ [])
    (made : ofApplication name (parts.map (·.2)) = some type) :
    ReadThrough ([.name name, .mark '<'] ++ separated parts ++ [.mark '>']) type := by
  intro frames mayClose
  obtain ⟨done, last, r, same, reads, after⟩ :=
    reads_separated each (.args name []) frames false nonempty
  have closed : r.step (.mark '>') = .ok ⟨frames, .afterType type⟩ := by
    rw [same] at made
    rw [after.step (by decide), Frame.add, List.nil_append, Reading.afterType]
    simp only [made]
  refine ⟨_, ?_, .type⟩
  exact .cons rfl (.cons rfl (reads.concat closed))

theorem readThrough_items {parts : List (List Token × TypeExpr)}
    (each : ∀ part ∈ parts, ReadThrough part.1 part.2) (nonempty : parts ≠ []) :
    ReadThrough ([.mark '('] ++ separated parts ++ [.mark ')']) (ofItems (parts.map (·.2))) := by
  intro frames mayClose
  obtain ⟨done, last, r, same, reads, after⟩ :=
    reads_separated each (.items []) frames true nonempty
  have closed : r.step (.mark ')') = .ok ⟨frames, .afterType (ofItems (parts.map (·.2)))⟩ := by
    rw [after.step (by decide), same]
    rfl
  exact ⟨_, .cons rfl (reads.concat closed), .type⟩

theorem readThrough_closed {parts : List (List Token × TypeExpr)}
    (each : ∀ part ∈ parts, ReadThrough part.1 part.2) :
    ReadThrough ([.mark '('] ++ ended parts ++ [.mark ')']) (.tuple (parts.map (·.2))) := by
  intro frames mayClose
  have reads := reads_ended each (.items []) frames true
  rw [Frame.mayClose, ite_self] at reads
  exact ⟨_, .cons rfl (reads.concat rfl), .type⟩

theorem ofApplication_plain {name : String} (plain : ∀ wrap, ¬ NamesShape name wrap)
    (args : List TypeExpr) : ofApplication name args = some (.named name args) := by
  have none : wrapper? name = none :=
    Option.eq_none_iff_forall_ne_some.2 fun wrap known => plain wrap (wrapper?_eq_some_iff.1 known)
  unfold ofApplication
  rw [none]

theorem ofApplication_shape {name : String} {wrap : TypeExpr → TypeExpr}
    (known : NamesShape name wrap) (arg : TypeExpr) :
    ofApplication name [arg] = some (wrap arg) := by
  unfold ofApplication
  rw [wrapper?_eq_some_iff.2 known]

theorem Denotes.readThrough {tokens : List Token} {type : TypeExpr} (h : Denotes tokens type) :
    ReadThrough tokens type := by
  induction h with
  | name plain =>
    exact readThrough_ofName (if_neg fun marks => plain (isMarkerSpelling_iff.1 marks))
  | marker marks => exact readThrough_ofName (if_pos (isMarkerSpelling_iff.2 marks))
  | generic plain nonempty _ ih =>
    exact readThrough_application ih nonempty (ofApplication_plain plain _)
  | @shape name wrap tokens type known _ ih =>
    have each : ∀ part ∈ [(tokens, type)], ReadThrough part.1 part.2 :=
      List.forall_mem_singleton.2 ih
    have read := readThrough_application each nofun (ofApplication_shape known type)
    rwa [separated_singleton] at read
  | unit => exact readThrough_closed (List.forall_mem_nil _)
  | @group tokens type _ ih =>
    have each : ∀ part ∈ [(tokens, type)], ReadThrough part.1 part.2 :=
      List.forall_mem_singleton.2 ih
    have read := readThrough_items each nofun
    rwa [separated_singleton] at read
  | @tuple parts several _ ih =>
    match parts, several with
    | _ :: _ :: _, _ => exact readThrough_items ih nofun
  | trailing nonempty _ ih =>
    have read := readThrough_closed ih
    rwa [closed_ended nonempty] at read
  | @array tokens type _ ih =>
    intro frames mayClose
    obtain ⟨r, reads, after⟩ := ih frames mayClose
    have opened : r.step (.mark '[') = .ok ⟨frames, .bracket type⟩ := after.step (by decide)
    exact ⟨_, reads.append (.cons opened (.cons rfl (.nil _))), .type⟩

/-! ## The reader's language -/

theorem parse_eq_ok_iff_denotes {input : String} {type : TypeExpr} :
    parse input = .ok type ↔ Denotes ((Lexeme.scan 0 input.toList).map (·.token)) type := by
  rw [parse_eq_ok_iff]
  constructor
  · rintro ⟨r, reads, result⟩
    have start : Holds .initial [] := .intro .nil (.start false)
    exact (start.reads reads).denotes result
  · intro derived
    obtain ⟨r, reads, after⟩ := derived.readThrough [] false
    exact ⟨r, reads, after.result?⟩

/-- A text is read as a type exactly when it spells tokens that the grammar derives to this type. -/
theorem parse_eq_ok_iff_spells (input : String) (type : TypeExpr) :
    parse input = .ok type ↔ ∃ tokens, Spells input.toList tokens ∧ Denotes tokens type := by
  rw [parse_eq_ok_iff_denotes]
  constructor
  · exact fun derived => ⟨_, Lexeme.spells_tokens derived.known, derived⟩
  · rintro ⟨tokens, spells, derived⟩
    rwa [Lexeme.tokens_of_spells spells]

end Wiring.TypeExpr
