import Wiring.Proofs.Resolver.Scoring

/-!
# Resolver — Probing

Why a probe answers as it does. Each answer has one of few reasons, which rest on the answers to the
questions that come next and on what is remembered. So whatever follows from these reasons holds of
all answers, by one induction on the room that is left.
-/

namespace Wiring

/-- What is remembered of a type is known of it. -/
def Remembers (known : TypeExpr → Bool → Prop) (memo : ProbeMemo) : Prop :=
  ∀ type b, memo.lookup type = some b → known type b

section Remembers

variable {known : TypeExpr → Bool → Prop} {memo : ProbeMemo}

theorem Remembers.nil : Remembers known [] := nofun

theorem Remembers.cons (h : Remembers known memo) {type : TypeExpr} {b : Bool}
    (new : known type b) : Remembers known ((type, b) :: memo) := by
  intro type' b' found
  rw [List.lookup_cons] at found
  split at found
  · next same =>
    cases eq_of_beq same
    cases found
    exact new
  · exact h type' b' found

end Remembers

namespace Resolver

variable (r : Resolver)

/-- Ask a question within some steps. -/
def ask (room : Nat) (Q : Question) (memo : ProbeMemo) : Bool × ProbeMemo :=
  r.probe room Q.visiting Q.query.contract Q.query.tag Q.query.path memo

/-! ## Reasons -/

/-- Why a type that is not being built can be resolved by itself or not, given answers about the
parameters of its constructors. -/
inductive TypeReason (answered : Question → Bool → Prop) (visiting : List TypeExpr)
    (type : TypeExpr) : Bool → Prop where
  | refused (auto : r.autoBinding type = none) : TypeReason answered visiting type false
  | plain {d s} (auto : (r.autoBinding type).isSome) (described : r.descriptorOf type = some (d, s))
      (unlisted : d.constructors.isEmpty) : TypeReason answered visiting type true
  | full {d s c} (auto : (r.autoBinding type).isSome)
      (described : r.descriptorOf type = some (d, s))
      (considered : c ∈ d.considered r.options.parameterlessFallback)
      (params : ∀ p ∈ c.1.params,
        answered ⟨type :: visiting, paramQuery s (s.apply d.type) p⟩ true) :
      TypeReason answered visiting type true
  | lacking {d s} (auto : (r.autoBinding type).isSome)
      (described : r.descriptorOf type = some (d, s)) (listed : d.constructors.isEmpty = false)
      (params : ∀ c ∈ d.considered r.options.parameterlessFallback, ∃ p ∈ c.1.params,
        answered ⟨type :: visiting, paramQuery s (s.apply d.type) p⟩ false) :
      TypeReason answered visiting type false

/-- Why a question is answered so, given what is known of types and how the questions that come next
are answered. -/
inductive Reason (known : TypeExpr → Bool → Prop) (answered : Question → Bool → Prop) :
    Question → Bool → Prop where
  | bound {Q} (bound : r.isBound Q.query) : Reason known answered Q true
  | collection {Q kind element} (shape : Q.query.contract = .collection kind element) :
      Reason known answered Q true
  | marker {Q name} (unbound : r.isBound Q.query = false)
      (shape : Q.query.contract = .marker name) : Reason known answered Q false
  | wrapped {Q target b} (unbound : r.isBound Q.query = false)
      (shape : Q.query.contract.wrapped? = some target)
      (part : answered ⟨Q.visiting, { Q.query with contract := target }⟩ b) :
      Reason known answered Q b
  | whole {Q items} (unbound : r.isBound Q.query = false) (shape : Q.query.contract = .tuple items)
      (parts : ∀ item ∈ items, answered ⟨Q.visiting, ⟨item, none, none⟩⟩ true) :
      Reason known answered Q true
  | lacking {Q items item} (unbound : r.isBound Q.query = false)
      (shape : Q.query.contract = .tuple items) (mem : item ∈ items)
      (part : answered ⟨Q.visiting, ⟨item, none, none⟩⟩ false) : Reason known answered Q false
  | remembered {Q b} (unbound : r.isBound Q.query = false) (named : Q.query.contract.isNamed)
      (remembered : known Q.query.contract b) : Reason known answered Q b
  | visited {Q} (unbound : r.isBound Q.query = false) (named : Q.query.contract.isNamed)
      (visited : Q.query.contract ∈ Q.visiting) : Reason known answered Q true
  | found {Q b} (unbound : r.isBound Q.query = false) (named : Q.query.contract.isNamed)
      (new : Q.query.contract ∉ Q.visiting)
      (reason : r.TypeReason answered Q.visiting Q.query.contract b) : Reason known answered Q b

/-- What holds of the questions asked with some room left, follows for an answer from its reason and
for what is remembered of a type from the reason that was found. -/
structure ProbeLaw (asked : Nat → Question → Prop) (answered : Question → Bool → Prop)
    (known : TypeExpr → Bool → Prop) : Prop where
  sub : ∀ {room Q Q'}, asked (room + 1) Q → Q' ∈ r.subquestions Q → asked room Q'
  cut : ∀ {Q}, asked 0 Q → answered Q false
  answer : ∀ {room Q b}, asked (room + 1) Q → r.Reason known answered Q b → answered Q b
  remember : ∀ {room Q b}, asked (room + 1) Q → r.isBound Q.query = false →
    Q.query.contract.isNamed → Q.query.contract ∉ Q.visiting →
    r.TypeReason answered Q.visiting Q.query.contract b → known Q.query.contract b

variable {r} {asked : Nat → Question → Prop} {answered : Question → Bool → Prop}
  {known : TypeExpr → Bool → Prop}

/-! ## Steps -/

theorem probeAll_spec (good : TypeExpr → Bool → Prop)
    {probe : TypeExpr → ProbeMemo → Bool × ProbeMemo} {items : List TypeExpr} {memo : ProbeMemo}
    (answers : ∀ item ∈ items, ∀ memo, Remembers known memo →
      good item (probe item memo).1 ∧ Remembers known (probe item memo).2)
    (remembers : Remembers known memo) :
    ((probeAll probe items memo).1 = true ∧ (∀ item ∈ items, good item true) ∨
      (probeAll probe items memo).1 = false ∧ ∃ item ∈ items, good item false) ∧
    Remembers known (probeAll probe items memo).2 := by
  induction items generalizing memo with
  | nil => exact ⟨.inl ⟨rfl, nofun⟩, remembers⟩
  | cons item more ih =>
    obtain ⟨first, remembers'⟩ := answers item List.mem_cons_self memo remembers
    rw [probeAll]
    dsimp only
    split
    · next yes =>
      rw [yes] at first
      obtain ⟨rest, remembers''⟩ := ih (fun i mem => answers i (.tail _ mem)) remembers'
      refine ⟨?_, remembers''⟩
      rcases rest with ⟨all, good⟩ | ⟨lacks, i, mem, bad⟩
      · exact .inl ⟨all, List.forall_mem_cons.2 ⟨first, good⟩⟩
      · exact .inr ⟨lacks, i, .tail _ mem, bad⟩
    · next no =>
      rw [Bool.eq_false_of_not_eq_true no] at first
      exact ⟨.inr ⟨rfl, item, List.mem_cons_self, first⟩, remembers'⟩

variable {room : Nat} {Q : Question} {memo : ProbeMemo}

theorem ask_bound (bound : r.isBound Q.query) : r.ask (room + 1) Q memo = (true, memo) := by
  rw [ask, probe.eq_def]
  exact if_pos bound

theorem ask_collection {kind : CollectionKind} {element : TypeExpr}
    (unbound : r.isBound Q.query = false) (shape : Q.query.contract = .collection kind element) :
    r.ask (room + 1) Q memo = (true, memo) := by
  rw [ask, probe.eq_def]
  simp only [shape]
  exact if_neg (by rw [← shape]; exact Bool.eq_false_iff.1 unbound)

theorem ask_marker {name : String} (unbound : r.isBound Q.query = false)
    (shape : Q.query.contract = .marker name) : r.ask (room + 1) Q memo = (false, memo) := by
  rw [ask, probe.eq_def]
  simp only [shape]
  exact if_neg (by rw [← shape]; exact Bool.eq_false_iff.1 unbound)

theorem ask_wrapped {target : TypeExpr} (unbound : r.isBound Q.query = false)
    (shape : Q.query.contract.wrapped? = some target) :
    r.ask (room + 1) Q memo
      = r.ask room ⟨Q.visiting, { Q.query with contract := target }⟩ memo := by
  obtain ⟨visiting, contract, tag, path⟩ := Q
  rw [ask, probe.eq_def]
  have unanswered : ¬((r.lookup ⟨contract, tag, path⟩).isSome ||
    (r.askedAccumulator contract).isSome) = true := Bool.eq_false_iff.1 unbound
  dsimp only at shape ⊢
  rw [if_neg unanswered]
  cases contract with
  | func | lazy | owned =>
    cases shape
    rfl
  | named | marker | collection | tuple => nomatch shape

theorem ask_tuple {items : List TypeExpr} (unbound : r.isBound Q.query = false)
    (shape : Q.query.contract = .tuple items) :
    r.ask (room + 1) Q memo
      = probeAll (fun item => r.ask room ⟨Q.visiting, ⟨item, none, none⟩⟩) items memo := by
  rw [ask, probe.eq_def]
  simp only [shape]
  exact if_neg (by rw [← shape]; exact Bool.eq_false_iff.1 unbound)

theorem ask_named (unbound : r.isBound Q.query = false) (named : Q.query.contract.isNamed) :
    r.ask (room + 1) Q memo =
      match memo.lookup Q.query.contract with
      | some known => (known, memo)
      | none =>
        if Q.query.contract ∈ Q.visiting then (true, memo)
        else if (r.autoBinding Q.query.contract).isNone then
          (false, (Q.query.contract, false) :: memo)
        else match r.descriptorOf Q.query.contract with
          | none => (false, memo)
          | some (d, s) =>
            let chosen := r.selectWith (r.probe room (Q.query.contract :: Q.visiting)) d s memo
            (chosen.1.isFull, (Q.query.contract, chosen.1.isFull) :: chosen.2) := by
  obtain ⟨visiting, contract, tag, path⟩ := Q
  rw [ask, probe.eq_def]
  have unanswered : ¬((r.lookup ⟨contract, tag, path⟩).isSome ||
    (r.askedAccumulator contract).isSome) = true := Bool.eq_false_iff.1 unbound
  dsimp only at named ⊢
  rw [if_neg unanswered]
  cases contract with
  | named path args => rfl
  | marker | collection | func | lazy | owned | tuple => nomatch named

/-- The parameters of a type that is bound by itself are what is asked next. -/
theorem mem_subquestions_of_param {d : Descriptor} {s : Substitution} {q : Query}
    (unbound : r.isBound Q.query = false) (named : Q.query.contract.isNamed)
    (new : Q.query.contract ∉ Q.visiting) (auto : (r.autoBinding Q.query.contract).isSome)
    (described : r.descriptorOf Q.query.contract = some (d, s)) (mem : q ∈ r.paramQueries d s) :
    ⟨Q.query.contract :: Q.visiting, q⟩ ∈ r.subquestions Q := by
  obtain ⟨visiting, contract, tag, path⟩ := Q
  cases contract with
  | named path args =>
    rw [subquestions, if_neg (by simp [unbound])]
    simp only [described]
    rw [if_neg (by simp_all [Option.isSome_iff_ne_none])]
    exact List.mem_map_of_mem mem
  | marker | collection | func | lazy | owned | tuple => nomatch named

/-- What a new type is answered with has its reason. -/
theorem selectWith_reason {d : Descriptor} {s : Substitution}
    (auto : (r.autoBinding Q.query.contract).isSome)
    (described : r.descriptorOf Q.query.contract = some (d, s))
    (answers : ∀ q ∈ r.paramQueries d s,
      AnswersAs (r.probe room (Q.query.contract :: Q.visiting))
        (fun q => answered ⟨Q.query.contract :: Q.visiting, q⟩) (Remembers known) q)
    (remembers : Remembers known memo) :
    r.TypeReason answered Q.visiting Q.query.contract
      (r.selectWith (r.probe room (Q.query.contract :: Q.visiting)) d s memo).1.isFull := by
  cases full : (r.selectWith (r.probe room (Q.query.contract :: Q.visiting)) d s memo).1.isFull with
  | true =>
    rcases selectWith_full answers remembers full with ⟨unlisted, -⟩ | ⟨c, mem, -, params⟩
    · exact .plain auto described unlisted
    · exact .full auto described mem params
  | false =>
    obtain ⟨listed, params⟩ := selectWith_lacking answers remembers full
    exact .lacking auto described listed params

/-- The parts of a built-in shape are what is asked next. -/
theorem mem_subquestions_of_wrapped {target : TypeExpr} (unbound : r.isBound Q.query = false)
    (shape : Q.query.contract.wrapped? = some target) :
    ⟨Q.visiting, { Q.query with contract := target }⟩ ∈ r.subquestions Q := by
  obtain ⟨visiting, contract, tag, path⟩ := Q
  rw [subquestions, if_neg (Bool.eq_false_iff.1 unbound)]
  cases contract with
  | func | lazy | owned =>
    cases shape
    exact List.mem_cons_self
  | named | marker | collection | tuple => nomatch shape

theorem mem_subquestions_of_tuple {items : List TypeExpr} {item : TypeExpr}
    (unbound : r.isBound Q.query = false) (shape : Q.query.contract = .tuple items)
    (mem : item ∈ items) : ⟨Q.visiting, ⟨item, none, none⟩⟩ ∈ r.subquestions Q := by
  rw [subquestions, if_neg (Bool.eq_false_iff.1 unbound), shape]
  exact List.mem_map_of_mem mem

/-- The questions that come next are answered as told. -/
def AnswersNext (r : Resolver) (answered : Question → Bool → Prop)
    (known : TypeExpr → Bool → Prop) (room : Nat) (Q : Question) : Prop :=
  ∀ Q' ∈ r.subquestions Q, ∀ memo, Remembers known memo →
    answered Q' (r.ask room Q' memo).1 ∧ Remembers known (r.ask room Q' memo).2

/-- A type is answered by what is remembered, or for a reason that is then remembered. -/
theorem ProbeLaw.ask_type (law : r.ProbeLaw asked answered known) (h : asked (room + 1) Q)
    (next : AnswersNext r answered known room Q) (unbound : r.isBound Q.query = false)
    (named : Q.query.contract.isNamed) (remembers : Remembers known memo) :
    answered Q (r.ask (room + 1) Q memo).1 ∧ Remembers known (r.ask (room + 1) Q memo).2 := by
  rw [ask_named unbound named]
  -- What is remembered goes before the types being built, and both before the constructors.
  split
  · next b found =>
    exact ⟨law.answer h (.remembered unbound named (remembers _ b found)), remembers⟩
  split
  · next visited => exact ⟨law.answer h (.visited unbound named visited), remembers⟩
  next new =>
  have found {b} (reason : r.TypeReason answered Q.visiting Q.query.contract b) {memo}
      (remembers : Remembers known memo) :
      answered Q b ∧ Remembers known ((Q.query.contract, b) :: memo) :=
    ⟨law.answer h (.found unbound named new reason),
      remembers.cons (law.remember h unbound named new reason)⟩
  cases auto : r.autoBinding Q.query.contract with
  | none => exact found (.refused auto) remembers
  | some b =>
    obtain ⟨d, s, described, -⟩ := descriptorOf_of_autoBinding auto
    have isAuto : (r.autoBinding Q.query.contract).isSome := by rw [auto]; rfl
    have answers : ∀ q ∈ r.paramQueries d s,
        AnswersAs (r.probe room (Q.query.contract :: Q.visiting))
          (fun q => answered ⟨Q.query.contract :: Q.visiting, q⟩) (Remembers known) q :=
      fun q mem => next _ (mem_subquestions_of_param unbound named new isAuto described mem)
    simp only [described]
    exact found (selectWith_reason isAuto described answers remembers)
      (selectWith_memory answers remembers)

/-- What holds of the reasons holds of all answers. -/
theorem ProbeLaw.ask (law : r.ProbeLaw asked answered known) (h : asked room Q)
    (remembers : Remembers known memo) :
    answered Q (r.ask room Q memo).1 ∧ Remembers known (r.ask room Q memo).2 := by
  induction room generalizing Q memo with
  | zero => exact ⟨law.cut h, remembers⟩
  | succ room ih =>
    have next : AnswersNext r answered known room Q :=
      fun Q' sub memo remembers => ih (law.sub h sub) remembers
    cases bound : r.isBound Q.query with
    | true =>
      rw [ask_bound bound]
      exact ⟨law.answer h (.bound bound), remembers⟩
    | false =>
      cases shape : Q.query.contract with
      | collection =>
        rw [ask_collection bound shape]
        exact ⟨law.answer h (.collection shape), remembers⟩
      | marker =>
        rw [ask_marker bound shape]
        exact ⟨law.answer h (.marker bound shape), remembers⟩
      | func target | lazy target | owned target =>
        have wrapped : Q.query.contract.wrapped? = some target := by rw [shape]; rfl
        rw [ask_wrapped bound wrapped]
        obtain ⟨part, remembers'⟩ :=
          next _ (mem_subquestions_of_wrapped bound wrapped) memo remembers
        exact ⟨law.answer h (.wrapped bound wrapped part), remembers'⟩
      | tuple items =>
        rw [ask_tuple bound shape]
        obtain ⟨⟨all, parts⟩ | ⟨lacks, item, mem, part⟩, remembers'⟩ :=
          probeAll_spec (fun item => answered ⟨Q.visiting, ⟨item, none, none⟩⟩)
            (fun item mem => next _ (mem_subquestions_of_tuple bound shape mem)) remembers
        · rw [all]
          exact ⟨law.answer h (.whole bound shape parts), remembers'⟩
        · rw [lacks]
          exact ⟨law.answer h (.lacking bound shape mem part), remembers'⟩
      | named path args => exact law.ask_type h next bound (by rw [shape]; rfl) remembers

end Resolver

/-! ## Calls -/

/-- A use of what is remembered: a constructor is chosen for a described type, or it is asked
whether a request could be resolved. -/
inductive ProbeCall where
  | select (d : Descriptor) (s : Substitution)
  | resolve (q : Query)

namespace ProbeCall

variable (r : Resolver)

def answer (memo : ProbeMemo) : ProbeCall → Selection ⊕ Bool
  | select d s => .inl (r.selectConstructor d s memo).1
  | resolve q => .inr (r.canResolve q.contract q.tag q.path memo).1

def remember (memo : ProbeMemo) : ProbeCall → ProbeMemo
  | select d s => (r.selectConstructor d s memo).2
  | resolve q => (r.canResolve q.contract q.tag q.path memo).2

/-- What is true of the questions that a call begins with, and of the room that it has for them. -/
def Asks (asked : Nat → Question → Prop) : ProbeCall → Prop
  | select d s => ∀ q ∈ r.paramQueries d s, asked r.options.maxDepth ⟨[s.apply d.type], q⟩
  | resolve q => asked (r.options.maxDepth + 1) ⟨[], q⟩

instance Asks.decidable (asked : Nat → Question → Prop) [∀ room Q, Decidable (asked room Q)] :
    (call : ProbeCall) → Decidable (call.Asks r asked)
  | select d s => inferInstanceAs (Decidable (∀ q ∈ r.paramQueries d s, _))
  | resolve _ => inferInstanceAs (Decidable (asked _ _))

end ProbeCall

namespace Resolver

/-- What is remembered after some calls. -/
def memoAfter (r : Resolver) (calls : List ProbeCall) : ProbeMemo :=
  calls.foldl (fun memo call => call.remember r memo) []

variable {r : Resolver} {asked : Nat → Question → Prop} {answered : Question → Bool → Prop}
  {known : TypeExpr → Bool → Prop}

theorem ProbeLaw.answersAs (law : r.ProbeLaw asked answered known) {d : Descriptor}
    {s : Substitution} (h : (ProbeCall.select d s).Asks r asked) :
    ∀ q ∈ r.paramQueries d s, AnswersAs (r.probe r.options.maxDepth [s.apply d.type])
      (fun q => answered ⟨[s.apply d.type], q⟩) (Remembers known) q :=
  fun q mem _ remembers => law.ask (h q mem) remembers

theorem ProbeLaw.remembers (law : r.ProbeLaw asked answered known) {call : ProbeCall}
    {memo : ProbeMemo} (h : call.Asks r asked) (remembers : Remembers known memo) :
    Remembers known (call.remember r memo) := by
  cases call with
  | select d s => exact selectWith_memory (law.answersAs h) remembers
  | resolve q => exact (law.ask h remembers).2

/-- What is remembered after some calls is known. -/
theorem ProbeLaw.memoAfter (law : r.ProbeLaw asked answered known) {calls : List ProbeCall}
    (h : ∀ call ∈ calls, call.Asks r asked) : Remembers known (r.memoAfter calls) := by
  induction calls using List.reverseRecOn with
  | nil => exact .nil
  | append_singleton calls last ih =>
    rw [Resolver.memoAfter, List.foldl_append]
    exact law.remembers (h last (by simp)) (ih fun call mem => h call (by simp [mem]))

end Resolver

end Wiring
