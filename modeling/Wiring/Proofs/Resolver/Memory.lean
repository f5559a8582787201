import Wiring.Proofs.Resolver.Probing

/-!
# Resolver — Memory

When remembered answers make no difference. A probe takes a type that is being built as resolvable,
and it gives up at its limit; what it then remembers may be untrue of the type by itself. Otherwise
all answers are those of one relation between requests and types, the greatest that the descriptors
allow, and so no answer depends on what was asked before.
-/

namespace Wiring

namespace Resolver

variable (r : Resolver)

/-- A request can be met, given the types that can be built by themselves. -/
inductive CanMeet (types : TypeExpr → Prop) : Query → Prop where
  | bound {q} (bound : r.isBound q) : CanMeet types q
  | collection {q kind element} (shape : q.contract = .collection kind element) : CanMeet types q
  | wrapped {q target} (shape : q.contract.wrapped? = some target)
      (part : CanMeet types { q with contract := target }) : CanMeet types q
  | tuple {q items} (shape : q.contract = .tuple items)
      (parts : ∀ item ∈ items, CanMeet types ⟨item, none, none⟩) : CanMeet types q
  | type {q} (named : q.contract.isNamed) (type : types q.contract) : CanMeet types q

/-- A type may be bound by itself, and it has a constructor whose parameters can all be met. -/
def CanBuild (types : TypeExpr → Prop) (type : TypeExpr) : Prop :=
  (r.autoBinding type).isSome ∧ ∃ d s, r.descriptorOf type = some (d, s) ∧
    (d.constructors.isEmpty ∨ ∃ c ∈ d.considered r.options.parameterlessFallback,
      ∀ p ∈ c.1.params, r.CanMeet types (paramQuery s (s.apply d.type) p))

/-- A type can be resolved by itself: it belongs to some types that can be built from each other. -/
def Resolvable (type : TypeExpr) : Prop :=
  ∃ types : TypeExpr → Prop, (∀ t, types t → r.CanBuild types t) ∧ types type

/-- A type that comes back on its own path can be resolved by itself. -/
def Settled (Q : Question) : Prop :=
  r.isBound Q.query = false → Q.query.contract.isNamed → Q.query.contract ∈ Q.visiting →
    r.Resolvable Q.query.contract

variable {r} {types types' : TypeExpr → Prop} {q : Query}

/-! ## The greatest relation -/

theorem CanMeet.mono (h : r.CanMeet types q) (more : ∀ t, types t → types' t) :
    r.CanMeet types' q := by
  induction h with
  | bound bound => exact .bound bound
  | collection shape => exact .collection shape
  | wrapped shape _ ih => exact .wrapped shape ih
  | tuple shape _ ih => exact .tuple shape ih
  | type named type => exact .type named (more _ type)

theorem CanBuild.mono {type : TypeExpr} (h : r.CanBuild types type)
    (more : ∀ t, types t → types' t) : r.CanBuild types' type := by
  obtain ⟨auto, d, s, described, unlisted | ⟨c, mem, params⟩⟩ := h
  · exact ⟨auto, d, s, described, .inl unlisted⟩
  · exact ⟨auto, d, s, described, .inr ⟨c, mem, fun p mem => (params p mem).mono more⟩⟩

theorem Resolvable.canBuild {type : TypeExpr} (h : r.Resolvable type) :
    r.CanBuild r.Resolvable type := by
  obtain ⟨types, closed, mem⟩ := h
  exact (closed type mem).mono fun t mem => ⟨types, closed, mem⟩

/-- Resolvable are just the types that can be built from resolvable ones. -/
theorem resolvable_iff {type : TypeExpr} : r.Resolvable type ↔ r.CanBuild r.Resolvable type := by
  refine ⟨Resolvable.canBuild, fun h => ?_⟩
  -- The types that can be built from resolvable ones can be built from each other.
  refine ⟨r.CanBuild r.Resolvable, fun t built => ?_, h⟩
  exact built.mono fun t resolvable => resolvable.canBuild

/-! ## Requests by their shape -/

section Shapes

theorem not_canMeet_marker {name : String} (unbound : r.isBound q = false)
    (shape : q.contract = .marker name) : ¬r.CanMeet types q := by
  intro h
  cases h with
  | bound bound => exact Bool.false_ne_true (unbound.symm.trans bound)
  | collection shape' | tuple shape' => cases shape.symm.trans shape'
  | wrapped shape' | type shape' => rw [shape] at shape'; cases shape'

theorem canMeet_wrapped_iff {target : TypeExpr} (unbound : r.isBound q = false)
    (shape : q.contract.wrapped? = some target) :
    r.CanMeet types q ↔ r.CanMeet types { q with contract := target } := by
  refine ⟨fun h => ?_, .wrapped shape⟩
  cases h with
  | bound bound => exact absurd bound (Bool.eq_false_iff.1 unbound)
  | collection shape' | tuple shape' => rw [shape'] at shape; nomatch shape
  | wrapped shape' part => exact Option.some.inj (shape'.symm.trans shape) ▸ part
  | type named => nomatch shape.symm.trans (TypeExpr.wrapped?_of_isNamed named)

theorem canMeet_tuple_iff {items : List TypeExpr} (unbound : r.isBound q = false)
    (shape : q.contract = .tuple items) :
    r.CanMeet types q ↔ ∀ item ∈ items, r.CanMeet types ⟨item, none, none⟩ := by
  refine ⟨fun h => ?_, .tuple shape⟩
  cases h with
  | bound bound => exact absurd bound (Bool.eq_false_iff.1 unbound)
  | collection shape' => cases shape.symm.trans shape'
  | wrapped shape' | type shape' => rw [shape] at shape'; cases shape'
  | tuple shape' parts =>
    cases shape.symm.trans shape'
    exact parts

theorem canMeet_type_iff (unbound : r.isBound q = false) (named : q.contract.isNamed) :
    r.CanMeet types q ↔ types q.contract := by
  refine ⟨fun h => ?_, .type named⟩
  cases h with
  | bound bound => exact absurd bound (Bool.eq_false_iff.1 unbound)
  | collection shape | tuple shape => rw [shape] at named; nomatch named
  | wrapped shape => nomatch shape.symm.trans (TypeExpr.wrapped?_of_isNamed named)
  | type _ type => exact type

end Shapes

/-! ## Answers -/

/-- The reasons that a type is answered for are those of the relation. -/
theorem TypeReason.iff_resolvable {visiting : List TypeExpr} {type : TypeExpr} {b : Bool}
    (h : r.TypeReason (fun Q b => b = true ↔ r.CanMeet r.Resolvable Q.query) visiting type b) :
    b = true ↔ r.Resolvable type := by
  rw [resolvable_iff]
  cases h with
  | refused auto =>
    refine iff_of_false nofun fun built => ?_
    rw [CanBuild, auto] at built
    exact Bool.false_ne_true built.1
  | plain auto described unlisted => exact iff_of_true rfl ⟨auto, _, _, described, .inl unlisted⟩
  | full auto described considered params =>
    refine iff_of_true rfl ⟨auto, _, _, described, .inr ⟨_, considered, fun p mem => ?_⟩⟩
    exact (params p mem).1 rfl
  | lacking auto described listed params =>
    refine iff_of_false nofun ?_
    rintro ⟨-, d, s, described', unlisted | ⟨c, mem, met⟩⟩
    · cases described.symm.trans described'
      exact Bool.false_ne_true (listed.symm.trans unlisted)
    · cases described.symm.trans described'
      obtain ⟨p, mem', no⟩ := params c mem
      exact Bool.false_ne_true (no.2 (met p mem'))

/-- Where all that is asked is settled within the room, the answers are those of the relation. -/
theorem settled_law : r.ProbeLaw (r.Within r.Settled)
    (fun Q b => b = true ↔ r.CanMeet r.Resolvable Q.query)
    (fun type b => b = true ↔ r.Resolvable type) where
  sub h sub := h.2 _ sub
  cut := False.elim
  answer h reason := by
    cases reason with
    | bound bound => exact iff_of_true rfl (.bound bound)
    | collection shape => exact iff_of_true rfl (.collection shape)
    | marker unbound shape => exact iff_of_false nofun (not_canMeet_marker unbound shape)
    | wrapped unbound shape part => exact part.trans (canMeet_wrapped_iff unbound shape).symm
    | whole unbound shape parts =>
      exact iff_of_true rfl (.tuple shape fun item mem => (parts item mem).1 rfl)
    | lacking unbound shape mem part =>
      refine iff_of_false nofun fun met => ?_
      exact Bool.false_ne_true (part.2 ((canMeet_tuple_iff unbound shape).1 met _ mem))
    | remembered unbound named remembered =>
      exact remembered.trans (canMeet_type_iff unbound named).symm
    | visited unbound named visited =>
      -- The probe says yes without asking, which is right of a settled question only.
      exact iff_of_true rfl (.type named (h.1 unbound named visited))
    | found unbound named _ reason =>
      exact reason.iff_resolvable.trans (canMeet_type_iff unbound named).symm
  remember _ _ _ _ reason := reason.iff_resolvable

end Resolver

/-! ## Calls -/

/-- The scores of a constructor are the same when the answers are. -/
theorem Scored.unique {answered : Query → Bool → Prop} {s : Substitution} {consumer : TypeExpr}
    {c : Constructor × Nat} {score score' : Score}
    (same : ∀ q b b', answered q b → answered q b' → b = b')
    (h : Scored answered s consumer c score) (h' : Scored answered s consumer c score') :
    score = score' := by
  obtain ⟨bs, each, rfl⟩ := h
  obtain ⟨bs', each', rfl⟩ := h'
  have unique : Relator.RightUnique fun p b => answered (paramQuery s consumer p) b :=
    fun _ _ _ => same _ _ _
  rw [unique.forall₂ each each']

namespace Resolver

variable {r : Resolver} {answered : Query → Bool → Prop} {memory : ProbeMemo → Prop}
  {d : Descriptor} {s : Substitution} {probe : Prober} {memo memo' : ProbeMemo}

/-- The same constructor is chosen when the answers are the same. -/
theorem selectWith_unique (same : ∀ q b b', answered q b → answered q b' → b = b')
    (answers : ∀ q ∈ r.paramQueries d s, AnswersAs probe answered memory q)
    (known : memory memo) (known' : memory memo') :
    (r.selectWith probe d s memo).1 = (r.selectWith probe d s memo').1 := by
  cases listed : d.constructors.isEmpty with
  | true => rw [selectWith, selectWith, if_pos listed, if_pos listed]
  | false =>
    obtain ⟨⟨scores, scored, chosen⟩, -⟩ := selectWith_spec listed answers known
    obtain ⟨⟨scores', scored', chosen'⟩, -⟩ := selectWith_spec listed answers known'
    have unique : Relator.RightUnique (Scored answered s (s.apply d.type)) :=
      fun _ _ _ => Scored.unique same
    rw [chosen, chosen', unique.forall₂ scored scored']

/-- When all questions that the earlier calls and the next one lead to are asked within the limit,
and every type that comes back on its own path can be resolved by itself, then the next call returns
what it returns when nothing is remembered. -/
theorem memo_transparent (r : Resolver) (calls : List ProbeCall) (next : ProbeCall)
    (settled : ∀ call ∈ next :: calls, call.Asks r (r.Within r.Settled)) :
    next.answer r (r.memoAfter calls) = next.answer r [] := by
  obtain ⟨first, earlier⟩ := List.forall_mem_cons.1 settled
  have remembers := settled_law.memoAfter earlier
  cases next with
  | select d s =>
    refine congrArg Sum.inl (selectWith_unique (fun q b b' h h' => ?_)
      (settled_law.answersAs first) remembers .nil)
    exact Bool.eq_iff_iff.2 (h.trans h'.symm)
  | resolve q =>
    refine congrArg Sum.inr (Bool.eq_iff_iff.2 ?_)
    exact (settled_law.ask first remembers).1.trans (settled_law.ask first .nil).1.symm

/-! ## Mirrors

Two mirrors face each other, and so each can be built from the other. When the left one also asks
for a frame that nobody makes, neither can be built, but asking about the left one first makes it
seem that the right one can.
-/

def leftMirror : TypeExpr := .named "Left" []

def rightMirror : TypeExpr := .named "Right" []

/-- A site that faces another mirror. -/
def facingSite (other : TypeExpr) : Site := .parameter "facing" other

def mirror (type : TypeExpr) (sites : List Site) : Descriptor :=
  { Descriptor.concrete type with constructors := [⟨true, none, sites⟩] }

/-- The left mirror asks for some sites, the right one for the left one. -/
def mirrors (left : List Site) : Resolver where
  registry := .empty ⟨[mirror leftMirror left, mirror rightMirror [facingSite leftMirror]]⟩
    .structural
  options := { Options.standard with maxDepth := 5 }
  accumulators := []
  autoBinds := true
  filter := none

abbrev wholeMirrors : Resolver := mirrors [facingSite rightMirror]

abbrev crackedMirrors : Resolver :=
  mirrors [facingSite rightMirror, .parameter "frame" (.named "IFrame" [])]

def askFor (type : TypeExpr) : ProbeCall := .resolve ⟨type, none, none⟩

/-- What a mirror asks of the other. -/
def facing (asking other : TypeExpr) : Query := ⟨other, none, some ((facingSite other).path asking)⟩

theorem wholeMirrors_subquestions :
    wholeMirrors.subquestions ⟨[], ⟨leftMirror, none, none⟩⟩
      = [⟨[leftMirror], facing leftMirror rightMirror⟩] ∧
    wholeMirrors.subquestions ⟨[leftMirror], facing leftMirror rightMirror⟩
      = [⟨[rightMirror, leftMirror], facing rightMirror leftMirror⟩] ∧
    wholeMirrors.subquestions ⟨[rightMirror, leftMirror], facing rightMirror leftMirror⟩ = [] ∧
    wholeMirrors.subquestions ⟨[], ⟨rightMirror, none, none⟩⟩
      = [⟨[rightMirror], facing rightMirror leftMirror⟩] ∧
    wholeMirrors.subquestions ⟨[rightMirror], facing rightMirror leftMirror⟩
      = [⟨[leftMirror, rightMirror], facing leftMirror rightMirror⟩] ∧
    wholeMirrors.subquestions ⟨[leftMirror, rightMirror], facing leftMirror rightMirror⟩ = [] := by
  cbv

theorem wholeMirrors_descriptors :
    (wholeMirrors.autoBinding leftMirror).isSome ∧ (wholeMirrors.autoBinding rightMirror).isSome ∧
    wholeMirrors.descriptorOf leftMirror = some (mirror leftMirror [facingSite rightMirror], ∅) ∧
    wholeMirrors.descriptorOf rightMirror
      = some (mirror rightMirror [facingSite leftMirror], ∅) := by
  cbv

/-- A mirror can be built from the other. -/
theorem wholeMirrors_canBuild {types : TypeExpr → Prop} {type other : TypeExpr}
    (auto : (wholeMirrors.autoBinding type).isSome)
    (described : wholeMirrors.descriptorOf type = some (mirror type [facingSite other], ∅))
    (named : other.isNamed) (built : types other) :
    wholeMirrors.CanBuild types type := by
  refine ⟨auto, _, _, described, .inr ⟨_, List.mem_cons_self, fun p mem => ?_⟩⟩
  obtain rfl := List.mem_singleton.1 mem
  rw [paramQuery, Substitution.apply_empty]
  exact .type named built

theorem wholeMirrors_settled (Q : Question)
    (faced : Q.query.contract = leftMirror ∨ Q.query.contract = rightMirror) :
    wholeMirrors.Settled Q := by
  intro _ _ _
  obtain ⟨leftAuto, rightAuto, left, right⟩ := wholeMirrors_descriptors
  refine ⟨fun t => t = leftMirror ∨ t = rightMirror, ?_, faced⟩
  rintro t (rfl | rfl)
  · exact wholeMirrors_canBuild leftAuto left rfl (.inr rfl)
  · exact wholeMirrors_canBuild rightAuto right rfl (.inl rfl)

theorem memo_transparent_mirrors :
    (askFor rightMirror).answer wholeMirrors (wholeMirrors.memoAfter [askFor leftMirror])
      = (askFor rightMirror).answer wholeMirrors [] := by
  obtain ⟨left, left', left'', right, right', right''⟩ := wholeMirrors_subquestions
  have settled := wholeMirrors_settled
  refine memo_transparent _ _ _ fun call mem => ?_
  rcases List.mem_pair.1 mem with rfl | rfl
  · refine ⟨settled _ (.inr rfl), ?_⟩
    rw [right, List.forall_mem_singleton]
    refine ⟨settled _ (.inl rfl), ?_⟩
    rw [right', List.forall_mem_singleton]
    exact ⟨settled _ (.inr rfl), right'' ▸ nofun⟩
  · refine ⟨settled _ (.inl rfl), ?_⟩
    rw [left, List.forall_mem_singleton]
    refine ⟨settled _ (.inr rfl), ?_⟩
    rw [left', List.forall_mem_singleton]
    exact ⟨settled _ (.inl rfl), left'' ▸ nofun⟩

/-- What is remembered of the right mirror was said while the left one was being built. -/
theorem crackedMirrors_memo : ¬ ∀ (calls : List ProbeCall) (next : ProbeCall),
    next.answer crackedMirrors (crackedMirrors.memoAfter calls)
      = next.answer crackedMirrors [] := by
  intro claim
  have after : (askFor rightMirror).answer crackedMirrors
      (crackedMirrors.memoAfter [askFor leftMirror]) = .inr true := by cbv
  have alone : (askFor rightMirror).answer crackedMirrors [] = .inr false := by cbv
  have same := claim [askFor leftMirror] (askFor rightMirror)
  rw [after, alone] at same
  cases same

end Resolver

end Wiring
