import Wiring.Proofs.Resolver.Run

/-!
# Resolver — Questions

What a probe asks. A question is a request together with the types that are being built when it is
asked; answering it means asking others in turn, about the parts of a built-in shape or about the
parameters of a type bound by itself. A probe that meets its limit gives up, so it matters whether
all that a question leads to is asked within the limit.
-/

namespace Wiring

/-- A request that is probed while some types are being built. -/
structure Question where
  visiting : List TypeExpr
  query : Query
  deriving DecidableEq

/-- What a factory, a lazy or an owned value is made for. -/
def TypeExpr.wrapped? : TypeExpr → Option TypeExpr
  | .func target | .lazy target | .owned target => some target
  | _ => none

theorem TypeExpr.wrapped?_of_isNamed {t : TypeExpr} (named : t.isNamed) : t.wrapped? = none := by
  cases t with
  | named => rfl
  | marker | collection | func | lazy | owned | tuple => nomatch named

theorem TypeExpr.shape?_isSome_of_wrapped? {t target : TypeExpr} (h : t.wrapped? = some target) :
    t.shape?.isSome := by
  cases t with
  | func | lazy | owned => rfl
  | named | marker | collection | tuple => nomatch h

/-- A constructor parameter as a request. -/
def paramQuery (s : Substitution) (consumer : TypeExpr) (param : Site) : Query :=
  ⟨s.apply param.contract, param.tag, some (param.path consumer)⟩

namespace Resolver

variable (r : Resolver)

/-- A binding or an accumulator answers a request. -/
def isBound (q : Query) : Bool := (r.lookup q).isSome || (r.askedAccumulator q.contract).isSome

/-- Something answers a request: a binding, an accumulator, a built-in shape, or a concrete type
that may be bound by itself. -/
def provides (q : Query) : Bool :=
  r.isBound q || q.contract.shape?.isSome || (r.autoBinding q.contract).isSome

/-- The parameters of all constructors that are considered for a type. -/
def paramQueries (d : Descriptor) (s : Substitution) : List Query :=
  (d.considered r.options.parameterlessFallback).flatMap fun c =>
    c.1.params.map (paramQuery s (s.apply d.type))

/-- What is asked about a type once it is among those being built. -/
def questionsAbout (visiting : List TypeExpr) (d : Descriptor) (s : Substitution) :
    List Question :=
  (r.paramQueries d s).map (⟨visiting, ·⟩)

/-- The questions that a question leads to at once. -/
def subquestions (Q : Question) : List Question :=
  if r.isBound Q.query then [] else
    match Q.query.contract with
    | .func target | .lazy target | .owned target =>
      [⟨Q.visiting, { Q.query with contract := target }⟩]
    | .tuple items => items.map fun item => ⟨Q.visiting, ⟨item, none, none⟩⟩
    | .named path args =>
      if .named path args ∈ Q.visiting ∨ (r.autoBinding (.named path args)).isNone then [] else
        match r.descriptorOf (.named path args) with
        | some (d, s) => r.questionsAbout (.named path args :: Q.visiting) d s
        | none => []
    | .collection .. | .marker _ => []

/-- All that a question leads to is asked within some steps, and it is so of every question that is
asked on the way. -/
def Within (P : Question → Prop) : (room : Nat) → Question → Prop
  | 0, _ => False
  | room + 1, Q => P Q ∧ ∀ Q' ∈ r.subquestions Q, Within P room Q'

instance Within.decidable (P : Question → Prop) [DecidablePred P] :
    ∀ (room : Nat) (Q : Question), Decidable (r.Within P room Q)
  | 0, _ => inferInstanceAs (Decidable False)
  | room + 1, Q =>
    have := Within.decidable P room
    inferInstanceAs (Decidable (P Q ∧ ∀ Q' ∈ r.subquestions Q, r.Within P room Q'))

variable {r} {P P' : Question → Prop} {room : Nat} {Q : Question}

/-! ## Requests without a binding -/

theorem isBound_eq_false_iff {contract : TypeExpr} {d : Demand} :
    r.isBound ⟨contract, d.tag, d.path⟩ = false ↔ r.Unbound contract d := by
  rw [isBound, Bool.or_eq_false_iff, Option.isSome_eq_false_iff, Option.isSome_eq_false_iff,
    Option.isNone_iff_eq_none, Option.isNone_iff_eq_none, Unbound]

theorem lookup_eq_none_of_isBound {q : Query} (h : r.isBound q = false) : r.lookup q = none :=
  (isBound_eq_false_iff (d := ⟨q.tag, none, none, q.path⟩).1 h).1

/-- Only named types are bound by themselves. -/
theorem isNamed_of_autoBinding {contract : TypeExpr} {b : Binding}
    (h : r.autoBinding contract = some b) : contract.isNamed := by
  rw [autoBinding] at h
  split at h
  · next planned =>
    rw [Bool.and_eq_true, Bool.and_eq_true, Bool.and_eq_true] at planned
    exact planned.1.1.2
  · nomatch h

/-- The descriptor of a type that is bound by itself. -/
theorem descriptorOf_of_autoBinding {contract : TypeExpr} {b : Binding}
    (h : r.autoBinding contract = some b) :
    ∃ d s, r.descriptorOf contract = some (d, s) ∧ d.isConstructible := by
  rw [autoBinding] at h
  split at h
  · split at h
    · next d s found =>
      split at h
      · next constructible => exact ⟨d, s, found, constructible⟩
      · nomatch h
    · nomatch h
  · nomatch h

end Resolver

end Wiring
