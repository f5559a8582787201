import Mathlib.Data.Nat.Find
import Wiring.Lifecycle.Slot
import Wiring.Proofs.Lifecycle.Scope

/-!
# Lifecycle — Slot

A slot that is asked within several scopes, while these are released one time or another. The first
call that comes to register in a scope still open fills the slot, and this is the only one that
registers an instance. Constructors may themselves register in the scopes and release them; what a
call that is refused changes is what its constructor did. So there is one instance for all, and it
is disposed of once if at all.

What an instance does with other scopes while it is disposed of counts as calls of its own: the
scope that is released is closed and empty by then.
-/

namespace Wiring

variable {κ ι : Type} [DecidableEq κ] (dispose : Disposal ι)

namespace Scopes

variable {scopes : Scopes κ ι} {k k' : κ} {s : ReleaseScope ι}

@[simp] theorem set_self : scopes.set k s k = s := if_pos rfl

theorem set_other (other : k' ≠ k) : scopes.set k s k' = scopes k' := if_neg other

end Scopes

/-- What each call on a scope keeps, a constructor keeps. -/
theorem Construction.run_induction {P : ReleaseScope ι → Prop}
    (kept : ∀ s c, P s → P (s.respond dispose c).1) {k : κ} (make : Construction κ ι)
    {scopes : Scopes κ ι} (start : P (scopes k)) : P ((make.run dispose scopes).1 k) := by
  induction make generalizing scopes with
  | done i => exact start
  | call k' c next ih =>
    rw [run]
    refine ih _ ?_
    by_cases same : k = k'
    · subst same
      rw [Scopes.set_self]
      exact kept _ c start
    · rw [Scopes.set_other same]
      exact start

/-- A slot, and the scopes within which it is asked. -/
structure SlotState (κ ι : Type) where
  slot : Slot ι
  scopes : Scopes κ ι

inductive SlotCall (κ ι : Type) where
  | ask (scope : κ) (label : String) (make : Construction κ ι)
  | release (scope : κ)

inductive SlotAnswer (ι : Type) where
  | held (i : ι)
  | refused (error : ReleaseError)
  | released (releases : Releases ι)

namespace SlotState

/-- Nothing is held yet, whatever became of the scopes so far. -/
def ofScopes (scopes : Scopes κ ι) : SlotState κ ι := ⟨.empty, scopes⟩

def respond : Responder (SlotState κ ι) (SlotCall κ ι) (SlotAnswer ι)
  | w, .ask k label make =>
    let visit := w.slot.getOrMakeIn dispose w.scopes k label make
    (⟨visit.slot, visit.scopes⟩,
      match visit.outcome with
      | .ok i => .held i
      | .error e => .refused e)
  | w, .release k =>
    let (s, releases) := (w.scopes k).release dispose
    (⟨w.slot, w.scopes.set k s⟩, .released releases)

/-- The scopes as a call finds them when it comes to registering: as the constructor leaves them, if
it is run. -/
def prepared (w : SlotState κ ι) : SlotCall κ ι → Scopes κ ι
  | .ask _ _ make =>
    match w.slot.held with
    | some _ => w.scopes
    | none => (make.run dispose w.scopes).1
  | .release _ => w.scopes

variable {w : SlotState κ ι} {k k' : κ} {label : String} {make : Construction κ ι} {i : ι}
  {e : ScopeEntry ι}

/-! ## Single calls -/

theorem respond_ask_held (held : w.slot.held = some i) :
    w.respond dispose (.ask k label make) = (w, .held i) := by
  rw [respond, Slot.getOrMakeIn, held]

theorem prepared_ask (empty : w.slot.held = none) :
    w.prepared dispose (.ask k label make) = (make.run dispose w.scopes).1 := by
  rw [prepared, empty]

theorem respond_ask_open (empty : w.slot.held = none)
    (isOpen : (w.prepared dispose (.ask k label make) k).isClosed = false) :
    let scopes := w.prepared dispose (.ask k label make)
    let i := (make.run dispose w.scopes).2
    w.respond dispose (.ask k label make) =
      (⟨⟨some i⟩, scopes.set k { scopes k with entries := (scopes k).entries ++ [⟨label, i⟩] }⟩,
        .held i) := by
  rw [prepared_ask dispose empty] at isOpen ⊢
  rw [respond, Slot.getOrMakeIn, empty]
  dsimp only
  rw [ReleaseScope.register_of_open isOpen]

theorem respond_ask_closed (empty : w.slot.held = none)
    (closed : (w.prepared dispose (.ask k label make) k).isClosed) :
    let scopes := w.prepared dispose (.ask k label make)
    w.respond dispose (.ask k label make) =
      (⟨w.slot, scopes⟩, .refused (.scopeClosed (scopes k).name)) := by
  rw [prepared_ask dispose empty] at closed ⊢
  rw [respond, Slot.getOrMakeIn, empty]
  dsimp only
  rw [ReleaseScope.register_of_closed closed]

theorem respond_release (w : SlotState κ ι) (k : κ) :
    w.respond dispose (.release k) = (⟨w.slot, w.scopes.set k (w.scopes k).close⟩,
      .released (.ofEntries (dispose (w.scopes k).close) (w.scopes k).entries.reverse)) := rfl

/-- What a call can come to: an instance that is held already, a new one, a refusal or a release. -/
theorem respond_cases (w : SlotState κ ι) (c : SlotCall κ ι) :
    (∃ k label make i, c = .ask k label make ∧ w.slot.held = some i ∧
      w.respond dispose c = (w, .held i)) ∨
    (∃ k label make i, c = .ask k label make ∧ w.slot.held = none ∧
      (w.prepared dispose c k).isClosed = false ∧
      w.respond dispose c = (⟨⟨some i⟩, (w.prepared dispose c).set k
        { w.prepared dispose c k with
          entries := (w.prepared dispose c k).entries ++ [⟨label, i⟩] }⟩, .held i)) ∨
    (∃ k label make, c = .ask k label make ∧ w.slot.held = none ∧
      (w.prepared dispose c k).isClosed ∧
      w.respond dispose c =
        (⟨w.slot, w.prepared dispose c⟩, .refused (.scopeClosed (w.prepared dispose c k).name))) ∨
    ∃ k, c = .release k ∧
      w.respond dispose c = (⟨w.slot, w.scopes.set k (w.scopes k).close⟩,
        .released (.ofEntries (dispose (w.scopes k).close) (w.scopes k).entries.reverse)) := by
  cases c with
  | release k => exact .inr (.inr (.inr ⟨k, rfl, rfl⟩))
  | ask k label make =>
    cases held : w.slot.held with
    | some i => exact .inl ⟨k, label, make, i, rfl, rfl, respond_ask_held dispose held⟩
    | none =>
      cases closed : (w.prepared dispose (.ask k label make) k).isClosed with
      | true =>
        exact .inr (.inr (.inl ⟨k, label, make, rfl, rfl, closed,
          respond_ask_closed dispose held closed⟩))
      | false =>
        exact .inr (.inl ⟨k, label, make, _, rfl, rfl, closed,
          respond_ask_open dispose held closed⟩)

/-- What each call on a scope keeps still holds when it comes to registering. -/
theorem prepared_induction {P : ReleaseScope ι → Prop}
    (kept : ∀ s c, P s → P (s.respond dispose c).1) (start : P (w.scopes k)) (c : SlotCall κ ι) :
    P (w.prepared dispose c k) := by
  cases c with
  | release k' => exact start
  | ask k' label make =>
    cases held : w.slot.held with
    | some i =>
      rw [prepared, held]
      exact start
    | none =>
      rw [prepared_ask dispose held]
      exact make.run_induction dispose kept start

/-- What is held after a call was held before, or it is the answer. -/
theorem held_respond (c : SlotCall κ ι) : (w.respond dispose c).1.slot.held = some i ↔
    w.slot.held = some i ∨ (w.respond dispose c).2 = .held i := by
  rcases w.respond_cases dispose c with ⟨_, _, _, _, rfl, held, eq⟩ |
    ⟨_, _, _, _, rfl, empty, -, eq⟩ | ⟨_, _, _, rfl, -, -, eq⟩ | ⟨_, rfl, eq⟩
  · simp [eq, held]
  · simp [eq, empty]
  · simp [eq]
  · simp [eq]

/-- A scope that was released stays closed and empty. -/
theorem respond_of_closed {s : ReleaseScope ι} (closed : w.scopes k = s.close)
    (c : SlotCall κ ι) : (w.respond dispose c).1.scopes k = s.close := by
  have prepared : w.prepared dispose c k = s.close :=
    prepared_induction dispose (P := (· = s.close))
      (fun _ c same => same ▸ s.respond_close dispose c) closed c
  rcases w.respond_cases dispose c with ⟨_, _, _, _, rfl, -, eq⟩ |
    ⟨k', _, _, _, rfl, -, isOpen, eq⟩ | ⟨_, _, _, rfl, -, -, eq⟩ | ⟨k', rfl, eq⟩
  · rw [eq, closed]
  · have other : k ≠ k' := by
      rintro rfl
      rw [prepared] at isOpen
      cases isOpen
    rw [eq]
    exact (Scopes.set_other other).trans prepared
  · rw [eq]
    exact prepared
  · rw [eq]
    by_cases same : k = k'
    · subst same
      simp [closed, ReleaseScope.close]
    · simp [Scopes.set_other same, closed]

section Numbered

variable {dispose} {scopes : Scopes κ ι} {calls : List (SlotCall κ ι)} {n m place place' : Nat}
  {e' : ScopeEntry ι}

/-- The call with a number releases a scope and disposes of what stands at a place of it. The latest
comes first, so places count from the end of what is disposed of. -/
def DisposedBy (dispose : Disposal ι) (w : SlotState κ ι) (calls : List (SlotCall κ ι)) (k : κ)
    (place : Nat) (e : ScopeEntry ι) (n : Nat) : Prop :=
  calls[n]? = some (.release k) ∧
    ∃ r, Responder.answer? (respond dispose) w calls n = some (.released r) ∧
      r.disposed.reverse[place]? = some e

/-- The call with a number is the first one that succeeds. -/
def FirstHeld (dispose : Disposal ι) (w : SlotState κ ι) (calls : List (SlotCall κ ι)) (n : Nat)
    (k : κ) (e : ScopeEntry ι) : Prop :=
  (∃ make, calls[n]? = some (.ask k e.label make)) ∧
    Responder.answer? (respond dispose) w calls n = some (.held e.item) ∧
    ∀ m < n, ∀ j, Responder.answer? (respond dispose) w calls m ≠ some (.held j)

/-- What is held is what a call was answered with. -/
theorem held_before_iff :
    (Responder.before (respond dispose) (ofScopes scopes) calls n).slot.held = some i ↔
      ∃ m < n, Responder.answer? (respond dispose) (ofScopes scopes) calls m = some (.held i) := by
  induction n with
  | zero => exact iff_of_false (Option.some_ne_none _ ∘ Eq.symm) (by simp)
  | succ n ih =>
    simp only [Nat.lt_succ_iff_lt_or_eq, or_and_right, exists_or, exists_eq_left, ← ih]
    cases call : calls[n]? with
    | none =>
      rw [Responder.before_succ_of_end call, Responder.answer?, call]
      simp
    | some c =>
      rw [Responder.before_succ call, Responder.answer?_of_call call, held_respond,
        Option.some.injEq]

theorem FirstHeld.unique (h : (ofScopes scopes).FirstHeld dispose calls n k e)
    (h' : (ofScopes scopes).FirstHeld dispose calls m k' e') : m = n ∧ k' = k ∧ e' = e := by
  obtain ⟨⟨_, call⟩, answer, first⟩ := h
  obtain ⟨⟨_, call'⟩, answer', first'⟩ := h'
  rcases Nat.lt_trichotomy m n with lt | rfl | gt
  · exact absurd answer' (first m lt e'.item)
  · obtain ⟨label, i⟩ := e
    obtain ⟨label', i'⟩ := e'
    cases call.symm.trans call'
    cases answer.symm.trans answer'
    exact ⟨rfl, rfl, rfl⟩
  · exact absurd answer (first' n gt e.item)

theorem disposedBy_iff {w : SlotState κ ι} : w.DisposedBy dispose calls k place e n ↔
    calls[n]? = some (.release k) ∧
      ((Responder.before (respond dispose) w calls n).scopes k).entries[place]? = some e := by
  refine and_congr_right fun call => ?_
  rw [Responder.answer?_of_call call, respond_release]
  simp [Releases.disposed_ofEntries]

theorem DisposedBy.not_later (h : (ofScopes scopes).DisposedBy dispose calls k place e n)
    (lt : n < m) : ¬(ofScopes scopes).DisposedBy dispose calls k place' e' m := by
  intro h'
  obtain ⟨-, there⟩ := disposedBy_iff.1 h'
  have closed : (Responder.before (respond dispose) (ofScopes scopes) calls (n + 1)).scopes k =
      ((Responder.before (respond dispose) (ofScopes scopes) calls n).scopes k).close := by
    rw [Responder.before_succ h.1, respond_release]
    exact Scopes.set_self
  have closed' : (Responder.before (respond dispose) (ofScopes scopes) calls m).scopes k = _ :=
    Responder.before_induction (P := fun w : SlotState κ ι => w.scopes k = _) lt closed
      fun _ c _ _ _ closed => respond_of_closed dispose closed c
  rw [closed'] at there
  cases there

theorem DisposedBy.same (h : (ofScopes scopes).DisposedBy dispose calls k place e n)
    (h' : (ofScopes scopes).DisposedBy dispose calls k place' e' m) : n = m := by
  rcases Nat.lt_trichotomy n m with lt | same | gt
  · exact absurd h' (h.not_later lt)
  · exact same
  · exact absurd h (h'.not_later gt)

/-- After the first call that succeeds the slot holds what it was answered with. -/
theorem FirstHeld.holds (first : (ofScopes scopes).FirstHeld dispose calls n k e) (lt : n < m) :
    (Responder.before (respond dispose) (ofScopes scopes) calls m).slot.held = some e.item :=
  held_before_iff.2 ⟨n, lt, first.2.1⟩

end Numbered

/-! ## Whole runs -/

/-- A constructor that releases the scope it is run for: the scope was open when it was asked for,
and still the instance cannot be registered. -/
example : Responder.answer? (respond fun _ _ => .ok ())
    (ofScopes fun _ : Unit => (.fresh "composition" : ReleaseScope String))
    [.ask () "root" (.call () .release fun _ => .done "service")] 0 =
      some (.refused (.scopeClosed "composition")) := rfl

end SlotState

end Wiring
