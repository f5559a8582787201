import Mathlib.Data.List.Induction
import Wiring.Lifecycle.Scope
import Wiring.Proofs.Lifecycle.Calls

/-!
# Lifecycle — Scope

What becomes of the instances of a scope, whatever is called on it in whatever order. Up to the
first release every instance that is registered gets a place of its own; this release disposes of
all of them, the latest first; and afterwards the scope is closed and stays empty. So no instance is
disposed of twice, and none is lost. What an instance calls on its scope while it is disposed of
counts as further calls: they find the scope closed, and leave it so.
-/

namespace Wiring

variable {ι : Type}

/-- What a call brings in. -/
def ScopeCall.brought? : ScopeCall ι → Option (ScopeEntry ι)
  | .register label i => some ⟨label, i⟩
  | .release => none

def ScopeCall.isRelease : ScopeCall ι → Bool
  | .register .. => false
  | .release => true

instance (calls : List (ScopeCall ι)) : Decidable (.release ∈ calls) :=
  decidable_of_iff (calls.any (·.isRelease)) <| by
    rw [List.any_eq_true]
    refine ⟨fun ⟨c, mem, release⟩ => ?_, fun mem => ⟨_, mem, rfl⟩⟩
    cases c with
    | register label i => cases release
    | release => exact mem

/-- The failure of disposing of an instance, if it fails. -/
def ScopeEntry.failure? (dispose : ι → Except String Unit) (e : ScopeEntry ι) :
    Option ReleaseError :=
  match dispose e.item with
  | .ok () => none
  | .error reason => some (.failed e.label reason)

namespace Releases

variable (dispose : ι → Except String Unit) (entries : List (ScopeEntry ι))

/-- Every instance is disposed of once and in order, also after failures. -/
theorem disposed_ofEntries : (ofEntries dispose entries).disposed = entries := by
  induction entries with
  | nil => rfl
  | cons e more ih =>
    rw [ofEntries]
    cases dispose e.item <;> exact congrArg (e :: ·) ih

theorem failures_ofEntries :
    (ofEntries dispose entries).failures = entries.filterMap (·.failure? dispose) := by
  induction entries with
  | nil => rfl
  | cons e more ih =>
    rw [ofEntries, List.filterMap_cons, ScopeEntry.failure?]
    cases dispose e.item with
    | ok => exact ih
    | error reason => exact congrArg (ReleaseError.failed e.label reason :: ·) ih

end Releases

namespace ReleaseScope

variable (dispose : Disposal ι) {s : ReleaseScope ι} {label : String} {i : ι} {e : ScopeEntry ι}

/-! ## Single calls -/

theorem register_of_closed (closed : s.isClosed) :
    s.register label i = .error (.scopeClosed s.name) := if_pos closed

theorem register_of_open (isOpen : s.isClosed = false) :
    s.register label i = .ok { s with entries := s.entries ++ [⟨label, i⟩] } :=
  if_neg (Bool.eq_false_iff.1 isOpen)

theorem respond_register_of_open (isOpen : s.isClosed = false) :
    s.respond dispose (.register label i) =
      ({ s with entries := s.entries ++ [⟨label, i⟩] }, .registered) := by
  rw [respond, register_of_open isOpen]

theorem respond_register_of_closed (closed : s.isClosed) :
    s.respond dispose (.register label i) = (s, .refused (.scopeClosed s.name)) := by
  rw [respond, register_of_closed closed]

theorem respond_release (s : ReleaseScope ι) :
    s.respond dispose .release =
      (s.close, .released (.ofEntries (dispose s.close) s.entries.reverse)) := rfl

/-- A scope that is closed stays so. -/
theorem respond_close (s : ReleaseScope ι) (c : ScopeCall ι) :
    (s.close.respond dispose c).1 = s.close := by
  cases c with
  | register label i => rw [respond_register_of_closed dispose rfl]
  | release => rfl

/-- A new scope after some calls: closed and empty when it was released, and otherwise open with
all that the calls brought. -/
theorem after_fresh (name : String) (calls : List (ScopeCall ι)) :
    Responder.after (respond dispose) (fresh name) calls =
      if ScopeCall.release ∈ calls then (fresh name).close
      else ⟨name, calls.filterMap (·.brought?), false⟩ := by
  induction calls using List.reverseRecOn with
  | nil => rfl
  | append_singleton calls c ih =>
    rw [Responder.after_concat, ih]
    by_cases released : ScopeCall.release ∈ calls
    · rw [if_pos released, if_pos (List.mem_append_left _ released), respond_close]
    · rw [if_neg released]
      cases c with
      | register label i =>
        rw [respond_register_of_open dispose rfl, if_neg (by simpa using released)]
        simp [ScopeCall.brought?]
      | release =>
        rw [respond_release, if_pos (by simp)]
        rfl

/-! ## Numbered calls -/

section Numbered

variable {dispose} {name : String} {calls : List (ScopeCall ι)} {n m place place' : Nat}
  {e' : ScopeEntry ι}

theorem before_of_released (released : ScopeCall.release ∈ calls.take n) :
    Responder.before (respond dispose) (fresh name) calls n = (fresh name).close := by
  rw [Responder.before, after_fresh, if_pos released]

theorem before_of_open (isOpen : ScopeCall.release ∉ calls.take n) :
    Responder.before (respond dispose) (fresh name) calls n =
      ⟨name, (calls.take n).filterMap (·.brought?), false⟩ := by
  rw [Responder.before, after_fresh, if_neg isOpen]

/-- What a call that releases is answered with. -/
theorem answer_of_release {s : ReleaseScope ι} (call : calls[n]? = some .release) :
    let scope := Responder.before (respond dispose) s calls n
    Responder.answer? (respond dispose) s calls n =
      some (.released (.ofEntries (dispose scope.close) scope.entries.reverse)) :=
  Responder.answer?_of_call call

/-- The call with a number disposes of what stands at a place of the scope. The latest comes first,
so places count from the end of what is disposed of. -/
def DisposedBy (dispose : Disposal ι) (s : ReleaseScope ι) (calls : List (ScopeCall ι))
    (place : Nat) (e : ScopeEntry ι) (n : Nat) : Prop :=
  ∃ r, Responder.answer? (respond dispose) s calls n = some (.released r) ∧
    r.disposed.reverse[place]? = some e

theorem disposedBy_iff {s : ReleaseScope ι} : DisposedBy dispose s calls place e n ↔
    calls[n]? = some .release ∧
      (Responder.before (respond dispose) s calls n).entries[place]? = some e := by
  constructor
  · rintro ⟨r, answer, there⟩
    obtain ⟨c, call, same⟩ := Option.map_eq_some_iff.1 answer
    cases c with
    | register label i =>
      rw [respond] at same
      split at same <;> cases same
    | release =>
      cases answer.symm.trans (answer_of_release call)
      rw [Releases.disposed_ofEntries, List.reverse_reverse] at there
      exact ⟨call, there⟩
  · rintro ⟨call, there⟩
    refine ⟨_, answer_of_release call, ?_⟩
    rw [Releases.disposed_ofEntries, List.reverse_reverse]
    exact there

theorem mem_take_of_call {c : ScopeCall ι} (call : calls[n]? = some c) (lt : n < m) :
    c ∈ calls.take m :=
  List.mem_of_getElem? ((List.getElem?_take_of_lt lt).trans call)

/-- Only the first release finds anything to dispose of. -/
theorem DisposedBy.not_released (h : DisposedBy dispose (fresh name) calls place e n) :
    .release ∉ calls.take n := by
  intro released
  obtain ⟨-, there⟩ := disposedBy_iff.1 h
  rw [before_of_released released] at there
  cases there

theorem DisposedBy.unique (h : DisposedBy dispose (fresh name) calls place e n)
    (h' : DisposedBy dispose (fresh name) calls place' e' m) : n = m := by
  rcases Nat.lt_trichotomy n m with lt | same | gt
  · exact absurd (mem_take_of_call (disposedBy_iff.1 h).1 lt) h'.not_released
  · exact same
  · exact absurd (mem_take_of_call (disposedBy_iff.1 h').1 gt) h.not_released

/-- Of the releases there is a first. -/
theorem exists_first_release (release : .release ∈ calls) :
    ∃ m, calls[m]? = some .release ∧ .release ∉ calls.take m := by
  obtain ⟨earlier, later, rfl, unreleased⟩ := List.eq_append_cons_of_mem release
  refine ⟨earlier.length, ?_, ?_⟩
  · rw [List.getElem?_append_right (Nat.le_refl _), Nat.sub_self]
    rfl
  · rw [List.take_left]
    exact unreleased

/-- An instance keeps its place until the first release. -/
theorem entries_of_registered (call : calls[n]? = some (.register label i)) (lt : n < m)
    (isOpen : ScopeCall.release ∉ calls.take m) :
    (Responder.before (respond dispose) (fresh name) calls m).entries[
      (Responder.before (respond dispose) (fresh name) calls n).entries.length]? =
        some ⟨label, i⟩ := by
  have earlier : calls.take n <+: calls.take m := List.take_prefix_take_left (Nat.le_of_lt lt)
  have next : calls.take n ++ [.register label i] <+: calls.take m := by
    have whole : calls.take n ++ [.register label i] = calls.take (n + 1) := by
      rw [List.take_add_one, call, Option.toList_some]
    exact whole ▸ List.take_prefix_take_left lt
  rw [before_of_open isOpen, before_of_open fun released => isOpen (earlier.subset released)]
  obtain ⟨more, entries⟩ := next.filterMap (·.brought?)
  rw [← entries, List.filterMap_append, List.append_assoc,
    List.getElem?_append_right (Nat.le_refl _), Nat.sub_self]
  rfl

theorem answer_of_register (call : calls[n]? = some (.register label i)) :
    Responder.answer? (respond dispose) (fresh name) calls n = some
      (if ScopeCall.release ∈ calls.take n then .refused (.scopeClosed name) else .registered) := by
  rw [Responder.answer?_of_call call]
  split
  · next released =>
    rw [before_of_released released, respond_register_of_closed dispose rfl]
    rfl
  · next isOpen => rw [before_of_open isOpen, respond_register_of_open dispose rfl]

end Numbered

/-! ## Whole runs -/

/-- Whatever is called on a new scope, and whatever disposing of its instances comes to, an instance
whose registration succeeds gets a place at the end, is not disposed of by two calls, and is
disposed of by one if a release follows. The first release disposes of all instances registered
before it, each once and the latest first, and gives their failures in this order; a later one
disposes of nothing. Registrations succeed up to the first release, and then they fail and leave the
scope closed and empty. -/
theorem releases_each_once (name : String) (calls : List (ScopeCall ι)) :
    let scope := Responder.before (respond dispose) (fresh name) calls
    let answer? := Responder.answer? (respond dispose) (fresh name) calls
    (∀ n label i, calls[n]? = some (.register label i) → answer? n = some .registered →
      let place := (scope n).entries.length
      scope (n + 1) = { scope n with entries := (scope n).entries ++ [⟨label, i⟩] } ∧
      (∀ m m', DisposedBy dispose (fresh name) calls place ⟨label, i⟩ m →
        DisposedBy dispose (fresh name) calls place ⟨label, i⟩ m' → m = m') ∧
      ((∃ m > n, calls[m]? = some .release) →
        ∃ m > n, DisposedBy dispose (fresh name) calls place ⟨label, i⟩ m)) ∧
    (∀ n, calls[n]? = some .release → ∃ r, answer? n = some (.released r) ∧
      r.disposed = (if ScopeCall.release ∈ calls.take n then []
        else ((calls.take n).filterMap (·.brought?)).reverse) ∧
      r.failures = r.disposed.filterMap (·.failure? (dispose ⟨name, [], true⟩))) ∧
    (∀ n label i, calls[n]? = some (.register label i) → answer? n = some
      (if ScopeCall.release ∈ calls.take n then .refused (.scopeClosed name) else .registered)) ∧
    (∀ n, scope n =
      if ScopeCall.release ∈ calls.take n then ⟨name, [], true⟩
      else ⟨name, (calls.take n).filterMap (·.brought?), false⟩) := by
  intro scope answer?
  have states (n : Nat) : scope n = _ := after_fresh dispose name (calls.take n)
  refine ⟨fun n label i call registered => ?_, fun n call => ?_, fun _ _ _ => answer_of_register,
    states⟩
  · have isOpen : ScopeCall.release ∉ calls.take n := by
      intro released
      have refused : answer? n = _ := answer_of_register call
      rw [registered, if_pos released] at refused
      cases refused
    refine ⟨?_, fun m m' => DisposedBy.unique, fun ⟨_, _, release⟩ => ?_⟩
    · have unclosed : (scope n).isClosed = false := congrArg isClosed (before_of_open isOpen)
      have next : scope (n + 1) = _ := Responder.before_succ call
      rw [next, respond_register_of_open dispose unclosed]
    · obtain ⟨first, release', unreleased⟩ := exists_first_release (List.mem_of_getElem? release)
      have later : n < first := by
        rcases Nat.lt_trichotomy n first with lt | rfl | gt
        · exact lt
        · cases call.symm.trans release'
        · exact absurd (mem_take_of_call release' gt) isOpen
      exact ⟨first, later,
        disposedBy_iff.2 ⟨release', entries_of_registered call later unreleased⟩⟩
  · refine ⟨_, answer_of_release call, ?_, ?_⟩
    · rw [Releases.disposed_ofEntries]
      change (scope n).entries.reverse = _
      rw [states n]
      split <;> rfl
    · have closed : (scope n).close = ⟨name, [], true⟩ := by
        rw [states n]
        split <;> rfl
      rw [Releases.failures_ofEntries, Releases.disposed_ofEntries, closed]

example : Responder.answer? (respond fun _ fails => if fails then .error "stuck" else .ok ())
    (fresh "resolve") [.register "a" false, .register "b" true, .register "c" false, .release] 3 =
      some (.released
        ⟨[⟨"c", false⟩, ⟨"b", true⟩, ⟨"a", false⟩], [.failed "b" "stuck"]⟩) := by cbv

end ReleaseScope

end Wiring
