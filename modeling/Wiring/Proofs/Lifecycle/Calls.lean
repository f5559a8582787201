import Mathlib.Data.List.Basic
import Mathlib.Data.Nat.Init

/-!
# Lifecycle — Calls

Calls that are made one after the other on something with a state. A call is known by its number, so
that it can be said which call did what in a run, and what held before it.
-/

namespace Wiring

/-- How calls change a state, and what they are answered with. -/
abbrev Responder (State Call Answer : Type) := State → Call → State × Answer

namespace Responder

variable {State Call Answer : Type} (step : Responder State Call Answer) (s : State)
  (calls : List Call)

/-- The state after all of the calls. -/
def after : State := calls.foldl (fun s c => (step s c).1) s

/-- The state before the call with a number. -/
def before (n : Nat) : State := step.after s (calls.take n)

/-- What the call with a number is answered with. -/
def answer? (n : Nat) : Option Answer := calls[n]?.map fun c => (step (step.before s calls n) c).2

variable {step s calls} {n m : Nat} {c : Call}

theorem after_concat : step.after s (calls ++ [c]) = (step (step.after s calls) c).1 :=
  List.foldl_concat ..

theorem before_succ (call : calls[n]? = some c) :
    step.before s calls (n + 1) = (step (step.before s calls n) c).1 := by
  rw [before, List.take_add_one, call, Option.toList_some, after_concat]
  rfl

theorem answer?_of_call (call : calls[n]? = some c) :
    step.answer? s calls n = some (step (step.before s calls n) c).2 := by
  rw [answer?, call, Option.map_some]

/-- After the last call nothing changes any more. -/
theorem before_succ_of_end (done : calls[n]? = none) :
    step.before s calls (n + 1) = step.before s calls n := by
  rw [before, List.take_add_one, done, Option.toList_none, List.append_nil]
  rfl

/-- What holds before a call still holds before a later one, if the calls between them keep it. -/
theorem before_induction {P : State → Prop} (le : n ≤ m) (start : P (step.before s calls n))
    (kept : ∀ j c, n ≤ j → j < m → calls[j]? = some c → P (step.before s calls j) →
      P (step (step.before s calls j) c).1) :
    P (step.before s calls m) := by
  induction m, le using Nat.le_induction with
  | base => exact start
  | succ j le ih =>
    have now := ih fun j' c le' lt => kept j' c le' (Nat.lt_succ_of_lt lt)
    cases call : calls[j]? with
    | none => exact before_succ_of_end call ▸ now
    | some c => exact before_succ call ▸ kept j c le (Nat.lt_succ_self j) call now

end Responder

end Wiring
