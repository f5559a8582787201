import Wiring.Lifecycle.Scope

/-!
# Lifecycle — Slot

A slot holds at most one value, which is made when it is first asked for and stays. An instance made
in a scope is registered there first; if that fails, the slot stays empty.
-/

namespace Wiring

structure Slot (α : Type) where
  held : Option α
  deriving DecidableEq

namespace Slot

def empty {α : Type} : Slot α := ⟨none⟩

/-- The value held, and whether it was made just now. -/
def getOrMake {α : Type} (slot : Slot α) (make : Unit → α) : Slot α × α × Bool :=
  match slot.held with
  | some a => (slot, a, false)
  | none =>
    let a := make ()
    (⟨some a⟩, a, true)

end Slot

/-! ## Constructors -/

/-- Scopes by what they are known by. -/
abbrev Scopes (κ ι : Type) := κ → ReleaseScope ι

def Scopes.set {κ ι : Type} [DecidableEq κ] (scopes : Scopes κ ι) (k : κ) (s : ReleaseScope ι) :
    Scopes κ ι :=
  fun k' => if k' = k then s else scopes k'

/-- How an instance is made. A constructor may call scopes on its way and go by their answers; it
does not ask the slot it makes the instance for, as it would wait for itself. -/
inductive Construction (κ ι : Type) where
  | done (i : ι)
  | call (k : κ) (c : ScopeCall ι) (next : ScopeAnswer ι → Construction κ ι)

variable {κ ι : Type} [DecidableEq κ] (dispose : Disposal ι)

/-- The instance made, and the scopes as they are left. -/
def Construction.run : Construction κ ι → Scopes κ ι → Scopes κ ι × ι
  | .done i, scopes => (scopes, i)
  | .call k c next, scopes =>
    let (s, answer) := (scopes k).respond dispose c
    (next answer).run (scopes.set k s)

namespace Slot

/-- What asking a slot within a scope comes to. -/
structure Visit (κ ι : Type) where
  slot : Slot ι
  scopes : Scopes κ ι
  /-- The instance held, or why it could not be registered. -/
  outcome : Except ReleaseError ι
  /-- An instance was made, even if it was not kept. -/
  made : Bool

def getOrMakeIn (slot : Slot ι) (scopes : Scopes κ ι) (k : κ) (label : String)
    (make : Construction κ ι) : Visit κ ι :=
  match slot.held with
  | some i => ⟨slot, scopes, .ok i, false⟩
  | none =>
    let (scopes, i) := make.run dispose scopes
    match (scopes k).register label i with
    | .ok s => ⟨⟨some i⟩, scopes.set k s, .ok i, true⟩
    | .error e => ⟨slot, scopes, .error e, true⟩

end Slot

end Wiring
