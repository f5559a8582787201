/-!
# Lifecycle — Scope

A scope releases the instances registered in it, the latest first and each once. It is closed before
it releases the first one, so nothing that an instance does while it is released can bring another
one in.
-/

namespace Wiring

inductive ReleaseError where
  | failed (label reason : String)
  | scopeClosed (scope : String)
  deriving DecidableEq

def ReleaseError.message : ReleaseError → String
  | .failed label reason => "实例释放失败: " ++ label ++ ", 原因: " ++ reason
  | .scopeClosed scope => "作用域已释放: " ++ scope

/-- An instance as it is registered. -/
structure ScopeEntry (ι : Type) where
  label : String
  item : ι
  deriving DecidableEq

structure ReleaseScope (ι : Type) where
  name : String
  /-- What is registered, the latest last. -/
  entries : List (ScopeEntry ι)
  isClosed : Bool
  deriving DecidableEq

/-- What comes of releasing: what was disposed of, in this order, and the failures. -/
structure Releases (ι : Type) where
  disposed : List (ScopeEntry ι)
  failures : List ReleaseError
  deriving DecidableEq

/-- What disposing of an instance comes to, which may have to do with the scope it is in. -/
abbrev Disposal (ι : Type) := ReleaseScope ι → ι → Except String Unit

/-- Dispose of some instances in the given order. A failure does not keep the others back. -/
def Releases.ofEntries {ι : Type} (dispose : ι → Except String Unit) :
    List (ScopeEntry ι) → Releases ι
  | [] => ⟨[], []⟩
  | e :: more =>
    let rest := ofEntries dispose more
    match dispose e.item with
    | .ok () => ⟨e :: rest.disposed, rest.failures⟩
    | .error reason => ⟨e :: rest.disposed, .failed e.label reason :: rest.failures⟩

namespace ReleaseScope

variable {ι : Type}

def fresh (name : String) : ReleaseScope ι := ⟨name, [], false⟩

def composition : ReleaseScope ι := fresh "composition"

def child (s : ReleaseScope ι) (name : String) : ReleaseScope ι := fresh (s.name ++ "." ++ name)

def register (s : ReleaseScope ι) (label : String) (i : ι) :
    Except ReleaseError (ReleaseScope ι) :=
  if s.isClosed then .error (.scopeClosed s.name)
  else .ok { s with entries := s.entries ++ [⟨label, i⟩] }

def close (s : ReleaseScope ι) : ReleaseScope ι := { s with entries := [], isClosed := true }

/-- Release everything. The scope is closed and empty before the first instance is disposed of, so
this is the scope that an instance finds then. -/
def release (dispose : Disposal ι) (s : ReleaseScope ι) : ReleaseScope ι × Releases ι :=
  (s.close, .ofEntries (dispose s.close) s.entries.reverse)

end ReleaseScope

/-! ## Calls -/

inductive ScopeCall (ι : Type) where
  | register (label : String) (i : ι)
  | release
  deriving DecidableEq

inductive ScopeAnswer (ι : Type) where
  | registered
  | refused (error : ReleaseError)
  | released (releases : Releases ι)
  deriving DecidableEq

/-- A call on a scope and what it is answered with. A refused one leaves the scope as it is. -/
def ReleaseScope.respond {ι : Type} (dispose : Disposal ι) (s : ReleaseScope ι) :
    ScopeCall ι → ReleaseScope ι × ScopeAnswer ι
  | .register label i =>
    match s.register label i with
    | .ok s' => (s', .registered)
    | .error e => (s, .refused e)
  | .release => ((s.release dispose).1, .released (s.release dispose).2)

end Wiring
