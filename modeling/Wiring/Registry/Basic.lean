import Wiring.Binding
import Wiring.Catalog
import Wiring.Registry.HeadIndex

/-!
# Registry — Basic

Bindings in the order of their declaration. A later binding with the same contract and tag
overrides an earlier one; it is kept, and only look-ups pass it over.
-/

namespace Wiring

/-- The tag under which a binding overrides others: a tag for the implementation type stands for
the value of that type. -/
def overrideTag (key : TagKey) (implementation : Implementation) : TagKey :=
  match key, implementation with
  | .type, .type t => .value (.type t)
  | key, _ => key

structure Entry where
  binding : Binding
  key : TagKey
  /-- The contract, the implementation type and what that type implements. -/
  capabilities : List TypeExpr
  isOverridden : Bool

namespace Entry

/-- Bindings with the same effective key override each other. -/
def effectiveKey (e : Entry) : TypeExpr × TagKey :=
  (e.binding.contract, overrideTag e.key e.binding.implementation)

def override (e : Entry) : Entry := { e with isOverridden := true }

/-- The patterns of a positional tag. -/
def patterns (e : Entry) : List String :=
  match e.key with
  | .on patterns => patterns
  | _ => []

end Entry

structure Registry where
  catalog : Catalog
  unifier : Unifier
  entries : List Entry
  index : HeadIndex
  /-- The latest binding of each effective key, the latest entry for a key first. Unique bindings
  are left out. -/
  byKey : List ((TypeExpr × TagKey) × BindingId)
  /-- How many unique tags were given out. -/
  uniques : Nat

namespace Registry

def empty (catalog : Catalog) (unifier : Unifier) : Registry :=
  ⟨catalog, unifier, [], .empty, [], 0⟩

def size (r : Registry) : Nat := r.entries.length

def entry? (r : Registry) (id : BindingId) : Option Entry := r.entries[id]?

def binding? (r : Registry) (id : BindingId) : Option Binding := (r.entry? id).map (·.binding)

def tagKey (r : Registry) (id : BindingId) : TagKey :=
  match r.entry? id with
  | some e => e.key
  | none => .untagged

def isOverridden (r : Registry) (id : BindingId) : Bool :=
  match r.entry? id with
  | some e => e.isOverridden
  | none => false

/-- The bindings that later ones override. -/
def overridden (r : Registry) : List BindingId := (List.range r.size).filter r.isOverridden

/-! ## Registration -/

/-- The key of a binding about to be registered: a unique tag gets the next number. -/
def nextKey (r : Registry) (b : Binding) : TagKey :=
  match b.tag with
  | some .unique => .unique (r.uniques + 1)
  | tag => .ofTag? tag

def capabilitiesOfBinding (r : Registry) (b : Binding) : List TypeExpr :=
  match b.builtType? with
  | some type => b.contract :: type :: r.catalog.capabilitiesOf r.unifier type
  | none => [b.contract]

def nextEntry (r : Registry) (b : Binding) : Entry :=
  ⟨b, r.nextKey b, r.capabilitiesOfBinding b, false⟩

/-- The binding that the next one overrides. Unique bindings override nothing. -/
def overriddenBy (r : Registry) (e : Entry) : Option BindingId :=
  if e.key.isUnique then none else r.byKey.lookup e.effectiveKey

def overrideWarning (b : Binding) (key : TagKey) (id previous : BindingId) : Diagnostic :=
  .ofKind .overrideWarning
    ("绑定 " ++ b.contract.text ++ " (" ++ key.label ++ ") 覆盖了先前的声明 " ++ bindingLabel previous)
    b.location (some (.binding id))

/-- The registry after a registration, and the warning when an earlier binding is overridden. The
new binding's id is the number of bindings before it. -/
def register (r : Registry) (b : Binding) : Registry × Option Diagnostic :=
  let id := r.size
  let e := r.nextEntry b
  let previous := r.overriddenBy e
  let kept := match previous with
    | some i => r.entries.modify i Entry.override
    | none => r.entries
  ({ r with
      entries := kept ++ [e]
      index := r.index.add b.contract id
      byKey := if e.key.isUnique then r.byKey else (e.effectiveKey, id) :: r.byKey
      uniques := if e.key.isUnique then r.uniques + 1 else r.uniques },
    previous.map (overrideWarning b e.key id))

def registerAll (r : Registry) : List Binding → Registry × List Diagnostic
  | [] => (r, [])
  | b :: bs =>
    let (r', warning) := r.register b
    let (r'', warnings) := r'.registerAll bs
    (r'', warning.toList ++ warnings)

/-! ## Capabilities -/

/-- The bindings with all the capabilities, in ascending order. -/
def withCapabilities (r : Registry) (capabilities : List TypeExpr) : List BindingId :=
  (r.entries.zipIdx.filter fun (e, _) => capabilities.all fun capability =>
    e.capabilities.any fun has => r.unifier.accepts has capability).map (·.2)

end Registry

end Wiring
