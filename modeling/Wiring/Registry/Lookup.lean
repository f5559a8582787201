import Wiring.Options
import Wiring.Registry.Basic

/-!
# Registry — Lookup

Which binding answers a request. Every candidate whose contract unifies is ranked by how its tag
fits; the best rank wins, and among equals the binding declared last.
-/

namespace Wiring

/-- A request as the registry sees it. -/
structure Query where
  contract : TypeExpr
  tag : Option TagValue
  /-- The path of the site that asks, for positional tags. -/
  path : Option String
  deriving DecidableEq

/-- How a tag fits a request, the closest fit first. -/
inductive Fit where
  | exact | tagOn | unique | typeMarker | wildcard | fallback
  deriving DecidableEq

namespace Fit

def name : Fit → String
  | exact => "Exact"
  | tagOn => "TagOn"
  | unique => "Unique"
  | typeMarker => "TypeMarker"
  | wildcard => "Wildcard"
  | fallback => "Fallback"

def rank : Fit → Nat
  | exact => 0
  | tagOn => 1
  | unique => 2
  | typeMarker => 3
  | wildcard => 4
  | fallback => 5

end Fit

structure Match where
  binding : BindingId
  substitution : Substitution
  kind : Fit
  /-- The positional pattern that fitted. -/
  pattern : Option String
  deriving DecidableEq

/-- A positional tag's pattern, with its binding. -/
abbrev Rule := BindingId × String

namespace Registry

/-- The bindings whose contract unifies with a type, in ascending order. -/
def candidates (r : Registry) (contract : TypeExpr) : List (BindingId × Entry × Substitution) :=
  (r.index.candidates contract).filterMap fun id =>
    match r.entry? id with
    | some e => (r.unifier.unify contract e.binding.contract).map (id, e, ·)
    | none => none

/-- How an entry's tag fits a request, and the pattern by which a positional tag does. -/
def fitOf (e : Entry) (s : Substitution) (q : Query) (options : Options) :
    Option (Fit × Option String) :=
  match e.key with
  | .value v => if q.tag = some v then some (.exact, none) else none
  | .on patterns =>
    match q.path with
    | some path => (patterns.find? (patternFits · path)).map (.tagOn, some ·)
    | none => none
  | .unique _ => some (.unique, none)
  | .type =>
    match q.tag, e.binding.builtType? with
    | some (.type requested), some type =>
      if s.apply type = requested then some (.typeMarker, none) else none
    | _, _ => none
  | .any =>
    if options.wildcardTagMatching then
      some (if q.tag.isSome then .wildcard else .fallback, none)
    else none
  | .untagged => some (.fallback, none)

/-- A candidate as a match, unless it is overridden or its tag does not fit. -/
def eligible (q : Query) (options : Options) :
    BindingId × Entry × Substitution → Option Match
  | (id, e, s) =>
    if e.isOverridden then none
    else (fitOf e s q options).map fun (kind, pattern) => ⟨id, s, kind, pattern⟩

/-- Of two matches the one with the better rank, and of equals the later one. -/
def better (best : Option Match) (next : Match) : Option Match :=
  match best with
  | some current => if next.kind.rank ≤ current.kind.rank then some next else some current
  | none => some next

def lookup (r : Registry) (q : Query) (options : Options) : Option Match :=
  ((r.candidates q.contract).filterMap (eligible q options)).foldl better none

/-- Every binding whose contract unifies with a type, whatever its tag, overridden ones included,
in the order of declaration. -/
def allMatches (r : Registry) (element : TypeExpr) : List Match :=
  (r.candidates element).map fun (id, _, s) => ⟨id, s, .exact, none⟩

/-! ## Positional rules -/

def rules (r : Registry) : List Rule :=
  r.entries.zipIdx.flatMap fun (e, id) => e.patterns.map (id, ·)

/-- The rules that fit a request's contract and path, whether or not they win the look-up. -/
def matchingRules (r : Registry) (q : Query) : List Rule :=
  match q.path with
  | some path =>
    (r.candidates q.contract).flatMap fun (id, e, _) =>
      (e.patterns.filter (patternFits · path)).map (id, ·)
  | none => []

def unusedRules (r : Registry) (used : List Rule) : List Rule :=
  r.rules.filter fun rule => !used.contains rule

end Registry

end Wiring
