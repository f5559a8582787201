import Wiring.Resolver.Basic

/-!
# Resolver — Probe

Choosing a constructor means asking of each parameter whether it could be resolved. A type on the
way to itself counts as resolvable, since cycles are reported elsewhere, and answers about types
are remembered.
-/

namespace Wiring

/-- Answers that were given about types bound by themselves, the latest first. -/
abbrev ProbeMemo := List (TypeExpr × Bool)

/-- Whether a request could be resolved, given and giving remembered answers. -/
abbrev Prober := TypeExpr → Option TagValue → Option String → ProbeMemo → Bool × ProbeMemo

structure Selection where
  /-- No index stands for construction without a constructor. -/
  index : Option Nat
  /-- Every parameter can be resolved. -/
  isFull : Bool
  deriving DecidableEq

/-- A constructor under consideration. -/
structure Score where
  index : Nat
  params : Nat
  /-- How many of the parameters can be resolved. -/
  resolvable : Nat
  ordinal : Option Int32
  deriving DecidableEq

namespace Score

/-- A missing ordinal counts as the greatest one. -/
def ordinalRank (score : Score) : Int32 := score.ordinal.getD Int32.maxValue

/-- Of two scores, the first before the second in the list, the one with the greater measure, then
the one with the lower ordinal, then the first. -/
def preferred (measure : Score → Nat) (best : Option Score) (next : Score) : Option Score :=
  match best with
  | none => some next
  | some b =>
    if measure b < measure next ∨ (measure b = measure next ∧ next.ordinalRank < b.ordinalRank)
    then some next else some b

def best (measure : Score → Nat) (scores : List Score) : Option Score :=
  scores.foldl (preferred measure) none

end Score

/-- The constructors that may be chosen, with their positions: the public ones, less those without
parameters when these may not stand in for others. -/
def Descriptor.considered (d : Descriptor) (fallback : Bool) : List (Constructor × Nat) :=
  let isPublic := d.constructors.zipIdx.filter (·.1.isPublic)
  if fallback || isPublic.all (·.1.params.isEmpty) then isPublic
  else isPublic.filter (!·.1.params.isEmpty)

namespace Resolver

/-- How many sites can be resolved, each asked in turn. -/
def countResolvable (probe : Prober) (s : Substitution) (consumer : TypeExpr) :
    List Site → ProbeMemo → Nat × ProbeMemo
  | [], memo => (0, memo)
  | param :: more, memo =>
    let site := s.applySite param
    let (canResolve, memo) := probe site.contract site.tag (some (site.path consumer)) memo
    let (count, memo) := countResolvable probe s consumer more memo
    (if canResolve then count + 1 else count, memo)

def scoreAll (probe : Prober) (s : Substitution) (consumer : TypeExpr) :
    List (Constructor × Nat) → ProbeMemo → List Score × ProbeMemo
  | [], memo => ([], memo)
  | (c, index) :: more, memo =>
    let (resolvable, memo) := countResolvable probe s consumer c.params memo
    let (scores, memo) := scoreAll probe s consumer more memo
    (⟨index, c.params.length, resolvable, c.ordinal⟩ :: scores, memo)

/-- The constructor with the most parameters among those that can be resolved in full, or else the
one with the most parameters that can. -/
def selectByScore (scores : List Score) : Selection :=
  match Score.best (·.params) (scores.filter fun score => score.params = score.resolvable) with
  | some full => ⟨some full.index, true⟩
  | none => ⟨(Score.best (·.resolvable) scores).map (·.index), false⟩

def selectWith (r : Resolver) (probe : Prober) (d : Descriptor) (s : Substitution)
    (memo : ProbeMemo) : Selection × ProbeMemo :=
  if d.constructors.isEmpty then (⟨none, true⟩, memo)
  else
    let (scores, memo) :=
      scoreAll probe s (s.apply d.type) (d.considered r.options.parameterlessFallback) memo
    (selectByScore scores, memo)

/-- Every item can be resolved; the first that cannot ends the search. -/
def probeAll (probe : TypeExpr → ProbeMemo → Bool × ProbeMemo) :
    List TypeExpr → ProbeMemo → Bool × ProbeMemo
  | [], memo => (true, memo)
  | item :: more, memo =>
    let (canResolve, memo) := probe item memo
    if canResolve then probeAll probe more memo else (false, memo)

/-- Whether a request could be resolved within some steps, while the given types are being built.
Without a step left the answer is no. -/
def probe (r : Resolver) : (room : Nat) → (visiting : List TypeExpr) → Prober
  | 0, _, _, _, _, memo => (false, memo)
  | room + 1, visiting, contract, tag, path, memo =>
    if (r.lookup ⟨contract, tag, path⟩).isSome || (r.askedAccumulator contract).isSome then
      (true, memo)
    else match contract with
      | .collection .. => (true, memo)
      | .func target | .lazy target | .owned target =>
        probe r room visiting target tag path memo
      | .tuple items => probeAll (fun item => probe r room visiting item none none) items memo
      | .marker _ => (false, memo)
      | .named .. =>
        match memo.lookup contract with
        | some known => (known, memo)
        | none =>
          if contract ∈ visiting then (true, memo)
          else if (r.autoBinding contract).isNone then (false, (contract, false) :: memo)
          else match r.descriptorOf contract with
            | none => (false, memo)
            | some (d, s) =>
              let (choice, memo) := r.selectWith (probe r room (contract :: visiting)) d s memo
              (choice.isFull, (contract, choice.isFull) :: memo)

/-- The constructor to build a described type with. -/
def selectConstructor (r : Resolver) (d : Descriptor) (s : Substitution) (memo : ProbeMemo) :
    Selection × ProbeMemo :=
  r.selectWith (r.probe r.options.maxDepth [s.apply d.type]) d s memo

/-- Whether a request could be resolved by itself. -/
def canResolve (r : Resolver) : Prober := r.probe (r.options.maxDepth + 1) []

end Resolver

end Wiring
