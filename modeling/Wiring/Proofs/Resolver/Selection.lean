import Wiring.Proofs.Resolver.Scoring

/-!
# Resolver — Selection

The choice of a constructor is the best one. The scores of the constructors under consideration are
ordered by a measure, then by the lowest ordinal, and then by position, so just one of them beats
all others. Each score counts the answers for the parameters, which are all asked one after the
other, with what is remembered going on from one constructor to the next.
-/

namespace Wiring

namespace Score

variable {measure : Score → Nat} {scores : List Score} {a b c : Score}

/-- One score comes before another: by the greater measure, then by the lower ordinal, and then by
the lower index. -/
def Beats (measure : Score → Nat) (a b : Score) : Prop :=
  measure b < measure a ∨ measure a = measure b ∧
    (a.ordinalRank < b.ordinalRank ∨ a.ordinalRank = b.ordinalRank ∧ a.index < b.index)

/-- One of the scores beats all others. -/
def IsBest (measure : Score → Nat) (scores : List Score) (a : Score) : Prop :=
  a ∈ scores ∧ ∀ b ∈ scores, b ≠ a → Beats measure a b

theorem Beats.irrefl : ¬ Beats measure a a := by
  rintro (less | ⟨-, less | ⟨-, less⟩⟩)
  · exact Nat.lt_irrefl _ less
  · exact Int32.lt_irrefl less
  · exact Nat.lt_irrefl _ less

theorem Beats.trans (first : Beats measure a b) (second : Beats measure b c) :
    Beats measure a c := by
  simp only [Beats, Int32.lt_iff_toInt_lt, ← Int32.toInt_inj] at first second ⊢
  omega

theorem IsBest.unique (first : IsBest measure scores a) (second : IsBest measure scores b) :
    a = b := by
  by_contra other
  have beats : Beats measure a b := first.2 b second.1 (Ne.symm other)
  exact Beats.irrefl (beats.trans (second.2 a first.1 other))

/-- A score that is not overtaken by a later one beats it. -/
theorem beats_of_not_overtaken (before : b.index < c.index)
    (kept : ¬ (measure b < measure c ∨ measure b = measure c ∧ c.ordinalRank < b.ordinalRank)) :
    Beats measure b c := by
  simp only [Beats, Int32.lt_iff_toInt_lt, ← Int32.toInt_inj] at kept ⊢
  omega

/-- The best of scores that are listed by position beats all others. -/
theorem isBest_of_best (ascending : scores.Pairwise (·.index < ·.index))
    (found : best measure scores = some a) : IsBest measure scores a := by
  induction scores using List.reverseRecOn generalizing a with
  | nil => nomatch found
  | append_singleton scores last ih =>
    obtain ⟨earlier, -, behind⟩ := List.pairwise_append.1 ascending
    rw [best, List.foldl_append, List.foldl_cons, List.foldl_nil] at found
    change preferred measure (best measure scores) last = some a at found
    cases before : best measure scores with
    | none =>
      rw [before] at found
      obtain rfl : last = a := Option.some.inj found
      obtain rfl : scores = [] := best_eq_none_iff.1 before
      refine ⟨List.mem_singleton_self last, fun b mem other => ?_⟩
      exact absurd (List.mem_singleton.1 mem) other
    | some b =>
      obtain ⟨mem, beats⟩ := ih earlier before
      have later : b.index < last.index := behind b mem last (List.mem_singleton_self last)
      rw [before, preferred] at found
      split at found
      · next overtaken =>
        -- The last score beats the best one before it, and so all that one beats.
        obtain rfl : last = a := Option.some.inj found
        have first : Beats measure last b := by
          rcases overtaken with greater | ⟨equal, lower⟩
          · exact .inl greater
          · exact .inr ⟨equal.symm, .inl lower⟩
        refine ⟨List.mem_append_right _ (List.mem_singleton_self last), fun c mem' other => ?_⟩
        rcases List.mem_append.1 mem' with old | new
        · by_cases same : c = b
          · rwa [same]
          · exact first.trans (beats c old same)
        · exact absurd (List.mem_singleton.1 new) other
      · next kept =>
        -- Where the last score ties, it loses by its position.
        obtain rfl : b = a := Option.some.inj found
        refine ⟨List.mem_append_left _ mem, fun c mem' other => ?_⟩
        rcases List.mem_append.1 mem' with old | new
        · exact beats c old other
        · rw [List.mem_singleton.1 new]
          exact beats_of_not_overtaken later kept

/-- Among some scores that are listed by position just the best one beats all others. -/
theorem exists_isBest (measure : Score → Nat) (ascending : scores.Pairwise (·.index < ·.index))
    (present : scores ≠ []) :
    ∃ a, best measure scores = some a ∧ ∀ b, IsBest measure scores b ↔ b = a := by
  have some : best measure scores ≠ none := mt best_eq_none_iff.1 present
  obtain ⟨a, found⟩ := Option.ne_none_iff_exists'.1 some
  have isBest : IsBest measure scores a := isBest_of_best ascending found
  exact ⟨a, found, fun b => ⟨fun other => other.unique isBest, fun same => same ▸ isBest⟩⟩

end Score

open Score (IsBest)

/-- Where some scores are full, the one of these with the most parameters is chosen, and with it all
can be resolved. Otherwise the one is chosen with the most parameters that can be resolved. -/
def Selection.IsOptimal (choice : Selection) (scores : List Score) : Prop :=
  let full := scores.filter fun score => score.params = score.resolvable
  (full ≠ [] → ∃ best, (∀ score, IsBest (·.params) full score ↔ score = best) ∧
    choice = ⟨some best.index, true⟩) ∧
  (full = [] → choice.isFull = false ∧
    (scores ≠ [] → ∃ best, (∀ score, IsBest (·.resolvable) scores score ↔ score = best) ∧
      choice.index = some best.index))

/-! ## What is considered -/

namespace Descriptor

variable {d : Descriptor} {fallback : Bool}

/-- A public constructor is considered, unless it has no parameters while others do and may not
stand in for them. -/
theorem mem_considered_iff {c : Constructor} {i : Nat} :
    (c, i) ∈ d.considered fallback ↔ d.constructors[i]? = some c ∧ c.isPublic ∧
      (c.params = [] →
        fallback ∨ ∀ other ∈ d.constructors, other.isPublic → other.params = []) := by
  have all : (d.constructors.zipIdx.filter (·.1.isPublic)).all (·.1.params.isEmpty) ↔
      ∀ other ∈ d.constructors, other.isPublic → other.params = [] := by
    rw [List.all_eq_true]
    constructor
    · intro empty other mem shown
      obtain ⟨i, entry⟩ := List.mem_iff_getElem?.1 mem
      have listed : (other, i) ∈ d.constructors.zipIdx := List.mem_zipIdx_iff_getElem?.2 entry
      exact List.isEmpty_iff.1 (empty _ (List.mem_filter.2 ⟨listed, shown⟩))
    · intro empty other mem
      obtain ⟨listed, shown⟩ := List.mem_filter.1 mem
      have entry : d.constructors[other.2]? = some other.1 := List.mem_zipIdx_iff_getElem?.1 listed
      exact List.isEmpty_iff.2 (empty other.1 (List.mem_of_getElem? entry) shown)
  have isPublic : (c, i) ∈ d.constructors.zipIdx.filter (·.1.isPublic) ↔
      d.constructors[i]? = some c ∧ c.isPublic := by
    rw [List.mem_filter, List.mem_zipIdx_iff_getElem?]
  rw [considered]
  split
  · next kept =>
    rw [Bool.or_eq_true, all] at kept
    rw [isPublic]
    exact and_congr_right fun _ => (and_iff_left fun _ => kept).symm
  · next others =>
    rw [Bool.or_eq_true, all] at others
    rw [List.mem_filter, isPublic, and_assoc]
    refine and_congr_right fun _ => and_congr_right fun _ => ?_
    simp only [others, imp_false, Bool.not_eq_true', List.isEmpty_eq_false_iff]

theorem considered_ascending : (d.considered fallback).Pairwise (·.2 < ·.2) := by
  have all : d.constructors.zipIdx.Pairwise (·.2 < ·.2) := by
    rw [← List.pairwise_map (f := Prod.snd), List.zipIdx_map_snd]
    exact List.pairwise_lt_range'
  rw [considered]
  split
  · exact all.filter _
  · exact (all.filter _).filter _

end Descriptor

namespace Resolver

/-! ## What is asked -/

/-- The answers to requests that are asked in order, each with what is remembered by then. -/
def askAll (probe : Prober) : List Query → ProbeMemo → List Bool × ProbeMemo
  | [], memo => ([], memo)
  | q :: more, memo =>
    let (answer, memo) := probe q.contract q.tag q.path memo
    let (answers, memo) := askAll probe more memo
    (answer :: answers, memo)

/-- The score of a constructor by the answers for its parameters. -/
def scoreOf (c : Constructor × Nat) (answers : List Bool) : Score :=
  ⟨c.2, c.1.params.length, answers.count true, c.1.ordinal⟩

section Asking

variable (probe : Prober) (s : Substitution) (consumer : TypeExpr) (memo : ProbeMemo)

theorem length_askAll (queries : List Query) :
    (askAll probe queries memo).1.length = queries.length := by
  induction queries generalizing memo with
  | nil => rfl
  | cons q more ih => exact congrArg (· + 1) (ih _)

theorem askAll_append (first second : List Query) :
    let before := askAll probe first memo
    let after := askAll probe second before.2
    askAll probe (first ++ second) memo = (before.1 ++ after.1, after.2) := by
  induction first generalizing memo with
  | nil => rfl
  | cons q more ih =>
    simp only [List.cons_append, askAll, ih]

/-- What can be resolved is what is answered with yes. -/
theorem countResolvable_eq (params : List Site) :
    let asked := askAll probe (params.map (paramQuery s consumer)) memo
    countResolvable probe s consumer params memo = (asked.1.count true, asked.2) := by
  induction params generalizing memo with
  | nil => rfl
  | cons param more ih =>
    rw [countResolvable_cons, ih]
    refine Prod.ext ?_ rfl
    simp only [List.map_cons, askAll, List.count_cons, beq_true]
    split <;> rfl

/-- The scores are those by the answers, all of which are asked in order. -/
theorem scoreAll_eq (constructors : List (Constructor × Nat)) :
    ∃ answers : List (List Bool),
      answers.map (·.length) = constructors.map (·.1.params.length) ∧
      askAll probe (constructors.flatMap fun c => c.1.params.map (paramQuery s consumer)) memo =
        (answers.flatten, (scoreAll probe s consumer constructors memo).2) ∧
      (scoreAll probe s consumer constructors memo).1 = constructors.zipWith scoreOf answers := by
  induction constructors generalizing memo with
  | nil => exact ⟨[], rfl, rfl, rfl⟩
  | cons c more ih =>
    let asked := askAll probe (c.1.params.map (paramQuery s consumer)) memo
    obtain ⟨answers, lengths, rest, scores⟩ := ih asked.2
    have first : countResolvable probe s consumer c.1.params memo =
        (asked.1.count true, asked.2) := countResolvable_eq ..
    refine ⟨asked.1 :: answers, ?_, ?_, ?_⟩
    · have length : asked.1.length = c.1.params.length := by
        rw [length_askAll, List.length_map]
      rw [List.map_cons, List.map_cons, lengths, length]
    · rw [List.flatMap_cons, askAll_append, rest]
      simp only [scoreAll, first]
      rfl
    · simp only [scoreAll, first, scores]
      rfl

/-- The scores are listed by position, as the constructors are. -/
theorem ascending_zipWith_scoreOf {constructors : List (Constructor × Nat)}
    {answers : List (List Bool)} (ascending : constructors.Pairwise (·.2 < ·.2))
    (lengths : constructors.length ≤ answers.length) :
    (constructors.zipWith scoreOf answers).Pairwise (·.index < ·.index) := by
  have paired : ((constructors.zip answers).map Prod.fst).Pairwise (·.2 < ·.2) := by
    rwa [List.map_fst_zip lengths]
  rw [List.pairwise_map] at paired
  rwa [← List.map_uncurry_zip_eq_zipWith, List.pairwise_map]

end Asking

/-! ## What is chosen -/

theorem selectByScore_isOptimal {scores : List Score}
    (ascending : scores.Pairwise (·.index < ·.index)) :
    (selectByScore scores).IsOptimal scores := by
  let full := scores.filter fun score => score.params = score.resolvable
  have ascendingFull : full.Pairwise (·.index < ·.index) := ascending.filter _
  rw [selectByScore]
  constructor
  · intro present
    obtain ⟨best, found, isBest⟩ := Score.exists_isBest (·.params) ascendingFull present
    refine ⟨best, isBest, ?_⟩
    rw [found]
  · intro absent
    rw [Score.best_eq_none_iff.2 absent]
    refine ⟨rfl, fun present => ?_⟩
    obtain ⟨best, found, isBest⟩ := Score.exists_isBest (·.resolvable) ascending present
    refine ⟨best, isBest, ?_⟩
    rw [found, Option.map_some]

variable {r : Resolver} {d : Descriptor}

/-- The choice is the best one by the answers for the parameters of all constructors under
consideration, asked in order. -/
theorem selectWith_isOptimal (probe : Prober) (s : Substitution) (memo : ProbeMemo)
    (listed : d.constructors ≠ []) :
    let considered := d.considered r.options.parameterlessFallback
    let chosen := r.selectWith probe d s memo
    ∃ answers : List (List Bool),
      answers.map (·.length) = considered.map (·.1.params.length) ∧
      askAll probe (r.paramQueries d s) memo = (answers.flatten, chosen.2) ∧
      chosen.1.IsOptimal (considered.zipWith scoreOf answers) := by
  intro considered chosen
  obtain ⟨answers, lengths, asked, scores⟩ :=
    scoreAll_eq probe s (s.apply d.type) memo considered
  have isChosen : chosen = (selectByScore (considered.zipWith scoreOf answers),
      (scoreAll probe s (s.apply d.type) considered memo).2) := by
    rw [← scores]
    exact if_neg (by simpa using listed)
  rw [isChosen]
  have length : answers.length = considered.length := by simpa using congrArg List.length lengths
  have ascending : (considered.zipWith scoreOf answers).Pairwise (·.index < ·.index) :=
    ascending_zipWith_scoreOf Descriptor.considered_ascending length.ge
  exact ⟨answers, lengths, asked, selectByScore_isOptimal ascending⟩

/-- The constructor that is chosen is the best of those under consideration: one with the most
parameters among those that can be resolved in full, or else one with the most parameters that can
be, where the lowest ordinal and then the first one decides. -/
theorem selectConstructor_isOptimal (r : Resolver) (d : Descriptor) (s : Substitution)
    (memo : ProbeMemo) (listed : d.constructors ≠ []) :
    let fallback := r.options.parameterlessFallback
    let considered := d.considered fallback
    let chosen := r.selectConstructor d s memo
    (considered.Pairwise (·.2 < ·.2) ∧ ∀ c i, (c, i) ∈ considered ↔
      d.constructors[i]? = some c ∧ c.isPublic ∧
        (c.params = [] → fallback ∨
          ∀ other ∈ d.constructors, other.isPublic → other.params = [])) ∧
    (∃ answers : List (List Bool),
      answers.map (·.length) = considered.map (·.1.params.length) ∧
      askAll (r.probe r.options.maxDepth [s.apply d.type]) (r.paramQueries d s) memo =
        (answers.flatten, chosen.2) ∧
      chosen.1.IsOptimal (considered.zipWith scoreOf answers)) ∧
    (chosen.1.index = none ↔ ∀ c ∈ d.constructors, c.isPublic = false) := by
  intro fallback considered chosen
  refine ⟨⟨Descriptor.considered_ascending, fun c i => Descriptor.mem_considered_iff⟩,
    selectWith_isOptimal _ s memo listed, ?_⟩
  have hidden : chosen.1.index.isNone = !d.constructors.any (·.isPublic) :=
    selectConstructor_index_isNone (by simpa using listed)
  rw [← Option.isNone_iff_eq_none, hidden]
  simp

/-! ## Desks

A desk is made with a lamp or without one. Of the ways to use a lamp the one with an ordinal comes
first. With a drawer a desk would have more parts, but there are none.
-/

def lampSite : Site := .parameter "lamp" (.named "Lamp" [])

def drawerSite : Site := .parameter "drawer" (.named "IDrawer" [])

def deskDescriptor : Descriptor :=
  { Descriptor.concrete (.named "Desk" []) with
    constructors := [⟨true, none, []⟩, ⟨true, none, [lampSite]⟩, ⟨true, some 5, [lampSite]⟩,
      ⟨false, some 0, [lampSite]⟩, ⟨true, none, [lampSite, drawerSite]⟩] }

def desks : Resolver where
  registry := Registry.empty ⟨[deskDescriptor, .concrete (.named "Lamp" [])]⟩ .structural
  options := { Options.standard with maxDepth := 3 }
  accumulators := []
  autoBinds := true
  filter := none

theorem selectConstructor_isOptimal_desk :
    deskDescriptor.constructors ≠ [] ∧ ∃ answers : List (List Bool),
      answers.map (·.length) = [0, 1, 1, 2] ∧ answers.flatten = [true, true, true, false] ∧
      (⟨some 2, true⟩ : Selection).IsOptimal
        ((deskDescriptor.considered true).zipWith scoreOf answers) := by
  have listed : deskDescriptor.constructors ≠ [] := List.cons_ne_nil _ _
  obtain ⟨-, ⟨answers, lengths, asked, optimal⟩, -⟩ :=
    selectConstructor_isOptimal desks deskDescriptor ∅ [] listed
  have facts : (desks.selectConstructor deskDescriptor ∅ []).1 = ⟨some 2, true⟩ ∧
      (askAll (desks.probe 3 [(∅ : Substitution).apply deskDescriptor.type])
        (desks.paramQueries deskDescriptor ∅) []).1 = [true, true, true, false] ∧
      (deskDescriptor.considered true).map (·.1.params.length) = [0, 1, 1, 2] := by cbv
  obtain ⟨choice, answered, params⟩ := facts
  rw [choice] at optimal
  exact ⟨listed, answers, lengths.trans params, (congrArg Prod.fst asked).symm.trans answered,
    optimal⟩

end Resolver

end Wiring
