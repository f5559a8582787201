import Mathlib.Data.List.Forall2
import Wiring.Proofs.Resolver.Metadata
import Wiring.Proofs.Resolver.Questions

/-!
# Resolver — Scoring

What the choice of a constructor says about its parameters. Whatever is known of the answers of a
prober is known of the scores, and so of the choice: a full one has a constructor all of whose
parameters were answered with yes, and without one every constructor has a parameter that was not.
-/

namespace Wiring

/-- The score of a constructor whose parameters are answered as told. -/
def Scored (answered : Query → Bool → Prop) (s : Substitution) (consumer : TypeExpr)
    (c : Constructor × Nat) (score : Score) : Prop :=
  ∃ answers, List.Forall₂ (fun p b => answered (paramQuery s consumer p) b) c.1.params answers ∧
    score = ⟨c.2, c.1.params.length, answers.count true, c.1.ordinal⟩

theorem Descriptor.getElem?_of_considered {d : Descriptor} {fallback : Bool}
    {c : Constructor × Nat} (h : c ∈ d.considered fallback) : d.constructors[c.2]? = some c.1 := by
  have mem : c ∈ d.constructors.zipIdx.filter (·.1.isPublic) := by
    rw [considered] at h
    split at h
    · exact h
    · exact List.mem_of_mem_filter h
  exact List.mem_zipIdx_iff_getElem?.1 (List.mem_of_mem_filter mem)

namespace Score

variable {measure : Score → Nat} {scores : List Score} {found : Score}

theorem preferred_eq (measure : Score → Nat) (b next : Score) :
    preferred measure (some b) next = some next ∨ preferred measure (some b) next = some b := by
  rw [preferred]
  split
  · exact .inl rfl
  · exact .inr rfl

/-- The best score is one of them. -/
theorem mem_of_best (h : best measure scores = some found) : found ∈ scores := by
  induction scores using List.reverseRecOn generalizing found with
  | nil => nomatch h
  | append_singleton scores last ih =>
    rw [best, List.foldl_append, List.foldl_cons, List.foldl_nil] at h
    change preferred measure (best measure scores) last = some found at h
    cases before : best measure scores with
    | none =>
      rw [before] at h
      obtain rfl : last = found := Option.some.inj h
      exact List.mem_append_right _ List.mem_cons_self
    | some b =>
      rw [before] at h
      rcases preferred_eq measure b last with newer | older
      · obtain rfl : last = found := Option.some.inj (newer.symm.trans h)
        exact List.mem_append_right _ List.mem_cons_self
      · obtain rfl : b = found := Option.some.inj (older.symm.trans h)
        exact List.mem_append_left _ (ih before)

end Score

namespace Scored

variable {answered : Query → Bool → Prop} {s : Substitution} {consumer : TypeExpr}
  {c : Constructor × Nat} {score : Score}

/-- With a full score all parameters were answered with yes. -/
theorem all_of_full (h : Scored answered s consumer c score)
    (full : score.params = score.resolvable) :
    ∀ p ∈ c.1.params, answered (paramQuery s consumer p) true := by
  obtain ⟨bs, each, rfl⟩ := h
  have all : bs.count true = bs.length := full.symm.trans each.length_eq
  intro p mem
  obtain ⟨b, mem', answer⟩ := exists_rel_of_mem each mem
  obtain rfl := List.count_eq_length.1 all b mem'
  exact answer

/-- Without a full score some parameter was answered with no. -/
theorem exists_of_not_full (h : Scored answered s consumer c score)
    (lacking : score.params ≠ score.resolvable) :
    ∃ p ∈ c.1.params, answered (paramQuery s consumer p) false := by
  obtain ⟨bs, each, rfl⟩ := h
  have some : ¬ ∀ b ∈ bs, true = b := fun all =>
    lacking (each.length_eq.trans (List.count_eq_length.2 all).symm)
  push Not at some
  obtain ⟨b, mem, no⟩ := some
  obtain ⟨p, mem', answer⟩ := exists_rel_of_mem each.flip mem
  obtain rfl : b = false := Bool.eq_false_of_not_eq_true (Ne.symm no)
  exact ⟨p, mem', answer⟩

end Scored

namespace Resolver

/-! ## Choices -/

section Choices

variable {scores : List Score}

/-- A full choice is a constructor with a full score. -/
theorem exists_full_of_selectByScore (h : (selectByScore scores).isFull) :
    ∃ score ∈ scores, score.params = score.resolvable ∧
      (selectByScore scores).index = some score.index := by
  rw [selectByScore] at h ⊢
  split at h
  · next full best =>
    obtain ⟨mem, isFull⟩ := List.mem_filter.1 (Score.mem_of_best best)
    exact ⟨full, mem, of_decide_eq_true isFull, rfl⟩
  · cases h

/-- Without a full choice no score is full. -/
theorem not_full_of_selectByScore (h : (selectByScore scores).isFull = false) :
    ∀ score ∈ scores, score.params ≠ score.resolvable := by
  rw [selectByScore] at h
  split at h
  · cases h
  · next none =>
    intro score mem full
    have isFull := List.filter_eq_nil_iff.1 (Score.best_eq_none_iff.1 none) score mem
    exact isFull (decide_eq_true full)

/-- The index that is chosen is that of a score. -/
theorem exists_score_of_selectByScore {i : Nat} (h : (selectByScore scores).index = some i) :
    ∃ score ∈ scores, score.index = i := by
  rw [selectByScore] at h
  split at h
  · next full best =>
    cases h
    exact ⟨full, List.mem_of_mem_filter (Score.mem_of_best best), rfl⟩
  · obtain ⟨score, best, rfl⟩ := Option.map_eq_some_iff.1 h
    exact ⟨score, Score.mem_of_best best, rfl⟩

end Choices

/-! ## Scores -/

variable {r : Resolver} {probe : Prober} {answered : Query → Bool → Prop}
  {memory : ProbeMemo → Prop} {s : Substitution} {consumer : TypeExpr} {memo : ProbeMemo}

/-- A prober answers some requests as told, if it remembers what it should, and goes on so. -/
def AnswersAs (probe : Prober) (answered : Query → Bool → Prop) (memory : ProbeMemo → Prop)
    (q : Query) : Prop :=
  ∀ memo, memory memo → answered q (probe q.contract q.tag q.path memo).1 ∧
    memory (probe q.contract q.tag q.path memo).2

theorem countResolvable_cons (probe : Prober) (s : Substitution) (consumer : TypeExpr)
    (param : Site) (more : List Site) (memo : ProbeMemo) :
    let q := paramQuery s consumer param
    let asked := probe q.contract q.tag q.path memo
    let rest := countResolvable probe s consumer more asked.2
    countResolvable probe s consumer (param :: more) memo =
      (if asked.1 then rest.1 + 1 else rest.1, rest.2) := rfl

theorem countResolvable_spec {params : List Site}
    (answers : ∀ p ∈ params, AnswersAs probe answered memory (paramQuery s consumer p))
    (known : memory memo) :
    (∃ bs, List.Forall₂ (fun p b => answered (paramQuery s consumer p) b) params bs ∧
      (countResolvable probe s consumer params memo).1 = bs.count true) ∧
    memory (countResolvable probe s consumer params memo).2 := by
  induction params generalizing memo with
  | nil => exact ⟨⟨[], .nil, rfl⟩, known⟩
  | cons param more ih =>
    obtain ⟨first, known'⟩ := answers param List.mem_cons_self memo known
    obtain ⟨⟨bs, rest, count⟩, known''⟩ := ih (fun p mem => answers p (.tail _ mem)) known'
    refine ⟨⟨_ :: bs, .cons first rest, ?_⟩, known''⟩
    rw [congrArg Prod.fst (countResolvable_cons ..), List.count_cons, ← count]
    simp only [beq_true]
    split <;> rfl

theorem scoreAll_spec {constructors : List (Constructor × Nat)}
    (answers : ∀ c ∈ constructors, ∀ p ∈ c.1.params,
      AnswersAs probe answered memory (paramQuery s consumer p))
    (known : memory memo) :
    List.Forall₂ (Scored answered s consumer) constructors
      (scoreAll probe s consumer constructors memo).1 ∧
    memory (scoreAll probe s consumer constructors memo).2 := by
  induction constructors generalizing memo with
  | nil => exact ⟨.nil, known⟩
  | cons c more ih =>
    obtain ⟨⟨bs, each, count⟩, known'⟩ :=
      countResolvable_spec (answers c List.mem_cons_self) known
    obtain ⟨rest, known''⟩ := ih (fun c mem => answers c (.tail _ mem)) known'
    exact ⟨.cons ⟨bs, each, by rw [← count]⟩ rest, known''⟩

/-! ## Selections -/

variable {d : Descriptor}

/-- The constructor is chosen by the scores of those considered. -/
theorem selectWith_spec (listed : d.constructors.isEmpty = false)
    (answers : ∀ q ∈ r.paramQueries d s, AnswersAs probe answered memory q)
    (known : memory memo) :
    (∃ scores, List.Forall₂ (Scored answered s (s.apply d.type))
      (d.considered r.options.parameterlessFallback) scores ∧
      (r.selectWith probe d s memo).1 = selectByScore scores) ∧
    memory (r.selectWith probe d s memo).2 := by
  have asked : ∀ c ∈ d.considered r.options.parameterlessFallback, ∀ p ∈ c.1.params,
      AnswersAs probe answered memory (paramQuery s (s.apply d.type) p) :=
    fun c mem p mem' => answers _ (List.mem_flatMap.2 ⟨c, mem, List.mem_map_of_mem mem'⟩)
  obtain ⟨scored, known'⟩ := scoreAll_spec asked known
  rw [selectWith, if_neg (by simp [listed])]
  exact ⟨⟨_, scored, rfl⟩, known'⟩

/-- Only a constructor that is considered is chosen. -/
theorem selectWith_index {i : Nat} (h : (r.selectWith probe d s memo).1.index = some i) :
    ∃ c ∈ d.considered r.options.parameterlessFallback, c.2 = i := by
  cases listed : d.constructors.isEmpty with
  | true =>
    rw [selectWith, if_pos listed] at h
    cases h
  | false =>
    have answers : ∀ q ∈ r.paramQueries d s,
        AnswersAs probe (fun _ _ => True) (fun _ => True) q := fun _ _ _ _ => ⟨trivial, trivial⟩
    obtain ⟨scores, scored, chosen⟩ : ∃ scores,
        List.Forall₂ (Scored (fun _ _ => True) s (s.apply d.type))
          (d.considered r.options.parameterlessFallback) scores ∧
        (r.selectWith probe d s memo).1 = selectByScore scores :=
      (selectWith_spec listed answers trivial).1
    rw [chosen] at h
    obtain ⟨score, mem, rfl⟩ := exists_score_of_selectByScore h
    obtain ⟨c, mem', _, _, rfl⟩ : ∃ c ∈ d.considered r.options.parameterlessFallback,
        Scored (fun _ _ => True) s (s.apply d.type) c score := exists_rel_of_mem scored.flip mem
    exact ⟨c, mem', rfl⟩

/-- A full choice has a constructor whose parameters were all answered with yes, unless the type
lists no constructors. -/
theorem selectWith_full (answers : ∀ q ∈ r.paramQueries d s, AnswersAs probe answered memory q)
    (known : memory memo) (full : (r.selectWith probe d s memo).1.isFull) :
    d.constructors.isEmpty ∧ (r.selectWith probe d s memo).1.index = none ∨
      ∃ c ∈ d.considered r.options.parameterlessFallback,
        (r.selectWith probe d s memo).1.index = some c.2 ∧
        ∀ p ∈ c.1.params, answered (paramQuery s (s.apply d.type) p) true := by
  cases listed : d.constructors.isEmpty with
  | true => exact .inl ⟨rfl, by rw [selectWith, if_pos listed]⟩
  | false =>
    obtain ⟨⟨scores, scored, chosen⟩, -⟩ := selectWith_spec listed answers known
    rw [chosen] at full ⊢
    obtain ⟨score, mem, isFull, index⟩ := exists_full_of_selectByScore full
    obtain ⟨c, mem', scored'⟩ : ∃ c ∈ d.considered r.options.parameterlessFallback,
        Scored answered s (s.apply d.type) c score := exists_rel_of_mem scored.flip mem
    refine .inr ⟨c, mem', ?_, scored'.all_of_full isFull⟩
    obtain ⟨_, _, rfl⟩ := scored'
    exact index

/-- Without a full choice every constructor has a parameter that was answered with no. -/
theorem selectWith_lacking (answers : ∀ q ∈ r.paramQueries d s, AnswersAs probe answered memory q)
    (known : memory memo) (lacking : (r.selectWith probe d s memo).1.isFull = false) :
    d.constructors.isEmpty = false ∧ ∀ c ∈ d.considered r.options.parameterlessFallback,
      ∃ p ∈ c.1.params, answered (paramQuery s (s.apply d.type) p) false := by
  cases listed : d.constructors.isEmpty with
  | true =>
    rw [selectWith, if_pos listed] at lacking
    cases lacking
  | false =>
    obtain ⟨⟨scores, scored, chosen⟩, -⟩ := selectWith_spec listed answers known
    rw [chosen] at lacking
    refine ⟨rfl, fun c mem => ?_⟩
    obtain ⟨score, mem', scored'⟩ := exists_rel_of_mem scored mem
    exact scored'.exists_of_not_full (not_full_of_selectByScore lacking score mem')

theorem selectWith_memory (answers : ∀ q ∈ r.paramQueries d s, AnswersAs probe answered memory q)
    (known : memory memo) : memory (r.selectWith probe d s memo).2 := by
  cases listed : d.constructors.isEmpty with
  | true =>
    rw [selectWith, if_pos listed]
    exact known
  | false => exact (selectWith_spec listed answers known).2

end Resolver

end Wiring
