import Mathlib.Data.List.Induction
import Mathlib.Data.List.Nodup
import Wiring.Proofs.Registry.Overriding

/-!
# Registry — Ranking

Which binding a look-up chooses, said without the index and without the order of trial. The bindings
that answer a query are those that are left, unify and whose tags fit; of these the look-up finds
the one that fits closest, and of equals the one declared last.
-/

namespace Wiring

/-! ## Fits -/

namespace Fit

/-- The ways in which a tag fits, the closest first. -/
def closestFirst : List Fit := [exact, tagOn, unique, typeMarker, wildcard, fallback]

theorem rank_eq_idxOf (fit : Fit) : fit.rank = closestFirst.idxOf fit := by
  cases fit <;> rfl

theorem rank_inj {fit other : Fit} : fit.rank = other.rank ↔ fit = other := by
  cases fit <;> cases other <;> decide

end Fit

/-- A match fits closer than another, or as closely and is not declared earlier. -/
def Match.IsAsGoodAs (m other : Match) : Prop :=
  Fit.closestFirst.idxOf m.kind < Fit.closestFirst.idxOf other.kind ∨
    m.kind = other.kind ∧ other.binding ≤ m.binding

theorem Match.isAsGoodAs_iff {m other : Match} : m.IsAsGoodAs other ↔
    m.kind.rank < other.kind.rank ∨
      m.kind.rank = other.kind.rank ∧ other.binding ≤ m.binding := by
  rw [IsAsGoodAs, Fit.rank_inj, Fit.rank_eq_idxOf, Fit.rank_eq_idxOf]

/-- How the declared tag of a binding fits a query, once the contract is unified. -/
inductive Binding.Fits (b : Binding) (σ : Substitution) (q : Query) (options : Options) :
    Fit → Option String → Prop where
  | exact {value} (tag : b.tag = some (.value value)) (asked : q.tag = some value) :
      Fits b σ q options .exact none
  | tagOn {earlier pattern later path} (tag : b.tag = some (.on (earlier ++ pattern :: later)))
      (asked : q.path = some path) (fits : patternFits pattern path)
      (first : ∀ other ∈ earlier, patternFits other path = false) :
      Fits b σ q options .tagOn (some pattern)
  | unique (tag : b.tag = some .unique) : Fits b σ q options .unique none
  | typeMarker {type} (tag : b.tag = some .type) (built : b.builtType? = some type)
      (asked : q.tag = some (.type (σ.apply type))) : Fits b σ q options .typeMarker none
  | wildcard (tag : b.tag = some .any) (enabled : options.wildcardTagMatching)
      (asked : q.tag.isSome) : Fits b σ q options .wildcard none
  | unasked (tag : b.tag = some .any) (enabled : options.wildcardTagMatching)
      (asked : q.tag = none) : Fits b σ q options .fallback none
  | untagged (tag : b.tag = none) : Fits b σ q options .fallback none

namespace Registry

/-- A binding answers a query by a match: it is not overridden, its contract unifies and its tag
fits. -/
def Answers (r : Registry) (q : Query) (options : Options) (m : Match) : Prop :=
  ∃ b, r.binding? m.binding = some b ∧ r.isOverridden m.binding = false ∧
    r.unifier.unify q.contract b.contract = some m.substitution ∧
    b.Fits m.substitution q options m.kind m.pattern

variable {r : Registry} {q : Query} {options : Options}

/-! ## Tags

The fit of an entry is that of its declared tag, one form of tag after the other.
-/

section Tags

variable {e : Entry} {σ : Substitution} {fit : Fit} {pattern : Option String}

theorem fitOf_untagged_iff (key : e.key = .untagged) (tag : e.binding.tag = none) :
    fitOf e σ q options = some (fit, pattern) ↔ e.binding.Fits σ q options fit pattern := by
  simp only [fitOf, key]
  constructor
  · rintro ⟨⟩
    exact .untagged tag
  · intro fits
    cases fits <;> simp_all

theorem fitOf_value_iff {value : TagValue} (key : e.key = .value value)
    (tag : e.binding.tag = some (.value value)) :
    fitOf e σ q options = some (fit, pattern) ↔ e.binding.Fits σ q options fit pattern := by
  simp only [fitOf, key]
  constructor
  · intro found
    obtain ⟨asked, ⟨⟩⟩ := Option.ite_none_right_eq_some.1 found
    exact .exact tag asked
  · intro fits
    cases fits <;> simp_all

theorem fitOf_any_iff (key : e.key = .any) (tag : e.binding.tag = some .any) :
    fitOf e σ q options = some (fit, pattern) ↔ e.binding.Fits σ q options fit pattern := by
  simp only [fitOf, key]
  constructor
  · intro found
    obtain ⟨enabled, same⟩ := Option.ite_none_right_eq_some.1 found
    split at same
    · next asked =>
      cases same
      exact .wildcard tag enabled asked
    · next unasked =>
      cases same
      exact .unasked tag enabled (Option.not_isSome_iff_eq_none.1 unasked)
  · intro fits
    cases fits <;> simp_all

theorem fitOf_unique_iff {n : Nat} (key : e.key = .unique n) (tag : e.binding.tag = some .unique) :
    fitOf e σ q options = some (fit, pattern) ↔ e.binding.Fits σ q options fit pattern := by
  simp only [fitOf, key]
  constructor
  · rintro ⟨⟩
    exact .unique tag
  · intro fits
    cases fits <;> simp_all

theorem fitOf_type_iff (key : e.key = .type) (tag : e.binding.tag = some .type) :
    fitOf e σ q options = some (fit, pattern) ↔ e.binding.Fits σ q options fit pattern := by
  simp only [fitOf, key]
  constructor
  · intro found
    split at found
    · next requested type asked built =>
      obtain ⟨same, ⟨⟩⟩ := Option.ite_none_right_eq_some.1 found
      exact .typeMarker tag built (same ▸ asked)
    · nomatch found
  · intro fits
    cases fits <;> simp_all

theorem fitOf_on_iff {patterns : List String} (key : e.key = .on patterns)
    (tag : e.binding.tag = some (.on patterns)) :
    fitOf e σ q options = some (fit, pattern) ↔ e.binding.Fits σ q options fit pattern := by
  simp only [fitOf, key]
  constructor
  · intro found
    split at found
    · next path asked =>
      obtain ⟨pattern, first, ⟨⟩⟩ := Option.map_eq_some_iff.1 found
      obtain ⟨fits, earlier, later, rfl, before⟩ := List.find?_eq_some_iff_append.1 first
      exact .tagOn tag asked fits fun other mem => by simpa using before other mem
    · nomatch found
  · intro fits
    cases fits with
    | tagOn tag' asked fits first =>
      cases tag.symm.trans tag'
      simp only [asked, Option.map_eq_some_iff]
      refine ⟨_, List.find?_eq_some_iff_append.2 ⟨fits, _, _, rfl, fun other mem => ?_⟩, rfl⟩
      simp [first other mem]
    | exact | unique | typeMarker | wildcard | unasked | untagged => simp_all

theorem Registered.fitOf_iff (h : Registered r) {i : Nat} (entry : r.entry? i = some e) :
    fitOf e σ q options = some (fit, pattern) ↔ e.binding.Fits σ q options fit pattern := by
  have keyed := h.key_eq (declared?_of_entry entry)
  have isUnique := h.isUnique_iff (declared?_of_entry entry)
  rw [Entry.declared_key, Entry.declared_binding] at keyed isUnique
  cases tag : e.binding.tag with
  | none =>
    rw [tag] at keyed
    exact fitOf_untagged_iff (keyed (by simp)) tag
  | some declared =>
    rw [tag] at keyed isUnique
    cases declared with
    | value => exact fitOf_value_iff (keyed (by simp)) tag
    | any => exact fitOf_any_iff (keyed (by simp)) tag
    | type => exact fitOf_type_iff (keyed (by simp)) tag
    | on => exact fitOf_on_iff (keyed (by simp)) tag
    | unique =>
      cases key : e.key with
      | unique => exact fitOf_unique_iff key tag
      | untagged | value | any | type | on => simp [key, TagKey.isUnique] at isUnique

end Tags

/-! ## Matches -/

/-- The candidates are the bindings that unify. -/
theorem Registered.mem_candidates_iff (h : Registered r) (heads : r.unifier.RespectsHeads)
    {contract : TypeExpr} {id : BindingId} {e : Entry} {σ : Substitution} :
    (id, e, σ) ∈ r.candidates contract ↔
      r.entry? id = some e ∧ r.unifier.unify contract e.binding.contract = some σ := by
  refine ⟨entry_of_candidate, fun ⟨entry, unified⟩ => ?_⟩
  rw [h.candidates_eq, reachable_eq heads, unifying]
  refine List.mem_filterMap.2 ⟨(e, id), List.mem_zipIdx_iff_getElem?.2 entry, ?_⟩
  simp only [unified, Option.map_some]

theorem Registered.candidates_sorted (h : Registered r) {contract : TypeExpr} :
    (r.candidates contract).Pairwise (·.1 < ·.1) := by
  have ids : (r.entries.zipIdx.map (·.2)).Pairwise (· < ·) := by
    rw [List.zipIdx_map_snd]
    exact List.pairwise_lt_range'
  have sorted : (r.unifying contract).Pairwise (·.1 < ·.1) := by
    refine List.pairwise_filterMap.2 ((List.pairwise_map.1 ids).imp fun lt c found c' found' => ?_)
    obtain ⟨_, -, rfl⟩ := Option.map_eq_some_iff.1 found
    obtain ⟨_, -, rfl⟩ := Option.map_eq_some_iff.1 found'
    exact lt
  rw [h.candidates_eq, reachable]
  exact sorted.filter _

/-- The matches that a look-up chooses from. -/
def matching (r : Registry) (q : Query) (options : Options) : List Match :=
  (r.candidates q.contract).filterMap (eligible q options)

theorem lookup_eq_foldl : r.lookup q options = (r.matching q options).foldl better none := rfl

/-- The matches are the ways in which a binding answers the query. -/
theorem Registered.mem_matching_iff (h : Registered r) (heads : r.unifier.RespectsHeads)
    {m : Match} : m ∈ r.matching q options ↔ r.Answers q options m := by
  obtain ⟨id, σ, fit, pattern⟩ := m
  constructor
  · intro mem
    obtain ⟨⟨id', e, σ'⟩, candidate, found⟩ := List.mem_filterMap.1 mem
    obtain ⟨entry, unified⟩ := entry_of_candidate candidate
    obtain ⟨current, fits⟩ := Option.ite_none_left_eq_some.1 found
    obtain ⟨⟨fit', pattern'⟩, fits, ⟨⟩⟩ := Option.map_eq_some_iff.1 fits
    refine ⟨e.binding, by rw [binding?, entry, Option.map_some], ?_, unified,
      (h.fitOf_iff entry).1 fits⟩
    rw [isOverridden, entry]
    exact Bool.eq_false_iff.2 current
  · rintro ⟨b, binding, current, unified, fits⟩
    obtain ⟨e, entry, rfl⟩ := Option.map_eq_some_iff.1 binding
    refine List.mem_filterMap.2 ⟨(id, e, σ), (h.mem_candidates_iff heads).2 ⟨entry, unified⟩, ?_⟩
    rw [isOverridden, entry] at current
    refine Option.ite_none_left_eq_some.2 ⟨Bool.eq_false_iff.1 current, ?_⟩
    rw [(h.fitOf_iff entry).2 fits, Option.map_some]

/-- The matches stand in the order of declaration. -/
theorem Registered.matching_sorted (h : Registered r) :
    (r.matching q options).Pairwise (·.binding < ·.binding) := by
  have own {c : BindingId × Entry × Substitution} {m : Match}
      (found : eligible q options c = some m) : m.binding = c.1 := by
    obtain ⟨-, found⟩ := Option.ite_none_left_eq_some.1 found
    obtain ⟨_, -, rfl⟩ := Option.map_eq_some_iff.1 found
    rfl
  refine List.pairwise_filterMap.2 (h.candidates_sorted.imp fun lt m found m' found' => ?_)
  rw [own found, own found']
  exact lt

/-! ## The best match -/

/-- Trying matches in the order of declaration leaves one that is as good as all. -/
theorem foldl_better_spec {matches' : List Match}
    (sorted : matches'.Pairwise (·.binding < ·.binding)) :
    (matches' = [] ∧ matches'.foldl better none = none) ∨
      ∃ best ∈ matches', matches'.foldl better none = some best ∧
        ∀ m ∈ matches', best.IsAsGoodAs m := by
  induction matches' using List.reverseRecOn with
  | nil => exact .inl ⟨rfl, rfl⟩
  | append_singleton earlier m ih =>
    obtain ⟨sorted, -, later⟩ := List.pairwise_append.1 sorted
    refine .inr ?_
    rw [List.foldl_concat]
    rcases ih sorted with ⟨rfl, none⟩ | ⟨best, mem, found, good⟩
    · rw [none]
      exact ⟨m, by simp, rfl, by simp [Match.isAsGoodAs_iff]⟩
    · rw [found, better]
      simp only [Match.isAsGoodAs_iff] at good ⊢
      have last := later best mem m (List.mem_singleton_self m)
      split
      · next le =>
        -- The new match is later than all, so it need not fit closer than the best of before.
        refine ⟨m, by simp, rfl, fun m' mem' => ?_⟩
        rcases List.mem_append.1 mem' with old | new
        · have before : m'.binding ≤ m.binding :=
            Nat.le_of_lt (later m' old m (List.mem_singleton_self m))
          rcases good m' old with closer | ⟨same, -⟩
          · exact .inl (Nat.lt_of_le_of_lt le closer)
          · rcases Nat.lt_or_eq_of_le (same ▸ le) with closer | equal
            · exact .inl closer
            · exact .inr ⟨equal, before⟩
        · obtain rfl := List.mem_singleton.1 new
          exact .inr ⟨rfl, Nat.le_refl _⟩
      · next gt =>
        refine ⟨best, List.mem_append_left _ mem, rfl, fun m' mem' => ?_⟩
        rcases List.mem_append.1 mem' with old | new
        · exact good m' old
        · obtain rfl := List.mem_singleton.1 new
          exact .inl (Nat.lt_of_not_le gt)

/-- Of matches in the order of declaration, only one is as good as all. -/
theorem eq_of_isAsGoodAs {matches' : List Match} {m m' : Match}
    (sorted : matches'.Pairwise (·.binding < ·.binding)) (mem : m ∈ matches')
    (mem' : m' ∈ matches') (good : m.IsAsGoodAs m') (good' : m'.IsAsGoodAs m) : m = m' := by
  have distinct : (matches'.map (·.binding)).Nodup :=
    List.pairwise_map.2 (sorted.imp fun lt => Nat.ne_of_lt lt)
  refine List.inj_on_of_nodup_map distinct mem mem' ?_
  rw [Match.isAsGoodAs_iff] at good good'
  rcases good with closer | ⟨same, le⟩
  · rcases good' with closer' | ⟨same, -⟩
    · exact absurd closer' (Nat.lt_asymm closer)
    · exact absurd same (Nat.ne_of_gt closer)
  · rcases good' with closer' | ⟨-, le'⟩
    · exact absurd same (Nat.ne_of_gt closer')
    · exact Nat.le_antisymm le' le

/-- A look-up finds the match that is as good as all. -/
theorem Registered.lookup_eq_some_iff (h : Registered r) (heads : r.unifier.RespectsHeads)
    {m : Match} : r.lookup q options = some m ↔
      r.Answers q options m ∧ ∀ m', r.Answers q options m' → m.IsAsGoodAs m' := by
  simp only [← h.mem_matching_iff heads]
  rw [lookup_eq_foldl]
  have sorted : (r.matching q options).Pairwise (·.binding < ·.binding) := h.matching_sorted
  rcases foldl_better_spec sorted with ⟨empty, none⟩ | ⟨best, mem, found, good⟩
  · simp [empty]
  · rw [found, Option.some.injEq]
    constructor
    · rintro rfl
      exact ⟨mem, good⟩
    · rintro ⟨mem', good'⟩
      exact eq_of_isAsGoodAs sorted mem mem' (good m mem') (good' best mem)

theorem Registered.lookup_eq_none_iff (h : Registered r) (heads : r.unifier.RespectsHeads) :
    r.lookup q options = none ↔ ∀ m, ¬ r.Answers q options m := by
  simp only [← h.mem_matching_iff heads]
  rw [lookup_eq_foldl]
  have sorted : (r.matching q options).Pairwise (·.binding < ·.binding) := h.matching_sorted
  rcases foldl_better_spec sorted with ⟨empty, none⟩ | ⟨best, mem, found, -⟩
  · simp [empty]
  · rw [found]
    exact iff_of_false nofun fun none => none best mem

@[simp] theorem unifier_registerAll (r : Registry) (bindings : List Binding) :
    (r.registerAll bindings).1.unifier = r.unifier := by
  induction bindings generalizing r with
  | nil => rfl
  | cons b more ih => exact ih (r.register b).1

/-- After any registrations, a look-up finds the binding that fits the query closest, and of equals
the one declared last; it finds none only if none fits. -/
theorem lookup_finds_closest (catalog : Catalog) (bindings : List Binding) (q : Query)
    (options : Options) :
    let r := ((Registry.empty catalog .structural).registerAll bindings).1
    (∀ m, r.lookup q options = some m ↔
      r.Answers q options m ∧ ∀ m', r.Answers q options m' → m.IsAsGoodAs m') ∧
    (r.lookup q options = none ↔ ∀ m, ¬ r.Answers q options m) := by
  intro r
  have registered : Registered r := .all (.empty ..) bindings
  have heads : r.unifier.RespectsHeads := by
    rw [unifier_registerAll]
    exact Unifier.structural_respectsHeads
  exact ⟨fun _ => registered.lookup_eq_some_iff heads, registered.lookup_eq_none_iff heads⟩

end Registry

end Wiring
