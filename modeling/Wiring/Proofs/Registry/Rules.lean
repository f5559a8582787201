import Wiring.Proofs.Registry.Ranking

/-!
# Registry — Rules

The rules of positional tags: a binding with one of its patterns. A rule fits a request when the
contract of its binding unifies and its pattern fits the path. Nothing else counts, neither what a
look-up finds in the end nor whether the binding is overridden.
-/

namespace Wiring

/-- The patterns that a binding is declared with. -/
def Binding.patterns (b : Binding) : List String :=
  match b.tag with
  | some (.on patterns) => patterns
  | _ => []

/-- A positional tag that fits does so by one of its patterns. -/
theorem Binding.Fits.pattern_fits {b : Binding} {σ : Substitution} {q : Query} {options : Options}
    {fit : Fit} {p : String} (h : b.Fits σ q options fit (some p)) :
    p ∈ b.patterns ∧ ∃ path, q.path = some path ∧ patternFits p path := by
  cases h with
  | @tagOn earlier _ later path tag asked fits =>
    refine ⟨?_, path, asked, fits⟩
    rw [patterns, tag]
    exact List.mem_append_right _ List.mem_cons_self

namespace Registry

/-- A rule fits a request. -/
def ruleFits (r : Registry) (rule : Rule) (q : Query) : Bool :=
  (r.binding? rule.1).any fun b => b.patterns.contains rule.2 &&
    (r.unifier.accepts q.contract b.contract && q.path.any (patternFits rule.2))

variable {r : Registry} {rule : Rule} {q : Query} {options : Options} {b : Binding}

theorem ruleFits_iff (binding : r.binding? rule.1 = some b) (mem : rule.2 ∈ b.patterns) :
    r.ruleFits rule q ↔ r.unifier.accepts q.contract b.contract ∧
      ∃ path, q.path = some path ∧ patternFits rule.2 path := by
  simp [ruleFits, binding, mem, Option.any_eq_true]

/-- An entry has the patterns that its binding was declared with. -/
theorem Registered.patterns_eq (h : Registered r) {id : BindingId} {e : Entry}
    (entry : r.entry? id = some e) : e.patterns = e.binding.patterns := by
  have keyed := h.key_eq (declared?_of_entry entry)
  have isUnique := h.isUnique_iff (declared?_of_entry entry)
  rw [Entry.declared_key, Entry.declared_binding] at keyed isUnique
  rw [Entry.patterns, Binding.patterns]
  cases tag : e.binding.tag with
  | none =>
    rw [tag] at keyed
    rw [keyed nofun]
    rfl
  | some declared =>
    rw [tag] at keyed isUnique
    cases declared with
    | value | any | type | on =>
      rw [keyed nofun]
      rfl
    | unique =>
      cases key : e.key with
      | on => rw [key] at isUnique; nomatch isUnique.2 rfl
      | untagged | value | any | type | unique => rfl

theorem Registered.mem_rules_iff (h : Registered r) :
    rule ∈ r.rules ↔ ∃ b, r.binding? rule.1 = some b ∧ rule.2 ∈ b.patterns := by
  obtain ⟨id, p⟩ := rule
  constructor
  · intro mem
    obtain ⟨⟨e, id'⟩, at_id, mem⟩ := List.mem_flatMap.1 mem
    obtain ⟨p', mem, ⟨⟩⟩ := List.mem_map.1 mem
    have entry : r.entry? id = some e := List.mem_zipIdx_iff_getElem?.1 at_id
    refine ⟨e.binding, by rw [binding?, entry, Option.map_some], ?_⟩
    rwa [h.patterns_eq entry] at mem
  · rintro ⟨b, binding, mem⟩
    obtain ⟨e, entry, rfl⟩ := Option.map_eq_some_iff.1 binding
    rw [← h.patterns_eq entry] at mem
    exact List.mem_flatMap.2
      ⟨(e, id), List.mem_zipIdx_iff_getElem?.2 entry, List.mem_map_of_mem mem⟩

/-- The rules that are noted for a request are those that fit it. -/
theorem Registered.mem_matchingRules_iff (h : Registered r) (heads : r.unifier.RespectsHeads) :
    rule ∈ r.matchingRules q ↔ r.ruleFits rule q := by
  obtain ⟨id, p⟩ := rule
  constructor
  · intro mem
    rw [matchingRules] at mem
    split at mem
    · next path asked =>
      obtain ⟨⟨id', e, σ⟩, candidate, mem⟩ := List.mem_flatMap.1 mem
      obtain ⟨p', mem, ⟨⟩⟩ := List.mem_map.1 mem
      obtain ⟨mem, fits⟩ := List.mem_filter.1 mem
      obtain ⟨entry, unified⟩ := entry_of_candidate candidate
      have binding : r.binding? id = some e.binding := by rw [binding?, entry, Option.map_some]
      rw [h.patterns_eq entry] at mem
      refine (ruleFits_iff binding mem).2 ⟨?_, path, asked, fits⟩
      rw [Unifier.accepts, unified]
      rfl
    · exact absurd mem List.not_mem_nil
  · intro fits
    obtain ⟨b, binding, fits'⟩ := Option.any_eq_true _ _ |>.1 fits
    have mem : p ∈ b.patterns := List.contains_iff_mem.1 (Bool.and_eq_true_iff.1 fits').1
    obtain ⟨accepted, path, asked, fits⟩ := (ruleFits_iff binding mem).1 fits
    obtain ⟨e, entry, rfl⟩ := Option.map_eq_some_iff.1 binding
    obtain ⟨σ, unified⟩ := Option.isSome_iff_exists.1 accepted
    rw [matchingRules, asked]
    refine List.mem_flatMap.2 ⟨(id, e, σ), (h.mem_candidates_iff heads).2 ⟨entry, unified⟩, ?_⟩
    rw [← h.patterns_eq entry] at mem
    exact List.mem_map_of_mem (List.mem_filter.2 ⟨mem, fits⟩)

/-- The rule through which a look-up finds a binding fits the request. -/
theorem Registered.ruleFits_of_lookup (h : Registered r) (heads : r.unifier.RespectsHeads)
    {m : Match} {p : String} (found : r.lookup q options = some m) (pattern : m.pattern = some p) :
    (m.binding, p) ∈ r.rules ∧ r.ruleFits (m.binding, p) q := by
  obtain ⟨b, binding, -, unified, fits⟩ := ((h.lookup_eq_some_iff heads).1 found).1
  rw [pattern] at fits
  obtain ⟨mem, asked⟩ := fits.pattern_fits
  refine ⟨h.mem_rules_iff.2 ⟨b, binding, mem⟩, (ruleFits_iff binding mem).2 ⟨?_, asked⟩⟩
  rw [Unifier.accepts, unified]
  rfl

end Registry

end Wiring
