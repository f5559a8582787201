import Wiring.Proofs.Registry.Overriding
import Wiring.Proofs.Registry.Ranking

/-!
# Registry — Untagged

A binding without a tag answers every request for its contract, whatever the request's tag and path:
a later binding without a tag may override it, but that one then answers in its place.
-/

namespace Wiring.Registry

variable {r : Registry} {q : Query} {options : Options}

/-- A look-up that has a match to choose from finds one. -/
theorem Registered.lookup_isSome_of_matching (h : Registered r) {m : Match}
    (mem : m ∈ r.matching q options) : (r.lookup q options).isSome := by
  rw [lookup_eq_foldl]
  have sorted : (r.matching q options).Pairwise (·.binding < ·.binding) := h.matching_sorted
  rcases foldl_better_spec sorted with ⟨empty, -⟩ | ⟨best, -, found, -⟩
  · rw [empty] at mem
    nomatch mem
  · rw [found]
    rfl

theorem overrideTag_eq_untagged_iff {key : TagKey} {implementation : Implementation} :
    overrideTag key implementation = .untagged ↔ key = .untagged := by
  cases key with
  | type => cases implementation <;> simp [overrideTag]
  | untagged | value | any | on | unique => simp [overrideTag]

/-- Candidates with the same contract are found together. -/
theorem Registered.candidate_of_contract (h : Registered r) {id id' : BindingId} {e e' : Entry}
    {s : Substitution} (candidate : (id, e, s) ∈ r.candidates q.contract)
    (entry : r.entry? id' = some e') (same : e'.binding.contract = e.binding.contract) :
    (id', e', s) ∈ r.candidates q.contract := by
  rw [h.candidates_eq] at candidate ⊢
  obtain ⟨unifying, head⟩ := List.mem_filter.1 candidate
  obtain ⟨_, -, found⟩ := List.mem_filterMap.1 unifying
  obtain ⟨_, unified, eq⟩ := Option.map_eq_some_iff.1 found
  cases eq
  refine List.mem_filter.2 ⟨List.mem_filterMap.2 ⟨(e', id'), ?_, ?_⟩, ?_⟩
  · exact List.mk_mem_zipIdx_iff_getElem?.2 entry
  · simp only [same, unified, Option.map_some]
  · simpa only [same] using head

/-- A candidate without a tag lets every look-up for the contract find something. -/
theorem Registered.lookup_isSome_of_untagged (h : Registered r) {id : BindingId} {e : Entry}
    {s : Substitution} (candidate : (id, e, s) ∈ r.candidates q.contract)
    (untagged : e.key = .untagged) : (r.lookup q options).isSome := by
  have known : r.effectiveKey? id = some (e.binding.contract, .untagged) := by
    rw [effectiveKey?, (entry_of_candidate candidate).1, Option.map_some, Entry.effectiveKey,
      untagged]
    rfl
  obtain ⟨latest, isKey, only⟩ := h.exists_latest known
  obtain ⟨e', entry, same⟩ := Option.map_eq_some_iff.1 isKey
  obtain ⟨contract, tag⟩ := Prod.ext_iff.1 same
  have current : e'.isOverridden = false := by
    have latest := (only latest isKey).2.2 rfl
    rwa [isOverridden, entry] at latest
  have eligible : eligible q options (latest, e', s) = some ⟨latest, s, .fallback, none⟩ := by
    rw [Registry.eligible, current, if_neg Bool.false_ne_true, fitOf,
      overrideTag_eq_untagged_iff.1 tag]
    rfl
  exact h.lookup_isSome_of_matching
    (List.mem_filterMap.2 ⟨_, h.candidate_of_contract candidate entry contract, eligible⟩)

end Wiring.Registry
