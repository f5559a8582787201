import Wiring.Registry.Lookup

/-!
# Registry — Candidates

What a look-up returns is one of the candidates, and so a binding of the registry.
-/

namespace Wiring.Registry

variable {r : Registry} {contract : TypeExpr} {options : Options}

/-- A candidate is an entry whose contract unifies. -/
theorem entry_of_candidate {id : BindingId} {e : Entry} {s : Substitution}
    (h : (id, e, s) ∈ r.candidates contract) :
    r.entry? id = some e ∧ r.unifier.unify contract e.binding.contract = some s := by
  obtain ⟨id', -, found⟩ := List.mem_filterMap.1 h
  split at found
  · next e' entry =>
    obtain ⟨s', unified, same⟩ := Option.map_eq_some_iff.1 found
    cases same
    exact ⟨entry, unified⟩
  · nomatch found

theorem foldl_better_mem {matches' : List Match} {best : Option Match} {found : Match}
    (h : matches'.foldl better best = some found) : best = some found ∨ found ∈ matches' := by
  induction matches' generalizing best with
  | nil => exact .inl h
  | cons next more ih =>
    rcases ih h with chosen | later
    · unfold better at chosen
      split at chosen
      · split at chosen
        · exact .inr (Option.some.inj chosen ▸ List.mem_cons_self)
        · exact .inl chosen
      · exact .inr (Option.some.inj chosen ▸ List.mem_cons_self)
    · exact .inr (List.mem_cons_of_mem _ later)

/-- What is found is a candidate. -/
theorem candidate_of_lookup {q : Query} {found : Match} (h : r.lookup q options = some found) :
    ∃ e, (found.binding, e, found.substitution) ∈ r.candidates q.contract := by
  have mem := (foldl_better_mem h).resolve_left nofun
  obtain ⟨⟨id, e, s⟩, candidate, fits⟩ := List.mem_filterMap.1 mem
  simp only [eligible] at fits
  split at fits
  · nomatch fits
  · obtain ⟨fit, -, rfl⟩ := Option.map_eq_some_iff.1 fits
    exact ⟨e, candidate⟩

/-- What is found is a binding. -/
theorem binding_of_lookup {q : Query} {found : Match} (h : r.lookup q options = some found) :
    ∃ b, r.binding? found.binding = some b := by
  obtain ⟨e, candidate⟩ := candidate_of_lookup h
  exact ⟨e.binding, by simp [binding?, (entry_of_candidate candidate).1]⟩

/-- What is listed for a contract is a candidate. -/
theorem candidate_of_allMatches {found : Match} (h : found ∈ r.allMatches contract) :
    ∃ e, (found.binding, e, found.substitution) ∈ r.candidates contract := by
  obtain ⟨⟨id, e, s⟩, candidate, rfl⟩ := List.mem_map.1 h
  exact ⟨e, candidate⟩

end Wiring.Registry
