import Wiring.Proofs.Registry.Ranking

/-!
# Registry — Scan

All the matches of a type, said without the index: a scan of the declarations that tries each
contract in turn finds the same bindings, in the same order and with the same substitutions.
-/

namespace Wiring.Registry

theorem bindings_registerAll (catalog : Catalog) (unifier : Unifier) (bindings : List Binding) :
    ((empty catalog unifier).registerAll bindings).1.entries.map (·.binding) = bindings := by
  refine List.ext_getElem? fun i => ?_
  rw [List.getElem?_map]
  exact binding?_history catalog unifier bindings i

/-- The declarations whose contract unifies with a type, found by trying each in turn. -/
def scan (unifier : Unifier) (bindings : List Binding) (element : TypeExpr) : List Match :=
  bindings.zipIdx.filterMap fun (b, id) =>
    (unifier.unify element b.contract).map fun s => ⟨id, s, .exact, none⟩

/-- A unifier that respects heads finds by the index what it finds by a scan. -/
theorem Registered.allMatches_eq {r : Registry} (h : Registered r)
    (heads : r.unifier.RespectsHeads) (element : TypeExpr) :
    r.allMatches element = scan r.unifier (r.entries.map (·.binding)) element := by
  rw [allMatches, h.candidates_eq, reachable_eq heads, unifying, List.map_filterMap, scan,
    List.zipIdx_map, List.filterMap_map]
  refine List.filterMap_congr fun entry _ => ?_
  obtain ⟨e, id⟩ := entry
  simp only [Function.comp_apply, Prod.map_apply, id_eq, Option.map_map]
  rfl

/-- After any registrations, the matches of a type are what a scan of all the declarations finds:
every binding that unifies, overridden or not, once and in the order of declaration. -/
theorem allMatches_eq_scan (catalog : Catalog) (bindings : List Binding) (element : TypeExpr) :
    let r := ((empty catalog .structural).registerAll bindings).1
    r.allMatches element = scan .structural bindings element ∧
      (r.allMatches element).Pairwise (·.binding < ·.binding) := by
  intro r
  have registered : Registered r := .all (.empty ..) bindings
  have unifier : r.unifier = .structural := unifier_registerAll ..
  have all : r.allMatches element = scan .structural bindings element := by
    rw [registered.allMatches_eq (unifier ▸ Unifier.structural_respectsHeads), unifier,
      bindings_registerAll]
  exact ⟨all, List.pairwise_map.2 registered.candidates_sorted⟩

end Wiring.Registry
