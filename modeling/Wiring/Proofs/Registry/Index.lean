import Mathlib.Data.List.Sort
import Wiring.Proofs.Registry.Candidates
import Wiring.Proofs.Unification

/-!
# Registry — Index

The index by heads leaves nothing out: in every registry its buckets list the bindings of each head
in the order of declaration. So the candidates for a contract are what a scan of all bindings finds
among those of its head and the bare markers; and where types of different heads never unify, that
is every binding that unifies.
-/

namespace Wiring

/-! ## Positions -/

/-- The positions at which a test holds, in ascending order. -/
def positions {α : Type} (p : α → Bool) (l : List α) : List Nat :=
  (l.zipIdx.filter fun a => p a.1).map (·.2)

section Positions

variable {α β : Type} {p q : α → Bool} {l : List α}

theorem mem_positions {i : Nat} : i ∈ positions p l ↔ ∃ a, l[i]? = some a ∧ p a := by
  simp [positions, List.mem_zipIdx_iff_getElem?, and_comm]

theorem sorted_positions : (positions p l).SortedLT := by
  refine List.Pairwise.sortedLT ?_
  have all : (l.zipIdx.map (·.2)).Pairwise (· < ·) := by
    rw [List.zipIdx_map_snd]
    exact List.pairwise_lt_range'
  exact all.sublist (List.filter_sublist.map _)

theorem positions_append_singleton (a : α) :
    positions p (l ++ [a]) = positions p l ++ if p a then [l.length] else [] := by
  rw [positions, positions, List.zipIdx_append, List.filter_append, List.map_append]
  congr 1
  by_cases h : p a <;> simp [h]

/-- The positions of two kinds, put in order, are those of either. -/
theorem merge_positions (disjoint : ∀ a, p a → q a → False) :
    (positions p l).merge (positions q l) = positions (fun a => p a || q a) l := by
  -- Both sides are strictly ascending, so it is enough that they have the same members.
  have nodup : ((positions p l).merge (positions q l)).Nodup := by
    rw [(List.merge_perm_append ..).nodup_iff]
    refine List.Nodup.append sorted_positions.nodup sorted_positions.nodup ?_
    intro i left right
    obtain ⟨a, at_i, holds⟩ := mem_positions.1 left
    obtain ⟨b, at_i', holds'⟩ := mem_positions.1 right
    cases at_i.symm.trans at_i'
    exact disjoint a holds holds'
  have sorted : ((positions p l).merge (positions q l)).SortedLE :=
    (sorted_positions.sortedLE.pairwise.merge sorted_positions.sortedLE.pairwise).sortedLE
  refine List.SortedLT.eq_of_mem_iff (sorted.sortedLT_of_nodup nodup) sorted_positions fun i => ?_
  rw [List.mem_merge, mem_positions, mem_positions, mem_positions]
  constructor
  · rintro (⟨a, at_i, holds⟩ | ⟨a, at_i, holds⟩)
    · exact ⟨a, at_i, by simp [holds]⟩
    · exact ⟨a, at_i, by simp [holds]⟩
  · rintro ⟨a, at_i, holds⟩
    rcases Bool.or_eq_true_iff.1 holds with left | right
    · exact .inl ⟨a, at_i, left⟩
    · exact .inr ⟨a, at_i, right⟩

end Positions

/-! ## Heads -/

/-- A declared type has the head of a requested one, or it is a bare marker. -/
def TypeExpr.HasHeadOf (declared requested : TypeExpr) : Prop :=
  declared.head? = none ∨ declared.head? = requested.head?

instance : DecidableRel TypeExpr.HasHeadOf :=
  fun _ _ => inferInstanceAs (Decidable (_ ∨ _))

/-- A declared type unifies only with types of its own head, unless it is a bare marker. -/
def Unifier.RespectsHeads (u : Unifier) : Prop :=
  ∀ requested declared s, u.unify requested declared = some s → declared.HasHeadOf requested

theorem Unifier.structural_respectsHeads : structural.RespectsHeads := by
  intro requested declared s h
  obtain ⟨marker, rfl⟩ | headed := declared.eq_marker_or_headed
  · exact .inl rfl
  · have unified : bindMarkers requested declared ∅ = some s := h
    rw [bindMarkers_headed headed] at unified
    exact .inr (Option.ite_none_right_eq_some.1 unified).1.symm

/-! ## The index of a registry -/

theorem HeadIndex.lookup_addTo (head head' : TypeExpr.Head) (id : BindingId)
    (buckets : List (TypeExpr.Head × List BindingId)) :
    ((addTo head id buckets).lookup head').getD []
      = (buckets.lookup head').getD [] ++ if head' = head then [id] else [] := by
  induction buckets with
  | nil =>
    rw [addTo, lookup_cons_eq_ite]
    split <;> rfl
  | cons bucket more ih =>
    obtain ⟨key, ids⟩ := bucket
    rw [addTo, lookup_cons_eq_ite]
    split
    · next same =>
      obtain rfl : key = head := same
      rw [lookup_cons_eq_ite]
      split
      · rfl
      · rw [List.append_nil]
    · next differs =>
      rw [lookup_cons_eq_ite]
      split
      · next same =>
        rw [if_neg fun eq => differs (same.symm.trans eq), List.append_nil]
      · exact ih

namespace Registry

/-- A registry as registration makes it. -/
inductive Registered : Registry → Prop where
  | empty (catalog : Catalog) (unifier : Unifier) : Registered (.empty catalog unifier)
  | register {r : Registry} (b : Binding) (registered : Registered r) :
      Registered (r.register b).1

theorem Registered.all {r : Registry} (h : Registered r) (bindings : List Binding) :
    Registered (r.registerAll bindings).1 := by
  induction bindings generalizing r with
  | nil => exact h
  | cons b more ih => exact ih (h.register b)

def contracts (r : Registry) : List TypeExpr := r.entries.map (·.binding.contract)

/-- Overriding a binding leaves its contract. -/
theorem contracts_register (r : Registry) (b : Binding) :
    (r.register b).1.contracts = r.contracts ++ [b.contract] := by
  have kept (i : Nat) : (r.entries.modify i Entry.override).map (·.binding.contract)
      = r.entries.map (·.binding.contract) := by
    refine List.ext_getElem? fun j => ?_
    rw [List.getElem?_map, List.getElem?_map, List.getElem?_modify]
    cases r.entries[j]? with
    | none => rfl
    | some e => by_cases h : i = j <;> simp [h, Entry.override]
  unfold contracts register
  simp only [List.map_append, List.map_cons, List.map_nil]
  split
  · rw [kept]; rfl
  · rfl

/-- The index lists all the bindings. -/
structure Indexed (r : Registry) : Prop where
  bucket : ∀ head, r.index.bucket head = positions (fun c => c.head? = some head) r.contracts
  markers : r.index.markers = positions (fun c => c.head? = none) r.contracts

theorem Registered.indexed {r : Registry} (h : Registered r) : r.Indexed := by
  induction h with
  | empty => exact ⟨fun _ => rfl, rfl⟩
  | @register r b _ ih =>
    have count : r.contracts.length = r.size := List.length_map ..
    refine ⟨fun head => ?_, ?_⟩
    · rw [contracts_register, positions_append_singleton, count, ← ih.bucket]
      show HeadIndex.bucket (r.index.add b.contract r.size) head = _
      unfold HeadIndex.add
      cases b.contract.head? with
      | none => simp [HeadIndex.bucket]
      | some head' =>
        rw [HeadIndex.bucket, HeadIndex.lookup_addTo, HeadIndex.bucket]
        by_cases h : head = head' <;> simp [h, eq_comm]
    · rw [contracts_register, positions_append_singleton, count, ← ih.markers]
      show HeadIndex.markers (r.index.add b.contract r.size) = _
      unfold HeadIndex.add
      cases b.contract.head? <;> simp

/-- The bindings worth trying are those of the same head and those that are a bare marker. -/
theorem Indexed.candidates {r : Registry} (h : r.Indexed) (contract : TypeExpr) :
    r.index.candidates contract = positions (·.HasHeadOf contract) r.contracts := by
  unfold HeadIndex.candidates
  split
  · next head same =>
    rw [h.bucket, h.markers, merge_positions]
    · congr 1
      funext c
      rw [Bool.or_comm]
      simp [TypeExpr.HasHeadOf, same]
    · intro c left right
      simp only [decide_eq_true_eq] at left right
      nomatch left.symm.trans right
  · next same =>
    rw [h.markers]
    simp [TypeExpr.HasHeadOf, same]

/-- The bindings whose contract unifies with a type, in the order of declaration. -/
def unifying (r : Registry) (contract : TypeExpr) : List (BindingId × Entry × Substitution) :=
  r.entries.zipIdx.filterMap fun (e, id) =>
    (r.unifier.unify contract e.binding.contract).map (id, e, ·)

/-- Those of them that a look-up by heads comes across. -/
def reachable (r : Registry) (contract : TypeExpr) : List (BindingId × Entry × Substitution) :=
  (r.unifying contract).filter fun (_, e, _) => e.binding.contract.HasHeadOf contract

theorem Registered.candidates_eq {r : Registry} (h : Registered r) (contract : TypeExpr) :
    r.candidates contract = r.reachable contract := by
  rw [Registry.candidates, h.indexed.candidates, positions, contracts, List.zipIdx_map,
    List.filter_map, List.map_map, List.filterMap_map, List.filterMap_filter, reachable, unifying,
    List.filter_filterMap]
  refine List.filterMap_congr fun (e, id) mem => ?_
  have entry : r.entry? id = some e := List.mem_zipIdx_iff_getElem?.1 mem
  simp only [Function.comp_apply, Prod.map_apply, id_eq, entry]
  cases r.unifier.unify contract e.binding.contract with
  | none => split <;> rfl
  | some s => rw [Option.map_some, Option.filter_some]

/-- The index makes no difference to a unifier that respects heads. -/
theorem reachable_eq {r : Registry} (heads : r.unifier.RespectsHeads) (contract : TypeExpr) :
    r.reachable contract = r.unifying contract := by
  refine List.filter_eq_self.2 fun (id, e, s) mem => ?_
  obtain ⟨_, -, found⟩ := List.mem_filterMap.1 mem
  obtain ⟨_, unified, same⟩ := Option.map_eq_some_iff.1 found
  cases same
  exact decide_eq_true (heads _ _ _ unified)

end Registry

end Wiring
