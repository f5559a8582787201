import Wiring.Proofs.Instances

/-!
# Catalog

The search for the descriptor of a type is sound and complete. It finds the first descriptor of just
this type, or else the first open one that fits, and with what is found the descriptor is of the
type that was asked for; it finds none only when none fits, since a descriptor without markers fits
no type but its own.
-/

namespace Wiring

/-! ## First places -/

/-- Something stands at a place of a list and is the first there to pass a test. -/
structure IsFirst {α : Type} (p : α → Prop) (l : List α) (i : Nat) (a : α) : Prop where
  there : l[i]? = some a
  passes : p a
  before : ∀ j b, j < i → l[j]? = some b → ¬ p b

section FirstPlace

variable {α : Type} {p : α → Prop} {l : List α} {a b : α} {i : Nat}

theorem isFirst_cons_of_pos (holds : p a) : IsFirst p (a :: l) i b ↔ i = 0 ∧ b = a := by
  constructor
  · intro h
    cases i with
    | zero => exact ⟨rfl, (Option.some.inj h.there).symm⟩
    | succ k => exact absurd holds (h.before 0 a (Nat.succ_pos k) rfl)
  · rintro ⟨rfl, rfl⟩
    exact ⟨rfl, holds, fun j _ lt => absurd lt (Nat.not_lt_zero j)⟩

theorem isFirst_cons_of_neg (fails : ¬ p a) :
    IsFirst p (a :: l) i b ↔ ∃ k, i = k + 1 ∧ IsFirst p l k b := by
  constructor
  · intro h
    cases i with
    | zero =>
      obtain rfl : a = b := Option.some.inj h.there
      exact absurd h.passes fails
    | succ k =>
      exact ⟨k, rfl, h.there, h.passes, fun j c lt => h.before (j + 1) c (Nat.succ_lt_succ lt)⟩
  · rintro ⟨k, rfl, h⟩
    refine ⟨h.there, h.passes, fun j c lt at_j => ?_⟩
    cases j with
    | zero =>
      obtain rfl : a = c := Option.some.inj at_j
      exact fails
    | succ j => exact h.before j c (Nat.lt_of_succ_lt_succ lt) at_j

theorem findIdx?_eq_some_iff_isFirst [DecidablePred p] :
    l.findIdx? (fun a => p a) = some i ↔ ∃ a, IsFirst p l i a := by
  rw [List.findIdx?_eq_some_iff_getElem]
  constructor
  · rintro ⟨lt, holds, before⟩
    refine ⟨l[i], List.getElem?_eq_getElem lt, by simpa using holds, fun j b lt' at_j => ?_⟩
    obtain ⟨_, rfl⟩ := List.getElem?_eq_some_iff.1 at_j
    simpa using before j lt'
  · rintro ⟨a, there, holds, before⟩
    obtain ⟨lt, rfl⟩ := List.getElem?_eq_some_iff.1 there
    refine ⟨lt, by simpa using holds, fun j lt' => ?_⟩
    simpa using before j _ lt' (List.getElem?_eq_getElem (Nat.lt_trans lt' lt))

end FirstPlace

namespace Catalog

variable {u : Unifier} {c : Catalog} {type : TypeExpr} {d : Descriptor} {i : Nat} {s : Substitution}

/-! ## The search -/

/-- A descriptor is open and fits a type. -/
def OpenFor (u : Unifier) (type : TypeExpr) (d : Descriptor) : Prop :=
  d.type.isOpen ∧ u.accepts type d.type

theorem findOpen_eq_some_iff {start : Nat} {more : List Descriptor} :
    findOpen u type start more = some (i, s) ↔
      ∃ k d, i = start + k ∧ IsFirst (OpenFor u type) more k d ∧ u.unify type d.type = some s := by
  -- The place found is counted from the start, so the start moves on with the list.
  induction more generalizing start with
  | nil => exact iff_of_false nofun fun ⟨_, _, _, first, _⟩ => nomatch first.there
  | cons e more ih =>
    by_cases fits : OpenFor u type e
    · obtain ⟨s', found⟩ := Option.isSome_iff_exists.1 fits.2
      simp only [findOpen, fits.1, found, if_true, isFirst_cons_of_pos fits, Option.some.injEq,
        Prod.mk.injEq]
      constructor
      · rintro ⟨rfl, rfl⟩
        exact ⟨0, e, rfl, ⟨rfl, rfl⟩, found⟩
      · rintro ⟨_, _, same, ⟨rfl, rfl⟩, found'⟩
        exact ⟨same.symm, Option.some.inj (found.symm.trans found')⟩
    · have passed : findOpen u type start (e :: more) = findOpen u type (start + 1) more := by
        rw [findOpen]
        split
        · next isOpen =>
          cases found : u.unify type e.type with
          | none => rfl
          | some s' => exact absurd ⟨isOpen, by simp [Unifier.accepts, found]⟩ fits
        · rfl
      rw [passed, ih]
      simp only [isFirst_cons_of_neg fits]
      constructor
      · rintro ⟨k, d, rfl, first, found⟩
        exact ⟨k + 1, d, by omega, ⟨k, rfl, first⟩, found⟩
      · rintro ⟨_, d, rfl, ⟨k, rfl, first⟩, found⟩
        exact ⟨k, d, by omega, first, found⟩

theorem findOpen_eq_none_iff {start : Nat} {more : List Descriptor} :
    findOpen u type start more = none ↔ ∀ d ∈ more, ¬ OpenFor u type d := by
  induction more generalizing start with
  | nil => simp [findOpen]
  | cons e more ih =>
    rw [List.forall_mem_cons, ← @ih (start + 1), findOpen, OpenFor, Unifier.accepts]
    cases e.type.isOpen with
    | false => simp
    | true => cases u.unify type e.type <;> simp

theorem find_of_listed (listed : ∃ e ∈ c.types, e.type = type) :
    c.find u type = some (i, s) ↔ ∃ d, IsFirst (·.type = type) c.types i d ∧ s = ∅ := by
  rw [exists_and_right, ← findIdx?_eq_some_iff_isFirst, find]
  cases found : c.types.findIdx? (·.type = type) with
  | none =>
    obtain ⟨e, mem, same⟩ := listed
    exact absurd same (by simpa using List.findIdx?_eq_none_iff.1 found e mem)
  | some index => simp [eq_comm]

theorem find_of_unlisted (unlisted : ∀ e ∈ c.types, e.type ≠ type) :
    c.find u type = findOpen u type 0 c.types := by
  have none : c.types.findIdx? (·.type = type) = none := by simpa using unlisted
  rw [find, none]

/-- A descriptor is the one to take for a type, with a table for its markers: the first of just this
type, or, where none is of it, the first open one that fits. -/
inductive Describes (c : Catalog) (u : Unifier) (type : TypeExpr) :
    Nat → Substitution → Descriptor → Prop where
  | itself {i : Nat} {d : Descriptor} (first : IsFirst (·.type = type) c.types i d) :
      Describes c u type i ∅ d
  | fitting {i : Nat} {s : Substitution} {d : Descriptor} (unlisted : ∀ e ∈ c.types, e.type ≠ type)
      (first : IsFirst (OpenFor u type) c.types i d) (unified : u.unify type d.type = some s) :
      Describes c u type i s d

theorem find_eq_some_iff : c.find u type = some (i, s) ↔ ∃ d, c.Describes u type i s d := by
  by_cases listed : ∃ e ∈ c.types, e.type = type
  · rw [find_of_listed listed]
    constructor
    · rintro ⟨d, first, rfl⟩
      exact ⟨d, .itself first⟩
    · rintro ⟨d, first | ⟨unlisted, -, -⟩⟩
      · exact ⟨d, first, rfl⟩
      · obtain ⟨e, mem, same⟩ := listed
        exact absurd same (unlisted e mem)
  · have unlisted : ∀ e ∈ c.types, e.type ≠ type := fun e mem same => listed ⟨e, mem, same⟩
    rw [find_of_unlisted unlisted, findOpen_eq_some_iff]
    simp only [Nat.zero_add]
    constructor
    · rintro ⟨_, d, rfl, first, unified⟩
      exact ⟨d, .fitting unlisted first unified⟩
    · rintro ⟨d, first | ⟨-, first, unified⟩⟩
      · exact absurd first.passes (unlisted d (List.mem_of_getElem? first.there))
      · exact ⟨i, d, rfl, first, unified⟩

theorem find_eq_none_iff : c.find u type = none ↔
    (∀ e ∈ c.types, e.type ≠ type) ∧ ∀ e ∈ c.types, ¬ OpenFor u type e := by
  by_cases listed : ∃ e ∈ c.types, e.type = type
  · obtain ⟨e, mem, same⟩ := listed
    refine iff_of_false (fun none => ?_) fun ⟨unlisted, _⟩ => unlisted e mem same
    rw [find] at none
    split at none
    · nomatch none
    · next absent => exact absurd same (by simpa using List.findIdx?_eq_none_iff.1 absent e mem)
  · have unlisted : ∀ e ∈ c.types, e.type ≠ type := fun e mem same => listed ⟨e, mem, same⟩
    rw [find_of_unlisted unlisted, findOpen_eq_none_iff]
    exact (and_iff_right unlisted).symm

/-! ## Descriptors -/

namespace Describes

theorem there (h : c.Describes u type i s d) : c.types[i]? = some d := by
  cases h with
  | itself first => exact first.there
  | fitting _ first => exact first.there

theorem fits (h : c.Describes u type i s d) :
    d.type = type ∧ s = ∅ ∨ u.unify type d.type = some s := by
  cases h with
  | itself first => exact .inl ⟨first.passes, rfl⟩
  | fitting _ _ unified => exact .inr unified

/-- A descriptor, with what its markers stand for, describes just the type that was asked for. -/
theorem apply_eq (h : c.Describes u type i s d) (sound : u.Sound) : s.apply d.type = type := by
  rcases h.fits with ⟨exact, rfl⟩ | unified
  · rw [Substitution.apply_empty, exact]
  · exact sound _ _ _ unified

end Describes

theorem descriptorOf_eq_some_iff :
    c.descriptorOf u type = some (d, s) ↔ ∃ i, c.Describes u type i s d := by
  rw [descriptorOf]
  constructor
  · intro h
    split at h
    · next i s' found =>
      obtain ⟨e, there, same⟩ := Option.map_eq_some_iff.1 h
      cases same
      obtain ⟨d', describes⟩ := find_eq_some_iff.1 found
      obtain rfl : d' = d := Option.some.inj (describes.there.symm.trans there)
      exact ⟨i, describes⟩
    · nomatch h
  · rintro ⟨i, describes⟩
    rw [find_eq_some_iff.2 ⟨d, describes⟩]
    exact Option.map_eq_some_iff.2 ⟨d, describes.there, rfl⟩

theorem mem_of_descriptorOf (h : c.descriptorOf u type = some (d, s)) : d ∈ c.types := by
  obtain ⟨i, describes⟩ := descriptorOf_eq_some_iff.1 h
  exact List.mem_of_getElem? describes.there

theorem apply_of_descriptorOf (sound : u.Sound) (h : c.descriptorOf u type = some (d, s)) :
    s.apply d.type = type := by
  obtain ⟨i, describes⟩ := descriptorOf_eq_some_iff.1 h
  exact describes.apply_eq sound

/-- A descriptor of a type without markers has a type without markers for each of its own. -/
theorem closes_of_descriptorOf (closed : type.isOpen = false)
    (h : c.descriptorOf .structural type = some (d, s)) : s.Closes d.type := by
  obtain ⟨i, describes⟩ := descriptorOf_eq_some_iff.1 h
  rcases describes.fits with ⟨exact, rfl⟩ | unified
  · exact Substitution.closes_of_closed (exact ▸ closed)
  · exact Unifier.closes_of_unify closed unified

end Catalog

end Wiring
