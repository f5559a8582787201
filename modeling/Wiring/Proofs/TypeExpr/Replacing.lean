import Mathlib.Data.List.Basic
import Mathlib.Data.Set.Function
import Wiring.Proofs.TypeExpr.Induction

/-!
# TypeExpr — Replacing

Types put in the place of all markers of a type at once, each marker by itself. To replace twice is
to replace once by what was replaced; and two ways to replace give the same type just when they
agree on its markers. A renaming puts markers in the place of markers, different ones for different
ones.
-/

namespace Wiring.TypeExpr

mutual

/-- Put a type in the place of each marker. -/
def replace (f : String → TypeExpr) : TypeExpr → TypeExpr
  | .named path args => .named path (replaceAll f args)
  | .marker name => f name
  | .tuple items => .tuple (replaceAll f items)
  | .func target => .func (replace f target)
  | .lazy target => .lazy (replace f target)
  | .owned target => .owned (replace f target)
  | .collection kind element => .collection kind (replace f element)

def replaceAll (f : String → TypeExpr) : List TypeExpr → List TypeExpr
  | [] => []
  | t :: ts => replace f t :: replaceAll f ts

end

variable {f g : String → TypeExpr} {t u : TypeExpr} {m : String}

@[simp] theorem replaceAll_eq_map (f : String → TypeExpr) (ts : List TypeExpr) :
    replaceAll f ts = ts.map (replace f) := by
  induction ts with
  | nil => rfl
  | cons t ts ih => simp [replaceAll, ih]

/-! ## Heads and parts -/

@[simp] theorem replace_marker (f : String → TypeExpr) (name : String) :
    replace f (.marker name) = f name := by
  rw [replace]

theorem head?_replace (headed : t.head? ≠ none) : (t.replace f).head? = t.head? := by
  cases t with
  | marker name => exact absurd rfl headed
  | _ => simp [replace, head?]

theorem children_replace (headed : t.head? ≠ none) :
    (t.replace f).children = t.children.map (replace f) := by
  cases t with
  | marker name => exact absurd rfl headed
  | _ => simp [replace, children]

/-- A type is another one with its markers replaced when their heads and their parts agree. -/
theorem replace_eq_iff (headed : t.head? ≠ none) :
    t.replace f = u ↔ u.head? = t.head? ∧ t.children.map (replace f) = u.children := by
  constructor
  · rintro rfl
    exact ⟨head?_replace headed, (children_replace headed).symm⟩
  · rintro ⟨head, parts⟩
    exact eq_of_head_of_children (head ▸ headed) ((head?_replace headed).trans head.symm)
      ((children_replace headed).trans parts)

/-- Only a marker becomes a marker. -/
theorem exists_marker_of_replace (h : t.replace f = .marker m) :
    ∃ name, t = .marker name ∧ f name = .marker m := by
  obtain ⟨name, rfl⟩ | headed := t.eq_marker_or_headed
  · exact ⟨name, rfl, by simpa using h⟩
  · have head := ((replace_eq_iff headed).1 h).1
    exact absurd head.symm headed

/-! ## Laws -/

/-- Two ways to replace agree on a type just when they agree on its markers. -/
theorem replace_eq_replace_iff :
    t.replace f = t.replace g ↔ ∀ m ∈ t.markerOccurrences, f m = g m := by
  induction t using parts_induction with
  | step t ih =>
    obtain ⟨name, rfl⟩ | headed := t.eq_marker_or_headed
    · simp [markerOccurrences]
    · rw [replace_eq_iff headed, children_replace headed, head?_replace headed,
        markerOccurrences_of_headed headed, List.map_inj_left]
      simp only [true_and, List.mem_flatMap, forall_exists_index, and_imp]
      constructor
      · intro parts m part mem occurs
        exact (ih part mem).1 (parts part mem) m occurs
      · intro agree part mem
        exact (ih part mem).2 fun m occurs => agree m part mem occurs

theorem replace_self (t : TypeExpr) : t.replace .marker = t := by
  induction t using parts_induction with
  | step t ih =>
    obtain ⟨name, rfl⟩ | headed := t.eq_marker_or_headed
    · rw [replace_marker]
    · refine (replace_eq_iff headed).2 ⟨rfl, ?_⟩
      rw [List.map_congr_left ih, List.map_id']

theorem replace_replace (f g : String → TypeExpr) (t : TypeExpr) :
    (t.replace f).replace g = t.replace fun m => (f m).replace g := by
  induction t using parts_induction with
  | step t ih =>
    obtain ⟨name, rfl⟩ | headed := t.eq_marker_or_headed
    · rw [replace_marker, replace_marker]
    · have headed' : (t.replace f).head? ≠ none := (head?_replace headed).trans_ne headed
      rw [replace_eq_iff headed', children_replace headed, children_replace headed,
        head?_replace headed, head?_replace headed, List.map_map]
      exact ⟨rfl, List.map_congr_left ih⟩

theorem markerOccurrences_replace (f : String → TypeExpr) (t : TypeExpr) :
    (t.replace f).markerOccurrences =
      t.markerOccurrences.flatMap fun m => (f m).markerOccurrences := by
  induction t using parts_induction with
  | step t ih =>
    obtain ⟨name, rfl⟩ | headed := t.eq_marker_or_headed
    · simp [markerOccurrences]
    · have headed' : (t.replace f).head? ≠ none := (head?_replace headed).trans_ne headed
      rw [markerOccurrences_of_headed headed', children_replace headed, List.flatMap_map,
        markerOccurrences_of_headed headed, List.flatMap_assoc]
      exact List.flatMap_congr ih

/-! ## Renaming -/

/-- Put a marker in the place of each marker. -/
def rename (f : String → String) (t : TypeExpr) : TypeExpr := t.replace fun m => .marker (f m)

/-- The markers of a type are the other one's under a renaming that is one to one, and the types
are alike but for that. -/
def IsRenamingOf (t u : TypeExpr) : Prop :=
  ∃ f : String → String,
    Set.BijOn f {m | m ∈ u.markerOccurrences} {m | m ∈ t.markerOccurrences} ∧ u.rename f = t

theorem markerOccurrences_rename (f : String → String) (t : TypeExpr) :
    (t.rename f).markerOccurrences = t.markerOccurrences.map f := by
  rw [rename, markerOccurrences_replace, List.map_eq_flatMap]
  rfl

section Injective

variable {f : String → String} (injective : Set.InjOn f {m | m ∈ t.markerOccurrences})

include injective

theorem isRenamingOf_rename : (t.rename f).IsRenamingOf t := by
  refine ⟨f, ⟨?_, injective, ?_⟩, rfl⟩
  · intro m occurs
    show f m ∈ (t.rename f).markerOccurrences
    rw [markerOccurrences_rename]
    exact List.mem_map_of_mem occurs
  · intro name occurs
    change name ∈ (t.rename f).markerOccurrences at occurs
    rw [markerOccurrences_rename] at occurs
    exact List.mem_map.1 occurs

/-- A renaming that is one to one on the markers of a type can be undone. -/
theorem exists_rename_inverse : ∃ g : String → String, (t.rename f).rename g = t := by
  refine ⟨Function.invFunOn f {m | m ∈ t.markerOccurrences}, ?_⟩
  rw [rename, rename, replace_replace]
  refine Eq.trans (replace_eq_replace_iff.2 fun m occurs => ?_) (replace_self t)
  rw [replace_marker, injective.leftInvOn_invFunOn occurs]

end Injective

end Wiring.TypeExpr
