import Wiring.TypeExpr.Basic

/-!
# TypeExpr — Induction

A type is made of its parts, so what holds of a type whenever it holds of all its parts holds of
every type. A type that is not a marker is known by its head and its parts.
-/

namespace Wiring.TypeExpr

theorem sizeOf_lt_of_mem_children {t part : TypeExpr} (h : part ∈ t.children) :
    sizeOf part < sizeOf t := by
  cases t with
  | named path args =>
    have : sizeOf part < sizeOf args := List.sizeOf_lt_of_mem h
    simp only [named.sizeOf_spec]
    omega
  | marker name => cases h
  | tuple items =>
    have : sizeOf part < sizeOf items := List.sizeOf_lt_of_mem h
    simp only [tuple.sizeOf_spec]
    omega
  | func target | lazy target | owned target =>
    obtain rfl := List.mem_singleton.1 h
    simp
  | collection kind element =>
    obtain rfl := List.mem_singleton.1 h
    simp only [collection.sizeOf_spec]
    omega

/-- Induction on the parts of a type. -/
@[elab_as_elim]
theorem parts_induction {motive : TypeExpr → Prop}
    (step : ∀ t : TypeExpr, (∀ part ∈ t.children, motive part) → motive t) (t : TypeExpr) :
    motive t :=
  step t fun part h =>
    have := sizeOf_lt_of_mem_children h
    parts_induction step part
termination_by sizeOf t

/-! ## Heads and parts -/

theorem eq_marker_or_headed (t : TypeExpr) : (∃ name, t = .marker name) ∨ t.head? ≠ none := by
  cases t with
  | marker name => exact .inl ⟨name, rfl⟩
  | _ => exact .inr nofun

theorem eq_of_head_of_children {s t : TypeExpr} (headed : t.head? ≠ none)
    (head : s.head? = t.head?) (parts : s.children = t.children) : s = t := by
  cases s <;> cases t <;> simp_all [head?, children]

theorem markerOccurrences_of_headed {t : TypeExpr} (headed : t.head? ≠ none) :
    t.markerOccurrences = t.children.flatMap markerOccurrences := by
  cases t with
  | marker name => exact absurd rfl headed
  | _ => simp [children, markerOccurrences]

/-- A type that is not a marker has no markers when its parts have none. -/
theorem isOpen_eq_false_of_headed {t : TypeExpr} (headed : t.head? ≠ none) :
    t.isOpen = false ↔ ∀ part ∈ t.children, part.isOpen = false := by
  simp [isOpen, markerOccurrences_of_headed headed]

end Wiring.TypeExpr
