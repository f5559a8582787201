import Wiring.Catalog
import Wiring.Proofs.TypeExpr.Replacing
import Wiring.Proofs.Unification

/-!
# Instances

A requested type fits a declared one exactly when it is an instance of it: the declared type with
types put in the place of its markers. The markers of the request are mere names then, though they
are markers again where the request is declared in turn. So fitting is a preorder on types, and two
types fit each other just when they are the same up to a renaming of markers. Capabilities go along:
a type has every capability of which one that it has is an instance.
-/

namespace Wiring

namespace Substitution

/-- The table that gives each of some markers its type. -/
def ofMarkers (f : String → TypeExpr) : List String → Substitution
  | [] => ∅
  | m :: more => (ofMarkers f more).insert m (f m)

theorem get?_ofMarkers (f : String → TypeExpr) (markers : List String) (m : String) :
    (ofMarkers f markers).get? m = if m ∈ markers then some (f m) else none := by
  induction markers with
  | nil => rfl
  | cons m' more ih =>
    rw [ofMarkers, get?_insert, ih]
    by_cases same : m = m'
    · simp [same]
    · simp [same]

/-- A table replaces each marker by what it makes of it. -/
theorem apply_eq_replace (s : Substitution) (t : TypeExpr) :
    s.apply t = t.replace fun m => s.apply (.marker m) := by
  induction t using TypeExpr.parts_induction with
  | step t ih =>
    obtain ⟨name, rfl⟩ | headed := t.eq_marker_or_headed
    · rw [TypeExpr.replace_marker]
    · refine (apply_eq_iff headed).2 ⟨TypeExpr.head?_replace headed, ?_⟩
      rw [TypeExpr.children_replace headed]
      exact List.map_congr_left ih

/-- Whatever replaces the markers of a type, there is a table that does. -/
theorem apply_ofMarkers (f : String → TypeExpr) (t : TypeExpr) :
    (ofMarkers f t.markerOccurrences).apply t = t.replace f := by
  rw [apply_eq_replace, TypeExpr.replace_eq_replace_iff]
  intro m occurs
  rw [apply, get?_ofMarkers, if_pos occurs, Option.getD_some]

end Substitution

namespace Unifier

variable {a b c requested declared : TypeExpr}

/-! ## Fitting -/

/-- A type fits just when some table makes the declared type the requested one. -/
theorem structural_accepts_iff_apply :
    structural.accepts requested declared ↔ ∃ s : Substitution, s.apply declared = requested := by
  rw [accepts, Option.isSome_iff_exists]
  constructor
  · rintro ⟨s, found⟩
    exact ⟨s, structural_sound _ _ _ found⟩
  · rintro ⟨s, applied⟩
    have serves : Serves s ∅ := fun _ _ known => nomatch known
    obtain ⟨s', found, -⟩ := exists_bindMarkers serves applied
    exact ⟨s', found⟩

theorem structural_accepts_iff :
    structural.accepts requested declared ↔ ∃ f, declared.replace f = requested := by
  rw [structural_accepts_iff_apply]
  constructor
  · rintro ⟨s, rfl⟩
    exact ⟨_, (s.apply_eq_replace declared).symm⟩
  · rintro ⟨f, rfl⟩
    exact ⟨_, Substitution.apply_ofMarkers f declared⟩

theorem structural_accepts_refl (a : TypeExpr) : structural.accepts a a :=
  structural_accepts_iff.2 ⟨.marker, a.replace_self⟩

theorem structural_accepts_trans (first : structural.accepts a b) (second : structural.accepts b c) :
    structural.accepts a c := by
  obtain ⟨f, rfl⟩ := structural_accepts_iff.1 first
  obtain ⟨g, rfl⟩ := structural_accepts_iff.1 second
  -- What `g` puts in the place of a marker of `c` is declared to `a`, so its markers are replaced.
  exact structural_accepts_iff.2 ⟨_, (c.replace_replace g f).symm⟩

/-- A declared type without markers fits no type but itself. -/
theorem structural_accepts_closed (closed : declared.isOpen = false) :
    structural.accepts requested declared ↔ declared = requested := by
  rw [structural_accepts_iff_apply]
  constructor
  · rintro ⟨s, rfl⟩
    exact (Substitution.apply_of_closed closed).symm
  · rintro rfl
    exact ⟨∅, Substitution.apply_empty declared⟩

/-! ## Types that fit each other -/

/-- A renaming is an instance. -/
theorem structural_accepts_rename (f : String → String) (t : TypeExpr) :
    structural.accepts (t.rename f) t :=
  structural_accepts_iff.2 ⟨_, rfl⟩

theorem accepts_of_isRenamingOf (h : a.IsRenamingOf b) :
    structural.accepts a b ∧ structural.accepts b a := by
  obtain ⟨f, bijective, rfl⟩ := h
  obtain ⟨g, undone⟩ := TypeExpr.exists_rename_inverse bijective.injOn
  refine ⟨structural_accepts_rename f b, ?_⟩
  have back := structural_accepts_rename g (b.rename f)
  rwa [undone] at back

theorem isRenamingOf_of_accepts (first : structural.accepts a b) (second : structural.accepts b a) :
    a.IsRenamingOf b := by
  obtain ⟨f, rfl⟩ := structural_accepts_iff.1 first
  obtain ⟨g, back⟩ := structural_accepts_iff.1 second
  -- There and back again every marker of `b` is itself, so on the way it was a marker too.
  have whole : (b.replace fun m => (f m).replace g) = b.replace .marker := by
    rw [← TypeExpr.replace_replace, back, TypeExpr.replace_self]
  have each : ∀ m ∈ b.markerOccurrences, ∃ name, f m = .marker name ∧ g name = .marker m :=
    fun m occurs =>
      TypeExpr.exists_marker_of_replace (TypeExpr.replace_eq_replace_iff.1 whole m occurs)
  choose! h forth undone using each
  have renamed : b.rename h = b.replace f :=
    TypeExpr.replace_eq_replace_iff.2 fun m occurs => (forth m occurs).symm
  rw [← renamed]
  refine TypeExpr.isRenamingOf_rename fun m occurs m' occurs' same => ?_
  have equal := undone m occurs
  rw [same, undone m' occurs'] at equal
  exact (TypeExpr.marker.inj equal).symm

end Unifier

/-! ## Capabilities -/

/-- A type that has a capability has every one of which that is an instance. -/
theorem Catalog.hasCapability_of_accepts {catalog : Catalog} {type capability wider : TypeExpr}
    (has : catalog.hasCapability .structural type capability)
    (fits : Unifier.structural.accepts capability wider) :
    catalog.hasCapability .structural type wider := by
  simp only [hasCapability, Bool.or_eq_true, List.any_eq_true] at has ⊢
  rcases has with self | ⟨declared, mem, implemented⟩
  · exact .inl (Unifier.structural_accepts_trans self fits)
  · exact .inr ⟨declared, mem, Unifier.structural_accepts_trans implemented fits⟩

/-- To fit is a preorder: every type fits itself, and what fits a type that fits another one fits
that. Two types fit each other just when they differ by a renaming of markers that is one to one.
And the capabilities of a type are closed under it. -/
theorem Unifier.structural_accepts_preorder :
    (∀ a, structural.accepts a a) ∧
    (∀ a b c, structural.accepts a b → structural.accepts b c → structural.accepts a c) ∧
    (∀ a b, structural.accepts a b ∧ structural.accepts b a ↔ a.IsRenamingOf b) ∧
    ∀ (catalog : Catalog) (type capability wider : TypeExpr),
      catalog.hasCapability .structural type capability →
        structural.accepts capability wider →
          catalog.hasCapability .structural type wider := by
  refine ⟨structural_accepts_refl, ?_, ?_, ?_⟩
  · intro a b c first second
    exact structural_accepts_trans first second
  · intro a b
    exact ⟨fun ⟨first, second⟩ => isRenamingOf_of_accepts first second, accepts_of_isRenamingOf⟩
  · intro catalog type capability wider has fits
    exact Catalog.hasCapability_of_accepts has fits

end Wiring
