import Wiring.Proofs.Substitution
import Wiring.Unifier

/-!
# Unification

What fitting a declared type to a requested one finds. A declared type is walked part by part: a
marker is bound to what stands in its place, and any other type fits when the heads agree and the
parts fit one after the other. So a table is found exactly when some extension of the table at the
start makes the declared type the requested one; it is then the only such extension that binds just
the declared markers besides.
-/

namespace Wiring.Unifier

variable {requested declared : TypeExpr} {s s₀ s₁ : Substitution}

/-! ## Parts -/

theorem bindMarkers_marker (requested : TypeExpr) (marker : String) (s : Substitution) :
    bindMarkers requested (.marker marker) s = s.bind? marker requested := by
  rw [bindMarkers]

theorem length_of_bindMarkersAll {as bs : List TypeExpr} (h : bindMarkersAll as bs s₀ = some s) :
    as.length = bs.length := by
  induction as generalizing bs s₀ with
  | nil =>
    cases bs with
    | nil => rfl
    | cons => nomatch h
  | cons a as ih =>
    cases bs with
    | nil => nomatch h
    | cons b bs =>
      simp only [bindMarkersAll] at h
      split at h
      · rw [List.length_cons, List.length_cons, ih h]
      · nomatch h

theorem bindMarkersAll_of_length_ne {as bs : List TypeExpr} (h : as.length ≠ bs.length) :
    bindMarkersAll as bs s = none :=
  Option.eq_none_iff_forall_ne_some.2 fun _ found => h (length_of_bindMarkersAll found)

theorem bindMarkersAll_singleton (a b : TypeExpr) :
    bindMarkersAll [a] [b] s = bindMarkers a b s := by
  rw [bindMarkersAll]
  cases bindMarkers a b s <;> rfl

/-- A declared type that is not a marker fits by its head and its parts. -/
theorem bindMarkers_headed (headed : declared.head? ≠ none) :
    bindMarkers requested declared s =
      if requested.head? = declared.head? then
        bindMarkersAll requested.children declared.children s
      else none := by
  have lists (as bs : List TypeExpr) :
      (if as.length = bs.length then bindMarkersAll as bs s else none) =
        bindMarkersAll as bs s := by
    split
    · rfl
    · next differ => exact (bindMarkersAll_of_length_ne differ).symm
  cases declared with
  | marker name => exact absurd rfl headed
  | named q bs =>
    cases requested with
    | named p as =>
      simp only [bindMarkers, TypeExpr.head?, TypeExpr.children, Option.some.injEq,
        TypeExpr.Head.named.injEq, ite_and, lists]
    | _ => rfl
  | tuple bs =>
    cases requested with
    | tuple as =>
      simp only [bindMarkers, TypeExpr.head?, TypeExpr.children, Option.some.injEq,
        TypeExpr.Head.tuple.injEq, lists]
    | _ => rfl
  | func b | lazy b | owned b =>
    cases requested <;>
      simp [bindMarkers, TypeExpr.head?, TypeExpr.children, bindMarkersAll_singleton]
  | collection k b =>
    cases requested <;>
      simp [bindMarkers, TypeExpr.head?, TypeExpr.children, bindMarkersAll_singleton]

/-! ## What is found fits -/

/-- A declared type fits a requested one by a table that extends another one. -/
structure FitsBy (requested declared : TypeExpr) (s₀ s : Substitution) : Prop where
  extends_by : s.ExtendsBy s₀ declared.markerOccurrences
  applied : s.apply declared = requested

theorem fitsBy_of_bindMarkersAll {as bs : List TypeExpr}
    (each : ∀ b ∈ bs, ∀ a s₀ s, bindMarkers a b s₀ = some s → FitsBy a b s₀ s)
    (h : bindMarkersAll as bs s₀ = some s) :
    s.ExtendsBy s₀ (bs.flatMap TypeExpr.markerOccurrences) ∧ bs.map s.apply = as := by
  induction bs generalizing as s₀ with
  | nil =>
    cases as with
    | nil =>
      obtain rfl := Option.some.inj h
      exact ⟨.refl _, rfl⟩
    | cons => nomatch h
  | cons b bs ih =>
    cases as with
    | nil => nomatch h
    | cons a as =>
      rw [bindMarkersAll] at h
      split at h
      · next s₁ first =>
        have fits := each b List.mem_cons_self a s₀ s₁ first
        obtain ⟨rest, applied⟩ := ih (fun b mem => each b (List.mem_cons_of_mem _ mem)) h
        refine ⟨fits.extends_by.trans rest, ?_⟩
        -- The first part is settled once its markers are bound.
        have kept : s.apply b = s₁.apply b :=
          rest.keeps.apply_eq fun m mem => (fits.extends_by.binds m).2 (.inr mem)
        rw [List.map_cons, kept, fits.applied, applied]
      · nomatch h

theorem fitsBy_of_bindMarkers (h : bindMarkers requested declared s₀ = some s) :
    FitsBy requested declared s₀ s := by
  induction declared using TypeExpr.parts_induction generalizing requested s₀ s with
  | step declared ih =>
    obtain ⟨marker, rfl⟩ | headed := declared.eq_marker_or_headed
    · rw [bindMarkers_marker] at h
      obtain ⟨grown, known⟩ := Substitution.extendsBy_of_bind? h
      exact ⟨grown, by rw [Substitution.apply, known, Option.getD_some]⟩
    · rw [bindMarkers_headed headed] at h
      obtain ⟨head, found⟩ := Option.ite_none_right_eq_some.1 h
      obtain ⟨grown, applied⟩ := fitsBy_of_bindMarkersAll (fun b mem _ _ _ => ih b mem) found
      rw [← TypeExpr.markerOccurrences_of_headed headed] at grown
      exact ⟨grown, (Substitution.apply_eq_iff headed).2 ⟨head, applied⟩⟩

/-- What is found makes a declared type the requested one. -/
def Sound (u : Unifier) : Prop :=
  ∀ requested declared s, u.unify requested declared = some s → s.apply declared = requested

theorem structural_sound : structural.Sound :=
  fun _ _ _ found => (fitsBy_of_bindMarkers found).applied

/-- What is found for a type without markers has such a type for each declared marker. -/
theorem closes_of_unify (closed : requested.isOpen = false)
    (h : structural.unify requested declared = some s) : s.Closes declared := by
  have fits := fitsBy_of_bindMarkers h
  refine Substitution.closes_of_apply (fun m mem => (fits.extends_by.binds m).2 (.inr mem)) ?_
  rw [fits.applied, closed]

/-! ## What fits is found -/

/-- A table gives each marker that another one binds the type it has there, if only by leaving the
marker as it is. -/
def Serves (s s₀ : Substitution) : Prop :=
  ∀ m t, s₀.get? m = some t → s.apply (.marker m) = t

theorem serves_of_extends (h : s.Extends s₀) : Serves s s₀ := fun m t known => by
  rw [Substitution.apply, h m t known, Option.getD_some]

theorem exists_bind? {marker : String} (serves : Serves s s₀)
    (applied : s.apply (.marker marker) = requested) :
    ∃ s', s₀.bind? marker requested = some s' ∧ Serves s s' := by
  unfold Substitution.bind?
  split
  · next bound known =>
    have same : bound = requested := (serves marker bound known).symm.trans applied
    exact ⟨s₀, if_pos same, serves⟩
  · refine ⟨_, rfl, fun m t known => ?_⟩
    rw [Substitution.get?_insert] at known
    split at known
    · next same =>
      obtain rfl := Option.some.inj known
      rw [same, applied]
    · exact serves m t known

theorem exists_bindMarkersAll {as bs : List TypeExpr}
    (each : ∀ b ∈ bs, ∀ a s₀, Serves s s₀ → s.apply b = a →
      ∃ s', bindMarkers a b s₀ = some s' ∧ Serves s s')
    (serves : Serves s s₀) (applied : bs.map s.apply = as) :
    ∃ s', bindMarkersAll as bs s₀ = some s' ∧ Serves s s' := by
  induction bs generalizing as s₀ with
  | nil =>
    obtain rfl := applied
    exact ⟨s₀, rfl, serves⟩
  | cons b bs ih =>
    obtain rfl := applied
    obtain ⟨s₁, first, serves⟩ := each b List.mem_cons_self _ s₀ serves rfl
    obtain ⟨s', rest, serves⟩ := ih (fun b mem => each b (List.mem_cons_of_mem _ mem)) serves rfl
    refine ⟨s', ?_, serves⟩
    rw [List.map_cons, bindMarkersAll, first]
    exact rest

theorem exists_bindMarkers (serves : Serves s s₀) (applied : s.apply declared = requested) :
    ∃ s', bindMarkers requested declared s₀ = some s' ∧ Serves s s' := by
  induction declared using TypeExpr.parts_induction generalizing requested s₀ with
  | step declared ih =>
    obtain ⟨marker, rfl⟩ | headed := declared.eq_marker_or_headed
    · rw [bindMarkers_marker]
      exact exists_bind? serves applied
    · obtain ⟨head, parts⟩ := (Substitution.apply_eq_iff headed).1 applied
      rw [bindMarkers_headed headed, if_pos head]
      exact exists_bindMarkersAll (fun b mem _ _ => ih b mem) serves parts

/-- Of the tables by which a declared type fits, each gives the markers the same types. -/
theorem FitsBy.eq_of_serves {s' : Substitution} (h : FitsBy requested declared s₀ s)
    (h' : FitsBy requested declared s₀ s') (serves : Serves s s') : s = s' := by
  refine Substitution.ext_get? fun m => ?_
  have bound : s.Binds m ↔ s'.Binds m := (h.extends_by.binds m).trans (h'.extends_by.binds m).symm
  cases known : s'.get? m with
  | none =>
    refine Option.eq_none_iff_forall_ne_some.2 fun t found => ?_
    obtain ⟨t', known'⟩ := bound.1 ⟨t, found⟩
    nomatch known.symm.trans known'
  | some t =>
    obtain ⟨t', found⟩ := bound.2 ⟨t, known⟩
    have same := serves m t known
    rw [Substitution.apply, found, Option.getD_some] at same
    rw [found, same]

/-- A table is found exactly when it extends the one at the start by the declared markers and makes
the declared type the requested one; none is found exactly when no extension makes it so. -/
theorem structural_unifyWith_iff (requested declared : TypeExpr) (s₀ : Substitution) :
    (∀ s, structural.unifyWith requested declared s₀ = some s ↔
      s.Extends s₀ ∧ (∀ m, s.Binds m ↔ s₀.Binds m ∨ m ∈ declared.markerOccurrences) ∧
        s.apply declared = requested) ∧
    (structural.unifyWith requested declared s₀ = none ↔
      ¬ ∃ s : Substitution, s.Extends s₀ ∧ s.apply declared = requested) := by
  refine ⟨fun s => ⟨fun found => ?_, fun ⟨keeps, binds, applied⟩ => ?_⟩, ?_⟩
  · have fits := fitsBy_of_bindMarkers found
    exact ⟨fits.extends_by.keeps, fits.extends_by.binds, fits.applied⟩
  · have fits : FitsBy requested declared s₀ s := ⟨⟨keeps, binds⟩, applied⟩
    obtain ⟨s', found, serves⟩ := exists_bindMarkers (serves_of_extends keeps) applied
    rw [fits.eq_of_serves (fitsBy_of_bindMarkers found) serves]
    exact found
  · constructor
    · rintro none ⟨s, keeps, applied⟩
      obtain ⟨s', found, -⟩ := exists_bindMarkers (serves_of_extends keeps) applied
      nomatch none.symm.trans found
    · refine fun impossible => Option.eq_none_iff_forall_ne_some.2 fun s found => impossible ?_
      have fits := fitsBy_of_bindMarkers found
      exact ⟨s, fits.extends_by.keeps, fits.applied⟩

end Wiring.Unifier
