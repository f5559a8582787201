import Mathlib.Data.List.Basic
import Wiring.Proofs.TypeExpr.Induction
import Wiring.Substitution

/-!
# Substitution

A table is known by what it answers: tables that answer the same for every marker are equal. A
binding adds one marker or changes nothing, so a run of bindings extends the table it starts from by
the markers it is asked to bind. Putting types in the place of markers leaves the rest of a type.
-/

namespace Wiring

theorem lookup_cons_eq_ite {κ α : Type} [DecidableEq κ] (key key' : κ) (a : α)
    (entries : List (κ × α)) :
    ((key', a) :: entries).lookup key = if key = key' then some a else entries.lookup key := by
  rw [List.lookup_cons]
  by_cases h : key = key'
  · rw [if_pos h, h, beq_self_eq_true]
  · rw [if_neg h, beq_eq_false_iff_ne.2 h]

namespace Substitution

variable {s s' s₀ s₁ : Substitution} {marker m : String} {type t : TypeExpr}

/-! ## Answers -/

theorem lookup_insertEntry (marker m : String) (type : TypeExpr)
    (entries : List (String × TypeExpr)) :
    (insertEntry marker type entries).lookup m =
      if m = marker then some type else entries.lookup m := by
  induction entries with
  | nil => rw [insertEntry, lookup_cons_eq_ite]
  | cons entry more ih =>
    obtain ⟨name, bound⟩ := entry
    rw [insertEntry]
    split
    · rw [lookup_cons_eq_ite]
    · split
      · next same =>
        obtain rfl : marker = name := same
        rw [lookup_cons_eq_ite, lookup_cons_eq_ite]
        split <;> rfl
      · next differs =>
        rw [lookup_cons_eq_ite, lookup_cons_eq_ite, ih]
        split
        · next same =>
          obtain rfl : m = name := same
          rw [if_neg (Ne.symm differs)]
        · rfl

theorem get?_insert (s : Substitution) (marker m : String) (type : TypeExpr) :
    (s.insert marker type).get? m = if m = marker then some type else s.get? m :=
  lookup_insertEntry marker m type s.entries

theorem mem_entries_iff : (m, t) ∈ s.entries ↔ s.get? m = some t := by
  rw [get?, List.lookup_eq_some_iff]
  constructor
  · intro mem
    obtain ⟨before, after, split⟩ := List.append_of_mem mem
    refine ⟨before, after, split, fun e he => ?_⟩
    -- The names before an entry are smaller than its own.
    have sorted := s.ascending
    rw [split] at sorted
    have smaller : e.1 < m := (List.pairwise_append.1 sorted).2.2 e he _ List.mem_cons_self
    exact bne_iff_ne.2 (String.ne_of_lt smaller).symm
  · rintro ⟨before, after, split, -⟩
    rw [split]
    exact List.mem_append_right _ List.mem_cons_self

/-- Tables with the same answers are equal. -/
theorem ext_get? (h : ∀ m, s.get? m = s'.get? m) : s = s' := by
  have members (e : String × TypeExpr) : e ∈ s.entries ↔ e ∈ s'.entries := by
    rw [mem_entries_iff, mem_entries_iff, h]
  have nodup (s : Substitution) : s.entries.Nodup :=
    s.ascending.imp fun {a b} (lt : a.1 < b.1) same => String.ne_of_lt lt (congrArg _ same)
  have perm := (List.perm_ext_iff_of_nodup (nodup s) (nodup s')).2 members
  have same : s.entries = s'.entries :=
    perm.eq_of_pairwise (fun _ _ _ _ lt gt => absurd gt (String.lt_asymm lt))
      s.ascending s'.ascending
  cases s
  cases s'
  congr

/-! ## Extension -/

/-- A marker has a type. -/
def Binds (s : Substitution) (m : String) : Prop := ∃ t, s.get? m = some t

/-- A table keeps all the types of another one. -/
def Extends (s s₀ : Substitution) : Prop := ∀ m t, s₀.get? m = some t → s.get? m = some t

/-- A table extends another one, and what it binds besides are certain markers. -/
structure ExtendsBy (s s₀ : Substitution) (markers : List String) : Prop where
  keeps : s.Extends s₀
  binds : ∀ m, s.Binds m ↔ s₀.Binds m ∨ m ∈ markers

theorem ExtendsBy.refl (s : Substitution) : s.ExtendsBy s [] :=
  ⟨fun _ _ h => h, fun m => by simp⟩

theorem ExtendsBy.trans {markers markers' : List String} (first : s₁.ExtendsBy s₀ markers)
    (second : s.ExtendsBy s₁ markers') : s.ExtendsBy s₀ (markers ++ markers') where
  keeps m t h := second.keeps m t (first.keeps m t h)
  binds m := by rw [second.binds, first.binds, List.mem_append, or_assoc]

theorem extendsBy_of_bind? (h : s₀.bind? marker type = some s) :
    s.ExtendsBy s₀ [marker] ∧ s.get? marker = some type := by
  unfold bind? at h
  split at h
  · next bound known =>
    obtain ⟨rfl, same⟩ := Option.ite_none_right_eq_some.1 h
    obtain rfl := Option.some.inj same
    refine ⟨⟨fun _ _ h => h, fun m => ?_⟩, known⟩
    refine ⟨.inl, fun h => h.elim id fun mem => ?_⟩
    obtain rfl := List.mem_singleton.1 mem
    exact ⟨bound, known⟩
  · next fresh =>
    obtain rfl := Option.some.inj h
    refine ⟨⟨fun m t known => ?_, fun m => ?_⟩, by rw [get?_insert, if_pos rfl]⟩
    · have other : m ≠ marker := by
        rintro rfl
        nomatch known.symm.trans fresh
      rw [get?_insert, if_neg other, known]
    · rw [Binds, get?_insert, List.mem_singleton]
      split
      · next same => exact iff_of_true ⟨type, rfl⟩ (.inr same)
      · next other => exact (or_iff_left other).symm

/-! ## Application -/

theorem head?_apply (headed : t.head? ≠ none) : (s.apply t).head? = t.head? := by
  cases t with
  | marker name => exact absurd rfl headed
  | _ => simp [apply, TypeExpr.head?]

theorem children_apply (headed : t.head? ≠ none) :
    (s.apply t).children = t.children.map s.apply := by
  cases t with
  | marker name => exact absurd rfl headed
  | _ => simp [apply, TypeExpr.children]

/-- A type is another one with its markers replaced when their heads and their parts agree. -/
theorem apply_eq_iff (headed : t.head? ≠ none) :
    s.apply t = type ↔ type.head? = t.head? ∧ t.children.map s.apply = type.children := by
  constructor
  · rintro rfl
    exact ⟨head?_apply headed, (children_apply headed).symm⟩
  · rintro ⟨head, parts⟩
    exact TypeExpr.eq_of_head_of_children (head ▸ headed) ((head?_apply headed).trans head.symm)
      ((children_apply headed).trans parts)

/-- Only the markers of a type matter to it. -/
theorem apply_congr (h : ∀ m ∈ t.markerOccurrences, s.get? m = s'.get? m) :
    s.apply t = s'.apply t := by
  induction t using TypeExpr.parts_induction with
  | step t ih =>
    obtain ⟨name, rfl⟩ | headed := t.eq_marker_or_headed
    · rw [apply, apply, h name List.mem_cons_self]
    · rw [TypeExpr.markerOccurrences_of_headed headed] at h
      refine (apply_eq_iff headed).2 ⟨head?_apply headed, ?_⟩
      rw [children_apply headed]
      refine List.map_congr_left fun part mem => ih part mem fun m occurs => ?_
      exact h m (List.mem_flatMap.2 ⟨part, mem, occurs⟩)

/-- A type of whose markers none is bound stays as it is. -/
theorem apply_of_unbound (unbound : ∀ m ∈ t.markerOccurrences, s.get? m = none) :
    s.apply t = t := by
  induction t using TypeExpr.parts_induction with
  | step t ih =>
    obtain ⟨name, rfl⟩ | headed := t.eq_marker_or_headed
    · rw [apply, unbound name List.mem_cons_self]
      rfl
    · rw [TypeExpr.markerOccurrences_of_headed headed] at unbound
      have same : ∀ part ∈ t.children, s.apply part = part := fun part mem =>
        ih part mem fun m occurs => unbound m (List.mem_flatMap.2 ⟨part, mem, occurs⟩)
      exact (apply_eq_iff headed).2 ⟨rfl, (List.map_congr_left same).trans (List.map_id _)⟩

/-- A type without markers stays as it is. -/
theorem apply_of_closed (closed : t.isOpen = false) : s.apply t = t :=
  apply_of_unbound fun m occurs =>
    absurd (TypeExpr.isOpen_iff.2 ⟨m, occurs⟩) (Bool.eq_false_iff.1 closed)

theorem apply_empty (t : TypeExpr) : (∅ : Substitution).apply t = t :=
  apply_of_unbound fun _ _ => rfl

/-- What a table makes of a type whose markers it binds, all its extensions make of it. -/
theorem Extends.apply_eq (keeps : s.Extends s₀) (bound : ∀ m ∈ t.markerOccurrences, s₀.Binds m) :
    s.apply t = s₀.apply t := by
  refine apply_congr fun m mem => ?_
  obtain ⟨type, known⟩ := bound m mem
  rw [known, keeps m type known]

/-! ## Closed types -/

/-- A table gives every marker of a type a type without markers. -/
def Closes (s : Substitution) (t : TypeExpr) : Prop :=
  ∀ m ∈ t.markerOccurrences, ∃ type, s.get? m = some type ∧ type.isOpen = false

theorem closes_of_closed (closed : t.isOpen = false) : s.Closes t :=
  fun m occurs => absurd (TypeExpr.isOpen_iff.2 ⟨m, occurs⟩) (Bool.eq_false_iff.1 closed)

theorem Closes.part (h : s.Closes t) (headed : t.head? ≠ none) {part : TypeExpr}
    (mem : part ∈ t.children) : s.Closes part := by
  intro m occurs
  refine h m ?_
  rw [TypeExpr.markerOccurrences_of_headed headed]
  exact List.mem_flatMap.2 ⟨part, mem, occurs⟩

/-- What a table makes of a type whose markers it closes has no markers. -/
theorem Closes.apply (h : s.Closes t) : (s.apply t).isOpen = false := by
  induction t using TypeExpr.parts_induction with
  | step t ih =>
    obtain ⟨name, rfl⟩ | headed := t.eq_marker_or_headed
    · obtain ⟨type, known, closed⟩ := h name List.mem_cons_self
      rw [Substitution.apply, known, Option.getD_some, closed]
    · rw [TypeExpr.isOpen_eq_false_of_headed ((head?_apply headed).trans_ne headed),
        children_apply headed]
      exact List.forall_mem_map.2 fun part mem => ih part mem (h.part headed mem)

/-- A table that binds the markers of a type closes them when what it makes of the type has none. -/
theorem closes_of_apply (binds : ∀ m ∈ t.markerOccurrences, s.Binds m)
    (closed : (s.apply t).isOpen = false) : s.Closes t := by
  induction t using TypeExpr.parts_induction with
  | step t ih =>
    obtain ⟨name, rfl⟩ | headed := t.eq_marker_or_headed
    · intro m occurs
      obtain rfl := List.mem_singleton.1 occurs
      obtain ⟨type, known⟩ := binds m occurs
      rw [Substitution.apply, known, Option.getD_some] at closed
      exact ⟨type, known, closed⟩
    · rw [TypeExpr.isOpen_eq_false_of_headed ((head?_apply headed).trans_ne headed),
        children_apply headed] at closed
      rw [TypeExpr.markerOccurrences_of_headed headed] at binds
      intro m occurs
      rw [TypeExpr.markerOccurrences_of_headed headed] at occurs
      obtain ⟨part, mem, occurs⟩ := List.mem_flatMap.1 occurs
      refine ih part mem (fun m occurs => ?_) (List.forall_mem_map.1 closed part mem) m occurs
      exact binds m (List.mem_flatMap.2 ⟨part, mem, occurs⟩)

end Substitution

end Wiring
