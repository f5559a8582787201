import Mathlib
import Wiring.Proofs.Registry.Ranking

/-!
# Registry — Exact tags

When a look-up finds a value as it was declared. Such a binding is overridden by later ones with its
contract and value, which fit as exactly; but also by one that is tagged with its implementation
type, if that type is the value, and this one never fits exactly.
-/

namespace Wiring

namespace Binding

/-- The binding is tagged with its implementation type, and the value is that type. -/
def MarksType (b : Binding) (value : TagValue) : Prop :=
  b.tag = some .type ∧ ∃ type, b.builtType? = some type ∧ value = .type type

/-- The binding overrides, and is overridden, under the value. -/
def StandsFor (b : Binding) (value : TagValue) : Prop :=
  b.tag = some (.value value) ∨ b.MarksType value

theorem not_marksType {b : Binding} {value value' : TagValue}
    (tag : b.tag = some (.value value)) : ¬ b.MarksType value' :=
  fun ⟨marked, _⟩ => nomatch tag.symm.trans marked

end Binding

namespace Registry

variable {r : Registry} {q : Query} {options : Options} {value : TagValue}

/-! ## Values as keys -/

theorem overrideTag_eq_value_iff {key : TagKey} {implementation : Implementation} :
    overrideTag key implementation = .value value ↔ key = .value value ∨
      key = .type ∧ ∃ type, implementation.type? = some type ∧ value = .type type := by
  cases key with
  | type => cases implementation <;> simp [overrideTag, Implementation.type?, eq_comm]
  | untagged | value | any | on | unique => simp [overrideTag]

theorem ofTag?_eq_value_iff {tag : Option Tag} :
    TagKey.ofTag? tag = .value value ↔ tag = some (.value value) := by
  rcases tag with _ | (_ | _ | _ | _ | _) <;> simp [TagKey.ofTag?]

theorem ofTag?_eq_type_iff {tag : Option Tag} :
    TagKey.ofTag? tag = .type ↔ tag = some .type := by
  rcases tag with _ | (_ | _ | _ | _ | _) <;> simp [TagKey.ofTag?]

/-- A binding has a value as effective key when it stands for it. -/
theorem Registered.effectiveKey_value_iff (h : Registered r) {i : Nat} {e : Entry}
    (declared : r.declared? i = some e) :
    e.effectiveKey.2 = .value value ↔ e.binding.StandsFor value := by
  show overrideTag e.key e.binding.implementation = .value value ↔ _
  rw [overrideTag_eq_value_iff]
  by_cases unique : e.binding.tag = some .unique
  · have isUnique := (h.isUnique_iff declared).2 unique
    cases key : e.key with
    | unique n => simp [Binding.StandsFor, Binding.MarksType, unique]
    | untagged | value | any | type | on => simp [key, TagKey.isUnique] at isUnique
  · rw [h.key_eq declared unique, ofTag?_eq_value_iff, ofTag?_eq_type_iff]
    rfl

theorem Registered.effectiveKey?_value_iff (h : Registered r) {i : Nat} {b : Binding}
    {contract : TypeExpr} (binding : r.binding? i = some b) :
    r.effectiveKey? i = some (contract, .value value) ↔
      b.contract = contract ∧ b.StandsFor value := by
  rw [binding?_eq] at binding
  obtain ⟨e, declared, rfl⟩ := Option.map_eq_some_iff.1 binding
  rw [effectiveKey?_eq, declared, Option.map_some, Option.some.injEq, Prod.ext_iff,
    h.effectiveKey_value_iff declared]
  rfl

/-! ## Exact fits -/

/-- An exact answer is as good as any, so that the look-up finds one if there is one. -/
theorem Registered.lookup_exact_iff_answers (h : Registered r)
    (heads : r.unifier.RespectsHeads) :
    (∃ m, r.lookup q options = some m ∧ m.kind = .exact) ↔
      ∃ m, r.Answers q options m ∧ m.kind = .exact := by
  constructor
  · rintro ⟨m, found, exact⟩
    exact ⟨m, ((h.lookup_eq_some_iff heads).1 found).1, exact⟩
  · rintro ⟨m, answers, exact⟩
    cases found : r.lookup q options with
    | none => exact absurd answers ((h.lookup_eq_none_iff heads).1 found m)
    | some best =>
      refine ⟨best, rfl, ?_⟩
      rcases ((h.lookup_eq_some_iff heads).1 found).2 m answers with closer | ⟨same, -⟩
      · rw [exact] at closer
        exact absurd closer (Nat.not_lt_zero _)
      · exact same.trans exact

/-- A look-up for a value finds it as it was declared exactly when there is a binding with this
value whose contract unifies and which no later binding of its contract overrides by being tagged
with its implementation type. -/
theorem lookup_exact_iff (catalog : Catalog) (bindings : List Binding) (contract : TypeExpr)
    (value : TagValue) (path : Option String) (options : Options) :
    let r := ((empty catalog .structural).registerAll bindings).1
    (∃ m, r.lookup ⟨contract, some value, path⟩ options = some m ∧ m.kind = .exact) ↔
      ∃ (i : Nat) (b : Binding), bindings[i]? = some b ∧ b.tag = some (.value value) ∧
        (Unifier.structural.unify contract b.contract).isSome ∧
        ∀ (j : Nat) (b' : Binding), i < j → bindings[j]? = some b' → b'.contract = b.contract →
          ¬ b'.MarksType value := by
  intro r
  have registered : Registered r := .all (.empty ..) bindings
  have unifier : r.unifier = .structural := unifier_registerAll ..
  have heads : r.unifier.RespectsHeads := unifier ▸ Unifier.structural_respectsHeads
  have binding (i : Nat) : r.binding? i = bindings[i]? := binding?_history catalog _ bindings i
  rw [registered.lookup_exact_iff_answers heads]
  constructor
  · rintro ⟨⟨i, σ, kind, pattern⟩, ⟨b, at_i, current, unified, fits⟩, rfl⟩
    cases fits with
    | exact tag asked =>
      cases asked
      refine ⟨i, b, binding i ▸ at_i, tag, ?_, fun j b' lt at_j same marks => ?_⟩
      · rw [← unifier, unified]
        rfl
      · have known := (registered.effectiveKey?_value_iff at_i).2 ⟨rfl, .inl tag⟩
        have later := (registered.effectiveKey?_value_iff ((binding j).trans at_j)).2
          ⟨same, .inr marks⟩
        exact Bool.eq_false_iff.1 current ((registered.isOverridden_iff known).2 ⟨j, lt, later⟩)
  · rintro ⟨i, b, at_i, tag, unified, unmarked⟩
    have known := (registered.effectiveKey?_value_iff ((binding i).trans at_i)).2 ⟨rfl, .inl tag⟩
    -- The latest binding with the key is left, and it has the value itself.
    obtain ⟨latest, isKey, only⟩ := registered.exists_latest known
    obtain ⟨e, entry, -⟩ := Option.map_eq_some_iff.1 isKey
    have at_latest : r.binding? latest = some e.binding := by
      rw [binding?, entry, Option.map_some]
    obtain ⟨same, stands⟩ := (registered.effectiveKey?_value_iff at_latest).1 isKey
    have declared : e.binding.tag = some (.value value) := by
      refine stands.resolve_right fun marks => ?_
      rcases Nat.lt_or_eq_of_le (only i known).1 with lt | rfl
      · exact unmarked latest e.binding lt ((binding latest).symm.trans at_latest) same marks
      · cases at_i.symm.trans ((binding _).symm.trans at_latest)
        exact Binding.not_marksType tag marks
    obtain ⟨σ, unified⟩ := Option.isSome_iff_exists.1 unified
    have current : r.isOverridden latest = false := (only latest isKey).2.2 rfl
    refine ⟨⟨latest, σ, .exact, none⟩, ?_, rfl⟩
    exact ⟨e.binding, at_latest, current, by rw [unifier, same, unified], .exact declared rfl⟩

/-! ### Repositories

The implementation type of an open binding holds a marker. The binding overrides what is tagged with
this type, but a look-up compares the requested type with the one that the marker stands for.
-/

def repository (tag : Tag) (path : String) : Binding :=
  { Binding.ofType (.named "IRepo" [.marker "TT"]) (.named path [.marker "TT"]) with
    tag := some tag }

def repositoryTag : TagValue := .type (.named "Repo" [.marker "TT"])

def repositories : List Binding :=
  [repository (.value repositoryTag) "Cache", repository .type "Repo"]

def userRepository : TypeExpr := .named "IRepo" [.named "User" []]

theorem repositories_facts :
    (Unifier.structural.unify userRepository (.named "IRepo" [.marker "TT"])).isSome ∧
      ((empty .empty .structural).registerAll repositories).1.lookup
        ⟨userRepository, some repositoryTag, none⟩ .standard = none := by cbv

theorem repositories_lose_exact : ¬ ∀ (catalog : Catalog) (bindings : List Binding)
    (contract : TypeExpr) (value : TagValue) (path : Option String) (options : Options),
    let r := ((empty catalog .structural).registerAll bindings).1
    (∃ b ∈ bindings, b.tag = some (.value value) ∧
      (Unifier.structural.unify contract b.contract).isSome) →
    ∃ m, r.lookup ⟨contract, some value, path⟩ options = some m ∧ m.kind = .exact := by
  intro kept
  obtain ⟨unified, lost⟩ := repositories_facts
  obtain ⟨m, found, -⟩ := kept .empty repositories userRepository repositoryTag none .standard
    ⟨repository (.value repositoryTag) "Cache", List.mem_cons_self, rfl, unified⟩
  nomatch lost.symm.trans found

end Registry

end Wiring
