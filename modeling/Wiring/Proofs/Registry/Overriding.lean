import Mathlib.Data.Nat.Find
import Wiring.Proofs.Registry.Index

/-!
# Registry — Overriding

Which bindings are overridden after any sequence of registrations. Registering only appends an entry
and flags the last one with the same effective key; so a binding is overridden exactly when a later
one has its effective key, and of each key the latest binding is the one that is left.
-/

namespace Wiring

namespace Entry

/-- The entry as it was registered. -/
def declared (e : Entry) : Entry := { e with isOverridden := false }

@[simp] theorem declared_binding (e : Entry) : e.declared.binding = e.binding := rfl

@[simp] theorem declared_key (e : Entry) : e.declared.key = e.key := rfl

/-- A unique key stays unique, and no other becomes it. -/
theorem effectiveKey_unique_iff {e : Entry} {n : Nat} :
    e.effectiveKey.2 = .unique n ↔ e.key = .unique n := by
  show overrideTag e.key e.binding.implementation = .unique n ↔ _
  unfold overrideTag
  split
  · next key _ => simp [key]
  · rfl

theorem isUnique_effectiveKey (e : Entry) : e.effectiveKey.2.isUnique = e.key.isUnique := by
  show (overrideTag e.key e.binding.implementation).isUnique = _
  unfold overrideTag
  split
  · next key _ =>
    rw [key]
    rfl
  · rfl

end Entry

namespace Registry

variable {r : Registry} {b : Binding} {i j : Nat}

/-- The effective key of a binding. -/
def effectiveKey? (r : Registry) (id : BindingId) : Option (TypeExpr × TagKey) :=
  (r.entry? id).map Entry.effectiveKey

/-! ## One registration -/

/-- The entries once one of them is overridden. -/
def overriding (entries : List Entry) (previous : Option BindingId) : List Entry :=
  match previous with
  | some i => entries.modify i Entry.override
  | none => entries

theorem entries_register : (r.register b).1.entries =
    overriding r.entries (r.overriddenBy (r.nextEntry b)) ++ [r.nextEntry b] := rfl

@[simp] theorem length_overriding (entries : List Entry) (previous : Option BindingId) :
    (overriding entries previous).length = entries.length := by
  cases previous with
  | none => rfl
  | some k => exact List.length_modify ..

theorem getElem?_overriding (entries : List Entry) (previous : Option BindingId) (i : Nat) :
    (overriding entries previous)[i]? =
      entries[i]?.map fun e => if previous = some i then e.override else e := by
  cases previous with
  | none => simp [overriding]
  | some k =>
    rw [overriding, List.getElem?_modify]
    simp

@[simp] theorem size_empty (catalog : Catalog) (unifier : Unifier) :
    (empty catalog unifier).size = 0 := rfl

@[simp] theorem size_register : (r.register b).1.size = r.size + 1 := by
  simp [size, entries_register]

/-- Registering appends an entry and flags the one that it overrides. -/
theorem entry?_register : entry? (r.register b).1 i =
    if i = r.size then some (r.nextEntry b)
    else (r.entry? i).map fun e =>
      if r.overriddenBy (r.nextEntry b) = some i then e.override else e := by
  unfold entry?
  rw [entries_register, ← getElem?_overriding, List.getElem?_append, length_overriding, size]
  split
  · next lt => rw [if_neg (Nat.ne_of_lt lt)]
  · next ge =>
    split
    · next same => simp [same]
    · rw [List.getElem?_eq_none (by simp; omega), List.getElem?_eq_none (by simp; omega)]

/-! ## What was declared -/

/-- The entry of a binding as it was registered. -/
def declared? (r : Registry) (id : BindingId) : Option Entry := (r.entry? id).map Entry.declared

theorem declared?_of_entry {e : Entry} (entry : r.entry? i = some e) :
    r.declared? i = some e.declared := by
  rw [declared?, entry, Option.map_some]

theorem effectiveKey?_eq : r.effectiveKey? i = (r.declared? i).map Entry.effectiveKey := by
  rw [declared?, Option.map_map]
  rfl

theorem binding?_eq : r.binding? i = (r.declared? i).map (·.binding) := by
  rw [declared?, Option.map_map]
  rfl

theorem tagKey_eq {e : Entry} (h : r.declared? i = some e) : r.tagKey i = e.key := by
  obtain ⟨e', entry, rfl⟩ := Option.map_eq_some_iff.1 h
  rw [tagKey, entry, Entry.declared_key]

theorem lt_of_declared {e : Entry} (h : r.declared? i = some e) : i < r.size := by
  obtain ⟨e', entry, -⟩ := Option.map_eq_some_iff.1 h
  exact (List.getElem?_eq_some_iff.1 entry).1

theorem lt_of_effectiveKey {key : TypeExpr × TagKey} (h : r.effectiveKey? i = some key) :
    i < r.size := by
  rw [effectiveKey?_eq] at h
  obtain ⟨e, declared, -⟩ := Option.map_eq_some_iff.1 h
  exact lt_of_declared declared

theorem declared?_register : (r.register b).1.declared? i =
    if i = r.size then some (r.nextEntry b) else r.declared? i := by
  rw [declared?, entry?_register]
  split
  · rfl
  · rw [Option.map_map, declared?]
    congr 1
    funext e
    rw [Function.comp_apply]
    split <;> rfl

theorem effectiveKey?_register : (r.register b).1.effectiveKey? i =
    if i = r.size then some (r.nextEntry b).effectiveKey else r.effectiveKey? i := by
  rw [effectiveKey?_eq, declared?_register, effectiveKey?_eq]
  split <;> rfl

/-- Later registrations change nothing but what is overridden. -/
theorem declared?_registerAll (bindings : List Binding) (lt : i < r.size) :
    (r.registerAll bindings).1.declared? i = r.declared? i := by
  induction bindings generalizing r with
  | nil => rfl
  | cons b more ih =>
    show ((r.register b).1.registerAll more).1.declared? i = _
    rw [ih (size_register (r := r) ▸ Nat.lt_succ_of_lt lt), declared?_register,
      if_neg (Nat.ne_of_lt lt)]

/-- What holds of every new entry holds of all that was declared. -/
theorem Registered.of_declared {P : Entry → Prop} (next : ∀ r b, P (nextEntry r b))
    (h : Registered r) {e : Entry} (declared : r.declared? i = some e) : P e := by
  induction h with
  | empty => nomatch declared
  | @register r b _ ih =>
    rw [declared?_register] at declared
    split at declared
    · exact Option.some.inj declared ▸ next r b
    · exact ih declared

/-! ## Keys -/

theorem nextKey_of_unique (unique : b.tag = some .unique) :
    r.nextKey b = .unique (r.uniques + 1) := by
  rw [nextKey, unique]

theorem nextKey_of_ne (other : b.tag ≠ some .unique) : r.nextKey b = .ofTag? b.tag := by
  unfold nextKey
  split
  · next unique => exact absurd unique other
  · rfl

/-- The key of a binding is its tag, unless that is unique. -/
theorem Registered.key_eq (h : Registered r) {e : Entry} (declared : r.declared? i = some e)
    (other : e.binding.tag ≠ some .unique) : e.key = .ofTag? e.binding.tag :=
  h.of_declared (P := fun e => e.binding.tag ≠ some .unique → e.key = .ofTag? e.binding.tag)
    (fun _ _ other => nextKey_of_ne other) declared other

theorem ofTag?_isUnique_iff {tag : Option Tag} :
    (TagKey.ofTag? tag).isUnique ↔ tag = some .unique := by
  rcases tag with _ | (_ | _ | _ | _ | _) <;> simp [TagKey.ofTag?, TagKey.isUnique]

theorem nextKey_isUnique_iff : (r.nextKey b).isUnique ↔ b.tag = some .unique := by
  by_cases unique : b.tag = some .unique
  · simp [nextKey_of_unique unique, unique, TagKey.isUnique]
  · rw [nextKey_of_ne unique, ofTag?_isUnique_iff]

theorem Registered.isUnique_iff (h : Registered r) {e : Entry}
    (declared : r.declared? i = some e) : e.key.isUnique ↔ e.binding.tag = some .unique :=
  h.of_declared (P := fun e => e.key.isUnique ↔ e.binding.tag = some .unique)
    (fun _ _ => nextKey_isUnique_iff) declared

theorem uniques_register : (r.register b).1.uniques =
    if (r.nextEntry b).key.isUnique then r.uniques + 1 else r.uniques := rfl

theorem uniques_le_register : r.uniques ≤ (r.register b).1.uniques := by
  rw [uniques_register]
  split <;> omega

/-- Only a new unique key has the next number. -/
theorem nextKey_eq_unique_iff {n : Nat} : r.nextKey b = .unique n ↔
    b.tag = some .unique ∧ n = r.uniques + 1 := by
  by_cases unique : b.tag = some .unique
  · simp [nextKey_of_unique unique, unique, eq_comm]
  · refine iff_of_false (fun same => unique ?_) (fun h => unique h.1)
    exact nextKey_isUnique_iff.1 (by rw [same]; rfl)

/-- The numbers given out so far are at most their count. -/
theorem Registered.unique_le (h : Registered r) {e : Entry} {n : Nat}
    (declared : r.declared? i = some e) (key : e.key = .unique n) : n ≤ r.uniques := by
  induction h with
  | empty => nomatch declared
  | @register r b _ ih =>
    rw [declared?_register] at declared
    split at declared
    · cases declared
      obtain ⟨unique, rfl⟩ := nextKey_eq_unique_iff.1 key
      have isUnique : (r.nextEntry b).key.isUnique := nextKey_isUnique_iff.2 unique
      rw [uniques_register, if_pos isUnique]
    · exact Nat.le_trans (ih declared) uniques_le_register

/-- No two bindings have the same unique key. -/
theorem Registered.unique_inj (h : Registered r) {e e' : Entry} {n : Nat}
    (declared : r.declared? i = some e) (declared' : r.declared? j = some e')
    (key : e.key = .unique n) (key' : e'.key = .unique n) : i = j := by
  induction h with
  | empty => nomatch declared
  | @register r b registered ih =>
    rw [declared?_register] at declared declared'
    have fresh {k : Nat} {e : Entry} (old : r.declared? k = some e) (same : e.key = .unique n) :
        r.nextKey b ≠ .unique n := by
      intro new
      have le := registered.unique_le old same
      have next := (nextKey_eq_unique_iff.1 new).2
      omega
    split at declared
    · split at declared'
      · next first second => exact first.trans second.symm
      · cases declared
        exact absurd key (fresh declared' key')
    · split at declared'
      · cases declared'
        exact absurd key' (fresh declared key)
      · exact ih declared declared'

/-- The effective key of a unique binding is its own. -/
theorem Registered.effectiveKey_inj (h : Registered r) {e : Entry} {n : Nat}
    (declared : r.declared? i = some e) (key : e.key = .unique n)
    (same : r.effectiveKey? j = r.effectiveKey? i) : j = i := by
  rw [effectiveKey?_eq, effectiveKey?_eq, declared, Option.map_some] at same
  obtain ⟨e', declared', equal⟩ := Option.map_eq_some_iff.1 same
  refine h.unique_inj declared' declared (Entry.effectiveKey_unique_iff.1 ?_) key
  rw [equal]
  exact Entry.effectiveKey_unique_iff.2 key

/-! ## The latest binding of a key -/

theorem byKey_register : (r.register b).1.byKey =
    if (r.nextEntry b).key.isUnique then r.byKey
    else ((r.nextEntry b).effectiveKey, r.size) :: r.byKey := rfl

theorem effectiveKey?_register_self :
    (r.register b).1.effectiveKey? r.size = some (r.nextEntry b).effectiveKey := by
  rw [effectiveKey?_register, if_pos rfl]

theorem effectiveKey?_register_iff_of_ne {key : TypeExpr × TagKey}
    (other : (r.nextEntry b).effectiveKey ≠ key) :
    (r.register b).1.effectiveKey? i = some key ↔ r.effectiveKey? i = some key := by
  rw [effectiveKey?_register]
  split
  · next newest =>
    refine iff_of_false (other ∘ Option.some.inj) fun known => ?_
    exact Nat.lt_irrefl _ (newest ▸ lt_of_effectiveKey known)
  · rfl

/-- The binding registered last is the latest with its effective key. -/
theorem latest_register_iff :
    r.size = i ↔ (r.register b).1.effectiveKey? i = some (r.nextEntry b).effectiveKey ∧
      ∀ j, i < j → (r.register b).1.effectiveKey? j ≠ some (r.nextEntry b).effectiveKey := by
  have le {j : Nat} {key : TypeExpr × TagKey}
      (known : (r.register b).1.effectiveKey? j = some key) : j ≤ r.size := by
    have lt := lt_of_effectiveKey known
    rw [size_register] at lt
    exact Nat.le_of_lt_succ lt
  constructor
  · rintro rfl
    exact ⟨effectiveKey?_register_self, fun j later known => Nat.not_lt_of_le (le known) later⟩
  · rintro ⟨known, last⟩
    refine Nat.le_antisymm (Nat.not_lt.1 fun earlier => ?_) (le known)
    exact last r.size earlier effectiveKey?_register_self

/-- What is kept for a key that is not unique is the latest binding with it. -/
theorem Registered.lookup_byKey_iff (h : Registered r) {key : TypeExpr × TagKey}
    (other : key.2.isUnique = false) : r.byKey.lookup key = some i ↔
      r.effectiveKey? i = some key ∧ ∀ j, i < j → r.effectiveKey? j ≠ some key := by
  induction h generalizing i with
  | empty => simp [Registry.empty, effectiveKey?, entry?]
  | @register r b registered ih =>
    rw [byKey_register]
    by_cases same : (r.nextEntry b).effectiveKey = key
    · subst same
      rw [Entry.isUnique_effectiveKey] at other
      rw [if_neg (Bool.eq_false_iff.1 other), List.lookup_cons_self, Option.some.injEq]
      exact latest_register_iff
    · have passed : List.lookup key (((r.nextEntry b).effectiveKey, r.size) :: r.byKey) =
          r.byKey.lookup key := by
        rw [List.lookup_cons, beq_eq_false_iff_ne.2 (Ne.symm same)]
      rw [apply_ite (List.lookup key), passed, ite_self, ih]
      simp only [effectiveKey?_register_iff_of_ne same, ne_eq]

/-- A new binding overrides the last one with its effective key, unless it is unique. -/
theorem Registered.overriddenBy_eq_some_iff (h : Registered r) {e : Entry} :
    r.overriddenBy e = some i ↔ e.key.isUnique = false ∧
      r.effectiveKey? i = some e.effectiveKey ∧
      ∀ j, i < j → r.effectiveKey? j ≠ some e.effectiveKey := by
  rw [overriddenBy]
  cases unique : e.key.isUnique with
  | true => simp
  | false =>
    rw [if_neg Bool.false_ne_true, and_iff_right rfl]
    exact h.lookup_byKey_iff (e.isUnique_effectiveKey.trans unique)

/-! ## Overridden bindings -/

theorem isOverridden_register (lt : i < r.size) : (r.register b).1.isOverridden i =
    (r.isOverridden i || decide (r.overriddenBy (r.nextEntry b) = some i)) := by
  have entry : r.entry? i = some r.entries[i] := List.getElem?_eq_getElem lt
  rw [isOverridden, isOverridden, entry?_register, if_neg (Nat.ne_of_lt lt), entry,
    Option.map_some]
  by_cases h : r.overriddenBy (r.nextEntry b) = some i <;> simp [h, Entry.override]

/-- A new binding is not overridden. -/
theorem isOverridden_register_size : (r.register b).1.isOverridden r.size = false := by
  rw [isOverridden, entry?_register, if_pos rfl]
  rfl

/-- The later bindings with a key are those of before and perhaps the new one. -/
theorem exists_later_register_iff {key : TypeExpr × TagKey} (lt : i < r.size) :
    (∃ j, i < j ∧ (r.register b).1.effectiveKey? j = some key) ↔
      (∃ j, i < j ∧ r.effectiveKey? j = some key) ∨ (r.nextEntry b).effectiveKey = key := by
  by_cases same : (r.nextEntry b).effectiveKey = key
  · subst same
    exact iff_of_true ⟨r.size, lt, effectiveKey?_register_self⟩ (.inr rfl)
  · simp only [effectiveKey?_register_iff_of_ne same, or_iff_left same]

/-- A new binding with the effective key of an earlier one is not unique. -/
theorem Registered.isUnique_eq_false (h : Registered r)
    (known : r.effectiveKey? i = some (r.nextEntry b).effectiveKey) :
    (r.nextEntry b).key.isUnique = false := by
  refine Bool.eq_false_iff.2 fun unique => ?_
  have number := nextKey_of_unique (r := r) (nextKey_isUnique_iff.1 unique)
  have fresh : (r.nextEntry b).effectiveKey.2 = .unique (r.uniques + 1) :=
    Entry.effectiveKey_unique_iff.2 number
  rw [effectiveKey?_eq] at known
  obtain ⟨e, declared, equal⟩ := Option.map_eq_some_iff.1 known
  rw [← equal, Entry.effectiveKey_unique_iff] at fresh
  exact Nat.not_succ_le_self _ (h.unique_le declared fresh)

/-- A binding is overridden exactly when a later one has its effective key. -/
theorem Registered.isOverridden_iff (h : Registered r) {key : TypeExpr × TagKey}
    (known : r.effectiveKey? i = some key) :
    r.isOverridden i ↔ ∃ j, i < j ∧ r.effectiveKey? j = some key := by
  induction h generalizing i with
  | empty => nomatch known
  | @register r b registered ih =>
    rw [effectiveKey?_register] at known
    split at known
    · next newest =>
      subst newest
      rw [isOverridden_register_size]
      refine iff_of_false (by simp) fun ⟨j, later, same⟩ => ?_
      have lt := lt_of_effectiveKey same
      rw [size_register] at lt
      omega
    · have lt := lt_of_effectiveKey known
      rw [isOverridden_register lt, exists_later_register_iff lt, Bool.or_eq_true, ih known,
        decide_eq_true_eq, registered.overriddenBy_eq_some_iff, known]
      constructor
      · rintro (old | ⟨-, same, -⟩)
        · exact .inl old
        · exact .inr (Option.some.inj same).symm
      · rintro (old | rfl)
        · exact .inl old
        · -- The new binding overrides the last one with the key, so this one if none is later.
          by_cases old : ∃ j, i < j ∧ r.effectiveKey? j = some (r.nextEntry b).effectiveKey
          · exact .inl old
          · refine .inr ⟨registered.isUnique_eq_false known, rfl, fun j gt same => ?_⟩
            exact old ⟨j, gt, same⟩

/-- A unique binding is never overridden. -/
theorem Registered.isOverridden_iff_of_declared (h : Registered r) {e : Entry}
    (declared : r.declared? i = some e) : r.isOverridden i ↔ e.binding.tag ≠ some .unique ∧
      ∃ j, i < j ∧ r.effectiveKey? j = r.effectiveKey? i := by
  have known : r.effectiveKey? i = some e.effectiveKey := by
    rw [effectiveKey?_eq, declared, Option.map_some]
  rw [h.isOverridden_iff known, known]
  refine (and_iff_right_of_imp fun ⟨j, gt, same⟩ unique => ?_).symm
  have isUnique := (h.isUnique_iff declared).2 unique
  cases key : e.key with
  | unique n =>
    have self := h.effectiveKey_inj declared key (same.trans known.symm)
    omega
  | untagged | value | any | type | on => simp [key, TagKey.isUnique] at isUnique

/-- The latest binding of an effective key is the only one that is not overridden. -/
theorem Registered.exists_latest (h : Registered r) {key : TypeExpr × TagKey}
    (known : r.effectiveKey? i = some key) : ∃ latest, r.effectiveKey? latest = some key ∧
      ∀ j, r.effectiveKey? j = some key →
        j ≤ latest ∧ (r.isOverridden j = false ↔ j = latest) := by
  -- Of the bindings with the key, the one with the greatest position.
  let latest := Nat.findGreatest (fun j => r.effectiveKey? j = some key) r.size
  have isKey : r.effectiveKey? latest = some key :=
    Nat.findGreatest_spec (P := fun j => r.effectiveKey? j = some key)
      (Nat.le_of_lt (lt_of_effectiveKey known)) known
  have le (j : Nat) (isKey' : r.effectiveKey? j = some key) : j ≤ latest :=
    Nat.le_findGreatest (Nat.le_of_lt (lt_of_effectiveKey isKey')) isKey'
  refine ⟨latest, isKey, fun j isKey' => ⟨le j isKey', ?_⟩⟩
  rw [Bool.eq_false_iff, ne_eq, h.isOverridden_iff isKey']
  constructor
  · intro current
    exact Nat.le_antisymm (le j isKey') (Nat.not_lt.1 fun gt => current ⟨latest, gt, isKey⟩)
  · rintro rfl ⟨k, gt, isKey''⟩
    exact Nat.not_lt_of_le (le k isKey'') gt

/-- The warning names the latest binding with the effective key of the new one. -/
theorem Registered.register_warning_iff (h : Registered r) {warning : Diagnostic} :
    (r.register b).2 = some warning ↔
      b.tag ≠ some .unique ∧ ∃ i, r.effectiveKey? i = some (r.nextEntry b).effectiveKey ∧
        (∀ k, i < k → r.effectiveKey? k ≠ some (r.nextEntry b).effectiveKey) ∧
        warning = overrideWarning b (r.nextKey b) r.size i := by
  have other : (r.nextEntry b).key.isUnique = false ↔ b.tag ≠ some .unique := by
    rw [Bool.eq_false_iff]
    exact not_congr nextKey_isUnique_iff
  show (r.overriddenBy (r.nextEntry b)).map _ = _ ↔ _
  simp only [Option.map_eq_some_iff, h.overriddenBy_eq_some_iff, other]
  constructor
  · rintro ⟨i, ⟨tag, same, after⟩, rfl⟩
    exact ⟨tag, i, same, after, rfl⟩
  · rintro ⟨tag, i, same, after, rfl⟩
    exact ⟨i, ⟨tag, same, after⟩, rfl⟩

/-! ## Histories -/

theorem registerAll_append (r : Registry) (earlier later : List Binding) :
    (r.registerAll (earlier ++ later)).1 =
      ((r.registerAll earlier).1.registerAll later).1 := by
  induction earlier generalizing r with
  | nil => rfl
  | cons b more ih => exact ih (r.register b).1

theorem size_registerAll (r : Registry) (bindings : List Binding) :
    (r.registerAll bindings).1.size = r.size + bindings.length := by
  induction bindings generalizing r with
  | nil => rfl
  | cons b more ih =>
    have count := ih (r.register b).1
    rw [size_register] at count
    rw [List.length_cons, Nat.add_comm more.length, ← Nat.add_assoc, ← count]
    rfl

/-- The registry when a binding is about to be registered. -/
def before (r : Registry) (bindings : List Binding) (id : BindingId) : Registry :=
  (r.registerAll (bindings.take id)).1

section History

variable (catalog : Catalog) (unifier : Unifier) {bindings : List Binding}

theorem size_before (at_i : bindings[i]? = some b) :
    ((empty catalog unifier).before bindings i).size = i := by
  rw [before, size_registerAll, List.length_take, Nat.min_eq_left
    (Nat.le_of_lt (List.getElem?_eq_some_iff.1 at_i).1), size_empty, Nat.zero_add]

/-- A history up to a binding, the binding, and what comes later. -/
theorem registerAll_split (r : Registry) (at_i : bindings[i]? = some b) :
    (r.registerAll bindings).1 =
      (((r.before bindings i).register b).1.registerAll (bindings.drop (i + 1))).1 := by
  obtain ⟨lt, rfl⟩ := List.getElem?_eq_some_iff.1 at_i
  conv_lhs => rw [← List.take_append_drop i bindings, List.drop_eq_getElem_cons lt]
  exact registerAll_append r (bindings.take i) (bindings[i] :: bindings.drop (i + 1))

/-- A binding keeps the entry with which it was registered. -/
theorem declared?_history (at_i : bindings[i]? = some b) :
    ((empty catalog unifier).registerAll bindings).1.declared? i =
      some (((empty catalog unifier).before bindings i).nextEntry b) := by
  have size := size_before catalog unifier at_i
  rw [registerAll_split _ at_i, declared?_registerAll _ (by rw [size_register, size]; omega),
    declared?_register, if_pos size.symm]

/-- The bindings are there under their positions. -/
theorem binding?_history (bindings : List Binding) (i : Nat) :
    ((empty catalog unifier).registerAll bindings).1.binding? i = bindings[i]? := by
  rw [binding?_eq]
  cases at_i : bindings[i]? with
  | some b =>
    rw [declared?_history catalog unifier at_i]
    rfl
  | none =>
    rw [Option.map_eq_none_iff, Option.eq_none_iff_forall_ne_some]
    intro e declared
    have lt := lt_of_declared declared
    rw [size_registerAll, size_empty, Nat.zero_add] at lt
    exact Nat.not_lt_of_le (List.getElem?_eq_none_iff.1 at_i) lt

/-- The effective keys of the earlier bindings are known when a binding is registered. -/
theorem effectiveKey?_before (at_j : bindings[j]? = some b) (lt : i < j) :
    ((empty catalog unifier).before bindings j).effectiveKey? i =
      ((empty catalog unifier).registerAll bindings).1.effectiveKey? i := by
  have size := size_before catalog unifier at_j
  rw [effectiveKey?_eq, effectiveKey?_eq, registerAll_split _ at_j,
    declared?_registerAll _ (by rw [size_register, size]; omega), declared?_register,
    if_neg (by rw [size]; exact Nat.ne_of_lt lt)]

/-- Registering in a history warns of the latest earlier binding with the effective key. -/
theorem warning_history {warning : Diagnostic} (at_j : bindings[j]? = some b) :
    let r := ((empty catalog unifier).registerAll bindings).1
    (((empty catalog unifier).before bindings j).register b).2 = some warning ↔
      b.tag ≠ some .unique ∧ ∃ i, i < j ∧ r.effectiveKey? i = r.effectiveKey? j ∧
        (∀ k, i < k → k < j → r.effectiveKey? k ≠ r.effectiveKey? j) ∧
        warning = overrideWarning b (r.tagKey j) j i := by
  intro r
  have declared := declared?_history catalog unifier at_j
  have size := size_before catalog unifier at_j
  have earlier {i : Nat} (lt : i < j) := effectiveKey?_before catalog unifier at_j lt
  have registered : Registered ((empty catalog unifier).before bindings j) := .all (.empty ..) _
  rw [registered.register_warning_iff, effectiveKey?_eq (i := j), declared, tagKey_eq declared,
    Option.map_some, size]
  refine and_congr_right fun _ => exists_congr fun i => ?_
  constructor
  · rintro ⟨same, after, warned⟩
    have lt : i < j := size ▸ lt_of_effectiveKey same
    refine ⟨lt, (earlier lt).symm.trans same, fun k gt lt same' => ?_, warned⟩
    exact after k gt ((earlier lt).trans same')
  · rintro ⟨lt, same, after, warned⟩
    refine ⟨(earlier lt).trans same, fun k gt same' => ?_, warned⟩
    have lt' : k < j := size ▸ lt_of_effectiveKey same'
    exact after k gt lt' ((earlier lt').symm.trans same')

end History

/-- What is kept of any registrations. The bindings are there under their positions, each with its
tag as the key, and unique ones with keys of their own. Registering a binding that is not unique
warns of the latest earlier one with its effective key, if there is one: the warning is about the
new binding, stands where that was declared, and names its contract, its tag and the earlier
binding. In the end a binding is overridden when it is not unique and a later one has its effective
key. So of each effective key exactly the latest binding is left. -/
theorem registerAll_keeps_latest (catalog : Catalog) (unifier : Unifier)
    (bindings : List Binding) :
    let start := Registry.empty catalog unifier
    let r := (start.registerAll bindings).1
    (∀ i b, bindings[i]? = some b → r.binding? i = some b ∧
      (b.tag ≠ some .unique → r.tagKey i = .ofTag? b.tag) ∧
      r.effectiveKey? i = some (b.contract, overrideTag (r.tagKey i) b.implementation) ∧
      (r.isOverridden i ↔ b.tag ≠ some .unique ∧
        ∃ j, i < j ∧ j < bindings.length ∧ r.effectiveKey? j = r.effectiveKey? i)) ∧
    (∀ j b warning, bindings[j]? = some b →
      (((start.before bindings j).register b).2 = some warning ↔ b.tag ≠ some .unique ∧
        ∃ i, i < j ∧ r.effectiveKey? i = r.effectiveKey? j ∧
          (∀ k, i < k → k < j → r.effectiveKey? k ≠ r.effectiveKey? j) ∧
          warning = ⟨.overrideWarning, .warning,
            "绑定 " ++ b.contract.text ++ " (" ++ (r.tagKey j).label ++
              ") 覆盖了先前的声明 " ++ ("binding#" ++ toString i),
            b.location, some (.binding j)⟩)) ∧
    (∀ i j b b', bindings[i]? = some b → bindings[j]? = some b' → b.tag = some .unique →
      b'.tag = some .unique → r.tagKey i = r.tagKey j → i = j) ∧
    (∀ i < bindings.length, ∃ latest < bindings.length,
      r.effectiveKey? latest = r.effectiveKey? i ∧
      ∀ j < bindings.length, r.effectiveKey? j = r.effectiveKey? i →
        j ≤ latest ∧ (r.isOverridden j = false ↔ j = latest)) := by
  intro start r
  have registered : Registered r := .all (.empty ..) bindings
  have declared {i : Nat} {b : Binding} (at_i : bindings[i]? = some b) :=
    declared?_history catalog unifier at_i
  have size : r.size = bindings.length := by
    rw [size_registerAll, size_empty, Nat.zero_add]
  refine ⟨fun i b at_i => ⟨?_, ?_, ?_, ?_⟩,
    fun j b warning at_j => warning_history catalog unifier at_j, ?_, ?_⟩
  · rw [binding?_history, at_i]
  · intro other
    rw [tagKey_eq (declared at_i)]
    exact nextKey_of_ne other
  · rw [effectiveKey?_eq, declared at_i, tagKey_eq (declared at_i)]
    rfl
  · rw [registered.isOverridden_iff_of_declared (declared at_i)]
    refine and_congr_right fun _ => exists_congr fun j => and_congr_right fun _ => ?_
    refine (and_iff_right_of_imp fun same => ?_).symm
    rw [effectiveKey?_eq (i := i), declared at_i] at same
    exact size ▸ lt_of_effectiveKey same
  · intro i j b b' at_i at_j unique unique' same
    rw [tagKey_eq (declared at_i), tagKey_eq (declared at_j)] at same
    have key := nextKey_of_unique (r := start.before bindings i) unique
    exact registered.unique_inj (declared at_i) (declared at_j) key (same.symm.trans key)
  · intro i lt
    have known := effectiveKey?_eq (r := r) (i := i)
    rw [declared (List.getElem?_eq_getElem lt), Option.map_some] at known
    obtain ⟨latest, isKey, only⟩ := registered.exists_latest known
    rw [known]
    exact ⟨latest, size ▸ lt_of_effectiveKey isKey, isKey, fun j _ same => only j same⟩

/-! ### Servers

A value tag and a tag for the implementation type can be one effective key; unique tags never are.
-/

def server (tag : Tag) (path : String) : Binding :=
  { Binding.ofType (.named "IServer" []) (.named path []) with tag := some tag }

def servers : List Binding :=
  [server (.value (.type (.named "Main" []))) "Proxy", server .type "Main",
    server .unique "Main", server .unique "Main"]

theorem servers_facts :
    let r := ((empty .empty .structural).registerAll servers).1
    r.effectiveKey? 1 = r.effectiveKey? 0 ∧ r.tagKey 1 = .type := ⟨rfl, rfl⟩

theorem registerAll_keeps_latest_servers :
    let start := empty .empty .structural
    let r := (start.registerAll servers).1
    r.isOverridden 0 ∧ r.isOverridden 2 = false ∧ r.tagKey 2 ≠ r.tagKey 3 ∧
      ((start.before servers 1).register (server .type "Main")).2 =
        some ⟨.overrideWarning, .warning, "绑定 IServer (Type) 覆盖了先前的声明 binding#0", none,
          some (.binding 1)⟩ := by
  intro start r
  obtain ⟨same, key⟩ := servers_facts
  obtain ⟨kept, warned, distinct, -⟩ := registerAll_keeps_latest .empty .structural servers
  have first := (kept 0 (server (.value (.type (.named "Main" []))) "Proxy") rfl).2.2.2
  have third := (kept 2 (server .unique "Main") rfl).2.2.2
  refine ⟨first.2 ⟨by decide, 1, by decide, by decide, same⟩, ?_, fun equal => ?_, ?_⟩
  · exact Bool.eq_false_iff.2 fun overridden => (third.1 overridden).1 rfl
  · exact absurd (distinct 2 3 _ _ rfl rfl rfl rfl equal) (by decide)
  · refine (warned 1 _ _ rfl).2 ⟨by decide, 0, by decide, same.symm, ?_, ?_⟩
    · exact fun k gt lt => absurd lt (Nat.not_lt_of_le gt)
    · rw [key]
      decide +kernel

end Registry

end Wiring
