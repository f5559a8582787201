import Wiring.Proofs.Registry.Ranking

/-!
# Registry — Capabilities

What the registry notes of a binding's capabilities when it is registered is what the catalog says
of them later: a question for capabilities that goes through the notes finds the bindings that a
question to the catalog finds, binding by binding.
-/

namespace Wiring

/-- A binding has a capability by its contract, or its implementation type has it. -/
def Binding.HasCapability (b : Binding) (catalog : Catalog) (unifier : Unifier)
    (capability : TypeExpr) : Prop :=
  unifier.accepts b.contract capability ∨
    ∃ type, b.implementation = .type type ∧ catalog.hasCapability unifier type capability

theorem Binding.builtType?_eq_some_iff {b : Binding} {type : TypeExpr} :
    b.builtType? = some type ↔ b.implementation = .type type := by
  rw [builtType?]
  cases b.implementation with
  | type => simp [Implementation.type?]
  | factory | argument => simp [Implementation.type?]

namespace Registry

variable {r : Registry} {b : Binding} {capability : TypeExpr} {id : BindingId}

@[simp] theorem catalog_registerAll (r : Registry) (bindings : List Binding) :
    (r.registerAll bindings).1.catalog = r.catalog := by
  induction bindings generalizing r with
  | nil => rfl
  | cons b more ih => exact ih (r.register b).1

/-- One of the capabilities that are noted of a binding fits exactly when the binding has it. -/
theorem any_capabilitiesOfBinding_iff :
    ((r.capabilitiesOfBinding b).any fun has => r.unifier.accepts has capability) ↔
      b.HasCapability r.catalog r.unifier capability := by
  rw [capabilitiesOfBinding, Binding.HasCapability]
  simp only [← Binding.builtType?_eq_some_iff]
  cases b.builtType? with
  | none => simp
  | some type => simp [Catalog.hasCapability]

/-- After any registrations, an entry notes the capabilities of its binding. -/
theorem capabilities_history (catalog : Catalog) (unifier : Unifier) {bindings : List Binding}
    (at_id : bindings[id]? = some b) : ∃ e,
    ((empty catalog unifier).registerAll bindings).1.entries[id]? = some e ∧
      e.capabilities = ((empty catalog unifier).registerAll bindings).1.capabilitiesOfBinding b := by
  obtain ⟨e, entry, declared⟩ := Option.map_eq_some_iff.1 (declared?_history catalog unifier at_id)
  refine ⟨e, entry, ?_⟩
  -- Overriding leaves what was noted, and no registration changes the catalog or the unifier.
  have noted : e.capabilities = e.declared.capabilities := rfl
  rw [noted, declared]
  simp only [nextEntry, capabilitiesOfBinding, before, catalog_registerAll, unifier_registerAll]

theorem withCapabilities_eq_positions (r : Registry) (capabilities : List TypeExpr) :
    r.withCapabilities capabilities = positions (fun e => capabilities.all fun capability =>
      e.capabilities.any fun has => r.unifier.accepts has capability) r.entries := rfl

/-- After any registrations, the bindings that are found for some capabilities are, in ascending
order, those that have each of them: by the contract, or by what the catalog says of the
implementation type. -/
theorem withCapabilities_registerAll (catalog : Catalog) (unifier : Unifier)
    (bindings : List Binding) (capabilities : List TypeExpr) :
    let found := ((empty catalog unifier).registerAll bindings).1.withCapabilities capabilities
    found.Pairwise (· < ·) ∧ ∀ id, id ∈ found ↔ ∃ b, bindings[id]? = some b ∧
      ∀ capability ∈ capabilities, b.HasCapability catalog unifier capability := by
  intro found
  let r := ((empty catalog unifier).registerAll bindings).1
  have catalog_eq : r.catalog = catalog := catalog_registerAll ..
  have unifier_eq : r.unifier = unifier := unifier_registerAll ..
  have isFound : found = positions _ r.entries := withCapabilities_eq_positions r capabilities
  have answers {b : Binding} (e : Entry) (noted : e.capabilities = r.capabilitiesOfBinding b) :
      (capabilities.all fun capability =>
        e.capabilities.any fun has => r.unifier.accepts has capability) ↔
      ∀ capability ∈ capabilities, b.HasCapability catalog unifier capability := by
    simp only [List.all_eq_true, noted, any_capabilitiesOfBinding_iff]
    rw [catalog_eq, unifier_eq]
  refine ⟨isFound ▸ sorted_positions.pairwise, fun id => ?_⟩
  rw [isFound, mem_positions]
  constructor
  · rintro ⟨e, entry, holds⟩
    have lt : id < bindings.length := by
      have inside : id < r.size := (List.getElem?_eq_some_iff.1 entry).1
      simpa [r, size_registerAll] using inside
    obtain ⟨e', entry', noted⟩ :=
      capabilities_history catalog unifier (List.getElem?_eq_getElem lt)
    obtain rfl : e = e' := Option.some.inj (entry.symm.trans entry')
    exact ⟨bindings[id], List.getElem?_eq_getElem lt, (answers e noted).1 holds⟩
  · rintro ⟨b, at_id, holds⟩
    obtain ⟨e, entry, noted⟩ := capabilities_history catalog unifier at_id
    exact ⟨e, entry, (answers e noted).2 holds⟩

end Registry

end Wiring
