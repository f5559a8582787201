import Wiring.Proofs.Resolver.Questions

/-!
# Resolver — Outcome

A request has one outcome in a session: it is settled, or it opens a node. `outcome` computes it in
the order in which the builder looks for an answer, and so a run is the only one for its requests.
-/

namespace Wiring.Resolver

/-- What comes of a request that a binding answers. -/
def outcomeOf (r : Resolver) (choice : Choice) (s : Session) : (Target × Session) ⊕ Opening :=
  match s.context.find? choice.contract choice.tag with
  | some id => .inl (.node id, s)
  | none =>
    match s.sharedNode? choice.contract choice.tag choice.source choice.binding.lifetime with
    | some id => .inl (.node id, s)
    | none => .inr (r.openBound choice s)

/-- What comes of a match. -/
def outcomeOfMatch (r : Resolver) (contract : TypeExpr) (d : Demand) (found : Match)
    (s : Session) : (Target × Session) ⊕ Opening :=
  match r.registry.binding? found.binding with
  | none => .inl (s.reject contract d)
  | some b => r.outcomeOf (r.choiceOf contract found b) s

/-- What comes of a request that no binding and no accumulator answers. -/
def outcomeUnbound (r : Resolver) (contract : TypeExpr) (d : Demand) (s : Session) :
    (Target × Session) ⊕ Opening :=
  match contract.shape? with
  | some kind => .inr (r.openShape contract d kind s)
  | none =>
    match r.autoBinding contract with
    | some b =>
      let (index, s) := s.autoBindingIndex b
      r.outcomeOf ⟨contract, .untagged, .auto index, b, ∅⟩ s
    | none => .inl (s.reject contract d)

/-- What comes of a request. -/
def outcome (r : Resolver) (s : Session) : Ask → (Target × Session) ⊕ Opening
  | .candidate contract d found => r.outcomeOfMatch contract d found s
  | .request contract d =>
    if s.context.depth = r.options.maxDepth then .inl (r.cut contract d s) else
      match r.lookup ⟨contract, d.tag, d.path⟩, r.askedAccumulator contract with
      | some found, _ => r.outcomeOfMatch contract d found (r.asked contract d s)
      | none, some index =>
        match (r.asked contract d s).sharedNode? contract (.ofValue? d.tag) .implicit
          .perResolve with
        | some id => .inl (.node id, r.asked contract d s)
        | none => .inr (openAccumulator contract d index (r.asked contract d s))
      | none, none => r.outcomeUnbound contract d (r.asked contract d s)

variable {r : Resolver} {ask : Ask} {s s' : Session} {target : Target} {o : Opening}

theorem shape?_of_autoBinding {contract : TypeExpr} {b : Binding}
    (h : r.autoBinding contract = some b) : contract.shape? = none := by
  have named := isNamed_of_autoBinding h
  cases contract with
  | named => rfl
  | marker | collection | func | lazy | owned | tuple => nomatch named

theorem Chooses.outcome {choice : Choice} (h : r.Chooses ask s choice s') :
    r.outcome s ask = r.outcomeOf choice s' := by
  cases h with
  | bound room lookup binding =>
    simp only [Resolver.outcome, if_neg (Nat.ne_of_lt room), lookup, outcomeOfMatch, binding]
  | auto room unbound auto =>
    simp only [Resolver.outcome, if_neg (Nat.ne_of_lt room), unbound.1, unbound.2, outcomeUnbound,
      shape?_of_autoBinding auto, auto]
  | candidate binding => simp only [Resolver.outcome, outcomeOfMatch, binding]

theorem Settles.outcome (h : r.Settles ask s target s') :
    r.outcome s ask = .inl (target, s') := by
  cases h with
  | cut room => exact if_pos room
  | refused room unbound shape auto =>
    simp only [Resolver.outcome, if_neg (Nat.ne_of_lt room), unbound.1, unbound.2, outcomeUnbound,
      shape, auto]
  | missing room lookup binding =>
    simp only [Resolver.outcome, if_neg (Nat.ne_of_lt room), lookup, outcomeOfMatch, binding]
  | lost binding => simp only [Resolver.outcome, outcomeOfMatch, binding]
  | linked chosen link => simp only [chosen.outcome, outcomeOf, link]
  | shared chosen link share => simp only [chosen.outcome, outcomeOf, link, share]
  | accumulated room lookup accumulator share =>
    simp only [Resolver.outcome, if_neg (Nat.ne_of_lt room), lookup, accumulator, share]

theorem Opens.outcome (h : r.Opens ask s o) : r.outcome s ask = .inr o := by
  cases h with
  | bound chosen link share => simp only [chosen.outcome, outcomeOf, link, share]
  | accumulated room lookup accumulator share =>
    simp only [Resolver.outcome, if_neg (Nat.ne_of_lt room), lookup, accumulator, share]
  | shape room unbound shape =>
    simp only [Resolver.outcome, if_neg (Nat.ne_of_lt room), unbound.1, unbound.2, outcomeUnbound,
      shape]

/-- There is one run for some requests in a session. -/
theorem Run.unique {asks : List Ask} {targets targets' : List Target} {s'' : Session}
    {births births' : List Birth} (h : r.Run asks s targets s' births)
    (h' : r.Run asks s targets' s'' births') : targets' = targets ∧ s'' = s' := by
  induction h generalizing targets' s'' births' with
  | done =>
    cases h'
    exact ⟨rfl, rfl⟩
  | settle settled rest ih =>
    cases h' with
    | settle settled' rest' =>
      cases settled.outcome.symm.trans settled'.outcome
      obtain ⟨rfl, rfl⟩ := ih rest'
      exact ⟨rfl, rfl⟩
    | make opened' => nomatch settled.outcome.symm.trans opened'.outcome
  | make opened parts rest ih ih' =>
    cases h' with
    | settle settled' => nomatch opened.outcome.symm.trans settled'.outcome
    | make opened' parts' rest' =>
      cases opened.outcome.symm.trans opened'.outcome
      obtain ⟨rfl, rfl⟩ := ih parts'
      obtain ⟨rfl, rfl⟩ := ih' rest'
      exact ⟨rfl, rfl⟩

end Wiring.Resolver
