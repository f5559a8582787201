import Wiring.Proofs.Resolver.Execution

/-!
# Resolver — Restoring

Every part of a resolution comes back to the context in which it began, wherever that is and
whatever the session holds. A bound node takes its link and its owner back, a lazy collection its
block, a wrapper its block and its owner; all else that a resolution does leaves the context alone.
Nothing is asked of the room left on the chain, so this holds of requests that are cut as well.
-/

namespace Wiring

/-- What is done in a session leaves the session where it stood. -/
def KeepsContext {α : Type} (step : Session → α × Session) : Prop :=
  ∀ s, (step s).2.context = s.context

/-- Every request that a resolution answers leaves the session where it stood. -/
def Resolution.ComesBack (resolution : Resolution) : Prop :=
  ∀ contract d, KeepsContext (resolution contract d)

/-- The parts of a contract that are planned to be asked for in its place, without a link. -/
def Plan.parts : Plan → List TypeExpr
  | .func target | .lazy target | .owned target => [target]
  | .tuple items => items
  | .accumulator _ | .autoBinding _ | .collection .. | .unresolved => []

namespace Resolver

open Session

variable {r : Resolver} {below : Resolution}

/-! ## Bound nodes -/

theorem fillSites_keepsContext (h : below.ComesBack) (id : NodeId) (type : TypeExpr)
    (sites : List Site) : KeepsContext (fillSites below id type sites) := by
  induction sites with
  | nil => exact fun _ => rfl
  | cons site more ih => exact fun s => (ih _).trans (h ..)

theorem construct_keepsContext (h : below.ComesBack) (contract : TypeExpr) (tag : TagKey)
    (source : Source) (b : Binding) (σ : Substitution) :
    KeepsContext (r.construct below contract tag source b σ) := by
  intro s
  let choice : Choice := ⟨contract, tag, source, b, σ⟩
  cases link : s.context.find? contract tag with
  | some id => simp only [construct, link]
  | none =>
    cases share : s.sharedNode? contract tag source b.lifetime with
    | some id => simp only [construct, link, share]
    | none =>
      -- The sites are filled one link further down, and come back to this link.
      have filled : (r.fillBound below choice s).2.context =
          { s.context with owner := (r.openBound choice s).node.owner }.push contract tag
            s.nextNode := fillSites_keepsContext h ..
      have fresh : r.construct below contract tag source b σ s = _ :=
        construct_fresh (show s.context.find? choice.contract choice.tag = none from link) share
      rw [fresh, close_of_link filled]
      rfl

theorem constructMatch_keepsContext (h : below.ComesBack) (contract : TypeExpr) (d : Demand)
    (found : Match) : KeepsContext (r.constructMatch below contract d found) := by
  intro s
  unfold constructMatch
  split
  · rfl
  · exact construct_keepsContext h ..

theorem autoBindingIndex_context (s : Session) (b : Binding) :
    (s.autoBindingIndex b).2.context = s.context := by
  unfold autoBindingIndex
  split
  · rfl
  · rfl

theorem constructAuto_keepsContext (h : below.ComesBack) (contract : TypeExpr) (b : Binding) :
    KeepsContext (r.constructAuto below contract b) :=
  fun s => (construct_keepsContext h ..).trans (autoBindingIndex_context s b)

/-! ## Built-in shapes -/

theorem accumulate_keepsContext (contract : TypeExpr) (d : Demand) (index : Nat) :
    KeepsContext (accumulate contract d index) := by
  intro s
  unfold accumulate
  split
  · rfl
  · rfl

theorem collectItems_keepsContext (h : below.ComesBack) (d : Demand) (element : TypeExpr)
    (wrapper : NodeId) (index : Nat) (found : List Match) :
    KeepsContext (r.collectItems below d element wrapper index found) := by
  induction found generalizing index with
  | nil => exact fun _ => rfl
  | cons m more ih => exact fun s => (ih _ _).trans (constructMatch_keepsContext h ..)

theorem collect_keepsContext (h : below.ComesBack) (contract : TypeExpr) (kind : CollectionKind)
    (element : TypeExpr) (d : Demand) : KeepsContext (r.collect below contract kind element d) := by
  intro s
  let opened := s.addNode
    (shapeNode s.context contract d (.collection kind element kind.isLazy) .transient)
  let inner := if kind.isLazy then opened.enterBlock else opened
  obtain ⟨block, entered⟩ : ∃ block, inner.context = { s.context with block } := by
    cases isLazy : kind.isLazy <;> exact ⟨_, by simp only [inner, isLazy]; rfl⟩
  let filled := r.collectItems below d element s.nextNode 0 (r.registry.allMatches element) inner
  have back : filled.2.context = { s.context with block } :=
    (collectItems_keepsContext h ..).trans entered
  have closed : ((filled.2.setBlock s.context.block).connect s.nextNode filled.1).context =
      s.context := by
    rw [close_of_block back]
    rfl
  exact closed

theorem wrap_keepsContext {resolveTarget : Demand → Session → Target × Session}
    (h : ∀ d, KeepsContext (resolveTarget d)) (kind : NodeKind) (contract target : TypeExpr)
    (d : Demand) : KeepsContext (wrap kind contract target resolveTarget d) := by
  intro s
  let opened := (s.addNode (shapeNode s.context contract d kind .transient)).enterBlock
  let inner := if kind = .owned then opened.setOwner (.owned s.nextNode) else opened
  obtain ⟨block, owner, entered⟩ : ∃ block owner,
      inner.context = { s.context with block, owner } := by
    by_cases owned : kind = .owned <;> exact ⟨_, _, by simp only [inner, owned]; rfl⟩
  let site := partSite "target" target d.tag
  let filled := resolveTarget (d.inside site s.nextNode) inner
  have back : filled.2.context = { s.context with block, owner } := (h ..).trans entered
  have closed : (((filled.2.setBlock s.context.block).setOwner s.context.owner).connect s.nextNode
      [⟨site, filled.1, kind.isDeferred⟩]).context = s.context := by
    rw [close_of_block_owner back]
    rfl
  exact closed

/-- The items of a tuple in order, each answered without a tag. -/
def fillItems (resolution : Resolution) (d : Demand) (wrapper : NodeId) :
    (index : Nat) → List TypeExpr → Session → List Dependency × Session
  | _, [], s => ([], s)
  | index, item :: more, s =>
    let site := partSite ("item" ++ toString index) item none
    let (target, s) := resolution item (d.inside site wrapper) s
    let (dependencies, s) := fillItems resolution d wrapper (index + 1) more s
    (⟨site, target, false⟩ :: dependencies, s)

/-- A tuple, with its items answered by a resolution. -/
def fillTuple (resolution : Resolution) (contract : TypeExpr) (items : List TypeExpr) (d : Demand)
    (s : Session) : Target × Session :=
  let id := s.nextNode
  let opened := s.addNode (shapeNode s.context contract d .tuple .transient)
  let (dependencies, filled) := fillItems resolution d id 0 items opened
  (.node id, filled.connect id dependencies)

theorem resolveItems_eq (d : Demand) (wrapper : NodeId) (index : Nat) (items : List TypeExpr)
    (s : Session) : r.resolveItems below d wrapper index items s =
      fillItems (r.resolveAt below) d wrapper index items s := by
  induction items generalizing index s with
  | nil => rw [resolveItems, fillItems]
  | cons item more ih =>
    rw [resolveItems, fillItems]
    simp only [ih]

theorem fillItems_keepsContext {resolution : Resolution} {items : List TypeExpr}
    (h : ∀ item ∈ items, ∀ d, KeepsContext (resolution item d)) (d : Demand) (wrapper : NodeId)
    (index : Nat) : KeepsContext (fillItems resolution d wrapper index items) := by
  induction items generalizing index with
  | nil => exact fun _ => rfl
  | cons item more ih =>
    obtain ⟨first, later⟩ := List.forall_mem_cons.1 h
    exact fun s => (ih later _ _).trans (first ..)

theorem fillTuple_keepsContext {resolution : Resolution} {items : List TypeExpr}
    (h : ∀ item ∈ items, ∀ d, KeepsContext (resolution item d)) (contract : TypeExpr) (d : Demand) :
    KeepsContext (fillTuple resolution contract items d) :=
  fun _ => fillItems_keepsContext h ..

/-! ## Requests -/

/-- Answer a request that no binding answers, by what is planned for its contract. The parts of the
contract are answered with the same room on the chain, the sites of a binding with one link less. -/
def answerPlanned (r : Resolver) (room : Nat) : Resolution := fun contract d s =>
  match r.plan contract with
  | .accumulator index => accumulate contract d index s
  | .autoBinding b => r.constructAuto (r.resolve (room - 1)) contract b s
  | .collection kind element => r.collect (r.resolve (room - 1)) contract kind element d s
  | .func target => wrap .func contract target (r.resolve room target) d s
  | .lazy target => wrap .lazy contract target (r.resolve room target) d s
  | .owned target => wrap .owned contract target (r.resolve room target) d s
  | .tuple items => fillTuple (r.resolve room) contract items d s
  | .unresolved => s.reject contract d

/-- A request is answered by the binding that is found for it, or else by what is planned. -/
theorem resolve_succ (r : Resolver) (room : Nat) (contract : TypeExpr) (d : Demand) (s : Session) :
    r.resolve (room + 1) contract d s =
      match r.lookup ⟨contract, d.tag, d.path⟩ with
      | some found => r.constructMatch (r.resolve room) contract d found (r.asked contract d s)
      | none => r.answerPlanned (room + 1) contract d (r.asked contract d s) := by
  rw [resolve, resolveAt.eq_def]
  cases lookup : r.lookup ⟨contract, d.tag, d.path⟩ with
  | some found =>
    simp only [lookup]
    rfl
  | none =>
    cases accumulator : r.askedAccumulator contract with
    | some index =>
      simp only [lookup, answerPlanned, plan, accumulator]
      rfl
    | none =>
      simp only [lookup, answerPlanned, plan, accumulator]
      cases contract with
      | named path args =>
        cases auto : r.autoBinding (.named path args) <;> simp only [auto] <;> rfl
      | tuple items =>
        simp only [resolveItems_eq]
        rfl
      | _ => rfl

theorem parts_plan_subset (contract : TypeExpr) : (r.plan contract).parts ⊆ contract.children := by
  unfold plan
  cases r.askedAccumulator contract with
  | some index => exact List.nil_subset _
  | none =>
    cases contract with
    | named path args => cases r.autoBinding (.named path args) <;> exact List.nil_subset _
    | marker | collection => exact List.nil_subset _
    | func | lazy | owned | tuple => exact List.Subset.refl _

theorem answerPlanned_keepsContext {room : Nat} (below : (r.resolve (room - 1)).ComesBack)
    {contract : TypeExpr}
    (parts : ∀ part ∈ contract.children, ∀ d, KeepsContext (r.resolve room part d)) (d : Demand) :
    KeepsContext (r.answerPlanned room contract d) := by
  intro s
  have planned : ∀ part ∈ (r.plan contract).parts, ∀ d, KeepsContext (r.resolve room part d) :=
    fun part mem => parts part (parts_plan_subset contract mem)
  unfold answerPlanned
  cases plan : r.plan contract with
  | accumulator index => exact accumulate_keepsContext contract d index s
  | autoBinding b => exact constructAuto_keepsContext below contract b s
  | collection kind element => exact collect_keepsContext below contract kind element d s
  | func target | lazy target | owned target =>
    rw [plan] at planned
    exact wrap_keepsContext (planned target List.mem_cons_self) _ contract target d s
  | tuple items =>
    rw [plan] at planned
    exact fillTuple_keepsContext planned contract d s
  | unresolved => rfl

theorem resolve_keepsContext (r : Resolver) (room : Nat) : (r.resolve room).ComesBack := by
  -- By the room that is left for the sites of bindings, then by the parts of the contract.
  induction room with
  | zero => exact fun _ _ _ => rfl
  | succ room below =>
    intro contract
    induction contract using TypeExpr.parts_induction with
    | step contract parts =>
      intro d s
      rw [resolve_succ]
      split
      · exact constructMatch_keepsContext below contract d _ _
      · exact answerPlanned_keepsContext below parts d _

/-- Whatever is done about a request, by any way and with any room left on the chain, the chain, the
root, the block and the owner are afterwards what they were before. -/
theorem resolution_restores_context (r : Resolver) (room : Nat) (contract : TypeExpr) (d : Demand)
    (s : Session) :
    (r.resolve room contract d s).2.context = s.context ∧
      (∀ tag source b σ, (r.construct (r.resolve room) contract tag source b σ s).2.context =
        s.context) ∧
      (r.answerPlanned room contract d s).2.context = s.context ∧
      (∀ kind element, (r.collect (r.resolve room) contract kind element d s).2.context =
        s.context) ∧
      (∀ kind target, (wrap kind contract target (r.resolve room target) d s).2.context =
        s.context) ∧
      ∀ items, (fillTuple (r.resolve room) contract items d s).2.context = s.context := by
  have whole := resolve_keepsContext r room
  refine ⟨whole contract d s, ?_, ?_, ?_, ?_, ?_⟩
  · exact fun tag source b σ => construct_keepsContext whole contract tag source b σ s
  · exact answerPlanned_keepsContext (resolve_keepsContext r _) (fun part _ => whole part) d s
  · exact fun kind element => collect_keepsContext whole contract kind element d s
  · exact fun kind target => wrap_keepsContext (whole target) kind contract target d s
  · exact fun items => fillTuple_keepsContext (fun item _ => whole item) contract d s

end Resolver

end Wiring
