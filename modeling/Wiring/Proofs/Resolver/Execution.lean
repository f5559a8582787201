import Wiring.Proofs.Resolver.Extension
import Wiring.Proofs.TypeExpr.Induction

/-!
# Resolver — Execution

Every resolution is a run. The room left on the chain and the depth of the context always make up
the depth limit, so that a request is cut exactly where the chain has that length.
-/

namespace Wiring.Resolver

open Session

variable {r : Resolver}

/-- At a depth of the chain, a resolution answers every request by a run. -/
def RunsAt (r : Resolver) (resolution : Resolution) (depth : Nat) : Prop :=
  ∀ contract d s, s.context.depth = depth → ∃ births,
    r.Run [.request contract d] s [(resolution contract d s).1] (resolution contract d s).2 births

theorem Run.context_eq {asks s targets s' births} (h : r.Run asks s targets s' births) :
    s'.context = s.context := h.extends.context

/-- A node that is opened and closed is the whole of a run. -/
theorem Run.of_opens {ask s o inside s' births} (opened : r.Opens ask s o)
    (parts : r.Run (o.parts.map (·.ask)) o.inner inside s' births) :
    ∃ births', r.Run [ask] s [.node s.nextNode]
      (s'.close s.context s.nextNode (dependenciesOf o.node.kind o.parts inside)) births' :=
  ⟨_, .make opened parts .done⟩

/-- Closing a node without parts changes nothing. -/
theorem close_leaf {s : Session} {n : Node} (leaf : n.dependencies = []) :
    (s.addNode n).close s.context s.nextNode [] = s.addNode n := by
  have same : Node.connected { n with id := s.nextNode } [] = { n with id := s.nextNode } := by
    simp [Node.connected, leaf]
  have nodes := modify_append_length s.graph.nodes [] { n with id := s.nextNode }
    (·.connected [])
  simp only [same] at nodes
  unfold Session.close
  simp only [connect, addNode, Graph.addNode, Graph.modifyNode]
  congr 2

/-! ## Coming back

Each kind of node puts back what it changed of the context, and so the context is that of before.
-/

variable {context : Context} {s : Session} {id : NodeId} {dependencies : List Dependency}

theorem close_of_link {owner : Owner} {contract : TypeExpr} {tag : TagKey} {link : NodeId}
    (h : s.context = { context with owner }.push contract tag link) :
    (s.popLink.setOwner context.owner).connect id dependencies
      = s.close context id dependencies := by
  simp [Session.close, popLink, setOwner, h]

theorem close_of_block {block : Nat} (h : s.context = { context with block }) :
    (s.setBlock context.block).connect id dependencies = s.close context id dependencies := by
  simp [Session.close, setBlock, h]

theorem close_of_block_owner {block : Nat} {owner : Owner}
    (h : s.context = { context with block, owner }) :
    ((s.setBlock context.block).setOwner context.owner).connect id dependencies
      = s.close context id dependencies := by
  simp [Session.close, setBlock, setOwner, h]

theorem close_of_same (h : s.context = context) :
    s.connect id dependencies = s.close context id dependencies := by
  simp [Session.close, ← h]

/-! ## Lists of parts -/

theorem fillSites_run {below : Resolution} {depth : Nat} (runs : RunsAt r below depth)
    (id : NodeId) (type : TypeExpr) (sites : List Site) (s : Session)
    (h : s.context.depth = depth) :
    ∃ targets births,
      r.Run (sites.map fun site => .request site.contract (.ofSite site id type)) s targets
        (fillSites below id type sites s).2 births ∧
      (fillSites below id type sites s).1 =
        List.zipWith (fun site target => ⟨site, target, false⟩) sites targets := by
  induction sites generalizing s with
  | nil => exact ⟨[], [], .done, rfl⟩
  | cons site more ih =>
    obtain ⟨births, first⟩ := runs site.contract (.ofSite site id type) s h
    obtain ⟨targets, births', rest, eq⟩ := ih _ (first.context_eq ▸ h)
    exact ⟨_ :: targets, _, first.cons rest, by simp [fillSites, eq]⟩

/-! ## Bound nodes -/

theorem recipeOf_isMade (contract : TypeExpr) (b : Binding) (σ : Substitution) (memo : ProbeMemo) :
    (r.recipeOf contract b σ memo).1.kind.isMade := by
  unfold recipeOf
  split
  · dsimp only
    split
    · split <;> rfl
    · rfl
  · rfl
  · rfl

/-- What a binding makes holds its parts at once. -/
theorem dependenciesOf_parts {kind : NodeKind} (made : kind.isMade) (c : Recipe)
    (id : NodeId) (targets : List Target) :
    dependenciesOf kind (c.parts id) targets =
      List.zipWith (fun site target => ⟨site, target, false⟩) c.sites targets := by
  have eager : kind.isDeferred = false := by
    cases kind <;> first | rfl | nomatch made
  simp [dependenciesOf, Recipe.parts, List.zipWith_map_left, eager]

/-- What the sites of a node opened for a binding are filled with. -/
def fillBound (r : Resolver) (below : Resolution) (choice : Choice) (s : Session) :
    List Dependency × Session :=
  let c := (r.recipeOf choice.contract choice.binding choice.substitution s.memo).1
  fillSites below s.nextNode c.resultType c.sites (r.openBound choice s).inner

theorem openBound_context (choice : Choice) (s : Session) :
    (r.openBound choice s).inner.context =
      { s.context with owner := (r.openBound choice s).node.owner }.push choice.contract
        choice.tag s.nextNode := rfl

theorem openBound_run {below : Resolution} (choice : Choice) {s : Session}
    (runs : RunsAt r below (s.context.depth + 1)) :
    ∃ targets births,
      r.Run ((r.openBound choice s).parts.map (·.ask)) (r.openBound choice s).inner targets
        (r.fillBound below choice s).2 births ∧
      dependenciesOf (r.openBound choice s).node.kind (r.openBound choice s).parts targets
        = (r.fillBound below choice s).1 := by
  obtain ⟨targets, births, run, eq⟩ := fillSites_run runs s.nextNode
    (r.recipeOf choice.contract choice.binding choice.substitution s.memo).1.resultType
    (r.recipeOf choice.contract choice.binding choice.substitution s.memo).1.sites
    (r.openBound choice s).inner rfl
  refine ⟨targets, births, ?_, ?_⟩
  · simpa [fillBound, openBound, Recipe.parts, Function.comp_def] using run
  · exact (dependenciesOf_parts (recipeOf_isMade ..) ..).trans eq.symm

theorem construct_fresh {below : Resolution} {choice : Choice} {s : Session}
    (link : s.context.find? choice.contract choice.tag = none)
    (share : s.sharedNode? choice.contract choice.tag choice.source choice.binding.lifetime
      = none) :
    r.construct below choice.contract choice.tag choice.source choice.binding
        choice.substitution s =
      (.node s.nextNode,
        ((r.fillBound below choice s).2.popLink.setOwner s.context.owner).connect s.nextNode
          (r.fillBound below choice s).1) := by
  simp only [construct, link, share]
  rfl

theorem construct_run {below : Resolution} {ask s choice s'} (chosen : r.Chooses ask s choice s')
    (runs : RunsAt r below (s.context.depth + 1)) :
    ∃ births, r.Run [ask] s
      [(r.construct below choice.contract choice.tag choice.source choice.binding
        choice.substitution s').1]
      (r.construct below choice.contract choice.tag choice.source choice.binding
        choice.substitution s').2 births := by
  have context : s'.context = s.context := chosen.extends.context
  have next : s'.nextNode = s.nextNode := congrArg List.length chosen.nodes_eq
  cases link : s'.context.find? choice.contract choice.tag with
  | some id =>
    simp only [construct, link]
    exact ⟨_, .settle (.linked chosen link) .done⟩
  | none =>
    cases share : s'.sharedNode? choice.contract choice.tag choice.source
        choice.binding.lifetime with
    | some id =>
      simp only [construct, link, share]
      exact ⟨_, .settle (.shared chosen link share) .done⟩
    | none =>
      obtain ⟨targets, births, run, eq⟩ := openBound_run choice (context ▸ runs)
      obtain ⟨births', whole⟩ := Run.of_opens (.bound chosen link share) run
      refine ⟨births', ?_⟩
      rw [construct_fresh link share,
        close_of_link (run.context_eq.trans (openBound_context choice s')), ← eq, context, next]
      exact whole

/-! ## Built-in shapes -/

theorem constructMatch_run {below : Resolution} (contract : TypeExpr) (d : Demand) (found : Match)
    {s : Session} (runs : RunsAt r below (s.context.depth + 1)) :
    ∃ births, r.Run [.candidate contract d found] s
      [(r.constructMatch below contract d found s).1]
      (r.constructMatch below contract d found s).2 births := by
  unfold constructMatch
  split
  · next missing => exact ⟨_, .settle (.lost missing) .done⟩
  · next b binding => exact construct_run (.candidate binding) runs

theorem collectItems_run {below : Resolution} {depth : Nat} (runs : RunsAt r below (depth + 1))
    (d : Demand) (element : TypeExpr) (id : NodeId) (index : Nat) (found : List Match)
    (s : Session) (h : s.context.depth = depth) :
    ∃ targets births,
      r.Run ((r.itemParts d element id index found).map (·.ask)) s targets
        (r.collectItems below d element id index found s).2 births ∧
      (r.collectItems below d element id index found s).1 =
        List.zipWith (fun part target => ⟨part.site, target, false⟩)
          (r.itemParts d element id index found) targets := by
  induction found generalizing s index with
  | nil => exact ⟨[], [], .done, rfl⟩
  | cons m more ih =>
    let site := partSite ("item" ++ toString index) element
      (r.registry.tagKey m.binding).value?
    obtain ⟨births, first⟩ := constructMatch_run element (d.inside site id) m (h ▸ runs)
    obtain ⟨targets, births', rest, eq⟩ := ih (index + 1) _ (first.context_eq ▸ h)
    exact ⟨_ :: targets, _, first.cons rest, congrArg (_ :: ·) eq⟩

theorem accumulate_run {contract : TypeExpr} {d : Demand} {s : Session} {index : Nat}
    (room : s.context.depth < r.options.maxDepth)
    (lookup : r.lookup ⟨contract, d.tag, d.path⟩ = none)
    (accumulator : r.askedAccumulator contract = some index) :
    ∃ births, r.Run [.request contract d] s
      [(accumulate contract d index (r.asked contract d s)).1]
      (accumulate contract d index (r.asked contract d s)).2 births := by
  unfold accumulate
  split
  · next id share => exact ⟨_, .settle (.accumulated room lookup accumulator share) .done⟩
  · next share =>
    obtain ⟨births, whole⟩ := Run.of_opens (.accumulated room lookup accumulator share) .done
    refine ⟨births, ?_⟩
    have closed : r.Run [.request contract d] s [.node s.nextNode]
        (((r.asked contract d s).addNode (shapeNode s.context contract d (.accumulator index)
          .perResolve)).close s.context s.nextNode []) births := whole
    rw [show s.context = (r.asked contract d s).context from rfl,
      show s.nextNode = (r.asked contract d s).nextNode from rfl, close_leaf rfl] at closed
    exact closed

/-- A node of a built-in shape, once its parts are resolved. -/
theorem shape_run {contract : TypeExpr} {d : Demand} {kind : NodeKind} {s s' : Session}
    {targets : List Target} {births : List Birth} (room : s.context.depth < r.options.maxDepth)
    (unbound : r.Unbound contract d) (shape : contract.shape? = some kind)
    (parts : r.Run ((r.shapeParts d s.nextNode contract).map (·.ask))
      (r.openShape contract d kind (r.asked contract d s)).inner targets s' births) :
    ∃ births', r.Run [.request contract d] s [.node s.nextNode]
      (s'.close s.context s.nextNode
        (dependenciesOf kind (r.shapeParts d s.nextNode contract) targets)) births' :=
  Run.of_opens (.shape room unbound shape) parts

/-- The items of a collection, as the session stands once it is opened. -/
def fillCollection (r : Resolver) (below : Resolution) (kind : CollectionKind)
    (element : TypeExpr) (d : Demand) (s : Session) : List Dependency × Session :=
  r.collectItems below d element s.nextNode 0 (r.registry.allMatches element)
    (r.openShape (.collection kind element) d (.collection kind element kind.isLazy) s).inner

theorem collect_eq (below : Resolution) (kind : CollectionKind) (element : TypeExpr) (d : Demand)
    (s : Session) :
    r.collect below (.collection kind element) kind element d s =
      (.node s.nextNode,
        ((r.fillCollection below kind element d s).2.setBlock s.context.block).connect s.nextNode
          (r.fillCollection below kind element d s).1) := by
  cases kind <;> rfl

theorem collect_run {below : Resolution} {kind : CollectionKind} {element : TypeExpr} {d : Demand}
    {s : Session} (runs : RunsAt r below (s.context.depth + 1))
    (room : s.context.depth < r.options.maxDepth)
    (unbound : r.Unbound (.collection kind element) d) :
    ∃ births, r.Run [.request (.collection kind element) d] s
      [(r.collect below (.collection kind element) kind element d
        (r.asked (.collection kind element) d s)).1]
      (r.collect below (.collection kind element) kind element d
        (r.asked (.collection kind element) d s)).2 births := by
  obtain ⟨block, entered⟩ : ∃ block, (r.openShape (.collection kind element) d
      (.collection kind element kind.isLazy) (r.asked (.collection kind element) d s)).inner.context
        = { s.context with block } := by
    cases kind <;> exact ⟨_, rfl⟩
  obtain ⟨targets, births, run, eq⟩ := collectItems_run runs d element s.nextNode 0
    (r.registry.allMatches element) _ (by rw [entered]; rfl)
  obtain ⟨births', whole⟩ := shape_run room unbound rfl run
  refine ⟨births', ?_⟩
  let filled := r.fillCollection below kind element d (r.asked (.collection kind element) d s)
  have closed : (filled.2.setBlock s.context.block).connect s.nextNode filled.1 =
      filled.2.close s.context s.nextNode filled.1 :=
    close_of_block (run.context_eq.trans entered)
  rw [collect_eq]
  exact closed ▸ eq ▸ whole

/-- The target of a wrapper, as the session stands once it is opened. -/
def fillWrapper (r : Resolver) (kind : NodeKind) (contract target : TypeExpr)
    (resolveTarget : Demand → Session → Target × Session) (d : Demand) (s : Session) :
    Target × Session :=
  resolveTarget (d.inside (partSite "target" target d.tag) s.nextNode)
    (r.openShape contract d kind s).inner

theorem wrap_eq {kind : NodeKind} (h : kind = .func ∨ kind = .lazy ∨ kind = .owned)
    (contract target : TypeExpr) (resolveTarget : Demand → Session → Target × Session) (d : Demand)
    (s : Session) :
    wrap kind contract target resolveTarget d s =
      (.node s.nextNode,
        (((r.fillWrapper kind contract target resolveTarget d s).2.setBlock
          s.context.block).setOwner s.context.owner).connect s.nextNode
            [⟨partSite "target" target d.tag,
              (r.fillWrapper kind contract target resolveTarget d s).1, kind.isDeferred⟩]) := by
  rcases h with rfl | rfl | rfl <;> rfl

theorem wrap_run {contract target : TypeExpr} {kind : NodeKind} {d : Demand} {s : Session}
    {resolveTarget : Demand → Session → Target × Session}
    (runs : ∀ d s', s'.context.depth = s.context.depth → ∃ births,
      r.Run [.request target d] s' [(resolveTarget d s').1] (resolveTarget d s').2 births)
    (room : s.context.depth < r.options.maxDepth) (unbound : r.Unbound contract d)
    (kinds : kind = .func ∨ kind = .lazy ∨ kind = .owned) (shape : contract.shape? = some kind)
    (part : r.shapeParts d s.nextNode contract = [targetPart d s.nextNode target]) :
    ∃ births, r.Run [.request contract d] s
      [(wrap kind contract target resolveTarget d (r.asked contract d s)).1]
      (wrap kind contract target resolveTarget d (r.asked contract d s)).2 births := by
  obtain ⟨block, owner, entered⟩ : ∃ block owner, (r.openShape contract d kind
      (r.asked contract d s)).inner.context = { s.context with block, owner } := by
    rcases kinds with rfl | rfl | rfl <;> exact ⟨_, _, rfl⟩
  obtain ⟨births, run⟩ := runs (d.inside (partSite "target" target d.tag) s.nextNode)
    (r.openShape contract d kind (r.asked contract d s)).inner (by rw [entered]; rfl)
  have asks : (r.shapeParts d s.nextNode contract).map (·.ask)
      = [.request target (d.inside (partSite "target" target d.tag) s.nextNode)] := by
    rw [part]
    rfl
  obtain ⟨births', whole⟩ := shape_run room unbound shape (asks ▸ run)
  refine ⟨births', ?_⟩
  rw [part] at whole
  rw [wrap_eq (r := r) kinds]
  exact (close_of_block_owner (run.context_eq.trans entered)).symm ▸ whole

/-! ## Requests -/

theorem resolveItems_run {below : Resolution} {depth : Nat} {items : List TypeExpr}
    (runs : ∀ item ∈ items, ∀ d s, s.context.depth = depth → ∃ births,
      r.Run [.request item d] s [(r.resolveAt below item d s).1] (r.resolveAt below item d s).2
        births)
    (d : Demand) (id : NodeId) (index : Nat) (s : Session) (h : s.context.depth = depth) :
    ∃ targets births,
      r.Run ((tupleParts d id index items).map (·.ask)) s targets
        (r.resolveItems below d id index items s).2 births ∧
      (r.resolveItems below d id index items s).1 =
        List.zipWith (fun part target => ⟨part.site, target, false⟩) (tupleParts d id index items)
          targets := by
  induction items generalizing s index with
  | nil => exact ⟨[], [], by simpa [resolveItems] using .done, by simp [resolveItems, tupleParts]⟩
  | cons item more ih =>
    let site := partSite ("item" ++ toString index) item none
    obtain ⟨births, first⟩ := runs item List.mem_cons_self (d.inside site id) s h
    obtain ⟨targets, births', rest, eq⟩ := ih (fun item mem => runs item (.tail _ mem)) (index + 1)
      _ (first.context_eq ▸ h)
    refine ⟨(r.resolveAt below item (d.inside site id) s).1 :: targets, births ++ births', ?_, ?_⟩
    · rw [resolveItems]
      exact first.cons rest
    · rw [resolveItems]
      exact congrArg (_ :: ·) eq

/-- The tail of a resolution: no binding answers, and so the shape of the contract decides. -/
theorem resolveUnbound_run {below : Resolution} {contract : TypeExpr} {d : Demand} {s : Session}
    (runs : RunsAt r below (s.context.depth + 1)) (room : s.context.depth < r.options.maxDepth)
    (parts : ∀ part ∈ contract.children, ∀ d s', s'.context.depth = s.context.depth →
      ∃ births, r.Run [.request part d] s' [(r.resolveAt below part d s').1]
        (r.resolveAt below part d s').2 births)
    (unbound : r.Unbound contract d) :
    ∃ births, r.Run [.request contract d] s [(r.resolveAt below contract d s).1]
      (r.resolveAt below contract d s).2 births := by
  obtain ⟨lookup, accumulator⟩ := id unbound
  rw [resolveAt.eq_def]
  simp only [lookup, accumulator]
  cases contract with
  | named path args =>
    cases auto : r.autoBinding (.named path args) with
    | none =>
      simp only [auto]
      exact ⟨_, .settle (.refused room unbound rfl auto) .done⟩
    | some b =>
      simp only [auto]
      exact construct_run (.auto room unbound auto) runs
  | marker name =>
    have auto : r.autoBinding (.marker name) = none := by simp [autoBinding, TypeExpr.isNamed]
    exact ⟨_, .settle (.refused room unbound rfl auto) .done⟩
  | collection kind element => exact collect_run runs room unbound
  | func target =>
    exact wrap_run (parts target List.mem_cons_self) room unbound (.inl rfl) rfl rfl
  | lazy target =>
    exact wrap_run (parts target List.mem_cons_self) room unbound (.inr (.inl rfl)) rfl rfl
  | owned target =>
    exact wrap_run (parts target List.mem_cons_self) room unbound (.inr (.inr rfl)) rfl rfl
  | tuple items =>
    obtain ⟨targets, births, run, eq⟩ := resolveItems_run parts d s.nextNode 0
      (r.openShape (.tuple items) d .tuple (r.asked (.tuple items) d s)).inner rfl
    obtain ⟨births', whole⟩ := shape_run room unbound rfl run
    refine ⟨births', ?_⟩
    have deps : dependenciesOf .tuple (r.shapeParts d s.nextNode (.tuple items)) targets = _ :=
      eq.symm
    have back : _ = s.context := run.context_eq
    rw [deps, ← close_of_same back] at whole
    exact whole

theorem resolveAt_run {below : Resolution} {depth : Nat} (room : depth < r.options.maxDepth)
    (runs : RunsAt r below (depth + 1)) : RunsAt r (r.resolveAt below) depth := by
  intro contract
  -- The parts of a contract are resolved at its own depth, the sites of a binding one deeper.
  induction contract using TypeExpr.parts_induction with
  | step contract parts =>
    intro d s h
    subst h
    cases lookup : r.lookup ⟨contract, d.tag, d.path⟩ with
    | some found =>
      rw [resolveAt.eq_def]
      simp only [lookup]
      unfold constructMatch
      split
      · next binding => exact ⟨_, .settle (.missing room lookup binding) .done⟩
      · next b binding => exact construct_run (.bound room lookup binding) runs
    | none =>
      cases accumulator : r.askedAccumulator contract with
      | some index =>
        rw [resolveAt.eq_def]
        simp only [lookup, accumulator]
        exact accumulate_run room lookup accumulator
      | none => exact resolveUnbound_run runs room parts ⟨lookup, accumulator⟩

/-- Every resolution is a run, with as much room as the depth limit leaves. -/
theorem resolve_run {room depth : Nat} (h : depth + room = r.options.maxDepth) :
    RunsAt r (r.resolve room) depth := by
  induction room generalizing depth with
  | zero =>
    intro contract d s eq
    exact ⟨_, .settle (.cut (eq.trans h)) .done⟩
  | succ room ih => exact resolveAt_run (by omega) (ih (by omega))

end Wiring.Resolver
