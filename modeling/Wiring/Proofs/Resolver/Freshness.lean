import Mathlib
import Wiring.Proofs.Resolver.Sharing

/-!
# Resolver — Freshness

A node that is not shared is made for one request and for no other. Of the roots and of the nodes
before it, exactly one edge leads to it; all other edges to it come from its own construction, by
links back to it from the chain below.
-/

namespace Wiring.Resolver

open Session

variable {r : Resolver}

/-! ## Links back -/

/-- A node without a scope is never found as a shared one. -/
theorem Records.not_shared {births : List Birth} {s s' : Session} (h : Records births s)
    (nodes : s'.graph.nodes = s.graph.nodes) {id : Nat} {b : Birth} (born : births[id]? = some b)
    (unshared : b.node.scope = none) {contract : TypeExpr} {tag : TagKey} {source : Source}
    {lifetime : Lifetime} : s'.sharedNode? contract tag source lifetime ≠ some id := by
  intro share
  obtain ⟨scope, n, -, node, -, -, shared, -⟩ := sharedNode?_spec share
  have faces := congrArg (·[id]?) h.faces
  rw [nodes] at node
  simp only [List.getElem?_map, node, born, Option.map_some, Option.some.injEq] at faces
  rw [← faces] at unshared
  exact absurd (shared.symm.trans unshared) (by simp)

/-- A request that is settled by a node without a scope is linked back to it. -/
theorem Settles.links_back {ask s s' past} {id : Nat} {b : Birth}
    (h : r.Settles ask s (.node id) s') (records : Records past s) (born : past[id]? = some b)
    (unshared : b.node.scope = none) : ∃ link ∈ s.context.chain, link.node = id := by
  rcases h.finds with linked | ⟨_, _, _, _, share⟩
  · exact linked
  · exact absurd share (records.not_shared h.nodes_eq born unshared)

theorem count_filterMap_node (targets : List Target) (id : NodeId) :
    (targets.filterMap Target.node?).count id = targets.count (.node id) := by
  induction targets with
  | nil => rfl
  | cons target targets ih =>
    cases target <;> simp [Target.node?, List.filterMap_cons, List.count_cons, ih]

namespace Recorded

variable {asks : List Ask} {s s' : Session} {targets : List Target} {births past : List Birth}
  {id m : Nat} {b b' : Birth}

/-- A run is only answered with an earlier node without a scope when the node is on its chain. -/
theorem links_back (h : Recorded r past asks s targets s' births) (born : past[id]? = some b)
    (unshared : b.node.scope = none) (mem : .node id ∈ targets) :
    ∃ link ∈ s.context.chain, link.node = id := by
  induction h with
  | done => simp at mem
  | settle records settled _ ih =>
    rcases List.mem_cons.1 mem with here | later
    · subst here
      exact settled.links_back records born unshared
    · rw [← settled.extends.context]
      exact ih born later
  | make records opened _ _ _ ih' =>
    rcases List.mem_cons.1 mem with here | later
    · have lt := (List.getElem?_eq_some_iff.1 born).1
      have same : id = _ := Target.node.inj here
      rw [records.length_eq] at same
      omega
    · exact ih' (getElem?_mono (List.prefix_append ..) born) later

theorem not_answered (h : Recorded r past asks s targets s' births) (born : past[id]? = some b)
    (unshared : b.node.scope = none) (apart : ∀ link ∈ s.context.chain, link.node ≠ id) :
    targets.count (.node id) = 0 := by
  refine List.count_eq_zero.2 fun mem => ?_
  obtain ⟨link, held, same⟩ := h.links_back born unshared mem
  exact apart link held same

/-! ## One request -/

/-- A new node without a scope is asked for once, by the run or by a node before it. -/
theorem asked_once (h : Recorded r past asks s targets s' births) (new : past.length ≤ id)
    (born : (past ++ births)[id]? = some b) (unshared : b.node.scope = none) :
    targets.count (.node id) +
      ∑ m ∈ Finset.Ico past.length id, (s'.graph.successors m).count id = 1 := by
  induction h with
  | done =>
    have lt := (List.getElem?_eq_some_iff.1 born).1
    rw [List.append_nil] at lt
    omega
  | @settle past ask s target s' more targets s'' births records settled rest ih =>
    have old : target ≠ .node id := by
      rintro rfl
      have isIn : id < s'.nextNode := records.settled_isIn settled
      rw [rest.records.length_eq] at isIn
      omega
    rw [List.count_cons_of_ne old]
    exact ih new born
  | @make past ask s o inside s' births more targets s'' births' records opened parts rest ih ih' =>
    have closing := rest.records
    have next : s.nextNode = past.length := records.length_eq
    have opens_other (ne : past.length ≠ id) : Target.node s.nextNode ≠ .node id := by
      rw [next]
      exact fun same => ne (Target.node.inj same)
    have length := length_append_cons past births (o.birth s)
    obtain ⟨leads, agree⟩ := records.successors_after opened parts.run closing rest.run
    rcases Nat.lt_or_ge id (past ++ o.birth s :: births).length with within | after
    · -- The node is the open one or was made inside it, so what comes later is not led to it.
      have born' := (getElem?_append_cons within).symm.trans born
      have later : targets.count (.node id) = 0 := by
        refine rest.not_answered (by simpa using born') unshared fun link held same => ?_
        have lt : link.node < past.length := records.chain link held
        rw [same] at lt
        exact absurd new (Nat.not_le_of_lt lt)
      rcases Nat.eq_or_lt_of_le new with rfl | inner
      · simp [next, later]
      · -- The parts of the open node ask for it or lead to it; its own edges are their answers.
        have ne := opens_other (by omega)
        have once := ih (by simpa using inner) born'
        have same : ∑ m ∈ Finset.Ico (past.length + 1) id, (s''.graph.successors m).count id =
            ∑ m ∈ Finset.Ico (past.length + 1) id, (s'.graph.successors m).count id := by
          refine Finset.sum_congr rfl fun m mem => ?_
          have bounds := Finset.mem_Ico.1 mem
          rw [agree m (by omega) (by omega)]
        rw [List.length_append, List.length_singleton] at once
        rw [List.count_cons_of_ne ne, later, Finset.sum_eq_sum_Ico_succ_bot inner, leads,
          count_filterMap_node, same]
        omega
    · -- Nothing that was made with the open node leads to what comes later.
      have ne := opens_other (by omega)
      have once := ih' after (by rw [List.append_assoc]; exact born)
      have none : ∑ m ∈ Finset.Ico past.length (past ++ o.birth s :: births).length,
          (s''.graph.successors m).count id = 0 := by
        refine Finset.sum_eq_zero fun m mem => List.count_eq_zero.2 fun led => ?_
        have bounds := Finset.mem_Ico.1 mem
        rw [closing.successors_eq rest.run.extends bounds.2] at led
        have lt := closing.successors_lt led
        omega
      rw [List.count_cons_of_ne ne, ← Finset.sum_Ico_consecutive _ (by omega) after, none]
      omega

/-- An edge to a node without a scope, from itself or a later node, is a link back to it. -/
theorem returns (h : Recorded r past asks s targets s' births) (new : past.length ≤ m)
    (le : id ≤ m) (born : (past ++ births)[id]? = some b) (unshared : b.node.scope = none)
    (born' : (past ++ births)[m]? = some b') (leads : id ∈ s'.graph.successors m) :
    ∃ block, ∃ link ∈ (b'.inside block).chain, link.node = id := by
  induction h with
  | done =>
    have lt := (List.getElem?_eq_some_iff.1 born').1
    rw [List.append_nil] at lt
    omega
  | settle _ _ _ ih => exact ih new born born' leads
  | @make past ask s o inside s' births more targets s'' births' records opened parts rest ih ih' =>
    have closing := rest.records
    obtain ⟨leads', agree⟩ := records.successors_after opened parts.run closing rest.run
    rcases Nat.lt_or_ge m (past ++ o.birth s :: births).length with within | after
    · rw [getElem?_append_cons within] at born'
      rw [getElem?_append_cons (Nat.lt_of_le_of_lt le within)] at born
      rcases Nat.eq_or_lt_of_le new with rfl | later
      · -- The open node leads to an older one only where a part was answered with it.
        have self : b' = o.birth s := by simpa using born'.symm
        have old : (past ++ [o.birth s])[id]? = some b := by
          rw [← born]
          exact (List.getElem?_append_left (by simp; omega)).symm
        rw [leads', mem_filterMap_node] at leads
        obtain ⟨link, held, same⟩ := parts.links_back old unshared leads
        obtain ⟨block, context⟩ := opened.inner_context
        exact ⟨block, link, self ▸ context ▸ held, same⟩
      · rw [agree m later within] at leads
        exact ih (by simpa using later) born born' leads
    · rw [← List.append_assoc] at born born'
      exact ih' after born born' leads

end Recorded

/-! ## Whole graphs -/

variable {roots : List (Root × Nat)} {births : List Birth} {s : Session}

/-- How the nodes without a scope are led to. -/
structure Fresh (births : List Birth) (g : Graph) : Prop where
  once : ∀ (id : Nat) b, births[id]? = some b → b.node.scope = none →
    g.roots.countP (·.target = .node id) +
      ∑ m ∈ Finset.range id, (g.successors m).count id = 1
  returns : ∀ (id m : Nat) b b', births[id]? = some b → b.node.scope = none →
    births[m]? = some b' → id ≤ m → id ∈ g.successors m →
    ∃ block, ∃ link ∈ (b'.inside block).chain, link.node = id

/-- Nothing leads to a node that is not there yet. -/
theorem History.not_led (h : History r roots births s) {id : Nat} (new : births.length ≤ id) :
    s.graph.roots.countP (·.target = .node id) = 0 ∧ ∀ m, (s.graph.successors m).count id = 0 := by
  refine ⟨List.countP_eq_zero.2 fun e mem eq => ?_, fun m => List.count_eq_zero.2 fun leads => ?_⟩
  · obtain ⟨i, edge⟩ := List.mem_iff_getElem?.1 mem
    obtain ⟨_, -, answer⟩ := h.root_answer edge
    have isIn := answer.isIn
    rw [of_decide_eq_true eq] at isIn
    exact absurd (h.length_eq ▸ isIn) (Nat.not_lt_of_le new)
  · exact absurd (h.records.successors_lt leads) (Nat.not_lt_of_le new)

/-- The nodes of one more root are fresh as well. -/
theorem Fresh.concat {births' : List Birth} {s' : Session}
    {root : Root} {index : Nat} {target : Target} (fresh : Fresh births s.graph)
    (h : History r roots births s)
    (run : r.Run [.request root.contract (.ofRoot root)] (s.enterRoot root index) [target] s'
      births') : Fresh (births ++ births') (s'.leaveRoot ⟨root, target⟩).graph := by
  have entered := h.records.enterRoot root index
  have recorded := run.recorded entered
  have same (m : Nat) (lt : m < births.length) :
      s'.graph.successors m = s.graph.successors m := entered.successors_eq run.extends lt
  have roots_eq : (s'.leaveRoot ⟨root, target⟩).graph.roots = s.graph.roots ++ [⟨root, target⟩] :=
    congrArg (· ++ [(⟨root, target⟩ : RootEdge)]) run.extends.roots
  have last (id : NodeId) : [(⟨root, target⟩ : RootEdge)].countP (·.target = .node id) =
      [target].count (.node id) := by
    simp [List.count_cons]
  refine ⟨fun id b born unshared => ?_, fun id m b b' born unshared born' le leads => ?_⟩
  · rw [roots_eq, List.countP_append, last]
    rcases Nat.lt_or_ge id births.length with old | new
    · rw [List.getElem?_append_left old] at born
      have none := recorded.not_answered born unshared (by simp [Session.enterRoot, Context.atRoot])
      have sums : ∑ m ∈ Finset.range id, (s'.graph.successors m).count id =
          ∑ m ∈ Finset.range id, (s.graph.successors m).count id := by
        refine Finset.sum_congr rfl fun m mem => ?_
        rw [same m (Nat.lt_trans (Finset.mem_range.1 mem) old)]
      rw [none, Nat.add_zero]
      exact sums ▸ fresh.once id b born unshared
    · obtain ⟨none, quiet⟩ := h.not_led new
      have early : ∑ m ∈ Finset.range births.length, (s'.graph.successors m).count id = 0 := by
        refine Finset.sum_eq_zero fun m mem => ?_
        rw [same m (Finset.mem_range.1 mem), quiet m]
      have once := recorded.asked_once new born unshared
      have sums := Finset.sum_range_add_sum_Ico (fun m => (s'.graph.successors m).count id) new
      show _ + ∑ m ∈ Finset.range id, (s'.graph.successors m).count id = 1
      rw [none, ← sums, early]
      omega
  · rcases Nat.lt_or_ge m births.length with old | new
    · rw [List.getElem?_append_left old] at born'
      rw [List.getElem?_append_left (Nat.lt_of_le_of_lt le old)] at born
      exact fresh.returns id m b b' born unshared born' le (same m old ▸ leads)
    · exact recorded.returns new le born unshared born' leads

/-- A transient node is made for one request. Exactly one edge leads to it from a root or from a node
before it; any other comes from its own construction, that is from a node that it leads to. -/
theorem build_fresh (r : Resolver) (found : List Diagnostic) (roots : List Root) :
    let g := (r.build found roots).1
    ∀ id n, g.node? id = some n → n.lifetime = .transient →
      g.roots.countP (·.target = .node id) + ∑ m ∈ Finset.range id, (g.successors m).count id = 1 ∧
        ∀ m, id ≤ m → id ∈ g.successors m → Traversal.Reaches g.successors id m := by
  obtain ⟨births, h, fresh⟩ := resolveRoots_induction (r := r) found
    (motive := fun roots births => Fresh births (r.resolveRoots (.begin found) roots).graph)
    ⟨by simp, by simp⟩
    (by
      intro roots births root target s' births' h fresh run whole
      rw [whole]
      exact fresh.concat h run)
    roots
  intro g id n node transient
  obtain ⟨b, born, closed⟩ := h.birth node
  have unshared : b.node.scope = none := by
    have scope := h.scope_eq born node
    rw [Context.sharingOf_eq_none_iff.2 transient] at scope
    rw [← closed.face_eq]
    exact scope
  refine ⟨fresh.once id b born unshared, fun m le leads => ?_⟩
  obtain ⟨n', -, node', -⟩ := Graph.mem_successors.1 leads
  obtain ⟨b', born', -⟩ := h.birth node'
  obtain ⟨block, link, held, same⟩ := fresh.returns id m b b' born unshared born' le leads
  have mem := List.mem_of_mem_filter (h.mem_of_link born' held)
  rw [same] at mem
  rcases List.mem_cons.1 mem with rfl | above
  · exact .refl
  · exact Graph.reaches_of_mem_makers above

/-! ## Parents and children

A parent has a child, which can make its parent: the factory leads back to the one that is there.
-/

def parent : TypeExpr := .named "Parent" []

def child : TypeExpr := .named "Child" []

def family : Resolver where
  registry := ((Registry.empty .empty .structural).registerAll
    [.plain parent (.factory "parent" [.parameter "child" child]),
      .plain child (.factory "child" [.parameter "parent" (.func parent)])]).1
  options := { Options.standard with maxDepth := 3 }
  accumulators := []
  autoBinds := false
  filter := none

abbrev familyGraph : Graph := (family.build [] [.untagged "main" parent]).1

theorem familyGraph_facts :
    (familyGraph.node? 0).map (·.lifetime) = some .transient ∧
      familyGraph.successors 2 = [0] := by cbv

theorem build_fresh_family :
    familyGraph.roots.countP (·.target = .node 0) = 1 ∧
      Traversal.Reaches familyGraph.successors 0 2 := by
  obtain ⟨lifetime, successors⟩ := familyGraph_facts
  obtain ⟨n, node, transient⟩ := Option.map_eq_some_iff.1 lifetime
  obtain ⟨once, back⟩ := build_fresh family [] _ 0 n node transient
  refine ⟨by simpa using once, back 2 (by decide) ?_⟩
  rw [successors]
  exact List.mem_cons_self

end Wiring.Resolver
