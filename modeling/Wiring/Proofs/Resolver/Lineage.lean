import Wiring.Proofs.Graph.Makers
import Wiring.Proofs.Resolver.Records

/-!
# Resolver — Lineage

Every node of a run is either asked for by the run itself or by the parts of an earlier node of the
run, its maker. No node between the two leads to it, so the finished graph still shows which one the
maker is.
-/

namespace Wiring.Resolver

open Session

variable {r : Resolver}

/-- How the node `id` came to be asked for, in a run from `start` in a context. -/
inductive Lineage (g : Graph) (births : List Birth) (c : Context) (start : Nat)
    (targets : List Target) (id : NodeId) (b : Birth) : Prop where
  | asked (context : b.context = c) (target : .node id ∈ targets) (quiet : g.Quiet start id)
  | inside {m maker block} (born : births[m]? = some maker) (from_start : start ≤ m) (lt : m < id)
      (context : b.context = maker.inside block) (leads : id ∈ g.successors m)
      (quiet : g.Quiet (m + 1) id)

namespace Lineage

variable {g g' : Graph} {births births' : List Birth} {c : Context} {start : Nat}
  {targets targets' : List Target} {id : NodeId} {b : Birth}

theorem quiet_of_agree {position : Nat} (h : g.Quiet position id)
    (agree : ∀ m, position ≤ m → m < id → g'.successors m = g.successors m) :
    g'.Quiet position id :=
  fun m le lt => agree m le lt ▸ h m le lt

/-- Nodes before the run and after the one in question do not matter. -/
theorem mono (h : Lineage g births c start targets id b) (more : births <+: births')
    (asked : .node id ∈ targets → .node id ∈ targets')
    (agree : ∀ m, start ≤ m → m < id → g'.successors m = g.successors m) :
    Lineage g' births' c start targets' id b := by
  cases h with
  | asked context target quiet =>
    exact .asked context (asked target) (quiet_of_agree quiet agree)
  | inside born from_start lt context leads quiet =>
    refine .inside (getElem?_mono more born) from_start lt context ?_ ?_
    · exact agree _ from_start lt ▸ leads
    · exact quiet_of_agree quiet fun m le => agree m (by omega)

/-- What was asked for by the parts of a node has the node as its maker. -/
theorem of_parts {maker block m} (h : Lineage g births (maker.inside block) (m + 1) targets id b)
    (born : births[m]? = some maker) (lt : m < id)
    (leads : .node id ∈ targets → id ∈ g.successors m) :
    Lineage g births c m targets' id b := by
  cases h with
  | asked context target quiet =>
    exact .inside born (Nat.le_refl m) lt context (leads target) quiet
  | inside born' from_start lt' context leads' quiet =>
    exact .inside born' (by omega) lt' context leads' quiet

/-- What was asked for after some nodes that do not lead to it. -/
theorem of_rest {earlier : Nat} (h : Lineage g births c start targets id b) (le : earlier ≤ start)
    (asked : .node id ∈ targets → .node id ∈ targets')
    (before : ∀ m, earlier ≤ m → m < start → id ∉ g.successors m) :
    Lineage g births c earlier targets' id b := by
  cases h with
  | asked context target quiet =>
    refine .asked context (asked target) fun m from_earlier lt => ?_
    by_cases h : m < start
    · exact before m from_earlier h
    · exact quiet m (by omega) lt
  | inside born from_start lt context leads quiet =>
    exact .inside born (by omega) lt context leads quiet

end Lineage

/-! ## Successors in a growing graph -/

/-- The nodes that were there stay as they were. -/
theorem Records.successors_eq {births : List Birth} {s s' : Session} (h : Records births s)
    (more : Extends s s') {m : Nat} (lt : m < births.length) :
    s'.graph.successors m = s.graph.successors m := by
  have there := List.getElem?_eq_getElem (h.length_eq ▸ lt : m < s.nextNode)
  rw [Graph.successors, Graph.successors, Graph.node?, Graph.node?, there,
    getElem?_mono more.nodes there]

theorem successors_modifyNode_of_ne {g : Graph} {f : Node → Node} {id m : NodeId} (ne : id ≠ m) :
    (g.modifyNode id f).successors m = g.successors m := by
  simp [Graph.successors, Graph.node?, Graph.modifyNode, ne]

/-- A closed node leads to what its parts were answered with. -/
theorem Opens.successors_close {ask s o inside s' births} (opened : r.Opens ask s o)
    (parts : r.Run (o.parts.map (·.ask)) o.inner inside s' births) :
    (s'.close s.context s.nextNode (dependenciesOf o.node.kind o.parts inside)).graph.successors
      s.nextNode = inside.filterMap Target.node? := by
  obtain ⟨more, -, after⟩ := opened.closed_nodes parts.extends
    (dependenciesOf o.node.kind o.parts inside)
  rw [Graph.successors, Graph.node?, after, nextNode, List.getElem?_append_right (Nat.le_refl _),
    Nat.sub_self, List.getElem?_cons_zero]
  have targets := targets_dependenciesOf o.node.kind
    (by simpa using parts.length_targets.symm : o.parts.length = inside.length)
  conv_rhs => rw [← targets, List.filterMap_map]
  rfl

/-- Where a node leads to is there. -/
theorem Records.successors_lt {births : List Birth} {s : Session} (h : Records births s)
    {m id : Nat} (leads : id ∈ s.graph.successors m) : id < births.length := by
  rw [← h.length_eq]
  exact h.whole.successors_lt leads

/-- What the nodes lead to once a node is closed and more is resolved after it: the open node leads
to what its parts were answered with, and all that was made inside it stays as it was. -/
theorem Records.successors_after {asks : List Ask} {past births births' : List Birth} {o : Opening}
    {ask : Ask} {s s' s'' : Session} {inside targets : List Target} (records : Records past s)
    (opened : r.Opens ask s o) (parts : r.Run (o.parts.map (·.ask)) o.inner inside s' births)
    (closing : Records (past ++ o.birth s :: births)
      (s'.close s.context s.nextNode (dependenciesOf o.node.kind o.parts inside)))
    (rest : r.Run asks (s'.close s.context s.nextNode (dependenciesOf o.node.kind o.parts inside))
      targets s'' births') :
    s''.graph.successors past.length = inside.filterMap Target.node? ∧
      ∀ m, past.length < m → m < (past ++ o.birth s :: births).length →
        s''.graph.successors m = s'.graph.successors m := by
  refine ⟨?_, fun m gt lt => ?_⟩
  · rw [closing.successors_eq rest.extends (by simp), ← records.length_eq,
      opened.successors_close parts]
  · rw [closing.successors_eq rest.extends lt, close_graph, records.length_eq]
    exact successors_modifyNode_of_ne (Nat.ne_of_lt gt)

/-! ## The lineage of a run -/

theorem Recorded.lineage {asks s targets s' births past}
    (h : Recorded r past asks s targets s' births) {id : Nat} {b : Birth} (new : past.length ≤ id)
    (born : (past ++ births)[id]? = some b) :
    Lineage s'.graph (past ++ births) s.context past.length targets id b := by
  induction h with
  | done =>
    have lt := (List.getElem?_eq_some_iff.1 born).1
    rw [List.append_nil] at lt
    omega
  | settle _ settled _ ih =>
    have line := ih new born
    rw [settled.extends.context] at line
    exact line.mono (List.prefix_refl _) (List.mem_cons_of_mem _) fun _ _ _ => rfl
  | @make past ask s o inside s' births more targets s'' births' records opened parts rest ih ih' =>
    have closing := rest.records
    have count := length_append_cons past births (o.birth s)
    have maker : (past ++ (o.birth s :: births ++ births'))[past.length]? = some (o.birth s) := by
      simp
    -- The nodes after the open one are as they were when it was closed, or later.
    obtain ⟨leads, agree⟩ := records.successors_after opened parts.run closing rest.run
    rcases Nat.lt_or_ge id (past ++ o.birth s :: births).length with within | after
    · rcases Nat.eq_or_lt_of_le new with rfl | inner
      · have same : b = o.birth s := Option.some.inj (born.symm.trans maker)
        exact .asked (same ▸ rfl) (by simp [records.length_eq]) fun m le lt => by omega
      · obtain ⟨block, context⟩ := opened.inner_context
        have born' := (getElem?_append_cons within).symm.trans born
        have line := ih (by simpa using Nat.succ_le_of_lt inner) born'
        rw [context, List.append_assoc, List.singleton_append, List.length_append,
          List.length_singleton] at line
        have later : past ++ o.birth s :: births <+: past ++ (o.birth s :: births ++ births') := by
          rw [← List.append_assoc]
          exact List.prefix_append ..
        have line' := line.mono later (fun target => target) fun m le lt =>
          agree m le (Nat.lt_trans lt within)
        refine line'.of_parts maker inner fun target => ?_
        rw [leads]
        exact mem_filterMap_node.2 target
    · rw [← List.append_assoc] at born ⊢
      refine (ih' after born).of_rest (by omega) (List.mem_cons_of_mem _) ?_
      intro m le lt leads'
      rw [closing.successors_eq rest.run.extends lt] at leads'
      have := closing.successors_lt leads'
      omega

end Wiring.Resolver
