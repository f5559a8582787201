import Wiring.Proofs.Graph.Order

/-!
# Graph — Cycles

What the check for cycles reports and flags. A cycle is turned to where its names come first, so
that cycles whose names are the same but for a turn have the same names then, and of those one is
reported. There is a report just when there is a cycle, and nothing changes but the flags of nodes
on cycles.
-/

namespace Wiring.Graph

open Traversal

variable {g : Graph} {id : NodeId} {c c' : List NodeId}

/-! ## Least rotations -/

theorem compareLists_eq_compare (p q : NamedPath) :
    compareLists (fun a b => compare a.2 b.2) p q = compare (p.map (·.2)) (q.map (·.2)) := by
  induction p generalizing q with
  | nil => cases q <;> rfl
  | cons a p ih =>
    cases q with
    | nil => rfl
    | cons b q => rw [compareLists, ih, List.map_cons, List.map_cons, List.compare_cons_cons]

theorem leastNamed_mem (best : NamedPath) (ps : List NamedPath) :
    leastNamed best ps ∈ best :: ps := by
  induction ps generalizing best with
  | nil => exact List.mem_cons_self
  | cons p ps ih =>
    rw [leastNamed]
    split
    · exact List.mem_cons_of_mem _ (ih p)
    · rcases List.mem_cons.1 (ih best) with same | later
      · exact List.mem_cons.2 (.inl same)
      · exact List.mem_cons_of_mem _ (List.mem_cons_of_mem _ later)

/-- The names of the path that is chosen come first. -/
theorem leastNamed_isLE (best : NamedPath) (ps : List NamedPath) :
    ∀ p ∈ best :: ps, (compare ((leastNamed best ps).map (·.2)) (p.map (·.2))).isLE := by
  induction ps generalizing best with
  | nil =>
    intro p mem
    rw [List.mem_singleton.1 mem]
    exact Std.ReflCmp.isLE_rfl
  | cons p ps ih =>
    rw [leastNamed, compareLists_eq_compare, List.forall_mem_cons, List.forall_mem_cons]
    split
    · next less =>
      obtain ⟨least, later⟩ := List.forall_mem_cons.1 (ih p)
      exact ⟨Std.TransCmp.isLE_trans least (Ordering.isLE_of_eq_lt less), least, later⟩
    · next notLess =>
      obtain ⟨least, later⟩ := List.forall_mem_cons.1 (ih best)
      have before := Std.OrientedCmp.isGE_iff_isLE.1 (Ordering.isGE_iff_ne_lt.2 notLess)
      exact ⟨least, Std.TransCmp.isLE_trans least before, later⟩

theorem mem_rotations {path p : NamedPath} : p ∈ path :: rotations path ↔ path ~r p := by
  rw [List.isRotated_iff_mem_map_range, List.range_succ, List.map_append, List.map_singleton,
    List.rotate_length, List.mem_append, List.mem_singleton, or_comm, List.mem_cons]
  have same : (List.range path.length).map path.rotate = rotations path :=
    List.map_congr_left fun k lt => List.rotate_eq_drop_append_take (List.mem_range.1 lt).le
  rw [same]

/-- A cycle is turned to where its names come first. -/
theorem leastRotation_spec (g : Graph) (c : List NodeId) :
    c ~r g.leastRotation c ∧ ∀ c', c ~r c' →
      (compare ((g.leastRotation c).map g.nameOf) (c'.map g.nameOf)).isLE := by
  have turn (k : Nat) : g.named (c.rotate k) = (g.named c).rotate k := List.map_rotate ..
  have names (c : List NodeId) : (g.named c).map (·.2) = c.map g.nameOf := by simp [named]
  have least := leastNamed_isLE (g.named c) (rotations (g.named c))
  obtain ⟨k, eq⟩ := mem_rotations.1 (leastNamed_mem (g.named c) (rotations (g.named c)))
  rw [← turn] at eq
  have same : g.leastRotation c = c.rotate k := by
    rw [leastRotation, ← eq, named, List.map_map]
    exact List.map_id _
  rw [same]
  refine ⟨⟨k, rfl⟩, ?_⟩
  rintro _ ⟨l, rfl⟩
  have before := least (g.named (c.rotate l)) (mem_rotations.2 ⟨l, (turn l).symm⟩)
  rwa [← eq, names, names] at before

/-- Cycles whose names are the same but for a turn are turned to the same names. -/
theorem names_leastRotation_eq (turned : c.map g.nameOf ~r c'.map g.nameOf) :
    (g.leastRotation c).map g.nameOf = (g.leastRotation c').map g.nameOf := by
  -- The names of each are a turn of those of the other, so those of neither come before.
  have before {c c' : List NodeId} (turned : c.map g.nameOf ~r c'.map g.nameOf) :
      (compare ((g.leastRotation c).map g.nameOf) ((g.leastRotation c').map g.nameOf)).isLE := by
    obtain ⟨isTurn, -⟩ := leastRotation_spec g c'
    obtain ⟨k, eq⟩ := turned.trans (isTurn.map g.nameOf)
    rw [← eq, ← List.map_rotate]
    exact (leastRotation_spec g c).2 _ ⟨k, rfl⟩
  exact Std.LawfulEqCmp.eq_of_compare
    (Std.OrientedCmp.isLE_antisymm (before turned) (before turned.symm))

/-! ## Reports -/

theorem mem_closedCycles : c ∈ g.closedCycles ↔
    ∃ loop, .loop loop ∈ g.eagerTrace.faults ∧ g.leastRotation loop = c := by
  rw [closedCycles, List.mem_filterMap]
  constructor
  · rintro ⟨f, noted, eq⟩
    cases f with
    | loop loop => exact ⟨loop, noted, Option.some.inj eq⟩
    | missing => nomatch eq
  · rintro ⟨loop, noted, rfl⟩
    exact ⟨_, noted, rfl⟩

theorem isCycle_of_closed (mem : c ∈ g.closedCycles) : IsCycle g.eagerSuccessors c := by
  obtain ⟨loop, noted, rfl⟩ := mem_closedCycles.1 mem
  exact (isCycle_of_loop noted).rotated (leastRotation_spec g loop).1

/-- The cycles that were closed are turned to where their names come first. -/
theorem names_leastRotation_of_closed (mem : c ∈ g.closedCycles) :
    (g.leastRotation c).map g.nameOf = c.map g.nameOf := by
  obtain ⟨loop, -, rfl⟩ := mem_closedCycles.1 mem
  exact names_leastRotation_eq ((leastRotation_spec g loop).1.symm.map g.nameOf)

theorem distinctByName_sublist (seen : List (List String)) (cs : List (List NodeId)) :
    (g.distinctByName seen cs).Sublist cs := by
  induction cs generalizing seen with
  | nil => exact .slnil
  | cons c cs ih =>
    rw [distinctByName]
    split
    · exact (ih seen).cons c
    · exact (ih _).cons_cons c

theorem not_seen_of_distinct (seen : List (List String)) (cs : List (List NodeId)) :
    ∀ c ∈ g.distinctByName seen cs, c.map g.nameOf ∉ seen := by
  induction cs generalizing seen with
  | nil => exact fun c mem => nomatch mem
  | cons c cs ih =>
    rw [distinctByName]
    split
    · exact ih seen
    · next new =>
      intro c' mem
      rcases List.mem_cons.1 mem with rfl | later
      · exact new
      · exact fun old => ih _ c' later (List.mem_cons_of_mem _ old)

/-- The names of a cycle are reported once. -/
theorem distinctByName_pairwise (seen : List (List String)) (cs : List (List NodeId)) :
    (g.distinctByName seen cs).Pairwise fun c c' => c.map g.nameOf ≠ c'.map g.nameOf := by
  induction cs generalizing seen with
  | nil => exact .nil
  | cons c cs ih =>
    rw [distinctByName]
    split
    · exact ih seen
    · refine .cons (fun c' later same => ?_) (ih _)
      exact not_seen_of_distinct _ cs c' later (same ▸ List.mem_cons_self)

theorem distinctCycles_sublist (g : Graph) : g.distinctCycles.Sublist g.closedCycles :=
  distinctByName_sublist [] g.closedCycles

/-- Cycles whose names are the same but for a turn are reported once. -/
theorem distinctCycles_pairwise (g : Graph) :
    g.distinctCycles.Pairwise fun c c' => ¬ c.map g.nameOf ~r c'.map g.nameOf := by
  refine (distinctByName_pairwise [] g.closedCycles).imp_of_mem fun mem mem' differ turned => ?_
  have closed := (distinctCycles_sublist g).mem mem
  have closed' := (distinctCycles_sublist g).mem mem'
  have same := names_leastRotation_eq turned
  rw [names_leastRotation_of_closed closed, names_leastRotation_of_closed closed'] at same
  exact differ same

theorem check_cycles (g : Graph) :
    g.check.2.filter (·.kind = .cyclicDependency) = g.distinctCycles.map g.cycleDiagnostic := by
  have cycles : (g.distinctCycles.map g.cycleDiagnostic).filter (·.kind = .cyclicDependency) =
      g.distinctCycles.map g.cycleDiagnostic := by
    refine List.filter_eq_self.2 fun d mem => ?_
    obtain ⟨_, -, rfl⟩ := List.mem_map.1 mem
    rfl
  have entries : (g.unresolved.map g.unresolvedDiagnostic).filter
      (·.kind = .cyclicDependency) = [] := by
    refine List.filter_eq_nil_iff.2 fun d mem => ?_
    obtain ⟨_, -, rfl⟩ := List.mem_map.1 mem
    exact of_decide_eq_false rfl
  rw [check, List.filter_append, cycles, entries, List.append_nil]

/-- A cycle is reported when one is closed, and only then. -/
theorem InRange.distinctCycles_eq_nil_iff (h : g.InRange) :
    g.distinctCycles = [] ↔ g.Acyclic := by
  constructor
  · intro none
    exact h.faults_eq_nil_iff.1 (h.faults_of_closedCycles (closedCycles_of_distinct none))
  · intro acyclic
    refine List.eq_nil_iff_forall_not_mem.2 fun c mem => ?_
    exact acyclic c (isCycle_of_closed ((distinctCycles_sublist g).mem mem))

/-! ## Flags -/

/-- Edges that must be built at once lead from the node back to it. -/
def OnCycle (g : Graph) (id : NodeId) : Prop := ∃ c, IsCycle g.eagerSuccessors c ∧ id ∈ c

theorem onCycle_of_closed (mem : id ∈ g.closedCycles.flatten) : g.OnCycle id := by
  obtain ⟨c, closed, within⟩ := List.mem_flatten.1 mem
  exact ⟨c, isCycle_of_closed closed, within⟩

/-- Nodes are marked where they are listed, and nothing else changes. -/
theorem foldl_markCyclic (ids : List NodeId) (g : Graph) :
    ids.foldl (fun g' id => g'.modifyNode id markCyclic) g =
      { g with nodes := g.nodes.mapIdx fun id n => if id ∈ ids then markCyclic n else n } := by
  induction ids generalizing g with
  | nil => simp [List.mapIdx_eq_zipIdx_map]
  | cons id ids ih =>
    have nodes : (g.nodes.modify id markCyclic).mapIdx
        (fun i n => if i ∈ ids then markCyclic n else n) =
          g.nodes.mapIdx fun i n => if i ∈ id :: ids then markCyclic n else n := by
      refine List.ext_getElem? fun i => ?_
      rw [List.getElem?_mapIdx, List.getElem?_mapIdx, List.getElem?_modify, Option.map_eq_map,
        Option.map_map]
      refine congrArg (Option.map · _) (funext fun n => ?_)
      by_cases here : id = i
      · -- A node that is listed again is marked again, which changes nothing.
        rw [Function.comp_apply, if_pos here, if_pos (List.mem_cons.2 (.inl here.symm))]
        split <;> rfl
      · simp [here, Ne.symm here]
    rw [List.foldl_cons, ih, modifyNode, nodes]

theorem isIn_check {target : Target} : target.IsIn g.check.1 ↔ target.IsIn g := by
  rw [check, foldl_markCyclic]
  cases target with
  | node => exact iff_of_eq (congrArg _ List.length_mapIdx)
  | unresolved => rfl

/-- The check leaves the edges alone. -/
theorem Whole.check (h : g.Whole) : g.check.1.Whole := by
  intro n mem d edge
  rw [isIn_check]
  rw [Graph.check, foldl_markCyclic] at mem
  obtain ⟨i, lt, rfl⟩ := List.mem_mapIdx.1 mem
  refine h _ (List.getElem_mem lt) d ?_
  split at edge
  · exact edge
  · exact edge

/-- The check reports a cycle just when edges that must be built at once make one. Each report is of
a cycle: it is about the first of its nodes and names them all in order, the first again at the end.
No two are of the same names but for a turn, and nothing in the graph changes but the flags of nodes
on cycles. -/
theorem check_reports_cycles (g : Graph) (inRange : g.InRange) :
    ((∃ d ∈ g.check.2, d.kind = .cyclicDependency) ↔ ∃ c, IsCycle g.eagerSuccessors c) ∧
    g.check.2.filter (·.kind = .cyclicDependency) = g.distinctCycles.map (fun c =>
      ⟨.cyclicDependency, .error,
        "检测到循环依赖: " ++ " -> ".intercalate (c.map g.nameOf ++ (c.map g.nameOf).take 1), none,
        c.head?.map .node⟩) ∧
    (∀ c ∈ g.distinctCycles, IsCycle g.eagerSuccessors c) ∧
    g.distinctCycles.Pairwise (fun c c' => ¬ c.map g.nameOf ~r c'.map g.nameOf) ∧
    (∀ id ∈ g.closedCycles.flatten, g.OnCycle id) ∧
    g.check.1 = { g with nodes := g.nodes.mapIdx fun id n =>
      if id ∈ g.closedCycles.flatten then markCyclic n else n } := by
  have isCycle : ∀ c ∈ g.distinctCycles, IsCycle g.eagerSuccessors c :=
    fun c mem => isCycle_of_closed ((distinctCycles_sublist g).mem mem)
  refine ⟨⟨?_, ?_⟩, check_cycles g, isCycle, distinctCycles_pairwise g,
    fun _ => onCycle_of_closed, foldl_markCyclic _ g⟩
  · rintro ⟨d, mem, kind⟩
    have report : d ∈ g.distinctCycles.map g.cycleDiagnostic :=
      check_cycles g ▸ List.mem_filter.2 ⟨mem, decide_eq_true kind⟩
    obtain ⟨c, mem, -⟩ := List.mem_map.1 report
    exact ⟨c, isCycle c mem⟩
  · rintro ⟨c, around⟩
    have found : g.distinctCycles ≠ [] :=
      fun none => inRange.distinctCycles_eq_nil_iff.1 none c around
    obtain ⟨c, mem⟩ := List.exists_mem_of_ne_nil _ found
    exact ⟨_, List.mem_append_left _ (List.mem_map_of_mem mem), rfl⟩

/-- Two pairs of peers make the same names go round twice, which is reported once. -/
theorem check_reports_cycles_peers :
    let g := peers [(1, false), (0, false), (3, false), (2, false)]
    g.InRange ∧ g.closedCycles = [[0, 1], [2, 3]] ∧ g.distinctCycles = [[0, 1]] ∧
      (∃ d ∈ g.check.2, d.kind = .cyclicDependency) ∧ g.OnCycle 3 := by
  intro g
  have inRange : g.InRange := by decide
  have closed : g.closedCycles = [[0, 1], [2, 3]] := by cbv
  have distinct : g.distinctCycles = [[0, 1]] := by cbv
  obtain ⟨reported, -, isCycle, -, flagged, -⟩ := check_reports_cycles g inRange
  refine ⟨inRange, closed, distinct, reported.2 ⟨[0, 1], isCycle _ ?_⟩, flagged 3 ?_⟩
  · exact distinct ▸ List.mem_singleton_self _
  · rw [closed]
    decide

end Wiring.Graph
