import Wiring.Proofs.Resolver.Membership
import Wiring.Proofs.Resolver.Sharing

/-!
# Resolver — CollectedOnce

In how many instances of an accumulator a node is a member. A node that lives with the composition
is in the one of the composition. Any other is in those of all roots that lead to it. The root for
which it was made is among them, and the others lead to it past a node that lives with the
composition.
-/

namespace Wiring

open Traversal

/-! ## Positions -/

theorem flatMap_zipIdx_of_index {α β : Type} {f : α × Nat → List β} {as : List α} {start k : Nat}
    {a : α} (at_k : as[k]? = some a) (others : ∀ x, x.2 ≠ start + k → f x = []) :
    (as.zipIdx start).flatMap f = f (a, start + k) := by
  induction as generalizing start k with
  | nil => nomatch at_k
  | cons first more ih =>
    rw [List.zipIdx_cons, List.flatMap_cons]
    cases k with
    | zero =>
      obtain rfl : first = a := by simpa using at_k
      have rest : (more.zipIdx (start + 1)).flatMap f = [] := by
        refine List.flatMap_eq_nil_iff.2 fun x mem => others x ?_
        have := List.le_snd_of_mem_zipIdx mem
        omega
      rw [rest, List.append_nil, Nat.add_zero]
    | succ k =>
      have same : start + (k + 1) = start + 1 + k := by omega
      rw [others (first, start) (by simp), List.nil_append, same]
      exact ih (by simpa using at_k) fun x other => others x (same ▸ other)

theorem forall₂_zipIdx {α β : Type} (f : α → Option β) (p : β → Bool) (as : List α) (start : Nat) :
    List.Forall₂ (fun b (j : Nat) => ∃ a, (a, j) ∈ as.zipIdx start ∧ f a = some b)
      ((as.filterMap f).filter p)
      (((as.zipIdx start).filter fun x => (f x.1).any p).map (·.2)) := by
  induction as generalizing start with
  | nil => exact .nil
  | cons a as ih =>
    rw [List.zipIdx_cons, List.filterMap_cons, List.filter_cons]
    have rest : List.Forall₂
        (fun b (j : Nat) => ∃ a', (a', j) ∈ (a, start) :: as.zipIdx (start + 1) ∧ f a' = some b)
        ((as.filterMap f).filter p)
        (((as.zipIdx (start + 1)).filter fun x => (f x.1).any p).map (·.2)) :=
      (ih (start + 1)).imp fun _ _ ⟨a', mem, found⟩ => ⟨a', List.mem_cons_of_mem _ mem, found⟩
    cases value : f a with
    | none => exact rest
    | some b =>
      cases kept : p b with
      | false => simpa [kept] using rest
      | true => simpa [kept] using List.Forall₂.cons ⟨a, List.mem_cons_self, value⟩ rest

/-- The values that are kept come from ascending positions, from all where there is one to keep. -/
theorem exists_positions {α β : Type} (f : α → Option β) (p : β → Bool) (as : List α) :
    ∃ positions : List Nat, positions.Pairwise (· < ·) ∧
      (∀ j, j ∈ positions ↔ ∃ a b, as[j]? = some a ∧ f a = some b ∧ p b) ∧
      List.Forall₂ (fun b (j : Nat) => ∃ a, as[j]? = some a ∧ f a = some b)
        ((as.filterMap f).filter p) positions := by
  refine ⟨(as.zipIdx.filter fun x => (f x.1).any p).map (·.2), ?_, fun j => ?_, ?_⟩
  · refine List.Pairwise.sublist (List.filter_sublist.map _) ?_
    rw [List.zipIdx_map_snd]
    exact List.pairwise_lt_range'
  · simp [List.mk_mem_zipIdx_iff_getElem?, Option.any_eq_true]
  · refine (forall₂_zipIdx f p as 0).imp fun b j ⟨a, mem, found⟩ => ⟨a, ?_, found⟩
    exact List.mk_mem_zipIdx_iff_getElem?.1 mem

/-! ## Holders -/

/-- The instances of an accumulator that hold a node. -/
def holders (instances : List Collected) (index : Nat) (id : NodeId) : List Collected :=
  instances.filter fun c => c.index = index ∧ id ∈ c.members

/-- The positions of the roots that lead to a node, in order. -/
structure Graph.LedFrom (g : Graph) (id : NodeId) (positions : List Nat) : Prop where
  ascending : positions.Pairwise (· < ·)
  mem_iff : ∀ j, j ∈ positions ↔ ∃ e, g.roots[j]? = some e ∧ e.LeadsTo g id

section

variable {a : Accumulator} {accumulators : List Accumulator} {index : Nat} {r : Registry}
  {g : Graph} {id : NodeId} {c : Collected}

/-- An instance holds shared members, or a root's own. -/
theorem Accumulator.gathers_of_mem (mem : c ∈ a.instances index r g) :
    a.Gathers index .composition (a.SharedMember r g) c ∨
      ∃ e, a.Gathers index (.root e.root.name) (a.OwnMember r g e) c := by
  obtain ⟨shared, ofComposition, eq⟩ := a.instances_ofComposition index r g
  rw [eq] at mem
  rcases List.mem_append.1 mem with first | ofRoot
  · cases ofComposition with
    | none => nomatch first
    | one _ gathers => exact .inl (List.mem_singleton.1 first ▸ gathers)
  · obtain ⟨e, -, found⟩ := List.mem_filterMap.1 ofRoot
    exact .inr ⟨e, (rootInstance_some found).2⟩

/-- An instance is one of its accumulator, and holds nothing twice. -/
theorem Accumulator.index_nodup_of_mem (mem : c ∈ a.instances index r g) :
    c.index = index ∧ c.members.Nodup := by
  rcases gathers_of_mem mem with gathers | ⟨e, gathers⟩
  · exact ⟨gathers.index_eq, gathers.nodup⟩
  · exact ⟨gathers.index_eq, gathers.nodup⟩

theorem count_of_holder (held : c ∈ holders (g.collect accumulators r) index id) :
    c.members.count id = 1 := by
  obtain ⟨collected, member⟩ := List.mem_filter.1 held
  obtain ⟨⟨a, index'⟩, -, mem⟩ := List.mem_flatMap.1 collected
  have nodup := (Accumulator.index_nodup_of_mem mem).2
  exact List.count_eq_one_of_mem nodup (of_decide_eq_true member).2

/-- Only instances of the accumulator at that position are asked whether they hold a node. -/
theorem holders_collect (known : accumulators[index]? = some a) :
    holders (g.collect accumulators r) index id =
      (a.instances index r g).filter (id ∈ ·.members) := by
  have others (x : Accumulator × Nat) (other : x.2 ≠ 0 + index) :
      (x.1.instances x.2 r g).filter (fun c => c.index = index ∧ id ∈ c.members) = [] := by
    rw [Nat.zero_add] at other
    refine List.filter_eq_nil_iff.2 fun c mem member => other ?_
    exact (Accumulator.index_nodup_of_mem mem).1.symm.trans (of_decide_eq_true member).1
  rw [holders, Graph.collect, List.filter_flatMap, flatMap_zipIdx_of_index known others,
    Nat.zero_add]
  refine List.filter_congr fun c mem => ?_
  simp [(Accumulator.index_nodup_of_mem mem).1]

/-- What the accumulator does not collect is held nowhere. -/
theorem holders_of_not_member (known : accumulators[index]? = some a)
    (no : ∀ ofComposition, ¬ a.Member r g ofComposition id) :
    holders (g.collect accumulators r) index id = [] := by
  rw [holders_collect known]
  refine List.filter_eq_nil_iff.2 fun c mem member => ?_
  have member := of_decide_eq_true member
  rcases Accumulator.gathers_of_mem mem with gathers | ⟨e, gathers⟩
  · exact no true ((gathers.mem_iff id).1 member).1
  · exact no false ((gathers.mem_iff id).1 member).1

theorem Accumulator.Member.eq_of {b b' : Bool} (h : a.Member r g b id) (h' : a.Member r g b' id) :
    b = b' := by
  obtain ⟨n, node, -, lives⟩ := h
  obtain ⟨n', node', -, lives'⟩ := h'
  cases node.symm.trans node'
  exact lives.symm.trans lives'

/-- What lives with the composition is held by the instance of the composition alone. -/
theorem holders_of_sharedMember (known : accumulators[index]? = some a)
    (member : a.SharedMember r g id) :
    ∃ c, holders (g.collect accumulators r) index id = [c] ∧ c.extent = .composition := by
  obtain ⟨shared, ofComposition, eq⟩ := a.instances_ofComposition index r g
  have ofRoots : (g.roots.filterMap (a.rootInstance index r g)).filter (id ∈ ·.members) = [] := by
    refine List.filter_eq_nil_iff.2 fun c mem held => ?_
    obtain ⟨e, -, found⟩ := List.mem_filterMap.1 mem
    have own := ((Accumulator.rootInstance_some found).2.mem_iff id).1 (of_decide_eq_true held)
    nomatch own.1.eq_of member.1
  rw [holders_collect known, eq, List.filter_append, ofRoots, List.append_nil]
  cases ofComposition with
  | none empty => exact absurd member (empty id)
  | @one c _ gathers =>
    exact ⟨c, by simp [(gathers.mem_iff id).2 member], gathers.extent_eq⟩

/-- Anything else is held by the instances of the roots that lead to it. -/
theorem holders_of_member (known : accumulators[index]? = some a)
    (member : a.Member r g false id) :
    ∃ positions, g.LedFrom id positions ∧
      List.Forall₂ (fun c (j : Nat) => ∃ e, g.roots[j]? = some e ∧ c.extent = .root e.root.name)
        (holders (g.collect accumulators r) index id) positions := by
  obtain ⟨shared, ofComposition, eq⟩ := a.instances_ofComposition index r g
  have ofShared : shared.filter (id ∈ ·.members) = [] := by
    refine List.filter_eq_nil_iff.2 fun c mem held => ?_
    cases ofComposition with
    | none => nomatch mem
    | one _ gathers =>
      obtain rfl := List.mem_singleton.1 mem
      have shared := (gathers.mem_iff id).1 (of_decide_eq_true held)
      nomatch shared.1.eq_of member
  rw [holders_collect known, eq, List.filter_append, ofShared, List.nil_append]
  obtain ⟨positions, ascending, mem_iff, values⟩ :=
    exists_positions (a.rootInstance index r g) (fun c => decide (id ∈ c.members)) g.roots
  refine ⟨positions, ⟨ascending, fun j => (mem_iff j).trans ?_⟩, ?_⟩
  · refine exists_congr fun e => ⟨?_, fun ⟨edge, leads⟩ => ?_⟩
    · rintro ⟨c, edge, found, held⟩
      have gathers := (Accumulator.rootInstance_some found).2
      exact ⟨edge, ((gathers.mem_iff id).1 (of_decide_eq_true held)).2⟩
    · cases found : a.rootInstance index r g e with
      | none => exact absurd ⟨member, leads⟩ ((Accumulator.rootInstance_none found).2 id)
      | some c =>
        have gathers := (Accumulator.rootInstance_some found).2
        exact ⟨c, edge, rfl, decide_eq_true ((gathers.mem_iff id).2 ⟨member, leads⟩)⟩
  · refine values.imp fun c j ⟨e, edge, found⟩ => ⟨e, edge, ?_⟩
    exact (Accumulator.rootInstance_some found).2.extent_eq

end

/-! ## Roots that lead to a node -/

theorem Graph.reaches_mono {g g' : Graph} (more : g.nodes <+: g'.nodes) {v w : NodeId}
    (h : Reaches g.successors v w) : Reaches g'.successors v w := by
  refine h.lift id fun u u' leads => ?_
  obtain ⟨n, d, node, edge, target⟩ := mem_successors.1 leads
  exact mem_successors.2 ⟨n, d, getElem?_mono more node, edge, target⟩

theorem RootEdge.LeadsTo.mono {g g' : Graph} {e : RootEdge} {id : NodeId}
    (more : g.nodes <+: g'.nodes) (h : e.LeadsTo g id) : e.LeadsTo g' id := by
  obtain ⟨start, target, reach⟩ := h
  exact ⟨start, target, Graph.reaches_mono more reach⟩

/-- A root leads to a node by way of one that lives with the composition, or to one that does. -/
def RootEdge.LeadsPastShared (g : Graph) (e : RootEdge) (id : NodeId) : Prop :=
  ∃ m n, g.node? m = some n ∧ n.lifetime.livesWithComposition ∧ e.LeadsTo g m ∧
    Reaches g.successors m id

namespace Resolver

open Session

/-- What a run makes is led to by what the run was asked for. -/
theorem Recorded.reached {r : Resolver} {asks s targets s' births past}
    (h : Recorded r past asks s targets s' births) {id : Nat} (new : past.length ≤ id)
    (lt : id < (past ++ births).length) :
    ∃ start, .node start ∈ targets ∧ Reaches s'.graph.successors start id := by
  induction id using Nat.strong_induction_on with
  | _ id ih =>
    cases h.lineage new (List.getElem?_eq_getElem lt) with
    | asked _ target => exact ⟨id, target, .refl⟩
    | @inside m _ _ _ from_start before _ leads =>
      obtain ⟨start, asked, reach⟩ := ih m before from_start (Nat.lt_trans before lt)
      exact ⟨start, asked, reach.tail leads⟩

section

variable {r : Resolver} {roots : List (Root × Nat)} {births : List Birth} {s : Session}
  {root : Nat} {e : RootEdge} {id : NodeId}

/-- A root leads to what its run makes. -/
theorem History.leadsTo_of_run (h : History r roots births s) {root : Root} {index : Nat}
    {target : Target} {s' : Session} {births' : List Birth}
    (run : r.Run [.request root.contract (.ofRoot root)] (s.enterRoot root index) [target] s'
      births')
    (new : births.length ≤ id) (lt : id < s'.graph.nodes.length) :
    RootEdge.LeadsTo s'.graph ⟨root, target⟩ id := by
  have entered := h.records.enterRoot root index
  obtain ⟨after, -⟩ := run.records entered
  obtain ⟨start, asked, reach⟩ := (run.recorded entered).reached new (after.length_eq ▸ lt)
  exact ⟨start, (List.mem_singleton.1 asked).symm, reach⟩

theorem BelongsTo.own_or_shared (belongs : BelongsTo births s.graph root id)
    (h : History r roots births s) (lt : id < s.graph.nodes.length) (leads : e.LeadsTo s.graph id) :
    (∃ b, births[id]? = some b ∧ b.context.root = root) ∨ e.LeadsPastShared s.graph id := by
  have node : s.graph.node? id = some s.graph.nodes[id] := List.getElem?_eq_getElem lt
  obtain ⟨b, born, -⟩ := h.birth node
  rcases belongs b _ born node with same | long
  · exact .inl ⟨b, born, same⟩
  · exact .inr ⟨id, _, node, long, leads, .refl⟩

/-- A root leads to its own nodes, and to others by way of one that lives with the composition. -/
theorem History.own_or_shared (h : History r roots births s) {i : Nat}
    (edge : s.graph.roots[i]? = some e) (leads : e.LeadsTo s.graph id) :
    ∃ root, roots[i]? = some root ∧
      ((∃ b, births[id]? = some b ∧ b.context.root = root.2) ∨ e.LeadsPastShared s.graph id) := by
  obtain ⟨start, target, reach⟩ := leads
  obtain ⟨lt, root, at_i, belongs⟩ := h.root_belongs edge target
  refine ⟨root, at_i, ?_⟩
  induction reach with
  | refl => exact belongs.own_or_shared h lt ⟨start, target, .refl⟩
  | @tail v w reach leads ih =>
    rcases ih with ⟨b, born, same⟩ | ⟨m, n, node, long, leads', past⟩
    · have belongs : BelongsTo births s.graph root.2 w := same ▸ h.edge_belongs born leads
      exact belongs.own_or_shared h (h.records.whole.successors_lt leads)
        ⟨start, target, reach.tail leads⟩
    · exact .inr ⟨m, n, node, long, leads', past.tail leads⟩

end

section

variable {r : Resolver} {found : List Diagnostic} {roots : List Root} {i j : Nat} {id : NodeId}

/-- A node is led to by the root for which it was made. -/
theorem build_leadsTo (made : r.MadeFor found roots i id) :
    ∃ e, (r.build found roots).1.roots[i]? = some e ∧ e.LeadsTo (r.build found roots).1 id := by
  obtain ⟨-, -, leads⟩ := resolveRoots_induction (r := r) found
    (motive := fun roots _ => ∀ i id, r.MadeFor found roots i id →
      ∃ e, (r.build found roots).1.roots[i]? = some e ∧ e.LeadsTo (r.build found roots).1 id)
    (fun i id made => absurd made.1 (Nat.not_lt_zero i))
    (by
      intro roots births root target s' births' h ih run whole i id made
      have graph : (r.build found (roots ++ [root])).1 = s'.graph.addRoot ⟨root, target⟩ :=
        congrArg Session.graph whole
      have edges : s'.graph.roots = (r.build found roots).1.roots := run.extends.roots
      have bound := made.1
      rw [List.length_append, List.length_singleton] at bound
      rw [graph, Graph.addRoot, edges]
      -- The root in question is one of the earlier ones, or the last.
      rcases Nat.lt_or_eq_of_le (Nat.le_of_lt_succ bound) with old | rfl
      · obtain ⟨e, edge, leads⟩ := ih i id ((madeFor_concat_of_lt old).1 made)
        exact ⟨e, getElem?_mono (List.prefix_append ..) edge, leads.mono run.extends.nodes⟩
      · obtain ⟨le, lt⟩ := madeFor_concat_last.1 made
        have count : roots.length = (r.build found roots).1.roots.length :=
          List.length_zipIdx.symm.trans h.edges.length_eq
        rw [graph] at lt
        exact ⟨⟨root, target⟩, count ▸ List.getElem?_concat_length,
          h.leadsTo_of_run run (h.length_eq ▸ le) lt⟩)
    roots
  exact leads i id made

/-- Another root leads to a node by way of one that lives with the composition. -/
theorem build_leadsPastShared {e : RootEdge} (made : r.MadeFor found roots i id)
    (edge : (r.build found roots).1.roots[j]? = some e) (other : j ≠ i)
    (leads : e.LeadsTo (r.build found roots).1 id) :
    e.LeadsPastShared (r.build found roots).1 id := by
  obtain ⟨births, s, h, eq, -, knows⟩ := build_sharing r found roots
  rw [eq] at edge leads ⊢
  obtain ⟨root, at_j, own | past⟩ := h.own_or_shared edge leads
  · obtain ⟨b, born, same⟩ := own
    rw [List.getElem?_zipIdx] at at_j
    obtain ⟨_, -, rfl⟩ := Option.map_eq_some_iff.1 at_j
    rw [knows.root id b i born made] at same
    exact absurd (same.trans (Nat.zero_add j)).symm other
  · exact past

end

end Resolver

/-! ## How often a node is collected -/

theorem Graph.LedFrom.length_eq_one_iff {g : Graph} {id : NodeId} {positions : List Nat} {i : Nat}
    (h : g.LedFrom id positions) (mem : i ∈ positions) :
    positions.length = 1 ↔ ∀ j ∈ positions, j = i := by
  constructor
  · intro one j mem'
    obtain ⟨only, rfl⟩ := List.length_eq_one_iff.1 one
    exact (List.mem_singleton.1 mem').trans (List.mem_singleton.1 mem).symm
  · intro same
    match positions, h.ascending with
    | [_], _ => rfl
    | first :: second :: _, ascending =>
      have lt := List.rel_of_pairwise_cons ascending List.mem_cons_self
      have eq := same first (.head _)
      have eq' := same second (.tail _ (.head _))
      omega

namespace Resolver

/-- An instance holds what it holds once, and nothing that its accumulator does not collect. What
lives with the composition is held by the instance of the composition alone. Anything else is held
by the instances of the roots that lead to it, so just once when this is only the root for which it
was made; another root leads to it by way of a node that lives with the composition. -/
theorem build_collects (r : Resolver) (found : List Diagnostic) (roots : List Root)
    (accumulators : List Accumulator) {index : Nat} {a : Accumulator} {id : NodeId} {n : Node}
    (known : accumulators[index]? = some a)
    (node : (r.build found roots).1.node? id = some n) :
    let g := (r.build found roots).1
    let held := holders (g.collect accumulators r.registry) index id
    (∀ c ∈ held, c.members.count id = 1) ∧
    (¬ a.Fits r.registry n → held = []) ∧
    (a.Fits r.registry n → n.lifetime.livesWithComposition →
      ∃ c, held = [c] ∧ c.extent = .composition) ∧
    (a.Fits r.registry n → n.lifetime.livesWithComposition = false →
      ∃ i positions, r.MadeFor found roots i id ∧ g.LedFrom id positions ∧ i ∈ positions ∧
        List.Forall₂ (fun c (j : Nat) => ∃ e, g.roots[j]? = some e ∧ c.extent = .root e.root.name)
          held positions ∧
        (held.length = 1 ↔ ∀ j ∈ positions, j = i) ∧
        ∀ j ∈ positions, j ≠ i → ∃ e, g.roots[j]? = some e ∧ e.LeadsPastShared g id) := by
  intro g held
  obtain ⟨births, s, h, eq, -, knows⟩ := build_sharing r found roots
  obtain ⟨i, made⟩ := knows.made id (by
    rw [h.length_eq, ← eq]
    exact (List.getElem?_eq_some_iff.1 node).1)
  obtain ⟨e, edge, leads⟩ := build_leadsTo made
  refine ⟨fun c => count_of_holder, fun unfit => ?_, fun fits long => ?_, fun fits short => ?_⟩
  · refine holders_of_not_member known fun _ ⟨n', node', fits, _⟩ => unfit ?_
    cases node.symm.trans node'
    exact fits
  · exact holders_of_sharedMember known
      ⟨⟨n, node, fits, long⟩, e, List.mem_of_getElem? edge, leads⟩
  · obtain ⟨positions, led, extents⟩ := holders_of_member known ⟨n, node, fits, short⟩
    have mem : i ∈ positions := (led.mem_iff i).2 ⟨e, edge, leads⟩
    refine ⟨i, positions, made, led, mem, extents, ?_, fun j mem' other => ?_⟩
    · exact extents.length_eq ▸ led.length_eq_one_iff mem
    · obtain ⟨e', edge', leads'⟩ := (led.mem_iff j).1 mem'
      exact ⟨e', edge', build_leadsPastShared made edge' other leads'⟩

/-! ## Printing

Two roots share a press. Its plate was made for the first one, but both lead to it.
-/

def press : TypeExpr := .named "Press" []

def plate : TypeExpr := .named "Plate" []

def plates : Accumulator := ⟨plate, .named "Plates" [], []⟩

def printing : Resolver where
  registry := ((Registry.empty ⟨[
    { Descriptor.concrete press with constructors := [⟨true, none, [.parameter "plate" plate]⟩] },
    .concrete plate]⟩ .structural).registerAll
      [{ Binding.ofType press press with lifetime := .singleton }, .ofType plate plate]).1
  options := { Options.standard with maxDepth := 3 }
  accumulators := [plates]
  autoBinds := false
  filter := none

def printingRoots : List Root := [.untagged "first" press, .untagged "second" press]

abbrev printingGraph : Graph := (printing.build [] printingRoots).1

theorem printing_facts :
    (printingGraph.node? 1).map (fun n => (n.lifetime, plates.collects printing.registry n)) =
        some (.transient, true) ∧
      holders (printingGraph.collect printing.accumulators printing.registry) 0 1 =
        [⟨0, plates.type, .root "first", [1]⟩, ⟨0, plates.type, .root "second", [1]⟩] := by cbv

/-- The plate is collected twice, so one of the roots leads to it only by way of the press. -/
theorem build_collects_printing : ∃ i j, printing.MadeFor [] printingRoots i 1 ∧ j ≠ i ∧
    ∃ e, printingGraph.roots[j]? = some e ∧ e.LeadsPastShared printingGraph 1 := by
  obtain ⟨found, held⟩ := printing_facts
  obtain ⟨n, node, facts⟩ := Option.map_eq_some_iff.1 found
  obtain ⟨lifetime, collects⟩ := Prod.mk.inj facts
  have short : n.lifetime.livesWithComposition = false := by
    rw [lifetime]
    rfl
  have known : printing.accumulators[0]? = some plates := rfl
  obtain ⟨-, -, -, ofRoots⟩ := build_collects printing [] printingRoots _ known node
  obtain ⟨i, positions, made, -, -, -, once, others⟩ :=
    ofRoots (Accumulator.collects_iff.1 collects) short
  rw [held] at once
  obtain ⟨j, mem, other⟩ : ∃ j ∈ positions, j ≠ i := by
    by_contra none
    have only : ∀ j ∈ positions, j = i := by simpa using none
    nomatch once.2 only
  exact ⟨i, j, made, other, others j mem other⟩

/-- The plate is in the instance of each root. -/
theorem printing_collectsTwice : ¬ ∀ id n, printingGraph.node? id = some n →
    (holders (printingGraph.collect printing.accumulators printing.registry) 0 id).length ≤ 1 := by
  obtain ⟨found, held⟩ := printing_facts
  obtain ⟨n, node, -⟩ := Option.map_eq_some_iff.1 found
  intro claim
  have once := claim 1 n node
  rw [held] at once
  exact absurd once (by decide)

end Resolver

end Wiring
