import Mathlib.Data.List.Forall2
import Mathlib.Tactic.Choose
import Wiring.Graph.Outline
import Wiring.Proofs.Graph.Targets
import Wiring.Proofs.Graph.Traversal

/-!
# Graph — Outline

An outline lists a tree in preorder: the graph unfolded from an edge, where a node is unfolded again
wherever an edge leads to it but ends at once below itself. There is one such tree, as no node
stands above itself but at an end, so no place in it has more nodes above than there are in all.
-/

namespace Wiring

/-- What an edge says of the place that it leads to. -/
structure Lead where
  label : String
  contract : TypeExpr
  target : Target
  isDeferred : Bool

def Dependency.lead (d : Dependency) : Lead :=
  ⟨d.site.name, d.site.contract, d.target, d.isDeferred⟩

def RootEdge.lead (e : RootEdge) : Lead := ⟨e.root.name, e.root.contract, e.target, false⟩

/-- A graph as a tree. The entries of a node stand for its dependencies. -/
inductive Unfolding where
  | node (label : String) (id : NodeId) (node : Node) (isDeferred isRepeated : Bool)
    (entries : List Unfolding)
  | unresolved (label : String) (contract : TypeExpr)
  deriving Inhabited

namespace Unfolding

mutual

/-- A line for each place, in preorder. -/
def lines (depth : Nat) : Unfolding → List OutlineLine
  | .node label _ n isDeferred isRepeated entries =>
    .node depth label n isDeferred isRepeated :: linesAll (depth + 1) entries
  | .unresolved label contract => [.unresolved depth label contract]

def linesAll (depth : Nat) : List Unfolding → List OutlineLine
  | [] => []
  | entry :: more => entry.lines depth ++ linesAll depth more

end

@[simp] theorem linesAll_eq_flatMap (depth : Nat) (entries : List Unfolding) :
    linesAll depth entries = entries.flatMap (lines depth) := by
  induction entries with
  | nil => rfl
  | cons entry more ih => rw [linesAll, ih, List.flatMap_cons]

/-- A part stands in a tree below some nodes, the nearest of them first. -/
inductive Stands : Unfolding → List NodeId → Unfolding → Prop
  | here {u : Unfolding} : Stands u [] u
  | under {label : String} {id : NodeId} {n : Node} {isDeferred isRepeated : Bool}
      {entries : List Unfolding} {entry part : Unfolding} {above : List NodeId}
      (mem : entry ∈ entries) (inside : Stands entry above part) :
      Stands (.node label id n isDeferred isRepeated entries) (above ++ [id]) part

/-- The root of a tree is what an edge leads to, and is labelled as the edge says. -/
def Shows (g : Graph) (lead : Lead) : Unfolding → Prop
  | .node label id n isDeferred _ _ =>
    lead.target = .node id ∧ g.node? id = some n ∧ label = lead.label ∧
      isDeferred = lead.isDeferred
  | .unresolved label contract =>
    lead.target.isUnresolved ∧ label = lead.label ∧ contract = lead.contract

theorem Shows.eq_node {g : Graph} {lead : Lead} {u : Unfolding} {id : NodeId} {n : Node}
    (h : u.Shows g lead) (target : lead.target = .node id) (node : g.node? id = some n) :
    ∃ isRepeated entries, u = .node lead.label id n lead.isDeferred isRepeated entries := by
  cases u with
  | node label id' n' isDeferred isRepeated entries =>
    obtain ⟨target', node', rfl, rfl⟩ := h
    cases target.symm.trans target'
    cases node.symm.trans node'
    exact ⟨isRepeated, entries, rfl⟩
  | unresolved =>
    have unresolved := h.1
    rw [target] at unresolved
    nomatch unresolved

theorem Shows.eq_unresolved {g : Graph} {lead : Lead} {u : Unfolding} {request : RequestId}
    (h : u.Shows g lead) (target : lead.target = .unresolved request) :
    u = .unresolved lead.label lead.contract := by
  cases u with
  | node => nomatch target.symm.trans h.1
  | unresolved =>
    obtain ⟨-, rfl, rfl⟩ := h
    rfl

end Unfolding

open Unfolding

/-- The graph unfolded from an edge, below a path of nodes. Wherever a node stands in the tree it is
marked just when it stands above itself. When it is not, there is an entry for each of its
dependencies, in order, and otherwise there are none. -/
structure Graph.IsUnfolding (g : Graph) (path : List NodeId) (lead : Lead) (u : Unfolding) :
    Prop where
  shows : u.Shows g lead
  marked {above label id n isDeferred isRepeated entries} :
    u.Stands above (.node label id n isDeferred isRepeated entries) →
      (isRepeated = true ↔ id ∈ above ++ path)
  entries {above label id n isDeferred entries} :
    u.Stands above (.node label id n isDeferred false entries) →
      List.Forall₂ (fun d entry => entry.Shows g d.lead) n.dependencies entries
  ends {above label id n isDeferred entries} :
    u.Stands above (.node label id n isDeferred true entries) → entries = []

namespace Graph

open Traversal (IsPath)

variable {g : Graph} {path : List NodeId} {lead : Lead} {u : Unfolding}

/-! ## One step down -/

section Node

variable {label : String} {id : NodeId} {n : Node} {isDeferred isRepeated : Bool}
  {entries : List Unfolding}

/-- What an entry is the unfolding of. -/
theorem IsUnfolding.entry {entry : Unfolding} {lead' : Lead}
    (h : g.IsUnfolding path lead (.node label id n isDeferred isRepeated entries))
    (mem : entry ∈ entries) (shows : entry.Shows g lead') :
    g.IsUnfolding (id :: path) lead' entry where
  shows := shows
  marked inside := by rw [h.marked (.under mem inside), ← List.append_cons]
  entries inside := h.entries (.under mem inside)
  ends inside := h.ends (.under mem inside)

/-- What is right at a node and in each of its entries is right in all the tree. -/
theorem isUnfolding_of_entries
    (shows : (Unfolding.node label id n isDeferred isRepeated entries).Shows g lead)
    (marked : isRepeated = true ↔ id ∈ path)
    (full : isRepeated = false →
      List.Forall₂ (fun d entry => entry.Shows g d.lead) n.dependencies entries)
    (ends : isRepeated = true → entries = [])
    (below : ∀ entry ∈ entries, ∃ lead', g.IsUnfolding (id :: path) lead' entry) :
    g.IsUnfolding path lead (.node label id n isDeferred isRepeated entries) where
  shows := shows
  marked stands := by
    cases stands with
    | here => exact marked
    | under mem inside =>
      obtain ⟨_, h⟩ := below _ mem
      rw [h.marked inside, List.append_cons]
  entries stands := by
    cases stands with
    | here => exact full rfl
    | under mem inside =>
      obtain ⟨_, h⟩ := below _ mem
      exact h.entries inside
  ends stands := by
    cases stands with
    | here => exact ends rfl
    | under mem inside =>
      obtain ⟨_, h⟩ := below _ mem
      exact h.ends inside

/-- A node that is new has the unfoldings of its dependencies below it. -/
theorem isUnfolding_node {f : Dependency → Unfolding} (target : lead.target = .node id)
    (node : g.node? id = some n) (new : id ∉ path)
    (below : ∀ d ∈ n.dependencies, ∀ u, g.IsUnfolding (id :: path) d.lead u ↔ u = f d) :
    g.IsUnfolding path lead u ↔
      u = .node lead.label id n lead.isDeferred false (n.dependencies.map f) := by
  constructor
  · intro h
    obtain ⟨isRepeated, entries, rfl⟩ := h.shows.eq_node target node
    obtain rfl : isRepeated = false := Bool.eq_false_iff.2 ((h.marked .here).not.2 new)
    obtain ⟨length, shown⟩ := List.forall₂_iff_zip.1 (h.entries .here)
    have same : List.Forall₂ (fun d entry => f d = entry) n.dependencies entries :=
      List.forall₂_iff_zip.2 ⟨length, fun pair => by
        obtain ⟨edge, mem⟩ := List.of_mem_zip pair
        exact ((below _ edge _).1 (h.entry mem (shown pair))).symm⟩
    rw [← List.forall₂_map_left_iff, List.forall₂_eq_eq_eq] at same
    rw [same]
  · rintro rfl
    have entry (d : Dependency) (edge : d ∈ n.dependencies) :
        g.IsUnfolding (id :: path) d.lead (f d) := (below d edge _).2 rfl
    refine isUnfolding_of_entries ⟨target, node, rfl, rfl⟩ (iff_of_false nofun new) (fun _ => ?_)
      nofun (List.forall_mem_map.2 fun d edge => ⟨d.lead, entry d edge⟩)
    rw [List.forall₂_map_right_iff, List.forall₂_same]
    exact fun d edge => (entry d edge).shows

/-- A node that stands above itself has nothing below it. -/
theorem isUnfolding_repeated (target : lead.target = .node id) (node : g.node? id = some n)
    (old : id ∈ path) :
    g.IsUnfolding path lead u ↔ u = .node lead.label id n lead.isDeferred true [] := by
  constructor
  · intro h
    obtain ⟨isRepeated, entries, rfl⟩ := h.shows.eq_node target node
    obtain rfl : isRepeated = true := (h.marked .here).2 old
    rw [h.ends .here]
  · rintro rfl
    exact isUnfolding_of_entries ⟨target, node, rfl, rfl⟩ (iff_of_true rfl old) nofun
      (fun _ => rfl) nofun

end Node

theorem isUnfolding_unresolved {request : RequestId} (target : lead.target = .unresolved request) :
    g.IsUnfolding path lead u ↔ u = .unresolved lead.label lead.contract := by
  constructor
  · intro h
    exact h.shows.eq_unresolved target
  · rintro rfl
    exact ⟨⟨congrArg Target.isUnresolved target, rfl, rfl⟩, nofun, nofun, nofun⟩

/-! ## Outlines -/

/-- The lines of what an edge leads to. -/
def outlineLead (g : Graph) (room : Nat) (path : List NodeId) (lead : Lead) : List OutlineLine :=
  match lead.target with
  | .node id => g.outline room path lead.label lead.isDeferred id
  | .unresolved _ => [.unresolved path.length lead.label lead.contract]

theorem outline_succ {id : NodeId} {n : Node} (node : g.node? id = some n) (room : Nat)
    (path : List NodeId) (label : String) (isDeferred : Bool) :
    g.outline (room + 1) path label isDeferred id =
      if id ∈ path then [.node path.length label n isDeferred true]
      else .node path.length label n isDeferred false ::
        n.dependencies.flatMap fun d => g.outlineLead room (id :: path) d.lead := by
  rw [outline, node]
  rfl

/-- There is one unfolding, and the outline lists it, given room for the nodes that are not on the
path. -/
theorem exists_unfolding {room : Nat} (whole : g.Whole) (isPath : IsPath g.nodes.length path room)
    (isIn : lead.target.IsIn g) :
    ∃ t, (∀ u, g.IsUnfolding path lead u ↔ u = t) ∧
      ∀ more, room ≤ more → g.outlineLead more path lead = t.lines path.length := by
  -- The room shrinks as the path grows, which keeps `IsPath` and rules out the empty room.
  induction room generalizing path lead with
  | zero => exact absurd rfl isPath.room_ne_zero
  | succ room ih =>
    cases target : lead.target with
    | unresolved request =>
      refine ⟨_, fun u => isUnfolding_unresolved target, fun more _ => ?_⟩
      rw [outlineLead, target, lines]
    | node id =>
      have lt : id < g.nodes.length := by rwa [target] at isIn
      obtain ⟨n, node⟩ : ∃ n, g.node? id = some n := ⟨_, List.getElem?_eq_getElem lt⟩
      by_cases old : id ∈ path
      · refine ⟨_, fun u => isUnfolding_repeated target node old, fun more enough => ?_⟩
        obtain ⟨more, rfl⟩ := Nat.exists_eq_add_of_le' (Nat.one_le_of_lt enough)
        simp only [outlineLead, target, outline_succ node, if_pos old, lines, linesAll]
      · have leads (d : Dependency) (edge : d ∈ n.dependencies) : d.lead.target.IsIn g :=
          whole n (List.mem_of_getElem? node) d edge
        have entry (d : Dependency) (edge : d ∈ n.dependencies) :=
          ih (isPath.cons lt old) (leads d edge)
        choose! f only listed using entry
        refine ⟨_, fun u => isUnfolding_node target node old only, fun more enough => ?_⟩
        obtain ⟨more, rfl⟩ := Nat.exists_eq_add_of_le' (Nat.one_le_of_lt enough)
        simp only [outlineLead, target, outline_succ node, if_neg old, lines, linesAll_eq_flatMap,
          List.flatMap_map]
        refine congrArg _ (List.flatMap_congr fun d edge => ?_)
        exact listed d edge more (Nat.le_of_succ_le_succ enough)

/-! ## Depth -/

/-- The nodes above a place are distinct. -/
theorem IsUnfolding.isPath {room : Nat} {above : List NodeId} {part : Unfolding}
    (h : g.IsUnfolding path lead u) (isPath : IsPath g.nodes.length path room)
    (stands : u.Stands above part) : ∃ room, IsPath g.nodes.length (above ++ path) room := by
  induction stands generalizing path lead room with
  | here => exact ⟨room, isPath⟩
  | @under label id n isDeferred isRepeated entries entry part above mem inside ih =>
    obtain ⟨-, node, -⟩ := h.shows
    cases isRepeated with
    | true => exact absurd (h.ends .here ▸ mem) List.not_mem_nil
    | false =>
      have new : id ∉ path := (h.marked .here).not.1 Bool.false_ne_true
      obtain ⟨room, rfl⟩ := Nat.exists_eq_succ_of_ne_zero isPath.room_ne_zero
      obtain ⟨⟨i, lt⟩, rfl⟩ := List.mem_iff_get.1 mem
      have shown := h.entries .here
      have below := h.entry mem (shown.get (Nat.lt_of_lt_of_eq lt shown.length_eq.symm) lt)
      have longer := isPath.cons (List.getElem?_eq_some_iff.1 node).1 new
      rw [← List.append_cons]
      exact ih below longer

/-- No node stands above a place twice, so there are at most as many as there are in all. -/
theorem IsUnfolding.above_distinct {above : List NodeId} {part : Unfolding}
    (h : g.IsUnfolding [] lead u) (stands : u.Stands above part) :
    above.Nodup ∧ above.length ≤ g.nodes.length := by
  obtain ⟨room, isPath⟩ := h.isPath ⟨.nil, nofun, rfl⟩ stands
  rw [List.append_nil] at isPath
  have fits := isPath.room
  have spare := Nat.pos_of_ne_zero isPath.room_ne_zero
  exact ⟨isPath.nodup, by omega⟩

/-! ## Roots -/

theorem outlineText_eq_none_iff {name : String} :
    g.outlineText name = none ↔ g.root? name = none := by
  rw [outlineText, outlineRoot, Option.map_eq_none_iff, Option.map_eq_none_iff]

theorem outlineRoot_eq {name : String} {e : RootEdge} (root : g.root? name = some e) :
    g.outlineRoot name = some (g.outlineLead (g.nodes.length + 1) [] e.lead) := by
  have found := List.find?_some (show g.roots.find? (·.root.name = name) = some e from root)
  obtain rfl : e.root.name = name := of_decide_eq_true found
  rw [outlineRoot, root]
  rfl

end Graph

end Wiring
