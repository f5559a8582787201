import Mathlib.Data.List.Cycle
import Wiring.Proofs.Graph.Traversal

/-!
# Graph — Loops

Cycles along a successor function, and how a depth-first traversal meets them. A traversal comes to
nodes by way of paths, and when it comes to a node that is on the path it notes a loop. Each loop is
a cycle, and a traversal of all nodes that notes nothing leaves no cycle.
-/

namespace Wiring.Traversal

variable {size : Nat} {next : NodeId → List NodeId} {starts path before nodes nodes' : List NodeId}
  {t : Trace} {id v w : NodeId}

/-! ## Cycles -/

/-- Distinct nodes that lead to each other in turn, and the last to the first again. -/
structure IsCycle (next : NodeId → List NodeId) (nodes : List NodeId) : Prop where
  ne_nil : nodes ≠ []
  nodup : nodes.Nodup
  chain : (nodes ++ nodes.take 1).IsChain fun v w => w ∈ next v

theorem chain_iff_cycle : (nodes ++ nodes.take 1).IsChain (fun v w => w ∈ next v) ↔
    (nodes : Cycle NodeId).Chain fun v w => w ∈ next v := by
  cases nodes with
  | nil => simp
  | cons v nodes => rw [Cycle.chain_coe_cons]; rfl

/-- A cycle may be entered at any of its nodes. -/
theorem IsCycle.rotated (h : IsCycle next nodes) (turned : nodes ~r nodes') :
    IsCycle next nodes' where
  ne_nil := by
    rintro rfl
    exact h.ne_nil (List.isRotated_nil_iff.1 turned)
  nodup := turned.nodup_iff.1 h.nodup
  chain := by
    have same : (nodes : Cycle NodeId) = nodes' := Cycle.coe_eq_coe.2 turned
    rw [chain_iff_cycle, ← same]
    exact chain_iff_cycle.1 h.chain

/-- Nodes in an order after what they lead to are on no cycle. -/
theorem Ordered.not_isCycle {order : List NodeId} (ordered : Ordered next order)
    (all : ∀ v w, w ∈ next v → v ∈ order) (nodes : List NodeId) : ¬ IsCycle next nodes := by
  intro h
  have falls : (nodes.map order.idxOf : Cycle Nat).Chain (· > ·) := by
    rw [← Cycle.map_coe, Cycle.chain_map]
    exact (chain_iff_cycle.1 h.chain).imp fun v w leads => ordered v (all v w leads) w leads
  have none := falls.eq_nil_of_irrefl
  rw [Cycle.coe_eq_nil, List.map_eq_nil_iff] at none
  exact h.ne_nil none

/-- What comes before the first place of a node. -/
theorem takeWhile_ne_append {inner above : List NodeId} (new : id ∉ inner) :
    (inner ++ id :: above).takeWhile (· ≠ id) = inner := by
  have others (v : NodeId) (mem : v ∈ inner) : decide (v ≠ id) = true :=
    decide_eq_true (ne_of_mem_of_not_mem mem new)
  rw [List.takeWhile_append_of_pos others, List.takeWhile_cons_of_neg (by simp), List.append_nil]

theorem loopAt_append {inner above : List NodeId} (new : id ∉ inner) :
    loopAt id (inner ++ id :: above) = id :: inner.reverse := by
  rw [loopAt, takeWhile_ne_append new]

/-- A path that leads to a node and then back to one of its own goes round a cycle. -/
theorem isCycle_loopAt (held : id ∈ path) (nodup : path.Nodup)
    (chain : (id :: path).IsChain fun w v => w ∈ next v) : IsCycle next (loopAt id path) := by
  obtain ⟨inner, above, rfl, new⟩ := List.eq_append_cons_of_mem held
  rw [loopAt_append new]
  refine ⟨List.cons_ne_nil _ _, ?_, ?_⟩
  · rw [List.nodup_cons, List.mem_reverse, List.nodup_reverse]
    exact ⟨new, (List.nodup_append.1 nodup).1⟩
  · have around : (id :: inner ++ [id]).IsChain fun w v => w ∈ next v :=
      chain.prefix ⟨above, by simp⟩
    simpa using List.isChain_reverse.2 around

/-! ## Arrivals -/

/-- Visit a node with just the room that the path leaves. -/
def visitOn (size : Nat) (next : NodeId → List NodeId) (path : List NodeId) :
    Trace → NodeId → Trace :=
  visit size next (size + 1 - path.length) path

theorem IsPath.unfold {room : Nat} (h : IsPath size path room) (t : Trace) (id : NodeId) :
    visit size next room path t id =
      if size ≤ id then t.note (.missing id)
      else if id ∈ path then t.note (.loop (loopAt id path))
      else if id ∈ t.finished then t
      else ((next id).foldl (visitOn size next (id :: path)) t).finish id := by
  obtain ⟨room, rfl⟩ := Nat.exists_eq_succ_of_ne_zero h.room_ne_zero
  have left : size + 1 - (id :: path).length = room := by
    have := h.room
    rw [List.length_cons]
    omega
  rw [visitOn, left, visit]

theorem IsPath.onward (h : IsPath size path (size + 1 - path.length)) (lt : id < size)
    (new : id ∉ path) : IsPath size (id :: path) (size + 1 - (id :: path).length) := by
  have longer : size + 1 - path.length = size + 1 - (id :: path).length + 1 := by
    have := h.room_ne_zero
    rw [List.length_cons]
    omega
  exact .cons (longer ▸ h) lt new

/-- The nodes that a path may go on to. -/
def ways (next : NodeId → List NodeId) (starts : List NodeId) : List NodeId → List NodeId
  | [] => starts
  | v :: _ => next v

/-- All ways lead to something when the starts and the edges do. -/
theorem ways_lt (starts_lt : ∀ w ∈ starts, w < size) (next_lt : ∀ v, ∀ w ∈ next v, w < size)
    (path : List NodeId) : ∀ w ∈ ways next starts path, w < size := by
  cases path with
  | nil => exact starts_lt
  | cons v => exact next_lt v

/-- A traversal comes to a node by way of a path, after the ways that the path had before it. -/
inductive Comes (size : Nat) (next : NodeId → List NodeId) (starts : List NodeId) :
    (path before : List NodeId) → Trace → NodeId → Prop where
  | start {before id after} (split : starts = before ++ id :: after) :
      Comes size next starts [] before (before.foldl (visitOn size next []) .empty) id
  | onward {path before t v before' w after} (came : Comes size next starts path before t v)
      (lt : v < size) (new : v ∉ path) (fresh : v ∉ t.finished)
      (split : next v = before' ++ w :: after) :
      Comes size next starts (v :: path) before'
        (before'.foldl (visitOn size next (v :: path)) t) w

theorem visited_foldl (isPath : IsPath size path (size + 1 - path.length))
    (h : Visiting size next path t) (ids : List NodeId) :
    Visited size next path ids t (ids.foldl (visitOn size next path) t) :=
  .foldl ids h fun _ id h => visit_visited isPath h id

namespace Comes

theorem isPath (h : Comes size next starts path before t id) :
    IsPath size path (size + 1 - path.length) := by
  induction h with
  | start => exact ⟨.nil, nofun, rfl⟩
  | onward _ lt new _ _ ih => exact ih.onward lt new

theorem visiting (h : Comes size next starts path before t id) : Visiting size next path t := by
  induction h with
  | start => exact (visited_foldl ⟨.nil, nofun, rfl⟩ .empty _).visiting
  | onward came lt new fresh split ih =>
    have onward := Comes.onward came lt new fresh split
    exact (visited_foldl onward.isPath (ih.push fresh) _).visiting

theorem split (h : Comes size next starts path before t id) :
    ∃ after, ways next starts path = before ++ id :: after := by
  cases h with
  | start split => exact ⟨_, split⟩
  | onward _ _ _ _ split => exact ⟨_, split⟩

theorem mem_ways (h : Comes size next starts path before t id) : id ∈ ways next starts path := by
  obtain ⟨after, split⟩ := h.split
  simp [split]

/-- Each node of the path leads to the one that comes next. -/
theorem chain (h : Comes size next starts path before t id) :
    (id :: path).IsChain fun w v => w ∈ next v := by
  induction h with
  | start => exact .singleton _
  | onward came lt new fresh split ih =>
    exact .cons_cons (Comes.onward came lt new fresh split).mem_ways ih

/-- Nothing that a visit finished or noted is lost. -/
theorem prefixes (h : Comes size next starts path before t id) :
    (visitOn size next path t id).finished <+: (trace size next starts).finished ∧
      (visitOn size next path t id).faults <+: (trace size next starts).faults := by
  have later {path before t id} (h : Comes size next starts path before t id)
      (after : List NodeId) : Visited size next path after (visitOn size next path t id)
        (after.foldl (visitOn size next path) (visitOn size next path t id)) :=
    visited_foldl h.isPath (visit_visited h.isPath h.visiting id).visiting after
  induction h with
  | @start before id after split =>
    have rest := later (.start split) after
    rw [← List.foldl_cons, ← List.foldl_append, ← split] at rest
    exact ⟨rest.finished, rest.faults⟩
  | @onward path before t v before' w after came lt new fresh split ih =>
    have rest := later (.onward came lt new fresh split) after
    rw [← List.foldl_cons, ← List.foldl_append, ← split] at rest
    rw [visitOn, came.isPath.unfold, if_neg (Nat.not_le_of_lt lt), if_neg new, if_neg fresh] at ih
    exact ⟨(rest.finished.trans (List.prefix_append ..)).trans ih.1, rest.faults.trans ih.2⟩

end Comes

/-- What a visit itself adds to a trace: one fault, or the node once all that it leads to was
visited. -/
inductive Adds (size : Nat) (next : NodeId → List NodeId) (path : List NodeId) (t : Trace)
    (id : NodeId) : Trace → Trace → Prop where
  | missing (outside : size ≤ id) : Adds size next path t id t (t.note (.missing id))
  | loop (held : id ∈ path) : Adds size next path t id t (t.note (.loop (loopAt id path)))
  | finish {t' : Trace} (new : id ∉ path) (fresh : id ∉ t.finished) :
      Adds size next path t id t' (t'.finish id)

/-- What holds after a visit held before, or came about where a visit added to the trace. -/
theorem Comes.cause {Q : Trace → Prop} (h : Comes size next starts path before t id)
    (holds : Q (visitOn size next path t id)) :
    Q t ∨ ∃ path before t id t' t'', Comes size next starts path before t id ∧
      Adds size next path t id t' t'' ∧ ¬ Q t' ∧ Q t'' := by
  -- The path grows up to the number of nodes.
  induction room : size + 1 - path.length generalizing path before t id with
  | zero => exact absurd room h.isPath.room_ne_zero
  | succ room ih =>
    refine or_iff_not_imp_left.2 fun old => ?_
    rw [visitOn, h.isPath.unfold] at holds
    split at holds
    · next outside => exact ⟨_, _, _, _, _, _, h, .missing outside, old, holds⟩
    · next inside =>
      split at holds
      · next held => exact ⟨_, _, _, _, _, _, h, .loop held, old, holds⟩
      · next new =>
        split at holds
        · exact absurd holds old
        · next fresh =>
          by_cases below : Q ((next id).foldl (visitOn size next (id :: path)) t)
          · obtain ⟨before', w, after, split, first, holds⟩ := (foldl_first below).resolve_left old
            have onward := Comes.onward h (Nat.lt_of_not_le inside) new fresh split
            refine (ih onward holds ?_).resolve_left first
            rw [List.length_cons]
            omega
          · exact ⟨_, _, _, _, _, _, h, .finish new fresh, below, holds⟩

/-- What holds of a trace came about where a visit added to it. -/
theorem exists_adds {Q : Trace → Prop} (holds : Q (trace size next starts)) (none : ¬ Q .empty) :
    ∃ path before t id t' t'', Comes size next starts path before t id ∧
      Adds size next path t id t' t'' ∧ ¬ Q t' ∧ Q t'' := by
  obtain ⟨before, id, after, split, first, holds⟩ := (foldl_first holds).resolve_left none
  exact ((Comes.start split).cause holds).resolve_left first

/-- A node that is finished was come to when it was new. -/
theorem exists_comes (done : v ∈ (trace size next starts).finished) :
    ∃ path before t, Comes size next starts path before t v ∧ v ∉ path ∧ v ∉ t.finished := by
  obtain ⟨path, before, t, id, t', _, came, adds, undone, done⟩ :=
    exists_adds (Q := (v ∈ ·.finished)) done (List.not_mem_nil)
  cases adds with
  | missing | loop => exact absurd done undone
  | finish new fresh =>
    obtain rfl := List.mem_singleton.1 ((List.mem_append.1 done).resolve_left undone)
    exact ⟨path, before, t, came, new, fresh⟩

/-- The loops of a traversal are those that it comes to. -/
theorem loop_mem_faults_iff : .loop nodes ∈ (trace size next starts).faults ↔
    ∃ path before t id, Comes size next starts path before t id ∧ id ∈ path ∧
      nodes = loopAt id path := by
  constructor
  · intro noted
    obtain ⟨path, before, t, id, _, _, came, adds, unnoted, noted⟩ :=
      exists_adds (Q := (.loop nodes ∈ ·.faults)) noted List.not_mem_nil
    cases adds with
    | missing => nomatch List.mem_singleton.1 ((List.mem_append.1 noted).resolve_left unnoted)
    | loop held =>
      cases List.mem_singleton.1 ((List.mem_append.1 noted).resolve_left unnoted)
      exact ⟨path, before, t, id, came, held, rfl⟩
    | finish => exact absurd noted unnoted
  · rintro ⟨path, before, t, id, came, held, rfl⟩
    refine came.prefixes.2.mem ?_
    rw [visitOn, came.isPath.unfold, if_neg (Nat.not_le_of_lt (came.isPath.lt id held)),
      if_pos held]
    exact List.mem_concat_self

theorem isCycle_of_loop (noted : .loop nodes ∈ (trace size next starts).faults) :
    IsCycle next nodes := by
  obtain ⟨path, _, _, id, came, held, rfl⟩ := loop_mem_faults_iff.1 noted
  exact isCycle_loopAt held came.isPath.nodup came.chain

end Wiring.Traversal
