import Wiring.Proofs.Graph.Loops

/-!
# Graph — FirstPath

The paths by which a depth-first traversal comes to the nodes that it has not met before, told
without the traversal. A path is a first path when none of the ways that it passes by leads to one
of its nodes sooner. The loops of a traversal are those that an edge closes from the end of a first
path back to a node on it.
-/

namespace Wiring.Traversal

variable {size : Nat} {next : NodeId → List NodeId} {starts path before nodes : List NodeId}
  {t : Trace} {id v w : NodeId}

/-- Some way that comes before those of a path, nearest node first, leads to a node clear of what is
on the path up to there. -/
def Sooner (next : NodeId → List NodeId) (starts : List NodeId) : List NodeId → NodeId → Prop
  | [], _ => False
  | v :: path, w =>
    Sooner next starts path w ∨
      ∃ way ∈ (ways next starts path).takeWhile (· ≠ v), ReachesClear next path way w

/-- Paths, nearest node first, that lead to each of their nodes sooner than any way passed by. -/
inductive FirstPath (next : NodeId → List NodeId) (starts : List NodeId) : List NodeId → Prop where
  | nil : FirstPath next starts []
  | cons {v : NodeId} {path : List NodeId} (first : FirstPath next starts path)
      (way : v ∈ ways next starts path) (new : v ∉ path)
      (soonest : ¬ Sooner next starts (v :: path) v) : FirstPath next starts (v :: path)

theorem FirstPath.nodup (h : FirstPath next starts path) : path.Nodup := by
  induction h with
  | nil => exact .nil
  | cons _ _ new _ ih => exact List.nodup_cons.2 ⟨new, ih⟩

/-! ## Where a traversal goes -/

/-- A node that is reached clear of the open path is finished when that from which it is reached
is. -/
theorem Visiting.finished_of_reachesClear (h : Visiting size next path t)
    (inside : ∀ v, ∀ w ∈ next v, w < size) (done : v ∈ t.finished)
    (reach : ReachesClear next path v w) : w ∈ t.finished := by
  obtain ⟨-, steps⟩ := reach
  induction steps with
  | refl => exact done
  | @tail u w _ step ih => exact (h.closed u ih w step.1 (inside u w step.1)).resolve_right step.2

/-- Visits finish just what is reached clear of the path. -/
theorem mem_finished_foldl (isPath : IsPath size path (size + 1 - path.length))
    (h : Visiting size next path t) (inside : ∀ v, ∀ w ∈ next v, w < size) {ids : List NodeId}
    (lt : ∀ id ∈ ids, id < size) : w ∈ (ids.foldl (visitOn size next path) t).finished ↔
      w ∈ t.finished ∨ ∃ id ∈ ids, ReachesClear next path id w := by
  have visited := visited_foldl isPath h ids
  constructor
  · intro done
    exact foldl_cause (Q := (w ∈ ·.finished)) done fun _ _ => reachesClear_of_visit
  · rintro (old | ⟨id, mem, reach⟩)
    · exact visited.finished.mem old
    · have done := (visited.reached id mem (lt id mem)).resolve_right reach.1
      exact visited.visiting.finished_of_reachesClear inside done reach

section

variable (inside : ∀ path, ∀ w ∈ ways next starts path, w < size)

include inside

theorem Comes.lt (h : Comes size next starts path before t id) : id < size :=
  inside path id h.mem_ways

theorem Comes.before_lt (h : Comes size next starts path before t id) : ∀ v ∈ before, v < size := by
  obtain ⟨after, split⟩ := h.split
  exact fun v mem => inside path v (split ▸ List.mem_append_left _ mem)

/-- When a traversal comes to a node, it has finished what is reached by the ways that come before
those of the path. -/
theorem Comes.mem_finished (h : Comes size next starts path before t id) :
    w ∈ t.finished ↔
      Sooner next starts path w ∨ ∃ way ∈ before, ReachesClear next path way w := by
  have inside' (v w : NodeId) (leads : w ∈ next v) : w < size := inside [v] w leads
  induction h generalizing w with
  | start split =>
    have lt := Comes.before_lt inside (.start split)
    rw [mem_finished_foldl ⟨.nil, nofun, rfl⟩ .empty inside' lt]
    simp [Sooner, Trace.empty]
  | @onward path before t v before' _ after came lt new fresh split ih =>
    have onward := Comes.onward came lt new fresh split
    -- The node was not among the ways before it, or else it would be finished.
    have first : v ∉ before := fun mem => fresh (ih.2 (.inr ⟨v, mem, .refl new⟩))
    obtain ⟨after', split'⟩ := came.split
    have earlier : w ∈ t.finished ↔
        Sooner next starts path w ∨ ∃ way ∈ before, ReachesClear next path way w := ih
    rw [mem_finished_foldl onward.isPath (came.visiting.push fresh) inside'
      (onward.before_lt inside), earlier, Sooner, split', takeWhile_ne_append first]

theorem Comes.before_eq (h : Comes size next starts path before t id) (new : id ∉ path)
    (fresh : id ∉ t.finished) : (ways next starts path).takeWhile (· ≠ id) = before := by
  obtain ⟨after, split⟩ := h.split
  have first : id ∉ before :=
    fun mem => fresh ((h.mem_finished inside).2 (.inr ⟨id, mem, .refl new⟩))
  rw [split, takeWhile_ne_append first]

/-- A traversal goes by first paths. -/
theorem Comes.firstPath (h : Comes size next starts path before t id) :
    FirstPath next starts path := by
  induction h with
  | start => exact .nil
  | @onward path before t v _ _ _ came _ new fresh _ ih =>
    refine ih.cons came.mem_ways new fun sooner => fresh ((came.mem_finished inside).2 ?_)
    rw [Sooner, came.before_eq inside new fresh] at sooner
    exact sooner

/-- A traversal goes by each first path, and tries all ways at its end. -/
theorem FirstPath.comes (h : FirstPath next starts path) (way : id ∈ ways next starts path) :
    ∃ before t, Comes size next starts path before t id ∧
      before = (ways next starts path).takeWhile (· ≠ id) := by
  induction h generalizing id with
  | nil =>
    obtain ⟨before, after, split, first⟩ := List.eq_append_cons_of_mem way
    refine ⟨before, _, .start split, ?_⟩
    rw [split, takeWhile_ne_append first]
  | @cons v path _ step new soonest ih =>
    obtain ⟨_, t, came, rfl⟩ := ih step
    have fresh : v ∉ t.finished := fun done => soonest ((came.mem_finished inside).1 done)
    obtain ⟨before, after, split, first⟩ := List.eq_append_cons_of_mem way
    refine ⟨before, _, came.onward (came.lt inside) new fresh split, ?_⟩
    rw [split, takeWhile_ne_append first]

/-! ## Loops -/

/-- The loops of a traversal are closed from the ends of first paths. -/
theorem loop_mem_faults_iff_firstPath : .loop nodes ∈ (trace size next starts).faults ↔
    ∃ path id, FirstPath next starts path ∧ id ∈ ways next starts path ∧ id ∈ path ∧
      nodes = loopAt id path := by
  rw [loop_mem_faults_iff]
  constructor
  · rintro ⟨path, before, t, id, came, held, eq⟩
    exact ⟨path, id, came.firstPath inside, came.mem_ways, held, eq⟩
  · rintro ⟨path, id, first, way, held, eq⟩
    obtain ⟨before, t, came, -⟩ := first.comes inside way
    exact ⟨path, before, t, id, came, held, eq⟩

end

/-- An edge leads from the end of a first path back to a node on it, and the path goes through the
given node from there on. -/
def OnFirstLoop (next : NodeId → List NodeId) (starts : List NodeId) (v : NodeId) : Prop :=
  ∃ below id above, FirstPath next starts (below ++ id :: above) ∧
    id ∈ ways next starts (below ++ id :: above) ∧ v ∈ below ++ [id]

theorem mem_loop_iff (inside : ∀ path, ∀ w ∈ ways next starts path, w < size) :
    (∃ nodes, .loop nodes ∈ (trace size next starts).faults ∧ v ∈ nodes) ↔
      OnFirstLoop next starts v := by
  simp only [loop_mem_faults_iff_firstPath inside]
  constructor
  · rintro ⟨nodes, ⟨path, id, first, way, held, rfl⟩, mem⟩
    obtain ⟨below, above, rfl, new⟩ := List.eq_append_cons_of_mem held
    rw [loopAt_append new] at mem
    exact ⟨below, id, above, first, way, by simpa [or_comm] using mem⟩
  · rintro ⟨below, id, above, first, way, mem⟩
    have new : id ∉ below := by
      intro twice
      exact (List.nodup_append.1 first.nodup).2.2 id twice id List.mem_cons_self rfl
    refine ⟨_, ⟨_, id, first, way, by simp, rfl⟩, ?_⟩
    rw [loopAt_append new]
    simpa [or_comm] using mem

end Wiring.Traversal
