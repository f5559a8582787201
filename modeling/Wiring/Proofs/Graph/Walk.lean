import Mathlib.Data.List.Induction
import Wiring.Graph.Order
import Wiring.Proofs.Graph.Targets
import Wiring.Proofs.Graph.Traversal

/-!
# Graph — Walk

A walk along all edges of a graph, from some starts one after the other. It passes every node that
the starts lead to, and each one once. To walk from each start anew and to leave out what was passed
before comes to the same.
-/

namespace Wiring

namespace Traversal

variable {size : Nat} {next : NodeId → List NodeId} {path done : List NodeId} {t fresh : Trace}

/-! ## Visits that do not begin anew -/

/-- What some nodes lead to is among them. -/
def ClosedBelow (size : Nat) (next : NodeId → List NodeId) (done : List NodeId) : Prop :=
  ∀ v ∈ done, ∀ w ∈ next v, w < size → w ∈ done

/-- One trace goes on from where some nodes are finished, the other finds them anew. -/
def Resumes (done : List NodeId) (t fresh : Trace) : Prop :=
  t.finished = done ++ fresh.finished.filter (· ∉ done)

/-- A visit of a finished node finishes nothing. -/
theorem visit_finished {id : NodeId} (room : Nat) (finished : id ∈ t.finished) :
    (visit size next room path t id).finished = t.finished := by
  cases room with
  | zero => rfl
  | succ room =>
    unfold visit
    split
    · rfl
    · split
      · rfl
      · rfl

theorem foldl_filter_eq {step : Trace → NodeId → Trace} {p : NodeId → Bool} {ids : List NodeId}
    (steps : ∀ id ∈ ids, ∀ t, (step t id).finished.filter p = t.finished.filter p) (t : Trace) :
    (ids.foldl step t).finished.filter p = t.finished.filter p := by
  induction ids generalizing t with
  | nil => rfl
  | cons id ids ih =>
    have rest := ih (fun id mem => steps id (List.mem_cons_of_mem _ mem)) (step t id)
    exact rest.trans (steps id List.mem_cons_self t)

/-- A visit of a node that is done passes only such nodes. -/
theorem visit_done (closed : ClosedBelow size next done) {room : Nat} {id : NodeId}
    (known : id < size → id ∈ done) :
    (visit size next room path t id).finished.filter (· ∉ done) =
      t.finished.filter (· ∉ done) := by
  induction room generalizing path t id with
  | zero => rfl
  | succ room ih =>
    unfold visit
    split
    · rfl
    · next inside =>
      split
      · rfl
      · split
        · rfl
        · have isDone := known (Nat.lt_of_not_le inside)
          rw [Trace.finish, List.filter_append,
            foldl_filter_eq fun w leads t => ih (closed id isDone w leads)]
          simp [isDone]

/-- A visit keeps two such traces in step. -/
theorem Resumes.visit (h : Resumes done t fresh) (closed : ClosedBelow size next done)
    (apart : ∀ v ∈ path, v ∉ done) (room : Nat) (id : NodeId) :
    Resumes done (visit size next room path t id) (visit size next room path fresh id) := by
  induction room generalizing path t fresh id with
  | zero => exact h
  | succ room ih =>
    by_cases isDone : id ∈ done
    · -- The one trace has passed the node before, the other passes what is done.
      have finished : id ∈ t.finished := h ▸ List.mem_append_left _ isDone
      rw [Resumes, visit_finished _ finished, visit_done closed fun _ => isDone]
      exact h
    · -- Both go on in the same ways, by a path that is clear of what is done.
      have same : id ∈ t.finished ↔ id ∈ fresh.finished := by
        rw [h]
        simp [isDone]
      have longer : ∀ v ∈ id :: path, v ∉ done := by
        intro v mem
        rcases List.mem_cons.1 mem with rfl | outer
        · exact isDone
        · exact apart v outer
      have below : Resumes done ((next id).foldl (Traversal.visit size next room (id :: path)) t)
          ((next id).foldl (Traversal.visit size next room (id :: path)) fresh) :=
        List.foldl_rel h fun w _ t fresh h => ih h longer w
      unfold Traversal.visit
      split
      · exact h
      · split
        · exact h
        · simp only [same]
          split
          · exact h
          · rw [Resumes, Trace.finish, Trace.finish, below, List.filter_append]
            simp [isDone]

/-- A traversal from one more start passes what is new. -/
theorem trace_concat (starts : List NodeId) (start : NodeId) :
    (trace size next (starts ++ [start])).finished = (trace size next starts).finished ++
      (trace size next [start]).finished.filter (· ∉ (trace size next starts).finished) := by
  have closed : ClosedBelow size next (trace size next starts).finished :=
    fun v mem w leads lt => trace_closed mem leads lt
  have begins : Resumes (trace size next starts).finished (trace size next starts) .empty := by
    simp [Resumes, Trace.empty]
  have apart : ∀ v ∈ ([] : List NodeId), v ∉ (trace size next starts).finished := nofun
  have resumed := begins.visit closed apart (size + 1) start
  rw [trace, List.foldl_append]
  exact resumed

end Traversal

theorem eraseDups_of_nodup {α : Type} [BEq α] [LawfulBEq α] {l : List α} (h : l.Nodup) :
    l.eraseDups = l := by
  induction l with
  | nil => rfl
  | cons a l ih =>
    obtain ⟨new, rest⟩ := List.nodup_cons.1 h
    have others : (l.filter fun b => !b == a) = l := by
      refine List.filter_eq_self.2 fun b mem => ?_
      simpa using ne_of_mem_of_not_mem mem new
    rw [List.eraseDups_cons, others, ih rest]

namespace Graph

open Traversal

variable {g : Graph} {starts : List NodeId} {v w : NodeId}

/-- The nodes that a walk passes from some starts, each after what it leads to as far as that was
not open before. -/
def walk (g : Graph) (starts : List NodeId) : List NodeId :=
  (trace g.nodes.length g.successors starts).finished

theorem buildOrder_eq (g : Graph) (root : NodeId) : g.buildOrder root = g.walk [root] := rfl

theorem walk_nodup (g : Graph) (starts : List NodeId) : (g.walk starts).Nodup :=
  (trace_visited starts).visiting.nodup

/-- A walk passes the nodes that its starts lead to. -/
theorem mem_walk_iff : v ∈ g.walk starts ↔
    v < g.nodes.length ∧ ∃ start ∈ starts, Reaches g.successors start v :=
  mem_trace_iff fun _ _ leads => lt_of_successors leads

theorem walk_concat (g : Graph) (starts : List NodeId) (start : NodeId) :
    g.walk (starts ++ [start]) =
      g.walk starts ++ (g.walk [start]).filter (· ∉ g.walk starts) :=
  trace_concat starts start

/-- Of what is kept of the walks from each start, the first places are those on one walk. -/
theorem eraseDups_walks (g : Graph) (keep : NodeId → Bool) (starts : List NodeId) :
    (starts.flatMap fun start => (g.walk [start]).filter keep).eraseDups =
      (g.walk starts).filter keep := by
  induction starts using List.reverseRecOn with
  | nil => rfl
  | append_singleton starts start ih =>
    have mem (v : NodeId) : v ∈ (starts.flatMap fun start => (g.walk [start]).filter keep) ↔
        v ∈ (g.walk starts).filter keep := by
      rw [← List.mem_eraseDups, ih]
    have new : ((g.walk [start]).filter keep).removeAll
        (starts.flatMap fun start => (g.walk [start]).filter keep) =
          ((g.walk [start]).filter (· ∉ g.walk starts)).filter keep := by
      rw [List.removeAll, List.filter_filter, List.filter_filter]
      refine List.filter_congr fun v _ => ?_
      cases kept : keep v <;> simp [mem, kept, -List.mem_flatMap]
    have nodup := ((g.walk_nodup [start]).filter (· ∉ g.walk starts)).filter keep
    rw [List.flatMap_append, List.flatMap_singleton, List.eraseDups_append, ih, new,
      eraseDups_of_nodup nodup, walk_concat, List.filter_append]

end Graph

end Wiring
