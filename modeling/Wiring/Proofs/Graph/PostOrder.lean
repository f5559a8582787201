import Wiring.Proofs.Graph.FirstPath
import Wiring.Proofs.Graph.Order
import Wiring.Proofs.Graph.Walk

/-!
# Graph — PostOrder

In which order a walk passes nodes, told without the walk. It comes to each node by a first path and
passes before it what an earlier way leads to, and what the node leads to clear of the path. So a
node that is needed at once is passed first, unless the need meets the path: then it goes through a
node that leads back to the one in need.
-/

namespace Wiring

theorem idxOf_lt_idxOf_cons_iff {α : Type} [BEq α] [LawfulBEq α] {before after : List α} {a b : α}
    (new : a ∉ before) :
    (before ++ a :: after).idxOf b < (before ++ a :: after).idxOf a ↔ b ∈ before := by
  rw [List.idxOf_append_of_notMem new, List.idxOf_cons_self, Nat.add_zero]
  by_cases mem : b ∈ before
  · rw [List.idxOf_append_of_mem mem]
    exact iff_of_true (List.idxOf_lt_length_of_mem mem) mem
  · rw [List.idxOf_append_of_notMem mem]
    exact iff_of_false (Nat.not_lt.2 (Nat.le_add_right ..)) mem

/-- A filter leaves what it keeps in order. -/
theorem idxOf_filter_lt_iff {α : Type} [BEq α] [LawfulBEq α] {keep : α → Bool} {l : List α}
    {a b : α} (kept : keep a) (kept' : keep b) :
    (l.filter keep).idxOf a < (l.filter keep).idxOf b ↔ l.idxOf a < l.idxOf b := by
  induction l with
  | nil => exact Iff.rfl
  | cons c l ih =>
    cases keeps : keep c with
    | true =>
      rw [List.filter_cons_of_pos keeps, List.idxOf_cons, List.idxOf_cons, List.idxOf_cons,
        List.idxOf_cons]
      cases c == a <;> cases c == b <;> simp [ih]
    | false =>
      have ne {d : α} (kept : keep d) : c ≠ d := by
        rintro rfl
        exact Bool.false_ne_true (keeps.symm.trans kept)
      rw [List.filter_cons_of_neg (by simp [keeps]), List.idxOf_cons_ne _ (ne kept),
        List.idxOf_cons_ne _ (ne kept'), ih, Nat.succ_lt_succ_iff]

namespace Traversal

variable {size : Nat} {next eager : NodeId → List NodeId} {starts path : List NodeId}
  {u v w : NodeId}

/-! ## The order of a traversal -/

/-- The nodes of a path lead to its end. -/
theorem FirstPath.reaches (h : FirstPath next starts (v :: path)) (mem : u ∈ v :: path) :
    Reaches next u v := by
  induction path generalizing v with
  | nil => rw [List.mem_singleton.1 mem]
  | cons v' path ih =>
    rcases List.mem_cons.1 mem with rfl | above
    · exact .refl
    · cases h with
      | cons first way => exact (ih first above).tail way

section

variable (inside : ∀ path, ∀ w ∈ ways next starts path, w < size)

include inside

/-- A node that is finished is the end of a first path. -/
theorem exists_firstPath (done : v ∈ (trace size next starts).finished) :
    ∃ path, FirstPath next starts (v :: path) := by
  obtain ⟨path, before, t, came, new, fresh⟩ := exists_comes done
  refine ⟨path, (came.firstPath inside).cons came.mem_ways new fun sooner => fresh ?_⟩
  rw [Sooner, came.before_eq inside new fresh] at sooner
  exact (came.mem_finished inside).2 sooner

/-- What is finished before a node: what the ways lead to that come before those of its path, and
what it leads to itself clear of the path. -/
theorem FirstPath.idxOf_lt_iff (h : FirstPath next starts (v :: path)) :
    (trace size next starts).finished.idxOf w < (trace size next starts).finished.idxOf v ↔
      Sooner next starts (v :: path) w ∨ ∃ way ∈ next v, ReachesClear next (v :: path) way w := by
  cases h with
  | cons first way new soonest =>
    obtain ⟨_, t, came, rfl⟩ := first.comes inside way
    have fresh : v ∉ t.finished := fun done => soonest ((came.mem_finished inside).1 done)
    have lt := came.lt inside
    have isPath := came.isPath.onward lt new
    have visiting := came.visiting.push fresh
    have below := visited_foldl isPath visiting (next v)
    have unfinished : v ∉ ((next v).foldl (visitOn size next (v :: path)) t).finished :=
      fun done => below.visiting.apart v done List.mem_cons_self
    obtain ⟨after, finished⟩ := came.prefixes.1
    rw [visitOn, came.isPath.unfold, if_neg (Nat.not_le_of_lt lt), if_neg new, if_neg fresh,
      Trace.finish, List.append_assoc, List.singleton_append] at finished
    rw [← finished, idxOf_lt_idxOf_cons_iff unfinished, Sooner, ← came.mem_finished inside]
    exact mem_finished_foldl isPath visiting (fun v w => inside [v] w) (inside [v])

end

/-! ## Needs -/

/-- What a node leads to by some of the edges it leads to clear of a path, unless the way there
meets the path. -/
theorem reachesClear_or_meets (sub : ∀ v, ∀ w ∈ eager v, w ∈ next v) (path : List NodeId)
    (h : Relation.TransGen (fun v w => w ∈ eager v) v w) :
    (∃ way ∈ next v, ReachesClear next path way w) ∨
      ∃ m ∈ path, Relation.TransGen (fun v w => w ∈ eager v) v m ∧
        Relation.ReflTransGen (fun v w => w ∈ eager v) m w := by
  induction h with
  | @single w leads =>
    by_cases held : w ∈ path
    · exact .inr ⟨w, held, .single leads, .refl⟩
    · exact .inl ⟨w, sub v w leads, .refl held⟩
  | @tail u w needs leads ih =>
    rcases ih with ⟨way, first, clear, reach⟩ | ⟨m, held, needs', rest⟩
    · by_cases held : w ∈ path
      · exact .inr ⟨w, held, needs.tail leads, .refl⟩
      · exact .inl ⟨way, first, clear, reach.tail ⟨sub u w leads, held⟩⟩
    · exact .inr ⟨m, held, needs', rest.tail leads⟩

end Traversal

namespace Graph

open Traversal

variable {g : Graph} {starts : List NodeId} {a b : NodeId}

/-- A node must be built before another one can be. -/
def NeedsAtOnce (g : Graph) : NodeId → NodeId → Prop :=
  Relation.TransGen fun v w => w ∈ g.eagerSuccessors v

/-- Where the nodes can be put in order, none needs itself. -/
theorem not_needsAtOnce_self (none : g.eagerTrace.faults = []) (v : NodeId) :
    ¬ g.NeedsAtOnce v v := by
  have ordered : Ordered g.eagerSuccessors g.eagerTrace.finished := trace_ordered none
  have falls {v w : NodeId} (needs : g.NeedsAtOnce v w) :
      g.eagerTrace.finished.idxOf w < g.eagerTrace.finished.idxOf v := by
    have step {v w : NodeId} (leads : w ∈ g.eagerSuccessors v) :
        g.eagerTrace.finished.idxOf w < g.eagerTrace.finished.idxOf v :=
      ordered v (trace_perm.mem_iff.2 (List.mem_range.2 (lt_of_eagerSuccessors leads))) w leads
    induction needs with
    | single leads => exact step leads
    | tail _ leads ih => exact (step leads).trans ih
  exact fun needs => Nat.lt_irrefl _ (falls needs)

/-- A walk comes to a node by a first path and has passed another one before: one of the ways that
come before those of the path leads there, or the node itself does, clear of the path. -/
def PassedFirst (g : Graph) (starts : List NodeId) (b a : NodeId) : Prop :=
  ∃ path, FirstPath g.successors starts (a :: path) ∧
    (Sooner g.successors starts (a :: path) b ∨
      ∃ way ∈ g.successors a, ReachesClear g.successors (a :: path) way b)

theorem Whole.ways_lt (h : g.Whole) (rooted : ∀ start ∈ starts, start < g.nodes.length)
    (path : List NodeId) : ∀ w ∈ ways g.successors starts path, w < g.nodes.length :=
  Traversal.ways_lt rooted (fun _ _ => h.successors_lt) path

section

variable (whole : g.Whole) (rooted : ∀ start ∈ starts, start < g.nodes.length)

include whole rooted

theorem walk_idxOf_lt_iff (mem : a ∈ g.walk starts) :
    (g.walk starts).idxOf b < (g.walk starts).idxOf a ↔ g.PassedFirst starts b a := by
  have inside := whole.ways_lt rooted
  constructor
  · intro lt
    obtain ⟨path, first⟩ := exists_firstPath inside mem
    exact ⟨path, first, (first.idxOf_lt_iff inside).1 lt⟩
  · rintro ⟨path, first, passed⟩
    exact (first.idxOf_lt_iff inside).2 passed

/-- What a node needs at once is passed before it, or the need goes through a node that leads back
to it. -/
theorem walk_needs (mem : a ∈ g.walk starts) (needs : g.NeedsAtOnce a b) :
    (g.walk starts).idxOf b < (g.walk starts).idxOf a ∨
      ∃ m, g.NeedsAtOnce a m ∧ (m = b ∨ g.NeedsAtOnce m b) ∧ Reaches g.successors m a := by
  have inside := whole.ways_lt rooted
  obtain ⟨path, first⟩ := exists_firstPath inside mem
  rcases reachesClear_or_meets (fun _ _ => successors_of_eagerSuccessors) (a :: path) needs with
    clear | ⟨m, held, before, after⟩
  · exact .inl ((first.idxOf_lt_iff inside).2 (.inr clear))
  · refine .inr ⟨m, before, ?_, first.reaches held⟩
    exact (Relation.reflTransGen_iff_eq_or_transGen.1 after).imp_left Eq.symm

end

end Graph

end Wiring
