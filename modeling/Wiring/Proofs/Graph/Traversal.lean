import Mathlib.Data.List.Nodup
import Mathlib.Data.List.Perm.Subperm
import Mathlib.Logic.Relation
import Wiring.Graph.Traversal

/-!
# Graph — Traversal

What a depth-first traversal leaves behind. The finished nodes are distinct, and all that they lead
to is finished too or stands on the path; without a fault it was finished before. Nothing else is
finished than what the starts lead to. A traversal never runs out of room, because the path holds no
node twice.
-/

namespace Wiring.Traversal

variable {size : Nat} {next : NodeId → List NodeId} {path : List NodeId} {t t' t'' : Trace}

/-! ## The invariant -/

/-- A path with room for the rest of the nodes. -/
structure IsPath (size : Nat) (path : List NodeId) (room : Nat) : Prop where
  nodup : path.Nodup
  lt : ∀ v ∈ path, v < size
  room : room + path.length = size + 1

theorem IsPath.room_ne_zero {room : Nat} (h : IsPath size path room) : room ≠ 0 := by
  have fits : path.length ≤ size := by
    have sub : path ⊆ List.range size := fun v mem => List.mem_range.2 (h.lt v mem)
    simpa using (List.subperm_of_subset h.nodup sub).length_le
  have := h.room
  omega

theorem IsPath.cons {room : Nat} {id : Nat} (h : IsPath size path (room + 1)) (lt : id < size)
    (new : id ∉ path) : IsPath size (id :: path) room where
  nodup := List.nodup_cons.2 ⟨new, h.nodup⟩
  lt := by
    intro v mem
    rcases List.mem_cons.1 mem with rfl | old
    · exact lt
    · exact h.lt v old
  room := by
    have := h.room
    rw [List.length_cons]
    omega

/-- Each node comes after the nodes that it leads to. -/
def Ordered (next : NodeId → List NodeId) (order : List NodeId) : Prop :=
  ∀ v ∈ order, ∀ w ∈ next v, order.idxOf w < order.idxOf v

theorem Ordered.finish {order : List NodeId} {id : NodeId} (h : Ordered next order)
    (new : id ∉ order) (done : ∀ w ∈ next id, w ∈ order) : Ordered next (order ++ [id]) := by
  intro v mem w leads
  by_cases old : v ∈ order
  · have lt := h v old w leads
    have there : w ∈ order :=
      List.idxOf_lt_length_iff.1 (Nat.lt_trans lt (List.idxOf_lt_length_iff.2 old))
    rw [List.idxOf_append_of_mem old, List.idxOf_append_of_mem there]
    exact lt
  · obtain rfl : v = id := by simpa [old] using mem
    have there := done w leads
    rw [List.idxOf_append_of_mem there, List.idxOf_append_of_notMem new]
    exact Nat.lt_of_lt_of_le (List.idxOf_lt_length_iff.2 there) (Nat.le_add_right ..)

/-- What holds of a trace while a path is open. -/
structure Visiting (size : Nat) (next : NodeId → List NodeId) (path : List NodeId) (t : Trace) :
    Prop where
  nodup : t.finished.Nodup
  lt : ∀ v ∈ t.finished, v < size
  apart : ∀ v ∈ t.finished, v ∉ path
  closed : ∀ v ∈ t.finished, ∀ w ∈ next v, w < size → w ∈ t.finished ∨ w ∈ path
  ordered : t.faults = [] → Ordered next t.finished

theorem Visiting.empty : Visiting size next path .empty :=
  ⟨.nil, nofun, nofun, nofun, fun _ => nofun⟩

theorem Visiting.note (h : Visiting size next path t) (f : Fault) :
    Visiting size next path (t.note f) where
  nodup := h.nodup
  lt := h.lt
  apart := h.apart
  closed := h.closed
  ordered := fun none => absurd none (by simp [Trace.note])

/-- A longer path asks for no more. -/
theorem Visiting.push {id : NodeId} (h : Visiting size next path t) (fresh : id ∉ t.finished) :
    Visiting size next (id :: path) t where
  nodup := h.nodup
  lt := h.lt
  apart := by
    intro v mem held
    rcases List.mem_cons.1 held with rfl | outer
    · exact fresh mem
    · exact h.apart v mem outer
  closed := fun v mem w leads lt => (h.closed v mem w leads lt).imp_right (List.mem_cons_of_mem _)
  ordered := h.ordered

/-- Some nodes were visited on a path. -/
structure Visited (size : Nat) (next : NodeId → List NodeId) (path ids : List NodeId)
    (t t' : Trace) : Prop where
  visiting : Visiting size next path t'
  finished : t.finished <+: t'.finished
  faults : t.faults <+: t'.faults
  reached : ∀ id ∈ ids, id < size → id ∈ t'.finished ∨ id ∈ path
  flawless : t'.faults = [] → ∀ id ∈ ids, id ∈ t'.finished

theorem Visited.nil (h : Visiting size next path t) : Visited size next path [] t t :=
  ⟨h, List.prefix_refl _, List.prefix_refl _, nofun, fun _ => nofun⟩

theorem Visited.cons {id : NodeId} {ids : List NodeId} (first : Visited size next path [id] t t')
    (rest : Visited size next path ids t' t'') : Visited size next path (id :: ids) t t'' where
  visiting := rest.visiting
  finished := first.finished.trans rest.finished
  faults := first.faults.trans rest.faults
  reached := by
    intro v mem lt
    rcases List.mem_cons.1 mem with rfl | later
    · exact (first.reached v (.head _) lt).imp_left (rest.finished.mem ·)
    · exact rest.reached v later lt
  flawless := by
    intro none v mem
    rcases List.mem_cons.1 mem with rfl | later
    · have none' : t'.faults = [] := List.prefix_nil.1 (none ▸ rest.faults)
      exact rest.finished.mem (first.flawless none' v (.head _))
    · exact rest.flawless none v later

/-! ## Visits -/

/-- A node that is new finishes after what it leads to. -/
theorem Visited.finish {id : NodeId} (lt : id < size) (new : id ∉ path)
    (below : Visited size next (id :: path) (next id) t t') :
    Visited size next path [id] t (t'.finish id) := by
  have h := below.visiting
  have unfinished : id ∉ t'.finished := fun mem => h.apart id mem (.head _)
  -- What was on the longer path is now finished or on the path.
  have settle {w : NodeId} (reached : w ∈ t'.finished ∨ w ∈ id :: path) :
      w ∈ t'.finished ++ [id] ∨ w ∈ path := by
    rcases reached with done | held
    · exact .inl (List.mem_append_left _ done)
    · rcases List.mem_cons.1 held with rfl | outer
      · exact .inl List.mem_concat_self
      · exact .inr outer
  refine ⟨⟨?_, ?_, ?_, ?_, ?_⟩, ?_, below.faults, ?_, ?_⟩
  · rw [Trace.finish, List.nodup_append]
    exact ⟨h.nodup, List.nodup_singleton id, fun v done w last => by
      rw [List.mem_singleton.1 last]
      exact ne_of_mem_of_not_mem done unfinished⟩
  · intro v mem
    rcases List.mem_append.1 mem with done | last
    · exact h.lt v done
    · exact List.mem_singleton.1 last ▸ lt
  · intro v mem
    rcases List.mem_append.1 mem with done | last
    · exact fun outer => h.apart v done (List.mem_cons_of_mem _ outer)
    · exact List.mem_singleton.1 last ▸ new
  · intro v mem w leads inside
    rcases List.mem_append.1 mem with done | last
    · exact settle (h.closed v done w leads inside)
    · exact settle (below.reached w (List.mem_singleton.1 last ▸ leads) inside)
  · intro none
    exact (h.ordered none).finish unfinished (below.flawless none)
  · exact below.finished.trans (List.prefix_append ..)
  · intro v mem _
    exact .inl (List.mem_singleton.1 mem ▸ List.mem_concat_self)
  · intro _ v mem
    exact List.mem_singleton.1 mem ▸ List.mem_concat_self

/-- A node that is not visited anew. -/
theorem Visited.note {id : NodeId} (h : Visiting size next path t) (f : Fault)
    (known : id < size → id ∈ path) : Visited size next path [id] t (t.note f) where
  visiting := h.note f
  finished := List.prefix_refl _
  faults := List.prefix_append ..
  reached := fun v mem lt => .inr (List.mem_singleton.1 mem ▸ known (List.mem_singleton.1 mem ▸ lt))
  flawless := fun none => absurd none (by simp [Trace.note])

theorem Visited.again {id : NodeId} (h : Visiting size next path t) (done : id ∈ t.finished) :
    Visited size next path [id] t t where
  visiting := h
  finished := List.prefix_refl _
  faults := List.prefix_refl _
  reached := fun _ mem _ => .inl (List.mem_singleton.1 mem ▸ done)
  flawless := fun _ _ mem => List.mem_singleton.1 mem ▸ done

theorem Visited.foldl {step : Trace → NodeId → Trace} (ids : List NodeId)
    (h : Visiting size next path t)
    (steps : ∀ t id, Visiting size next path t → Visited size next path [id] t (step t id)) :
    Visited size next path ids t (ids.foldl step t) := by
  induction ids generalizing t with
  | nil => exact .nil h
  | cons id ids ih =>
    have first := steps t id h
    exact first.cons (ih first.visiting)

theorem visit_visited {room : Nat} (isPath : IsPath size path room)
    (h : Visiting size next path t) (id : NodeId) :
    Visited size next path [id] t (visit size next room path t id) := by
  -- The room shrinks as the path grows, which keeps `IsPath` and rules out the empty room.
  induction room generalizing path t id with
  | zero => exact absurd rfl isPath.room_ne_zero
  | succ room ih =>
    unfold visit
    split
    · next outside => exact .note h _ fun inside => absurd outside (Nat.not_le_of_lt inside)
    · next inside =>
      split
      · next held => exact .note h _ fun _ => held
      · next new =>
        split
        · next done => exact .again h done
        · next fresh =>
          have lt : id < size := Nat.lt_of_not_le inside
          have longer := isPath.cons lt new
          exact .finish lt new (.foldl _ (h.push fresh) fun t id h => ih longer h id)

/-- A whole traversal, with no path left open. -/
theorem trace_visited (starts : List NodeId) :
    Visited size next [] starts .empty (trace size next starts) :=
  .foldl _ .empty fun _ id h => visit_visited ⟨.nil, nofun, rfl⟩ h id

/-! ## Traversals -/

/-- What is finished leads only to what is finished. -/
theorem trace_closed {starts : List NodeId} {v w : NodeId}
    (mem : v ∈ (trace size next starts).finished) (leads : w ∈ next v) (lt : w < size) :
    w ∈ (trace size next starts).finished :=
  ((trace_visited starts).visiting.closed v mem w leads lt).resolve_right nofun

theorem mem_trace {starts : List NodeId} {v : NodeId} (start : v ∈ starts) (lt : v < size) :
    v ∈ (trace size next starts).finished :=
  ((trace_visited starts).reached v start lt).resolve_right nofun

/-- A traversal from every node finishes each of them once. -/
theorem trace_perm : (trace size next (List.range size)).finished.Perm (List.range size) := by
  have visiting : Visiting size next [] (trace size next (List.range size)) :=
    (trace_visited _).visiting
  refine (List.perm_ext_iff_of_nodup visiting.nodup List.nodup_range).2 fun v => ?_
  constructor
  · intro mem
    exact List.mem_range.2 (visiting.lt v mem)
  · intro mem
    exact mem_trace mem (List.mem_range.1 mem)

theorem trace_ordered {starts : List NodeId} (none : (trace size next starts).faults = []) :
    Ordered next (trace size next starts).finished :=
  (trace_visited starts).visiting.ordered none

/-- A missing node is asked for, or something leads to it. -/
def Misses (size : Nat) (next : NodeId → List NodeId) (v id : NodeId) : Prop :=
  size ≤ v ∧ (v = id ∨ ∃ u, v ∈ next u)

/-- What holds after some steps held before, or came about at one of them. -/
theorem foldl_first {step : Trace → NodeId → Trace} {Q : Trace → Prop} {ids : List NodeId}
    (h : Q (ids.foldl step t)) : Q t ∨ ∃ before id after, ids = before ++ id :: after ∧
      ¬ Q (before.foldl step t) ∧ Q (step (before.foldl step t) id) := by
  induction ids generalizing t with
  | nil => exact .inl h
  | cons id ids ih =>
    by_cases held : Q t
    · exact .inl held
    · rcases ih h with first | ⟨before, id', after, rfl, not, holds⟩
      · exact .inr ⟨[], id, ids, rfl, held, first⟩
      · exact .inr ⟨id :: before, id', after, rfl, not, holds⟩

/-- What holds after some steps held before, or one of the steps is the cause. -/
theorem foldl_cause {step : Trace → NodeId → Trace} {Q : Trace → Prop} {R : NodeId → Prop}
    {ids : List NodeId} (h : Q (ids.foldl step t)) (steps : ∀ t id, Q (step t id) → Q t ∨ R id) :
    Q t ∨ ∃ id ∈ ids, R id := by
  rcases foldl_first h with old | ⟨before, id, after, rfl, first, now⟩
  · exact .inl old
  · have mem : id ∈ before ++ id :: after := List.mem_append_right _ List.mem_cons_self
    exact .inr ⟨id, mem, (steps _ id now).resolve_left first⟩

theorem missing_of_visit {room : Nat} {id v : NodeId}
    (h : .missing v ∈ (visit size next room path t id).faults) :
    .missing v ∈ t.faults ∨ Misses size next v id := by
  induction room generalizing path t id with
  | zero => exact .inl h
  | succ room ih =>
    unfold visit at h
    split at h
    · next outside =>
      rcases List.mem_append.1 h with old | new
      · exact .inl old
      · cases List.mem_singleton.1 new
        exact .inr ⟨outside, .inl rfl⟩
    · split at h
      · rcases List.mem_append.1 h with old | new
        · exact .inl old
        · nomatch List.mem_singleton.1 new
      · split at h
        · exact .inl h
        · rcases foldl_cause (Q := (.missing v ∈ ·.faults)) h fun _ _ => ih with
          old | ⟨w, leads, outside, found⟩
          · exact .inl old
          · refine .inr ⟨outside, .inr ?_⟩
            rcases found with rfl | deeper
            · exact ⟨id, leads⟩
            · exact deeper

/-- Nothing is missing when every edge leads to a node. -/
theorem not_missing {starts : List NodeId} (inside : ∀ v ∈ starts, v < size)
    (edges : ∀ v, ∀ w ∈ next v, w < size) (v : NodeId) :
    .missing v ∉ (trace size next starts).faults := by
  intro mem
  rcases foldl_cause (Q := (.missing v ∈ ·.faults)) mem fun _ _ => missing_of_visit with
    none | ⟨id, start, outside, found⟩
  · nomatch none
  · rcases found with rfl | ⟨u, leads⟩
    · exact absurd (inside v start) (Nat.not_lt_of_le outside)
    · exact absurd (edges u v leads) (Nat.not_lt_of_le outside)

/-! ## Reachability -/

/-- One node leads to another in some steps. -/
abbrev Reaches (next : NodeId → List NodeId) : NodeId → NodeId → Prop :=
  Relation.ReflTransGen fun v w => w ∈ next v

/-- One node leads to another in some steps, clear of a path. -/
def ReachesClear (next : NodeId → List NodeId) (path : List NodeId) (v w : NodeId) : Prop :=
  v ∉ path ∧ Relation.ReflTransGen (fun v w => w ∈ next v ∧ w ∉ path) v w

theorem ReachesClear.reaches {v w : NodeId} (h : ReachesClear next path v w) :
    Reaches next v w :=
  h.2.lift id fun _ _ step => step.1

theorem ReachesClear.refl {v : NodeId} (clear : v ∉ path) : ReachesClear next path v v :=
  ⟨clear, .refl⟩

/-- What is reached clear of a node by way of its successors is reached from the node. -/
theorem ReachesClear.cons {u v w : NodeId} (clear : u ∉ path) (leads : v ∈ next u)
    (h : ReachesClear next (u :: path) v w) : ReachesClear next path u w := by
  have shorter {v : NodeId} (new : v ∉ u :: path) : v ∉ path :=
    fun mem => new (List.mem_cons_of_mem _ mem)
  refine ⟨clear, .head ⟨leads, shorter h.1⟩ ?_⟩
  exact h.2.lift id fun _ _ step => ⟨step.1, shorter step.2⟩

theorem reachesClear_of_visit {room : Nat} {id v : NodeId}
    (h : v ∈ (visit size next room path t id).finished) :
    v ∈ t.finished ∨ ReachesClear next path id v := by
  induction room generalizing path t id with
  | zero => exact .inl h
  | succ room ih =>
    unfold visit at h
    split at h
    · exact .inl h
    · split at h
      · exact .inl h
      · next clear =>
        split at h
        · exact .inl h
        · rcases List.mem_append.1 h with below | last
          · rcases foldl_cause (Q := (v ∈ ·.finished)) below fun _ _ => ih with
              old | ⟨w, leads, reach⟩
            · exact .inl old
            · exact .inr (reach.cons clear leads)
          · rw [List.mem_singleton.1 last]
            exact .inr (.refl clear)

/-- A traversal finishes nothing that its starts do not lead to. -/
theorem reaches_of_trace {starts : List NodeId} {v : NodeId}
    (h : v ∈ (trace size next starts).finished) : ∃ start ∈ starts, Reaches next start v := by
  rcases foldl_cause (Q := (v ∈ ·.finished)) h fun _ _ => reachesClear_of_visit with
    none | ⟨start, mem, reach⟩
  · nomatch none
  · exact ⟨start, mem, reach.reaches⟩

/-- A traversal finishes what its starts lead to, where only what is there leads on. -/
theorem mem_trace_iff (within : ∀ v, ∀ w ∈ next v, v < size) {starts : List NodeId}
    {v : NodeId} : v ∈ (trace size next starts).finished ↔
      v < size ∧ ∃ start ∈ starts, Reaches next start v := by
  constructor
  · intro mem
    exact ⟨(trace_visited starts).visiting.lt v mem, reaches_of_trace mem⟩
  · rintro ⟨lt, start, mem, reach⟩
    induction reach with
    | refl => exact mem_trace mem lt
    | tail _ leads ih => exact trace_closed (ih (within _ _ leads)) leads lt

end Wiring.Traversal
