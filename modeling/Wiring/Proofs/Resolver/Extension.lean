import Wiring.Proofs.Resolver.Run

/-!
# Resolver — Extension

What a run leaves alone: it comes back to the context in which it began, and it only adds to the
graph. `Session.Extends` is kept by every request that is settled, by opening and closing a node,
and so by whole runs.
-/

namespace Wiring

theorem modify_append_length {α : Type} (before after : List α) (a : α) (f : α → α) :
    (before ++ a :: after).modify before.length f = before ++ f a :: after := by
  induction before with
  | nil => rfl
  | cons b before ih => simp [ih]

theorem getElem?_mono {α : Type} {l l' : List α} (h : l <+: l') {i : Nat} {a : α}
    (ha : l[i]? = some a) : l'[i]? = some a := by
  obtain ⟨more, rfl⟩ := h
  exact List.getElem?_append_left (List.getElem?_eq_some_iff.1 ha).1 ▸ ha

namespace Session

theorem close_graph (s : Session) (context : Context) (id : NodeId)
    (dependencies : List Dependency) :
    (s.close context id dependencies).graph
      = s.graph.modifyNode id (·.connected dependencies) := rfl

@[simp] theorem enterShape_graph (s : Session) (kind : NodeKind) (id : NodeId) :
    (s.enterShape kind id).graph = s.graph := by
  unfold enterShape
  split <;> rfl

/-! ## Extensions -/

/-- The same place in the resolution, with more in the graph. -/
structure Extends (s s' : Session) : Prop where
  context : s'.context = s.context
  rootName : s'.rootName = s.rootName
  blocks : s.blocks ≤ s'.blocks
  roots : s'.graph.roots = s.graph.roots
  nodes : s.graph.nodes <+: s'.graph.nodes
  unresolved : s.graph.unresolved <+: s'.graph.unresolved
  autoBindings : s.graph.autoBindings <+: s'.graph.autoBindings

namespace Extends

variable {s s' s'' : Session}

theorem refl (s : Session) : Extends s s :=
  ⟨rfl, rfl, Nat.le_refl _, rfl, List.prefix_refl _, List.prefix_refl _, List.prefix_refl _⟩

theorem trans (h : Extends s s') (h' : Extends s' s'') : Extends s s'' where
  context := h'.context.trans h.context
  rootName := h'.rootName.trans h.rootName
  blocks := Nat.le_trans h.blocks h'.blocks
  roots := h'.roots.trans h.roots
  nodes := h.nodes.trans h'.nodes
  unresolved := h.unresolved.trans h'.unresolved
  autoBindings := h.autoBindings.trans h'.autoBindings

theorem length_le (h : Extends s s') : s.graph.nodes.length ≤ s'.graph.nodes.length :=
  h.nodes.length_le

end Extends

theorem extends_report (s : Session) (d : Diagnostic) : Extends s (s.report d) :=
  { Extends.refl s with }

theorem extends_reject (s : Session) (contract : TypeExpr) (d : Demand) :
    Extends s (s.reject contract d).2 :=
  { Extends.refl s with unresolved := List.prefix_append .. }

theorem extends_addNode (s : Session) (n : Node) : Extends s (s.addNode n) :=
  { Extends.refl s with nodes := List.prefix_append .. }

/-- But for the context, going inside a node is an extension. -/
theorem extends_enterShape (s : Session) (kind : NodeKind) (id : NodeId) :
    Extends s { s.enterShape kind id with context := s.context } := by
  have entered : Extends s { s.enterBlock with context := s.context } :=
    { Extends.refl s with blocks := Nat.le_succ _ }
  unfold enterShape
  split
  · exact entered
  · exact entered
  · exact entered
  · exact entered
  · exact .refl s

theorem extends_autoBindingIndex (s : Session) (b : Binding) :
    Extends s (s.autoBindingIndex b).2 := by
  unfold autoBindingIndex
  split
  · exact .refl s
  · exact { Extends.refl s with autoBindings := List.prefix_append .. }

theorem autoBindingIndex_nodes (s : Session) (b : Binding) :
    (s.autoBindingIndex b).2.graph.nodes = s.graph.nodes := by
  unfold autoBindingIndex
  split <;> rfl

end Session

namespace Resolver

open Session

variable {r : Resolver}

theorem extends_asked (contract : TypeExpr) (d : Demand) (s : Session) :
    Extends s (r.asked contract d s) :=
  { Extends.refl s with }

@[simp] theorem asked_nodes (contract : TypeExpr) (d : Demand) (s : Session) :
    (r.asked contract d s).graph.nodes = s.graph.nodes := rfl

/-! ## Single requests -/

theorem Chooses.extends {ask s choice s'} (h : r.Chooses ask s choice s') : Extends s s' := by
  cases h with
  | bound => exact extends_asked ..
  | auto => exact (extends_asked ..).trans (extends_autoBindingIndex ..)
  | candidate => exact .refl s

theorem Chooses.nodes_eq {ask s choice s'} (h : r.Chooses ask s choice s') :
    s'.graph.nodes = s.graph.nodes := by
  cases h with
  | bound => rfl
  | auto => exact autoBindingIndex_nodes ..
  | candidate => rfl

theorem Settles.extends {ask s target s'} (h : r.Settles ask s target s') : Extends s s' := by
  cases h with
  | cut => exact (extends_report ..).trans (extends_reject ..)
  | refused | missing => exact (extends_asked ..).trans (extends_reject ..)
  | lost => exact extends_reject ..
  | linked chosen | shared chosen => exact chosen.extends
  | accumulated => exact extends_asked ..

theorem Settles.nodes_eq {ask s target s'} (h : r.Settles ask s target s') :
    s'.graph.nodes = s.graph.nodes := by
  cases h with
  | cut | refused | missing | lost | accumulated => rfl
  | linked chosen | shared chosen => exact chosen.nodes_eq

/-- Opening a node appends it, and what is resolved inside it starts from there. -/
theorem Opens.inner_nodes {ask s o} (h : r.Opens ask s o) :
    o.inner.graph.nodes = s.graph.nodes ++ [{ o.node with id := s.nextNode }] := by
  cases h with
  | @bound _ _ choice s' chosen =>
    have : s'.graph.nodes = s.graph.nodes := chosen.nodes_eq
    simp [openBound, pushLink, setOwner, addNode, Graph.addNode, nextNode, this]
  | accumulated => rfl
  | shape => simp [openShape, addNode, Graph.addNode, nextNode]

/-- But for the context, opening a node is an extension. -/
theorem Opens.extends {ask s o} (h : r.Opens ask s o) :
    Extends s { o.inner with context := s.context } := by
  cases h with
  | bound chosen =>
    exact { chosen.extends.trans (extends_addNode ..) with context := rfl }
  | accumulated => exact (extends_asked ..).trans (extends_addNode ..)
  | shape =>
    exact ((extends_asked ..).trans (extends_addNode ..)).trans (extends_enterShape ..)

/-! ## Runs -/

/-- The nodes before and after a node is closed. -/
theorem Opens.closed_nodes {ask s o s'} (h : r.Opens ask s o) (inside : Extends o.inner s')
    (dependencies : List Dependency) :
    ∃ more, s'.graph.nodes = s.graph.nodes ++ { o.node with id := s.nextNode } :: more ∧
      (s'.close s.context s.nextNode dependencies).graph.nodes = s.graph.nodes ++
        Node.connected { o.node with id := s.nextNode } dependencies :: more := by
  obtain ⟨more, eq⟩ := inside.nodes
  rw [h.inner_nodes, List.append_assoc, List.singleton_append] at eq
  refine ⟨more, eq.symm, ?_⟩
  rw [close_graph]
  simp only [Graph.modifyNode, ← eq]
  exact modify_append_length ..

theorem Opens.extends_close {ask s o s'} (h : r.Opens ask s o) (inside : Extends o.inner s')
    (dependencies : List Dependency) :
    Extends s (s'.close s.context s.nextNode dependencies) := by
  obtain ⟨more, -, closed⟩ := h.closed_nodes inside dependencies
  have opened := h.extends
  exact {
    context := rfl
    rootName := inside.rootName.trans opened.rootName
    blocks := Nat.le_trans opened.blocks inside.blocks
    roots := inside.roots.trans opened.roots
    nodes := closed ▸ List.prefix_append ..
    unresolved := opened.unresolved.trans inside.unresolved
    autoBindings := opened.autoBindings.trans inside.autoBindings }

theorem Run.extends {asks s targets s' births} (h : r.Run asks s targets s' births) :
    Extends s s' := by
  induction h with
  | done => exact .refl _
  | settle settled _ ih => exact settled.extends.trans ih
  | make opened _ _ inside ih => exact (opened.extends_close inside _).trans ih

theorem Run.length_targets {asks s targets s' births} (h : r.Run asks s targets s' births) :
    targets.length = asks.length := by
  induction h with
  | done => rfl
  | settle _ _ ih | make _ _ _ _ ih => simp [ih]

/-- A request before others. -/
theorem Run.cons {ask s target s' births more targets s'' births'}
    (first : r.Run [ask] s [target] s' births) (rest : r.Run more s' targets s'' births') :
    r.Run (ask :: more) s (target :: targets) s'' (births ++ births') := by
  cases first with
  | settle settled done =>
    cases done
    exact .settle settled rest
  | make opened parts done =>
    cases done
    rw [List.append_nil]
    exact .make opened parts rest

end Resolver

end Wiring
