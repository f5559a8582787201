import Mathlib
import Wiring.Proofs.Resolver.Making
import Wiring.Proofs.Resolver.Validity

/-!
# Resolver — Appending

What one more root at the end changes of a build. All roots are resolved in one session, but a run
only adds to it: the nodes that are there stay as they are and lead to each other, and a positional
rule that fitted some request stays used.
-/

namespace Wiring

/-- What a build says about positional rules that no request fitted. -/
def unusedReports (diagnostics : List Diagnostic) : List Diagnostic :=
  diagnostics.filter (·.kind = .unusedTagOnWarning)

@[simp] theorem unusedReports_append (ds ds' : List Diagnostic) :
    unusedReports (ds ++ ds') = unusedReports ds ++ unusedReports ds' := List.filter_append ..

theorem unusedReports_depthDiagnostic (maxDepth : Nat) (contract : TypeExpr) (d : Demand)
    (rootName : String) :
    unusedReports [Resolver.depthDiagnostic maxDepth contract d rootName] = [] := rfl

namespace Session

/-- A later session: rules that were used still are, and none was reported as unused. -/
structure Follows (s s' : Session) : Prop where
  usedRules : s.usedRules ⊆ s'.usedRules
  reports : unusedReports s'.diagnostics = unusedReports s.diagnostics

namespace Follows

variable {s s' s'' : Session}

theorem refl (s : Session) : Follows s s := ⟨List.Subset.refl _, rfl⟩

theorem trans (h : Follows s s') (h' : Follows s' s'') : Follows s s'' :=
  ⟨fun _ used => h'.usedRules (h.usedRules used), h'.reports.trans h.reports⟩

/-- What changes nothing but the graph and the context. -/
theorem of_same (used : s'.usedRules = s.usedRules) (said : s'.diagnostics = s.diagnostics) :
    Follows s s' :=
  ⟨used ▸ List.Subset.refl _, said ▸ rfl⟩

end Follows

theorem follows_useRules (s : Session) (rules : List Rule) : Follows s (s.useRules rules) where
  usedRules := by
    intro rule used
    show rule ∈ rules.foldr List.insert s.usedRules
    induction rules with
    | nil => exact used
    | cons first more ih => exact List.mem_insert_of_mem ih
  reports := rfl

theorem follows_autoBindingIndex (s : Session) (b : Binding) :
    Follows s (s.autoBindingIndex b).2 := by
  unfold autoBindingIndex
  split
  · exact .refl s
  · exact .of_same rfl rfl

theorem follows_enterShape (s : Session) (kind : NodeKind) (id : NodeId) :
    Follows s (s.enterShape kind id) := by
  unfold enterShape
  split
  · exact .of_same rfl rfl
  · exact .of_same rfl rfl
  · exact .of_same rfl rfl
  · exact .of_same rfl rfl
  · exact .refl s

end Session

namespace Resolver

open Session

variable {r : Resolver} {s s' : Session} {ask : Ask}

/-! ## Runs -/

theorem follows_asked (contract : TypeExpr) (d : Demand) (s : Session) :
    Follows s (r.asked contract d s) := follows_useRules ..

theorem follows_cut (contract : TypeExpr) (d : Demand) (s : Session) :
    Follows s (r.cut contract d s).2 where
  usedRules := List.Subset.refl _
  reports := by
    show unusedReports (s.diagnostics ++ [_]) = _
    rw [unusedReports_append, unusedReports_depthDiagnostic, List.append_nil]

theorem Chooses.follows {choice : Choice} (h : r.Chooses ask s choice s') : Follows s s' := by
  cases h with
  | bound => exact follows_asked ..
  | auto => exact (follows_asked ..).trans (follows_autoBindingIndex ..)
  | candidate => exact .refl s

theorem Settles.follows {target : Target} (h : r.Settles ask s target s') : Follows s s' := by
  cases h with
  | cut => exact follows_cut ..
  | refused | missing => exact (follows_asked ..).trans (.of_same rfl rfl)
  | accumulated => exact follows_asked ..
  | lost => exact .of_same rfl rfl
  | linked chosen | shared chosen => exact chosen.follows

theorem Opens.follows {o : Opening} (h : r.Opens ask s o) : Follows s o.inner := by
  cases h with
  | bound chosen => exact chosen.follows.trans (.of_same rfl rfl)
  | accumulated => exact (follows_asked ..).trans (.of_same rfl rfl)
  | @shape contract d _ kind =>
    have added : Follows (r.asked contract d s) ((r.asked contract d s).addNode
      (shapeNode s.context contract d kind .transient)) := .of_same rfl rfl
    exact ((follows_asked ..).trans added).trans (follows_enterShape ..)

theorem Run.follows {asks targets births} (h : r.Run asks s targets s' births) :
    Follows s s' := by
  induction h with
  | done => exact .refl _
  | settle settled _ ih => exact settled.follows.trans ih
  | @make ask s o inside s' _ _ _ _ _ opened _ _ ih ih' =>
    have closed : Follows s' (s'.close s.context s.nextNode
      (dependenciesOf o.node.kind o.parts inside)) := .of_same rfl rfl
    exact ((opened.follows.trans ih).trans closed).trans ih'

/-! ## One more root -/

theorem build_eq (found : List Diagnostic) (roots : List Root) :
    r.build found roots = ((r.resolveRoots (.begin found) roots).graph,
      (r.resolveRoots (.begin found) roots).diagnostics ++
        (r.registry.unusedRules (r.resolveRoots (.begin found) roots).usedRules).map
          r.unusedDiagnostic) := rfl

theorem unusedReports_build (found : List Diagnostic) (roots : List Root) :
    unusedReports (r.build found roots).2 =
      unusedReports (r.resolveRoots (.begin found) roots).diagnostics ++
        (r.registry.unusedRules (r.resolveRoots (.begin found) roots).usedRules).map
          r.unusedDiagnostic := by
  rw [build_eq, unusedReports_append]
  refine congrArg _ (List.filter_eq_self.2 fun d mem => ?_)
  obtain ⟨rule, -, rfl⟩ := List.mem_map.1 mem
  rfl

/-- The more rules are used, the fewer are not. -/
theorem unusedRules_sublist (registry : Registry) {used used' : List Rule} (more : used ⊆ used') :
    (registry.unusedRules used').Sublist (registry.unusedRules used) := by
  refine List.monotone_filter_right _ fun rule unused => ?_
  simp only [Bool.not_eq_true', List.contains_eq_mem, decide_eq_false_iff_not] at unused ⊢
  exact fun mem => unused (more mem)

/-- A root at the end adds to what is built of the others and leaves the rest alone: the nodes, the
entries for open requests, the automatic bindings and the edges of the roots come first in what is
built of all, nodes that were there lead to such nodes only, and no rule is reported as unused that
was not so before. -/
theorem build_append_root (r : Resolver) (found : List Diagnostic) (roots : List Root)
    (root : Root) :
    let before := r.build found roots
    let after := r.build found (roots ++ [root])
    before.1.nodes <+: after.1.nodes ∧ before.1.unresolved <+: after.1.unresolved ∧
      before.1.autoBindings <+: after.1.autoBindings ∧ before.1.roots <+: after.1.roots ∧
      (∀ id < before.1.nodes.length, ∀ target ∈ after.1.successors id,
        target < before.1.nodes.length) ∧
      (unusedReports after.2).Sublist (unusedReports before.2) := by
  intro before after
  obtain ⟨target, s', births, run, eq⟩ := resolveRoots_run (r := r) found roots root
  have more := run.extends
  have follows := run.follows
  have graph : after.1 = s'.graph.addRoot ⟨root, target⟩ := congrArg Session.graph eq
  have nodes : before.1.nodes <+: after.1.nodes := graph ▸ more.nodes
  refine ⟨nodes, graph ▸ more.unresolved, graph ▸ more.autoBindings, ?_, ?_, ?_⟩
  · rw [graph, Graph.addRoot, more.roots]
    exact List.prefix_append ..
  · intro id lt target leads
    have node : before.1.node? id = some before.1.nodes[id] := List.getElem?_eq_getElem lt
    have node' : after.1.node? id = some before.1.nodes[id] := getElem?_mono nodes node
    rw [Graph.successors, node'] at leads
    exact (build_whole r found roots).1.inRange _ (List.getElem_mem lt) target leads
  · rw [unusedReports_build, unusedReports_build, eq]
    refine List.Sublist.append ?_ ?_
    · exact follows.reports ▸ List.Sublist.refl _
    · exact (unusedRules_sublist _ follows.usedRules).map _

end Resolver

end Wiring
