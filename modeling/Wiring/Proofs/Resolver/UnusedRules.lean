import Wiring.Proofs.Registry.Rules
import Wiring.Proofs.Resolver.Appending
import Wiring.Proofs.Resolver.Metadata
import Wiring.Proofs.Resolver.Requests

/-!
# Resolver — UnusedRules

Which rules of positional tags a build reports as unused. A session notes the rules that fit a
request whenever one is taken to the registry, so the rules that are left in the end are those that
no request of the whole course fits.
-/

namespace Wiring

/-- The request that is taken to the registry, unless it is cut. -/
def Arrival.lookup? (a : Arrival) (maxDepth : Nat) : Option Query :=
  if a.depth < maxDepth then a.ask.query? else none

/-- The requests of a course that are taken to the registry. -/
def lookups (course : List Arrival) (maxDepth : Nat) : List Query :=
  course.filterMap (·.lookup? maxDepth)

/-- The rules that are used once a request has arrived. -/
def Arrival.use (r : Resolver) (used : List Rule) (a : Arrival) : List Rule :=
  match a.lookup? r.options.maxDepth with
  | some q => (r.registry.matchingRules q).foldr List.insert used
  | none => used

namespace Resolver

open Session

variable {r : Resolver} {s s' : Session} {ask : Ask} {target : Target} {o : Opening}
  {arrivals course : List Arrival} {a : Arrival} {q : Query} {rule : Rule}

/-! ## What a session notes -/

theorem use_request {contract : TypeExpr} {d : Demand} (used : List Rule)
    (room : s.context.depth < r.options.maxDepth) :
    Arrival.use r used ⟨.request contract d, s, target⟩ =
      (r.registry.matchingRules ⟨contract, d.tag, d.path⟩).foldr List.insert used := by
  rw [Arrival.use, Arrival.lookup?, if_pos (show Arrival.depth _ < _ from room)]
  rfl

theorem use_candidate {contract : TypeExpr} {d : Demand} {found : Match} (used : List Rule) :
    Arrival.use r used ⟨.candidate contract d found, s, target⟩ = used := by
  rw [Arrival.use, Arrival.lookup?]
  split
  · next same =>
    split at same
    · nomatch same
    · nomatch same
  · rfl

theorem Chooses.usedRules_eq {choice : Choice} (h : r.Chooses ask s choice s') :
    s'.usedRules = Arrival.use r s.usedRules ⟨ask, s, target⟩ := by
  cases h with
  | bound room =>
    rw [use_request _ room]
    rfl
  | auto room =>
    rw [use_request _ room, autoBindingIndex]
    split <;> rfl
  | candidate => rw [use_candidate]

theorem enterShape_usedRules (s : Session) (kind : NodeKind) (id : NodeId) :
    (s.enterShape kind id).usedRules = s.usedRules := by
  unfold enterShape
  split <;> rfl

/-- A session notes the rules of each request that is taken to the registry. -/
theorem tracks_usedRules (r : Resolver) : r.Tracks (·.usedRules) (Arrival.use r) where
  settled {ask s target s'} h := by
    cases h with
    | @cut contract d _ room =>
      have full : ¬ (Arrival.mk (.request contract d) s (r.cut contract d s).1).depth
          < r.options.maxDepth := Nat.not_lt.2 (Nat.le_of_eq room.symm)
      rw [Arrival.use, Arrival.lookup?, if_neg full]
      rfl
    | refused room | missing room | accumulated room =>
      rw [use_request _ room]
      rfl
    | lost =>
      rw [use_candidate]
      rfl
    | linked chosen | shared chosen => exact chosen.usedRules_eq
  opened {ask s o} h := by
    cases h with
    | bound chosen => exact chosen.usedRules_eq
    | accumulated room =>
      rw [use_request _ room]
      rfl
    | shape room =>
      rw [use_request _ room]
      exact enterShape_usedRules ..
  closed _ _ _ _ := rfl
  entered _ _ _ := rfl
  left _ _ := rfl

theorem mem_use {used : List Rule} : rule ∈ Arrival.use r used a ↔ rule ∈ used ∨
    ∃ q, a.lookup? r.options.maxDepth = some q ∧ rule ∈ r.registry.matchingRules q := by
  rw [Arrival.use]
  cases a.lookup? r.options.maxDepth with
  | none => simp
  | some q =>
    simp only [Option.some.injEq, exists_eq_left', or_comm (a := rule ∈ used)]
    exact List.mem_union_iff

/-- A rule is used in the end when it was noted for some request. -/
theorem mem_foldl_use {used : List Rule} : rule ∈ course.foldl (Arrival.use r) used ↔
    rule ∈ used ∨ ∃ a ∈ course, ∃ q, a.lookup? r.options.maxDepth = some q ∧
      rule ∈ r.registry.matchingRules q := by
  induction course generalizing used with
  | nil => simp
  | cons a more ih => rw [List.foldl_cons, ih, mem_use, List.exists_mem_cons_iff, or_assoc]

/-! ## What is reported -/

/-- A report tells the rule that it is about. -/
theorem unusedDiagnostic_injective (r : Resolver) : Function.Injective r.unusedDiagnostic := by
  intro (id, p) (id', p') h
  simp only [unusedDiagnostic, Diagnostic.ofKind, Diagnostic.mk.injEq, String.append_left_inj,
    String.append_right_inj, Option.some.injEq, Subject.binding.injEq] at h
  rw [h.2.2.1, h.2.2.2.2]

theorem ofOptions_options (reader : PatternReader) (registry : Registry) (options : Options)
    (accumulators : List Accumulator) :
    (ofOptions reader registry options accumulators).1.options = options := by
  unfold ofOptions
  split
  · rfl
  · split <;> rfl

theorem unusedReports_ofOptions (reader : PatternReader) (registry : Registry) (options : Options)
    (accumulators : List Accumulator) :
    unusedReports (ofOptions reader registry options accumulators).2 = [] := by
  unfold ofOptions
  split
  · rfl
  · split <;> rfl

/-- The reports of unused rules at the end of a course: those of the rules that no request fits. -/
theorem Course.unusedReports_eq {found : List Diagnostic} {roots : List Root}
    (h : r.Course roots.zipIdx (.begin found) (r.resolveRoots (.begin found) roots) course)
    (registered : r.registry.Registered) (heads : r.registry.unifier.RespectsHeads) :
    unusedReports (r.build found roots).2 = unusedReports found ++
      (r.registry.rules.filter fun rule =>
        !(lookups course r.options.maxDepth).any (r.registry.ruleFits rule)).map
          r.unusedDiagnostic := by
  have used : (r.resolveRoots (.begin found) roots).usedRules = course.foldl (Arrival.use r) [] :=
    (tracks_usedRules r).course h
  have quiet : unusedReports ((course.filterMap (·.cut? r.options.maxDepth)).map
      (·.depthReport r.options.maxDepth)) = [] := by
    refine List.filter_eq_nil_iff.2 fun d mem => ?_
    obtain ⟨u, -, rfl⟩ := List.mem_map.1 mem
    exact Bool.false_ne_true
  rw [unusedReports_build, h.diagnostics_eq, unusedReports_append, quiet, List.append_nil]
  refine congrArg (_ ++ List.map _ ·) (List.filter_congr fun rule _ => congrArg _ ?_)
  rw [Bool.eq_iff_iff, List.contains_iff_mem, used, mem_foldl_use, List.any_eq_true]
  simp only [registered.mem_matchingRules_iff heads, lookups, List.mem_filterMap, List.not_mem_nil,
    false_or]
  constructor
  · rintro ⟨a, mem, q, lookup, fits⟩
    exact ⟨q, ⟨a, mem, lookup⟩, fits⟩
  · rintro ⟨q, ⟨a, mem, lookup⟩, fits⟩
    exact ⟨a, mem, q, lookup, fits⟩

/-- A request that leads to a node was taken to the registry. -/
theorem Course.lookup?_of_node {roots : List (Root × Nat)} {e : Session} {id : NodeId}
    (h : r.Course roots s e course) (keeps : r.Keeps s) (mem : a ∈ course)
    (query : a.ask.query? = some q) (leads : a.target = .node id) :
    a.lookup? r.options.maxDepth = some q := by
  obtain ⟨part, mem⟩ := (h.covers keeps).1 a mem
  have fits := part.trace.hasRoom (List.forall_mem_singleton.2 (Nat.zero_le _)) a mem
  have uncut : ¬ a.isCut r.options.maxDepth := by
    intro cut
    obtain ⟨u, entry⟩ := (part.trace.arrives a mem).unanswered_of_isCut cut
    rw [Arrival.unanswered?, leads] at entry
    exact Option.some_ne_none u entry.symm
  obtain ⟨ask, s, target⟩ := a
  cases ask with
  | candidate => exact absurd query.symm (Option.some_ne_none q)
  | request =>
    have short : s.context.depth ≠ r.options.maxDepth := fun full => uncut (decide_eq_true full)
    exact (if_pos (Nat.lt_of_le_of_ne fits short)).trans query

/-- The unused rules that a build reports are just those which no request fits that it takes to the
registry, in the order of declaration: a report warns of the binding that has the rule, where that
was declared, and names the pattern. These requests are the ones of the graph, but for those that
are cut. A rule is not reported when some request for a contract that unifies comes from a path that
the pattern fits, no matter what the look-up finds; so neither is the rule that makes the choice for
a node, nor one that loses or belongs to an overridden binding. -/
theorem build_reportsUnused (reader : PatternReader) (catalog : Catalog) (unifier : Unifier)
    (heads : unifier.RespectsHeads) (bindings : List Binding) (options : Options)
    (accumulators : List Accumulator) (roots : List Root) :
    let registry := ((Registry.empty catalog unifier).registerAll bindings).1
    let r := (ofOptions reader registry options accumulators).1
    let found := (ofOptions reader registry options accumulators).2
    let g := (r.build found roots).1
    let reports := (r.build found roots).2
    let unused (id : BindingId) (p : String) : Diagnostic :=
      ⟨.unusedTagOnWarning, .warning, "位置规则 " ++ p ++ " 未匹配任何注入点",
        (registry.binding? id).bind (·.location), some (.binding id)⟩
    ∃ course,
      (∀ arrivals, r.Course roots.zipIdx (.begin found) (r.resolveRoots (.begin found) roots)
        arrivals ↔ arrivals = course) ∧
      (∀ q target, g.Asks q target ↔ ∃ a ∈ course, a.ask.query? = some q ∧ a.target = target) ∧
      unusedReports reports = (registry.rules.filter fun rule =>
        !(lookups course options.maxDepth).any (registry.ruleFits rule)).map
          (fun rule => unused rule.1 rule.2) ∧
      (∀ id b p, bindings[id]? = some b → p ∈ b.patterns →
        (unused id p ∈ reports ↔ ¬ ∃ q ∈ lookups course options.maxDepth,
          unifier.accepts q.contract b.contract ∧ ∃ path, q.path = some path ∧
            patternFits p path)) ∧
      ∀ q id m p, g.Asks q (.node id) → registry.lookup q options = some m → m.pattern = some p →
        unused m.binding p ∉ reports := by
  intro registry r found g reports unused
  have registered : registry.Registered := .all (.empty ..) bindings
  have unifies : registry.unifier = unifier := Registry.unifier_registerAll ..
  have sameRegistry : r.registry = registry := Resolved.ofOptions_registry ..
  have sameOptions : r.options = options := ofOptions_options ..
  have heads' : registry.unifier.RespectsHeads := unifies ▸ heads
  have told (id : BindingId) (p : String) : unused id p = r.unusedDiagnostic (id, p) := by
    rw [unusedDiagnostic, sameRegistry]
    rfl
  obtain ⟨course, h⟩ := exists_course r roots.zipIdx (.begin found)
  have asks (q : Query) (target : Target) : g.Asks q target ↔ _ := build_asks_iff found roots h
  have exact : unusedReports reports = (registry.rules.filter fun rule =>
      !(lookups course options.maxDepth).any (registry.ruleFits rule)).map r.unusedDiagnostic := by
    rw [h.unusedReports_eq (sameRegistry ▸ registered) (sameRegistry ▸ heads'),
      unusedReports_ofOptions, List.nil_append, sameRegistry, sameOptions]
  have reported (rule : Rule) : r.unusedDiagnostic rule ∈ reports ↔ rule ∈ registry.rules ∧
      ¬ ∃ q ∈ lookups course options.maxDepth, registry.ruleFits rule q := by
    have mem : r.unusedDiagnostic rule ∈ unusedReports reports ↔
        r.unusedDiagnostic rule ∈ reports := List.mem_filter.trans (and_iff_left rfl)
    rw [← mem, exact, List.mem_map_of_injective r.unusedDiagnostic_injective, List.mem_filter,
      Bool.not_eq_true', List.any_eq_false]
    simp
  refine ⟨course, fun arrivals => ⟨h.unique, ?_⟩, asks, ?_, ?_, ?_⟩
  · rintro rfl
    exact h
  · simp only [told]
    exact exact
  · intro id b p at_id mem
    have binding : registry.binding? id = some b :=
      (Registry.binding?_history catalog unifier bindings id).trans at_id
    have listed : (id, p) ∈ registry.rules := registered.mem_rules_iff.2 ⟨b, binding, mem⟩
    have fits (q : Query) : registry.ruleFits (id, p) q ↔ _ := Registry.ruleFits_iff binding mem
    rw [told, reported, and_iff_right listed]
    simp only [fits, unifies]
  · intro q id m p asked lookup pattern report
    rw [told] at report
    obtain ⟨a, mem, query, leads⟩ := (asks q (.node id)).1 asked
    obtain ⟨-, fits⟩ := registered.ruleFits_of_lookup heads' lookup pattern
    have taken := h.lookup?_of_node rfl mem query leads
    rw [sameOptions] at taken
    exact ((reported _).1 report).2 ⟨q, List.mem_filterMap.2 ⟨a, mem, taken⟩, fits⟩

/-! ### Kettles

A kitchen asks for a kettle, which is meant for kitchens and garages. There is no garage.
-/

def kettle : TypeExpr := .named "IKettle" []

def kitchen : TypeExpr := .named "Kitchen" []

def kettleSite : Site := .parameter "kettle" kettle

def kitchens : Catalog :=
  ⟨[{ Descriptor.concrete kitchen with constructors := [⟨true, none, [kettleSite]⟩] },
    .concrete (.named "Kettle" [])]⟩

def kettles : List Binding :=
  [{ Binding.ofType kettle (.named "Kettle" []) with tag := some (.on ["Kitchen.*", "Garage.*"]) }]

def kettleOptions : Options := { Options.standard with maxDepth := 3 }

abbrev kettleRegistry : Registry := ((Registry.empty kitchens .structural).registerAll kettles).1

abbrev kettleResolver : Resolver × List Diagnostic :=
  ofOptions Resolved.literalReader kettleRegistry kettleOptions []

abbrev kettleBuild : Graph × List Diagnostic :=
  kettleResolver.1.build kettleResolver.2 [.untagged "main" kitchen]

/-- What the kitchen asks for. -/
def kettleQuery : Query := ⟨kettle, none, some (kettleSite.path kitchen)⟩

theorem kettleBuild_facts :
    (kettleBuild.1.node? 0).map (·.kind.isMade) = some true ∧
    (kettleBuild.1.node? 0).map (·.resultType) = some kitchen ∧
    (kettleBuild.1.node? 0).map (·.dependencies) = some [⟨kettleSite, .node 1, false⟩] ∧
    (kettleRegistry.lookup kettleQuery kettleOptions).map (fun m => (m.binding, m.pattern))
      = some (0, some "Kitchen.*") ∧
    unusedReports kettleBuild.2 = [kettleResolver.1.unusedDiagnostic (0, "Garage.*")] := by
  cbv

theorem kettleBuild_asks : kettleBuild.1.Asks kettleQuery (.node 1) := by
  obtain ⟨made, type, dependencies, -⟩ := kettleBuild_facts
  obtain ⟨n, node, isMade⟩ := Option.map_eq_some_iff.1 made
  rw [node] at type dependencies
  have kettleOnly : n.dependencies = [⟨kettleSite, .node 1, false⟩] := Option.some.inj dependencies
  have asks := Graph.Asks.site node isMade (kettleOnly ▸ List.mem_cons_self)
  rwa [show n.resultType = kitchen from Option.some.inj type] at asks

theorem build_reportsUnused_kettles : Unifier.structural.RespectsHeads ∧
    kettleResolver.1.unusedDiagnostic (0, "Kitchen.*") ∉ kettleBuild.2 ∧
    kettleResolver.1.unusedDiagnostic (0, "Garage.*") ∈ kettleBuild.2 := by
  have heads := Unifier.structural_respectsHeads
  obtain ⟨-, -, -, found, reported⟩ := kettleBuild_facts
  obtain ⟨⟨id, σ, fit, pattern⟩, lookup, chosen⟩ := Option.map_eq_some_iff.1 found
  obtain ⟨rfl, rfl⟩ := Prod.mk.inj chosen
  obtain ⟨-, -, -, -, -, quiet⟩ := build_reportsUnused Resolved.literalReader kitchens .structural
    heads kettles kettleOptions [] [.untagged "main" kitchen]
  refine ⟨heads, quiet kettleQuery 1 _ _ kettleBuild_asks lookup rfl, ?_⟩
  have garage := reported.symm ▸ List.mem_cons_self (a := kettleResolver.1.unusedDiagnostic _)
  exact (List.mem_filter.1 garage).1

end Resolver

end Wiring
