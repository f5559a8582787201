import Mathlib
import Wiring.Proofs.Registry.Candidates
import Wiring.Proofs.Resolver.Chain

/-!
# Resolver — Choice

From which binding the node is made that a request leads to. It is the binding that was found for
the request, but for one case: when a node on the chain already answers the same contract and tag,
the request is linked back to that node, and nothing asks which binding it was made by. Bindings of
one contract may share a tag, since every tag for the implementation type has the same key.
-/

namespace Wiring

/-- Nodes that a binding makes and that have sites to fill. -/
def NodeKind.hasSites : NodeKind → Bool
  | .construct _ | .factory _ => true
  | _ => false

/-- A target is a node for a contract and tag: the node on the chain if there is one, and otherwise
a node from the given source. -/
def Graph.AnsweredBy (g : Graph) (link : Option NodeId) (contract : TypeExpr) (tag : TagKey)
    (source : Source) (target : Target) : Prop :=
  ∃ id n, target = .node id ∧ g.node? id = some n ∧ n.contract = contract ∧ n.tag = tag ∧
    match link with
    | some link => id = link
    | none => n.source = source

/-- A target is a node with a tag, made from the given source. -/
def Graph.MadeBy (g : Graph) (tag : TagKey) (source : Source) (target : Target) : Prop :=
  ∃ id n, target = .node id ∧ g.node? id = some n ∧ n.tag = tag ∧ n.source = source

/-- The node that is linked back to, if there is one, comes from the given source. -/
def Graph.LinkFrom (g : Graph) (link : Option NodeId) (source : Source) : Prop :=
  ∀ id n, link = some id → g.node? id = some n → n.source = source

theorem Graph.linkFrom_none {g : Graph} {source : Source} : g.LinkFrom none source := by
  simp [LinkFrom]

/-- Only the node on the chain may come from elsewhere. -/
theorem Graph.AnsweredBy.madeBy_iff {g : Graph} {link : Option NodeId} {contract : TypeExpr}
    {tag : TagKey} {source : Source} {target : Target}
    (h : g.AnsweredBy link contract tag source target) :
    g.MadeBy tag source target ↔ g.LinkFrom link source := by
  obtain ⟨id, n, rfl, node, -, sameTag, made⟩ := h
  constructor
  · rintro ⟨id', n', eq, node', -, same⟩ link' m rfl node''
    cases eq
    cases made
    cases node'.symm.trans node''
    exact same
  · intro agrees
    refine ⟨id, n, rfl, node, sameTag, ?_⟩
    cases link with
    | some link => exact agrees id n (congrArg some made.symm) node
    | none => exact made

namespace Resolver

variable {r : Resolver} {roots : List (Root × Nat)} {births : List Birth} {s : Session}

/-- The binding that was found for a request. -/
def found? (r : Resolver) : Ask → Option (TypeExpr × Match)
  | .request contract d => (r.lookup ⟨contract, d.tag, d.path⟩).map (contract, ·)
  | .candidate contract _ found => some (contract, found)

theorem Chooses.of_found {ask s choice s' contract found b} (h : r.Chooses ask s choice s')
    (asked : r.found? ask = some (contract, found))
    (binding : r.registry.binding? found.binding = some b) :
    choice = r.choiceOf contract found b := by
  cases h with
  | bound _ lookup binding' =>
    simp only [found?, lookup, Option.map_some] at asked
    cases asked
    cases binding.symm.trans binding'
    rfl
  | auto _ unbound =>
    simp only [found?, unbound.1] at asked
    nomatch asked
  | candidate binding' =>
    cases asked
    cases binding.symm.trans binding'
    rfl

/-- A request with room on the chain leads to the node on the chain that answers it, or to one made
by the binding that was found. -/
theorem History.answeredBy (h : History r roots births s) {c : Context} {chain : List NodeId}
    (links : List.Forall₂ (IsLink s.graph) c.chain chain) {ask : Ask} {target : Target}
    (answer : r.Answer births c ask target) {contract : TypeExpr} {found : Match} {b : Binding}
    (asked : r.found? ask = some (contract, found))
    (binding : r.registry.binding? found.binding = some b)
    (room : ∀ contract d, ask = .request contract d → c.depth ≠ r.options.maxDepth) :
    s.graph.AnsweredBy (chain.find? (s.graph.answers contract (r.registry.tagKey found.binding)))
      contract (r.registry.tagKey found.binding) (.explicit found.binding) target := by
  have find : c.find? contract (r.registry.tagKey found.binding) = _ :=
    find?_of_links links contract (r.registry.tagKey found.binding)
  cases answer with
  | settled context records earlier settled =>
    cases settled with
    | cut full => exact absurd (context ▸ full) (room _ _ rfl)
    | refused _ unbound =>
      simp only [found?, unbound.1] at asked
      nomatch asked
    | missing _ lookup missing =>
      simp only [found?, lookup, Option.map_some] at asked
      cases asked
      nomatch binding.symm.trans missing
    | lost missing =>
      cases asked
      nomatch binding.symm.trans missing
    | linked chosen link =>
      obtain rfl := chosen.of_found asked binding
      simp only [chosen.extends.context, context, choiceOf] at link
      have answers := List.find?_some (find.symm.trans link)
      obtain ⟨n, node, sameContract, sameTag⟩ := Graph.answers_iff.1 answers
      exact ⟨_, n, rfl, node, sameContract, sameTag, by rw [← find, link]⟩
    | shared chosen link share =>
      obtain rfl := chosen.of_found asked binding
      simp only [chosen.extends.context, context, choiceOf] at link
      obtain ⟨_, n', _, node', sameContract, sameTag, _, sameSource, _⟩ := sharedNode?_spec share
      rw [chosen.nodes_eq] at node'
      obtain ⟨n, node, face⟩ := h.recalled records earlier node'
      refine ⟨_, n, rfl, node, ?_, ?_, ?_⟩
      · exact (congrArg Node.contract face).trans sameContract
      · exact (congrArg Node.tag face).trans sameTag
      · rw [← find, link]
        exact (congrArg Node.source face).trans sameSource
    | accumulated _ lookup =>
      simp only [found?, lookup] at asked
      nomatch asked
  | opened context opened birth =>
    obtain ⟨n, node, closed⟩ := h.node birth
    have face := closed.face_eq
    cases opened with
    | bound chosen link =>
      obtain rfl := chosen.of_found asked binding
      simp only [chosen.extends.context, context, choiceOf] at link
      refine ⟨_, n, rfl, node, ?_, ?_, ?_⟩
      · exact congrArg Node.contract face
      · exact congrArg Node.tag face
      · rw [← find, link]
        exact congrArg Node.source face
    | accumulated _ lookup =>
      simp only [found?, lookup] at asked
      nomatch asked
    | shape _ unbound =>
      simp only [found?, unbound.1] at asked
      nomatch asked

/-- A request at the depth limit is cut. -/
theorem Answer.isUnresolved {c : Context} {contract : TypeExpr} {d : Demand} {target : Target}
    (answer : r.Answer births c (.request contract d) target)
    (full : c.depth = r.options.maxDepth) : target.isUnresolved := by
  cases answer with
  | settled context _ _ settled =>
    subst context
    cases settled with
    | cut => rfl
    | refused room | missing room | accumulated room => exact absurd full (Nat.ne_of_lt room)
    | linked chosen | shared chosen =>
      cases chosen with
      | bound room | auto room => exact absurd full (Nat.ne_of_lt room)
  | opened context opened =>
    subst context
    cases opened with
    | accumulated room | shape room => exact absurd full (Nat.ne_of_lt room)
    | bound chosen =>
      cases chosen with
      | bound room | auto room => exact absurd full (Nat.ne_of_lt room)

/-! ## Sites -/

theorem hasSites_of_shape {contract : TypeExpr} {kind : NodeKind}
    (h : contract.shape? = some kind) : kind.hasSites = false := by
  cases contract <;> cases h <;> rfl

/-- The sites of what a binding makes are requests. -/
theorem Opens.ask_of_site {ask s o} (h : r.Opens ask s o) (sites : o.node.kind.hasSites)
    {part : Part} (mem : part ∈ o.parts) : ∃ id,
      part.ask = .request part.site.contract (.ofSite part.site id o.node.resultType) := by
  cases h with
  | bound =>
    obtain ⟨site, -, rfl⟩ := List.mem_map.1 mem
    exact ⟨_, rfl⟩
  | accumulated => exact absurd sites Bool.false_ne_true
  | shape _ _ shape => exact absurd sites (Bool.eq_false_iff.1 (hasSites_of_shape shape))

/-- The target of a site is answered from the chain at its node. -/
theorem History.site_answer (h : History r roots births s) {id : Nat} {n : Node} {d : Dependency}
    (node : s.graph.node? id = some n) (sites : n.kind.hasSites) (edge : d ∈ n.dependencies) :
    ∃ c, List.Forall₂ (IsLink s.graph) c.chain (s.graph.chainAt id) ∧
      ∃ m, r.Answer births c
        (.request d.site.contract (.ofSite d.site m n.resultType)) d.target := by
  obtain ⟨b, born, closed⟩ := h.birth node
  cases closed with
  | intro opened answers =>
    obtain ⟨block, context⟩ := opened.inner_context
    obtain ⟨part, mem, site, answer⟩ := mem_dependenciesOf answers edge
    obtain ⟨m, ask⟩ := opened.ask_of_site sites mem
    rw [ask, site] at answer
    exact ⟨_, context ▸ h.chain born block, m, answer⟩

/-- Where the sites and roots lead to for which a binding is found. On a full chain they are cut.
Otherwise a site leads to a node with the tag of the binding, the one on the chain if there is one;
and the node is made by the binding just when that one, if there is one, is. -/
theorem build_followsLookup (r : Resolver) (found : List Diagnostic) (roots : List Root) :
    let g := (r.build found roots).1
    (∀ id n d f, g.node? id = some n → n.kind.hasSites → d ∈ n.dependencies →
      r.lookup ⟨d.site.contract, d.site.tag, some (d.site.path n.resultType)⟩ = some f →
      if (g.chainAt id).length = r.options.maxDepth then d.target.isUnresolved
      else
        g.AnsweredBy (g.onChain? id d.site.contract (r.registry.tagKey f.binding)) d.site.contract
          (r.registry.tagKey f.binding) (.explicit f.binding) d.target ∧
        (g.MadeBy (r.registry.tagKey f.binding) (.explicit f.binding) d.target ↔
          g.LinkFrom (g.onChain? id d.site.contract (r.registry.tagKey f.binding))
            (.explicit f.binding))) ∧
    (∀ e f, e ∈ g.roots → r.lookup ⟨e.root.contract, e.root.tag, none⟩ = some f →
      if r.options.maxDepth = 0 then e.target.isUnresolved
      else g.MadeBy (r.registry.tagKey f.binding) (.explicit f.binding) e.target) := by
  obtain ⟨births, s, h, eq⟩ := build_history (r := r) found roots
  rw [eq]
  refine ⟨fun id n d f node sites edge lookup => ?_, fun e f mem lookup => ?_⟩
  · obtain ⟨c, links, m, answer⟩ := h.site_answer node sites edge
    obtain ⟨b, binding⟩ := Registry.binding_of_lookup lookup
    have depth : c.depth = (s.graph.chainAt id).length := links.length_eq
    rw [← depth]
    split
    · next full => exact answer.isUnresolved full
    · next room =>
      have answered := h.answeredBy links answer (by rw [found?]; exact congrArg _ lookup) binding
        fun _ _ _ => room
      exact ⟨answered, answered.madeBy_iff⟩
  · obtain ⟨i, edge⟩ := List.mem_iff_getElem?.1 mem
    obtain ⟨root, -, asked, -, block, answer⟩ := h.root_answer edge
    obtain ⟨b, binding⟩ := Registry.binding_of_lookup lookup
    rw [asked] at lookup
    split
    · next none => exact answer.isUnresolved none.symm
    · next room =>
      have answered := h.answeredBy (.nil : List.Forall₂ (IsLink s.graph) [] []) answer
        (by rw [found?]; exact congrArg _ lookup) binding fun _ _ _ => Ne.symm room
      exact answered.madeBy_iff.2 Graph.linkFrom_none

/-! ## Twins

Two implementations of one service are told apart by their types. The first asks for the second, but
both have the tag for the implementation type, and so the first is linked back to itself.
-/

def service : TypeExpr := .named "IService" []

/-- An implementation of the service, tagged by its type. -/
def twin (name : String) : Binding :=
  { Binding.ofType service (.named name []) with tag := some .type }

def secondTwin : Site :=
  { Site.parameter "inner" service with tag := some (.type (.named "B" [])) }

def twins : Resolver where
  registry := ((Registry.empty ⟨[
    { Descriptor.concrete (.named "A" []) with constructors := [⟨true, none, [secondTwin]⟩] },
    Descriptor.concrete (.named "B" [])]⟩ .structural).registerAll [twin "A", twin "B"]).1
  options := { Options.standard with maxDepth := 3 }
  accumulators := []
  autoBinds := false
  filter := none

def twinRoot : Root := ⟨"main", service, some (.type (.named "A" [])), none⟩

abbrev twinGraph : Graph := (twins.build [] [twinRoot]).1

/-- The first twin, which holds itself. -/
def firstTwin : Node where
  id := 0
  contract := service
  tag := .type
  resultType := .named "A" []
  source := .explicit 0
  kind := .construct (some 0)
  lifetime := .transient
  scope := none
  owner := .resolve 0
  dependencies := [⟨secondTwin, .node 0, false⟩]
  isDisposable := false
  flags := .none

theorem twinGraph_facts :
    twinGraph.node? 0 = some firstTwin ∧ twinGraph.roots = [⟨twinRoot, .node 0⟩] ∧
      (twinGraph.chainAt 0).length = 1 ∧
      twins.lookup ⟨service, twinRoot.tag, none⟩ = some ⟨0, ∅, .typeMarker, none⟩ ∧
      twins.lookup ⟨service, secondTwin.tag, some (secondTwin.path firstTwin.resultType)⟩
        = some ⟨1, ∅, .typeMarker, none⟩ := by cbv

theorem build_followsLookup_twins :
    (twinGraph.MadeBy .type (.explicit 1) (.node 0) ↔
      twinGraph.LinkFrom (twinGraph.onChain? 0 service .type) (.explicit 1)) ∧
    twinGraph.MadeBy .type (.explicit 0) (.node 0) := by
  obtain ⟨node, roots, depth, rootLookup, lookup⟩ := twinGraph_facts
  have edge := (build_followsLookup twins [] [twinRoot]).1 0 firstTwin
    ⟨secondTwin, .node 0, false⟩ _ node rfl (.head _) lookup
  have root := (build_followsLookup twins [] [twinRoot]).2 ⟨twinRoot, .node 0⟩ _
    (roots ▸ .head _) rootLookup
  rw [if_neg (by rw [depth]; decide)] at edge
  rw [if_neg (by decide)] at root
  exact ⟨edge.2, root⟩

/-- The lookup finds the second twin, but the site leads to the first. -/
theorem twins_not_followed : ¬ ∀ id n d f, twinGraph.node? id = some n → n.kind.hasSites →
    d ∈ n.dependencies →
    twins.lookup ⟨d.site.contract, d.site.tag, some (d.site.path n.resultType)⟩ = some f →
    (twinGraph.chainAt id).length ≠ twins.options.maxDepth →
    twinGraph.MadeBy (twins.registry.tagKey f.binding) (.explicit f.binding) d.target := by
  intro claim
  obtain ⟨node, -, depth, -, lookup⟩ := twinGraph_facts
  obtain ⟨t, m, eq, node', -, source⟩ := claim 0 firstTwin ⟨secondTwin, .node 0, false⟩ _ node rfl
    (.head _) lookup (by rw [depth]; decide)
  cases eq
  cases node.symm.trans node'
  nomatch source

end Resolver

end Wiring
