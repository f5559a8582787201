import Mathlib
import Wiring.Proofs.Graph.References
import Wiring.Proofs.Resolver.Chain

/-!
# Resolver — Unanswered

Requests that nothing answers are neither lost nor counted twice. Each makes an entry that is handed
to whoever asked, and only there it becomes a reference; in between lies the resolution of all that
is asked for beside it. So entries and references are kept equal over a run together with what the
run answers.
-/

namespace Wiring

namespace Ask

def contract : Ask → TypeExpr
  | .request contract _ | .candidate contract _ _ => contract

def demand : Ask → Demand
  | .request _ d | .candidate _ d _ => d

/-- The entry when nothing answers. -/
def unanswered (ask : Ask) (id : RequestId) (rootName : String) : Unanswered :=
  ⟨id, ask.contract, ask.demand.tag, ask.demand.site, ask.demand.consumer, rootName⟩

end Ask

/-- If the target of a request is an entry, it is the entry of the request. -/
def Graph.Tells (g : Graph) (ask : Ask) (target : Target) : Prop :=
  ∀ i, target = .unresolved i → ∃ rootName, g.unresolved[i]? = some (ask.unanswered i rootName)

theorem Graph.Tells.mono {g g' : Graph} {ask : Ask} {target : Target} (h : g.Tells ask target)
    (more : g.unresolved <+: g'.unresolved) : g'.Tells ask target := by
  intro i leads
  obtain ⟨rootName, entry⟩ := h i leads
  exact ⟨rootName, getElem?_mono more entry⟩

namespace Resolver

open Session

variable {r : Resolver}

/-! ## Single requests -/

theorem Chooses.unresolved_eq {ask s choice s'} (h : r.Chooses ask s choice s') :
    s'.graph.unresolved = s.graph.unresolved := by
  cases h with
  | bound | candidate => rfl
  | auto =>
    rw [autoBindingIndex]
    split <;> rfl

/-- A request is settled by a node and no entry, or by its own new entry. -/
theorem Settles.entries {ask s target s'} (h : r.Settles ask s target s') :
    (∃ id, target = .node id) ∧ s'.graph.unresolved = s.graph.unresolved ∨
      target = .unresolved s.graph.unresolved.length ∧
        s'.graph.unresolved =
          s.graph.unresolved ++ [ask.unanswered s.graph.unresolved.length s.rootName] := by
  cases h with
  | cut | refused | missing | lost => exact .inr ⟨rfl, rfl⟩
  | linked chosen | shared chosen => exact .inl ⟨⟨_, rfl⟩, chosen.unresolved_eq⟩
  | accumulated => exact .inl ⟨⟨_, rfl⟩, rfl⟩

theorem Opens.unresolved_eq {ask s o} (h : r.Opens ask s o) :
    o.inner.graph.unresolved = s.graph.unresolved := by
  cases h with
  | bound chosen => exact chosen.unresolved_eq
  | accumulated => rfl
  | shape =>
    show (enterShape ..).graph.unresolved = _
    rw [enterShape_graph]
    rfl

/-! ## Parts -/

theorem parts_ofDependency {c : Recipe} {id : NodeId} {part : Part} (mem : part ∈ c.parts id)
    (i : RequestId) (rootName : String) :
    (part.ask.unanswered i rootName).OfDependency id part.site := by
  obtain ⟨site, -, rfl⟩ := List.mem_map.1 mem
  exact ⟨rfl, rfl, rfl, rfl⟩

theorem itemParts_ofDependency {d : Demand} {element : TypeExpr} {id : NodeId} {index : Nat}
    {matches' : List Match} {part : Part} (mem : part ∈ r.itemParts d element id index matches')
    (i : RequestId) (rootName : String) :
    (part.ask.unanswered i rootName).OfDependency id part.site := by
  induction matches' generalizing index with
  | nil => nomatch mem
  | cons found more ih =>
    rcases List.mem_cons.1 mem with rfl | later
    · exact ⟨rfl, rfl, rfl, rfl⟩
    · exact ih later

theorem tupleParts_ofDependency {d : Demand} {id : NodeId} {index : Nat} {items : List TypeExpr}
    {part : Part} (mem : part ∈ tupleParts d id index items) (i : RequestId) (rootName : String) :
    (part.ask.unanswered i rootName).OfDependency id part.site := by
  induction items generalizing index with
  | nil => nomatch mem
  | cons item more ih =>
    rcases List.mem_cons.1 mem with rfl | later
    · exact ⟨rfl, rfl, rfl, rfl⟩
    · exact ih later

theorem shapeParts_ofDependency {d : Demand} {id : NodeId} {contract : TypeExpr} {part : Part}
    (mem : part ∈ r.shapeParts d id contract) (i : RequestId) (rootName : String) :
    (part.ask.unanswered i rootName).OfDependency id part.site := by
  cases contract with
  | named | marker => nomatch mem
  | collection => exact itemParts_ofDependency mem i rootName
  | tuple => exact tupleParts_ofDependency mem i rootName
  | func | lazy | owned =>
    obtain rfl := List.mem_singleton.1 mem
    exact ⟨rfl, rfl, rfl, rfl⟩

/-- The entry of a part tells of the node and of the site of the part. -/
theorem Opens.ofDependency {ask s o} (h : r.Opens ask s o) {part : Part} (mem : part ∈ o.parts)
    (i : RequestId) (rootName : String) :
    (part.ask.unanswered i rootName).OfDependency s.nextNode part.site := by
  cases h with
  | @bound _ _ choice s' chosen =>
    have next : s'.nextNode = s.nextNode := congrArg List.length chosen.nodes_eq
    exact next ▸ parts_ofDependency mem i rootName
  | accumulated => nomatch mem
  | shape => exact shapeParts_ofDependency mem i rootName

/-! ## What entries tell -/

/-- A run answers each request with a node or with its entry. -/
theorem Run.tells {asks s targets s' births} (h : r.Run asks s targets s' births) :
    List.Forall₂ s'.graph.Tells asks targets := by
  induction h with
  | done => exact .nil
  | settle settled rest ih =>
    refine .cons (Graph.Tells.mono (fun i leads => ?_) rest.extends.unresolved) ih
    rcases settled.entries with ⟨⟨id, rfl⟩, -⟩ | ⟨rfl, entries⟩
    · nomatch leads
    · cases leads
      rw [entries]
      exact ⟨_, List.getElem?_concat_length⟩
  | make _ _ _ _ ih' => exact .cons nofun ih'

theorem Settles.accounts {ask s target s'} (h : r.Settles ask s target s')
    (accounts : s.graph.Accounts) : s'.graph.Accounts where
  ids := by
    rcases h.entries with ⟨-, entries⟩ | ⟨-, entries⟩
    · rw [entries, accounts.ids]
    · rw [entries, List.map_append, accounts.ids, List.length_append, List.length_singleton,
        List.range_succ]
      rfl
  dependencies := by
    intro n mem d edge i leads
    obtain ⟨u, entry, tells⟩ := accounts.dependencies n (h.nodes_eq ▸ mem) d edge i leads
    exact ⟨u, getElem?_mono h.extends.unresolved entry, tells⟩
  roots := by
    intro e mem i leads
    obtain ⟨u, entry, tells⟩ := accounts.roots e (h.extends.roots ▸ mem) i leads
    exact ⟨u, getElem?_mono h.extends.unresolved entry, tells⟩

/-- A node that is open has no edges yet. -/
theorem Opens.accounts {ask s o} (h : r.Opens ask s o) (accounts : s.graph.Accounts) :
    o.inner.graph.Accounts where
  ids := h.unresolved_eq ▸ accounts.ids
  dependencies := by
    intro n mem d edge
    rw [h.unresolved_eq]
    rw [h.inner_nodes] at mem
    rcases List.mem_append.1 mem with old | new
    · exact accounts.dependencies n old d edge
    · obtain rfl := List.mem_singleton.1 new
      have none : o.node.dependencies = [] := h.dependencies_eq
      simp only [none] at edge
      nomatch edge
  roots := by
    have roots : o.inner.graph.roots = s.graph.roots := h.extends.roots
    rw [roots, h.unresolved_eq]
    exact accounts.roots

/-- The entries that the parts of a node were answered with become those of its edges. -/
theorem Opens.accounts_close {ask s o inside s' births} (h : r.Opens ask s o)
    (parts : r.Run (o.parts.map (·.ask)) o.inner inside s' births)
    (accounts : s'.graph.Accounts) :
    (s'.close s.context s.nextNode (dependenciesOf o.node.kind o.parts inside)).graph.Accounts where
  ids := accounts.ids
  dependencies := by
    obtain ⟨more, before, after⟩ := h.closed_nodes parts.extends
      (dependenciesOf o.node.kind o.parts inside)
    intro n mem d edge i leads
    rw [after] at mem
    have kept (old : n ∈ s'.graph.nodes) :
        ∃ u, s'.graph.unresolved[i]? = some u ∧ u.OfDependency n.id d.site :=
      accounts.dependencies n old d edge i leads
    rw [before] at kept
    rcases List.mem_append.1 mem with old | new
    · exact kept (List.mem_append_left _ old)
    · rcases List.mem_cons.1 new with rfl | later
      · obtain ⟨part, mem, site, tells⟩ := mem_dependenciesOf parts.tells edge
        obtain ⟨rootName, entry⟩ := tells i leads
        exact ⟨_, entry, site ▸ h.ofDependency mem i rootName⟩
      · exact kept (List.mem_append_right _ (List.mem_cons_of_mem _ later))
  roots := accounts.roots

theorem Run.accounts {asks s targets s' births} (h : r.Run asks s targets s' births)
    (accounts : s.graph.Accounts) : s'.graph.Accounts := by
  induction h with
  | done => exact accounts
  | settle settled _ ih => exact ih (settled.accounts accounts)
  | make opened parts _ ih ih' =>
    exact ih' (opened.accounts_close parts (ih (opened.accounts accounts)))

/-! ## How often entries are led to -/

theorem count_range_succ (n i : Nat) :
    (List.range (n + 1)).count i = (List.range n).count i + [n].count i := by
  rw [List.range_succ, List.count_append]

theorem count_node_cons (id : NodeId) (targets : List Target) (i : RequestId) :
    (Target.node id :: targets).count (.unresolved i) = targets.count (.unresolved i) :=
  List.count_cons_of_ne (by simp)

theorem count_unresolved_cons (n : RequestId) (targets : List Target) (i : RequestId) :
    (Target.unresolved n :: targets).count (.unresolved i) =
      targets.count (.unresolved i) + [n].count i := by
  simp [List.count_cons]

theorem Settles.references_eq {ask s target s'} (h : r.Settles ask s target s') :
    s'.graph.references = s.graph.references := by
  rw [Graph.references, Graph.references, h.extends.roots, h.nodes_eq]

theorem Opens.references_eq {ask s o} (h : r.Opens ask s o) :
    o.inner.graph.references = s.graph.references := by
  have roots : o.inner.graph.roots = s.graph.roots := h.extends.roots
  have none : o.node.dependencies = [] := h.dependencies_eq
  rw [Graph.references, Graph.references, roots, h.inner_nodes]
  simp [none, Graph.edges]

theorem close_unresolved (s : Session) (context : Context) (id : NodeId)
    (dependencies : List Dependency) :
    (s.close context id dependencies).graph.unresolved = s.graph.unresolved := rfl

/-- Closing a node makes references of what its parts were answered with. -/
theorem Opens.count_close {ask s o inside s' births} (h : r.Opens ask s o)
    (parts : r.Run (o.parts.map (·.ask)) o.inner inside s' births) (target : Target) :
    (s'.close s.context s.nextNode
        (dependenciesOf o.node.kind o.parts inside)).graph.references.count target =
      s'.graph.references.count target + inside.count target := by
  obtain ⟨inner, before, after⟩ := h.closed_nodes parts.extends
    (dependenciesOf o.node.kind o.parts inside)
  have none : o.node.dependencies = [] := h.dependencies_eq
  have length : o.parts.length = inside.length := by simpa using parts.length_targets.symm
  rw [Graph.references, after, Graph.references, before]
  simp only [close_graph, Graph.modifyNode, Node.connected, Graph.edges_append, Graph.edges_cons,
    List.count_append, targets_dependenciesOf _ length, none, List.map_nil, List.count_nil]
  omega

/-- The references and what is answered grow as the entries do. -/
theorem Run.count_references {asks s targets s' births} (h : r.Run asks s targets s' births)
    (i : RequestId) :
    s'.graph.references.count (.unresolved i) + targets.count (.unresolved i) +
        (List.range s.graph.unresolved.length).count i =
      s.graph.references.count (.unresolved i) +
        (List.range s'.graph.unresolved.length).count i := by
  induction h with
  | done => simp
  | settle settled _ ih =>
    rw [settled.references_eq] at ih
    rcases settled.entries with ⟨⟨id, rfl⟩, entries⟩ | ⟨rfl, entries⟩
    · rw [entries] at ih
      rw [count_node_cons, ih]
    · rw [entries, List.length_append, List.length_singleton, count_range_succ] at ih
      rw [count_unresolved_cons]
      omega
  | make opened parts _ ih ih' =>
    rw [opened.references_eq, opened.unresolved_eq] at ih
    rw [opened.count_close parts, close_unresolved] at ih'
    rw [count_node_cons]
    omega

/-! ## Whole graphs -/

/-- A node is flagged when it is closed with an entry. -/
theorem Closed.hasUnresolved_iff {births : List Birth} {b : Birth} {n : Node}
    (h : Closed r births b n) :
    n.flags.hasUnresolved ↔ ∃ d ∈ n.dependencies, d.target.isUnresolved := by
  cases h with
  | @intro ask s o inside opened answers =>
    have unflagged : (o.birth s).node.flags.hasUnresolved = false :=
      (congrArg (·.flags.hasUnresolved) opened.face_eq).symm
    simp only [Node.connected, unflagged, Bool.false_or, List.any_eq_true]

/-- A root edge is a reference to what its root was answered with. -/
theorem accounts_leaveRoot {s : Session} {root : Root} {target : Target}
    (accounts : s.graph.Accounts)
    (tells : s.graph.Tells (.request root.contract (.ofRoot root)) target) :
    (s.leaveRoot ⟨root, target⟩).graph.Accounts where
  ids := accounts.ids
  dependencies := accounts.dependencies
  roots := by
    intro e mem i leads
    rcases List.mem_append.1 mem with old | new
    · exact accounts.roots e old i leads
    · obtain rfl := List.mem_singleton.1 new
      obtain ⟨rootName, entry⟩ := tells i leads
      exact ⟨_, entry, rfl, rfl, rfl, rfl⟩

theorem count_leaveRoot (s : Session) (root : Root) (target target' : Target) :
    (s.leaveRoot ⟨root, target⟩).graph.references.count target' =
      s.graph.references.count target' + [target].count target' := by
  have roots : (s.leaveRoot ⟨root, target⟩).graph.roots = s.graph.roots ++ [⟨root, target⟩] := rfl
  have nodes : (s.leaveRoot ⟨root, target⟩).graph.nodes = s.graph.nodes := rfl
  rw [Graph.references, Graph.references, roots, nodes, List.map_append, List.count_append,
    List.count_append, List.count_append, List.map_singleton]
  exact Nat.add_right_comm ..

/-- The run of a root leads once to its entries: by edges, or by the root. -/
theorem leadsOnce_leaveRoot {s s' : Session} {root : Root} {index : Nat} {target : Target}
    {births : List Birth} (once : s.graph.LeadsOnce)
    (run : r.Run [.request root.contract (.ofRoot root)] (s.enterRoot root index) [target] s'
      births) : (s'.leaveRoot ⟨root, target⟩).graph.LeadsOnce := by
  intro i
  have counts : s'.graph.references.count (.unresolved i) + [target].count (.unresolved i) +
      (List.range s.graph.unresolved.length).count i =
    s.graph.references.count (.unresolved i) +
      (List.range s'.graph.unresolved.length).count i := run.count_references i
  rw [once i, Nat.add_comm] at counts
  rw [count_leaveRoot]
  exact Nat.add_left_cancel counts

theorem resolveRoots_accounts (found : List Diagnostic) (roots : List Root) :
    ∃ births s, History r roots.zipIdx births s ∧ (r.build found roots).1 = s.graph ∧
      s.graph.Accounts ∧ s.graph.LeadsOnce := by
  obtain ⟨births, h, accounts, once⟩ := resolveRoots_induction (r := r) found
    (motive := fun roots _ =>
      let g := (r.resolveRoots (.begin found) roots).graph
      g.Accounts ∧ g.LeadsOnce)
    ⟨.empty, .empty⟩
    (by
      intro roots births root target s' births' h ⟨accounts, once⟩ run whole
      obtain ⟨tells, -⟩ := List.forall₂_cons.1 run.tells
      simp only [whole]
      exact ⟨accounts_leaveRoot (run.accounts accounts) tells, leadsOnce_leaveRoot once run⟩)
    roots
  exact ⟨births, _, h, rfl, accounts, once⟩

/-- Each request that nothing answers is kept as one entry, and one reference leads to it. If that
is a dependency, the entry tells of its node and its site; if it is a root edge, it tells of the
root. Just the nodes with such a dependency are flagged, and the check reports the entries one after
the other. -/
theorem build_unanswered (r : Resolver) (found : List Diagnostic) (roots : List Root) :
    let g := (r.build found roots).1
    (∀ i u, g.unresolved[i]? = some u → u.id = i ∧ g.references.count (.unresolved i) = 1) ∧
    (∀ (id : NodeId) n d i, g.node? id = some n → d ∈ n.dependencies → d.target = .unresolved i →
      ∃ u, g.unresolved[i]? = some u ∧ u.OfDependency id d.site) ∧
    (∀ e i, e ∈ g.roots → e.target = .unresolved i →
      ∃ u, g.unresolved[i]? = some u ∧ u.OfRoot e.root) ∧
    (∀ (id : NodeId) n, g.node? id = some n →
      (n.flags.hasUnresolved ↔ ∃ d ∈ n.dependencies, d.target.isUnresolved)) ∧
    g.check.2.filter (·.kind = .unresolved) = g.unresolved.map g.unresolvedDiagnostic ∧
    (g.check.2.filter (·.kind = .unresolved)).map (·.subject) =
      (List.range g.unresolved.length).map fun i => some (.unresolved i) := by
  obtain ⟨births, s, h, eq, accounts, once⟩ := resolveRoots_accounts (r := r) found roots
  rw [eq]
  refine ⟨fun i u entry => ⟨eq_of_map_eq_range accounts.ids entry, once.count_eq_one entry⟩,
    ?_, ?_, ?_, Graph.check_unresolved _, accounts.check_subjects⟩
  · intro id n d i node edge leads
    obtain ⟨b, born, closed⟩ := h.birth node
    have same : n.id = id := (congrArg Node.id closed.face_eq).trans (h.id_eq born)
    exact same ▸ accounts.dependencies n (List.mem_of_getElem? node) d edge i leads
  · intro e i mem leads
    exact accounts.roots e mem i leads
  · intro id n node
    obtain ⟨b, -, closed⟩ := h.birth node
    exact closed.hasUnresolved_iff

/-! ### A desk without a lamp

The lamp is missing below a lazy value, and where a root asks for it.
-/

def lamp : TypeExpr := .named "ILamp" []

def desk : TypeExpr := .named "IDesk" []

def office : Resolver where
  registry := ((Registry.empty .empty .structural).registerAll
    [.plain desk (.factory "desk" [.parameter "lamp" (.lazy lamp)])]).1
  options := { Options.standard with maxDepth := 2 }
  accumulators := []
  autoBinds := false
  filter := none

abbrev officeGraph : Graph := (office.build [] [.untagged "main" desk, .untagged "spare" lamp]).1

def lampDependency : Dependency := ⟨partSite "target" lamp none, .unresolved 0, true⟩

theorem officeGraph_facts :
    (officeGraph.node? 1).map (·.dependencies) = some [lampDependency] ∧
      officeGraph.roots = [⟨.untagged "main" desk, .node 0⟩,
        ⟨.untagged "spare" lamp, .unresolved 1⟩] ∧
      officeGraph.unresolved.length = 2 := by cbv

theorem build_unanswered_office :
    officeGraph.references.count (.unresolved 0) = 1 ∧
      (∃ u, officeGraph.unresolved[0]? = some u ∧ u.OfDependency 1 lampDependency.site) ∧
      (∃ u, officeGraph.unresolved[1]? = some u ∧ u.OfRoot (.untagged "spare" lamp)) ∧
      (∃ n, officeGraph.node? 1 = some n ∧ n.flags.hasUnresolved) ∧
      (officeGraph.check.2.filter (·.kind = .unresolved)).map (·.subject) =
        [some (.unresolved 0), some (.unresolved 1)] := by
  obtain ⟨dependencies, roots, length⟩ := officeGraph_facts
  obtain ⟨n, node, edges⟩ := Option.map_eq_some_iff.1 dependencies
  obtain ⟨once, ofDependency, ofRoot, flagged, -, subjects⟩ := build_unanswered office [] _
  have edge : lampDependency ∈ n.dependencies := edges ▸ List.mem_cons_self
  have root : ⟨.untagged "spare" lamp, .unresolved 1⟩ ∈ officeGraph.roots := by
    rw [roots]
    exact List.mem_cons_of_mem _ List.mem_cons_self
  obtain ⟨u, entry, tells⟩ := ofDependency 1 n lampDependency 0 node edge rfl
  refine ⟨(once 0 u entry).2, ⟨u, entry, tells⟩, ofRoot _ 1 root rfl, ⟨n, node, ?_⟩, ?_⟩
  · exact (flagged 1 n node).2 ⟨lampDependency, edge, rfl⟩
  · rw [subjects, length]
    rfl

end Resolver

end Wiring
