import Wiring.Registry.Lookup
import Wiring.Resolver.Context
import Wiring.Resolver.Probe

/-!
# Resolver — Session

What a resolution changes: the graph so far, with maps that find its shared nodes and the bindings
made for concrete types, the diagnostics, the remembered probes, the positional rules that fitted
some request, and where it stands.
-/

namespace Wiring

/-- Who asks for a contract, and how. -/
structure Demand where
  tag : Option TagValue
  /-- No site when a root asks. -/
  site : Option Site
  consumer : Option NodeId
  /-- The path that positional tags are compared with. -/
  path : Option String

namespace Demand

def ofRoot (root : Root) : Demand := ⟨root.tag, none, none, none⟩

def ofSite (site : Site) (consumer : NodeId) (consumerType : TypeExpr) : Demand :=
  ⟨site.tag, some site, some consumer, some (site.path consumerType)⟩

/-- A site inside a built-in shape keeps the path of the site that asks for the shape. -/
def inside (d : Demand) (site : Site) (wrapper : NodeId) : Demand :=
  ⟨site.tag, some site, some wrapper, d.path⟩

end Demand

/-- The site that a built-in shape makes for a part of it. -/
def partSite (name : String) (contract : TypeExpr) (tag : Option TagValue) : Site :=
  { Site.implicit name contract with tag }

/-! ## Maps of positions -/

/-- A map of positions with one more: an element without a key is not entered. -/
def enterPosition {κ : Type} (key : Option κ) (i : Nat) (positions : List (κ × Nat)) :
    List (κ × Nat) :=
  match key with
  | some k => (k, i) :: positions
  | none => positions

theorem lookup_enterPosition {κ : Type} [BEq κ] [LawfulBEq κ] (key : Option κ) (i : Nat)
    (positions : List (κ × Nat)) (k : κ) :
    (enterPosition key i positions).lookup k =
      if key == some k then some i else positions.lookup k := by
  cases key with
  | none => rfl
  | some k' =>
    rw [enterPosition, List.lookup_cons, BEq.comm, Option.some_beq_some]
    cases k' == k with
    | true => rfl
    | false => rfl

/-- A map finds the elements of a list by their keys: it leads from a key to the position of an
element that has it, and nowhere only when no element has it. -/
structure Indexes {α κ : Type} [BEq κ] (key? : α → Option κ) (as : List α)
    (positions : List (κ × Nat)) : Prop where
  found {k : κ} {i : Nat} : positions.lookup k = some i → ∃ a, as[i]? = some a ∧ key? a = some k
  missing {k : κ} : positions.lookup k = none → ∀ a ∈ as, key? a ≠ some k

namespace Indexes

variable {α κ : Type} [BEq κ] {key? : α → Option κ} {as : List α} {positions : List (κ × Nat)}

theorem nil : Indexes key? [] [] where
  found known := absurd known.symm (Option.some_ne_none _)
  missing _ _ mem := absurd mem List.not_mem_nil

theorem concat [LawfulBEq κ] (h : Indexes key? as positions) (a : α) :
    Indexes key? (as ++ [a]) (enterPosition (key? a) as.length positions) where
  found := by
    intro k i known
    rw [lookup_enterPosition] at known
    split at known
    · next key =>
      obtain rfl := Option.some.inj known
      exact ⟨a, List.getElem?_concat_length, eq_of_beq key⟩
    · obtain ⟨a', at_i, key⟩ := h.found known
      have lt := (List.getElem?_eq_some_iff.1 at_i).1
      exact ⟨a', (List.getElem?_append_left lt).trans at_i, key⟩
  missing := by
    intro k unknown a' mem
    rw [lookup_enterPosition] at unknown
    split at unknown
    · exact absurd unknown (Option.some_ne_none _)
    · next other =>
      rcases List.mem_append.1 mem with before | last
      · exact h.missing unknown a' before
      · rw [List.mem_singleton.1 last]
        exact fun key => other (beq_iff_eq.2 key)

/-- A change that keeps the keys needs no other map. -/
theorem modify (h : Indexes key? as positions) (i : Nat) (f : α → α)
    (keeps : ∀ a, key? (f a) = key? a) : Indexes key? (as.modify i f) positions where
  found := by
    intro k j known
    obtain ⟨a, at_j, key⟩ := h.found known
    rw [List.getElem?_modify, at_j]
    split
    · exact ⟨f a, rfl, (keeps a).trans key⟩
    · exact ⟨a, rfl, key⟩
  missing := by
    intro k unknown a mem
    obtain ⟨j, at_j⟩ := List.mem_iff_getElem?.1 mem
    rw [List.getElem?_modify] at at_j
    obtain ⟨before, at_j', rfl⟩ := Option.map_eq_some_iff.1 at_j
    have free := h.missing unknown before (List.mem_of_getElem? at_j')
    split
    · rwa [keeps]
    · exact free

end Indexes

/-! ## State -/

/-- What a shared node is known by. The owner is part of it: what is built below an ownership
wrapper is not reused by requests outside of it. -/
abbrev Identity := TypeExpr × TagKey × Sharing × Source × Owner

/-- A node that is not shared has no identity. -/
def Node.identity? (n : Node) : Option Identity :=
  n.scope.map fun scope => (n.contract, n.tag, scope, n.source, n.owner)

structure Session where
  graph : Graph
  diagnostics : List Diagnostic
  memo : ProbeMemo
  /-- The shared nodes by their identities. -/
  shared : List (Identity × NodeId)
  /-- The bindings made for concrete types by their contracts. -/
  synthesized : List (TypeExpr × Nat)
  usedRules : List Rule
  /-- How many blocks were opened. -/
  blocks : Nat
  rootName : String
  context : Context
  sharedIndexed : Indexes Node.identity? graph.nodes shared
  synthesizedIndexed : Indexes (fun b => some b.contract) graph.autoBindings synthesized

namespace Session

def begin (diagnostics : List Diagnostic) : Session where
  graph := .empty
  diagnostics
  memo := []
  shared := []
  synthesized := []
  usedRules := []
  blocks := 0
  rootName := ""
  context := .atRoot 0 0
  sharedIndexed := .nil
  synthesizedIndexed := .nil

def report (s : Session) (d : Diagnostic) : Session :=
  { s with diagnostics := s.diagnostics ++ [d] }

def useRules (s : Session) (rules : List Rule) : Session :=
  { s with usedRules := rules.foldr List.insert s.usedRules }

/-! ## Context -/

/-- Go on in a block of its own. -/
def enterBlock (s : Session) : Session :=
  { s with blocks := s.blocks + 1, context := { s.context with block := s.blocks + 1 } }

def setBlock (s : Session) (block : Nat) : Session :=
  { s with context := { s.context with block } }

def setOwner (s : Session) (owner : Owner) : Session :=
  { s with context := { s.context with owner } }

def pushLink (s : Session) (contract : TypeExpr) (tag : TagKey) (node : NodeId) : Session :=
  { s with context := s.context.push contract tag node }

def popLink (s : Session) : Session := { s with context := s.context.pop }

/-! ## Graph -/

/-- The id of the next node. -/
def nextNode (s : Session) : NodeId := s.graph.nodes.length

def addNode (s : Session) (n : Node) : Session :=
  { s with
    graph := s.graph.addNode n
    shared := enterPosition n.identity? s.nextNode s.shared
    sharedIndexed := s.sharedIndexed.concat _ }

/-- Give a node its dependencies. -/
def connect (s : Session) (id : NodeId) (dependencies : List Dependency) : Session :=
  { s with
    graph := s.graph.modifyNode id (·.connected dependencies)
    sharedIndexed := s.sharedIndexed.modify id _ fun _ => rfl }

/-- Record a request that nothing answers. -/
def reject (s : Session) (contract : TypeExpr) (d : Demand) : Target × Session :=
  (.unresolved s.graph.unresolved.length,
    { s with graph := s.graph.addUnresolved ⟨0, contract, d.tag, d.site, d.consumer, s.rootName⟩ })

/-- The shared node that answers a request just as a new one would: same contract, tag, scope,
source and owner. -/
def sharedNode? (s : Session) (contract : TypeExpr) (tag : TagKey) (source : Source)
    (lifetime : Lifetime) : Option NodeId :=
  match s.context.sharingOf lifetime with
  | none => none
  | some scope => s.shared.lookup (contract, tag, scope, source, s.context.ownerOf lifetime)

/-- The index of a binding made for a concrete type, which is added when it is new. -/
def autoBindingIndex (s : Session) (b : Binding) : Nat × Session :=
  match s.synthesized.lookup b.contract with
  | some index => (index, s)
  | none =>
    let index := s.graph.autoBindings.length
    (index,
      { s with
        graph := s.graph.addAutoBinding b
        synthesized := (b.contract, index) :: s.synthesized
        synthesizedIndexed := s.synthesizedIndexed.concat b })

end Session

end Wiring
