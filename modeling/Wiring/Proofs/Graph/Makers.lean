import Mathlib.Data.Nat.Init
import Wiring.Graph.Basic
import Wiring.Proofs.Graph.Targets
import Wiring.Proofs.Graph.Traversal

/-!
# Graph — Makers

A graph that was built depth first shows from where each of its nodes was reached: by the last
earlier node that leads to it. Going up this way from a node gives the nodes that were open when it
was made.
-/

namespace Wiring.Graph

/-- Go up from a node, among the nodes before a position. -/
def makersBelow (g : Graph) : (position : Nat) → NodeId → List NodeId
  | 0, _ => []
  | m + 1, id => if id ∈ g.successors m then m :: g.makersBelow m m else g.makersBelow m id

/-- The nodes that were open when a node was made, the nearest first. -/
def makers (g : Graph) (id : NodeId) : List NodeId := g.makersBelow id id

def isBound (g : Graph) (id : NodeId) : Bool :=
  match g.node? id with
  | some n => n.source ≠ .implicit
  | none => false

/-- The nodes made by bindings that were open below a node, itself included, the nearest first. -/
def chainAt (g : Graph) (id : NodeId) : List NodeId := (id :: g.makers id).filter g.isBound

/-- A node answers a contract and tag. -/
def answers (g : Graph) (contract : TypeExpr) (tag : TagKey) (id : NodeId) : Bool :=
  (g.node? id).any fun n => n.contract = contract ∧ n.tag = tag

/-- The nearest node of the chain at a node that answers a contract and tag. -/
def onChain? (g : Graph) (id : NodeId) (contract : TypeExpr) (tag : TagKey) : Option NodeId :=
  (g.chainAt id).find? (g.answers contract tag)

/-- No node from a position on, before the given one, leads to it. -/
def Quiet (g : Graph) (position : Nat) (id : NodeId) : Prop :=
  ∀ m, position ≤ m → m < id → id ∉ g.successors m

variable {g : Graph} {id m : NodeId}

theorem answers_iff {contract : TypeExpr} {tag : TagKey} :
    g.answers contract tag id ↔ ∃ n, g.node? id = some n ∧ n.contract = contract ∧ n.tag = tag := by
  cases node : g.node? id <;> simp [answers, node]

theorem makersBelow_of_quiet {lower position : Nat} (h : g.Quiet lower id) (le : lower ≤ position)
    (below : position ≤ id) : g.makersBelow position id = g.makersBelow lower id := by
  induction position, le using Nat.le_induction with
  | base => rfl
  | succ m le ih => rw [makersBelow, if_neg (h m le below), ih (by omega)]

theorem makers_of_quiet (h : g.Quiet 0 id) : g.makers id = [] :=
  makersBelow_of_quiet h (Nat.zero_le id) (Nat.le_refl id)

theorem makers_of_leads (lt : m < id) (leads : id ∈ g.successors m) (h : g.Quiet (m + 1) id) :
    g.makers id = m :: g.makers m := by
  rw [makers, makersBelow_of_quiet h lt (Nat.le_refl id), makersBelow, if_pos leads, makers]

/-! ## Going up -/

theorem makersBelow_cases (g : Graph) (position : Nat) (id : NodeId) :
    g.makersBelow position id = [] ∨
      ∃ m < position, id ∈ g.successors m ∧ g.makersBelow position id = m :: g.makers m := by
  induction position with
  | zero => exact .inl rfl
  | succ position ih =>
    rw [makersBelow]
    split
    · next leads => exact .inr ⟨position, Nat.lt_succ_self _, leads, rfl⟩
    · rcases ih with none | ⟨m, lt, leads, eq⟩
      · exact .inl none
      · exact .inr ⟨m, Nat.lt_succ_of_lt lt, leads, eq⟩

/-- The makers of a node are the one that is nearest and the makers of that one. -/
theorem makers_cases (g : Graph) (id : NodeId) :
    g.makers id = [] ∨ ∃ m < id, id ∈ g.successors m ∧ g.makers id = m :: g.makers m :=
  g.makersBelow_cases id id

/-- Whatever holds of the nearest maker, and of the makers of that one, holds of all makers. -/
theorem makers_induction {motive : NodeId → NodeId → Prop}
    (nearest : ∀ m id, id ∈ g.successors m → g.makers id = m :: g.makers m → motive m id)
    (further : ∀ m m' id, id ∈ g.successors m → g.makers id = m :: g.makers m →
      m' ∈ g.makers m → motive m' m → motive m' id)
    (mem : m ∈ g.makers id) : motive m id := by
  induction id using Nat.strong_induction_on with
  | _ id ih =>
    rcases g.makers_cases id with none | ⟨m', lt, leads, eq⟩
    · simp [none] at mem
    · have mem' := mem
      rw [eq] at mem'
      rcases List.mem_cons.1 mem' with rfl | above
      · exact nearest m id leads eq
      · exact further m' m id leads eq above (ih m' lt above)

/-- The makers of a node lead to it. -/
theorem reaches_of_mem_makers (mem : m ∈ g.makers id) : Traversal.Reaches g.successors m id := by
  refine makers_induction (motive := Traversal.Reaches g.successors) ?_ ?_ mem
  · intro m id leads _
    exact .single leads
  · intro m m' id leads _ _ reach
    exact .tail reach leads

theorem makers_subset (mem : m ∈ g.makers id) : g.makers m ⊆ g.makers id := by
  refine makers_induction (motive := fun m id => g.makers m ⊆ g.makers id) ?_ ?_ mem
  · intro m id _ eq
    rw [eq]
    exact List.subset_cons_self ..
  · intro m m' id _ eq _ subset
    rw [eq]
    exact List.subset_cons_of_subset _ subset

theorem Whole.lt_of_mem_makers (h : g.Whole) (mem : m ∈ g.makers id) : id < g.nodes.length := by
  rcases g.makers_cases id with none | ⟨_, -, leads, -⟩
  · simp [none] at mem
  · exact h.successors_lt leads

end Wiring.Graph
