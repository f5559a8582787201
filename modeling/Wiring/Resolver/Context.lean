import Wiring.Graph.Basic

/-!
# Resolver — Context

Where a resolution stands: the requests being answered from the root down, the root, the block and
who releases what is built. The chain belongs to the path, so that a node may well be met again on
another one.
-/

namespace Wiring

structure ChainLink where
  contract : TypeExpr
  tag : TagKey
  node : NodeId
  deriving DecidableEq

structure Context where
  /-- The latest link first. -/
  chain : List ChainLink
  root : Nat
  block : Nat
  owner : Owner
  deriving DecidableEq

namespace Context

def atRoot (root block : Nat) : Context := ⟨[], root, block, .resolve root⟩

def depth (c : Context) : Nat := c.chain.length

/-- The node on the chain that answers a contract and tag. -/
def find? (c : Context) (contract : TypeExpr) (tag : TagKey) : Option NodeId :=
  (c.chain.find? fun link => link.contract = contract ∧ link.tag = tag).map (·.node)

def push (c : Context) (contract : TypeExpr) (tag : TagKey) (node : NodeId) : Context :=
  { c with chain := ⟨contract, tag, node⟩ :: c.chain }

def pop (c : Context) : Context := { c with chain := c.chain.tail }

/-- Within what an instance made here is shared. -/
def sharingOf (c : Context) : Lifetime → Option Sharing
  | .transient => none
  | .singleton | .perScope => some .composition
  | .perResolve => some (.resolve c.root)
  | .perBlock => some (.block c.block)

/-- Who releases an instance made here. Below an owned value it is the wrapper, unless the instance
belongs to the composition. -/
def ownerOf (c : Context) : Lifetime → Owner
  | .singleton | .perScope => .composition
  | .perResolve =>
    match c.owner with
    | .owned wrapper => .owned wrapper
    | _ => .resolve c.root
  | .transient | .perBlock => c.owner

@[simp] theorem pop_push (c : Context) (contract : TypeExpr) (tag : TagKey) (node : NodeId) :
    (c.push contract tag node).pop = c := rfl

end Context

end Wiring
