import Wiring.Document.Value
import Wiring.TypeExpr.Printer

/-!
# Form — Tree

The tree form of a type, in which its parts stand as they are. Types that no notation gives, such
as a named type without a name, have a tree form too.
-/

namespace Wiring.TypeExpr

mutual

def tree : TypeExpr → Value
  | .named path args => .record [("named", .str path), ("args", .list (trees args))]
  | .marker name => .record [("marker", .str name)]
  | .tuple items => .record [("tuple", .list (trees items))]
  | .func target => .record [("func", tree target)]
  | .lazy target => .record [("lazy", tree target)]
  | .owned target => .record [("owned", tree target)]
  | .collection kind element => .record [(kind.name, tree element)]

def trees : List TypeExpr → List Value
  | [] => []
  | t :: ts => tree t :: trees ts

end

def Head.tree : Head → Value
  | .named path arity => .record [("named", .str path), ("arity", .ofNat arity)]
  | .tuple arity => .record [("tuple", .ofNat arity)]
  | .func => .str "func"
  | .lazy => .str "lazy"
  | .owned => .str "owned"
  | .collection kind => .record [("collection", .str kind.name), ("lazy", .bool kind.isLazy)]

end Wiring.TypeExpr
