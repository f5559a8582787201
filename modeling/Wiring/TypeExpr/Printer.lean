import Wiring.TypeExpr.Basic

/-!
# TypeExpr — Printer

The text of a type. Arguments and items are separated by a comma and a space, a tuple of one item
keeps its comma, and an array is its element followed by a pair of brackets.
-/

namespace Wiring.TypeExpr

mutual

def text : TypeExpr → String
  | .named path [] => path
  | .named path (arg :: args) => path ++ "<" ++ arg.text ++ textTail args ++ ">"
  | .marker name => name
  | .tuple [] => "()"
  | .tuple [item] => "(" ++ item.text ++ ",)"
  | .tuple (item :: items) => "(" ++ item.text ++ textTail items ++ ")"
  | .func target => "Func<" ++ target.text ++ ">"
  | .lazy target => "Lazy<" ++ target.text ++ ">"
  | .owned target => "Owned<" ++ target.text ++ ">"
  | .collection .array element => element.text ++ "[]"
  | .collection kind element => kind.name ++ "<" ++ element.text ++ ">"

def textTail : List TypeExpr → String
  | [] => ""
  | t :: ts => ", " ++ t.text ++ textTail ts

end

instance : ToString TypeExpr := ⟨text⟩

/-- The last piece of the path of a plain name, and the whole text of any other type. -/
def shortName : TypeExpr → String
  | .named path [] =>
    match (Text.pieces (fun c => c = '.' || c = ':') path.toList).getLast? with
    | some piece => String.ofList piece
    | none => path
  | t => t.text

end Wiring.TypeExpr
