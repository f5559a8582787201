import Wiring.Registry.Basic

/-!
# Registry — Validation

What can be wrong with a declaration by itself: a positional tag without patterns, markers that
the contract does not have, and implementation types that cannot be constructed.
-/

namespace Wiring.Registry

/-- Why a binding cannot work. -/
inductive Flaw where
  | noPatterns (contract : TypeExpr)
  | strayMarkers (type contract : TypeExpr) (markers : List String)
  | noMetadata (type : TypeExpr)
  | notConcrete (type : TypeExpr)
  | noPublicConstructor (type : TypeExpr)

def Flaw.message : Flaw → String
  | .noPatterns contract => "绑定 " ++ contract.text ++ " 的位置规则没有任何模式"
  | .strayMarkers type contract markers =>
    "实现类型 " ++ type.text ++ " 含有契约 " ++ contract.text ++ " 中不存在的泛型标记: "
      ++ ", ".intercalate markers
  | .noMetadata type => "实现类型 " ++ type.text ++ " 缺少类型元数据"
  | .notConcrete type => "实现类型 " ++ type.text ++ " 不是可构造的具体类型"
  | .noPublicConstructor type => "实现类型 " ++ type.text ++ " 没有公开的构造函数"

def tagFlaws (e : Entry) : List Flaw :=
  if e.key = .on [] then [.noPatterns e.binding.contract] else []

def markerFlaws (type contract : TypeExpr) : List Flaw :=
  match type.markers.filter fun marker => !contract.markers.contains marker with
  | [] => []
  | stray => [.strayMarkers type contract stray]

def metadataFlaws (r : Registry) (type : TypeExpr) : List Flaw :=
  match r.catalog.descriptorOf r.unifier type with
  | none => [.noMetadata type]
  | some (d, _) =>
    if !d.isConcrete then [.notConcrete type]
    else if !d.isConstructible then [.noPublicConstructor type]
    else []

def flaws (r : Registry) (e : Entry) : List Flaw :=
  tagFlaws e ++ match e.binding.builtType? with
    | some type => markerFlaws type e.binding.contract ++ r.metadataFlaws type
    | none => []

/-- One diagnostic for each flaw of each binding, in the order of declaration. -/
def validate (r : Registry) : List Diagnostic :=
  r.entries.zipIdx.flatMap fun (e, id) => (r.flaws e).map fun flaw =>
    .ofKind .invalidMetadata flaw.message e.binding.location (some (.binding id))

end Wiring.Registry
