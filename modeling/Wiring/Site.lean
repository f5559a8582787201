import Wiring.Substitution
import Wiring.Tag

/-!
# Site

A place where an instance is asked for: a constructor parameter, a property, a field, a method
parameter, or a place that a built-in shape makes by itself.
-/

namespace Wiring

inductive SiteKind where
  | constructorParameter | property | field | methodParameter | implicit
  deriving DecidableEq

structure Site where
  kind : SiteKind
  /-- The member that holds the site, `ctor` for a constructor. -/
  member : String
  name : String
  contract : TypeExpr
  tag : Option TagValue
  ordinal : Option Int32
  location : Option String
  deriving DecidableEq

namespace Site

def parameter (name : String) (contract : TypeExpr) : Site :=
  ⟨.constructorParameter, "ctor", name, contract, none, none, none⟩

def property (name : String) (contract : TypeExpr) : Site :=
  { parameter name contract with kind := .property, member := name }

def field (name : String) (contract : TypeExpr) : Site :=
  { property name contract with kind := .field }

def methodParameter (method name : String) (contract : TypeExpr) : Site :=
  { parameter name contract with kind := .methodParameter, member := method }

def implicit (name : String) (contract : TypeExpr) : Site :=
  { parameter name contract with kind := .implicit, member := "implicit" }

def withContract (site : Site) (contract : TypeExpr) : Site := { site with contract }

/-- The path that the rules of positional tags are compared with. -/
def path (site : Site) (consumer : TypeExpr) : String :=
  consumer.text ++ "." ++ site.member ++ ":" ++ site.name

end Site

def Substitution.applySite (s : Substitution) (site : Site) : Site :=
  site.withContract (s.apply site.contract)

end Wiring
