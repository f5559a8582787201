import Wiring.TypeExpr.Basic

/-!
# Substitution

What the markers of a declaration stand for: a table from marker names to types, kept in ascending
order of the names, so that tables with the same entries are equal.
-/

namespace Wiring

structure Substitution where
  entries : List (String × TypeExpr)
  ascending : entries.Pairwise (·.1 < ·.1)
  deriving DecidableEq

namespace Substitution

/-! ## Entries in order -/

/-- Put an entry at its place, in the stead of one with the same name. -/
def insertEntry (name : String) (type : TypeExpr) :
    List (String × TypeExpr) → List (String × TypeExpr)
  | [] => [(name, type)]
  | entry :: more =>
    if name < entry.1 then (name, type) :: entry :: more
    else if name = entry.1 then (name, type) :: more
    else entry :: insertEntry name type more

theorem mem_insertEntry {name : String} {type : TypeExpr} {es : List (String × TypeExpr)}
    {e : String × TypeExpr} (h : e ∈ insertEntry name type es) : e = (name, type) ∨ e ∈ es := by
  induction es with
  | nil => simpa [insertEntry] using h
  | cons entry more ih =>
    simp only [insertEntry] at h
    split at h
    · simpa using h
    · split at h
      · rcases List.mem_cons.1 h with h | h
        · exact .inl h
        · exact .inr (List.mem_cons_of_mem _ h)
      · rcases List.mem_cons.1 h with h | h
        · exact .inr (h ▸ List.mem_cons_self)
        · exact (ih h).imp id (List.mem_cons_of_mem _)

theorem insertEntry_ascending {name : String} {type : TypeExpr} {es : List (String × TypeExpr)}
    (h : es.Pairwise (·.1 < ·.1)) : (insertEntry name type es).Pairwise (·.1 < ·.1) := by
  induction es with
  | nil => simp [insertEntry]
  | cons entry more ih =>
    obtain ⟨first, rest⟩ := List.pairwise_cons.1 h
    simp only [insertEntry]
    split
    · next lt =>
      refine List.pairwise_cons.2 ⟨fun e he => ?_, h⟩
      rcases List.mem_cons.1 he with he | he
      · exact he ▸ lt
      · exact String.lt_trans lt (first e he)
    · next ge =>
      split
      · next eq => exact List.pairwise_cons.2 ⟨fun e he => eq ▸ first e he, rest⟩
      · next ne =>
        refine List.pairwise_cons.2 ⟨fun e he => ?_, ih rest⟩
        rcases mem_insertEntry he with he | he
        · subst he
          exact Std.lt_of_le_of_ne (Std.not_lt.1 ge) (Ne.symm ne)
        · exact first e he

/-! ## Operations -/

def empty : Substitution := ⟨[], .nil⟩

instance : EmptyCollection Substitution := ⟨empty⟩
instance : Inhabited Substitution := ⟨empty⟩

def get? (s : Substitution) (marker : String) : Option TypeExpr := s.entries.lookup marker

def size (s : Substitution) : Nat := s.entries.length

def insert (s : Substitution) (marker : String) (type : TypeExpr) : Substitution :=
  ⟨insertEntry marker type s.entries, insertEntry_ascending s.ascending⟩

/-- A marker stands for one type: binding it anew only succeeds with the type it has. -/
def bind? (s : Substitution) (marker : String) (type : TypeExpr) : Option Substitution :=
  match s.get? marker with
  | some bound => if bound = type then some s else none
  | none => some (s.insert marker type)

mutual

/-- Put the bound types in the place of their markers; other markers stay. -/
def apply (s : Substitution) : TypeExpr → TypeExpr
  | .named path args => .named path (applyAll s args)
  | .marker name => (s.get? name).getD (.marker name)
  | .tuple items => .tuple (applyAll s items)
  | .func target => .func (apply s target)
  | .lazy target => .lazy (apply s target)
  | .owned target => .owned (apply s target)
  | .collection kind element => .collection kind (apply s element)

def applyAll (s : Substitution) : List TypeExpr → List TypeExpr
  | [] => []
  | t :: ts => apply s t :: applyAll s ts

end

@[simp] theorem applyAll_eq_map (s : Substitution) (ts : List TypeExpr) :
    s.applyAll ts = ts.map s.apply := by
  induction ts with
  | nil => rfl
  | cons t ts ih => simp [applyAll, ih]

end Substitution

end Wiring
