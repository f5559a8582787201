import Std.Data.String.ToInt
import Wiring.Proofs.Graph.Cycles
import Wiring.Proofs.Tag
import Wiring.Proofs.TypeExpr.Parentheses

/-!
# Graph — Names

What the name of a node tells. The name is the text of the contract, followed by the tag in
parentheses, and both can be told from it when they are written as they are read. So cycles with
the same names are cycles of the same requests, and none is lost when each is reported once.
-/

namespace Wiring

/-! ## Lists of patterns -/

theorem intercalate_spaced (first : List Char) (more : List (List Char)) :
    [',', ' '].intercalate (first :: more) = [','].intercalate (first :: more.map (' ' :: ·)) := by
  induction more generalizing first with
  | nil => rfl
  | cons second more ih =>
    rw [List.map_cons, List.intercalate_cons_cons, List.intercalate_cons_cons, ih]
    cases more <;> simp

theorem trimBlank_space (cs : List Char) : Text.trimBlank (' ' :: cs) = Text.trimBlank cs := by
  rw [Text.trimBlank_eq, Text.trimBlank_eq, List.dropWhile_cons_of_pos (by decide)]

/-- Patterns that are shown one after the other can be told apart. -/
theorem tagPatterns_intercalate_spaced {patterns : List String} (nonempty : patterns ≠ [])
    (each : ∀ pattern ∈ patterns, IsPattern pattern) :
    tagPatterns (", ".intercalate patterns).toList = patterns := by
  obtain ⟨first, more, rfl⟩ := List.exists_cons_of_ne_nil nonempty
  refine tagPatterns_of_pieces each ?_
  have cut : Text.pieces (· = ',') (", ".intercalate (first :: more)).toList =
      first.toList :: (more.map String.toList).map (' ' :: ·) := by
    rw [Text.pieces_eq_splitOnP, String.toList_intercalate]
    refine (congrArg _ (intercalate_spaced _ _)).trans (List.splitOn_intercalate ',' ?_ nofun)
    obtain ⟨plain, later⟩ := List.forall_mem_cons.1 each
    refine List.forall_mem_cons.2 ⟨plain.noComma, List.forall_mem_map.2 <|
      List.forall_mem_map.2 fun pattern mem comma => (later pattern mem).noComma ?_⟩
    simpa using comma
  rw [cut, List.map_cons, List.map_map, List.map_map, List.map_cons]
  have trimmed (pattern : String) (mem : pattern ∈ first :: more) :=
    (each pattern mem).trimmed.trimBlank_eq
  refine congrArg₂ List.cons (trimmed first List.mem_cons_self) ?_
  refine List.map_congr_left fun pattern mem => ?_
  exact (trimBlank_space _).trans (trimmed pattern (List.mem_cons_of_mem _ mem))

namespace TagKey

/-! ## Labels of tags -/

/-- A key that its label stands for. -/
def IsNotated : TagKey → Prop
  | .value (.type t) => TypeExpr.parse t.text = .ok t
  | .on patterns => patterns ≠ [] ∧ ∀ pattern ∈ patterns, IsPattern pattern
  | .untagged | .value _ | .any | .type | .unique _ => True

/-- What the label of a key begins with; numbers begin in several ways. -/
def initial : TagKey → Option Char
  | .untagged => some '<'
  | .value (.text _) => some '"'
  | .value (.number _) => none
  | .value (.type _) => some 't'
  | .any => some '*'
  | .type => some 'T'
  | .on _ => some 'o'
  | .unique _ => some 'U'

def initialOf (c : Char) : Option Char := if c = '-' ∨ c.isDigit then none else some c

theorem initialOf_repr (n : Nat) : n.repr.toList.head?.map initialOf = some none := by
  rw [Nat.repr_eq_ofList_toDigits, String.toList_ofList]
  obtain ⟨c, cs, digits⟩ := List.exists_cons_of_ne_nil (Nat.toDigits_ne_nil (n := n) (b := 10))
  have digit : c.isDigit :=
    Nat.isDigit_of_mem_toDigits (by decide) (by decide) (digits ▸ List.mem_cons_self)
  rw [digits, List.head?_cons, Option.map_some, initialOf, if_pos (.inr digit)]

theorem initialOf_label (k : TagKey) : k.label.toList.head?.map initialOf = some k.initial := by
  cases k with
  | untagged | any | type => rfl
  | on patterns => simp [label, initialOf, initial]
  | unique n => simp [label, initialOf, initial]
  | value v =>
    cases v with
    | text t => simp [label, TagValue.label, initialOf, initial]
    | type t => simp [label, TagValue.label, initialOf, initial]
    | number n =>
      rw [label, TagValue.label, Int.toString_eq_repr, Int.repr_eq_if]
      split
      · exact initialOf_repr _
      · simp [initialOf, initial]

/-- Keys with the same label are the same. -/
theorem IsNotated.label_inj {k k' : TagKey} (h : k.IsNotated) (h' : k'.IsNotated)
    (same : k.label = k'.label) : k = k' := by
  have initials : k.initial = k'.initial := by
    have read := initialOf_label k
    rw [same, initialOf_label k'] at read
    exact (Option.some.inj read).symm
  -- Keys of different forms begin differently, so both are of one form.
  rcases k with _ | ⟨t | n | t⟩ | _ | _ | patterns | n <;>
    rcases k' with _ | ⟨t' | n' | t'⟩ | _ | _ | patterns' | n' <;>
    first | rfl | (simp [initial] at initials; done) | skip
  case value.text.value.text =>
    simp only [label, TagValue.label, String.append_left_inj, String.append_right_inj] at same
    rw [same]
  case value.number.value.number =>
    rw [Int64.toInt_inj.1 (Int.repr_inj.1 same)]
  case value.type.value.type =>
    simp only [label, TagValue.label, String.append_left_inj, String.append_right_inj] at same
    have wellFormed := TypeExpr.wellFormed_of_parse h
    rw [wellFormed.text_inj (TypeExpr.wellFormed_of_parse h') same]
  case on.on =>
    simp only [label, String.append_left_inj, String.append_right_inj] at same
    obtain ⟨nonempty, each⟩ := h
    obtain ⟨nonempty', each'⟩ := h'
    have read := tagPatterns_intercalate_spaced nonempty each
    rw [same, tagPatterns_intercalate_spaced nonempty' each'] at read
    rw [read]
  case unique.unique =>
    simp only [label, String.append_right_inj] at same
    rw [Nat.repr_inj.1 same]

/-- What a key adds to the name of a node. -/
def suffix (k : TagKey) : String := if k = .untagged then "" else "(" ++ k.label ++ ")"

theorem suffix_opens (k : TagKey) : ∀ c ∈ k.suffix.toList.head?, c = '(' := by
  rw [suffix]
  split <;> simp

theorem IsNotated.suffix_inj {k k' : TagKey} (h : k.IsNotated) (h' : k'.IsNotated)
    (same : k.suffix = k'.suffix) : k = k' := by
  rw [suffix, suffix] at same
  split at same <;> split at same
  · next untagged untagged' => rw [untagged, untagged']
  · simp [← String.toList_inj] at same
  · simp [← String.toList_inj] at same
  · exact h.label_inj h' (by simpa using same)

end TagKey

/-! ## Names of nodes -/

namespace Node

/-- The contract and the tag of a node are written as they are read. -/
structure IsNotated (n : Node) : Prop where
  contract : TypeExpr.parse n.contract.text = .ok n.contract
  tag : n.tag.IsNotated

theorem label_eq (n : Node) : n.label = n.contract.text ++ n.tag.suffix := by
  rw [label, TagKey.suffix]
  split
  · rw [String.append_empty]
  · rw [String.append_assoc, String.append_assoc, String.append_assoc]

variable {n n' : Node}

theorem IsNotated.label_inj (h : n.IsNotated) (h' : n'.IsNotated) (same : n.label = n'.label) :
    n.contract = n'.contract ∧ n.tag = n'.tag := by
  rw [label_eq, label_eq] at same
  obtain ⟨contracts, suffixes⟩ := (TypeExpr.wellFormed_of_parse h.contract).text_append_inj
    (TypeExpr.wellFormed_of_parse h'.contract) n.tag.suffix_opens n'.tag.suffix_opens same
  exact ⟨contracts, h.tag.suffix_inj h'.tag suffixes⟩

theorem IsNotated.label_ne_empty (h : n.IsNotated) : n.label ≠ "" := by
  have text := (TypeExpr.wellFormed_of_parse h.contract).text_ne_empty
  rw [label_eq, ne_eq, String.append_eq_empty_iff]
  exact fun empty => text empty.1

end Node

/-! ## Cycles with the same names -/

namespace Graph

/-- What the node was requested by. -/
def requestOf? (g : Graph) (id : NodeId) : Option (TypeExpr × TagKey) :=
  (g.node? id).map fun n => (n.contract, n.tag)

/-- What is in the graph is written as it is read. -/
def IsNotated (g : Graph) : Prop := ∀ n ∈ g.nodes, n.IsNotated

variable {g : Graph} {c c' : List NodeId}

theorem nameOf_factors (g : Graph) : Function.FactorsThrough g.nameOf g.requestOf? := by
  intro id id' same
  rw [requestOf?, requestOf?] at same
  rw [nameOf, nameOf]
  cases found : g.node? id with
  | none =>
    rw [found, Option.map_none, eq_comm, Option.map_eq_none_iff] at same
    rw [same]
  | some n =>
    rw [found, Option.map_some, eq_comm, Option.map_eq_some_iff] at same
    obtain ⟨n', found', same⟩ := same
    obtain ⟨contracts, tags⟩ := Prod.mk.inj same
    rw [found']
    simp only [Node.label, contracts, tags]

theorem IsNotated.requestOf_factors (h : g.IsNotated) :
    Function.FactorsThrough g.requestOf? g.nameOf := by
  have notated {id : NodeId} {n : Node} (found : g.node? id = some n) : n.IsNotated :=
    h n (List.mem_of_getElem? found)
  intro id id' same
  rw [nameOf, nameOf] at same
  rw [requestOf?, requestOf?]
  cases found : g.node? id with
  | none =>
    cases found' : g.node? id' with
    | none => rfl
    | some n' =>
      rw [found, found'] at same
      exact absurd same.symm (notated found').label_ne_empty
  | some n =>
    cases found' : g.node? id' with
    | none =>
      rw [found, found'] at same
      exact absurd same (notated found).label_ne_empty
    | some n' =>
      rw [found, found'] at same
      obtain ⟨contracts, tags⟩ := (notated found).label_inj (notated found') same
      rw [Option.map_some, Option.map_some, contracts, tags]

theorem map_eq_of_factors {α β γ : Type} [Inhabited γ] {f : α → β} {g : α → γ}
    (factors : Function.FactorsThrough g f) {l l' : List α} (same : l.map f = l'.map f) :
    l.map g = l'.map g := by
  have through (l : List α) : l.map g = (l.map f).map (Function.extend f g default) := by
    rw [List.map_map]
    exact List.map_congr_left fun a _ => (factors.extend_apply default a).symm
  rw [through, through, same]

/-- The names of every cycle are those of one that is kept. -/
theorem exists_distinctByName (seen : List (List String)) (cs : List (List NodeId)) :
    ∀ c ∈ cs, c.map g.nameOf ∈ seen ∨
      ∃ c' ∈ g.distinctByName seen cs, c'.map g.nameOf = c.map g.nameOf := by
  induction cs generalizing seen with
  | nil => nofun
  | cons first cs ih =>
    rw [distinctByName]
    split
    · next old => exact List.forall_mem_cons.2 ⟨.inl old, ih seen⟩
    · refine List.forall_mem_cons.2 ⟨.inr ⟨first, List.mem_cons_self, rfl⟩, fun c mem => ?_⟩
      rcases ih _ c mem with known | ⟨c', kept, same⟩
      · rcases List.mem_cons.1 known with same | old
        · exact .inr ⟨first, List.mem_cons_self, same.symm⟩
        · exact .inl old
      · exact .inr ⟨c', List.mem_cons_of_mem _ kept, same⟩

/-- The contract and the tag of a node can be told from its name. So of the cycles that are closed,
those with the same names are those of the same requests, and one of them is reported. -/
theorem label_identifies_request :
    (∀ n n' : Node, n.IsNotated → n'.IsNotated → n.label = n'.label →
      n.contract = n'.contract ∧ n.tag = n'.tag) ∧
    ∀ g : Graph, g.IsNotated →
      (∀ c c' : List NodeId,
        c.map g.nameOf = c'.map g.nameOf ↔ c.map g.requestOf? = c'.map g.requestOf?) ∧
      (∀ c ∈ g.closedCycles, ∃ c' ∈ g.distinctCycles,
        c'.map g.requestOf? = c.map g.requestOf?) ∧
      g.distinctCycles.Pairwise fun c c' => c.map g.requestOf? ≠ c'.map g.requestOf? := by
  refine ⟨fun _ _ h h' => h.label_inj h', fun g h => ?_⟩
  have same_iff (c c' : List NodeId) :
      c.map g.nameOf = c'.map g.nameOf ↔ c.map g.requestOf? = c'.map g.requestOf? :=
    ⟨map_eq_of_factors h.requestOf_factors, map_eq_of_factors g.nameOf_factors⟩
  refine ⟨same_iff, fun c closed => ?_, ?_⟩
  · rcases exists_distinctByName [] g.closedCycles c closed with known | ⟨c', kept, same⟩
    · nomatch known
    · exact ⟨c', kept, (same_iff c' c).1 same⟩
  · refine (distinctByName_pairwise [] g.closedCycles).imp fun differ same => ?_
    exact differ ((same_iff _ _).2 same)

/-! ### Tagged peers -/

/-- Three pairs of peers, the first of each with the given tag. -/
def taggedPeers (tags : List TagKey) : Graph :=
  let g := peers [(1, false), (0, false), (3, false), (2, false), (5, false), (4, false)]
  { g with nodes := g.nodes.mapIdx fun id n =>
      if id % 2 = 0 then { n with tag := tags.getD (id / 2) .untagged } else n }

/-- A text and a number that are spelled alike make different names, so of the three pairs two are
reported. -/
theorem label_identifies_request_peers :
    let one : TagKey := .value (.number 1)
    let text : TagKey := .value (.text "1")
    let g := taggedPeers [one, text, one]
    g.IsNotated ∧ g.closedCycles.length = 3 ∧ g.distinctCycles.length = 2 ∧
      (∀ c ∈ g.closedCycles, ∃ c' ∈ g.distinctCycles,
        c'.map g.requestOf? = c.map g.requestOf?) ∧
      ∀ n ∈ g.nodes, ∀ n' ∈ g.nodes, n.label = n'.label →
        n.contract = n'.contract ∧ n.tag = n'.tag := by
  intro one text g
  have plain : TypeExpr.parse "IPeer" = .ok (.named "IPeer" []) := rfl
  have each : ∀ n ∈ g.nodes, n.contract = .named "IPeer" [] ∧ n.tag ∈ [.untagged, one, text] := by
    decide
  have notated : g.IsNotated := fun n mem => by
    obtain ⟨contract, tag⟩ := each n mem
    have noted : ∀ k ∈ [.untagged, one, text], k.IsNotated := by simp [one, text, TagKey.IsNotated]
    exact ⟨contract ▸ plain, noted n.tag tag⟩
  have closed : g.closedCycles.length = 3 := by cbv
  have distinct : g.distinctCycles.length = 2 := by cbv
  obtain ⟨-, kept, -⟩ := label_identifies_request.2 g notated
  refine ⟨notated, closed, distinct, kept, fun n mem n' mem' => ?_⟩
  exact label_identifies_request.1 n n' (notated n mem) (notated n' mem')

end Graph

end Wiring
