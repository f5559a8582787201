import Mathlib
import Wiring.Proofs.Resolver.Making
import Wiring.Proofs.Resolver.Outcome

/-!
# Resolver — DepthLimit

What a higher depth limit changes in a build that reports no cut. The builder itself never meets its
limit there, so its run is also one under the higher limit. But a probe that meets the limit answers
no without a report, and then another constructor may be chosen.
-/

namespace Wiring

namespace Session

/-- A session with other things remembered. -/
def recalling (s : Session) (memo : ProbeMemo) : Session := { s with memo }

variable (s : Session) (memo : ProbeMemo)

theorem endures_recalling {s e : Session} {memo : ProbeMemo} (h : s.Endures e) :
    (s.recalling memo).Endures e := ⟨h.faces, h.diagnostics⟩

theorem autoBindingIndex_recalling (b : Binding) :
    (s.recalling memo).autoBindingIndex b =
      ((s.autoBindingIndex b).1, (s.autoBindingIndex b).2.recalling memo) := by
  have same : (s.recalling memo).synthesized = s.synthesized := rfl
  simp only [autoBindingIndex, same]
  split <;> rfl

theorem enterShape_recalling (kind : NodeKind) (id : NodeId) :
    (s.recalling memo).enterShape kind id = (s.enterShape kind id).recalling memo := by
  unfold enterShape
  split <;> rfl

end Session

def Opening.recalling (o : Opening) (memo : ProbeMemo) : Opening :=
  { o with inner := o.inner.recalling memo }

namespace Resolver

open Session

/-- The resolver with another depth limit. -/
def withMaxDepth (r : Resolver) (depth : Nat) : Resolver :=
  { r with options := { r.options with maxDepth := depth } }

variable {r : Resolver} {depth : Nat} {s s' e : Session} {ask : Ask} {target : Target} {o : Opening}
  {memo : ProbeMemo}

/-! ## Building under another limit -/

theorem itemParts_withMaxDepth (d : Demand) (element : TypeExpr) (id : NodeId) (index : Nat)
    (found : List Match) :
    (r.withMaxDepth depth).itemParts d element id index found
      = r.itemParts d element id index found := by
  induction found generalizing index with
  | nil => rfl
  | cons m more ih => exact congrArg (List.cons _) (ih (index + 1))

theorem shapeParts_withMaxDepth (r : Resolver) (depth : Nat) (d : Demand) (id : NodeId)
    (contract : TypeExpr) :
    (r.withMaxDepth depth).shapeParts d id contract = r.shapeParts d id contract := by
  cases contract with
  | collection => exact itemParts_withMaxDepth ..
  | named | marker | func | lazy | owned | tuple => rfl

theorem openShape_withMaxDepth (contract : TypeExpr) (d : Demand) (kind : NodeKind) (s : Session)
    (memo : ProbeMemo) :
    (r.withMaxDepth depth).openShape contract d kind (s.recalling memo)
      = (r.openShape contract d kind s).recalling memo := by
  have parts := shapeParts_withMaxDepth r depth d s.nextNode contract
  have inner := enterShape_recalling
    (s.addNode (shapeNode s.context contract d kind .transient)) memo kind s.nextNode
  exact congrArg₂ (Opening.mk _) parts inner

theorem Chooses.withMaxDepth {choice : Choice} (h : r.Chooses ask s choice s')
    (more : r.options.maxDepth ≤ depth) (memo : ProbeMemo) :
    (r.withMaxDepth depth).Chooses ask (s.recalling memo) choice (s'.recalling memo) := by
  cases h with
  | bound room lookup binding => exact .bound (Nat.lt_of_lt_of_le room more) lookup binding
  | @auto contract d _ b room unbound auto =>
    have index := autoBindingIndex_recalling (r.asked contract d s) memo b
    have chosen : (r.withMaxDepth depth).Chooses (.request contract d) (s.recalling memo)
        ⟨contract, .untagged,
          .auto (((r.asked contract d s).recalling memo).autoBindingIndex b).1, b, ∅⟩
        (((r.asked contract d s).recalling memo).autoBindingIndex b).2 :=
      .auto (Nat.lt_of_lt_of_le room more) unbound auto
    rw [index] at chosen
    exact chosen
  | candidate binding => exact .candidate binding

/-- What is settled without a cut is settled so under a higher limit. -/
theorem Settles.withMaxDepth (h : r.Settles ask s target s') (more : r.options.maxDepth ≤ depth)
    (uncut : r.Uncut s'.diagnostics) (memo : ProbeMemo) :
    (r.withMaxDepth depth).Settles ask (s.recalling memo) target (s'.recalling memo) := by
  cases h with
  | cut =>
    -- The one answer that rests on the limit is reported.
    exact absurd (List.mem_append_right _ List.mem_cons_self) (uncut _ _ _)
  | refused room unbound shape auto =>
    exact .refused (Nat.lt_of_lt_of_le room more) unbound shape auto
  | missing room lookup binding => exact .missing (Nat.lt_of_lt_of_le room more) lookup binding
  | lost binding => exact .lost binding
  | linked chosen link => exact .linked (chosen.withMaxDepth more memo) link
  | shared chosen link share => exact .shared (chosen.withMaxDepth more memo) link share
  | accumulated room lookup accumulator share =>
    exact .accumulated (Nat.lt_of_lt_of_le room more) lookup accumulator share

/-- A recipe depends on what is remembered by the constructor that is chosen. -/
theorem recipeOf_withMaxDepth {contract : TypeExpr} {b : Binding} {σ : Substitution}
    (memo : ProbeMemo) {memo' : ProbeMemo}
    (agrees : ∀ index d t, (r.recipeOf contract b σ memo).1.kind = .construct index →
      r.descriptorOf (r.recipeOf contract b σ memo).1.resultType = some (d, t) → d.isConcrete →
      index = ((r.withMaxDepth depth).selectConstructor d t memo').1.index) :
    ((r.withMaxDepth depth).recipeOf contract b σ memo').1 = (r.recipeOf contract b σ memo).1 := by
  have same (type : TypeExpr) : (r.withMaxDepth depth).descriptorOf type = r.descriptorOf type :=
    rfl
  cases made : b.implementation with
  | factory | argument => simp only [recipeOf, made]
  | type type =>
    cases described : r.descriptorOf (σ.apply type) with
    | none => simp only [recipeOf, made, same, described]
    | some found =>
      obtain ⟨d, t⟩ := found
      cases concrete : d.isConcrete with
      | false => simp [recipeOf, made, same, described, concrete]
      | true =>
        simp only [recipeOf, made, same, described, concrete, if_true] at agrees ⊢
        have index := agrees _ d t rfl rfl concrete
        simp only [sitesOf, ← index]

theorem Opens.withMaxDepth (h : r.Opens ask s o) (more : r.options.maxDepth ≤ depth)
    (memo : ProbeMemo)
    (agrees : ∀ index d t, o.node.kind = .construct index →
      r.descriptorOf o.node.resultType = some (d, t) → d.isConcrete →
      index = ((r.withMaxDepth depth).selectConstructor d t memo).1.index) :
    ∃ memo', (r.withMaxDepth depth).Opens ask (s.recalling memo) (o.recalling memo') := by
  cases h with
  | @bound _ _ choice s' chosen link share =>
    have recipe := recipeOf_withMaxDepth s'.memo agrees
    have opened := Opens.bound (chosen.withMaxDepth more memo) link share
    refine ⟨((r.withMaxDepth depth).recipeOf choice.contract choice.binding choice.substitution
      memo).2, ?_⟩
    have same : (r.withMaxDepth depth).openBound choice (s'.recalling memo) =
        (r.openBound choice s').recalling ((r.withMaxDepth depth).recipeOf choice.contract
          choice.binding choice.substitution memo).2 := by
      simp only [openBound, Opening.recalling]
      rw [← recipe]
      rfl
    exact same ▸ opened
  | accumulated room lookup accumulator share =>
    exact ⟨memo, .accumulated (Nat.lt_of_lt_of_le room more) lookup accumulator share⟩
  | @shape contract d _ kind room unbound shape =>
    refine ⟨memo, ?_⟩
    have opened : (r.withMaxDepth depth).Opens (.request contract d) (s.recalling memo) _ :=
      .shape (Nat.lt_of_lt_of_le room more) unbound shape
    exact openShape_withMaxDepth contract d kind (r.asked contract d s) memo ▸ opened

/-- The run of an uncut resolution is a run under a higher limit, if the constructors of the nodes
are those that are chosen there. -/
theorem Run.withMaxDepth {asks targets births} (h : r.Run asks s targets s' births)
    (more : r.options.maxDepth ≤ depth) (uncut : r.Uncut e.diagnostics)
    (chosen : (r.withMaxDepth depth).Chosen e.graph) (left : s.Leaves s' e)
    (keeps : (r.withMaxDepth depth).Keeps (s.recalling memo)) :
    ∃ memo', (r.withMaxDepth depth).Run asks (s.recalling memo) targets (s'.recalling memo')
      births := by
  induction h generalizing memo with
  | done => exact ⟨memo, .done⟩
  | settle settled rest ih =>
    have before := rest.leaves_first left
    have settled' := settled.withMaxDepth more
      (fun contract d name reported =>
        uncut contract d name (before.endures.diagnostics.mem reported)) memo
    obtain ⟨memo', rest'⟩ := ih ((Run.settle settled .done).leaves_rest left)
      (settled'.keeps keeps)
    exact ⟨memo', .settle settled' rest'⟩
  | @make ask s o inside s' births more' targets s'' births' opened parts rest ih ih' =>
    have first := Run.make opened parts .done
    have before := rest.leaves_first left
    have node := opened.node_of_leaves parts.extends before
    -- What is remembered under the higher limit can be told from the graph as well.
    have known : memo = (r.withMaxDepth depth).memoAfter
        ((r.withMaxDepth depth).selections (e.graph.nodes.take s.nextNode)) :=
      keeps.memo_eq (endures_recalling (first.endures.trans before.endures))
    obtain ⟨memo₁, opened'⟩ := opened.withMaxDepth more memo
      fun index d t kind described concrete => by
        rw [known]
        exact chosen _ _ index d t node kind described concrete
    obtain ⟨memo₂, parts'⟩ := ih (opened.leaves_inner before) (opened'.keeps keeps)
    have keeps' : (r.withMaxDepth depth).Keeps ((s'.close s.context s.nextNode
        (dependenciesOf o.node.kind o.parts inside)).recalling memo₂) :=
      keeps_close.2 (parts'.keeps (opened'.keeps keeps))
    obtain ⟨memo₃, rest'⟩ := ih' (first.leaves_rest left) keeps'
    have whole := Run.make opened' parts' rest'
    exact ⟨memo₃, whole⟩

/-- So is the resolution of all roots. -/
theorem resolveRoots_withMaxDepth (more : r.options.maxDepth ≤ depth) (found : List Diagnostic)
    (roots : List Root) (uncut : r.Uncut e.diagnostics)
    (chosen : (r.withMaxDepth depth).Chosen e.graph)
    (begins : Begins (r.resolveRoots (.begin found) roots) e) :
    ∃ memo, (r.withMaxDepth depth).resolveRoots (.begin found) roots
        = (r.resolveRoots (.begin found) roots).recalling memo ∧
      (r.withMaxDepth depth).Keeps ((r.resolveRoots (.begin found) roots).recalling memo) := by
  obtain ⟨_, -, same⟩ := resolveRoots_induction (r := r) found
    (motive := fun roots _ => Begins (r.resolveRoots (.begin found) roots) e →
      ∃ memo, (r.withMaxDepth depth).resolveRoots (.begin found) roots
          = (r.resolveRoots (.begin found) roots).recalling memo ∧
        (r.withMaxDepth depth).Keeps ((r.resolveRoots (.begin found) roots).recalling memo))
    (fun _ => ⟨[], rfl, rfl⟩)
    (fun roots _ root target s' _ _ ih run whole begins => by
      rw [whole] at begins ⊢
      obtain ⟨memo, same, keeps⟩ := ih (run.begins_root begins)
      obtain ⟨memo', run'⟩ := run.withMaxDepth more uncut chosen (leaves_root begins) keeps
      obtain ⟨_, resolved⟩ := resolve_run (r := r.withMaxDepth depth) (Nat.zero_add depth)
        root.contract (.ofRoot root)
        (((r.resolveRoots (.begin found) roots).enterRoot root roots.length).recalling memo) rfl
      -- Both are runs for the same request, and there is one only.
      obtain ⟨isTarget, isSession⟩ := run'.unique resolved
      refine ⟨memo', ?_, run'.keeps keeps⟩
      rw [resolveRoots_concat, same]
      exact congrArg₂ (fun target s => Session.leaveRoot s ⟨root, target⟩)
        (List.head_eq_of_cons_eq isTarget) isSession) roots
  exact same begins

/-- An uncut build is the same under a higher limit, if the constructors of its nodes are those that
are chosen there. -/
theorem build_withMaxDepth (more : r.options.maxDepth ≤ depth) (found : List Diagnostic)
    (roots : List Root) (uncut : r.Uncut (r.build found roots).2)
    (chosen : (r.withMaxDepth depth).Chosen (r.build found roots).1) :
    (r.withMaxDepth depth).build found roots = r.build found roots := by
  have uncut' : r.Uncut (r.resolveRoots (.begin found) roots).diagnostics :=
    fun contract d name reported => uncut contract d name (List.mem_append_left _ reported)
  obtain ⟨memo, same, -⟩ := resolveRoots_withMaxDepth more found roots uncut' chosen (.refl _)
  rw [build, same]
  rfl

/-! ## Probing with more room -/

/-- Two probers give the same answer to a request, and remember the same. -/
def Alike (probe probe' : Prober) (q : Query) : Prop :=
  ∀ memo, probe q.contract q.tag q.path memo = probe' q.contract q.tag q.path memo

section Alike

variable {probe probe' : Prober} {d : Descriptor} {t : Substitution} {consumer : TypeExpr}

theorem countResolvable_congr {params : List Site}
    (alike : ∀ p ∈ params, Alike probe probe' (paramQuery t consumer p)) (memo : ProbeMemo) :
    countResolvable probe t consumer params memo
      = countResolvable probe' t consumer params memo := by
  induction params generalizing memo with
  | nil => rfl
  | cons p more ih =>
    obtain ⟨first, rest⟩ := List.forall_mem_cons.1 alike
    have step := countResolvable_cons probe t consumer p more memo
    have step' := countResolvable_cons probe' t consumer p more memo
    dsimp only at step step'
    rw [step, step', first, ih rest]

theorem scoreAll_congr {constructors : List (Constructor × Nat)}
    (alike : ∀ c ∈ constructors, ∀ p ∈ c.1.params, Alike probe probe' (paramQuery t consumer p))
    (memo : ProbeMemo) :
    scoreAll probe t consumer constructors memo = scoreAll probe' t consumer constructors memo := by
  induction constructors generalizing memo with
  | nil => rfl
  | cons c more ih =>
    obtain ⟨first, rest⟩ := List.forall_mem_cons.1 alike
    simp only [scoreAll, countResolvable_congr first, ih rest]

theorem selectWith_congr (alike : ∀ q ∈ r.paramQueries d t, Alike probe probe' q)
    (memo : ProbeMemo) :
    (r.withMaxDepth depth).selectWith probe d t memo = r.selectWith probe' d t memo := by
  have asked : ∀ c ∈ d.considered r.options.parameterlessFallback, ∀ p ∈ c.1.params,
      Alike probe probe' (paramQuery t (t.apply d.type) p) :=
    fun c mem p mem' => alike _ (List.mem_flatMap.2 ⟨c, mem, List.mem_map_of_mem mem'⟩)
  have scores := scoreAll_congr asked memo
  rw [selectWith, selectWith, ← scores]
  rfl

theorem probeAll_congr {probe probe' : TypeExpr → ProbeMemo → Bool × ProbeMemo}
    {items : List TypeExpr} (alike : ∀ item ∈ items, ∀ memo, probe item memo = probe' item memo)
    (memo : ProbeMemo) : probeAll probe items memo = probeAll probe' items memo := by
  induction items generalizing memo with
  | nil => rfl
  | cons item more ih =>
    obtain ⟨first, rest⟩ := List.forall_mem_cons.1 alike
    simp only [probeAll, first, ih rest]

end Alike

variable {room room' : Nat} {Q : Question}

theorem alike_of_ask {r' : Resolver} {visiting : List TypeExpr} {q : Query}
    (same : ∀ memo, r'.ask room' ⟨visiting, q⟩ memo = r.ask room ⟨visiting, q⟩ memo) :
    Alike (r'.probe room' visiting) (r.probe room visiting) q := by
  intro memo
  have probed := same memo
  rw [ask, ask] at probed
  exact probed

/-- A question about a type is answered the same when the questions about its parameters are. -/
theorem ask_type_withMaxDepth
    (next : ∀ Q' ∈ r.subquestions Q, ∀ memo,
      (r.withMaxDepth depth).ask room' Q' memo = r.ask room Q' memo)
    (unbound : r.isBound Q.query = false) (named : Q.query.contract.isNamed) (memo : ProbeMemo) :
    (r.withMaxDepth depth).ask (room' + 1) Q memo = r.ask (room + 1) Q memo := by
  rw [ask_named unbound named, ask_named (r := r.withMaxDepth depth) unbound named]
  cases memo.lookup Q.query.contract with
  | some known => rfl
  | none =>
    dsimp only
    by_cases visited : Q.query.contract ∈ Q.visiting
    · rw [if_pos visited, if_pos visited]
    rw [if_neg visited, if_neg visited]
    cases auto : r.autoBinding Q.query.contract with
    | none =>
      have auto' : (r.withMaxDepth depth).autoBinding Q.query.contract = none := auto
      simp only [auto', Option.isNone_none, if_true]
    | some b =>
      obtain ⟨d, t, described, -⟩ := descriptorOf_of_autoBinding auto
      have auto' : (r.withMaxDepth depth).autoBinding Q.query.contract = some b := auto
      have described' : (r.withMaxDepth depth).descriptorOf Q.query.contract = some (d, t) :=
        described
      have isAuto : (r.autoBinding Q.query.contract).isSome := by rw [auto]; rfl
      have alike : ∀ q ∈ r.paramQueries d t,
          Alike ((r.withMaxDepth depth).probe room' (Q.query.contract :: Q.visiting))
            (r.probe room (Q.query.contract :: Q.visiting)) q := fun q mem =>
        alike_of_ask (next _
          (mem_subquestions_of_param unbound named visited isAuto described mem))
      simp only [auto', described, described', selectWith_congr alike]

/-- What is asked within the limit is answered the same with more room. -/
theorem ask_withMaxDepth (depth : Nat) (within : r.Within (fun _ => True) room Q)
    (more : room ≤ room') (memo : ProbeMemo) :
    (r.withMaxDepth depth).ask room' Q memo = r.ask room Q memo := by
  induction room generalizing Q room' memo with
  | zero => exact within.elim
  | succ room ih =>
    obtain ⟨room', rfl⟩ := Nat.exists_eq_succ_of_ne_zero (Nat.ne_zero_of_lt more)
    have next : ∀ Q' ∈ r.subquestions Q, ∀ memo,
        (r.withMaxDepth depth).ask room' Q' memo = r.ask room Q' memo :=
      fun Q' sub => ih (within.2 Q' sub) (Nat.le_of_succ_le_succ more)
    cases bound : r.isBound Q.query with
    | true => rw [ask_bound bound, ask_bound (r := r.withMaxDepth depth) bound]
    | false =>
      cases shape : Q.query.contract with
      | collection =>
        rw [ask_collection bound shape, ask_collection (r := r.withMaxDepth depth) bound shape]
      | marker => rw [ask_marker bound shape, ask_marker (r := r.withMaxDepth depth) bound shape]
      | func target | lazy target | owned target =>
        have wrapped : Q.query.contract.wrapped? = some target := by rw [shape]; rfl
        rw [ask_wrapped bound wrapped, ask_wrapped (r := r.withMaxDepth depth) bound wrapped]
        exact next _ (mem_subquestions_of_wrapped bound wrapped) memo
      | tuple items =>
        rw [ask_tuple bound shape, ask_tuple (r := r.withMaxDepth depth) bound shape]
        exact probeAll_congr
          (fun item mem => next _ (mem_subquestions_of_tuple bound shape mem)) memo
      | named path args => exact ask_type_withMaxDepth next bound (by rw [shape]; rfl) memo

/-- All that a call asks is asked within the limit. -/
def Fits (r : Resolver) (call : ProbeCall) : Prop := call.Asks r (r.Within fun _ => True)

instance Fits.decidable (r : Resolver) (call : ProbeCall) : Decidable (r.Fits call) :=
  inferInstanceAs (Decidable (call.Asks r (r.Within fun _ => True)))

/-- A choice that fits is the same under a higher limit, and so is what it leaves behind. -/
theorem selectConstructor_withMaxDepth {d : Descriptor} {t : Substitution}
    (fits : r.Fits (.select d t)) (more : r.options.maxDepth ≤ depth) (memo : ProbeMemo) :
    (r.withMaxDepth depth).selectConstructor d t memo = r.selectConstructor d t memo :=
  selectWith_congr (fun q mem => alike_of_ask (ask_withMaxDepth depth (fits q mem) more)) memo

theorem remember_withMaxDepth {call : ProbeCall} (fits : r.Fits call)
    (more : r.options.maxDepth ≤ depth) (memo : ProbeMemo) :
    call.remember (r.withMaxDepth depth) memo = call.remember r memo := by
  cases call with
  | select d t => exact congrArg Prod.snd (selectConstructor_withMaxDepth fits more memo)
  | resolve q =>
    have alike := alike_of_ask (ask_withMaxDepth depth fits (Nat.succ_le_succ more))
    exact congrArg Prod.snd (alike memo)

theorem memoAfter_withMaxDepth {calls : List ProbeCall} (fits : ∀ call ∈ calls, r.Fits call)
    (more : r.options.maxDepth ≤ depth) :
    (r.withMaxDepth depth).memoAfter calls = r.memoAfter calls :=
  List.foldl_ext _ _ _ fun memo _ mem => remember_withMaxDepth (fits _ mem) more memo

/-- What was chosen under the limit is chosen under a higher one, when all that was asked fits. -/
theorem Chosen.withMaxDepth {g : Graph} (h : r.Chosen g) (more : r.options.maxDepth ≤ depth)
    (fits : ∀ call ∈ r.selections g.nodes, r.Fits call) : (r.withMaxDepth depth).Chosen g := by
  intro id n index d t node kind described concrete
  have own : ProbeCall.select d t ∈ r.selections g.nodes := by
    refine List.mem_filterMap.2 ⟨n, List.mem_of_getElem? node, ?_⟩
    have described' : r.descriptorOf n.resultType = some (d, t) := described
    simp only [kind, selection?, described', concrete, if_true]
  have earlier : ∀ call ∈ r.selections (g.nodes.take id), r.Fits call := fun call mem => by
    obtain ⟨n, mem', select⟩ := List.mem_filterMap.1 mem
    exact fits call (List.mem_filterMap.2 ⟨n, List.mem_of_mem_take mem', select⟩)
  have same : (r.withMaxDepth depth).selectConstructor d t
      ((r.withMaxDepth depth).memoAfter ((r.withMaxDepth depth).selections (g.nodes.take id))) =
        r.selectConstructor d t (r.memoAfter (r.selections (g.nodes.take id))) := by
    rw [selectConstructor_withMaxDepth (fits _ own) more]
    exact congrArg _ (memoAfter_withMaxDepth earlier more)
  rw [same]
  exact h id n index d t node kind described concrete

/-- Under a higher limit, a build that reports no cut gives the same graph just when every
constructor that was chosen is still the one to choose. This is so, and the reports are the same as
well, when all that was asked to choose them fits the limit. -/
theorem build_sameWhenDeeper (r : Resolver) (found : List Diagnostic) (roots : List Root)
    {depth : Nat} (more : r.options.maxDepth ≤ depth) (uncut : r.Uncut (r.build found roots).2) :
    let g := (r.build found roots).1
    (((r.withMaxDepth depth).build found roots).1 = g ↔ (r.withMaxDepth depth).Chosen g) ∧
      ((∀ call ∈ r.selections g.nodes, r.Fits call) →
        (r.withMaxDepth depth).build found roots = r.build found roots) := by
  intro g
  refine ⟨⟨fun same => ?_, fun chosen => ?_⟩, fun fits => ?_⟩
  · rw [← same]
    exact build_chosen _ found roots
  · rw [build_withMaxDepth more found roots uncut chosen]
  · exact build_withMaxDepth more found roots uncut
      ((build_chosen r found roots).withMaxDepth more fits)

/-! ## Gifts

A gift can be empty, or be made for a toy that is wrapped twice. A probe counts both wrappers
against the limit, the builder neither.
-/

def gift : TypeExpr := .named "Gift" []

def toy : TypeExpr := .named "Toy" []

def giftDescriptor : Descriptor :=
  { Descriptor.concrete gift with
    constructors := [⟨true, none, []⟩, ⟨true, none, [.parameter "content" (.lazy (.lazy toy))]⟩] }

def gifts (maxDepth : Nat) : Resolver where
  registry := .empty ⟨[giftDescriptor, .concrete toy]⟩ .structural
  options := { Options.standard with maxDepth }
  accumulators := []
  autoBinds := true
  filter := none

abbrev giftBuild (maxDepth : Nat) : Graph × List Diagnostic :=
  (gifts maxDepth).build [] [.untagged "main" gift]

theorem giftBuild_facts :
    (giftBuild 2).2 = [] ∧ (giftBuild 2).1.nodes.length = 1 ∧
    (giftBuild 3).2 = [] ∧ (giftBuild 3).1.nodes.length = 4 ∧
    (gifts 3).selections (giftBuild 3).1.nodes
      = [.select giftDescriptor ∅, .select (.concrete toy) ∅] := by
  cbv

/-- What is asked of a part of the content. -/
def contentQuery (part : TypeExpr) : Query := ⟨part, none, some "Gift.ctor:content"⟩

theorem gifts_asked :
    (gifts 3).paramQueries giftDescriptor ∅ = [contentQuery (.lazy (.lazy toy))] ∧
    (gifts 3).subquestions ⟨[gift], contentQuery (.lazy (.lazy toy))⟩
      = [⟨[gift], contentQuery (.lazy toy)⟩] ∧
    (gifts 3).subquestions ⟨[gift], contentQuery (.lazy toy)⟩ = [⟨[gift], contentQuery toy⟩] ∧
    (gifts 3).subquestions ⟨[gift], contentQuery toy⟩ = [] ∧
    (gifts 3).paramQueries (.concrete toy) ∅ = [] := by
  cbv

theorem gifts_fit : (gifts 3).Fits (.select giftDescriptor ∅) ∧
    (gifts 3).Fits (.select (.concrete toy) ∅) := by
  obtain ⟨content, outer, inner, last, none⟩ := gifts_asked
  have toyFits : (gifts 3).Within (fun _ => True) 1 ⟨[gift], contentQuery toy⟩ :=
    ⟨trivial, last ▸ nofun⟩
  have innerFits : (gifts 3).Within (fun _ => True) 2 ⟨[gift], contentQuery (.lazy toy)⟩ :=
    ⟨trivial, inner ▸ List.forall_mem_singleton.2 toyFits⟩
  have outerFits : (gifts 3).Within (fun _ => True) 3 ⟨[gift], contentQuery (.lazy (.lazy toy))⟩ :=
    ⟨trivial, outer ▸ List.forall_mem_singleton.2 innerFits⟩
  refine ⟨?_, ?_⟩
  · rw [Fits, ProbeCall.Asks, content, List.forall_mem_singleton]
    exact outerFits
  · rw [Fits, ProbeCall.Asks, none]
    exact fun _ mem => nomatch mem

theorem build_sameWhenDeeper_gifts : giftBuild 100 = giftBuild 3 := by
  obtain ⟨-, -, silent, -, selections⟩ := giftBuild_facts
  refine (build_sameWhenDeeper (gifts 3) [] [.untagged "main" gift] (by decide)
    (uncut_of_nil silent)).2 ?_
  rw [selections]
  exact List.forall_mem_cons.2 ⟨gifts_fit.1, List.forall_mem_singleton.2 gifts_fit.2⟩

/-- With room for two links the toy is left out, and nothing is said about it. -/
theorem gifts_leftOut : ¬ ∀ depth, 2 < depth → (gifts 2).Uncut (giftBuild 2).2 →
    (((gifts 2).withMaxDepth depth).build [] [.untagged "main" gift]).1 = (giftBuild 2).1 := by
  intro claim
  obtain ⟨silent, empty, -, full, -⟩ := giftBuild_facts
  have same : (giftBuild 3).1 = (giftBuild 2).1 := claim 3 (by decide) (uncut_of_nil silent)
  rw [same, empty] at full
  nomatch full

end Resolver

end Wiring
