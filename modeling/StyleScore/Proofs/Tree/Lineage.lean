import StyleScore.Proofs.Selector.Nesting
import StyleScore.Proofs.Tree.Chain
import StyleScore.Tree.Forest

/-!
Style rules around style rules. The completed selector of a rule comes from those of the style rules
among its parents alone, completed one after another from the outermost one inwards
(`resolved_eq_completed`), and for plain selectors its specificity is the sum of theirs
(`specificity_resolved`).
-/
namespace StyleScore.Forest

open Selector (IsPlain parse)

/-! ### The parents of a node -/

def IsParent (forest : Forest) (id parent : NodeId) : Prop := forest.parent? id = some parent

/-- The parents of a node, nearest first, up to one that has none. -/
inductive Climb (forest : Forest) : NodeId → List NodeId → Prop where
  | top {id : NodeId} (free : forest.parent? id = none) : Climb forest id []
  | up {id parent : NodeId} {parents : List NodeId} (up : forest.parent? id = some parent)
      (rest : Climb forest parent parents) : Climb forest id (parent :: parents)

theorem lt_size_of_isParent {forest : Forest} (id parent : Nat) (up : forest.IsParent id parent) :
    id < forest.size := by
  obtain ⟨node, found, -⟩ := Option.bind_eq_some_iff.1 up
  exact (Array.getElem?_eq_some_iff.1 found).1

section Climbing

variable {forest : Forest} {id : NodeId} {parents : List NodeId}

theorem Climb.next {parent : NodeId} (climb : Climb forest id parents)
    (up : forest.IsParent id parent) :
    ∃ rest, parents = parent :: rest ∧ Climb forest parent rest := by
  cases climb with
  | top free => cases free.symm.trans up
  | up own rest =>
    cases own.symm.trans up
    exact ⟨_, rfl, rest⟩

theorem Climb.isChain (climb : Climb forest id parents) :
    (id :: parents).IsChain forest.IsParent := by
  induction climb with
  | top => exact .singleton _
  | up up _ ih => exact .cons_cons up ih

theorem Climb.unique {others : List NodeId} (climb : Climb forest id parents)
    (climbToo : Climb forest id others) :
    parents = others := by
  induction climb generalizing others with
  | top free =>
    cases climbToo with
    | top => rfl
    | up up => cases free.symm.trans up
  | up up _ ih =>
    obtain ⟨rest, rfl, further⟩ := climbToo.next up
    rw [ih further]

/-- Further up there are fewer parents. -/
theorem Climb.length_lt {above : NodeId} (climb : Climb forest id parents)
    (path : Relation.TransGen forest.IsParent id above) :
    ∃ rest, Climb forest above rest ∧ rest.length < parents.length := by
  induction path with
  | single up =>
    obtain ⟨rest, rfl, further⟩ := climb.next up
    exact ⟨rest, further, Nat.lt_succ_self _⟩
  | tail _ up ih =>
    obtain ⟨middle, between, fewer⟩ := ih
    obtain ⟨rest, rfl, further⟩ := between.next up
    exact ⟨rest, further, Nat.lt_trans (Nat.lt_succ_self _) fewer⟩

/-- Where the parents come to an end, there is no cycle among them. -/
theorem Climb.acyclicFrom (climb : Climb forest id parents) : AcyclicFrom forest.IsParent id := by
  have no_cycle {above : NodeId} {rest : List NodeId} (climb : Climb forest above rest) :
      ¬ Relation.TransGen forest.IsParent above above := by
    intro cycle
    obtain ⟨others, climbToo, fewer⟩ := climb.length_lt cycle
    rw [climb.unique climbToo] at fewer
    exact Nat.lt_irrefl _ fewer
  intro above path
  rcases Relation.reflTransGen_iff_eq_or_transGen.1 path with rfl | path
  · exact no_cycle climb
  · obtain ⟨rest, further, -⟩ := climb.length_lt path
    exact no_cycle further

/-- There are at most as many parents as nodes. -/
theorem Climb.length_le (climb : Climb forest id parents) : parents.length ≤ forest.size :=
  length_le_of_isChain lt_size_of_isParent climb.acyclicFrom climb.isChain

theorem climb_or_chain (forest : Forest) (id : NodeId) (steps : Nat) :
    (∃ parents, Climb forest id parents) ∨
      ∃ parents, (id :: parents).IsChain forest.IsParent ∧ parents.length = steps := by
  induction steps generalizing id with
  | zero => exact .inr ⟨[], .singleton _, rfl⟩
  | succ steps ih =>
    cases up : forest.parent? id with
    | none => exact .inl ⟨[], .top up⟩
    | some parent =>
      rcases ih parent with ⟨parents, climb⟩ | ⟨parents, chain, length⟩
      · exact .inl ⟨parent :: parents, .up up climb⟩
      · exact .inr ⟨parent :: parents, .cons_cons up chain, by rw [List.length_cons, length]⟩

/-- Without a cycle the parents come to an end: a longer walk would visit more nodes than there
are. -/
theorem exists_climb (acyclic : AcyclicFrom forest.IsParent id) :
    ∃ parents, Climb forest id parents := by
  rcases climb_or_chain forest id (forest.size + 1) with found | ⟨parents, chain, length⟩
  · exact found
  · have bound := length_le_of_isChain lt_size_of_isParent acyclic chain
    omega

theorem Climb.drop {skipped rest : List NodeId} {upper : NodeId}
    (climb : Climb forest id (skipped ++ upper :: rest)) : Climb forest upper rest := by
  induction skipped generalizing id with
  | nil =>
    cases climb with
    | up _ further => exact further
  | cons parent skipped ih =>
    cases climb with
    | up _ further => exact ih further

end Climbing

/-! ### Completed selectors -/

/-- The selector of a style rule, which may be missing. -/
def styleSelector? (forest : Forest) (id : NodeId) : Option (Option Text) :=
  match forest.kind? id with
  | some (.style selector _) => some selector
  | _ => none

/-- The selectors of the style rules among a node and its parents, outermost first. -/
def selectorsAlong (forest : Forest) (path : List NodeId) : List (Option Text) :=
  path.reverse.filterMap forest.styleSelector?

/-- Selectors completed one by one, from the outermost inwards. -/
def completed : List (Option Text) → Except Error (Option Text)
  | [] => .ok none
  | outermost :: inwards => inwards.foldlM nestSelector outermost

theorem completed_concat {selectors : List (Option Text)} (filled : selectors ≠ [])
    (own : Option Text) :
    completed (selectors ++ [own]) = completed selectors >>= (nestSelector · own) := by
  cases selectors with
  | nil => exact absurd rfl filled
  | cons outermost inwards =>
    rw [List.cons_append, completed, completed, List.foldlM_append]
    simp

section Completing

variable {forest : Forest} {id : NodeId} {parents : List NodeId}

theorem isStyle_eq (forest : Forest) (id : NodeId) :
    (forest.kind? id).elim false NodeKind.isStyle = (forest.styleSelector? id).isSome := by
  unfold styleSelector?
  split
  · next own => rw [own]; rfl
  · next other =>
    cases kind : forest.kind? id with
    | none => rfl
    | some found =>
      cases found with
      | style selector declarations => exact absurd kind (other selector declarations)
      | _ => rfl

theorem selector?_of_styleSelector? {selector : Option Text}
    (own : forest.styleSelector? id = some selector) :
    forest.selector? id = selector := by
  unfold styleSelector? at own
  unfold selector?
  cases found : forest.kind? id with
  | none => simp [found] at own
  | some kind =>
    rw [found] at own
    cases kind with
    | style selector declarations => exact Option.some.inj own
    | _ => cases own

theorem styleSelector?_of_selector? {selector : Text} (own : forest.selector? id = some selector) :
    forest.styleSelector? id = some (some selector) := by
  unfold selector? at own
  unfold styleSelector?
  cases found : forest.kind? id with
  | none => simp [found] at own
  | some kind =>
    rw [found] at own
    cases kind with
    | style selector declarations => exact congrArg some own
    | _ => cases own

/-- The nearest style rule above a node is the first one among its parents. -/
theorem Climb.styleAbove?_eq {steps : Nat} (climb : Climb forest id parents)
    (enough : parents.length ≤ steps) :
    forest.styleAbove? steps id = parents.find? fun parent =>
      (forest.styleSelector? parent).isSome := by
  induction climb generalizing steps with
  | top free =>
    cases steps with
    | zero => rfl
    | succ steps => rw [styleAbove?, free]; rfl
  | @up id parent parents up rest ih =>
    cases steps with
    | zero => cases enough
    | succ steps =>
      rw [styleAbove?, up]
      dsimp only
      rw [isStyle_eq, List.find?_cons, ih (Nat.le_of_succ_le_succ enough)]
      cases (forest.styleSelector? parent).isSome <;> rfl

theorem selectorsAlong_cons {selector : Option Text}
    (own : forest.styleSelector? id = some selector) (path : List NodeId) :
    forest.selectorsAlong (id :: path) = forest.selectorsAlong path ++ [selector] := by
  simp [selectorsAlong, own]

theorem selectorsAlong_append (forest : Forest) (path above : List NodeId) :
    forest.selectorsAlong (path ++ above) = forest.selectorsAlong above ++
      forest.selectorsAlong path := by
  simp [selectorsAlong]

theorem selectorsAlong_eq_nil {path : List NodeId}
    (other : ∀ id ∈ path, forest.styleSelector? id = none) :
    forest.selectorsAlong path = [] := by
  rw [selectorsAlong, List.filterMap_eq_nil_iff]
  intro id member
  exact other id (List.mem_reverse.1 member)

theorem selectorsAlong_ne_nil {selector : Option Text}
    (own : forest.styleSelector? id = some selector) :
    forest.selectorsAlong (id :: parents) ≠ [] := by
  rw [selectorsAlong_cons own]
  simp

theorem Climb.resolvedWithin_eq {selector : Option Text} {steps : Nat}
    (climb : Climb forest id parents) (own : forest.styleSelector? id = some selector)
    (enough : parents.length ≤ steps) :
    forest.resolvedWithin steps id = completed (forest.selectorsAlong (id :: parents)) := by
  -- Each step goes on from the nearest style rule above, which has fewer parents.
  induction steps generalizing id parents selector with
  | zero =>
    obtain rfl := List.length_eq_zero_iff.1 (Nat.le_zero.1 enough)
    rw [resolvedWithin, selectorsAlong_cons own, selector?_of_styleSelector? own]
    rfl
  | succ steps ih =>
    rw [resolvedWithin, climb.styleAbove?_eq climb.length_le, selector?_of_styleSelector? own]
    cases found : parents.find? fun parent => (forest.styleSelector? parent).isSome with
    | none =>
      have others : ∀ parent ∈ parents, forest.styleSelector? parent = none := by
        intro parent member
        simpa using List.find?_eq_none.1 found parent member
      rw [selectorsAlong_cons own, selectorsAlong_eq_nil others]
      rfl
    | some upper =>
      obtain ⟨kind, skipped, rest, rfl, plain⟩ := List.find?_eq_some_iff_append.1 found
      obtain ⟨above, kind⟩ := Option.isSome_iff_exists.1 kind
      have others : ∀ parent ∈ skipped, forest.styleSelector? parent = none := by
        intro parent member
        simpa using plain parent member
      have fewer : rest.length ≤ steps := by
        rw [List.length_append, List.length_cons] at enough
        omega
      rw [selectorsAlong_cons own, selectorsAlong_append, selectorsAlong_eq_nil others,
        List.append_nil, completed_concat (selectorsAlong_ne_nil kind), ← ih climb.drop kind fewer]

/-- The completed selector of a style rule is that of the selectors from the outermost one down to
its own. -/
theorem Climb.resolved_eq {selector : Option Text} (climb : Climb forest id parents)
    (own : forest.styleSelector? id = some selector) :
    forest.resolved id = completed (forest.selectorsAlong (id :: parents)) := by
  rw [resolved, isStyle_eq, own, Option.isSome_some, if_pos rfl]
  exact climb.resolvedWithin_eq own climb.length_le

end Completing

/-- The completed selector of a style rule is made by completing the selectors of the style rules
among its parents one after another, from the outermost one down to its own. It is the same wherever
the same selectors stand around each other, whatever other rules stand between them. -/
theorem resolved_eq_completed {forest : Forest} {id : NodeId} {selector : Option Text}
    (own : forest.styleSelector? id = some selector) (acyclic : AcyclicFrom forest.IsParent id) :
    ∃ parents, Climb forest id parents ∧
      forest.resolved id = completed (forest.selectorsAlong (id :: parents)) ∧
      ∀ (other : Forest) (twin : NodeId) (others : List NodeId), Climb other twin others →
        (other.styleSelector? twin).isSome →
        other.selectorsAlong (twin :: others) = forest.selectorsAlong (id :: parents) →
        other.resolved twin = forest.resolved id := by
  obtain ⟨parents, climb⟩ := exists_climb acyclic
  refine ⟨parents, climb, climb.resolved_eq own, ?_⟩
  intro other twin others climbToo style same
  obtain ⟨twinSelector, ownToo⟩ := Option.isSome_iff_exists.1 style
  rw [climbToo.resolved_eq ownToo, same, climb.resolved_eq own]

/-- A style rule in a grouping rule in a style rule with a list of selectors. -/
def printedCard : Forest :=
  ofRules [.style ".a,b".toList [] [.grouping "media".toList (some "print".toList) none
    [.style "#c".toList [] []]]]

theorem climb_printedCard : Climb printedCard 3 [2, 1] := .up rfl (.up rfl (.top rfl))

theorem resolved_printedCard : printedCard.resolved 3 = .ok (some ":is(.a,b) #c".toList) := by
  have own : printedCard.styleSelector? 3 = some (some "#c".toList) := rfl
  obtain ⟨parents, climb, complete, -⟩ := resolved_eq_completed own climb_printedCard.acyclicFrom
  rw [complete, climb.unique climb_printedCard]
  rfl

/-! ### The specificity of completed selectors -/

theorem completed_some {texts : List Text} (filled : texts ≠ []) :
    completed (texts.map some) = .ok (some (Selector.nestAll texts)) := by
  cases texts with
  | nil => exact absurd rfl filled
  | cons text texts =>
    rw [List.map_cons, completed, Selector.nestAll]
    induction texts generalizing text with
    | nil => rfl
    | cons next texts ih => exact ih _ (List.cons_ne_nil _ _)

/-- For plain selectors nested in each other, with any other rules between them, the specificity of
the completed selector of the innermost rule is the sum of the specificities of all of them. -/
theorem specificity_resolved {forest : Forest} {id : NodeId} {parents : List NodeId}
    {texts : List Text} {values : List Specificity} (climb : Climb forest id parents)
    (style : (forest.styleSelector? id).isSome)
    (chain : forest.selectorsAlong (id :: parents) = texts.map some)
    (plain : ∀ text ∈ texts, Selector.IsPlain text)
    (accepted : List.Forall₂ (fun text value => Selector.specificity text = .ok value)
      texts values) :
    ∃ text, forest.resolved id = .ok (some text) ∧
      Selector.specificity text = .ok (Selector.sumOf values) := by
  obtain ⟨selector, own⟩ := Option.isSome_iff_exists.1 style
  have filled : texts ≠ [] := by
    rintro rfl
    exact selectorsAlong_ne_nil own chain
  have weighs := Selector.weighs_nestAll (Selector.weighs_of_plain plain accepted) filled
  refine ⟨_, ?_, weighs.specificity_eq⟩
  rw [climb.resolved_eq own, chain, completed_some filled]

/-- A selector below a list of two counts the more specific of them and its own. -/
theorem specificity_resolved_printedCard :
    ∃ text, printedCard.resolved 3 = .ok (some text) ∧
      Selector.specificity text = .ok ⟨1, 1, 0⟩ := by
  have filled : ∀ text ∈ [".a,b".toList, "#c".toList], text ≠ [] ∧ Scan.Scope.IsPlainList text := by
    decide
  have unended : [".a,b".toList,
      "#c".toList].all (fun text => (parse text).toOption.any fun selectors =>
      selectors.all fun s => !s.endsInPseudoElement) = true := by decide +kernel
  have plain : ∀ text ∈ [".a,b".toList, "#c".toList], IsPlain text := by
    intro text member
    refine ⟨(filled text member).1, (filled text member).2, fun selectors read s listed => ?_⟩
    have all := List.all_eq_true.1 unended text member
    rw [read] at all
    simpa using List.all_eq_true.1 all s listed
  have accepted : List.Forall₂ (fun text value => Selector.specificity text = .ok value)
      [".a,b".toList, "#c".toList] [⟨0, 1, 0⟩, ⟨1, 0, 0⟩] :=
    .cons (by decide +kernel) (.cons (by decide +kernel) .nil)
  exact specificity_resolved climb_printedCard rfl rfl plain accepted

end StyleScore.Forest
