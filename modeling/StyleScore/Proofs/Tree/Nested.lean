import StyleScore.Proofs.Selector.Balance
import StyleScore.Proofs.Tree.Lineage

/-!
A style rule in another one, with any other rules between them. Its completed selector is its own in
that of the rule around it (`Climb.resolved_below`). Where all selectors on the way up are proper
lists, so is the completed one, and each of its parts comes from one part of the rule's own selector
(`split_resolved`).
-/
namespace StyleScore.Forest

open Selector (IsProperList nest split)

variable {forest : Forest} {id above : NodeId} {parents between beyond : List NodeId}

/-- A selector is completed by the completed one of the nearest style rule around. -/
theorem Climb.resolved_below {own around : Option Text}
    (climb : Climb forest id (between ++ above :: beyond))
    (style : forest.styleSelector? id = some own)
    (nested : forest.styleSelector? above = some around)
    (nearest : ∀ node ∈ between, forest.styleSelector? node = none) :
    forest.resolved id = forest.resolved above >>= (nestSelector · own) := by
  rw [climb.resolved_eq style, climb.drop.resolved_eq nested, selectorsAlong_cons style,
    selectorsAlong_append, selectorsAlong_eq_nil nearest, List.append_nil,
    completed_concat (selectorsAlong_ne_nil nested)]

/-- Every style rule on the way has a selector, and it is a proper list. -/
def IsProperAlong (forest : Forest) (path : List NodeId) : Prop :=
  ∀ node ∈ path, ∀ selector ∈ forest.styleSelector? node, ∃ text ∈ selector, IsProperList text

theorem IsProperAlong.exists_texts {path : List NodeId} (proper : forest.IsProperAlong path) :
    ∃ texts : List Text, forest.selectorsAlong path = texts.map some ∧
      ∀ text ∈ texts, IsProperList text := by
  induction path with
  | nil => exact ⟨[], rfl, List.forall_mem_nil _⟩
  | cons node path ih =>
    obtain ⟨own, others⟩ := List.forall_mem_cons.1 proper
    obtain ⟨texts, chain, fine⟩ := ih others
    cases style : forest.styleSelector? node with
    | none =>
      have skipped : forest.selectorsAlong (node :: path) = forest.selectorsAlong path := by
        simp [selectorsAlong, style]
      exact ⟨texts, skipped.trans chain, fine⟩
    | some selector =>
      obtain ⟨text, same, good⟩ := own selector style
      cases same
      refine ⟨texts ++ [text], ?_, List.forall_mem_append.2 ⟨fine,
        List.forall_mem_singleton.2 good⟩⟩
      rw [selectorsAlong_cons style, chain, List.map_append]
      rfl

/-- Regular lists completed one by one from the outermost inwards stay proper. -/
theorem isProperList_nestAll {texts : List Text} (filled : texts ≠ [])
    (proper : ∀ text ∈ texts, IsProperList text) :
    IsProperList (Selector.nestAll texts) := by
  cases texts with
  | nil => exact absurd rfl filled
  | cons outermost inwards =>
    rw [Selector.nestAll]
    induction inwards generalizing outermost with
    | nil => exact proper outermost List.mem_cons_self
    | cons own inwards ih =>
      obtain ⟨outer, inner, others⟩ : IsProperList outermost ∧ IsProperList own ∧
        ∀ text ∈ inwards, IsProperList text := by
        simpa using proper
      exact ih (nest outermost own) (List.cons_ne_nil _ _)
        (List.forall_mem_cons.2 ⟨(Selector.split_nest outer inner).2, others⟩)

theorem Climb.exists_isProperList {selector : Option Text} (climb : Climb forest id parents)
    (style : forest.styleSelector? id = some selector)
    (proper : forest.IsProperAlong (id :: parents)) :
    ∃ text, forest.resolved id = .ok (some text) ∧ IsProperList text := by
  obtain ⟨texts, chain, fine⟩ := proper.exists_texts
  have filled : texts ≠ [] := by
    rintro rfl
    exact selectorsAlong_ne_nil style chain
  refine ⟨Selector.nestAll texts, ?_, isProperList_nestAll filled fine⟩
  rw [climb.resolved_eq style, chain, completed_some filled]

/-- A style rule in another, where its selector and those of all style rules around it are proper
lists: brackets match, and no segment is blank. Its completed selector has exactly the parts of its
own one, in their order. In each, the completed selector of the nearest style rule around stands for
every `&`, or before a part without one, in `:is()` if and only if it has more than one part itself.
The completed selector is a proper list again. -/
theorem split_resolved {own : Text} (climb : Climb forest id (between ++ above :: beyond))
    (style : forest.styleSelector? id = some (some own))
    (nested : (forest.styleSelector? above).isSome)
    (nearest : ∀ node ∈ between, forest.styleSelector? node = none)
    (proper : forest.IsProperAlong (id :: (between ++ above :: beyond))) :
    ∃ around parent text, forest.resolved above = .ok (some around) ∧
      parent = (if 1 < (split around).length then ":is(".toList ++ around ++ [')'] else around) ∧
      forest.resolved id = .ok (some text) ∧
      split text = (split own).map (fun part => Text.trim
        (if '&' ∈ part then Text.replaceChar '&' parent part else parent ++ ' ' :: part)) ∧
      IsProperList text := by
  obtain ⟨selector, nested⟩ := Option.isSome_iff_exists.1 nested
  have upper : forest.IsProperAlong (above :: beyond) := fun node member =>
    proper node (List.mem_cons_of_mem id (List.mem_append_right between member))
  obtain ⟨around, outer, good⟩ := climb.drop.exists_isProperList nested upper
  have goodToo : IsProperList own := by
    obtain ⟨text, same, goodToo⟩ := proper id List.mem_cons_self (some own) style
    cases same
    exact goodToo
  obtain ⟨parts, result⟩ := Selector.split_nest good goodToo
  refine ⟨around, Selector.asParent around, nest around own, outer, rfl, ?_, parts, result⟩
  rw [climb.resolved_below style nested nearest, outer]
  rfl

/-- A style rule in a grouping rule in a style rule in another, with lists of selectors all the
way. -/
def nestedLists : Forest :=
  ofRules [.style ".a, b".toList [] [.style "&:not(&, [c]), d".toList [] [.grouping "media".toList
    (some "print".toList) none [.style "e:is(f,&) , g".toList [] []]]]]

theorem split_resolved_nestedLists : ∃ text, nestedLists.resolved 4 = .ok (some text) ∧
    split text = ["e:is(f,:is(:is(.a, b):not(:is(.a, b), [c]), :is(.a, b) d))".toList,
      ":is(:is(.a, b):not(:is(.a, b), [c]), :is(.a, b) d) g".toList] ∧ IsProperList text := by
  have climb : Climb nestedLists 4 ([3] ++ 2 :: [1]) := .up rfl (.up rfl (.up rfl (.top rfl)))
  have nearest : ∀ node ∈ [3], nestedLists.styleSelector? node = none :=
    List.forall_mem_singleton.2 rfl
  have proper : nestedLists.IsProperAlong [4, 3, 2, 1] := by
    intro node member selector style
    simp only [List.mem_cons, List.not_mem_nil, or_false] at member
    rcases member with rfl | rfl | rfl | rfl
    · cases style
      exact ⟨_, rfl, by decide, by decide⟩
    · cases style
    · cases style
      exact ⟨_, rfl, by decide, by decide⟩
    · cases style
      exact ⟨_, rfl, by decide, by decide⟩
  obtain ⟨around, parent, text, outer, rfl, inner, parts, fine⟩ :=
    split_resolved climb rfl rfl nearest proper
  have found : nestedLists.resolved 2 =
      .ok (some ":is(.a, b):not(:is(.a, b), [c]), :is(.a, b) d".toList) := rfl
  obtain rfl := Option.some.inj (Except.ok.inj (found.symm.trans outer))
  exact ⟨text, inner, parts, fine⟩

end StyleScore.Forest
