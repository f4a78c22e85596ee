import StyleScore.Log
import StyleScore.Proofs.Item.Places
import StyleScore.Proofs.Tree.Leaves

/-!
What the log says about faults. While the tree of a style sheet is built, five kinds of lists of
items are read: the sheet, the blocks of style rules, those of grouping at-rules, those of
keyframes, and the declarations of the steps of keyframes. `flaws` has the faults of all of them in
the order of the sheet. Each fault outside keyframes is noted once and in order, and none of those
in keyframes is (`warnings_ofText`).
-/
namespace StyleScore

/-- A fault in one of the lists of items of a style sheet. -/
structure Flaw where
  position : Position
  cause : ItemFault
  /-- The list is that of keyframes, or the declarations of a step of keyframes. -/
  inKeyframes : Bool
  deriving DecidableEq, Repr

/-- The warning that names the place and the cause of a fault. -/
def Flaw.warning (flaw : Flaw) : Entry :=
  ⟨.warning, .reader, "Skipping invalid CSS at ".toList ++ Text.ofNat flaw.position.line ++
    ':' :: Text.ofNat flaw.position.column ++ ": ".toList ++ flaw.cause.message⟩

namespace Item
open Component

/-- The fault that an item in keyframes is. -/
def stepFlaw? : Item → Option Flaw
  | fault position cause => some ⟨position, cause, true⟩
  | _ => none

/-- The faults that an item of keyframes is or holds; its steps are lists of declarations. -/
def keyframeFlaws : Item → List Flaw
  | rule _ content => (declarationItems content).filterMap stepFlaw?
  | item => item.stepFlaw?.toList

/-- The faults among items and in the lists of items below them, in the order of the style sheet.
Blocks of other at-rules than keyframes and grouping ones are not read. -/
def flaws : List Item → List Flaw
  | [] => []
  | .fault position cause :: rest => ⟨position, cause, false⟩ :: flaws rest
  | .declaration _ _ :: rest => flaws rest
  | .rule _ content :: rest => flaws (blockItems content) ++ flaws rest
  | .atRule _ _ none :: rest => flaws rest
  | .atRule keyword _ (some content) :: rest =>
    (if endsInKeyframes (Text.asciiLower keyword) then (ruleItems false content).flatMap
      keyframeFlaws
      else if isGrouping keyword then flaws (ruleItems false content)
      else []) ++ flaws rest
termination_by items => totalWeight items
decreasing_by
  · exact totalWeight_lt_cons _ rest
  · exact totalWeight_lt_cons _ rest
  · exact totalWeight_blockItems_lt _ content rest
  · exact totalWeight_lt_cons _ rest
  · exact totalWeight_lt_cons _ rest
  · exact totalWeight_ruleItems_lt _ _ content rest
  · exact totalWeight_lt_cons _ rest

/-! ### The order of the sheet -/

theorem sublist_stepFlaws (items : List Item) :
    ((items.filterMap stepFlaw?).map Flaw.position).Sublist (items.flatMap places) := by
  induction items with
  | nil => exact .refl _
  | cons item items ih =>
    rw [List.flatMap_cons]
    cases item with
    | fault position cause => exact ih.cons_cons position
    | _ => exact ih.trans (List.sublist_append_right _ _)

theorem sublist_keyframeFlaws (items : List Item) :
    ((items.flatMap keyframeFlaws).map Flaw.position).Sublist (items.flatMap places) := by
  induction items with
  | nil => exact .refl _
  | cons item items ih =>
    have own : (item.keyframeFlaws.map Flaw.position).Sublist item.places := by
      cases item with
      | rule header content => exact (sublist_stepFlaws _).trans (sublist_declarationItems content)
      | fault position cause => exact .refl _
      | _ => exact List.nil_sublist _
    rw [List.flatMap_cons, List.flatMap_cons, List.map_append]
    exact own.append ih

theorem sublist_flaws (items : List Item) :
    ((flaws items).map Flaw.position).Sublist (items.flatMap places) := by
  induction items using Item.inwards with
  | nil =>
    rw [flaws]
    exact .refl _
  | cons item rest inRule inAtRule after =>
    rw [List.flatMap_cons]
    cases item with
    | fault position cause =>
      rw [flaws]
      exact after.cons_cons position
    | declaration name value =>
      rw [flaws]
      exact after
    | rule header content =>
      rw [flaws, List.map_append]
      exact ((inRule header content rfl).trans (sublist_blockItems content)).append after
    | atRule keyword header content =>
      cases content with
      | none =>
        rw [flaws]
        exact after
      | some content =>
        have inside := sublist_ruleItems false content
        rw [flaws, List.map_append]
        refine List.Sublist.append ?_ after
        split
        · exact (sublist_keyframeFlaws _).trans inside
        · split
          · exact (inAtRule keyword header content rfl).trans inside
          · exact List.nil_sublist _

end Item

/-! ### Warnings -/

namespace Rule

/-- The warnings among the entries that notes make. -/
def warnings (notes : List Note) : List Entry :=
  (notes.map Note.entry).filter fun entry => entry.level = .warning

theorem warnings_append (notes more : List Note) :
    warnings (notes ++ more) = warnings notes ++ warnings more := by
  rw [warnings, List.map_append, List.filter_append, warnings, warnings]

theorem endsInKeyframes_eq_false {keyword : Text} (form : blockForm keyword ≠ .keyframes) :
    endsInKeyframes keyword = false := by
  apply eq_false_of_ne_true
  intro ends
  exact form (if_pos ends)

/-- The faults outside keyframes, as warnings. -/
def noted (flaws : List Flaw) : List Entry :=
  (flaws.filter fun flaw => !flaw.inKeyframes).map Flaw.warning

theorem noted_append (flaws more : List Flaw) :
    noted (flaws ++ more) = noted flaws ++ noted more := by
  rw [noted, List.filter_append, List.map_append, noted, noted]

theorem inKeyframes_of_mem_keyframeFlaws {item : Item} {flaw : Flaw}
    (member : flaw ∈ item.keyframeFlaws) :
    flaw.inKeyframes = true := by
  cases item with
  | rule header content =>
    obtain ⟨declared, -, is⟩ := List.mem_filterMap.1 member
    cases declared with
    | fault position cause =>
      obtain rfl := Option.some.inj is
      rfl
    | _ => cases is
  | fault position cause =>
    obtain rfl := List.mem_singleton.1 member
    rfl
  | _ => cases member

theorem noted_keyframeFlaws (items : List Item) :
    noted (items.flatMap Item.keyframeFlaws) = [] := by
  rw [noted, List.map_eq_nil_iff, List.filter_eq_nil_iff]
  intro flaw member
  obtain ⟨item, -, own⟩ := List.mem_flatMap.1 member
  simp [inKeyframes_of_mem_keyframeFlaws own]

theorem warnings_ofItems (items : List Item) :
    warnings (ofItems items).2 = noted (Item.flaws items) := by
  induction items using Item.inwards with
  | nil => rw [ofItems, Item.flaws]; rfl
  | cons item rest inRule inAtRule after =>
    cases item with
    | fault position cause =>
      rw [ofItems, Item.flaws]
      exact congrArg (Flaw.warning ⟨position, cause, false⟩ :: ·) after
    | declaration name value =>
      rw [ofItems, Item.flaws]
      exact after
    | rule header content =>
      rw [ofItems, Item.flaws, noted_append, ← after, ← inRule header content rfl]
      exact warnings_append _ _
    | atRule keyword header content =>
      cases content with
      | none =>
        rw [ofItems, Item.flaws]
        exact after
      | some content =>
        have grouping := Item.isGrouping_iff keyword
        rw [Item.flaws, noted_append, ← after]
        cases form : blockForm (Text.asciiLower keyword) with
        | keyframes =>
          rw [if_pos (blockForm_keyframes form), noted_keyframeFlaws]
          simp only [ofItems, form, List.nil_append]
        | rules name conditional =>
          rw [if_neg (by simp [endsInKeyframes_eq_false, form]),
            if_pos (grouping.2 ⟨name, conditional, form⟩), ← inAtRule keyword header content rfl,
            ← warnings_append]
          simp only [ofItems, form]
        | unknown =>
          rw [if_neg (by simp [endsInKeyframes_eq_false, form]), if_neg (by simp [grouping, form])]
          simp only [ofItems, form]
          rfl

/-- All faults are noted exactly where none of them is in keyframes. -/
theorem noted_eq_iff (flaws : List Flaw) :
    noted flaws = flaws.map Flaw.warning ↔ ∀ flaw ∈ flaws, flaw.inKeyframes = false := by
  constructor
  · intro same
    have lengths := congrArg List.length same
    rw [noted, List.length_map, List.length_map, List.length_filter_eq_length_iff] at lengths
    simpa using lengths
  · intro all
    rw [noted, List.filter_eq_self.2 (by simpa using all)]

end Rule

/-- Building the tree of a style sheet warns of every fault outside keyframes, once and in the order
of the sheet, and of nothing else. So it warns of every fault exactly where no list of keyframes and
no declarations of their steps have one. A sheet without a tree is one with a number that is too
long to read. -/
theorem warnings_ofText (css : Text) :
    (∃ items rules notes, Item.ofText css = .ok items ∧ Rule.ofText css = .ok (rules, notes) ∧
      ((notes.map Note.entry).filter fun entry => entry.level = .warning) =
        ((Item.flaws items).filter fun flaw => !flaw.inKeyframes).map Flaw.warning ∧
      (((notes.map Note.entry).filter fun entry => entry.level = .warning) =
        (Item.flaws items).map Flaw.warning ↔
        ∀ flaw ∈ Item.flaws items, flaw.inKeyframes = false) ∧
      ((Item.flaws items).map Flaw.position).Pairwise Position.AtOrBefore) ∨
    ∃ digits, overlongNumeral? (scan css) = some digits ∧
      Rule.ofText css = .error (.overlongNumeral digits) := by
  rcases Item.ofText_cases css with ⟨items, read⟩ | ⟨digits, overlong, failed⟩
  · have warned := Rule.warnings_ofItems items
    have all := Rule.noted_eq_iff (Item.flaws items)
    rw [← warned] at all
    exact .inl ⟨items, _, _, read, by rw [Rule.ofText, read]; rfl, warned, all,
      (Item.ordered_ofText read).sublist (Item.sublist_flaws items)⟩
  · exact .inr ⟨digits, overlong, by rw [Rule.ofText, failed]; rfl⟩

/-- The keyframes have a declaration without a value in their first step, and their second step has
no block. -/
theorem warnings_brokenSteps :
    ∃ items rules, Item.ofText "@keyframes k\x7bto\x7btop\x7dfrom\x7d".toList = .ok items ∧
      Rule.ofText "@keyframes k\x7bto\x7btop\x7dfrom\x7d".toList = .ok (rules, []) ∧
      Item.flaws items = [⟨⟨1, 17⟩, .noColon none, true⟩, ⟨⟨1, 21⟩, .endOfText, true⟩] := by
  let step : Component := .block ⟨1, 16⟩ (.block .curly) [.leaf ⟨1, 17⟩ (.ident "top".toList)]
  let frames : List Component :=
    [.leaf ⟨1, 14⟩ (.ident "to".toList), step, .leaf ⟨1, 21⟩ (.ident "from".toList)]
  let name : List Component := [.leaf ⟨1, 11⟩ (.blank [' ']), .leaf ⟨1, 12⟩ (.ident ['k'])]
  have read : Item.ofText "@keyframes k\x7bto\x7btop\x7dfrom\x7d".toList =
      .ok [.atRule "keyframes".toList name (some frames)] := by decide +kernel +zetaReduce
  have inner : Item.ruleItems false frames =
      [.rule [.leaf ⟨1, 14⟩ (.ident "to".toList)] [.leaf ⟨1, 17⟩ (.ident "top".toList)],
        .fault ⟨1, 21⟩ .endOfText] := by decide +kernel +zetaReduce
  have declared : Item.declarationItems [.leaf ⟨1, 17⟩ (.ident "top".toList)] =
      [.fault ⟨1, 17⟩ (.noColon none)] := by decide +kernel
  have form : Rule.blockForm (Text.asciiLower "keyframes".toList) = .keyframes := by decide
  have silent : (Rule.ofItems [.atRule "keyframes".toList name (some frames)]).2 = [] := by
    simp only [Rule.ofItems, form]
  refine ⟨_, (Rule.ofItems [.atRule "keyframes".toList name (some frames)]).1, read, ?_, ?_⟩
  · rw [Rule.ofText, read, ← silent]
    rfl
  · rw [Item.flaws, Item.flaws, if_pos (Rule.blockForm_keyframes form), inner]
    simp only [List.flatMap_cons, List.flatMap_nil, Item.keyframeFlaws, declared]
    rfl

end StyleScore
