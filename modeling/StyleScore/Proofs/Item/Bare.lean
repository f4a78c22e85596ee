import StyleScore.Proofs.Component.Bare
import StyleScore.Proofs.Tree.Building

/-!
Items without the places of their component values. Places decide neither how component values are
written (`writeAll_map_bare`) nor which items are read (`ruleItems_map_bare`), so the rules of a
text are those of its component values wherever these stand (`Spells.ofText_eq`).
-/
namespace StyleScore

namespace Component

@[simp]
theorem kind_bare (c : Component) : c.bare.kind = c.kind := by
  cases c with
  | leaf position token =>
    rw [bare_leaf]
    cases token <;> rfl
  | block position opener content =>
    rw [bare_block]
    cases opener <;> rfl

theorem position_bare (c : Component) : c.bare.position = .start := by
  cases c with
  | leaf position token => rw [bare_leaf, Component.position]
  | block position opener content => rw [bare_block, Component.position]

@[simp]
theorem isBlank_bare (c : Component) : c.bare.isBlank = c.isBlank := by
  rw [isBlank, kind_bare, isBlank]

@[simp]
theorem isSemicolon_bare (c : Component) : c.bare.isSemicolon = c.isSemicolon := by
  rw [isSemicolon, kind_bare, isSemicolon]

@[simp]
theorem isCurlyBlock_bare (c : Component) : c.bare.isCurlyBlock = c.isCurlyBlock := by
  rw [isCurlyBlock, kind_bare, isCurlyBlock]

@[simp]
theorem isPageMark_bare (c : Component) : c.bare.isPageMark = c.isPageMark := by
  rw [isPageMark, kind_bare, isPageMark]

mutual

theorem endsInString_bare : ∀ c : Component, c.bare.endsInString = c.endsInString
  | leaf position token => by rw [bare_leaf, endsInString, endsInString]
  | block position (.block bracket) content => by rw [bare_block, endsInString, endsInString]
  | block position (.function name) content => by
    rw [bare_block, endsInString, endsInString, lastEndsInString_map_bare]

theorem lastEndsInString_map_bare : ∀ content : List Component,
    lastEndsInString (content.map bare) = lastEndsInString content
  | [] => rfl
  | [leaf position token] =>
    by rw [List.map_singleton, bare_leaf, lastEndsInString, lastEndsInString]
  | [block position opener content] => by
    have last := endsInString_bare (block position opener content)
    rw [bare_block] at last
    rw [List.map_singleton, bare_block, lastEndsInString, lastEndsInString, last]
  | _ :: c :: rest => by
    have others := lastEndsInString_map_bare (c :: rest)
    rw [List.map_cons] at others
    rw [List.map_cons, List.map_cons, lastEndsInString, lastEndsInString, others]

end

theorem separator_bare (previous : Option Kind) (c : Component) :
    separator previous c.bare = separator previous c := by
  cases previous with
  | none => rfl
  | some kind =>
    unfold separator
    rw [kind_bare]
    cases c with
    | leaf position token =>
      rw [bare_leaf]
      dsimp only
      split
      · rfl
      · split
        · split <;> split <;> simp_all
        · rfl
    | block position opener content => rw [bare_block]

mutual

theorem write_bare : ∀ c : Component, c.bare.write = c.write
  | leaf position token => by rw [bare_leaf, write, write]
  | block position (.block bracket) content => by rw [bare_block, write, write, writeFrom_map_bare]
  | block position (.function name) content => by
    rw [bare_block, write, write, writeFrom_map_bare, lastEndsInString_map_bare]

theorem writeFrom_map_bare (previous : Option Kind) : ∀ content : List Component,
    writeFrom previous (content.map bare) = writeFrom previous content
  | [] => rfl
  | c :: rest => by
    rw [List.map_cons, writeFrom, writeFrom, separator_bare, write_bare c, kind_bare,
      writeFrom_map_bare _ rest]

end

/-- Places are not written. -/
theorem writeAll_map_bare (content : List Component) :
    writeAll (content.map bare) = writeAll content :=
  writeFrom_map_bare none content

end Component

namespace Item
open Component

/-- An item with all places at the start. -/
def bare : Item → Item
  | rule header content => rule (header.map Component.bare) (content.map Component.bare)
  | atRule keyword header content =>
    atRule keyword (header.map Component.bare) (content.map (List.map Component.bare))
  | declaration name value => declaration name (value.map Component.bare)
  | fault _ cause => fault .start cause

theorem endsHeader_comp_bare (atSemicolon : Bool) :
    (fun c => !endsHeader atSemicolon c) ∘ Component.bare = fun c => !endsHeader atSemicolon c := by
  funext c
  simp [endsHeader]

theorem headerOf_map_bare (atSemicolon : Bool) (components : List Component) :
    headerOf atSemicolon (components.map Component.bare) =
      (headerOf atSemicolon components).map Component.bare := by
  rw [headerOf, List.takeWhile_map, endsHeader_comp_bare, headerOf]

theorem fromEnd_map_bare (atSemicolon : Bool) (components : List Component) :
    fromEnd atSemicolon (components.map Component.bare) =
      (fromEnd atSemicolon components).map Component.bare := by
  rw [fromEnd, List.dropWhile_map, endsHeader_comp_bare, fromEnd]

theorem takeAtRule_map_bare (keyword : Text) (components : List Component) :
    takeAtRule keyword (components.map Component.bare) =
      ((takeAtRule keyword components).1.bare,
        (takeAtRule keyword components).2.map Component.bare) := by
  simp only [takeAtRule, headerOf_map_bare, fromEnd_map_bare]
  rcases fromEnd true components with
    _ | ⟨⟨position, token⟩ | ⟨position, (_ | _ | _) | name, content⟩, rest⟩ <;>
    simp [bare_leaf, bare_block, bare]

theorem lastPosition_map_bare (first : Component) (rest : List Component) :
    lastPosition first.bare (rest.map Component.bare) = .start := by
  rw [lastPosition, ← List.map_cons, List.getLast?_map]
  cases (first :: rest).getLast? with
  | none => exact position_bare first
  | some last => exact position_bare last

theorem takeRule_map_bare (atSemicolon : Bool) (first : Component) (rest : List Component) :
    takeRule atSemicolon first.bare (rest.map Component.bare) =
      ((takeRule atSemicolon first rest).1.bare,
        (takeRule atSemicolon first rest).2.map Component.bare) := by
  simp only [takeRule, ← List.map_cons, headerOf_map_bare, fromEnd_map_bare]
  rcases fromEnd atSemicolon (first :: rest) with
      _ | ⟨⟨position, token⟩ | ⟨position, (_ | _ | _) | name, content⟩, left⟩ <;>
    simp [bare_leaf, bare_block, bare, Component.position, lastPosition_map_bare]

theorem declarationExtent_map_bare (rest : List Component) :
    declarationExtent (rest.map Component.bare) =
      ((declarationExtent rest).1.map Component.bare,
        (declarationExtent rest).2.map Component.bare) := by
  simp only [declarationExtent, headerOf_map_bare, fromEnd_map_bare]
  rcases fromEnd true rest with
    _ | ⟨⟨position, token⟩ | ⟨position, (_ | _ | _) | name, content⟩, left⟩ <;>
    simp [bare_leaf, bare_block]

theorem step_bare (scan : ValueScan) (c : Component) : scan.step c.bare = scan.step c := by
  cases c with
  | leaf position token =>
    have blank := isBlank_bare (.leaf position token)
    have curly := isCurlyBlock_bare (.leaf position token)
    rw [bare_leaf] at blank curly ⊢
    unfold ValueScan.step
    dsimp only
    split <;> split <;> simp_all
  | block position opener content =>
    have blank := isBlank_bare (.block position opener content)
    have curly := isCurlyBlock_bare (.block position opener content)
    rw [bare_block] at blank curly ⊢
    obtain ⟨length, important, solid, broken⟩ := scan
    cases important <;> simp only [ValueScan.step, blank, curly]

theorem valueOf?_map_bare (components : List Component) :
    valueOf? (components.map Component.bare) =
      (valueOf? components).map (List.map Component.bare) := by
  have scanned : (components.map Component.bare).foldl ValueScan.step ⟨0, .none, false, false⟩ =
      components.foldl ValueScan.step ⟨0, .none, false, false⟩ := by
    rw [List.foldl_map]
    simp only [step_bare]
  simp only [valueOf?, scanned]
  split
  · rfl
  · split
    · simp [List.map_take]
    · rfl

theorem dropBlanks_map_bare (rest : List Component) :
    (rest.map Component.bare).dropWhile Component.isBlank =
      (rest.dropWhile Component.isBlank).map Component.bare := by
  rw [List.dropWhile_map]
  congr 2
  funext c
  exact isBlank_bare c

theorem declaration?_map_bare (first : Component) (rest : List Component) :
    declaration? first.bare (rest.map Component.bare) = (declaration? first rest).map bare := by
  unfold declaration?
  rw [dropBlanks_map_bare]
  cases first with
  | block position opener content => rw [bare_block]; rfl
  | leaf position token =>
    rw [bare_leaf]
    cases rest.dropWhile Component.isBlank with
    | nil => cases token <;> rfl
    | cons c value =>
      rw [List.map_cons]
      cases c with
      | block position opener content => rw [bare_block]; cases token <;> rfl
      | leaf place mark =>
        rw [bare_leaf]
        by_cases colon : mark = .literal [':']
        · subst colon
          cases token <;> simp [valueOf?_map_bare, bare, Function.comp_def]
        · cases token <;> simp [colon]

theorem declarationFault_map_bare (first : Component) (rest : List Component) :
    declarationFault first.bare (rest.map Component.bare) = (declarationFault first rest).bare := by
  unfold declarationFault
  rw [dropBlanks_map_bare]
  cases first with
  | block position opener content =>
    rw [bare_block]
    cases opener <;> rfl
  | leaf position token =>
    rw [bare_leaf]
    cases rest.dropWhile Component.isBlank with
    | nil => cases token <;> rfl
    | cons c value =>
      rw [List.map_cons]
      cases token with
      | ident name => simp only [bare, position_bare, kind_bare]
      | _ => rfl

theorem takeDeclarationOrRule_map_bare (first : Component) (rest : List Component) :
    takeDeclarationOrRule first.bare (rest.map Component.bare) =
      ((takeDeclarationOrRule first rest).1.bare,
        (takeDeclarationOrRule first rest).2.map Component.bare) := by
  simp only [takeDeclarationOrRule, declarationExtent_map_bare, declaration?_map_bare]
  cases declaration? first (declarationExtent rest).1 with
  | none => exact takeRule_map_bare true first rest
  | some item => rfl

theorem takeAny_map_bare (first : Component) (rest : List Component) :
    takeAny first.bare (rest.map Component.bare) =
      ((takeAny first rest).1.bare, (takeAny first rest).2.map Component.bare) := by
  have rule := takeRule_map_bare false first rest
  cases first with
  | leaf position token =>
    rw [bare_leaf] at rule ⊢
    cases token with
    | atKeyword keyword => exact takeAtRule_map_bare keyword rest
    | _ => exact rule
  | block position opener content =>
    rw [bare_block] at rule ⊢
    exact rule

theorem takeInBlock_map_bare (first : Component) (rest : List Component) :
    takeInBlock first.bare (rest.map Component.bare) =
      ((takeInBlock first rest).1.bare, (takeInBlock first rest).2.map Component.bare) := by
  have either := takeDeclarationOrRule_map_bare first rest
  cases first with
  | leaf position token =>
    rw [bare_leaf] at either ⊢
    cases token with
    | atKeyword keyword => exact takeAtRule_map_bare keyword rest
    | _ => exact either
  | block position opener content =>
    rw [bare_block] at either ⊢
    exact either

/-- Places do not decide which items are read from a list of rules. -/
theorem ruleItems_map_bare (top : Bool) (components : List Component) :
    ruleItems top (components.map Component.bare) = (ruleItems top components).map bare := by
  fun_induction ruleItems top components with
  | case1 => simp [ruleItems]
  | case2 c rest skipped ih =>
    rw [List.map_cons, ruleItems, isBlank_bare, isPageMark_bare, if_pos skipped, ih]
  | case3 c rest read ih =>
    rw [List.map_cons, ruleItems, isBlank_bare, isPageMark_bare, if_neg read, takeAny_map_bare, ih,
      List.map_cons]

/-- Places do not decide which items are read from the block of a rule. -/
theorem blockItems_map_bare (components : List Component) :
    blockItems (components.map Component.bare) = (blockItems components).map bare := by
  fun_induction blockItems components with
  | case1 => simp [blockItems]
  | case2 c rest skipped ih =>
    rw [List.map_cons, blockItems, isBlank_bare, isSemicolon_bare, if_pos skipped, ih]
  | case3 c rest read ih =>
    rw [List.map_cons, blockItems, isBlank_bare, isSemicolon_bare, if_neg read,
      takeInBlock_map_bare, ih, List.map_cons]

theorem takeInDeclarations_map_bare (first : Component) (rest : List Component) :
    takeInDeclarations first.bare (rest.map Component.bare) =
      ((takeInDeclarations first rest).1.bare,
        (takeInDeclarations first rest).2.map Component.bare) := by
  have unplaced : (fun c => !isSemicolon c) ∘ Component.bare = fun c => !isSemicolon c := by
    funext c
    simp
  have own (stretch : List Component) :
      (declaration? first.bare (stretch.map Component.bare)).getD
        (declarationFault first.bare (stretch.map Component.bare)) =
        ((declaration? first stretch).getD (declarationFault first stretch)).bare := by
    rw [declaration?_map_bare, declarationFault_map_bare]
    cases declaration? first stretch <;> rfl
  cases first with
  | leaf position token =>
    rw [bare_leaf] at own ⊢
    cases token with
    | atKeyword keyword => exact takeAtRule_map_bare keyword rest
    | _ => simp only [takeInDeclarations, List.takeWhile_map, List.dropWhile_map, unplaced, own]
  | block position opener content =>
    rw [bare_block] at own ⊢
    simp only [takeInDeclarations, List.takeWhile_map, List.dropWhile_map, unplaced, own]

theorem declarationItems_map_bare (components : List Component) :
    declarationItems (components.map Component.bare) = (declarationItems components).map bare := by
  fun_induction declarationItems components with
  | case1 => simp [declarationItems]
  | case2 c rest skipped ih =>
    rw [List.map_cons, declarationItems, isBlank_bare, isSemicolon_bare, if_pos skipped, ih]
  | case3 c rest read ih =>
    rw [List.map_cons, declarationItems, isBlank_bare, isSemicolon_bare, if_neg read,
      takeInDeclarations_map_bare, ih, List.map_cons]

end Item

namespace Rule

theorem written_map_bare (components : List Component) :
    written (components.map Component.bare) = written components := by
  rw [written, Component.writeAll_map_bare, written]

theorem declarations_map_bare (items : List Item) :
    declarations (items.map Item.bare) = declarations items := by
  rw [declarations, List.filterMap_map, declarations]
  congr 2
  funext item
  cases item <;> simp [Item.bare, written_map_bare]

theorem keyframes_map_bare (items : List Item) :
    keyframes (items.map Item.bare) = keyframes items := by
  rw [keyframes, List.filterMap_map, keyframes]
  congr 1
  funext item
  cases item <;> simp [Item.bare, written_map_bare, Item.declarationItems_map_bare,
    declarations_map_bare]

/-- Places do not decide which rules are made. -/
theorem fst_ofItems_map_bare (items : List Item) :
    (ofItems (items.map Item.bare)).1 = (ofItems items).1 := by
  induction items using Item.inwards with
  | nil => rfl
  | cons item rest inRule inAtRule after =>
    have own : ofItem? item.bare = ofItem? item := by
      cases item with
      | fault position cause => rfl
      | declaration name value => rfl
      | rule header content =>
        have inside := inRule header content rfl
        simp only [Item.bare, ofItem?, written_map_bare, Item.blockItems_map_bare,
          declarations_map_bare, inside]
      | atRule keyword header content =>
        cases content with
        | none => simp only [Item.bare, ofItem?, written_map_bare, Option.map_none]
        | some content =>
          have inside := inAtRule keyword header content rfl
          simp only [Item.bare, ofItem?, Option.map_some, written_map_bare, Item.ruleItems_map_bare,
            keyframes_map_bare, inside, groupingOf]
    rw [fst_ofItems, fst_ofItems] at after
    rw [fst_ofItems, fst_ofItems, List.map_cons, List.filterMap_cons,
      List.filterMap_cons, own, after]

end Rule

/-- The text has these component values, wherever in it they stand. -/
def Spells (text : Text) (components : List Component) : Prop :=
  overlongNumeral? (scan text) = none ∧
    (Component.ofLexemes ((scan text).filter fun (_, lexeme) => !lexeme.isComment)).map
      Component.bare =
      components.map Component.bare

/-- The rules of a text are those of its component values. -/
theorem Spells.ofText_eq {text : Text} {components : List Component}
    (spells : Spells text components) :
    ∃ notes, Rule.ofText text = .ok ((Rule.ofItems (Item.ruleItems true components)).1, notes) := by
  obtain ⟨short, same⟩ := spells
  have read : Item.ofText text = .ok (Item.ruleItems true
      (Component.ofLexemes ((scan text).filter fun (_, lexeme) => !lexeme.isComment))) := by
    unfold Item.ofText
    dsimp only
    rw [short]
  have rules := Rule.fst_ofItems_map_bare (Item.ruleItems true components)
  rw [← Item.ruleItems_map_bare, ← same, Item.ruleItems_map_bare,
    Rule.fst_ofItems_map_bare] at rules
  rw [Rule.ofText, read, ← rules]
  exact ⟨_, rfl⟩

end StyleScore
