import StyleScore.Tree.Rule

/-!
How rules come from items. The rules of a list of items are those of the items one by one
(`fst_ofItems`), and what holds of the blocks of all items in a list can be carried over to the list
(`inwards`).
-/
namespace StyleScore

/-- Induction over items, with the items in the blocks of rules and of at-rules. -/
@[elab_as_elim]
theorem Item.inwards {motive : List Item → Prop} (nil : motive [])
    (cons : ∀ item rest,
      (∀ header content, item = .rule header content → motive (blockItems content)) →
      (∀ keyword header content, item = .atRule keyword header (some content) →
        motive (ruleItems false content)) →
      motive rest → motive (item :: rest))
    (items : List Item) : motive items := by
  induction h : totalWeight items using Nat.strongRecOn generalizing items with
  | ind n ih =>
    subst h
    cases items with
    | nil => exact nil
    | cons item rest =>
      refine cons item rest ?_ ?_ (ih _ (totalWeight_lt_cons item rest) _ rfl)
      · rintro header content rfl
        exact ih _ (totalWeight_blockItems_lt header content rest) _ rfl
      · rintro keyword header content rfl
        exact ih _ (totalWeight_ruleItems_lt keyword header content rest) _ rfl

/-- A text has items unless it has a number that is too long to be read. -/
theorem Item.ofText_cases (text : Text) :
    (∃ items, Item.ofText text = .ok items) ∨
      ∃ digits, overlongNumeral? (scan text) = some digits ∧
        Item.ofText text = .error (.overlongNumeral digits) := by
  unfold Item.ofText
  dsimp only
  split
  · next digits overlong => exact .inr ⟨digits, overlong, rfl⟩
  · exact .inl ⟨_, rfl⟩

namespace Rule

/-- The grouping rule of an at-rule whose block holds rules: its header is the condition or the
name. -/
def groupingOf (keyword : Text) (conditional : Bool) (header : List Component) (rules : List Rule) :
    Rule :=
  if conditional then grouping keyword (some (written header)) none rules
  else grouping keyword none (nonempty? (written header)) rules

/-- The rule of an item, if it makes one. -/
def ofItem? : Item → Option Rule
  | .fault _ _ => none
  | .declaration _ _ => none
  | .rule header content =>
    some (.style (written header) (declarations (Item.blockItems content))
      (ofItems (Item.blockItems content)).1)
  | .atRule keyword header none => some (.statement (Text.asciiLower keyword) (written header))
  | .atRule keyword header (some content) =>
    match blockForm (Text.asciiLower keyword) with
    | .keyframes =>
      some (.grouping (Text.asciiLower keyword) none (nonempty? (written header))
        (keyframes (Item.ruleItems false content)))
    | .rules name conditional =>
      some (groupingOf name conditional header (ofItems (Item.ruleItems false content)).1)
    | .unknown => some (.statement (Text.asciiLower keyword) (written header))

/-- The four ways in which an item makes a rule. -/
theorem ofItem?_cases {item : Item} {made : Rule} (success : ofItem? item = some made) :
    (∃ header content, item = .rule header content ∧
      made = .style (written header) (declarations (Item.blockItems content))
        (ofItems (Item.blockItems content)).1) ∨
    (∃ keyword header content, item = .atRule keyword header content ∧
      (∀ block, content = some block → blockForm (Text.asciiLower keyword) = .unknown) ∧
      made = .statement (Text.asciiLower keyword) (written header)) ∨
    (∃ keyword header content, item = .atRule keyword header (some content) ∧
      blockForm (Text.asciiLower keyword) = .keyframes ∧
      made = .grouping (Text.asciiLower keyword) none (nonempty? (written header))
        (keyframes (Item.ruleItems false content))) ∨
    (∃ keyword header content name conditional, item = .atRule keyword header (some content) ∧
      blockForm (Text.asciiLower keyword) = .rules name conditional ∧
      made = groupingOf name conditional header (ofItems (Item.ruleItems false content)).1) := by
  cases item with
  | fault position cause => cases success
  | declaration name value => cases success
  | rule header content => exact .inl ⟨header, content, rfl, (Option.some.inj success).symm⟩
  | atRule keyword header content =>
    cases content with
    | none =>
      exact .inr (.inl ⟨keyword, header, none, rfl, by simp, (Option.some.inj success).symm⟩)
    | some content =>
      rw [ofItem?] at success
      split at success
      · next form =>
        exact .inr (.inr (.inl ⟨keyword, header, content, rfl, form,
          (Option.some.inj success).symm⟩))
      · next name conditional form =>
        exact .inr (.inr (.inr
          ⟨keyword, header, content, name, conditional, rfl, form, (Option.some.inj success).symm⟩))
      · next form =>
        exact .inr (.inl
          ⟨keyword, header, some content, rfl, fun _ _ => form, (Option.some.inj success).symm⟩)

/-- Every item makes its rule by itself. -/
theorem fst_ofItems (items : List Item) : (ofItems items).1 = items.filterMap ofItem? := by
  induction items with
  | nil => simp [ofItems]
  | cons item rest ih =>
    cases item with
    | fault position cause => simp [ofItems, List.filterMap_cons, ofItem?, ih]
    | declaration name value => simp [ofItems, List.filterMap_cons, ofItem?, ih]
    | rule header content => simp [ofItems, ofItem?, ih]
    | atRule keyword header content =>
      cases content with
      | none => simp [ofItems, ofItem?, ih]
      | some content =>
        rw [ofItems, List.filterMap_cons, ofItem?]
        cases blockForm (Text.asciiLower keyword) with
        | keyframes => simp [ih]
        | rules name conditional => simp [ih, groupingOf]
        | unknown => simp [ih]

end Rule
end StyleScore
