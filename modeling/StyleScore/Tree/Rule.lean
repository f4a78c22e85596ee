import StyleScore.Component.Write
import StyleScore.Error
import StyleScore.Fields
import StyleScore.Item.Weight
import StyleScore.Text.Blank

/-!
The rules of a style sheet as a tree, built from its items. Rules nest in style rules and in
grouping at-rules; other at-rules are not entered, and faults are noted and left out.
-/
namespace StyleScore

/-- A grouping rule has a condition or a name, never both. Declarations keep the order of their
first appearance. -/
inductive Rule where
  | style (selector : Text) (declarations : List (Text × Text)) (rules : List Rule)
  | grouping (keyword : Text) (condition name : Option Text) (rules : List Rule)
  | statement (keyword header : Text)
  | keyframe (key : Text) (declarations : List (Text × Text))
  deriving Repr

/-- What is noted while rules are built: a fault, or the block of an at-rule that was not
entered. -/
inductive Note where
  | skipped (position : Position) (cause : ItemFault)
  | notEntered (keyword : Text)
  deriving DecidableEq, Repr

/-- What the block of an at-rule holds. -/
inductive BlockForm where
  | keyframes
  | rules (keyword : Text) (conditional : Bool)
  | unknown
  deriving DecidableEq, Repr

namespace Rule

/-- The keywords of at-rules whose block holds rules under a condition. -/
def conditionKeywords : List Text :=
  ["media".toList, "supports".toList, "scope".toList, "starting-style".toList, "document".toList,
    "container".toList]

/-- A keyword without the hyphen, small letters and hyphen that name a vendor. -/
def withoutVendor (keyword : Text) : Text :=
  match keyword with
  | '-' :: rest =>
    let vendor := rest.takeWhile Char.isLower
    match vendor, rest.drop vendor.length with
    | _ :: _, '-' :: name => name
    | _, _ => keyword
  | _ => keyword

def blockForm (keyword : Text) : BlockForm :=
  if Text.endsWith keyword "keyframes".toList then .keyframes
  else if conditionKeywords.contains (withoutVendor keyword) then .rules
    (withoutVendor keyword) true
  else if withoutVendor keyword = "layer".toList then .rules (withoutVendor keyword) false
  else .unknown

/-- Component values as text without blanks around it. -/
def written (components : List Component) : Text := (Component.writeAll components).trim

/-- The declarations among items. -/
def declarations (items : List Item) : List (Text × Text) :=
  Fields.collect (items.filterMap fun
    | .declaration name value => some (name, written value)
    | _ => none)

/-- The steps of keyframes: every rule among the items is one, and all else is left out. -/
def keyframes (items : List Item) : List Rule :=
  items.filterMap fun
    | .rule header content =>
      some (.keyframe (written header) (declarations (Item.declarationItems content)))
    | _ => none

/-- A text that is not empty. -/
def nonempty? (text : Text) : Option Text := if text = [] then none else some text

/-- The rules among items, and what is noted on the way, both in the order of the style sheet. -/
def ofItems : List Item → List Rule × List Note
  | [] => ([], [])
  | .fault position cause :: rest =>
    let (rules, notes) := ofItems rest
    (rules, .skipped position cause :: notes)
  | .declaration _ _ :: rest => ofItems rest
  | .rule header content :: rest =>
    let (inner, innerNotes) := ofItems (Item.blockItems content)
    let (rules, notes) := ofItems rest
    (.style (written header) (declarations (Item.blockItems content)) inner :: rules,
      innerNotes ++ notes)
  | .atRule keyword header none :: rest =>
    let (rules, notes) := ofItems rest
    (.statement (Text.asciiLower keyword) (written header) :: rules, notes)
  | .atRule keyword header (some content) :: rest =>
    match blockForm (Text.asciiLower keyword) with
    | .keyframes =>
      let (rules, notes) := ofItems rest
      (.grouping (Text.asciiLower keyword) none (nonempty? (written header))
        (keyframes (Item.ruleItems false content)) :: rules, notes)
    | .rules name conditional =>
      let (inner, innerNotes) := ofItems (Item.ruleItems false content)
      let (rules, notes) := ofItems rest
      let rule :=
        if conditional then grouping name (some (written header)) none inner
        else grouping name none (nonempty? (written header)) inner
      (rule :: rules, innerNotes ++ notes)
    | .unknown =>
      let (rules, notes) := ofItems rest
      (.statement (Text.asciiLower keyword) (written header) :: rules,
        .notEntered (Text.asciiLower keyword) :: notes)
termination_by items => Item.totalWeight items
decreasing_by
  · exact Item.totalWeight_lt_cons _ rest
  · exact Item.totalWeight_lt_cons _ rest
  · exact Item.totalWeight_blockItems_lt header content rest
  · exact Item.totalWeight_lt_cons _ rest
  · exact Item.totalWeight_lt_cons _ rest
  · exact Item.totalWeight_lt_cons _ rest
  · exact Item.totalWeight_ruleItems_lt keyword header content rest
  · exact Item.totalWeight_lt_cons _ rest
  · exact Item.totalWeight_lt_cons _ rest

end Rule

/-- The items at the top of a style sheet; comments count for nothing. -/
def Item.ofText (text : Text) : Except Error (List Item) :=
  let lexemes := scan text
  match overlongNumeral? lexemes with
  | some digits => .error (.overlongNumeral digits)
  | none =>
    .ok (ruleItems true (Component.ofLexemes (lexemes.filter fun (_, lexeme) => !lexeme.isComment)))

/-- The rules of a style sheet, with what is noted about it. -/
def Rule.ofText (text : Text) : Except Error (List Rule × List Note) :=
  (Item.ofText text).map Rule.ofItems

end StyleScore
