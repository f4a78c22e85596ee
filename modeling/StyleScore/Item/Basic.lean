import StyleScore.Component.Describe
import StyleScore.Text.Lowercase

/-!
Items of a style sheet: rules, at-rules, declarations, and faults where none of them could be read.
Every reader takes the component values that are left, and what is left after it is no longer, so
the loops end.
-/
namespace StyleScore

/-- What is wrong where no item could be read. A rule has no block before the end or the semicolon;
a declaration has no name, no colon after it, or a block in its value. -/
inductive ItemFault where
  | endOfText | semicolon
  | noName (found : Kind)
  | noColon (found : Option Kind)
  | blockInValue
  deriving DecidableEq, Repr

def ItemFault.message : ItemFault → Text
  | endOfText => "EOF reached before \x7b\x7d block for a qualified rule.".toList
  | semicolon => "Stop token reached before \x7b\x7d block for a qualified rule.".toList
  | noName found => "Expected <ident> for declaration name, got ".toList ++ found.name ++ ['.']
  | noColon none => "Expected ':' after declaration name, got EOF".toList
  | noColon (some found) =>
    "Expected ':' after declaration name, got ".toList ++ found.name ++ ['.']
  | blockInValue => "Declaration contains \x7b\x7d block".toList

inductive Item where
  | rule (header content : List Component)
  | atRule (keyword : Text) (header : List Component) (content : Option (List Component))
  | declaration (name : Text) (value : List Component)
  | fault (position : Position) (cause : ItemFault)
  deriving DecidableEq, Repr

namespace Component

def isCurlyBlock (c : Component) : Bool := c.kind = .block .curly

/-- The marks around a style sheet inside a page. -/
def isPageMark (c : Component) : Bool :=
  c.kind = .literal "<!--".toList || c.kind = .literal "-->".toList

mutual

/-- The number of component values in one, itself included. -/
def weight : Component → Nat
  | leaf _ _ => 1
  | block _ _ content => 1 + weightAll content

/-- The number of component values in a list, nested ones included. -/
def weightAll : List Component → Nat
  | [] => 0
  | c :: rest => weight c + weightAll rest

end

theorem weightAll_append (a b : List Component) :
    weightAll (a ++ b) = weightAll a + weightAll b := by
  induction a with
  | nil => simp [weightAll]
  | cons c a ih => simp only [List.cons_append, weightAll, ih]; omega

theorem weight_pos (c : Component) : 0 < weight c := by
  cases c <;> simp only [weight] <;> omega

theorem weightAll_dropWhile_le (p : Component → Bool) (components : List Component) :
    weightAll (components.dropWhile p) ≤ weightAll components := by
  have h := weightAll_append (components.takeWhile p) (components.dropWhile p)
  rw [List.takeWhile_append_dropWhile] at h
  omega

end Component

namespace Item
open Component

/-- A header goes up to a block in curly brackets, and where `atSemicolon` also up to a
semicolon. -/
def endsHeader (atSemicolon : Bool) (c : Component) : Bool :=
  c.isCurlyBlock || (atSemicolon && c.isSemicolon)

def headerOf (atSemicolon : Bool) (components : List Component) : List Component :=
  components.takeWhile fun c => !endsHeader atSemicolon c

/-- The component values from the one on that ends a header. -/
def fromEnd (atSemicolon : Bool) (components : List Component) : List Component :=
  components.dropWhile fun c => !endsHeader atSemicolon c

/-- An at-rule after its keyword: a header and a block, or a header and a semicolon or the end. -/
def takeAtRule (keyword : Text) (components : List Component) : Item × List Component :=
  let header := headerOf true components
  match fromEnd true components with
  | .block _ (.block .curly) content :: rest => (.atRule keyword header (some content), rest)
  | rest => (.atRule keyword header none, rest.drop 1)

/-- The place of the last component value. -/
def lastPosition (first : Component) (rest : List Component) : Position :=
  ((first :: rest).getLast?.getD first).position

/-- A rule: a header and a block. A fault is at the semicolon, or at the last component value. -/
def takeRule (atSemicolon : Bool) (first : Component) (rest : List Component) :
    Item × List Component :=
  match fromEnd atSemicolon (first :: rest) with
  | .block _ (.block .curly) content :: left =>
    (.rule (headerOf atSemicolon (first :: rest)) content, left)
  | stop :: left => (.fault stop.position .semicolon, left)
  | [] => (.fault (lastPosition first rest) .endOfText, [])

/-- How far the words that make a value important have been read; `start` is where they began. -/
inductive Important where
  | none
  | mark (start : Nat)
  | word (start : Nat)
  deriving DecidableEq, Repr

/-- What is known of a value so far: its length, its importance, whether something other than blanks
stands in it, and whether a block stands after that. -/
structure ValueScan where
  length : Nat
  important : Important
  solid : Bool
  broken : Bool
  deriving DecidableEq, Repr

def ValueScan.step (scan : ValueScan) (c : Component) : ValueScan :=
  let length := scan.length + 1
  match scan.important, c with
  | .none, .leaf _ (.literal ['!']) => { scan with length, important := .mark scan.length }
  | .mark start, .leaf _ (.ident name) =>
    if Text.asciiLower name = "important".toList then { scan with length, important := .word start }
    else { scan with length, important := .none, solid := true }
  | _, c =>
    if c.isBlank then { scan with length }
    else
      { scan with
        length
        important := .none
        solid := true
        broken := scan.broken || (c.isCurlyBlock && scan.solid) }

/-- The value of a declaration without the words that make it important. It may hold a block only
before anything else. -/
def valueOf? (components : List Component) : Option (List Component) :=
  let scan := components.foldl ValueScan.step ⟨0, .none, false, false⟩
  if scan.broken then none
  else match scan.important with
    | .word start => some (components.take start)
    | _ => some components

/-- A declaration from its first component value on. -/
def declaration? (first : Component) (rest : List Component) : Option Item :=
  match first, rest.dropWhile Component.isBlank with
  | .leaf _ (.ident name), .leaf _ (.literal [':']) :: value =>
    (valueOf? value).map (.declaration name)
  | _, _ => none

/-- What keeps component values from being a declaration. -/
def declarationFault (first : Component) (rest : List Component) : Item :=
  match first, rest.dropWhile Component.isBlank with
  | .leaf position (.ident _), [] => .fault position (.noColon none)
  | .leaf _ (.ident _), next :: _ =>
    .fault next.position
      (if next.kind = .literal [':'] then .blockInValue else .noColon (some next.kind))
  | first, _ => .fault first.position (.noName first.kind)

/-- The component values that belong to a declaration in a block of rules, up to and with a block or
up to a semicolon; and those after it. -/
def declarationExtent (rest : List Component) : List Component × List Component :=
  match fromEnd true rest with
  | .block position (.block .curly) content :: left =>
    (headerOf true rest ++ [.block position (.block .curly) content], left)
  | left => (headerOf true rest, left.drop 1)

/-- A declaration, or else a rule. -/
def takeDeclarationOrRule (first : Component) (rest : List Component) : Item × List Component :=
  match declaration? first (declarationExtent rest).1 with
  | some item => (item, (declarationExtent rest).2)
  | none => takeRule true first rest

theorem length_fromEnd_le (atSemicolon : Bool) (components : List Component) :
    (fromEnd atSemicolon components).length ≤ components.length :=
  (List.dropWhile_sublist _).length_le

theorem length_takeAtRule_le (keyword : Text) (components : List Component) :
    (takeAtRule keyword components).2.length ≤ components.length := by
  have h := length_fromEnd_le true components
  unfold takeAtRule
  simp only
  split
  · next heq => rw [heq, List.length_cons] at h; simp only; omega
  · rw [List.length_drop]; omega

theorem length_takeRule_le (atSemicolon : Bool) (first : Component) (rest : List Component) :
    (takeRule atSemicolon first rest).2.length ≤ rest.length := by
  have h := length_fromEnd_le atSemicolon (first :: rest)
  unfold takeRule
  split
  · next heq => rw [heq, List.length_cons, List.length_cons] at h; simp only; omega
  · next heq => rw [heq, List.length_cons, List.length_cons] at h; simp only; omega
  · simp

theorem length_declarationExtent_le (rest : List Component) :
    (declarationExtent rest).2.length ≤ rest.length := by
  have h := length_fromEnd_le true rest
  unfold declarationExtent
  split
  · next heq => rw [heq, List.length_cons] at h; simp only; omega
  · rw [List.length_drop]; omega

theorem length_takeDeclarationOrRule_le (first : Component) (rest : List Component) :
    (takeDeclarationOrRule first rest).2.length ≤ rest.length := by
  unfold takeDeclarationOrRule
  split
  · exact length_declarationExtent_le rest
  · exact length_takeRule_le true first rest

/-- A rule or an at-rule from its first component value on. -/
def takeAny (first : Component) (rest : List Component) : Item × List Component :=
  match first with
  | .leaf _ (.atKeyword keyword) => takeAtRule keyword rest
  | first => takeRule false first rest

theorem length_takeAny_le (first : Component) (rest : List Component) :
    (takeAny first rest).2.length ≤ rest.length := by
  unfold takeAny
  split
  · exact length_takeAtRule_le _ rest
  · exact length_takeRule_le false first rest

/-- The items of a list of rules. At the top of a sheet the marks around it are passed over. -/
def ruleItems (top : Bool) : List Component → List Item
  | [] => []
  | c :: rest =>
    if c.isBlank || (top && c.isPageMark) then ruleItems top rest
    else (takeAny c rest).1 :: ruleItems top (takeAny c rest).2
termination_by components => components.length
decreasing_by
  · simp
  · have := length_takeAny_le c rest
    simp only [List.length_cons]
    omega

/-- An at-rule, a declaration or a rule from its first component value on. -/
def takeInBlock (first : Component) (rest : List Component) : Item × List Component :=
  match first with
  | .leaf _ (.atKeyword keyword) => takeAtRule keyword rest
  | first => takeDeclarationOrRule first rest

theorem length_takeInBlock_le (first : Component) (rest : List Component) :
    (takeInBlock first rest).2.length ≤ rest.length := by
  unfold takeInBlock
  split
  · exact length_takeAtRule_le _ rest
  · exact length_takeDeclarationOrRule_le first rest

/-- The items in the block of a style rule. -/
def blockItems : List Component → List Item
  | [] => []
  | c :: rest =>
    if c.isBlank || c.isSemicolon then blockItems rest
    else (takeInBlock c rest).1 :: blockItems (takeInBlock c rest).2
termination_by components => components.length
decreasing_by
  · simp
  · have := length_takeInBlock_le c rest
    simp only [List.length_cons]
    omega

/-- The item at the start of a list of declarations. What is no at-rule and no declaration is a
fault up to the next semicolon. -/
def takeInDeclarations (first : Component) (rest : List Component) : Item × List Component :=
  match first with
  | .leaf _ (.atKeyword keyword) => takeAtRule keyword rest
  | first =>
    let own := rest.takeWhile fun c => !c.isSemicolon
    ((declaration? first own).getD (declarationFault first own),
      rest.dropWhile fun c => !c.isSemicolon)

theorem length_takeInDeclarations_le (first : Component) (rest : List Component) :
    (takeInDeclarations first rest).2.length ≤ rest.length := by
  unfold takeInDeclarations
  split
  · exact length_takeAtRule_le _ rest
  · exact (List.dropWhile_sublist _).length_le

/-- The items in the block of a keyframe. -/
def declarationItems : List Component → List Item
  | [] => []
  | c :: rest =>
    if c.isBlank || c.isSemicolon then declarationItems rest
    else (takeInDeclarations c rest).1 :: declarationItems (takeInDeclarations c rest).2
termination_by components => components.length
decreasing_by
  · simp
  · have := length_takeInDeclarations_le c rest
    simp only [List.length_cons]
    omega

end Item
end StyleScore
