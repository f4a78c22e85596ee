import StyleScore.Token.Scan

/-!
Component values: tokens with their brackets matched. A closing bracket closes the innermost open
block or function when it fits and is a fault otherwise; all that is open at the end is closed.
-/
namespace StyleScore

inductive Component where
  | leaf (position : Position) (token : Token)
  | block (position : Position) (opener : Opener) (content : List Component)
  deriving Repr

namespace Component

mutual

def decEq : (a b : Component) → Decidable (a = b)
  | leaf position token, leaf place other =>
    if same : position = place ∧ token = other then .isTrue (by rw [same.1, same.2])
    else .isFalse (by simpa using same)
  | leaf _ _, block _ _ _ => .isFalse (by simp)
  | block _ _ _, leaf _ _ => .isFalse (by simp)
  | block position opener content, block place other others =>
    if same : position = place ∧ opener = other then
      match decEqList content others with
      | .isTrue all => .isTrue (by rw [same.1, same.2, all])
      | .isFalse differ => .isFalse (by simp [differ])
    else .isFalse (by simp only [block.injEq]; exact fun all => same ⟨all.1, all.2.1⟩)

def decEqList : (a b : List Component) → Decidable (a = b)
  | [], [] => .isTrue rfl
  | [], _ :: _ => .isFalse (by simp)
  | _ :: _, [] => .isFalse (by simp)
  | c :: rest, d :: others =>
    match decEq c d, decEqList rest others with
    | .isTrue first, .isTrue later => .isTrue (by rw [first, later])
    | .isFalse differ, _ => .isFalse (by simp [differ])
    | _, .isFalse differ => .isFalse (by simp [differ])

end

instance : DecidableEq Component := decEq

end Component

/-- What a component value is, without its contents; a literal is known by its text. -/
inductive Kind where
  | blank | ident | atKeyword | hash | string | url | range | number | percentage | dimension
  | literal (text : Text)
  | comment | fault
  | block (bracket : Bracket)
  | function
  deriving DecidableEq, Repr

namespace Component

def position : Component → Position
  | leaf position _ => position
  | block position _ _ => position

def kind : Component → Kind
  | leaf _ (.blank _) => .blank
  | leaf _ (.ident _) => .ident
  | leaf _ (.atKeyword _) => .atKeyword
  | leaf _ (.hash _ _) => .hash
  | leaf _ (.string _ _) => .string
  | leaf _ (.url _ _) => .url
  | leaf _ (.range _ _) => .range
  | leaf _ (.number _) => .number
  | leaf _ (.percentage _) => .percentage
  | leaf _ (.dimension _ _) => .dimension
  | leaf _ (.literal text) => .literal text
  | leaf _ (.comment _) => .comment
  | leaf _ (.fault _) => .fault
  | block _ (.block bracket) _ => .block bracket
  | block _ (.function _) _ => .function

def isBlank (c : Component) : Bool := c.kind = .blank

def isBlankOrComment (c : Component) : Bool := c.kind = .blank || c.kind = .comment

/-- The semicolon that ends declarations and at-rules. -/
def isSemicolon (c : Component) : Bool := c.kind = .literal [';']

/-- A block that is open: its place, what opened it, and what stood before it, last first. -/
structure Frame where
  position : Position
  opener : Opener
  before : List Component
  deriving Repr

/-- Blocks still open, innermost first, and the contents of the innermost so far, last first. -/
structure Nest where
  frames : List Frame
  content : List Component
  deriving Repr

namespace Nest

def empty : Nest := ⟨[], []⟩

/-- The contents of the innermost block become one component value of the block around it. -/
def closeInto (frame : Frame) (content : List Component) : List Component :=
  .block frame.position frame.opener content.reverse :: frame.before

def step (nest : Nest) : Position × Lexeme → Nest
  | (position, .token token) => { nest with content := .leaf position token :: nest.content }
  | (position, .opening opener) => ⟨⟨position, opener, nest.content⟩ :: nest.frames, []⟩
  | (position, .closing bracket) =>
    match nest.frames with
    | frame :: frames =>
      if frame.opener.bracket = bracket then ⟨frames, closeInto frame nest.content⟩
      else { nest with content := .leaf position (.fault (.unmatched bracket)) :: nest.content }
    | [] => { nest with content := .leaf position (.fault (.unmatched bracket)) :: nest.content }

/-- All open blocks are closed. -/
def finish (nest : Nest) : List Component :=
  (nest.frames.foldl (fun content frame => closeInto frame content) nest.content).reverse

end Nest

def ofLexemes (lexemes : List (Position × Lexeme)) : List Component :=
  (lexemes.foldl Nest.step .empty).finish

end Component

def Lexeme.isComment : Lexeme → Bool
  | .token (.comment _) => true
  | _ => false

end StyleScore
