import StyleScore.Error
import StyleScore.Selector.Parse

/-!
The specificity of a selector: how many names of identity, of class and of type it holds, compared
in this order. A list is as specific as its most specific member.
-/
namespace StyleScore

/-- Integers, so that a rule of counting other than the standard one may also subtract. -/
structure Specificity where
  ids : Int
  classes : Int
  types : Int
  deriving DecidableEq, Repr

namespace Specificity

def zero : Specificity := ⟨0, 0, 0⟩

def add (a b : Specificity) : Specificity :=
  ⟨a.ids + b.ids, a.classes + b.classes, a.types + b.types⟩

/-- Lexicographic comparison. -/
def below (a b : Specificity) : Bool :=
  a.ids < b.ids ||
    (a.ids = b.ids && (a.classes < b.classes || (a.classes = b.classes && a.types < b.types)))

/-- The more specific of two. -/
def join (a b : Specificity) : Specificity := if a.below b then b else a

def total (s : Specificity) : Int := s.ids + s.classes + s.types

end Specificity

namespace Selector

mutual

def Simple.specificity : Simple → Specificity
  | .universal => .zero
  | .typeName _ => ⟨0, 0, 1⟩
  | .idName _ => ⟨1, 0, 0⟩
  | .className _ => ⟨0, 1, 0⟩
  | .attributeName _ => ⟨0, 1, 0⟩
  | .pseudoClass _ => ⟨0, 1, 0⟩
  | .pseudoElement _ => ⟨0, 0, 1⟩
  | .logical .unweighted _ => .zero
  | .logical _ members => greatest members

def Complex.specificity : Complex → Specificity
  | .compound parts => sum parts
  | .joined left _ parts => (Complex.specificity left).add (sum parts)

/-- The specificity of simple selectors side by side. -/
def sum : List Simple → Specificity
  | [] => .zero
  | part :: parts => (Simple.specificity part).add (sum parts)

/-- The greatest specificity in a list of selectors. -/
def greatest : List Complex → Specificity
  | [] => .zero
  | selector :: selectors => (Complex.specificity selector).join (greatest selectors)

end

/-- The selectors that a text lists. -/
def parse (text : Text) : Except Error (List Complex) :=
  let lexemes := scan text
  match overlongNumeral? lexemes with
  | some digits => .error (.overlongNumeral digits)
  | none =>
    match ofComponents (Component.ofLexemes lexemes) with
    | .ok selectors => .ok selectors
    | .error (.broken cause found) => .error (.selectorSyntax (Text.quoted text) cause found)
    | .error .unfinished => .error .missingAttribute

/-- The specificity of a text; the empty text has none. -/
def specificity (text : Text) : Except Error Specificity :=
  if text = [] then .ok .zero else (parse text).map greatest

end Selector
end StyleScore
