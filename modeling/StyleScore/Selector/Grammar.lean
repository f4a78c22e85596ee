import StyleScore.Component.Describe

/-!
Selectors as data, and what can be wrong with the text of one.
-/
namespace StyleScore.Selector

inductive Combinator where
  | descendant | child | next | sibling
  deriving DecidableEq, Repr

/-- The pseudo-classes that hold a list of selectors. -/
inductive Logical where
  | oneOf | unweighted | has | not
  deriving DecidableEq, Repr

namespace Logical

def all : List Logical := [.oneOf, .unweighted, .has, .not]

def name : Logical → Text
  | .oneOf => "is".toList
  | .unweighted => "where".toList
  | .has => "has".toList
  | .not => "not".toList

def ofName? (name : Text) : Option Logical := all.find? fun l => l.name = name

/-- A forgiving list leaves out what cannot be read in it. -/
def forgiving (l : Logical) : Bool := l ≠ .not

/-- A selector of a relative list may start with a combinator. -/
def relative (l : Logical) : Bool := l = .has

end Logical

mutual

/-- A simple selector. A pseudo-element stands last in its selector. -/
inductive Simple where
  | universal
  | typeName (name : Text)
  | idName (name : Text)
  | className (name : Text)
  | attributeName (name : Text)
  | pseudoClass (name : Text)
  | pseudoElement (name : Text)
  | logical (function : Logical) (members : List Complex)

/-- Compound selectors, each a list of simple ones, joined by combinators. -/
inductive Complex where
  | compound (parts : List Simple)
  | joined (left : Complex) (combinator : Combinator) (parts : List Simple)

end

/-- The simple selectors after the last combinator. -/
def Complex.lastParts : Complex → List Simple
  | compound parts => parts
  | joined _ _ parts => parts

def Simple.isPseudoElement : Simple → Bool
  | pseudoElement _ => true
  | _ => false

def Complex.endsInPseudoElement (c : Complex) : Bool :=
  c.lastParts.getLast?.elim false Simple.isPseudoElement

/-- What a selector should have had at some place. -/
inductive Cause where
  | unexpectedToken
  | noCompound
  | undefinedPrefix (name : Text)
  | noLocalName
  | noClassName
  | noPseudoElementName
  | unknownPseudoElement (name : Text)
  | noPseudoClass
  | noAttributeName
  | noAttributeOperator
  | noAttributeValue
  | noAttributeEnd
  deriving DecidableEq, Repr

/-- Why a text is no selector: it breaks a rule at the component value `found`, or at its end; or
it ends after the bar of a namespace, which is never forgiven. -/
inductive Mistake where
  | broken (cause : Cause) (found : Option Component)
  | unfinished
  deriving Repr

/-- The message about a broken rule. -/
def Cause.message (cause : Cause) (found : Option Component) : Text :=
  let shown := found.elim "None".toList Component.describe
  let kind (atEnd : String) := found.elim atEnd.toList fun c => c.kind.name
  match cause with
  | unexpectedToken => "unexpected ".toList ++ kind "None" ++ " token.".toList
  | noCompound => "expected a compound selector, got ".toList ++ kind "EOF"
  | undefinedPrefix name => "undefined namespace prefix: ".toList ++ name
  | noLocalName => "expected local name, got ".toList ++ kind "None"
  | noClassName => "Expected a class name, got ".toList ++ shown
  | noPseudoElementName => "Expected a pseudo-element name, got ".toList ++ shown
  | unknownPseudoElement name => "Expected a supported pseudo-element, got ".toList ++ name
  | noPseudoClass => "unexpected ".toList ++ shown ++ " token.".toList
  | noAttributeName => "expected attribute name, got ".toList ++ shown
  | noAttributeOperator => "expected attribute selector operator, got ".toList ++ shown
  | noAttributeValue => "expected attribute value, got ".toList ++ kind "None"
  | noAttributeEnd => "expected ], got ".toList ++ kind "None"

end StyleScore.Selector
