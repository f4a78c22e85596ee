import StyleScore.Text.Basic

/-!
The tokens of a style sheet and their places in it.
-/
namespace StyleScore

/-- Line and column, both from one; columns count code points. -/
structure Position where
  line : Nat
  column : Nat
  deriving DecidableEq, Repr

namespace Position

def start : Position := ⟨1, 1⟩

/-- The place after one more character. -/
def next (p : Position) (c : Char) : Position :=
  if c = '\n' then ⟨p.line + 1, 1⟩ else ⟨p.line, p.column + 1⟩

/-- The place after a text. -/
def after (p : Position) (text : Text) : Position := text.foldl next p

end Position

inductive Bracket where
  | round | square | curly
  deriving DecidableEq, Repr

namespace Bracket

def opening : Bracket → Char
  | .round => '('
  | .square => '['
  | .curly => '\x7b'

def closing : Bracket → Char
  | .round => ')'
  | .square => ']'
  | .curly => '\x7d'

end Bracket

/-- What is wrong at a place where no token could be read. -/
inductive TokenFault where
  | badString | badUrl | endInString | endInUrl
  | unmatched (bracket : Bracket)
  deriving DecidableEq, Repr

/-- A token that holds no other tokens. Names and values are given without escapes; `written` is
the source text of a number. A string or url is `closed` unless the text ended inside it. -/
inductive Token where
  | blank (text : Text)
  | ident (name : Text)
  | atKeyword (name : Text)
  | hash (name : Text) (isIdent : Bool)
  | string (value : Text) (closed : Bool)
  | url (value : Text) (closed : Bool)
  | range (first last : Nat)
  | number (written : Text)
  | percentage (written : Text)
  | dimension (written unit : Text)
  | literal (text : Text)
  | comment (text : Text)
  | fault (cause : TokenFault)
  deriving DecidableEq, Repr

/-- What opens a nested list of tokens: a bracket, or a name directly before a round one. -/
inductive Opener where
  | block (bracket : Bracket)
  | function (name : Text)
  deriving DecidableEq, Repr

/-- The bracket that closes what was opened. -/
def Opener.bracket : Opener → Bracket
  | .block bracket => bracket
  | .function _ => .round

/-- One step of the scanner's output, before brackets are matched. -/
inductive Lexeme where
  | token (token : Token)
  | opening (opener : Opener)
  | closing (bracket : Bracket)
  deriving DecidableEq, Repr

end StyleScore
