import StyleScore.Component.Basic

/-!
Component values written back as text. Two neighbours that would read as something else when they
touch are kept apart by an empty comment.
-/
namespace StyleScore

namespace Text

/-- Line ends in names, strings and urls are written by their code. -/
def escapeLineEnd? (c : Char) : Option Text :=
  if c = '\n' then some "\\A ".toList
  else if c = '\r' then some "\\D ".toList
  else if c = '\x0c' then some "\\C ".toList
  else none

def writeNameChar (c : Char) : Text :=
  if Scan.isNameChar c then [c] else (escapeLineEnd? c).getD ['\\', c]

/-- The characters of a name, from its second on. -/
def writeName (name : Text) : Text := name.flatMap writeNameChar

/-- The first character of a name, where a digit is written by its code. -/
def writeNameStart (c : Char) : Text :=
  if Scan.isNameStart c then [c]
  else if c.isDigit then ['\\', '3', c, ' ']
  else (escapeLineEnd? c).getD ['\\', c]

def writeIdent : Text → Text
  | [] => []
  | ['-'] => ['\\', '-']
  | '-' :: '-' :: rest => '-' :: '-' :: writeName rest
  | '-' :: c :: rest => '-' :: writeNameStart c ++ writeName rest
  | c :: rest => writeNameStart c ++ writeName rest

def writeStringChar (c : Char) : Text :=
  if c = '"' || c = '\\' then ['\\', c] else (escapeLineEnd? c).getD [c]

/-- A string in double quotes, the last of them only when it is `closed`. -/
def writeString (value : Text) (closed : Bool) : Text :=
  '"' :: value.flatMap writeStringChar ++ (if closed then ['"'] else [])

def writeUrlChar (c : Char) : Text :=
  if c ∈ "'\"\\() ".toList then ['\\', c]
  else if c = '\t' then "\\9 ".toList
  else (escapeLineEnd? c).getD [c]

def writeUrl (value : Text) (closed : Bool) : Text :=
  "url(".toList ++ value.flatMap writeUrlChar ++ (if closed then [')'] else [])

/-- A unit, whose leading `e` is written by its code where it would read as an exponent. -/
def writeUnit : Text → Text
  | [] => []
  | c :: rest =>
    if (c = 'e' || c = 'E') && (rest = [] || rest.head? = some '-') then "\\65 ".toList ++
      writeName rest
    else writeIdent (c :: rest)

def upperHex (n : Nat) : Text := (Nat.toDigits 16 n).map Char.toUpper

def writeRange (first last : Nat) : Text :=
  "U+".toList ++ upperHex first ++ (if first = last then [] else '-' :: upperHex last)

end Text

def TokenFault.write : TokenFault → Text
  | .badString => "\"[bad string]\n".toList
  | .badUrl => "url([bad url])".toList
  | .endInString => []
  | .endInUrl => []
  | .unmatched bracket => [bracket.closing]

def Token.write : Token → Text
  | .blank text => text
  | .ident name => Text.writeIdent name
  | .atKeyword name => '@' :: Text.writeIdent name
  | .hash name isIdent => '#' :: (if isIdent then Text.writeIdent name else Text.writeName name)
  | .string value closed => Text.writeString value closed
  | .url value closed => Text.writeUrl value closed
  | .range first last => Text.writeRange first last
  | .number written => written
  | .percentage written => written ++ ['%']
  | .dimension written unit => written ++ Text.writeUnit unit
  | .literal text => text
  | .comment text => "/*".toList ++ text ++ "*/".toList
  | .fault cause => cause.write

namespace Kind

def isName (k : Kind) : Bool := k ∈ [.ident, .atKeyword, .hash, .dimension]

def isNumeric (k : Kind) : Bool := k ∈ [.number, .percentage, .dimension]

/-- The literal made of one character. -/
def sign (c : Char) : Kind := .literal [c]

/-- Neighbours that would run together. -/
def touches (a b : Kind) : Bool :=
  ((a.isName || a ∈ [sign '#', sign '-', .number]) &&
      (b.isNumeric || b ∈ [.ident, .function, .url, .range])) ||
    (a.isName && b ∈ [sign '-', .literal "-->".toList]) ||
    (a = sign '@' && b ∈ [.ident, .function, .url, .range, sign '-']) ||
    (a ∈ [.range, sign '.', sign '+'] && b.isNumeric) ||
    (a = .range && b ∈ [.ident, .function, sign '?']) ||
    (a ∈ [sign '$', sign '*', sign '^', sign '~', sign '|'] && b = sign '=') ||
    (a = .ident && b = .block .round) ||
    (a = sign '|' && b = sign '|') ||
    (a = sign '/' && b = sign '*')

end Kind

namespace Component

/-- What is written before a component value that follows one of kind `previous`. -/
def separator (previous : Option Kind) (c : Component) : Text :=
  match previous with
  | none => []
  | some k =>
    if k.touches c.kind then "/**/".toList
    else if k = .sign '\\' then
      match c with
      | leaf _ (.blank ('\n' :: _)) => []
      | _ => ['\n']
    else []

mutual

/-- The text ended in a string that is the last argument, or in the last argument of that one. -/
def endsInString : Component → Bool
  | leaf _ _ => false
  | block _ (.block _) _ => false
  | block _ (.function _) content => lastEndsInString content

def lastEndsInString : List Component → Bool
  | [] => false
  | [leaf _ token] => token = .fault .endInString
  | [block position opener content] => endsInString (block position opener content)
  | _ :: c :: rest => lastEndsInString (c :: rest)

end

mutual

/-- One component value; a function stays open when the text ended inside a string of it. -/
def write : Component → Text
  | leaf _ token => token.write
  | block _ (.block bracket) content =>
    bracket.opening :: writeFrom none content ++ [bracket.closing]
  | block _ (.function name) content =>
    Text.writeIdent name ++ '(' :: writeFrom none content ++
      (if lastEndsInString content then [] else [')'])

/-- Component values that follow one of kind `previous`. -/
def writeFrom (previous : Option Kind) : List Component → Text
  | [] => []
  | c :: rest => separator previous c ++ write c ++ writeFrom (some c.kind) rest

end

/-- The text of a list of component values. -/
def writeAll (components : List Component) : Text := writeFrom none components

end Component
end StyleScore
