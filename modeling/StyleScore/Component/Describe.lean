import StyleScore.Component.Write

/-!
How component values are named in the messages about selectors.
-/
namespace StyleScore

def Kind.name : Kind → Text
  | .blank => "whitespace".toList
  | .ident => "ident".toList
  | .atKeyword => "at-keyword".toList
  | .hash => "hash".toList
  | .string => "string".toList
  | .url => "url".toList
  | .range => "unicode-range".toList
  | .number => "number".toList
  | .percentage => "percentage".toList
  | .dimension => "dimension".toList
  | .literal _ => "literal".toList
  | .comment => "comment".toList
  | .fault => "error".toList
  | .block bracket => bracket.opening :: bracket.closing :: " block".toList
  | .function => "function".toList

def TokenFault.name : TokenFault → Text
  | .badString => "bad-string".toList
  | .badUrl => "bad-url".toList
  | .endInString => "eof-in-string".toList
  | .endInUrl => "eof-in-url".toList
  | .unmatched bracket => [bracket.closing]

/-- A class of tokens and, after a space, which of it. -/
private def tagged (name : String) (detail : Text) : Text := name.toList ++ ' ' :: detail

def Token.describe : Token → Text
  | .blank _ => "WhitespaceToken".toList
  | .ident name => tagged "IdentToken" name
  | .atKeyword name => tagged "AtKeywordToken" ('@' :: name)
  | .hash name _ => tagged "HashToken" ('#' :: name)
  | .string value closed => tagged "StringToken" (Text.writeString value closed)
  | .url value closed => tagged "URLToken" (Text.writeUrl value closed)
  | .range first last => tagged "UnicodeRangeToken" (Text.ofNat first ++ ' ' :: Text.ofNat last)
  | .number written => tagged "NumberToken" written
  | .percentage written => tagged "PercentageToken" (written ++ ['%'])
  | .dimension written unit => tagged "DimensionToken" (written ++ unit)
  | .literal text => tagged "LiteralToken" text
  | .comment text => tagged "Comment" text
  | .fault cause => tagged "ParseError" cause.name

def Opener.describe : Opener → Text
  | .block .round => "ParenthesesBlock ( … )".toList
  | .block .square => "SquareBracketsBlock [ … ]".toList
  | .block .curly => "CurlyBracketsBlock \x7b … \x7d".toList
  | .function name => tagged "FunctionBlock" (name ++ "( … )".toList)

/-- A component value in angle brackets; contents of blocks are left out. -/
def Component.describe : Component → Text
  | leaf _ token => '<' :: token.describe ++ ['>']
  | block _ opener _ => '<' :: opener.describe ++ ['>']

end StyleScore
