import StyleScore.Error
import StyleScore.Text.Alike
import StyleScore.Text.Blank
import StyleScore.Text.Lowercase
import StyleScore.Text.Word

/-!
The header of an at-rule, such as `@media screen and (min-width: 900px)`: its word, its condition,
the tokens in it and its weight.
-/
namespace StyleScore.Header

/-- The text that is searched: lower case, runs of blanks as one space, the first opening and the
first closing bracket without a space inside, no blanks at colons or around. -/
def tidy (text : Text) : Text :=
  let text := Text.collapseBlanks (Text.lower text)
  let text := Text.replaceFirst "( ".toList "(".toList text
  let text := Text.replaceFirst " )".toList ")".toList text
  (Text.tightenColons text).trim

/-- How messages show a header. -/
def describe (text : Text) : Text := "AtRule(".toList ++ Text.quoted text ++ [')']

/-- The words of at-rules. -/
def ruleWords : List Text :=
  ["charset".toList, "counter-style".toList, "document".toList, "font-face".toList,
    "font-feature-values".toList, "import".toList, "keyframes".toList, "layer".toList,
    "media".toList, "name-space".toList, "page".toList, "property".toList, "scope".toList,
    "starting-style".toList, "supports".toList]

/-- The at-rules whose header is a condition and not a name. -/
def conditionalWords : List Text :=
  ["media".toList, "scope".toList, "starting-style".toList, "supports".toList, "document".toList]

def featureWords : List Text :=
  ["all".toList, "aural".toList, "braille".toList, "embossed".toList, "handheld".toList,
    "print".toList, "projection".toList, "screen".toList, "tty".toList, "tv".toList,
    "presentation".toList]

def operatorWords : List Text :=
  ["and".toList, "not".toList, "only".toList, "or".toList, ",".toList]

/-- A text need only contain one of the words. -/
def mentions (words : List Text) (text : Text) : Bool :=
  words.any fun word => Text.containsAlike word text

/-- The word characters after the first at sign that has any. -/
def wordIn? : Text → Option Text
  | [] => none
  | c :: rest =>
    if c = '@' && rest.takeWhile Text.isWordChar ≠ [] then some (rest.takeWhile Text.isWordChar)
    else wordIn? rest

/-- The word of a header that is not empty. -/
def word (header : Text) : Except Error Text :=
  match wordIn? (tidy header) with
  | some word => .ok word
  | none => .error (.noHeaderWord header)

/-- The word of a header; an empty one has none. -/
def word? (header : Text) : Except Error (Option Text) :=
  if header = [] then .ok none else (word header).map some

/-- The text between the first two occurrences of a word, or after the only one. -/
def between? (word text : Text) : Option Text :=
  (Text.cutAt? word text).map fun (_, rest) =>
    match Text.cutAt? word rest with
    | some (before, _) => before
    | none => rest

/-- What stands after the word of a header, up to where the word comes again. The word is that of
the tidied header, so one written in capitals is not found. -/
def condition? (header : Text) : Except Error (Option Text) :=
  if header = [] then .ok none
  else do
    let word ← word header
    match between? word header with
    | some text => return some text.trim
    | none => .error (.headerWordNotFound word header)

inductive Token where
  | rule (word : Text) (conditional : Bool)
  | feature (text : Text)
  | range (text : Text)
  | operator (text : Text)
  deriving DecidableEq, Repr

/-- The token of an at-rule's word, if the text holds an at sign and a known word. -/
def ruleToken? (text : Text) : Except Error (Option Token) :=
  if '@' ∉ tidy text then .ok none
  else do
    let word ← word (tidy text)
    if mentions ruleWords word then return some (.rule word (conditionalWords.contains word))
    else return none

/-- The token of a piece without spaces. The kinds are tried in this order, and the first that fits
decides. -/
def pieceToken? (piece : Text) : Except Error (Option Token) :=
  if mentions ruleWords piece then ruleToken? piece
  else if mentions featureWords piece then .ok (some (.feature piece))
  else if mentions operatorWords piece then .ok (some (.operator piece))
  else if '(' ∈ piece && ')' ∈ piece then .ok (some (.range piece))
  else .ok none

/-- The tokens of pieces, in order, up to the first error. -/
def pieceTokens : List Text → Except Error (List Token)
  | [] => .ok []
  | piece :: pieces => do
    let token ← pieceToken? piece
    let tokens ← pieceTokens pieces
    return token.toList ++ tokens

/-- The tokens of a header, one for each of its space-separated pieces that is known. -/
def tokens (header : Text) : Except Error (List Token) :=
  pieceTokens (Text.splitAt ' ' (tidy header))

/-- Ranges of features weigh nothing, every other token one. -/
def Token.isWeighed : Token → Bool
  | range _ => false
  | _ => true

def weight (header : Text) : Except Error Nat :=
  (tokens header).map fun tokens => tokens.countP Token.isWeighed

/-- What a report says about a header. -/
structure Record where
  word? : Option Text
  condition? : Option Text
  weight : Nat
  deriving DecidableEq, Repr

/-- The record of a header; the first error of word, condition and weight counts. -/
def record (header : Text) : Except Error Record := do
  let word? ← word? header
  let condition? ← condition? header
  let weight ← weight header
  return ⟨word?, condition?, weight⟩

end StyleScore.Header
