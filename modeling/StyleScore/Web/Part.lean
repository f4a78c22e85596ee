import StyleScore.Text.Blank
import StyleScore.Text.Utf8
import StyleScore.Web.Escape

/-!
Forms in parts. The heading of a part gives the name of its field, and of its file if it has one,
between quotes and otherwise as they are: no mark tells a quote or a line end that belongs to a name
from one that ends it. Main definition: `Part.sent`, the part that arrives for one that is written.
-/
namespace StyleScore.Web

namespace Heading

def write (name : Text) (fileName : Option Text) : Text :=
  "form-data; name=\"".toList ++ name ++ ['"'] ++
    match fileName with
    | some fileName => "; filename=\"".toList ++ fileName ++ ['"']
    | none => []

/-- The first line, where a line feed with a space or a tab after it is a space. -/
def firstLine : Text → Text
  | '\n' :: c :: rest => if c = ' ' || c = '\t' then ' ' :: firstLine rest else []
  | ['\n'] => []
  | c :: rest => c :: firstLine rest
  | [] => []

def isWordChar (c : Char) : Bool := c.isAlphanum || "_!#$%&'*+-.^`|~".toList.any (· = c)

/-- The text up to a closing quote and what follows the quote. A backslash keeps a quote or a
backslash after it from being read. -/
def splitQuoted : Text → Option (Text × Text)
  | '"' :: rest => some ([], rest)
  | '\\' :: c :: rest =>
    if c = '\\' || c = '"' then
      (splitQuoted rest).map fun (before, after) => ('\\' :: c :: before, after)
    else (splitQuoted (c :: rest)).map fun (before, after) => ('\\' :: before, after)
  | c :: rest => (splitQuoted rest).map fun (before, after) => (c :: before, after)
  | [] => none

/-- The value of an option as it is written, a word or a quoted text, and where reading goes on. -/
def value (text : Text) : Option Text × Text :=
  match text.takeWhile isWordChar, text with
  | [], '"' :: rest =>
    match splitQuoted rest with
    | some (quoted, rest) => (some ('"' :: quoted ++ ['"']), rest)
    | none => (none, text)
  | [], _ => (none, text)
  | word, _ => (some word, text)

/-- The option at the start of a text, if there is one, and where reading goes on. -/
def option (text : Text) : Option (Text × Text) × Text :=
  match text.span isWordChar with
  | (c :: key, '=' :: rest) =>
    let (value, rest) := value rest
    (value.map ((c :: key).map Char.toLower, ·), rest)
  | _ => (none, text)

/-- The options of a text with at most `marks` semicolons between them. -/
def optionsWithin (marks : Nat) (text : Text) : List (Text × Text) :=
  let (found, rest) := option text
  found.toList ++
    match marks, rest.dropWhile (· ≠ ';') with
    | marks + 1, _ :: rest => optionsWithin marks (Text.trimStart rest)
    | _, _ => []

/-- What a value stands for. In quotes, backslashes are paired first, then quotes are freed of their
backslashes, then of their number. -/
def unquote (value : Text) : Text :=
  if value.head? = some '"' && value.getLast? = some '"' then
    let paired := Text.replaceAll "\\\\".toList "\\".toList value.tail.dropLast
    Text.replaceAll "%22".toList "\"".toList (Text.replaceAll "\\\"".toList "\"".toList paired)
  else value

/-- How the bytes of escapes in a value become text, for the charsets that are known. -/
def decoder? (charset : Text) : Option (List UInt8 → Text) :=
  if charset = "utf-8".toList then some Text.Utf8.repair
  else if charset = "iso-8859-1".toList then some (·.map fun byte => Char.ofNat byte.toNat)
  else if charset = "ascii".toList || charset = "us-ascii".toList then
    some (·.map fun byte => if byte < 0x80 then Char.ofNat byte.toNat else '\uFFFD')
  else none

/-- The charset and the text of a value that names its charset: two apostrophes, with a language
between them that says nothing, stand before the text. -/
def splitCharset? (value : Text) : Option (Text × Text) :=
  let isMarkChar (c : Char) : Bool := isWordChar c && c ≠ '\''
  match value.span isMarkChar with
  | (charset, '\'' :: rest) =>
    match rest.dropWhile isMarkChar with
    | '\'' :: text =>
      match text.takeWhile isWordChar with
      | [] => none
      | text => some (charset.map Char.toLower, text)
    | _ => none
  | _ => none

/-- A key without the number of a piece: a star and digits. -/
def wholeKey? (key : Text) : Option Text :=
  match key.reverse.span Char.isDigit with
  | (_ :: _, '*' :: key) => some key.reverse
  | _ => none

/-- The options so far, the charset that was named last and the one that was used last. -/
structure Reading where
  options : List (Text × Text)
  charset : Text
  used : Text
  deriving DecidableEq, Repr

def Reading.get (reading : Reading) (key : Text) : Option Text :=
  (reading.options.find? (·.1 = key)).map Prod.snd

/-- Takes an option. A star after its key says that it has escapes, and the pieces of one value are
put together. -/
def Reading.take (reading : Reading) (key value : Text) : Reading :=
  let (reading, key, value) :=
    if key.getLast? = some '*' then
      let (named, value) := (splitCharset? value).getD (reading.charset, value)
      let charset := if named = [] then reading.used else named
      match decoder? charset with
      | some decode =>
        ({ reading with charset, used := charset }, key.dropLast, Escape.unescape decode value)
      | none => ({ reading with charset }, key.dropLast, value)
    else (reading, key, value)
  let (key, before) :=
    match wholeKey? key with
    | some whole => (whole, (reading.get whole).getD [])
    | none => (key, [])
  { reading with options := (key, before ++ unquote value) :: reading.options }

/-- The options of a heading: keys with values, after the first semicolon. -/
def read (heading : Text) : Reading :=
  let options :=
    match (firstLine (Text.plainLineEnds heading)).dropWhile (· ≠ ';') with
    | _ :: rest => optionsWithin rest.length (Text.trim rest)
    | [] => []
  options.foldl (fun reading (key, value) => reading.take key value) ⟨[], [], []⟩

end Heading

/-- A field of a form, or a file where it has the name of one. -/
structure Part where
  name : Option Text
  fileName : Option Text
  content : List UInt8
  deriving DecidableEq, Repr

namespace Part

/-- The part as its heading is read. -/
def sent (name : Text) (fileName : Option Text) (content : List UInt8) : Part :=
  let heading := Heading.read (Heading.write name fileName)
  ⟨heading.get "name".toList, heading.get "filename".toList, content⟩

/-- The name and the value of a field. -/
def field? (part : Part) : Option (Text × Text) :=
  match part.name, part.fileName with
  | some name, none => some (name, Text.Utf8.repair part.content)
  | _, _ => none

/-- The name and the bytes of the file in a field. -/
def fileIn? (field : Text) (part : Part) : Option (Text × List UInt8) :=
  if part.name = some field then part.fileName.map (·, part.content) else none

end Part
end StyleScore.Web
