import StyleScore.Selector.Grammar
import StyleScore.Text.Quoted
import StyleScore.Text.Utf8
import StyleScore.Web.Name.Fault

/-!
Everything that can go wrong, one constructor for each cause. `label` is the name of its class and
`message?` its text, as they stand in answers and in the log file.
-/
namespace StyleScore

/-- Why the file system refused a request. -/
inductive FileCause where
  | noSuchFile | fileExists | notDirectory | isDirectory
  deriving DecidableEq, Repr

def FileCause.number : FileCause → Nat
  | noSuchFile => 2
  | fileExists => 17
  | notDirectory => 20
  | isDirectory => 21

def FileCause.text : FileCause → Text
  | noSuchFile => "No such file or directory".toList
  | fileExists => "File exists".toList
  | notDirectory => "Not a directory".toList
  | isDirectory => "Is a directory".toList

def FileCause.label : FileCause → Text
  | noSuchFile => "FileNotFoundError".toList
  | fileExists => "FileExistsError".toList
  | notDirectory => "NotADirectoryError".toList
  | isDirectory => "IsADirectoryError".toList

inductive Error where
  /-- A value that has to be a text is none; `what` names it. -/
  | notText (what : Text)
  | noRuleTree
  /-- A header without an at sign that a word follows. -/
  | noHeaderWord (header : Text)
  /-- The word of the tidied header does not stand in the header as written. -/
  | headerWordNotFound (word header : Text)
  /-- A text, or another value, that is no selector; `shown` is how messages show it. -/
  | selectorSyntax (shown : Text) (cause : Selector.Cause) (found : Option Component)
  | noOutput
  | unreadable (path : Text)
  | unparsable (path : Text)
  /-- The style sheet of a request cannot be read. -/
  | unparsableRequest
  /-- A number in a text has too many digits to be read. -/
  | overlongNumeral (digits : Nat)
  /-- A whole number has too many digits to be written. -/
  | overlongInteger
  | noFileName
  /-- A path or a setting with a null character. -/
  | embeddedNull
  | badText (fault : Text.Utf8.Fault)
  | namelessPath
  | badNumber (text : Text)
  /-- The host of an address has a bracket of one kind and none of the other. -/
  | unpairedBracket
  /-- What stands between the brackets of a host is no number of a host. -/
  | badHostNumber (text : Text)
  | badLaterHostNumber
  /-- A number of a host with dots stands in brackets. -/
  | bracketedHostNumber
  /-- The host of an address has a character that stands for a mark which divides addresses. -/
  | hiddenMark (authority : Text)
  | badPort (text : Text)
  | portTooLarge
  /-- A host name that cannot be encoded. -/
  | unencodableName (fault : Web.Name.Fault)
  /-- A host name that cannot be decoded. -/
  | undecodableName (fault : Web.Name.Fault)
  | file (cause : FileCause) (path : Text)
  | notSerialisable (type : Text)
  /-- A page that needs the summary of a report which has none. -/
  | noSummary
  | wrongType
  | missingKey
  | missingAttribute
  | overflow
  deriving DecidableEq, Repr

namespace Error

def label : Error → Text
  | notText _ => "InvalidInputError".toList
  | noRuleTree => "MissingRuleTreeError".toList
  | noHeaderWord _ => "AtRuleTypeNotFoundError".toList
  | headerWordNotFound _ _ => "AtRuleTypeNotFoundError".toList
  | selectorSyntax _ _ _ => "SelectorSyntaxError".toList
  | noOutput => "OutputError".toList
  | unreadable _ => "CSSWeightsError".toList
  | unparsable _ => "CSSWeightsError".toList
  | unparsableRequest => "CSSWeightsError".toList
  | overlongNumeral _ => "ValueError".toList
  | overlongInteger => "ValueError".toList
  | noFileName => "ValueError".toList
  | embeddedNull => "ValueError".toList
  | badText _ => "UnicodeDecodeError".toList
  | namelessPath => "ValueError".toList
  | badNumber _ => "ValueError".toList
  | unpairedBracket | badHostNumber _ | badLaterHostNumber | bracketedHostNumber =>
    "ValueError".toList
  | hiddenMark _ | badPort _ | portTooLarge => "ValueError".toList
  | unencodableName _ | undecodableName _ => "UnicodeError".toList
  | file cause _ => cause.label
  | notSerialisable _ => "TypeError".toList
  | noSummary => "UndefinedError".toList
  | wrongType => "TypeError".toList
  | missingKey => "KeyError".toList
  | missingAttribute => "AttributeError".toList
  | overflow => "OverflowError".toList

/-- What a fault in encoded text is called: the bytes from `first` to `last`. -/
def badTextMessage (fault : Text.Utf8.Fault) : Text :=
  let place :=
    if fault.first = fault.last then
      "byte 0x".toList ++ Text.hex 2 fault.lead.toNat ++ " in position ".toList ++
        Text.ofNat fault.first
    else "bytes in position ".toList ++ Text.ofNat fault.first ++ '-' :: Text.ofNat fault.last
  let reason :=
    match fault.reason with
    | .badStart => "invalid start byte"
    | .badContinuation => "invalid continuation byte"
    | .endOfData => "unexpected end of data"
  "'utf-8' codec can't decode ".toList ++ place ++ ": ".toList ++ reason.toList

/-- The text of an error; some causes have none. -/
def message? : Error → Option Text
  | notText what => some (what ++ " must be a string".toList)
  | noRuleTree => some "A rule tree with css_rules is required".toList
  | noHeaderWord header => some ("No at-rule marker found in ".toList ++ Text.quoted header)
  | headerWordNotFound word header =>
    some ("At-rule keyword ".toList ++ Text.quoted word ++ " not found in ".toList ++
      Text.quoted header)
  | selectorSyntax shown cause found =>
    some ("Cannot compute specificity of ".toList ++ shown ++ ": (".toList ++
      found.elim "None".toList Component.describe ++ ", ".toList ++
      Text.quoted (cause.message found) ++ [')'])
  | noOutput => some "No data or filename provided".toList
  | unreadable path => some ("Could not read ".toList ++ path)
  | unparsable path => some ("Could not parse ".toList ++ path)
  | unparsableRequest => some "CSS could not be parsed".toList
  | overlongNumeral digits =>
    some ("Exceeds the limit (4300 digits) for integer string conversion: value has ".toList ++
      Text.ofNat digits ++
      " digits; use sys.set_int_max_str_digits() to increase the limit".toList)
  | overlongInteger =>
    some ("Exceeds the limit (4300 digits) for integer string conversion; ".toList ++
      "use sys.set_int_max_str_digits() to increase the limit".toList)
  | noFileName => some "FileName not provided".toList
  | embeddedNull => some "embedded null byte".toList
  | badText fault => some (badTextMessage fault)
  | namelessPath => some "PosixPath('.') has an empty name".toList
  | badNumber text => some ("invalid literal for int() with base 10: ".toList ++ Text.quoted text)
  | unpairedBracket => some "Invalid IPv6 URL".toList
  | badHostNumber text =>
    some (Text.quoted text ++ " does not appear to be an IPv4 or IPv6 address".toList)
  | badLaterHostNumber => some "IPvFuture address is invalid".toList
  | bracketedHostNumber => some "An IPv4 address cannot be in brackets".toList
  | hiddenMark authority =>
    some ("netloc '".toList ++ authority ++
      "' contains invalid characters under NFKC normalization".toList)
  | badPort text => some ("Port could not be cast to integer value as ".toList ++ Text.quoted text)
  | portTooLarge => some "Port out of range 0-65535".toList
  | unencodableName fault => some fault.encodingText
  | undecodableName fault => some fault.decodingText
  | file cause path =>
    some ("[Errno ".toList ++ Text.ofNat cause.number ++ "] ".toList ++ cause.text ++ ": ".toList ++
      Text.quoted path)
  | notSerialisable type =>
    some ("Object of type ".toList ++ type ++ " is not JSON serializable".toList)
  | noSummary => some "'dict object' has no attribute 'summary'".toList
  | wrongType => none
  | missingKey => none
  | missingAttribute => none
  | overflow => none

/-- The errors that scoring itself announces. -/
def isAnnounced : Error → Bool
  | notText _ | noRuleTree | noHeaderWord _ | headerWordNotFound _ _ | selectorSyntax _ _ _ => true
  | noOutput | unreadable _ | unparsable _ | unparsableRequest => true
  | _ => false

/-- The errors after which a run goes on with the next style sheet. -/
def isSurvivable : Error → Bool
  | overlongNumeral _ | overlongInteger | noFileName | embeddedNull | badText _ => true
  | namelessPath | badNumber _ => true
  | unpairedBracket | badHostNumber _ | badLaterHostNumber | bracketedHostNumber => true
  | hiddenMark _ | badPort _ | portTooLarge | unencodableName _ | undecodableName _ => true
  | file _ _ => true
  | e => e.isAnnounced

end Error
end StyleScore
