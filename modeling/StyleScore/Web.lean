import StyleScore.Count
import StyleScore.Log
import StyleScore.Report.Page
import StyleScore.Text.Digit
import StyleScore.Value.Json
import StyleScore.Web.Address
import StyleScore.Web.Part

/-!
Scoring over the web: a style sheet comes in a form or as an upload and goes out as data or as a
page.
-/
namespace StyleScore.Web

structure Request where
  method : Text
  target : Target
  form : List (Text × Text)
  /-- The name and the bytes of the uploaded file. -/
  upload : Option (Text × List UInt8)
  deriving Repr

structure Response where
  status : Nat
  contentType : Text
  body : Text
  deriving DecidableEq, Repr

/-- The most bytes that a request may have, unless told otherwise. -/
def standardLimit : Int := 5 * 1024 * 1024

/-- The most bytes that a form in a query may have, and one field of a form in parts. -/
def formLimit : Nat := 500000

/-- The most parts that a form in parts may have. -/
def partLimit : Nat := 1000

/-- Digits with single underscores between them. -/
def digits? (text : Text) : Option Text :=
  let groups := Text.splitAt '_' text
  if groups.all Text.isNumeral then some groups.flatten else none

/-- The sign and the digits of a whole number; blanks around it are allowed. -/
def signedDigits? (text : Text) : Option (Bool × Text) :=
  match Text.trim text with
  | '-' :: rest => (digits? rest).map (true, ·)
  | '+' :: rest => (digits? rest).map (false, ·)
  | rest => (digits? rest).map (false, ·)

/-- A whole number that has not too many digits. -/
def number (text : Text) : Except Error Int :=
  match signedDigits? text with
  | none => .error (.badNumber text)
  | some (negative, digits) =>
    if Text.digitLimit < digits.length then .error (.overlongNumeral digits.length)
    else .ok (if negative then -(Text.numeralValue digits : Int) else Text.numeralValue digits)

/-- The limit that a setting asks for. -/
def limitOf : Option Text → Except Error Int
  | none => .ok standardLimit
  | some text => if text.any (· = '\x00') then .error .embeddedNull else number text

/-- The characters besides letters and digits that take one byte in a query. -/
def plainMarks : Text := "_.-~ !$'()*,/:;?@".toList

/-- The bytes of a text in a query: three for each byte of a character that is not plain there. -/
def querySize (text : Text) : Nat :=
  total <| text.map fun c =>
    if c.isAlphanum || plainMarks.any (· = c) then 1 else 3 * (Text.Utf8.encodeChar c).length

/-- The bytes of a form in a query: an equals sign in each field and a mark between fields. -/
def formSize (form : List (Text × Text)) : Nat :=
  total (form.map fun (name, value) => querySize name + querySize value + 1) + (form.length - 1)

/-- The bytes around one part of a form that comes in parts, its name and its value apart. -/
def partFrame : Nat := 120

def partsSize (form : List (Text × Text)) : Nat :=
  total <| form.map fun (name, value) =>
    (Text.Utf8.encode name).length + (Text.Utf8.encode value).length + partFrame

namespace Request

/-- The bytes of the body. -/
def size (request : Request) : Nat :=
  match request.upload with
  | none => formSize request.form
  | some (name, bytes) =>
    partsSize request.form + (Text.Utf8.encode name).length + bytes.length + 2 * partFrame

/-- The bytes that are held at once: the form in a query, or the longest field of one in parts. -/
def heldSize (request : Request) : Nat :=
  match request.upload with
  | none => formSize request.form
  | some _ => (request.form.map fun (_, value) => (Text.Utf8.encode value).length).foldl max 0

/-- A form comes in parts, one for each field and one for the file, where there is an upload. -/
def parts (request : Request) : List Part :=
  match request.upload with
  | none => []
  | some (name, bytes) =>
    request.form.map (fun (name, value) => Part.sent name none (Text.Utf8.encode value)) ++
      [Part.sent "css_file".toList (some name) bytes]

/-- What has more than `limit` bytes, or too much in its form, is not read. -/
def isTooLarge (limit : Int) (request : Request) : Bool :=
  limit < request.size || formLimit < request.heldSize || partLimit < request.parts.length

/-- The fields of the form as they arrive. -/
def fields (request : Request) : List (Text × Text) :=
  match request.upload with
  | none => request.form
  | some _ => request.parts.filterMap Part.field?

/-- The first value under a name; a field that is not there is empty. -/
def value (request : Request) (name : String) : Text :=
  ((request.fields.find? (·.1 = name.toList)).map Prod.snd).getD []

/-- The name and the bytes of the uploaded file as they arrive. -/
def file? (request : Request) : Option (Text × List UInt8) :=
  request.parts.findSome? (Part.fileIn? "css_file".toList)

/-- The style sheet and its name: those of an upload with a file name, or else of the form. -/
def sheet (request : Request) : Except Error (Text × Text) :=
  match request.file?.filter (·.1 ≠ []) with
  | some (name, bytes) =>
    match Text.Utf8.decode bytes with
    | .ok text => .ok (text, name)
    | .error fault => .error (.badText fault)
  | none => .ok (request.value "css", request.value "source")

end Request

/-- The report on a text under the name of its source. -/
def report (source text : Text) : Except Error Report :=
  match Rule.ofText text with
  | .error _ => .error .unparsableRequest
  | .ok (rules, _) => do
    Report.ofScore source (← (Forest.ofRules rules).score (some Forest.root))

def jsonType : Text := "application/json".toList

def pageType : Text := "text/html; charset=utf-8".toList

/-- Data as a response: sorted fields, nothing between them, one line. -/
def dataResponse (status : Nat) (data : Json) : Response :=
  ⟨status, jsonType, data.sorted.compact ++ ['\n']⟩

def errorResponse (status : Nat) (message : Text) : Response :=
  dataResponse status (.object [("error".toList, .text message)])

/-- The page for a request with a bad host, or for a socket where there is none. -/
def badRequestPage : Text :=
  ("<!doctype html>\n<html lang=en>\n<title>400 Bad Request</title>\n<h1>Bad Request</h1>\n" ++
    "<p>The browser (or proxy) sent a request that this server could not understand.</p>\n").toList

/-- The response to a request that makes no sense. A request for the head alone gets no page. -/
def badRequest (request : Request) : Response :=
  ⟨400, pageType, if request.method = "HEAD".toList then [] else badRequestPage⟩

/-- A response of which only the status matters. -/
def bareResponse (status : Nat) : Response := ⟨status, pageType, []⟩

/-- The two ways in which a report goes out. -/
inductive Form where
  | data | page
  deriving DecidableEq, Repr

def Form.response (form : Form) (report : Report) : Except Error Response :=
  match form with
  | data => report.toValue.toJson.map (dataResponse 200)
  | page => report.render.map fun page => ⟨200, pageType, page⟩

/-- The response to a style sheet: the report, the message of an announced error, or neither. -/
def respondToSheet (form : Form) (request : Request) : Response :=
  match request.sheet with
  | .error _ => errorResponse 400 "Uploaded CSS must be UTF-8 encoded".toList
  | .ok (text, source) =>
    if Text.trim text = [] then
      errorResponse 400 "A css field or css_file upload is required".toList
    else
      match report source text with
      | .ok report =>
        match form.response report with
        | .ok response => response
        | .error _ => bareResponse 500
      | .error e =>
        if e.isAnnounced then errorResponse 422 (e.message?.getD []) else bareResponse 500

/-- What a path leads to. -/
inductive Route where
  | analyze (form : Form)
  /-- Files that are handed out as they are; there are none. -/
  | file
  /-- The path of a file but for doubled slashes. -/
  | moved
  deriving DecidableEq, Repr

namespace Route

/-- The name of a file begins with no slash and has no line feed after its first character. -/
def isFilePath (path : Text) : Bool :=
  match Text.stripStart? "/static/".toList path with
  | some (c :: rest) => c ≠ '/' && rest.all (· ≠ '\n')
  | _ => false

/-- Makes two slashes one, from the left. -/
def mergeSlashes : Text → Text
  | '/' :: '/' :: rest => '/' :: mergeSlashes rest
  | c :: rest => c :: mergeSlashes rest
  | [] => []

/-- A path begins with one slash, however many are written. -/
def ofPath? (path : Text) : Option Route :=
  let path := '/' :: path.dropWhile (· = '/')
  if path = "/analyze".toList then some (.analyze .data)
  else if path = "/report".toList then some (.analyze .page)
  else if isFilePath path then some .file
  else if isFilePath (mergeSlashes path) then some .moved
  else none

/-- Every route can be asked what it allows. -/
def allows (route : Route) (method : Text) : Bool :=
  match route with
  | analyze _ => ["POST", "OPTIONS"].any (·.toList = method)
  | file | moved => ["GET", "HEAD", "OPTIONS"].any (·.toList = method)

end Route

/-- The capitals of a letter in the name of a method, as far as they are in ASCII: besides the small
letters of ASCII, the long s, the dotless i and two ligatures have such. -/
def capitals (c : Char) : Text :=
  if c = 'ſ' then ['S']
  else if c = 'ı' then ['I']
  else if c = 'ﬅ' || c = 'ﬆ' then ['S', 'T']
  else [c.toUpper]

/-- The response to a request of at most `limit` bytes. -/
def respond (limit : Int) (request : Request) : Response :=
  let method := request.method.flatMap capitals
  if !request.target.hasGoodName then badRequest request
  else match Route.ofPath? request.target.path with
  | none => bareResponse 404
  | some route =>
    if !route.allows method then bareResponse 405
    else if request.target.isSocket then badRequest request
    else if route = .moved then bareResponse 308
    else if method = "OPTIONS".toList then bareResponse 200
    else match route with
      | .analyze form =>
        if request.isTooLarge limit then bareResponse 413
        else respondToSheet form request
      | .file | .moved => bareResponse 404

end StyleScore.Web
