import StyleScore.Text.Lowercase
import StyleScore.Text.Normal
import StyleScore.Web.Name.Class
import StyleScore.Web.Name.Digits

/-!
Host names: labels with dots between them. A label with letters beyond ASCII is prepared, so that
spellings of one name become equal, and then encoded in ASCII. Main definitions: `toAscii` and
`ofAscii`.
-/
namespace StyleScore.Web.Name

def isAscii (text : Text) : Bool := text.all (·.val < 0x80)

/-- The small letters of a letter; the sharp s, the final sigma and the iota below give way to
plain letters. -/
def smallLetters (c : Char) : Text :=
  if c = 'ß' then ['s', 's']
  else if c = 'ς' then ['σ']
  else if c = '\u0345' then ['ι']
  else Text.lower [c]

/-- One spelling for all that differ in case only. -/
def fold (c : Char) : Text := (Text.Normal.decompose (smallLetters c)).flatMap smallLetters

/-- A label that runs to the left does so from end to end. -/
def checkDirection (label : Text) : Except Fault Unit :=
  if !label.any isRightToLeft then .ok ()
  else if label.any isLeftToRight then .error .mixedDirections
  else if label.head?.all isRightToLeft && label.getLast?.all isRightToLeft then .ok ()
  else .error .openDirection

/-- The one spelling of a label, if it is a label. -/
def prepare (label : Text) : Except Fault Text := do
  let label := Text.normalise ((label.filter (!isSilent ·)).flatMap fold)
  match label.find? (isForbidden ·.toNat) with
  | some c => throw (.forbidden c.toNat)
  | none =>
    checkDirection label
    return label

/-- What every encoded label starts with. -/
def encodedMark : Text := "xn--".toList

def checkSize (label : Text) : Except Fault Text :=
  if label = [] || 64 ≤ label.length then .error .labelSize else .ok label

def encodeLabel (label : Text) : Except Fault Text := do
  if isAscii label then checkSize label
  else
    let label ← prepare label
    if isAscii label then checkSize label
    else if Text.startsWith label encodedMark then throw .marked
    else checkSize (encodedMark ++ Digits.encode label)

/-- The labels of a name and whether a dot follows the last of them. -/
def labels (isDot : Char → Bool) (name : Text) : List Text × Bool :=
  let labels := Text.splitAt '.' (name.map fun c => if isDot c then '.' else c)
  if labels.getLast? = some [] then (labels.dropLast, true) else (labels, false)

def join (labels : List Text) (hasDot : Bool) : Text :=
  Text.joinWith ['.'] labels ++ if hasDot then ['.'] else []

/-- The full stops of all scripts that divide labels. -/
def isFullStop (c : Char) : Bool := ['.', '。', '．', '｡'].any (· = c)

/-- The name in ASCII. One in ASCII stays, if its labels have the right size; the last may be
empty. -/
def toAscii (name : Text) : Except Fault Text :=
  if isAscii name then
    let labels := Text.splitAt '.' name
    if labels.dropLast.any fun label => label = [] || 64 ≤ label.length then .error .labelSize
    else if 64 ≤ (labels.getLast?.getD []).length then .error .lastLabelSize
    else .ok name
  else
    let (labels, hasDot) := labels isFullStop name
    (labels.mapM encodeLabel).map (join · hasDot)

/-- The text of code points that `encodeLabel` can take. -/
def textOf (codes : List Nat) : Except Fault Text :=
  if codes.any fun code => 0xD800 ≤ code && code ≤ 0xDFFF then
    .error (.forbidden ((codes.find? isForbidden).getD 0))
  else .ok (codes.map Char.ofNat)

/-- The text of a label. One that is encoded has to be what its text is encoded as. -/
def decodeLabel (label : Text) : Except Fault Text :=
  match Text.stripStart? encodedMark label with
  | none => .ok label
  | some digits => do
    let text ← textOf (← Digits.decode digits)
    let again ← encodeLabel text
    if label.map Char.toLower = again then return text else throw (.encodedOtherwise label again)

/-- The text of a name in ASCII. -/
def ofAscii (name : Text) : Except Fault Text :=
  if Text.contains name encodedMark then
    let (labels, hasDot) := labels (fun _ => false) name
    (labels.mapM decodeLabel).map (join · hasDot)
  else .ok name

end StyleScore.Web.Name
