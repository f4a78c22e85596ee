import StyleScore.Text.Digit
import StyleScore.Token.Scan

/-!
Hosts by number: four numbers with dots between them, or up to eight groups of hexadecimal digits
with colons between them.
-/
namespace StyleScore.Web.Ip

/-- A number up to 255 without needless zeros. -/
def isOctet (text : Text) : Bool :=
  text ≠ [] && text.length ≤ 3 && text.all Char.isDigit &&
    (text = ['0'] || text.head? ≠ some '0') &&
    Text.numeralValue text ≤ 255

def isVersion4 (text : Text) : Bool :=
  let octets := Text.splitAt '.' text
  octets.length = 4 && octets.all isOctet

/-- One to four hexadecimal digits. -/
def isGroup (text : Text) : Bool := text ≠ [] && text.length ≤ 4 && text.all Scan.isHexDigit

/-- Numbers with dots in the last place stand for two groups. -/
def withoutDots? (groups : List Text) : Option (List Text) :=
  match groups.getLast? with
  | none => none
  | some last =>
    if last.any (· = '.') then
      if isVersion4 last then some (groups.dropLast ++ [['0'], ['0']]) else none
    else some groups

/-- The groups on one side of a gap: none if there is only an empty one. -/
def besideGap (groups : List Text) : List Text := if groups = [[]] then [] else groups

/-- Eight groups, or fewer with one gap: an empty group that is neither the first nor the last. -/
def areGroups (groups : List Text) : Bool :=
  match (groups.tail.dropLast).findIdx? (· = []) with
  | none => groups.length = 8 && groups.all isGroup
  | some i =>
    let all := besideGap (groups.take (i + 1)) ++ besideGap (groups.drop (i + 2))
    all.length ≤ 7 && all.all isGroup

/-- Groups of digits, and after a percent sign perhaps the zone in which they are meant. -/
def isVersion6 (text : Text) : Bool :=
  let (address, zone) := text.span (· ≠ '%')
  let groups := Text.splitAt ':' address
  (zone = [] || (zone.tail ≠ [] && zone.tail.all (· ≠ '%'))) && 3 ≤ groups.length &&
    (withoutDots? groups).any areGroups

/-- An address of a later version: the letter, the version in hexadecimal digits, a dot and more. -/
def isLaterVersion (text : Text) : Bool :=
  match text with
  | 'v' :: rest =>
    match rest.span Scan.isHexDigit with
    | (_ :: _, '.' :: _ :: _) => true
    | _ => false
  | _ => false

end StyleScore.Web.Ip
