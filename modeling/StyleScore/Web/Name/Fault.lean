import StyleScore.Text.Quoted

/-!
What can be wrong with a host name, and how it is said.
-/
namespace StyleScore.Web.Name

inductive Fault where
  /-- A label has to have one to 63 characters. -/
  | labelSize
  /-- The last label, which may be empty, has more than 63 characters. -/
  | lastLabelSize
  | forbidden (code : Nat)
  /-- Letters of both directions in one label. -/
  | mixedDirections
  /-- A label with letters that run to the left has others at its ends. -/
  | openDirection
  /-- A label with foreign letters starts like one that is encoded. -/
  | marked
  /-- The digits of an encoded label break off. -/
  | digitsMissing
  | badDigit (c : Char)
  /-- The digits lead to a number above all code points. -/
  | noCodePoint (code : Nat)
  /-- The text of an encoded label is encoded in another way. -/
  | encodedOtherwise (label again : Text)
  deriving DecidableEq, Repr

namespace Fault

def text : Fault → Text
  | labelSize => "label empty or too long".toList
  | lastLabelSize => "label too long".toList
  | forbidden code => "Invalid character ".toList ++ quotedCode code
  | mixedDirections => "Violation of BIDI requirement 2".toList
  | openDirection => "Violation of BIDI requirement 3".toList
  | marked => "Label starts with ACE prefix".toList
  | digitsMissing => inDigits "incomplete punicode string".toList
  | badDigit c => inDigits ("Invalid extended code point '".toList ++ [c, '\''])
  | noCodePoint code => inDigits ("Invalid character U+".toList ++ Nat.toDigits 16 code)
  | encodedOtherwise label again =>
    "('IDNA does not round-trip', b".toList ++ Text.quoted label ++ ", b".toList ++
      Text.quoted again ++
      [')']
where
  /-- A surrogate, which is no character, is shown by its number. -/
  quotedCode (code : Nat) : Text :=
    if 0xD800 ≤ code && code ≤ 0xDFFF then ['\''] ++ Text.escapeByNumber code ++ ['\'']
    else Text.quoted [Char.ofNat code]
  inDigits (text : Text) : Text :=
    "decoding with 'punycode' codec failed (UnicodeError: ".toList ++ text ++ [')']

/-- A fault that shows up when a name is encoded. -/
def encodingText (fault : Fault) : Text :=
  "encoding with 'idna' codec failed (UnicodeError: ".toList ++ fault.text ++ [')']

/-- A fault that shows up when a name is decoded. -/
def decodingText (fault : Fault) : Text :=
  match fault with
  | encodedOtherwise _ _ => fault.text
  | _ => "decoding with 'idna' codec failed (UnicodeError: ".toList ++ fault.text ++ [')']

end Fault

end StyleScore.Web.Name
