import StyleScore.Text.Utf8
import StyleScore.Token.Scan

/-!
Escapes in addresses: a percent sign and two hexadecimal digits stand for a byte.
-/
namespace StyleScore.Web.Escape

def ofByte (byte : UInt8) : Text :=
  let digit (n : Nat) : Char := (Nat.digitChar n).toUpper
  ['%', digit (byte.toNat / 16), digit (byte.toNat % 16)]

/-- The characters that are never escaped. -/
def isFree (c : Char) : Bool := c.isAlphanum || "_.-~".toList.any (· = c)

/-- The text with all but the free characters and the `plain` ones escaped. -/
def escape (plain : Text) (text : Text) : Text :=
  text.flatMap fun c =>
    if isFree c || plain.any (· = c) then [c] else (Text.Utf8.encodeChar c).flatMap ofByte

/-- The byte that an escape with these two digits stands for. -/
def byte? (high low : Char) : Option UInt8 :=
  if Scan.isHexDigit high && Scan.isHexDigit low then some (Scan.hexValue [high, low]).toUInt8
  else none

/-- Resolves the escapes of all but some bytes. The bytes read so far since the last character that
stays come first, and backwards; `decode` makes text of them. A percent sign without two digits
stands for itself. -/
def resolveFrom (stays : UInt8 → Bool) (decode : List UInt8 → Text)
    (bytes : List UInt8) : Text → Text
  | '%' :: high :: low :: rest =>
    match byte? high low with
    | some byte =>
      if stays byte then decode bytes.reverse ++ ['%', high, low] ++
        resolveFrom stays decode [] rest
      else resolveFrom stays decode (byte :: bytes) rest
    | none => resolveFrom stays decode (0x25 :: bytes) (high :: low :: rest)
  | c :: rest =>
    if c.val < 0x80 then resolveFrom stays decode (c.toNat.toUInt8 :: bytes) rest
    else decode bytes.reverse ++ c :: resolveFrom stays decode [] rest
  | [] => decode bytes.reverse

/-- The text with its escapes resolved. -/
def unescape (decode : List UInt8 → Text) (text : Text) : Text :=
  resolveFrom (fun _ => false) decode [] text

/-- The text with the escapes resolved but for the bytes that have to stay escaped; those that are
not UTF-8 are escaped again. -/
def unescapeBut (stays : UInt8 → Bool) (text : Text) : Text :=
  resolveFrom stays (Text.Utf8.mend (·.flatMap ofByte)) [] text

end StyleScore.Web.Escape
