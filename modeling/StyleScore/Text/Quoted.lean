import StyleScore.Text.Basic
import StyleScore.Text.Printable

/-!
Quoted text, as messages show it: between quotes, with escapes for the quote, the backslash and
what cannot be printed.
-/
namespace StyleScore.Text

/-- The lowest `width` hexadecimal digits of a number, in small letters. -/
def hex : (width n : Nat) → Text
  | 0, _ => []
  | width + 1, n => hex width (n / 16) ++ [Nat.digitChar (n % 16)]

/-- A code point that is not printed, by its number. -/
def escapeByNumber (n : Nat) : Text :=
  if n < 0x100 then "\\x".toList ++ hex 2 n
  else if n < 0x10000 then "\\u".toList ++ hex 4 n
  else "\\U".toList ++ hex 8 n

def quoteChar (mark c : Char) : Text :=
  if c = mark || c = '\\' then ['\\', c]
  else if c = '\n' then ['\\', 'n']
  else if c = '\r' then ['\\', 'r']
  else if c = '\t' then ['\\', 't']
  else if isPrintable c then [c]
  else escapeByNumber c.toNat

/-- Double quotes serve a text that holds an apostrophe and no double quote. -/
def quoteMark (text : Text) : Char :=
  if '\'' ∈ text && '"' ∉ text then '"' else '\''

def quoted (text : Text) : Text :=
  let mark := quoteMark text
  mark :: text.flatMap (quoteChar mark) ++ [mark]

end StyleScore.Text
