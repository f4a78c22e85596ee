import StyleScore.Text.Normal.Expansion
import StyleScore.Text.Normal.Mark
import StyleScore.Text.Normal.Pair

/-!
Normal text: characters that stand for others give way to them, marks come in the order of their
classes, and what can be composed is composed. Main definition: `normalise`, under which two
spellings of one text become equal.
-/
namespace StyleScore.Text

namespace Normal

/-- The leading consonant, the vowel and the trailing consonant, if there is one, of a syllable of
Hangul. -/
def splitSyllable (c : Char) : Text :=
  let index := c.toNat - 0xAC00
  let consonant := Char.ofNat (0x1100 + index / 588)
  let vowel := Char.ofNat (0x1161 + index % 588 / 28)
  let trail := index % 28
  if trail = 0 then [consonant, vowel] else [consonant, vowel, Char.ofNat (0x11A7 + trail)]

/-- A consonant and a vowel make a syllable of Hangul, and a syllable that ends in a vowel takes a
trailing consonant. -/
def joinSyllable? (first second : Char) : Option Char :=
  let a := first.toNat
  let b := second.toNat
  if 0x1100 ≤ a && a < 0x1113 && 0x1161 ≤ b && b < 0x1176 then
    some (Char.ofNat (0xAC00 + ((a - 0x1100) * 21 + (b - 0x1161)) * 28))
  else if 0xAC00 ≤ a && a < 0xD7A4 && (a - 0xAC00) % 28 = 0 && 0x11A7 < b && b < 0x11C3 then
    some (Char.ofNat (a + (b - 0x11A7)))
  else none

/-- What a character stands for in full. -/
def expand (c : Char) : Text :=
  if c.val < 0x80 then [c]
  else if 0xAC00 ≤ c.val && c.val < 0xD7A4 then splitSyllable c
  else ((expansions.find? (·.1 = c)).map Prod.snd).getD [c]

/-- Puts a character before text in order, behind the marks of lower classes. -/
def putInPlace (c : Char) : Text → Text
  | [] => [c]
  | d :: rest => if 0 < place d && place d < place c then d :: putInPlace c rest else c :: d :: rest

/-- The full expansion of a text with its marks in order. -/
def decompose (text : Text) : Text := (text.flatMap expand).foldr putInPlace []

def join? (first second : Char) : Option Char :=
  (joinSyllable? first second).or
    ((pairs.find? fun pair => pair.1 = first && pair.2.1 = second).map (·.2.2))

/-- Composes what follows with the character `first`. The marks behind it that stay, last one first,
keep marks of their class and characters that are no marks from it. -/
def composeFrom (first : Char) (marks : Text) : Text → Text
  | [] => first :: marks.reverse
  | c :: rest =>
    match if marks.all (place · < place c) then join? first c else none with
    | some whole => composeFrom whole marks rest
    | none =>
      if place c = 0 then first :: marks.reverse ++ composeFrom c [] rest
      else composeFrom first (c :: marks) rest

def compose : Text → Text
  | [] => []
  | c :: rest => composeFrom c [] rest

end Normal

def normalise (text : Text) : Text := Normal.compose (Normal.decompose text)

end StyleScore.Text
