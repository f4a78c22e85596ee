import StyleScore.Text.Basic

/-!
Words found in a text whatever the letter case, where two letters outside ASCII also pass.
-/
namespace StyleScore.Text

/-- The letter that a character passes for: letter case does not count, the long s is an `s` and the
dotless i an `i`. -/
def passesFor (c letter : Char) : Bool :=
  c.toLower = letter || (letter = 's' && c = 'ſ') || (letter = 'i' && c = 'ı')

/-- What the text begins with, when that passes for `word` letter by letter. -/
def takeAlike? : (word text : Text) → Option Text
  | [], _ => some []
  | _ :: _, [] => none
  | letter :: word, c :: text =>
    if passesFor c letter then (takeAlike? word text).map (c :: ·) else none

/-- Somewhere in the text stands what passes for `word`. -/
def containsAlike (word : Text) : Text → Bool
  | [] => word.isEmpty
  | c :: text => (takeAlike? word (c :: text)).isSome || containsAlike word text

end StyleScore.Text
