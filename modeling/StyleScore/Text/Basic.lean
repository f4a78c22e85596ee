/-!
Text as a list of code points, with the searching, cutting and joining that the rest of the
library is written in. Main statement: cutting at a word loses nothing (`cutAt_append`).
-/
namespace StyleScore

/-- Text is the list of its code points. -/
abbrev Text := List Char

namespace Text

/-- What follows `word` when the text starts with it. -/
def stripStart? : (word text : Text) → Option Text
  | [], text => some text
  | _ :: _, [] => none
  | w :: word, c :: text => if w = c then stripStart? word text else none

def startsWith (text word : Text) : Bool := (stripStart? word text).isSome

def endsWith (text word : Text) : Bool := startsWith text.reverse word.reverse

/-- The text before and after the first occurrence of `word`. -/
def cutAt? (word : Text) : Text → Option (Text × Text)
  | [] => if word = [] then some ([], []) else none
  | c :: text =>
    match stripStart? word (c :: text) with
    | some rest => some ([], rest)
    | none => (cutAt? word text).map fun (before, rest) => (c :: before, rest)

def contains (text word : Text) : Bool := (cutAt? word text).isSome

/-- The first occurrence of `word` becomes `new`; a text without one stays. -/
def replaceFirst (word new text : Text) : Text :=
  match cutAt? word text with
  | some (before, rest) => before ++ new ++ rest
  | none => text

/-- The first `n` occurrences of `word` become `new`. -/
def replaceWithin (n : Nat) (word new text : Text) : Text :=
  match n, cutAt? word text with
  | n + 1, some (before, rest) => before ++ new ++ replaceWithin n word new rest
  | _, _ => text

/-- Every occurrence of `word`, which is not empty, becomes `new`. -/
def replaceAll (word new text : Text) : Text := replaceWithin text.length word new text

/-- Every occurrence of the character becomes `new`. -/
def replaceChar (mark : Char) (new text : Text) : Text :=
  text.flatMap fun c => if c = mark then new else [c]

/-- The pieces between the occurrences of a character; always at least one. -/
def splitAt (mark : Char) : Text → List Text
  | [] => [[]]
  | c :: text =>
    if c = mark then [] :: splitAt mark text
    else match splitAt mark text with
      | [] => [[c]]
      | piece :: pieces => (c :: piece) :: pieces

/-- The texts one after another with `sep` between neighbours. -/
def joinWith (sep : Text) : List Text → Text
  | [] => []
  | [t] => t
  | t :: ts => t ++ sep ++ joinWith sep ts

/-- The part after the last occurrence of the character, with the part up to and including it. -/
def splitLast? (mark : Char) (text : Text) : Option (Text × Text) :=
  if mark ∈ text then
    some ((text.reverse.dropWhile (· ≠ mark)).reverse, (text.reverse.takeWhile (· ≠ mark)).reverse)
  else none

/-- A number in decimal digits. -/
def ofNat (n : Nat) : Text := Nat.toDigits 10 n

/-- An integer in decimal digits, with a minus sign below zero. -/
def ofInt : Int → Text
  | .ofNat n => ofNat n
  | .negSucc n => '-' :: ofNat (n + 1)

/-- The most digits that a whole number may have where it is read from text or written to it. -/
def digitLimit : Nat := 4300

/-- A whole number with too many digits to be written. -/
def isOverlong (n : Int) : Bool := digitLimit < (ofNat n.natAbs).length

/-- Code points compared one by one, a proper beginning first. -/
def lt : Text → Text → Bool
  | _, [] => false
  | [], _ :: _ => true
  | a :: s, b :: t => a.val < b.val || (a = b && lt s t)

theorem stripStart?_append (word rest : Text) : stripStart? word (word ++ rest) = some rest := by
  induction word with
  | nil => rfl
  | cons w word ih => simp [stripStart?, ih]

theorem eq_append_of_stripStart? {word text rest : Text} (h : stripStart? word text = some rest) :
    text = word ++ rest := by
  induction word generalizing text with
  | nil => simpa [stripStart?] using h
  | cons w word ih =>
    cases text with
    | nil => simp [stripStart?] at h
    | cons c text =>
      by_cases hc : w = c
      · rw [stripStart?, if_pos hc] at h
        rw [ih h, hc]
        rfl
      · simp [stripStart?, hc] at h

/-- Cutting loses nothing: the parts and the word make up the text. -/
theorem cutAt_append {word text before rest : Text} (h : cutAt? word text = some (before, rest)) :
    text = before ++ word ++ rest := by
  induction text generalizing before with
  | nil =>
    by_cases hw : word = []
    · simp_all [cutAt?]
    · simp [cutAt?, hw] at h
  | cons c text ih =>
    simp only [cutAt?] at h
    split at h
    · next tail hs =>
      obtain ⟨rfl, rfl⟩ : [] = before ∧ tail = rest := by simpa using h
      simpa using eq_append_of_stripStart? hs
    · obtain ⟨⟨b, r⟩, hcut, hpair⟩ := Option.map_eq_some_iff.1 h
      obtain ⟨rfl, rfl⟩ : c :: b = before ∧ r = rest := by simpa using hpair
      rw [ih hcut]
      simp

theorem splitAt_ne_nil (mark : Char) (text : Text) : splitAt mark text ≠ [] := by
  cases text with
  | nil => simp [splitAt]
  | cons c text =>
    simp only [splitAt]
    split
    · simp
    · split <;> simp

end Text
end StyleScore
