import StyleScore.Text.Blank

/-!
Lists of selectors as text: the parts between top-level commas, and how the selector of a nested
rule is completed from the one around it.
-/
namespace StyleScore.Selector

/-- Round and square brackets raise the depth, which never falls below zero. -/
def depthAfter (depth : Nat) (c : Char) : Nat :=
  if c = '(' || c = '[' then depth + 1
  else if c = ')' || c = ']' then depth - 1
  else depth

/-- The segments between the commas at depth zero, untrimmed; always at least one. -/
def segmentsFrom (depth : Nat) : Text → List Text
  | [] => [[]]
  | c :: rest =>
    if c = ',' && depth = 0 then [] :: segmentsFrom 0 rest
    else match segmentsFrom (depthAfter depth c) rest with
      | [] => [[c]]
      | segment :: segments => (c :: segment) :: segments

/-- The parts of a list: its segments without the blanks around them and without empty ones. -/
def split (text : Text) : List Text :=
  ((segmentsFrom 0 text).map Text.trim).filter (· ≠ [])

/-- How the selector of the rule around is written into a nested one. -/
def asParent (text : Text) : Text :=
  if 1 < (split text).length then ":is(".toList ++ text ++ [')'] else text

/-- A part of a nested selector: `&` stands for the rule around, and a part without one lies
below it. -/
def nestPart (parent part : Text) : Text :=
  if '&' ∈ part then Text.replaceChar '&' parent part else parent ++ ' ' :: part

/-- The selector of a nested rule, completed by the selector of the rule around it. -/
def nest (parent own : Text) : Text :=
  Text.joinWith ", ".toList ((split own).map (nestPart (asParent parent)))

end StyleScore.Selector
