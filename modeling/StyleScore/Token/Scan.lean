import StyleScore.Token.Basic

/-!
From characters to lexemes. Every reader below takes the text that is left and returns what
remains after it; the lemmas that the remainder is no longer end the loop of `scanFrom` without a
step bound.
-/
namespace StyleScore.Scan

/-- The white space of style sheets. -/
def isSpace (c : Char) : Bool := c = ' ' || c = '\n' || c = '\t'

def isNameStart (c : Char) : Bool := c.isAlpha || c = '_' || 0x7F < c.val

def isNameChar (c : Char) : Bool := isNameStart c || c.isDigit || c = '-'

def isHexDigit (c : Char) : Bool :=
  c.isDigit || ('a' ≤ c && c ≤ 'f') || ('A' ≤ c && c ≤ 'F')

def hexDigitValue (c : Char) : Nat :=
  if c.isDigit then c.toNat - 48 else if 'a' ≤ c then c.toNat - 87 else c.toNat - 55

def hexValue (digits : Text) : Nat := digits.foldl (fun n c => n * 16 + hexDigitValue c) 0

/-- The text as it is scanned: no null characters, and line feeds for all line ends. -/
def normalise : Text → Text
  | [] => []
  | '\r' :: '\n' :: rest => '\n' :: normalise rest
  | c :: rest =>
    (if c = '\x00' then '�' else if c = '\r' || c = '\x0c' then '\n' else c) :: normalise rest

/-- The text begins an escape when a backslash is not followed by a line feed. -/
def startsEscape : Text → Bool
  | '\\' :: rest => rest.head? ≠ some '\n'
  | _ => false

def startsIdent : Text → Bool
  | [] => false
  | '-' :: rest => (rest.head?.elim false fun c => isNameStart c || c = '-') || startsEscape rest
  | c :: rest => isNameStart c || startsEscape (c :: rest)

def dropSpace : Text → Text
  | [] => []
  | c :: rest => if isSpace c then rest else c :: rest

/-- The character that an escape stands for, read after its backslash: up to six hexadecimal
digits and one space, or the next character. Numbers that are no character give U+FFFD. -/
def takeEscape (text : Text) : Char × Text :=
  let digits := (text.take 6).takeWhile isHexDigit
  if digits = [] then
    match text with
    | [] => ('�', [])
    | c :: rest => (c, rest)
  else
    let code := hexValue digits
    let c := Char.ofNat code
    (if c = '\x00' then '�' else c, dropSpace (text.drop digits.length))

theorem length_dropSpace_le (text : Text) : (dropSpace text).length ≤ text.length := by
  cases text with
  | nil => simp [dropSpace]
  | cons c rest => by_cases h : isSpace c <;> simp [dropSpace, h]

theorem length_takeEscape_le (text : Text) : (takeEscape text).2.length ≤ text.length := by
  simp only [takeEscape]
  split
  · split <;> simp
  · have h := length_dropSpace_le (text.drop ((text.take 6).takeWhile isHexDigit).length)
    rw [List.length_drop] at h
    simp only
    omega

/-- The longest name at the start of the text, with its escapes read. -/
def takeName : Text → Text × Text
  | [] => ([], [])
  | c :: rest =>
    if isNameChar c then
      let (name, left) := takeName rest
      (c :: name, left)
    else if startsEscape (c :: rest) then
      let (name, left) := takeName (takeEscape rest).2
      ((takeEscape rest).1 :: name, left)
    else ([], c :: rest)
termination_by text => text.length
decreasing_by
  · simp
  · have := length_takeEscape_le rest
    simp only [List.length_cons]
    omega

theorem length_takeName_le (text : Text) : (takeName text).2.length ≤ text.length := by
  fun_induction takeName text with
  | case1 => simp
  | case2 c rest _ _ _ h ih => simp only [h] at ih; simp only [List.length_cons]; omega
  | case3 c rest _ _ _ _ h ih =>
    simp only [h] at ih
    have := length_takeEscape_le rest
    simp only [List.length_cons]
    omega
  | case4 => simp

/-- How the reading of a string or url ended. -/
inductive Ending where
  | closed | endOfText | broken
  deriving DecidableEq, Repr

/-- The value of a string up to its quote. A line feed breaks it and is left; a backslash before a
line feed or at the end vanishes. -/
def takeString (quote : Char) : Text → Text × Ending × Text
  | [] => ([], .endOfText, [])
  | c :: rest =>
    if c = quote then ([], .closed, rest)
    else if c = '\\' then
      match rest with
      | [] => ([], .endOfText, [])
      | '\n' :: rest => takeString quote rest
      | d :: rest =>
        let (value, ending, left) := takeString quote (takeEscape (d :: rest)).2
        ((takeEscape (d :: rest)).1 :: value, ending, left)
    else if c = '\n' then ([], .broken, c :: rest)
    else
      let (value, ending, left) := takeString quote rest
      (c :: value, ending, left)
termination_by text => text.length
decreasing_by
  · simp only [List.length_cons]
    omega
  · have := length_takeEscape_le (d :: rest)
    simp only [List.length_cons] at this ⊢
    omega
  · simp

theorem length_takeString_le (quote : Char) (text : Text) :
    (takeString quote text).2.2.length ≤ text.length := by
  fun_induction takeString quote text with
  | case1 => simp
  | case2 => simp
  | case3 => simp
  | case4 rest _ ih => simp only [List.length_cons]; omega
  | case5 d rest _ _ _ _ h _ ih =>
    simp only [h] at ih
    have := length_takeEscape_le (d :: rest)
    simp only [List.length_cons] at this ⊢
    omega
  | case6 => simp
  | case7 _ _ _ _ _ _ _ _ h ih => simp only [h] at ih; simp only [List.length_cons]; omega

/-- Characters that may not stand in an unquoted url. -/
def breaksUrl (c : Char) : Bool :=
  c = '"' || c = '\'' || c = '(' || c.val ≤ 0x08 || c.val = 0x0B ||
    (0x0E ≤ c.val && c.val ≤ 0x1F) || c.val = 0x7F

/-- The value of an unquoted url, up to its bracket. -/
def takeUrl : Text → Text × Ending × Text
  | [] => ([], .endOfText, [])
  | c :: rest =>
    if c = ')' then ([], .closed, rest)
    else if isSpace c then
      match rest.dropWhile isSpace with
      | [] => ([], .endOfText, [])
      | ')' :: left => ([], .closed, left)
      | left => ([], .broken, left)
    else if startsEscape (c :: rest) then
      let (value, ending, left) := takeUrl (takeEscape rest).2
      ((takeEscape rest).1 :: value, ending, left)
    else if breaksUrl c then ([], .broken, rest)
    else
      let (value, ending, left) := takeUrl rest
      (c :: value, ending, left)
termination_by text => text.length
decreasing_by
  · have := length_takeEscape_le rest
    simp only [List.length_cons]
    omega
  · simp

theorem length_dropWhile_le (p : Char → Bool) (text : Text) :
    (text.dropWhile p).length ≤ text.length :=
  (List.dropWhile_sublist p).length_le

theorem length_takeUrl_le (text : Text) : (takeUrl text).2.2.length ≤ text.length := by
  fun_induction takeUrl text with
  | case1 => simp
  | case2 => simp
  | case3 => simp
  | case4 c rest _ _ left h =>
    have := length_dropWhile_le isSpace rest
    simp only [h, List.length_cons] at this ⊢
    omega
  | case5 c rest _ _ left =>
    have := length_dropWhile_le isSpace rest
    simp only [List.length_cons]
    omega
  | case6 c rest _ _ _ _ _ _ h ih =>
    simp only [h] at ih
    have := length_takeEscape_le rest
    simp only [List.length_cons]
    omega
  | case7 => simp
  | case8 _ _ _ _ _ _ _ _ _ h ih => simp only [h] at ih; simp only [List.length_cons]; omega

/-- What is left after a broken url: all after the next bracket that no backslash precedes. -/
def dropBadUrl : Text → Text
  | [] => []
  | '\\' :: ')' :: rest => dropBadUrl rest
  | ')' :: rest => rest
  | _ :: rest => dropBadUrl rest

theorem length_dropBadUrl_le (text : Text) : (dropBadUrl text).length ≤ text.length := by
  fun_induction dropBadUrl text with
  | case1 => simp
  | case2 rest ih => simp only [List.length_cons]; omega
  | case3 => simp
  | case4 _ rest _ _ ih => simp only [List.length_cons]; omega

/-- The text of a comment up to its end mark, or all there is. -/
def takeComment : Text → Text × Text
  | [] => ([], [])
  | '*' :: '/' :: rest => ([], rest)
  | c :: rest =>
    let (text, left) := takeComment rest
    (c :: text, left)

theorem length_takeComment_le (text : Text) : (takeComment text).2.length ≤ text.length := by
  fun_induction takeComment text with
  | case1 => simp
  | case2 => simp; omega
  | case3 c rest _ text left h ih => simp only [h] at ih; simp only [List.length_cons]; omega

/-- An exponent at the start of the text: its mark, an optional sign and digits, or nothing. -/
def exponent : Text → Text
  | [] => []
  | e :: rest =>
    if e = 'e' || e = 'E' then
      let sign := (rest.take 1).filter fun c => c = '+' || c = '-'
      match (rest.drop sign.length).takeWhile Char.isDigit with
      | [] => []
      | digits => e :: sign ++ digits
    else []

/-- The digits at the start of the text, with a point and decimals if there are any. -/
def mantissa (text : Text) : Text :=
  let whole := text.takeWhile Char.isDigit
  match text.drop whole.length with
  | '.' :: tail =>
    match tail.takeWhile Char.isDigit with
    | [] => whole
    | decimals => whole ++ '.' :: decimals
  | _ => whole

/-- A number without its sign, and what follows. -/
def takeUnsigned (text : Text) : Option (Text × Text) :=
  let digits := mantissa text
  if digits = [] then none
  else
    let written := digits ++ exponent (text.drop digits.length)
    some (written, text.drop written.length)

/-- A number with an optional sign, and what follows. -/
def takeNumber : Text → Option (Text × Text)
  | [] => none
  | c :: rest =>
    if c = '+' || c = '-' then
      (takeUnsigned rest).map fun (written, left) => (c :: written, left)
    else takeUnsigned (c :: rest)

theorem length_takeUnsigned_lt {text written left : Text}
    (h : takeUnsigned text = some (written, left)) : left.length < text.length := by
  simp only [takeUnsigned] at h
  split at h
  · simp at h
  · next hm =>
    simp only [Option.some.injEq, Prod.mk.injEq] at h
    obtain ⟨rfl, rfl⟩ := h
    have hpos := List.length_pos_iff.2 hm
    cases text with
    | nil => simp [mantissa] at hm
    | cons c rest =>
      simp only [List.length_drop, List.length_append, List.length_cons]
      omega

theorem length_takeNumber_lt {text written left : Text}
    (h : takeNumber text = some (written, left)) : left.length < text.length := by
  cases text with
  | nil => simp [takeNumber] at h
  | cons c rest =>
    simp only [takeNumber] at h
    split at h
    · obtain ⟨⟨w, l⟩, hu, hp⟩ := Option.map_eq_some_iff.1 h
      simp only [Prod.mk.injEq] at hp
      have := length_takeUnsigned_lt hu
      obtain ⟨-, rfl⟩ := hp
      simp only [List.length_cons]
      omega
    · exact length_takeUnsigned_lt h

/-- A range of code points after its `U+`: digits and question marks, six at most, or two groups of
digits around a hyphen. -/
def takeRange (text : Text) : Nat × Nat × Text :=
  let digits := (text.take 6).takeWhile isHexDigit
  let marks := ((text.take 6).drop digits.length).takeWhile (· = '?')
  let left := text.drop (digits.length + marks.length)
  if marks ≠ [] then
    (hexValue (digits ++ marks.map fun _ => '0'), hexValue (digits ++ marks.map fun _ => 'F'), left)
  else match left with
    | '-' :: c :: rest =>
      if isHexDigit c then
        let upper := ((c :: rest).take 6).takeWhile isHexDigit
        (hexValue digits, hexValue upper, (c :: rest).drop upper.length)
      else (hexValue digits, hexValue digits, left)
    | _ => (hexValue digits, hexValue digits, left)

theorem length_takeRange_le (text : Text) : (takeRange text).2.2.length ≤ text.length := by
  have drop_le (n : Nat) : (text.drop n).length ≤ text.length := by
    rw [List.length_drop]
    omega
  simp only [takeRange]
  split
  · exact drop_le _
  · split
    · next c rest h =>
      split
      · have hd := drop_le (((text.take 6).takeWhile isHexDigit).length +
          (((text.take 6).drop ((text.take 6).takeWhile isHexDigit).length).takeWhile (· =
            '?')).length)
        rw [h] at hd
        simp only [List.length_cons, List.length_drop] at hd ⊢
        omega
      · exact drop_le _
    · exact drop_le _

/-- The token or tokens that a name starts: an identifier, a function, or a url. -/
def scanName (text : Text) : List Lexeme × Text :=
  let (name, left) := takeName text
  match left with
  | '(' :: args =>
    if name.map Char.toLower = "url".toList &&
        ((args.dropWhile isSpace).head?.elim true fun c => c ≠ '"' && c ≠ '\'') then
      match takeUrl (args.dropWhile isSpace) with
      | (value, .closed, rest) => ([.token (.url value true)], rest)
      | (value, .endOfText, rest) => ([.token (.url value false), .token (.fault .endInUrl)], rest)
      | (_, .broken, rest) => ([.token (.fault .badUrl)], dropBadUrl rest)
    else ([.opening (.function name)], args)
  | left => ([.token (.ident name)], left)

/-- The lexeme that a sign or any other single character makes, given the text after it. -/
def scanSign (c : Char) (rest : Text) : List Lexeme × Text :=
  match c, rest with
  | '\x7b', rest => ([.opening (.block .curly)], rest)
  | '[', rest => ([.opening (.block .square)], rest)
  | '(', rest => ([.opening (.block .round)], rest)
  | '\x7d', rest => ([.closing .curly], rest)
  | ']', rest => ([.closing .square], rest)
  | ')', rest => ([.closing .round], rest)
  | '<', '!' :: '-' :: '-' :: rest => ([.token (.literal "<!--".toList)], rest)
  | '|', '|' :: rest => ([.token (.literal "||".toList)], rest)
  | '~', '=' :: rest => ([.token (.literal "~=".toList)], rest)
  | '|', '=' :: rest => ([.token (.literal "|=".toList)], rest)
  | '^', '=' :: rest => ([.token (.literal "^=".toList)], rest)
  | '$', '=' :: rest => ([.token (.literal "$=".toList)], rest)
  | '*', '=' :: rest => ([.token (.literal "*=".toList)], rest)
  | '/', '*' :: rest =>
    let (text, left) := takeComment rest
    ([.token (.comment text)], left)
  | c, rest => ([.token (.literal [c])], rest)

theorem length_scanSign_le (c : Char) (rest : Text) : (scanSign c rest).2.length ≤ rest.length := by
  unfold scanSign
  split <;> try (simp; try omega)
  next tail =>
    have := length_takeComment_le tail
    omega

/-- The lexemes that begin with the character `c`, and what follows them in `rest`. -/
def scanOne (c : Char) (rest : Text) : List Lexeme × Text :=
  let text := c :: rest
  if isSpace c then ([.token (.blank (c :: rest.takeWhile isSpace))], rest.dropWhile isSpace)
  else if (c = 'u' || c = 'U') && rest.head? = some '+' &&
      ((rest.drop 1).head?.elim false fun d => isHexDigit d || d = '?') then
    let (first, last, left) := takeRange (rest.drop 1)
    ([.token (.range first last)], left)
  else if c = '-' && rest.take 2 = "->".toList then
    ([.token (.literal "-->".toList)], rest.drop 2)
  else if startsIdent text then scanName text
  else match takeNumber text with
    | some (written, left) =>
      if startsIdent left then
        let (unit, left) := takeName left
        ([.token (.dimension written unit)], left)
      else match left with
        | '%' :: left => ([.token (.percentage written)], left)
        | left => ([.token (.number written)], left)
    | none =>
      if c = '@' && startsIdent rest then
        let (name, left) := takeName rest
        ([.token (.atKeyword name)], left)
      else if c = '#' && ((rest.head?.elim false isNameChar) || startsEscape rest) then
        let (name, left) := takeName rest
        ([.token (.hash name (startsIdent rest))], left)
      else if c = '"' || c = '\'' then
        match takeString c rest with
        | (value, .closed, left) => ([.token (.string value true)], left)
        | (value, .endOfText, left) =>
          ([.token (.string value false), .token (.fault .endInString)], left)
        | (_, .broken, left) => ([.token (.fault .badString)], left)
      else scanSign c rest

/-- A name is read wherever one starts, so at least one character goes. -/
theorem length_takeName_lt {text : Text} (h : startsIdent text = true) :
    (takeName text).2.length < text.length := by
  cases text with
  | nil => simp [startsIdent] at h
  | cons c rest =>
    rw [takeName]
    by_cases hn : isNameChar c = true
    · have := length_takeName_le rest
      simp only [hn, if_true, List.length_cons]
      omega
    · have he : startsEscape (c :: rest) = true := by
        by_cases hc : c = '-'
        · simp [hc, isNameChar] at hn
        · simp only [startsIdent, Bool.or_eq_true] at h
          rcases h with h | h
          · simp [isNameChar, h] at hn
          · exact h
      have h1 := length_takeName_le (takeEscape rest).2
      have h2 := length_takeEscape_le rest
      simp only [hn, he, if_true, List.length_cons]
      simp only [Bool.false_eq_true, if_false]
      omega

theorem length_scanName_lt {text : Text} (h : startsIdent text = true) :
    (scanName text).2.length < text.length := by
  have hn := length_takeName_lt h
  simp only [scanName]
  split
  · next name args hargs =>
    simp only [hargs, List.length_cons] at hn
    have hu := length_takeUrl_le (args.dropWhile isSpace)
    have hd := length_dropWhile_le isSpace args
    split
    · split
      · next hurl => simp only [hurl] at hu ⊢; omega
      · next hurl => simp only [hurl] at hu ⊢; omega
      · next rest hurl =>
        have := length_dropBadUrl_le rest
        simp only [hurl] at hu ⊢
        omega
    · simp only
      omega
  · exact hn

theorem length_scanOne_le (c : Char) (rest : Text) : (scanOne c rest).2.length ≤ rest.length := by
  simp only [scanOne]
  split
  · exact length_dropWhile_le isSpace rest
  split
  · exact Nat.le_trans (length_takeRange_le _) (by simp)
  split
  · simp
  split
  · next h => exact Nat.le_of_lt_succ (length_scanName_lt h)
  split
  · next written left hnum =>
    have hlt := length_takeNumber_lt hnum
    simp only [List.length_cons] at hlt
    split
    · have := length_takeName_le left
      simp only
      omega
    · split
      · simp only [List.length_cons] at hlt ⊢
        omega
      · simp only
        omega
  · split
    · exact length_takeName_le rest
    split
    · exact length_takeName_le rest
    split
    · have := length_takeString_le c rest
      split <;> simp_all
    · exact length_scanSign_le c rest

/-- The lexemes of a text that stands at `pos`, each with its place. -/
def scanFrom (pos : Position) : Text → List (Position × Lexeme)
  | [] => []
  | c :: rest =>
    let left := (scanOne c rest).2
    (scanOne c rest).1.map (pos, ·) ++
      scanFrom (pos.after ((c :: rest).take (rest.length + 1 - left.length))) left
termination_by text => text.length
decreasing_by
  have := length_scanOne_le c rest
  simp only [List.length_cons]
  omega

end StyleScore.Scan

namespace StyleScore

/-- The lexemes of a style sheet or selector, in order. -/
def scan (text : Text) : List (Position × Lexeme) := Scan.scanFrom .start (Scan.normalise text)

/-- A number that is all digits, sign apart, with too many of them is not read. -/
def Token.numeralLength? : Token → Option Nat
  | .number written | .percentage written | .dimension written _ =>
    let digits := written.filter Char.isDigit
    if written.all (fun c => c.isDigit || c = '+' || c = '-') && Text.digitLimit <
      digits.length then
      some digits.length
    else none
  | _ => none

/-- The length of the first number that is too long to be read. -/
def overlongNumeral? (lexemes : List (Position × Lexeme)) : Option Nat :=
  lexemes.findSome? fun
    | (_, .token token) => token.numeralLength?
    | _ => none

end StyleScore
