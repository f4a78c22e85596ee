import Mathlib.Data.List.TakeWhile
import StyleScore.Proofs.Component.Alike
import StyleScore.Proofs.Text.Small
import StyleScore.Proofs.Token.Stop

/-!
Texts that scanning takes alike: one is the other with small letters, with a space for a run of
white space and with no white space at the end (`Tidied`). No run is changed that an escape could
reach into. Every reader reads the two alike and leaves texts of which the one is again the other in
this way.
-/
namespace StyleScore.Scan

/-! ### Characters -/

/-- Characters that scanning does not tell apart: a character of ASCII and its small letter, or two
characters beyond ASCII. -/
def CharAlike (c d : Char) : Prop := c.toNat < 128 ∧ d = c.toLower ∨ 128 ≤ c.toNat ∧ 128 ≤ d.toNat

/-- A test that does not look at the case of letters and takes all characters beyond ASCII alike. -/
structure Blind (test : Char → Bool) : Prop where
  small : ∀ c : Char, test c.toLower = test c
  foreign : ∀ c d : Char, 128 ≤ c.toNat → 128 ≤ d.toNat → test c = test d

theorem CharAlike.test_eq {c d : Char} (alike : CharAlike c d) {test : Char → Bool}
    (blind : Blind test) :
    test c = test d := by
  rcases alike with ⟨_, rfl⟩ | ⟨high, highToo⟩
  · exact (blind.small c).symm
  · exact blind.foreign c d high highToo

/-- Only letters of ASCII have another small letter. -/
theorem small_of_ascii {test : Char → Bool}
    (ascii : ∀ n < 128, test (Char.ofNat n).toLower = test (Char.ofNat n)) (c : Char) :
    test c.toLower = test c := by
  by_cases low : c.toNat < 128
  · have own := ascii c.toNat low
    rwa [Char.ofNat_toNat] at own
  · rw [Text.toLower_eq_of_not_capital (by omega)]

/-- A test that only characters of ASCII pass. -/
theorem Blind.of_ascii {test : Char → Bool} (small : ∀ c : Char, test c.toLower = test c)
    (ascii : ∀ c : Char, test c = true → c.toNat < 128) : Blind test where
  small := small
  foreign c d high highToo := by
    have fails (c : Char) (high : 128 ≤ c.toNat) : test c = false := by
      cases passed : test c with
      | false => rfl
      | true => exact absurd (ascii c passed) (by omega)
    rw [fails c high, fails d highToo]

theorem ascii_of_isDigit {c : Char} (digit : c.isDigit = true) : c.toNat < 128 := by
  have range : 48 ≤ c.toNat ∧ c.toNat ≤ 57 := by
    simpa [Char.isDigit, UInt32.le_iff_toNat_le] using digit
  omega

theorem ascii_of_isHexDigit {c : Char} (digit : isHexDigit c = true) : c.toNat < 128 := by
  simp only [isHexDigit, Bool.or_eq_true, Bool.and_eq_true, decide_eq_true_eq] at digit
  rcases digit with (digit | ⟨_, upper⟩) | ⟨_, upper⟩
  · exact ascii_of_isDigit digit
  · exact Nat.lt_of_le_of_lt upper (by decide)
  · exact Nat.lt_of_le_of_lt upper (by decide)

/-- A character of ASCII that is no letter and no white space. -/
def isSign (c : Char) : Bool := c.toNat < 128 && !c.isAlpha && !isSpace c

theorem isSign_iff {sign : Char} :
    isSign sign = true ↔ sign.toNat < 128 ∧ sign.isAlpha = false ∧ isSpace sign = false := by
  simp [isSign, and_assoc]

/-- What has another small letter is a letter, and so is the small one. -/
theorem toLower_eq_or_isAlpha (c : Char) :
    c.toLower = c ∨ c.isAlpha = true ∧ c.toLower.isAlpha = true := by
  by_cases low : c.toNat < 128
  · have letters : ∀ n < 128, (Char.ofNat n).toLower = Char.ofNat n ∨
        (Char.ofNat n).isAlpha = true ∧ (Char.ofNat n).toLower.isAlpha = true := by decide +kernel
    have own := letters c.toNat low
    rwa [Char.ofNat_toNat] at own
  · exact .inl (Text.toLower_eq_of_not_capital (by omega))

theorem toLower_eq_sign_iff {sign : Char} (own : isSign sign = true) (c : Char) :
    c.toLower = sign ↔ c = sign := by
  obtain ⟨-, letterless, -⟩ := isSign_iff.1 own
  rcases toLower_eq_or_isAlpha c with same | ⟨letter, small⟩
  · rw [same]
  · constructor
    · rintro rfl
      cases letterless.symm.trans small
    · rintro rfl
      cases letterless.symm.trans letter

theorem blind_sign {sign : Char} (own : isSign sign = true) : Blind (· = sign) := by
  apply Blind.of_ascii
  · intro c
    exact decide_eq_decide.2 (toLower_eq_sign_iff own c)
  · intro c same
    rw [of_decide_eq_true same]
    exact (isSign_iff.1 own).1

/-- A sign stands for itself only. -/
theorem CharAlike.eq_sign_iff {c d sign : Char} (alike : CharAlike c d) (own : isSign sign = true) :
    c = sign ↔ d = sign :=
  decide_eq_decide.1 (alike.test_eq (blind_sign own))

theorem blind_isSpace : Blind isSpace := by
  apply Blind.of_ascii (small_of_ascii (by decide +kernel))
  intro c space
  simp only [isSpace, Bool.or_eq_true, decide_eq_true_eq] at space
  rcases space with (rfl | rfl) | rfl <;> decide

theorem isNameStart_foreign {c : Char} (high : 128 ≤ c.toNat) : isNameStart c = true := by
  have above : 0x7F < c.val := UInt32.lt_iff_toNat_lt.2 high
  simp [isNameStart, above]

theorem blind_isNameStart : Blind isNameStart where
  small := small_of_ascii (by decide +kernel)
  foreign c d high highToo := by rw [isNameStart_foreign high, isNameStart_foreign highToo]

theorem blind_isNameChar : Blind isNameChar where
  small := small_of_ascii (by decide +kernel)
  foreign c d high highToo := by
    simp [isNameChar, isNameStart_foreign high, isNameStart_foreign highToo]

theorem blind_breaksUrl : Blind breaksUrl := by
  apply Blind.of_ascii (small_of_ascii (by decide +kernel))
  intro c breaks
  simp only [breaksUrl, Bool.or_eq_true, Bool.and_eq_true, decide_eq_true_eq,
    UInt32.le_iff_toNat_le, ← UInt32.toNat_inj] at breaks
  change c.val.toNat < 128
  rcases breaks with (((((rfl | rfl) | rfl) | low) | low) | ⟨_, low⟩) | low
  · decide
  · decide
  · decide
  all_goals
    simp only [UInt32.reduceToNat] at low
    omega

/-! ### Texts -/

/-- How far an escape reaches behind a character: it may go on with so many hexadecimal digits, and
with a space after them, less one; zero where no escape goes on. A backslash that is escaped itself
starts none. -/
def nextReach (reach : Nat) (c : Char) : Nat :=
  if c = '\\' then if reach = 7 then 0 else 7
  else if isHexDigit c then reach - 1
  else 0

/-- The second text is the first one tidied: in small letters, with one space for a run of white
space, and without white space at the end. The small letter of a dotted capital I is two characters.
A line feed goes only where strings are `intact`, for one that a line feed breaks off would go
on. -/
inductive Tidied (intact : Prop) : Nat → Text → Text → Prop where
  | nil (reach : Nat) : Tidied intact reach [] []
  | char {reach : Nat} {c d : Char} {s t : Text} (solid : isSpace c = false) (alike : CharAlike c d)
      (rest : Tidied intact (nextReach reach c) s t) : Tidied intact reach (c :: s) (d :: t)
  | dotted {reach : Nat} {s t : Text} (rest : Tidied intact 0 s t) :
      Tidied intact reach ('\u0130' :: s) ('i' :: '\u0307' :: t)
  | lone {reach : Nat} {c : Char} {s t : Text} (space : isSpace c = true)
      (solid : ∀ d ∈ s.head?, isSpace d = false) (rest : Tidied intact 0 s t) :
      Tidied intact reach (c :: s) (c :: t)
  | gap {c : Char} {run s t : Text} (space : isSpace c = true)
      (spaces : ∀ d ∈ run, isSpace d = true) (lines : '\n' ∈ c :: run → intact)
      (solid : ∀ d ∈ s.head?, isSpace d = false) (rest : Tidied intact 0 s t) :
      Tidied intact 0 (c :: (run ++ s)) (' ' :: t)
  | ends {c : Char} {run : Text} (space : isSpace c = true) (spaces : ∀ d ∈ run, isSpace d = true)
      (lines : '\n' ∈ c :: run → intact) : Tidied intact 0 (c :: run) []

namespace Tidied

variable {intact : Prop} {reach : Nat} {s t : Text} {c : Char}

theorem spaceless (test : Char → Bool) (fails : ∀ c ∈ [' ', '\n', '\t'], test c = false) {c : Char}
    (space : isSpace c = true) : test c = false := by
  simp only [isSpace, Bool.or_eq_true, decide_eq_true_eq] at space
  rcases space with (rfl | rfl) | rfl
  · exact fails ' ' (by decide)
  · exact fails '\n' (by decide)
  · exact fails '\t' (by decide)

/-- The first characters pass the same tests, white space none of them. -/
theorem head_eq (tidied : Tidied intact reach s t) {test : Char → Bool} (blind : Blind test)
    (fails : ∀ c ∈ [' ', '\n', '\t'], test c = false) (dotted : test '\u0130' = test 'i') :
    s.head?.elim false test = t.head?.elim false test := by
  cases tidied with
  | nil => rfl
  | char _ alike _ => exact alike.test_eq blind
  | dotted _ => exact dotted
  | lone _ _ _ => rfl
  | gap space _ _ _ _ => exact (spaceless test fails space).trans (fails ' ' (by decide)).symm
  | ends space _ _ => exact spaceless test fails space

theorem solid_of_solid (tidied : Tidied intact reach s t)
    (solid : ∀ d ∈ s.head?, isSpace d = false) :
    ∀ d ∈ t.head?, isSpace d = false := by
  cases tidied with
  | nil => exact solid
  | char black alike _ =>
    rintro _ ⟨⟩
    rwa [← alike.test_eq blind_isSpace]
  | dotted _ =>
    rintro _ ⟨⟩
    rfl
  | lone _ _ _ => exact solid
  | gap space _ _ _ _ => cases (solid _ rfl).symm.trans space
  | ends space _ _ => cases (solid _ rfl).symm.trans space

/-- Where the second text ends, white space alone is left of the first. -/
theorem eq_nil_iff (tidied : Tidied intact reach s t) (solid : ∀ d ∈ s.head?, isSpace d = false) :
    s = [] ↔ t = [] := by
  cases tidied with
  | nil => exact Iff.rfl
  | ends space _ _ => cases (solid _ rfl).symm.trans space
  | _ => exact ⟨nofun, nofun⟩

theorem dropWhile_of_solid (solid : ∀ d ∈ s.head?, isSpace d = false) :
    s.dropWhile isSpace = s := by
  cases s with
  | nil => rfl
  | cons d s => rw [List.dropWhile_cons, solid d rfl, if_neg Bool.false_ne_true]

/-- White space is white space in both, or at the end of the first. -/
theorem of_space (tidied : Tidied intact reach (c :: s) t) (space : isSpace c = true) :
    (t = [] ∧ s.dropWhile isSpace = []) ∨
      ∃ d rest, t = d :: rest ∧ isSpace d = true ∧ (∀ e ∈ rest.head?, isSpace e = false) ∧
        Tidied intact 0 (s.dropWhile isSpace) rest := by
  cases tidied with
  | char black _ _ => cases black.symm.trans space
  | dotted _ => cases space
  | lone _ solid rest =>
    refine .inr ⟨c, _, rfl, space, rest.solid_of_solid solid, ?_⟩
    rwa [dropWhile_of_solid solid]
  | gap _ spaces _ solid rest =>
    refine .inr ⟨' ', _, rfl, rfl, rest.solid_of_solid solid, ?_⟩
    rwa [List.dropWhile_append_of_pos spaces, dropWhile_of_solid solid]
  | ends _ spaces _ => exact .inl ⟨rfl, List.dropWhile_eq_nil_iff.2 spaces⟩

/-- A sign stands in both. -/
theorem of_sign {sign : Char} (tidied : Tidied intact reach (sign :: s) t)
    (own : isSign sign = true) :
    ∃ rest, t = sign :: rest ∧ Tidied intact (nextReach reach sign) s rest := by
  obtain ⟨low, -, solid⟩ := isSign_iff.1 own
  cases tidied with
  | char _ alike rest => exact ⟨_, by rw [(alike.eq_sign_iff own).1 rfl], rest⟩
  | dotted _ => exact absurd low (by decide)
  | lone space _ _ => cases solid.symm.trans space
  | gap space _ _ _ _ => cases solid.symm.trans space
  | ends space _ _ => cases solid.symm.trans space

/-- The first characters of both are a sign, or none of them is. -/
theorem head?_sign_iff (tidied : Tidied intact reach s t) {sign : Char} (own : isSign sign = true) :
    s.head? = some sign ↔ t.head? = some sign := by
  obtain ⟨low, letterless, solid⟩ := isSign_iff.1 own
  have fails (c : Char) (space : c ∈ [' ', '\n', '\t']) : decide (c = sign) = false := by
    apply decide_eq_false
    rintro rfl
    revert solid
    revert c
    decide
  have dotted : decide ('\u0130' = sign) = decide ('i' = sign) := by
    have capital : '\u0130' ≠ sign := by
      rintro rfl
      exact absurd low (by decide)
    have small : 'i' ≠ sign := by
      rintro rfl
      cases letterless
    rw [decide_eq_false capital, decide_eq_false small]
  have same := tidied.head_eq (blind_sign own) fails dotted
  have head (text : Text) : text.head?.elim false (· = sign) = true ↔ text.head? = some sign := by
    cases text <;> simp
  rw [← head, ← head, same]

/-- Where no escaped backslash stands in front, it does not matter how far an escape reached. -/
theorem reset (tidied : Tidied intact reach s t) (bound : reach ≤ 7)
    (free : reach = 7 → s.head? ≠ some '\\') :
    Tidied intact 0 s t := by
  induction tidied with
  | nil => exact .nil 0
  | @char reach c d s t solid alike rest ih =>
    refine .char solid alike ?_
    unfold nextReach at rest ih ⊢
    split
    · next slash =>
      have other : reach ≠ 7 := fun seven => free seven (by rw [slash]; rfl)
      rwa [if_pos slash, if_neg other] at rest
    · next plain =>
      rw [if_neg plain] at rest ih
      split
      · next hex =>
        rw [if_pos hex] at ih
        exact ih (by omega) (by omega)
      · next other => rwa [if_neg other] at rest
  | dotted rest => exact .dotted rest
  | lone space solid rest => exact .lone space solid rest
  | gap space spaces lines solid rest => exact .gap space spaces lines solid rest
  | ends space spaces lines => exact .ends space spaces lines

/-- A test for characters of ASCII that neither white space nor the letter i passes. -/
structure Figure (test : Char → Bool) : Prop where
  small : ∀ c : Char, test c.toLower = test c
  ascii : ∀ c : Char, test c = true → c.toNat < 128
  fails : ∀ c ∈ [' ', '\n', '\t', 'i'], test c = false

theorem Figure.of_ascii {test : Char → Bool}
    (small : ∀ n < 128, test (Char.ofNat n).toLower = test (Char.ofNat n))
    (ascii : ∀ c : Char, test c = true → c.toNat < 128)
    (fails : ∀ c ∈ [' ', '\n', '\t', 'i'], test c = false) :
    Figure test :=
  ⟨small_of_ascii small, ascii, fails⟩

theorem figure_isDigit : Figure Char.isDigit :=
  .of_ascii (by decide +kernel) (fun _ => ascii_of_isDigit) (by decide)

theorem figure_isHexDigit : Figure isHexDigit :=
  .of_ascii (by decide +kernel) (fun _ => ascii_of_isHexDigit) (by decide)

theorem figure_sign {sign : Char} (own : isSign sign = true) : Figure (· = sign) where
  small c := decide_eq_decide.2 (toLower_eq_sign_iff own c)
  ascii c same := by
    rw [of_decide_eq_true same]
    exact (isSign_iff.1 own).1
  fails c member := by
    apply decide_eq_false
    rintro rfl
    revert own
    revert c
    decide

theorem takeWhile_of_fails (tidied : Tidied intact reach s t) {test : Char → Bool}
    (first : s.takeWhile test = []) (second : t.takeWhile test = []) :
    t.takeWhile test = Text.asciiLower (s.takeWhile test) ∧ ∀ n ≤ (s.takeWhile test).length,
      Tidied intact (((s.takeWhile test).take n).foldl nextReach reach) (s.drop n) (t.drop n) := by
  rw [first, second]
  refine ⟨rfl, fun n bound => ?_⟩
  obtain rfl := Nat.le_zero.1 bound
  exact tidied

/-- The characters in front that pass a test are the same but for their case, and behind any of them
the texts go on alike. -/
theorem takeWhile (tidied : Tidied intact reach s t) {test : Char → Bool} (figure : Figure test) :
    t.takeWhile test = Text.asciiLower (s.takeWhile test) ∧ ∀ n ≤ (s.takeWhile test).length,
      Tidied intact (((s.takeWhile test).take n).foldl nextReach reach) (s.drop n) (t.drop n) := by
  have stops {c : Char} (s : Text) (fails : test c = false) : (c :: s).takeWhile test = [] :=
    List.takeWhile_cons_of_neg (by simp [fails])
  have blank {c : Char} (s : Text) (space : isSpace c = true) : (c :: s).takeWhile test = [] :=
    stops s (spaceless test (fun c member => figure.fails c (by revert member; simp; tauto)) space)
  have whole := tidied
  induction tidied with
  | nil => exact whole.takeWhile_of_fails rfl rfl
  | @char reach c d s t solid alike rest ih =>
    have same := alike.test_eq (.of_ascii figure.small figure.ascii : Blind test)
    cases passes : test c with
    | false => exact whole.takeWhile_of_fails (stops s passes) (stops t (same ▸ passes))
    | true =>
      obtain ⟨front, behind⟩ := ih rest
      have small : d = c.toLower := by
        rcases alike with ⟨_, small⟩ | ⟨high, _⟩
        · exact small
        · exact absurd (figure.ascii c passes) (by omega)
      rw [List.takeWhile_cons, List.takeWhile_cons, ← same, passes, if_pos rfl, if_pos rfl,
        front, small]
      refine ⟨rfl, fun n bound => ?_⟩
      cases n with
      | zero => exact small ▸ whole
      | succ n => exact behind n (by simpa using bound)
  | dotted rest _ =>
    have capital : test '\u0130' = false := by
      cases passes : test '\u0130' with
      | false => rfl
      | true => exact absurd (figure.ascii _ passes) (by decide)
    exact whole.takeWhile_of_fails (stops _ capital) (stops _ (figure.fails 'i' (by decide)))
  | lone space _ _ _ => exact whole.takeWhile_of_fails (blank _ space) (blank _ space)
  | gap space _ _ _ _ _ => exact whole.takeWhile_of_fails (blank _ space) (blank _ rfl)
  | ends space _ _ => exact whole.takeWhile_of_fails (blank _ space) rfl

/-! ### Escapes and names -/

theorem foldl_nextReach_hex {digits : Text} (hex : ∀ c ∈ digits, isHexDigit c = true)
    (reach : Nat) :
    digits.foldl nextReach reach = reach - digits.length := by
  induction digits generalizing reach with
  | nil => rfl
  | cons c digits ih =>
    obtain ⟨first, others⟩ := List.forall_mem_cons.1 hex
    have plain : c ≠ '\\' := by
      rintro rfl
      cases first
    rw [List.foldl_cons, ih others, nextReach, if_neg plain, if_pos first, List.length_cons]
    omega

theorem hexValue_asciiLower {digits : Text} (hex : ∀ c ∈ digits, isHexDigit c = true) :
    hexValue (Text.asciiLower digits) = hexValue digits := by
  have value {c : Char} (digit : isHexDigit c = true) : hexDigitValue c.toLower =
      hexDigitValue c := by
    have all : ∀ n < 128, isHexDigit (Char.ofNat n) = true →
        hexDigitValue (Char.ofNat n).toLower = hexDigitValue (Char.ofNat n) := by decide +kernel
    have own := all c.toNat (ascii_of_isHexDigit digit)
    rw [Char.ofNat_toNat] at own
    exact own digit
  unfold hexValue
  generalize 0 = n
  induction digits generalizing n with
  | nil => rfl
  | cons c digits ih =>
    obtain ⟨first, others⟩ := List.forall_mem_cons.1 hex
    rw [Text.asciiLower, List.map_cons, List.foldl_cons, List.foldl_cons, value first]
    exact ih others _

/-- Behind the digits of an escape one space goes with it, and no run of white space is changed
there. -/
theorem dropSpace (tidied : Tidied intact reach s t) (bound : 0 < reach ∧ reach < 7) :
    Tidied intact 0 (Scan.dropSpace s) (Scan.dropSpace t) := by
  have whole := tidied.reset (by omega) (by omega)
  cases tidied with
  | nil => exact whole
  | char solid alike rest =>
    have solidToo := (alike.test_eq blind_isSpace).symm.trans solid
    simpa [Scan.dropSpace, solid, solidToo] using whole
  | dotted _ => exact whole
  | lone space _ rest => simpa [Scan.dropSpace, space] using rest
  | gap => omega
  | ends => omega

end Tidied

/-- Two escaped characters with what follows them. The mark of a dotted letter is no part of the
escape. -/
inductive EscapedAlike (intact : Prop) : Char × Text → Char × Text → Prop where
  | letter {c d : Char} {left right : Text}
      (alike : c.toLower = d.toLower ∨ 128 ≤ c.toNat ∧ 128 ≤ d.toNat)
      (rest : Tidied intact 0 left right) : EscapedAlike intact (c, left) (d, right)
  | dotted {left right : Text} (rest : Tidied intact 0 left right) :
      EscapedAlike intact ('\u0130', left) ('i', '\u0307' :: right)

/-- What holds of everything that may follow the first escape also holds behind the second one, if
the mark of a dotted letter makes no difference to it. -/
theorem EscapedAlike.behind {intact : Prop} {first second : Char × Text} {P : Text → Prop}
    (escaped : EscapedAlike intact first second)
    (alike : ∀ right, Tidied intact 0 first.2 right → P right)
    (marked : ∀ right, P right → P ('\u0307' :: right)) : P second.2 := by
  cases escaped with
  | letter _ rest => exact alike _ rest
  | dotted rest => exact marked _ (alike _ rest)

theorem CharAlike.toLower_eq {c d : Char} (alike : CharAlike c d) :
    c.toLower = d.toLower ∨ 128 ≤ c.toNat ∧ 128 ≤ d.toNat := by
  rcases alike with ⟨low, rfl⟩ | foreign
  · exact .inl (Text.toLower_toLower_of_ascii low).symm
  · exact .inr foreign

namespace Tidied

variable {intact : Prop} {reach : Nat} {s t : Text} {c : Char}

/-- The first hexadecimal digits, six at most. -/
theorem escapeDigits_eq (text : Text) :
    (text.take 6).takeWhile isHexDigit = (text.takeWhile isHexDigit).take 6 :=
  List.take_takeWhile.symm

theorem takeEscape (tidied : Tidied intact 7 s t) :
    EscapedAlike intact (Scan.takeEscape s) (Scan.takeEscape t) := by
  obtain ⟨front, behind⟩ := tidied.takeWhile figure_isHexDigit
  have lower : (Text.asciiLower (s.takeWhile isHexDigit)).take 6 =
      Text.asciiLower ((s.takeWhile isHexDigit).take 6) :=
    List.map_take.symm
  have hex : ∀ c ∈ (s.takeWhile isHexDigit).take 6, isHexDigit c = true :=
    fun c member => all_takeWhile s c (List.mem_of_mem_take member)
  unfold Scan.takeEscape
  dsimp only
  rw [escapeDigits_eq, escapeDigits_eq, front, lower, hexValue_asciiLower hex]
  by_cases bare : (s.takeWhile isHexDigit).take 6 = []
  · rw [bare, if_pos rfl, if_pos (show Text.asciiLower [] = [] from rfl)]
    cases tidied with
    | nil => exact .letter (.inl rfl) (.nil 0)
    | @char _ c d s t solid alike rest =>
      have other : isHexDigit c = false := by
        cases first : isHexDigit c with
        | false => rfl
        | true => simp [first] at bare
      have zero : nextReach 7 c = 0 := by
        unfold nextReach
        split
        · rfl
        · rw [other]
          rfl
      exact .letter alike.toLower_eq (zero ▸ rest)
    | dotted rest => exact .dotted rest
    | lone _ _ rest => exact .letter (.inl rfl) rest
  · have bareToo : Text.asciiLower ((s.takeWhile isHexDigit).take 6) ≠ [] := by
      simpa [Text.asciiLower] using bare
    rw [if_neg bare, if_neg bareToo]
    -- Behind one to six digits the escape still reaches one character: a run of white space there
    -- is left as it is.
    have most : ((s.takeWhile isHexDigit).take 6).length ≤ 6 := List.length_take_le _ _
    have least : 0 < ((s.takeWhile isHexDigit).take 6).length := List.length_pos_iff.2 bare
    have goesOn := behind ((s.takeWhile isHexDigit).take 6).length (List.length_take_le' _ _)
    have all : (s.takeWhile isHexDigit).take ((s.takeWhile isHexDigit).take 6).length =
        (s.takeWhile isHexDigit).take 6 := by
      simp
    rw [all, foldl_nextReach_hex hex] at goesOn
    rw [Text.asciiLower, List.length_map]
    exact .letter (.inl rfl) (goesOn.dropSpace (by omega))

end Tidied

theorem Blind.or {test other : Char → Bool} (blind : Blind test) (blindToo : Blind other) :
    Blind fun c => test c || other c where
  small c := by rw [blind.small c, blindToo.small c]
  foreign c d high highToo := by
    rw [blind.foreign c d high highToo, blindToo.foreign c d high highToo]

theorem startsEscape_of_isSpace {c : Char} (space : isSpace c = true) (rest : Text) :
    startsEscape (c :: rest) = false :=
  startsEscape_of_ne (of_decide_eq_false (Tidied.spaceless (· = '\\') (by decide) space))

theorem startsIdent_of_isSpace {c : Char} (space : isSpace c = true) (rest : Text) :
    startsIdent (c :: rest) = false := by
  have plain : c ≠ '-' := of_decide_eq_false (Tidied.spaceless (· = '-') (by decide) space)
  have letter : isNameStart c = false := Tidied.spaceless isNameStart (by decide) space
  rw [startsIdent, letter, startsEscape_of_isSpace space]
  · rfl
  · exact plain

namespace Tidied

variable {intact : Prop} {reach : Nat} {s t : Text} {c : Char}

/-- Behind a backslash a line feed stays a line feed. -/
theorem lineFeed_iff (tidied : Tidied intact 7 s t) :
    s.head? = some '\n' ↔ t.head? = some '\n' := by
  cases tidied with
  | nil => exact Iff.rfl
  | @char _ c d s t solid alike _ =>
    have solidToo := (alike.test_eq blind_isSpace).symm.trans solid
    constructor
    · rintro ⟨⟩
      cases solid
    · rintro ⟨⟩
      cases solidToo
  | dotted _ => exact ⟨nofun, nofun⟩
  | lone _ _ _ => exact Iff.rfl

theorem startsEscape_eq (tidied : Tidied intact 0 s t) : startsEscape s = startsEscape t := by
  cases tidied with
  | nil => rfl
  | @char _ c d s t solid alike rest =>
    by_cases slash : c = '\\'
    · have slashToo := (alike.eq_sign_iff rfl).1 slash
      subst slash slashToo
      simp only [startsEscape]
      exact decide_eq_decide.2 (not_congr (lineFeed_iff rest))
    · have plain := mt (alike.eq_sign_iff rfl).2 slash
      rw [startsEscape_of_ne slash, startsEscape_of_ne plain]
  | dotted _ => rfl
  | lone space _ _ => rw [startsEscape_of_isSpace space, startsEscape_of_isSpace space]
  | gap space _ _ _ _ => rw [startsEscape_of_isSpace space, startsEscape_of_isSpace rfl]
  | ends space _ _ => exact startsEscape_of_isSpace space _

theorem startsIdent_eq (tidied : Tidied intact 0 s t) : startsIdent s = startsIdent t := by
  have escape := tidied.startsEscape_eq
  cases tidied with
  | nil => rfl
  | @char _ c d s t solid alike rest =>
    by_cases hyphen : c = '-'
    · have hyphenToo := (alike.eq_sign_iff rfl).1 hyphen
      subst hyphen hyphenToo
      have next : Tidied intact 0 s t := rest
      have hyphen : Blind (· = '-') := blind_sign rfl
      have head := next.head_eq (blind_isNameStart.or hyphen) (by decide) (by decide)
      simp only [startsIdent]
      rw [head, next.startsEscape_eq]
    · have plain := mt (alike.eq_sign_iff rfl).2 hyphen
      rw [startsIdent, startsIdent, alike.test_eq blind_isNameStart, escape]
      · exact plain
      · exact hyphen
  | dotted _ => rfl
  | lone space _ _ => rw [startsIdent_of_isSpace space, startsIdent_of_isSpace space]
  | gap space _ _ _ _ => rw [startsIdent_of_isSpace space, startsIdent_of_isSpace rfl]
  | ends space _ _ => exact startsIdent_of_isSpace space _

theorem takeName_of_isSpace (space : isSpace c = true) (rest : Text) :
    Scan.takeName (c :: rest) = ([], c :: rest) := by
  have letter : isNameChar c = false := spaceless isNameChar (by decide) space
  rw [Scan.takeName, letter, startsEscape_of_isSpace space]
  rfl

theorem takeName_foreign (high : 128 ≤ c.toNat) (rest : Text) :
    Scan.takeName (c :: rest) = (c :: (Scan.takeName rest).1, (Scan.takeName rest).2) := by
  have letter : isNameChar c = true := by simp [isNameChar, isNameStart_foreign high]
  rw [Scan.takeName, letter]
  rfl

theorem namedAlike_cons {c d : Char} {name other : Text}
    (alike : c.toLower = d.toLower ∨ 128 ≤ c.toNat ∧ 128 ≤ d.toNat)
    (named : name.NamedAlike other) :
    Text.NamedAlike (c :: name) (d :: other) := by
  rcases alike with small | ⟨high, highToo⟩
  · rcases named with same | ⟨⟨e, member, high⟩, ⟨e', member', high'⟩⟩
    · left
      rw [Text.asciiLower, Text.asciiLower, List.map_cons, List.map_cons, small]
      exact congrArg _ same
    · exact .inr ⟨⟨e, List.mem_cons_of_mem _ member, high⟩,
        ⟨e', List.mem_cons_of_mem _ member', high'⟩⟩
  · exact .inr ⟨⟨c, List.mem_cons_self, high⟩, ⟨d, List.mem_cons_self, highToo⟩⟩

theorem namedAlike_dotted (name other : Text) :
    Text.NamedAlike ('\u0130' :: name) ('i' :: '\u0307' :: other) :=
  .inr ⟨⟨'\u0130', by simp, by decide⟩, ⟨'\u0307', by simp, by decide⟩⟩

/-- Names are read alike, and what follows them is tidied again. -/
theorem takeName (tidied : Tidied intact 0 s t) :
    (Scan.takeName s).1.NamedAlike (Scan.takeName t).1 ∧
      Tidied intact 0 (Scan.takeName s).2 (Scan.takeName t).2 := by
  induction length : s.length using Nat.strongRecOn generalizing s t with
  | ind n ih =>
    have escape := tidied.startsEscape_eq
    have whole := tidied
    have empty : Text.NamedAlike [] [] := .inl rfl
    cases tidied with
    | nil =>
      rw [Scan.takeName]
      exact ⟨empty, whole⟩
    | @char _ c d s t solid alike rest =>
      rw [List.length_cons] at length
      rw [Scan.takeName, Scan.takeName, ← alike.test_eq blind_isNameChar, ← escape]
      split
      · next letter =>
        have zero : nextReach 0 c = 0 := by
          have plain : c ≠ '\\' := by
            rintro rfl
            cases letter
          simp [nextReach, plain]
        obtain ⟨named, further⟩ := ih s.length (by omega) (zero ▸ rest) rfl
        exact ⟨namedAlike_cons alike.toLower_eq named, further⟩
      · split
        · next started =>
          have slash : c = '\\' := by
            by_contra plain
            rw [startsEscape_of_ne plain] at started
            cases started
          subst slash
          have escaped := takeEscape rest
          have shorter := length_takeEscape_le s
          generalize Scan.takeEscape s = first, Scan.takeEscape t = second at escaped shorter
          cases escaped with
          | letter alike rest =>
            dsimp only at shorter
            obtain ⟨named, further⟩ := ih _ (by omega) rest rfl
            exact ⟨namedAlike_cons alike named, further⟩
          | @dotted left right rest =>
            dsimp only at shorter
            obtain ⟨-, further⟩ := ih _ (by omega) rest rfl
            rw [takeName_foreign (by decide) right]
            exact ⟨namedAlike_dotted _ _, further⟩
        · exact ⟨empty, whole⟩
    | @dotted _ s t rest =>
      rw [List.length_cons] at length
      obtain ⟨-, further⟩ := ih s.length (by omega) rest rfl
      rw [takeName_foreign (by decide) s, show Scan.takeName ('i' :: '\u0307' :: t) = ('i' ::
        (Scan.takeName ('\u0307' :: t)).1, (Scan.takeName ('\u0307' :: t)).2) by
        rw [Scan.takeName]; rfl,
        takeName_foreign (by decide) t]
      exact ⟨namedAlike_dotted _ _, further⟩
    | lone space _ _ =>
      rw [takeName_of_isSpace space, takeName_of_isSpace space]
      exact ⟨empty, whole⟩
    | gap space _ _ _ _ =>
      rw [takeName_of_isSpace space, takeName_of_isSpace rfl]
      exact ⟨empty, whole⟩
    | ends space _ _ =>
      rw [takeName_of_isSpace space, Scan.takeName]
      exact ⟨empty, whole⟩

end Tidied

end StyleScore.Scan
