import StyleScore.Text.Basic

/-!
Blank characters, trimming, and the spacing rules of tidied headers and selectors.
-/
namespace StyleScore.Text

/-- The separators of Unicode and the line and information separators of ASCII. -/
def isBlank (c : Char) : Bool :=
  let n := c.toNat
  (9 ≤ n && n ≤ 13) || (0x1C ≤ n && n ≤ 0x20) || n = 0x85 || n = 0xA0 || n = 0x1680 ||
    (0x2000 ≤ n && n ≤ 0x200A) || n = 0x2028 || n = 0x2029 || n = 0x202F || n = 0x205F || n = 0x3000

def trimStart (text : Text) : Text := text.dropWhile isBlank

def trimEnd (text : Text) : Text := (text.reverse.dropWhile isBlank).reverse

/-- The text without the blanks around it. -/
def trim (text : Text) : Text := trimEnd (trimStart text)

/-- The characters that end a line. -/
def isLineEnd (c : Char) : Bool :=
  let n := c.toNat
  (10 ≤ n && n ≤ 13) || (0x1C ≤ n && n ≤ 0x1E) || n = 0x85 || n = 0x2028 || n = 0x2029

/-- The last line of the text without the blanks around it. -/
def lastLine (text : Text) : Text := ((trim text).reverse.takeWhile fun c => !isLineEnd c).reverse

/-- Two blanks side by side become one space, over and over: a longer run becomes one space and a
lone blank stays as it is. -/
def collapseBlanks : Text → Text
  | [] => []
  | [c] => [c]
  | c :: d :: rest =>
    if isBlank c && isBlank d then collapseBlanks (' ' :: rest) else c :: collapseBlanks (d :: rest)
termination_by text => text.length

/-- The text without its first character when that is blank. -/
def dropBlank : Text → Text
  | [] => []
  | c :: rest => if isBlank c then rest else c :: rest

theorem length_dropBlank_le (text : Text) : (dropBlank text).length ≤ text.length := by
  cases text with
  | nil => simp [dropBlank]
  | cons c rest => by_cases h : isBlank c <;> simp [dropBlank, h]

/-- Every colon loses one blank before it and one after it. -/
def tightenColons : Text → Text
  | [] => []
  | c :: rest =>
    if c = ':' then ':' :: tightenColons (dropBlank rest)
    else if isBlank c && rest.head? = some ':' then tightenColons rest
    else c :: tightenColons rest
termination_by text => text.length
decreasing_by
  · have := length_dropBlank_le rest
    simp only [List.length_cons]
    omega
  · simp
  · simp

theorem trimEnd_getLast (text : Text) (c : Char) (h : (trimEnd text).getLast? = some c) :
    isBlank c = false := by
  simp only [trimEnd, List.getLast?_reverse] at h
  have := List.head?_dropWhile_not isBlank text.reverse
  rw [h] at this
  simpa using this

theorem trim_getLast (text : Text) (c : Char) (h : (trim text).getLast? = some c) :
    isBlank c = false :=
  trimEnd_getLast _ c h

end StyleScore.Text
