import Mathlib.Data.List.TakeWhile
import StyleScore.Proofs.Token.Scope

/-!
A plain selector is scanned to the same lexemes whatever follows it, as long as that starts with a
blank, a comma or a closing bracket (`reads_of_run`). Its lexemes keep the brackets matched, and a
comma stands in attribute tests only.
-/
namespace StyleScore.Scan

/-- The lexemes from the start of a text up to a place in it, read with all that follows in view. -/
inductive Reads : Text → List Lexeme → Text → Prop where
  | done (rest : Text) : Reads rest [] rest
  | next {c : Char} {rest left last : Text} {lexemes more : List Lexeme}
      (one : scanOne c rest = (lexemes, left)) (others : Reads left more last) :
      Reads (c :: rest) (lexemes ++ more) last

theorem Reads.append {text middle last : Text} {lexemes more : List Lexeme}
    (first : Reads text lexemes middle) (second : Reads middle more last) :
    Reads text (lexemes ++ more) last := by
  induction first with
  | done => exact second
  | next one _ ih =>
    rw [List.append_assoc]
    exact .next one (ih second)

/-- Lexemes read to the end are those of the text, wherever it stands. -/
theorem Reads.map_scanFrom {text : Text} {lexemes : List Lexeme} (reads : Reads text lexemes [])
    (pos : Position) :
    (scanFrom pos text).map Prod.snd = lexemes := by
  generalize finished : ([] : Text) = last at reads
  induction reads generalizing pos with
  | done rest =>
    subst finished
    rw [scanFrom]
    rfl
  | next one _ ih =>
    rw [scanFrom, List.map_append, one, ih _ finished]
    simp [Function.comp_def]

/-- What a lexeme does to the scope. A comma stands in attribute tests only. -/
inductive Turn : Scope → Lexeme → Scope → Prop where
  | token {scope : Scope} {token : Token} (inside : scope = .top → token ≠ .literal [',']) :
      Turn scope (.token token) scope
  | opens : Turn .top (.opening (.block .square)) .test
  | closes : Turn .test (.closing .square) .top

/-- Lexemes that lead out of a scope, with all brackets matched. -/
inductive Walk : Scope → List Lexeme → Prop where
  | done : Walk .top []
  | next {scope next : Scope} {lexeme : Lexeme} {lexemes : List Lexeme}
      (turn : Turn scope lexeme next) (others : Walk next lexemes) : Walk scope (lexeme :: lexemes)

/-- The text starts a range of code points. -/
def startsRange (c : Char) (rest : Text) : Bool :=
  (c = 'u' || c = 'U') && rest.head? = some '+' &&
    ((rest.drop 1).head?.elim false fun d => isHexDigit d || d = '?')

/-- The text starts with the end mark of a page's comment. -/
def startsArrow (c : Char) (rest : Text) : Bool := c = '-' && rest.take 2 = "->".toList

theorem startsRange_append {more : Text} (stop : Stop more) (c : Char) (rest : Text) :
    startsRange c (rest ++ more) = startsRange c rest := by
  have plus : ∀ d ∈ more.head?, (d = '+' : Bool) = false := stop.head_fails (by decide)
  have digit : ∀ e ∈ more.head?, (isHexDigit e || e = '?') = false := stop.head_fails (by decide)
  unfold startsRange
  cases rest with
  | nil =>
    cases more with
    | nil => rfl
    | cons d tail =>
      have other : d ≠ '+' := of_decide_eq_false (plus d rfl)
      simp [other]
  | cons d tail =>
    rw [List.cons_append, List.drop_succ_cons, List.drop_zero, head?_append_of_stop digit]
    rfl

theorem startsArrow_append {more : Text} (stop : Stop more) (c : Char) (rest : Text) :
    startsArrow c (rest ++ more) = startsArrow c rest := by
  unfold startsArrow
  have hyphen : ∀ d ∈ more.head?, (d = '-' : Bool) = false := stop.head_fails (by decide)
  have angle : ∀ d ∈ more.head?, (d = '>' : Bool) = false := stop.head_fails (by decide)
  match rest with
  | [] =>
    cases more with
    | nil => rfl
    | cons d tail =>
      have other : d ≠ '-' := of_decide_eq_false (hyphen d rfl)
      simp [other]
  | [d] =>
    cases more with
    | nil => rfl
    | cons e tail =>
      have other : e ≠ '>' := of_decide_eq_false (angle e rfl)
      simp [other]
  | d :: e :: tail => rfl

/-- The lexemes of a text that starts with no blank, range, arrow or name. -/
def scanOther (c : Char) (rest : Text) : List Lexeme × Text :=
  match takeNumber (c :: rest) with
  | some (written, left) =>
    if startsIdent left then
      let (unit, left) := takeName left
      ([.token (.dimension written unit)], left)
    else match left with
      | '%' :: left => ([.token (.percentage written)], left)
      | left => ([.token (.number written)], left)
  | none =>
    if c = '@' && startsIdent rest then
      let (name, left) := takeName rest
      ([.token (.atKeyword name)], left)
    else if c = '#' && ((rest.head?.elim false isNameChar) || startsEscape rest) then
      let (name, left) := takeName rest
      ([.token (.hash name (startsIdent rest))], left)
    else if c = '"' || c = '\'' then
      match takeString c rest with
      | (value, .closed, left) => ([.token (.string value true)], left)
      | (value, .endOfText, left) =>
        ([.token (.string value false), .token (.fault .endInString)], left)
      | (_, .broken, left) => ([.token (.fault .badString)], left)
    else scanSign c rest

theorem scanOne_eq (c : Char) (rest : Text) :
    scanOne c rest =
      if isSpace c then ([.token (.blank (c :: rest.takeWhile isSpace))], rest.dropWhile isSpace)
      else if startsRange c rest then
        ([.token (.range (takeRange (rest.drop 1)).1 (takeRange (rest.drop 1)).2.1)],
          (takeRange (rest.drop 1)).2.2)
      else if startsArrow c rest then ([.token (.literal "-->".toList)], rest.drop 2)
      else if startsIdent (c :: rest) then scanName (c :: rest)
      else scanOther c rest := rfl

/-- The text starts with no blank, range, arrow or name. -/
def StartsOther (c : Char) (rest : Text) : Prop :=
  isSpace c = false ∧ startsRange c rest = false ∧ startsArrow c rest = false ∧
  startsIdent (c :: rest) = false

theorem scanOne_of_startsOther {c : Char} {rest more : Text} (other : StartsOther c rest)
    (stop : Stop more) (escapeless : '\\' ∉ c :: rest) :
    scanOne c (rest ++ more) = scanOther c (rest ++ more) := by
  obtain ⟨solid, noRange, noArrow, noName⟩ := other
  rw [scanOne_eq, startsRange_append stop, startsArrow_append stop, ← List.cons_append,
    startsIdent_append stop _ escapeless, solid, noRange, noArrow, noName]
  rfl

/-- Some signs start nothing longer. -/
theorem scanOne_sign {c : Char} (sign : c ∈ ['[', ']', ',', ')']) (rest : Text) :
    scanOne c rest = scanSign c rest := by
  simp only [List.mem_cons, List.not_mem_nil, or_false] at sign
  rcases sign with rfl | rfl | rfl | rfl <;> rfl

theorem takeString_closed {quote : Char} {value : Text}
    (plain : ∀ c ∈ value, c ≠ quote ∧ c ≠ '\\' ∧ c ≠ '\n') (left : Text) :
    takeString quote (value ++ quote :: left) = (value, .closed, left) := by
  induction value with
  | nil =>
    rw [List.nil_append, takeString.eq_def]
    exact if_pos rfl
  | cons c value ih =>
    obtain ⟨⟨other, noEscape, noFeed⟩, plain⟩ := List.forall_mem_cons.1 plain
    rw [List.cons_append, takeString.eq_def]
    dsimp only
    rw [if_neg other, if_neg noEscape, if_neg noFeed, ih plain]

theorem scanOne_string {quote : Char} {value : Text} (mark : quote = '"' ∨ quote = '\'')
    (plain : ∀ c ∈ value, c ≠ quote ∧ c ≠ '\\' ∧ c ≠ '\n') (left : Text) :
    scanOne quote (value ++ quote :: left) = ([.token (.string value true)], left) := by
  have whole : scanOne quote (value ++ quote :: left) =
      match takeString quote (value ++ quote :: left) with
      | (value, .closed, left) => ([.token (.string value true)], left)
      | (value, .endOfText, left) =>
        ([.token (.string value false), .token (.fault .endInString)], left)
      | (_, .broken, left) => ([.token (.fault .badString)], left) := by
    rcases mark with rfl | rfl <;> rfl
  rw [whole, takeString_closed plain]

/-- One lexeme is read from a text, the same whatever follows where the text stops. -/
structure Chunk (scope : Scope) (c : Char) (rest : Text) (lexeme : Lexeme) (left : Text)
    (next : Scope) :
    Prop where
  reads : ∀ more, Stop more → scanOne c (rest ++ more) = ([lexeme], left ++ more)
  turn : Turn scope lexeme next
  ran : Scope.run false next left = some .top
  behind : left <:+ c :: rest

/-- From a text whose scope ends at the top, one lexeme is read in this way. -/
def HasChunk (scope : Scope) (c : Char) (rest : Text) : Prop :=
  ∃ lexeme left next, Chunk scope c rest lexeme left next

section Chunks

variable {scope : Scope} {c : Char} {rest : Text} (bare : scope.IsBare)
  (ran : Scope.run false scope (c :: rest) = some .top)
include bare ran

theorem hasChunk_of_uses (token : Token) (left : Text) (uses : Uses (c :: rest) left)
    (inside : scope = .top → token ≠ .literal [','])
    (reads : ∀ more, Stop more → scanOne c (rest ++ more) = ([.token token], left ++ more)) :
    HasChunk scope c rest := by
  refine ⟨.token token, left, scope, reads, .token inside, Scope.run_of_uses bare uses ran, ?_⟩
  obtain ⟨used, whole, -⟩ := uses
  exact ⟨used, whole.symm⟩

theorem hasChunk_blank (filled : ∀ d ∈ (c :: rest).getLast?, isSpace d = false)
    (blank : isSpace c = true) :
    HasChunk scope c rest := by
  have solid : rest.dropWhile isSpace ≠ [] := by
    intro none
    have all : ∀ d ∈ c :: rest, isSpace d = true :=
      List.forall_mem_cons.2 ⟨blank, List.dropWhile_eq_nil_iff.1 none⟩
    have last := filled _ (List.getLast?_eq_some_getLast (List.cons_ne_nil c rest))
    rw [all _ (List.getLast_mem _)] at last
    cases last
  refine hasChunk_of_uses bare ran (.blank (c :: rest.takeWhile isSpace)) (rest.dropWhile isSpace)
    ?_ (by simp)
    fun more _ => ?_
  · exact (uses_dropWhile (by decide) rest).cons (not_mem_of_class (p := isSpace) (by decide) blank)
  · have shorter : (rest.takeWhile isSpace).length ≠ rest.length := by
      intro same
      have whole :=
        congrArg List.length (List.takeWhile_append_dropWhile (p := isSpace) (l := rest))
      rw [List.length_append, same] at whole
      exact solid (List.length_eq_zero_iff.1 (by omega))
    rw [scanOne_eq, if_pos blank, List.takeWhile_append, if_neg shorter, List.dropWhile_append,
      if_neg (by simpa using solid)]

theorem hasChunk_range (solid : isSpace c = false) (range : startsRange c rest = true) :
    HasChunk scope c rest := by
  have shape := range
  simp only [startsRange, Bool.and_eq_true, decide_eq_true_eq] at shape
  obtain ⟨⟨letter, sign⟩, -⟩ := shape
  obtain ⟨tail, rfl⟩ : ∃ tail, rest = '+' :: tail := by
    cases rest with
    | nil => cases sign
    | cons d tail => exact ⟨tail, by rw [Option.some.inj sign]⟩
  have plain : c ∉ ['[', ']', '"', '\''] :=
    not_mem_of_class (p := fun c => c = 'u' || c = 'U') (by decide) letter
  have start : Uses (c :: '+' :: tail) tail := ((Uses.refl tail).cons (by decide)).cons plain
  -- A question mark would not be plain.
  have unmarked : ∀ d ∈ (tail.drop ((tail.take 6).takeWhile isHexDigit).length).head?, d ≠ '?' := by
    have digits :=
      uses_of_isPrefix (p := isHexDigit) (by decide) (takeWhile_take_isPrefix 6 tail)
        (all_takeWhile _)
    rintro d head rfl
    rcases Scope.plain_of_head bare (Scope.run_of_uses bare (start.trans digits) ran) _
      head with mark | mark <;>
      revert mark <;> decide
  refine hasChunk_of_uses bare ran (.range (takeRange tail).1 (takeRange tail).2.1)
    (takeRange tail).2.2
    (start.trans (takeRange_append .nil tail unmarked).2) (by simp) fun more stop => ?_
  rw [scanOne_eq, startsRange_append stop, solid, range, if_neg Bool.false_ne_true, if_pos rfl,
    List.cons_append, List.drop_succ_cons, List.drop_zero, (takeRange_append stop tail unmarked).1]

theorem hasChunk_arrow (solid : isSpace c = false) (noRange : startsRange c rest = false)
    (arrow : startsArrow c rest = true) : HasChunk scope c rest := by
  have shape := arrow
  simp only [startsArrow, Bool.and_eq_true, decide_eq_true_eq] at shape
  obtain ⟨rfl, mark⟩ := shape
  obtain ⟨tail, rfl⟩ : ∃ tail, rest = '-' :: '>' :: tail := by
    match rest, mark with
    | d :: e :: tail, mark => exact ⟨tail, by simp_all⟩
  refine hasChunk_of_uses bare ran (.literal "-->".toList) tail ?_ (by simp) fun more stop => ?_
  · exact (((Uses.refl tail).cons (by decide)).cons (by decide)).cons (by decide)
  · rw [scanOne_eq, startsRange_append stop, startsArrow_append stop, solid, noRange, arrow]
    rfl

theorem hasChunk_name (solid : isSpace c = false) (noRange : startsRange c rest = false)
    (noArrow : startsArrow c rest = false) (ident : startsIdent (c :: rest) = true) :
    HasChunk scope c rest := by
  have allowed := Scope.not_mem_of_run ran
  have escapeless : '\\' ∉ c :: rest := fun member => allowed _ member (by decide)
  have closed : '(' ∉ c :: rest := fun member => allowed _ member (by decide)
  refine hasChunk_of_uses bare ran (.ident (takeName (c :: rest)).1) (takeName (c :: rest)).2
    (takeName_append .nil _ escapeless).2 (by simp) fun more stop => ?_
  rw [scanOne_eq, startsRange_append stop, startsArrow_append stop, ← List.cons_append,
    startsIdent_append stop _ escapeless, solid, noRange, noArrow, ident,
    scanName_append stop _ escapeless closed]
  rfl

theorem hasChunk_number {written left : Text} (other : StartsOther c rest)
    (number : takeNumber (c :: rest) = some (written, left)) : HasChunk scope c rest := by
  have allowed := Scope.not_mem_of_run ran
  have escapeless : '\\' ∉ c :: rest := fun member => allowed _ member (by decide)
  have uses := uses_takeNumber number
  have ranLeft := Scope.run_of_uses bare uses ran
  have escapelessLeft : '\\' ∉ left :=
    fun member => Scope.not_mem_of_run ranLeft _ member (by decide)
  have numberMore {more : Text} (stop : Stop more) :
      takeNumber (c :: (rest ++ more)) = some (written, left ++ more) := by
    rw [← List.cons_append, takeNumber_append stop, number]
    rfl
  cases unit : startsIdent left with
  | true =>
    refine hasChunk_of_uses bare ran (.dimension written (takeName left).1) (takeName left).2
      (uses.trans (takeName_append .nil _ escapelessLeft).2) (by simp) fun more stop => ?_
    rw [scanOne_of_startsOther other stop escapeless, scanOther, numberMore stop]
    dsimp only
    rw [startsIdent_append stop _ escapelessLeft, unit, if_pos rfl,
      (takeName_append stop _ escapelessLeft).1]
  | false =>
    refine hasChunk_of_uses bare ran (.number written) left uses (by simp) fun more stop => ?_
    rw [scanOne_of_startsOther other stop escapeless, scanOther, numberMore stop]
    dsimp only
    rw [startsIdent_append stop _ escapelessLeft, unit, if_neg Bool.false_ne_true]
    -- A percent sign would not be plain.
    have noPercent : ∀ d ∈ (left ++ more).head?, d ≠ '%' := by
      refine mem_head?_append ?_ ?_
      · rintro d head rfl
        rcases Scope.plain_of_head bare ranLeft _ head with mark | mark <;> revert mark <;> decide
      · rintro d head rfl
        cases stop _ head
    split
    · next percent => exact absurd rfl (noPercent '%' (by rw [percent]; rfl))
    · rfl

theorem hasChunk_sign (plain : c ∉ ['[', ']', '"', '\'']) (other : StartsOther c rest)
    (noNumber : takeNumber (c :: rest) = none) : HasChunk scope c rest := by
  have allowed := Scope.not_mem_of_run ran
  have escapeless : '\\' ∉ c :: rest := fun member => allowed _ member (by decide)
  have escapelessRest : '\\' ∉ rest := fun member => escapeless (List.mem_cons_of_mem c member)
  have own : Scope.isPlain c = true := by
    obtain ⟨next, stepped, -⟩ := Scope.run_cons ran
    exact (Scope.step_of_plain bare plain stepped).2
  have reads {more : Text} (stop : Stop more) :
      scanOne c (rest ++ more) =
        if c = '#' && ((rest.head?.elim false isNameChar) || startsEscape rest) then
          ([.token (.hash (takeName rest).1 (startsIdent rest))], (takeName rest).2 ++ more)
        else scanSign c (rest ++ more) := by
    have nameChar : ∀ d ∈ more.head?, isNameChar d = false := stop.head_fails (by decide)
    have noNumberMore : takeNumber (c :: (rest ++ more)) = none := by
      rw [← List.cons_append, takeNumber_append stop, noNumber]
      rfl
    have noKeyword : c ≠ '@' := by rintro rfl; cases own
    simp only [List.mem_cons, List.not_mem_nil, or_false, not_or] at plain
    rw [scanOne_of_startsOther other stop escapeless, scanOther, noNumberMore]
    simp only [noKeyword, plain, decide_false, Bool.false_and, Bool.false_eq_true, if_false,
      Bool.or_self, head?_append_of_stop nameChar, startsEscape_append stop _ escapelessRest,
      startsIdent_append stop _ escapelessRest, (takeName_append stop _ escapelessRest).1]
  cases hash : c = '#' && ((rest.head?.elim false isNameChar) || startsEscape rest) with
  | true =>
    refine hasChunk_of_uses bare ran (.hash (takeName rest).1 (startsIdent rest)) (takeName rest).2
      ((takeName_append .nil _ escapelessRest).2.cons plain) (by simp) fun more stop => ?_
    rw [reads stop, hash, if_pos rfl]
  | false =>
    have unplain : ∀ d ∈ ['/', '<', '\x7b', '\x7d', '(', ')'], Scope.isPlain d = false := by decide
    have sign : c ∉ ['/', '<', '\x7b', '\x7d', '(', ')'] := fun member => by
      cases own.symm.trans (unplain c member)
    simp only [List.mem_cons, List.not_mem_nil, or_false, not_or] at sign
    have single : bracket? c = none := by
      simp only [List.mem_cons, List.not_mem_nil, or_false, not_or] at plain
      simp [bracket?, sign, plain]
    obtain ⟨text, left, same, uses, head⟩ := scanSign_append rest (by simp [sign]) single
    refine hasChunk_of_uses bare ran (.literal text) left (uses.cons plain) ?_ fun more stop => ?_
    · rintro top comma
      obtain rfl := Token.literal.inj comma
      cases head
      obtain ⟨next, stepped, -⟩ := Scope.run_cons ran
      rw [top] at stepped
      cases stepped
    · rw [reads stop, hash, if_neg Bool.false_ne_true, same more stop]

theorem hasChunk_special (special : c ∈ ['[', ']', '"', '\'']) : HasChunk scope c rest := by
  obtain ⟨next, stepped, ranRest⟩ := Scope.run_cons ran
  have quoted (mark : c = '"' ∨ c = '\'') (inside : scope = .test) (opened : next = .quoted c) :
      HasChunk scope c rest := by
    subst inside opened
    obtain ⟨value, left, rfl, plain, ranLeft⟩ := Scope.exists_quoted ranRest
    refine ⟨.token (.string value true), left, .test, fun more _ => ?_, .token nofun, ranLeft, ?_⟩
    · rw [List.append_assoc, List.cons_append, scanOne_string mark plain]
    · exact ⟨c :: value ++ [c], by simp⟩
  simp only [List.mem_cons, List.not_mem_nil, or_false] at special
  cases scope with
  | quoted quote => cases bare
  | top =>
    rcases special with rfl | rfl | rfl | rfl
    · cases stepped
      exact ⟨.opening (.block .square), rest, .test, fun more _ => scanOne_sign (by decide) _,
        .opens, ranRest, List.suffix_cons _ _⟩
    all_goals cases stepped
  | test =>
    rcases special with rfl | rfl | rfl | rfl
    · cases stepped
    · cases stepped
      exact ⟨.closing .square, rest, .top, fun more _ => scanOne_sign (by decide) _,
        .closes, ranRest, List.suffix_cons _ _⟩
    · cases stepped
      exact quoted (.inl rfl) rfl rfl
    · cases stepped
      exact quoted (.inr rfl) rfl rfl

theorem hasChunk (filled : ∀ d ∈ (c :: rest).getLast?, isSpace d = false) :
    HasChunk scope c rest := by
  by_cases plain : c ∈ ['[', ']', '"', '\'']
  · exact hasChunk_special bare ran plain
  · cases blank : isSpace c with
    | true => exact hasChunk_blank bare ran filled blank
    | false =>
      cases range : startsRange c rest with
      | true => exact hasChunk_range bare ran blank range
      | false =>
        cases arrow : startsArrow c rest with
        | true => exact hasChunk_arrow bare ran blank range arrow
        | false =>
          cases ident : startsIdent (c :: rest) with
          | true => exact hasChunk_name bare ran blank range arrow ident
          | false =>
            cases number : takeNumber (c :: rest) with
            | some reading => exact hasChunk_number bare ran ⟨blank, range, arrow, ident⟩ number
            | none => exact hasChunk_sign bare ran plain ⟨blank, range, arrow, ident⟩ number

end Chunks

/-- No string is open after a lexeme. -/
theorem Turn.isBare {scope next : Scope} {lexeme : Lexeme} (turn : Turn scope lexeme next)
    (bare : scope.IsBare) :
    next.IsBare := by
  cases turn with
  | token => exact bare
  | opens => trivial
  | closes => trivial

/-- A text that does not end in a blank and closes all that is open is scanned to the same lexemes
whatever follows where it stops, and they keep the brackets matched. -/
theorem reads_of_run {scope : Scope} {text : Text} (bare : scope.IsBare)
    (ran : Scope.run false scope text = some .top)
    (filled : ∀ c ∈ text.getLast?, isSpace c = false) :
    ∃ lexemes, Walk scope lexemes ∧ ∀ more, Stop more → Reads (text ++ more) lexemes more := by
  induction length : text.length using Nat.strongRecOn generalizing scope text with
  | ind n ih =>
    cases text with
    | nil =>
      cases ran
      exact ⟨[], .done, fun more _ => .done more⟩
    | cons c rest =>
      obtain ⟨lexeme, left, next, chunk⟩ := hasChunk bare ran filled
      have shorter : left.length < n := by
        have bound := length_scanOne_le c (rest ++ [])
        rw [chunk.reads [] .nil, List.append_nil, List.append_nil] at bound
        rw [← length, List.length_cons]
        exact Nat.lt_succ_of_le bound
      have filledLeft : ∀ d ∈ left.getLast?, isSpace d = false := by
        intro d last
        obtain ⟨used, whole⟩ := chunk.behind
        apply filled d
        rw [← whole, List.getLast?_append, Option.mem_def.1 last]
        rfl
      obtain ⟨lexemes, walk, reads⟩ :=
        ih left.length shorter (chunk.turn.isBare bare) chunk.ran filledLeft rfl
      exact ⟨lexeme :: lexemes, .next chunk.turn walk,
        fun more stop => .next (chunk.reads more stop) (reads more stop)⟩

/-! ### The signs between selectors -/

theorem reads_comma (rest : Text) : Reads (',' :: rest) [.token (.literal [','])] rest :=
  .next (scanOne_sign (by decide) rest) (.done rest)

theorem reads_closing (rest : Text) : Reads (')' :: rest) [.closing .round] rest :=
  .next (scanOne_sign (by decide) rest) (.done rest)

theorem reads_blank {gap rest : Text} (filled : gap ≠ []) (blank : ∀ c ∈ gap, isSpace c = true)
    (solid : ∀ c ∈ rest.head?, isSpace c = false) :
    Reads (gap ++ rest) [.token (.blank gap)] rest := by
  cases gap with
  | nil => exact absurd rfl filled
  | cons c gap =>
    obtain ⟨first, others⟩ := List.forall_mem_cons.1 blank
    have one : scanOne c (gap ++ rest) = ([.token (.blank (c :: gap))], rest) := by
      rw [scanOne_eq, if_pos first, takeWhile_append_of_stop solid, dropWhile_append_of_stop solid,
        List.takeWhile_eq_self_iff.2 others, List.dropWhile_eq_nil_iff.2 others]
      rfl
    exact .next one (.done rest)

theorem reads_oneOf (rest : Text) :
    Reads (":is(".toList ++ rest)
      [.token (.literal [':']), .opening (.function "is".toList)] rest := by
  have colon : scanOne ':' ("is(".toList ++ rest) =
      ([.token (.literal [':'])], "is(".toList ++ rest) := rfl
  have name : takeName ("is(".toList ++ rest) = ("is".toList, '(' :: rest) := by
    have letters : isNameChar 'i' = true ∧ isNameChar 's' = true ∧ isNameChar '(' = false := by
      decide
    simp [takeName, letters, startsEscape]
  have function : scanOne 'i' ("s(".toList ++ rest) =
      ([.opening (.function "is".toList)], rest) := by
    change scanName ("is(".toList ++ rest) = _
    rw [scanName, name]
    rfl
  exact .next colon (.next function (.done rest))

end StyleScore.Scan
