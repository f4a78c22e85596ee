import StyleScore.Count
import StyleScore.Proofs.Component.Written
import StyleScore.Proofs.Item.Bare
import StyleScore.Proofs.Tree.Texts

/-!
Declarations beside rules in a block. In the block of a style rule declarations are read as such and
leave the rules beside them alone. The block of a grouping rule is read as a list of rules:
declarations there go into the header of the rule that follows, up to its block. So they are
harmless only where no rule follows and no declaration has a block as its value
(`leafTexts_declared_iff`).
-/
namespace StyleScore

open Component Item

/-- A block in curly brackets. -/
def curly (content : List Component) : Component := .block .start (.block .curly) content

/-- A mark such as a colon or a semicolon. -/
def sign (c : Char) : Component := .leaf .start (.literal [c])

/-- Component values that can stand before the block of a rule. -/
structure IsHeader (header : List Component) : Prop where
  plain : ∀ c ∈ header, c.isCurlyBlock = false
  start : ∀ c ∈ header.head?, c.isBlank = false ∧ c.isPageMark = false ∧ c.kind ≠ .atKeyword

/-- A rule with blanks before it. -/
structure NestedRule where
  lead : List Component
  header : List Component
  content : List Component
  blank_lead : ∀ c ∈ lead, c.isBlank = true
  isHeader : IsHeader header

def NestedRule.components (rule : NestedRule) : List Component :=
  rule.lead ++ (rule.header ++ [curly rule.content])

/-- The start of a grouping at-rule. -/
structure Group where
  keyword : Text
  condition : List Component
  grouping : isGrouping keyword = true
  plain : ∀ c ∈ condition, endsHeader true c = false

/-- A grouping at-rule with its block. -/
def Group.around (group : Group) (content : List Component) : List Component :=
  .leaf .start (.atKeyword group.keyword) :: (group.condition ++ [curly content])

/-- The value of a declaration: one without blocks in curly brackets, or such a block alone. -/
inductive DeclaredValue where
  | plain (value : List Component) (bounded : ∀ c ∈ value, endsHeader true c = false)
  | block (before content after : List Component) (blank_before : ∀ c ∈ before, c.isBlank = true)
    (blank_after : ∀ c ∈ after, c.isBlank = true)

namespace DeclaredValue

def components : DeclaredValue → List Component
  | plain value _ => value
  | block before content after _ _ => before ++ curly content :: after

def isBlock : DeclaredValue → Bool
  | plain _ _ => false
  | block _ _ _ _ _ => true

end DeclaredValue

/-- A declaration with blanks before it and the semicolon behind it. -/
structure Declared where
  lead : List Component
  name : Text
  gap : List Component
  value : DeclaredValue
  blank_lead : ∀ c ∈ lead, c.isBlank = true
  blank_gap : ∀ c ∈ gap, c.isBlank = true

def Declared.components (declared : Declared) : List Component :=
  declared.lead ++ .leaf .start (.ident declared.name) ::
    (declared.gap ++ sign ':' :: (declared.value.components ++ [sign ';']))

/-- The contents of a block: declarations and then rules. -/
def blockOf (declared : List Declared) (rules : List NestedRule) : List Component :=
  declared.flatMap Declared.components ++ rules.flatMap NestedRule.components

/-! ### Reading past blanks and up to blocks -/

theorem not_endsHeader_of_blank {atSemicolon : Bool} {c : Component} (blank : c.isBlank = true) :
    endsHeader atSemicolon c = false := by
  have kind : c.kind = .blank := by simpa [isBlank] using blank
  simp [endsHeader, isCurlyBlock, isSemicolon, kind]

theorem endsHeader_false (c : Component) : endsHeader false c = c.isCurlyBlock := by
  simp [endsHeader]

theorem not_isCurlyBlock_of_blank {c : Component} (blank : c.isBlank = true) :
    c.isCurlyBlock = false := by
  rw [← endsHeader_false]
  exact not_endsHeader_of_blank blank

theorem not_isCurlyBlock_of_unended {atSemicolon : Bool} {c : Component}
    (unended : endsHeader atSemicolon c = false) :
    c.isCurlyBlock = false := by
  rw [endsHeader, Bool.or_eq_false_iff] at unended
  exact unended.1

theorem headerOf_append {atSemicolon : Bool} {header : List Component}
    (plain : ∀ c ∈ header, endsHeader atSemicolon c = false) {stop : Component}
    (stops : endsHeader atSemicolon stop = true) (rest : List Component) :
    headerOf atSemicolon (header ++ stop :: rest) = header := by
  rw [headerOf, List.takeWhile_append_of_pos fun c member => by simp [plain c member],
    List.takeWhile_cons_of_neg (by simp [stops]), List.append_nil]

theorem fromEnd_append {atSemicolon : Bool} {header : List Component}
    (plain : ∀ c ∈ header, endsHeader atSemicolon c = false) {stop : Component}
    (stops : endsHeader atSemicolon stop = true) (rest : List Component) :
    fromEnd atSemicolon (header ++ stop :: rest) = stop :: rest := by
  rw [fromEnd, List.dropWhile_append_of_pos fun c member => by simp [plain c member],
    List.dropWhile_cons_of_neg (by simp [stops])]

theorem ruleItems_blank (top : Bool) {lead : List Component} (blank : ∀ c ∈ lead, c.isBlank = true)
    (rest : List Component) : ruleItems top (lead ++ rest) = ruleItems top rest := by
  induction lead with
  | nil => rfl
  | cons c lead ih =>
    obtain ⟨first, others⟩ := List.forall_mem_cons.1 blank
    rw [List.cons_append, ruleItems, if_pos (by simp [first]), ih others]

theorem blockItems_blank {lead : List Component} (blank : ∀ c ∈ lead, c.isBlank = true)
    (rest : List Component) :
    blockItems (lead ++ rest) = blockItems rest := by
  induction lead with
  | nil => rfl
  | cons c lead ih =>
    obtain ⟨first, others⟩ := List.forall_mem_cons.1 blank
    rw [List.cons_append, blockItems, if_pos (by simp [first]), ih others]

theorem takeAny_of_kind {first : Component} (other : first.kind ≠ .atKeyword)
    (rest : List Component) :
    takeAny first rest = takeRule false first rest := by
  unfold takeAny
  split
  · exact absurd rfl other
  · rfl

/-- A header and the block behind it make a rule. -/
theorem ruleItems_header (top : Bool) {header : List Component} (isHeader : IsHeader header)
    (content rest : List Component) :
    ruleItems top (header ++ curly content :: rest) =
      .rule header content :: ruleItems top rest := by
  have plain : ∀ c ∈ header, endsHeader false c = false := fun c member => by
    rw [endsHeader_false]
    exact isHeader.plain c member
  have stops : endsHeader false (curly content) = true := rfl
  have read (first : Component) (tail : List Component)
      (whole : first :: tail = header ++ curly content :: rest)
      (start : first.isBlank = false ∧ first.isPageMark = false ∧ first.kind ≠ .atKeyword) :
      ruleItems top (first :: tail) = .rule header content :: ruleItems top rest := by
    have rule : takeRule false first tail = (.rule header content, rest) := by
      unfold takeRule
      rw [whole, fromEnd_append plain stops, headerOf_append plain stops]
      rfl
    rw [ruleItems, if_neg (by simp [start]), takeAny_of_kind start.2.2, rule]
  cases header with
  | nil => exact read (curly content) rest rfl ⟨rfl, rfl, by simp [curly, kind]⟩
  | cons first tail =>
    exact read first (tail ++ curly content :: rest) rfl (isHeader.start first rfl)

/-- The block of a style rule with one grouping at-rule in it. -/
theorem blockItems_group (group : Group) (content : List Component) :
    blockItems (group.around content) = [.atRule group.keyword group.condition (some content)] := by
  have stops : endsHeader true (curly content) = true := rfl
  have taken :
      takeInBlock (.leaf .start (.atKeyword group.keyword)) (group.condition ++ [curly content]) =
        (.atRule group.keyword group.condition (some content), []) := by
    simp only [takeInBlock, takeAtRule]
    rw [fromEnd_append group.plain stops, headerOf_append group.plain stops]
    rfl
  rw [Group.around, blockItems, if_neg (by simp [isBlank, isSemicolon, kind]), taken, blockItems]

/-! ### Declarations in the block of a style rule -/

theorem broken_of_plain {value : List Component} (plain : ∀ c ∈ value, c.isCurlyBlock = false)
    (scan : ValueScan) :
    (value.foldl ValueScan.step scan).broken = scan.broken := by
  induction value generalizing scan with
  | nil => rfl
  | cons c value ih =>
    obtain ⟨first, others⟩ := List.forall_mem_cons.1 plain
    rw [List.foldl_cons, ih others]
    unfold ValueScan.step
    dsimp only
    split
    · rfl
    · split <;> rfl
    · split
      · rfl
      · simp [first]

theorem solid_of_blank {value : List Component} (blank : ∀ c ∈ value, c.isBlank = true)
    (scan : ValueScan) :
    (value.foldl ValueScan.step scan).solid = scan.solid := by
  induction value generalizing scan with
  | nil => rfl
  | cons c value ih =>
    obtain ⟨first, others⟩ := List.forall_mem_cons.1 blank
    rw [List.foldl_cons, ih others]
    unfold ValueScan.step
    dsimp only
    split
    · rfl
    · next ident => cases first
    · rw [if_pos first]

theorem exists_valueOf? {value : List Component}
    (whole : (value.foldl ValueScan.step ⟨0, .none, false, false⟩).broken = false) :
    ∃ own, valueOf? value = some own := by
  unfold valueOf?
  simp only [whole, Bool.false_eq_true, if_false]
  split <;> exact ⟨_, rfl⟩

/-- A value may be a block. -/
theorem broken_block {before : List Component} (blank : ∀ c ∈ before, c.isBlank = true)
    (content : List Component) :
    ((before ++ [curly content]).foldl ValueScan.step ⟨0, .none, false, false⟩).broken = false := by
  have plain : ∀ c ∈ before, c.isCurlyBlock = false :=
    fun c member => not_isCurlyBlock_of_blank (blank c member)
  have broken := broken_of_plain plain ⟨0, .none, false, false⟩
  have solid := solid_of_blank blank ⟨0, .none, false, false⟩
  rw [List.foldl_append, List.foldl_cons, List.foldl_nil]
  generalize before.foldl ValueScan.step ⟨0, .none, false, false⟩ = scan at broken solid
  obtain ⟨length, important, solid', broken'⟩ := scan
  subst broken solid
  cases important <;> rfl

theorem declaration?_colon (name : Text) {gap : List Component}
    (blank : ∀ c ∈ gap, c.isBlank = true) {value own : List Component}
    (read : valueOf? value = some own) :
    declaration? (.leaf .start (.ident name)) (gap ++ sign ':' :: value) =
      some (.declaration name own) := by
  have passed : (gap ++ sign ':' :: value).dropWhile Component.isBlank = sign ':' :: value := by
    rw [List.dropWhile_append_of_pos blank, List.dropWhile_cons_of_neg (by decide)]
  unfold declaration?
  rw [passed]
  simp [sign, read]

theorem declarationExtent_semicolon {own : List Component}
    (plain : ∀ c ∈ own, endsHeader true c = false) (rest : List Component) :
    declarationExtent (own ++ sign ';' :: rest) = (own, rest) := by
  have stops : endsHeader true (sign ';') = true := rfl
  unfold declarationExtent
  rw [fromEnd_append plain stops, headerOf_append plain stops]
  rfl

theorem declarationExtent_curly {own : List Component}
    (plain : ∀ c ∈ own, endsHeader true c = false) (content rest : List Component) :
    declarationExtent (own ++ curly content :: rest) = (own ++ [curly content], rest) := by
  have stops : endsHeader true (curly content) = true := rfl
  unfold declarationExtent
  rw [fromEnd_append plain stops, headerOf_append plain stops]
  rfl

theorem blockItems_ident (name : Text) {tail own left : List Component} {item : Item}
    (extent : declarationExtent tail = (own, left))
    (read : declaration? (.leaf .start (.ident name)) own = some item) :
    blockItems (.leaf .start (.ident name) :: tail) = item :: blockItems left := by
  have taken : takeInBlock (.leaf .start (.ident name)) tail = (item, left) := by
    simp only [takeInBlock, takeDeclarationOrRule, extent, read]
  rw [blockItems, if_neg (by simp [isBlank, isSemicolon, kind]), taken]

theorem endsHeader_colon {gap : List Component} (blank : ∀ c ∈ gap, c.isBlank = true)
    {value : List Component} (bounded : ∀ c ∈ value, endsHeader true c = false) :
    ∀ c ∈ gap ++ sign ':' :: value, endsHeader true c = false := by
  intro c member
  rcases List.mem_append.1 member with before | behind
  · exact not_endsHeader_of_blank (blank c before)
  · rcases List.mem_cons.1 behind with rfl | own
    · rfl
    · exact bounded c own

/-- A declaration in the block of a style rule is read as one. -/
theorem blockItems_declared (declared : Declared) (rest : List Component) :
    ∃ value, blockItems (declared.components ++ rest) =
      .declaration declared.name value :: blockItems rest := by
  obtain ⟨lead, name, gap, value, blank_lead, blank_gap⟩ := declared
  simp only [Declared.components, List.append_assoc, List.cons_append, List.nil_append]
  rw [blockItems_blank blank_lead]
  cases value with
  | plain value bounded =>
    have plain : ∀ c ∈ value, c.isCurlyBlock = false := fun c member =>
      not_isCurlyBlock_of_unended (bounded c member)
    obtain ⟨own, read⟩ := exists_valueOf? (broken_of_plain plain _)
    refine ⟨own, ?_⟩
    have extent := declarationExtent_semicolon (endsHeader_colon blank_gap bounded) rest
    rw [List.append_assoc, List.cons_append] at extent
    exact blockItems_ident name extent (declaration?_colon name blank_gap read)
  | block before content after blank_before blank_after =>
    have bounded : ∀ c ∈ before, endsHeader true c = false := fun c member =>
      not_endsHeader_of_blank (blank_before c member)
    obtain ⟨own, read⟩ := exists_valueOf? (broken_block blank_before content)
    refine ⟨own, ?_⟩
    have extent :=
      declarationExtent_curly (endsHeader_colon blank_gap bounded) content (after ++
        sign ';' :: rest)
    simp only [List.append_assoc, List.cons_append] at extent
    simp only [DeclaredValue.components, List.append_assoc, List.cons_append]
    rw [blockItems_ident name extent (declaration?_colon name blank_gap read),
      blockItems_blank blank_after, blockItems, if_pos (by decide)]

/-- Declarations in the block of a style rule leave the rules in it alone. -/
theorem fst_ofItems_declared (declared : List Declared) (rest : List Component) :
    (Rule.ofItems (blockItems (declared.flatMap Declared.components ++ rest))).1 =
      (Rule.ofItems (blockItems rest)).1 := by
  induction declared with
  | nil => rfl
  | cons first declared ih =>
    obtain ⟨value, read⟩ := blockItems_declared first (declared.flatMap Declared.components ++ rest)
    rw [List.flatMap_cons, List.append_assoc, read, Rule.ofItems, ih]

/-! ### Declarations in the block of a grouping rule -/

/-- The characters in the selectors of leaves. -/
def selectorLength (items : List Item) : Nat :=
  total ((ruleHeaders items).map fun header => (Rule.written header).length)

theorem selectorLength_nil : selectorLength [] = 0 := by
  simp [selectorLength, ruleHeaders, total]

theorem selectorLength_rule (header content : List Component) (rest : List Item) :
    selectorLength (.rule header content :: rest) =
      (Rule.written header).length + selectorLength (blockItems content) + selectorLength rest := by
  simp [selectorLength, ruleHeaders, total, total_append, Nat.add_assoc]

theorem total_leafSelectorsAll (items : List Item) :
    total ((Rule.leafSelectorsAll (Rule.ofItems items).1).map List.length) =
      selectorLength items := by
  rw [leafSelectorsAll_ofItems, selectorLength, List.map_map]
  induction ruleHeaders items with
  | nil => rfl
  | cons header headers ih =>
    by_cases solid : isSolid header = true
    · rw [List.filter_cons_of_pos solid, List.map_cons, total, ih]
      rfl
    · have empty : Rule.written header = [] := by
        by_contra filled
        exact solid ((isSolid_iff header).2 filled)
      rw [List.filter_cons_of_neg solid, ih, List.map_cons, total, empty]
      exact (Nat.zero_add _).symm

/-- A header becomes longer by a mark before it and all that stands with it. -/
theorem length_written_lt {letter : Char} (black : Text.isBlank letter = false)
    {before : List Component} (member : sign letter ∈ before) (header : List Component) :
    (Rule.written header).length < (Rule.written (before ++ header)).length := by
  obtain ⟨between, written⟩ := writeFrom_append none before header
  have own : letter ∈ (sign letter).write := by
    rw [sign, write_leaf]
    exact List.mem_singleton.2 rfl
  have marked : letter ∈ writeFrom none before ++ between :=
    List.mem_append_left _ (mem_writeFrom member own none)
  have longer := Text.length_trim_lt marked black (writeAll header)
  rwa [List.append_assoc, ← written] at longer

theorem IsHeader.append {header more : List Component} (isHeader : IsHeader header)
    (filled : header ≠ []) (plain : ∀ c ∈ more, c.isCurlyBlock = false) :
    IsHeader (header ++ more) where
  plain c member := (List.mem_append.1 member).elim (isHeader.plain c) (plain c)
  start c first := by
    obtain ⟨d, rest, rfl⟩ := List.exists_cons_of_ne_nil filled
    exact isHeader.start c first

/-- What is left over before a rule: nothing, or the start of a header with a semicolon in it. -/
structure LeftOver (pending : List Component) : Prop where
  isHeader : IsHeader pending
  semicolon : pending ≠ [] → sign ';' ∈ pending

theorem leftOver_nil : LeftOver [] := ⟨⟨by simp, by simp⟩, fun filled => absurd rfl filled⟩

theorem leftOver_semicolon : LeftOver [sign ';'] := by
  refine ⟨⟨?_, ?_⟩, fun _ => List.mem_singleton.2 rfl⟩
  · intro c member
    rw [List.mem_singleton.1 member]
    rfl
  · intro c first
    cases first
    exact ⟨rfl, rfl, by simp [sign, kind]⟩

theorem ruleItems_nested (rule : NestedRule) (rest : List Component) :
    ruleItems false (rule.components ++ rest) =
      .rule rule.header rule.content :: ruleItems false rest := by
  have whole : rule.components ++ rest =
      rule.lead ++ (rule.header ++ curly rule.content :: rest) := by
    simp [NestedRule.components]
  rw [whole, ruleItems_blank false rule.blank_lead, ruleItems_header false rule.isHeader]

/-- The first rule takes in what is left over before it. -/
theorem selectorLength_nested {pending : List Component} (leftOver : LeftOver pending)
    (filled : pending ≠ []) (rule : NestedRule) (rest : List Component) :
    selectorLength (ruleItems false (rule.components ++ rest)) <
      selectorLength (ruleItems false (pending ++ (rule.components ++ rest))) := by
  have plain : ∀ c ∈ rule.lead ++ rule.header, c.isCurlyBlock = false := by
    intro c member
    rcases List.mem_append.1 member with lead | header
    · exact not_isCurlyBlock_of_blank (rule.blank_lead c lead)
    · exact rule.isHeader.plain c header
  have whole : pending ++ (rule.components ++ rest) =
      (pending ++ (rule.lead ++ rule.header)) ++ curly rule.content :: rest := by
    simp [NestedRule.components]
  have before : sign ';' ∈ pending ++ rule.lead :=
    List.mem_append_left _ (leftOver.semicolon filled)
  have longer := length_written_lt (by decide) before rule.header
  rw [ruleItems_nested, whole, ruleItems_header false (leftOver.isHeader.append filled plain),
    selectorLength_rule, selectorLength_rule, ← List.append_assoc]
  omega

/-- The name of a declaration goes into a header. -/
theorem LeftOver.ident_append {pending : List Component} (leftOver : LeftOver pending) (name : Text)
    {lead : List Component} (blank : ∀ c ∈ lead, c.isBlank = true) :
    ∃ front, (∀ rest, ruleItems false (pending ++ (lead ++ .leaf .start (.ident name) :: rest)) =
      ruleItems false (front ++ rest)) ∧ IsHeader front ∧ front ≠ [] := by
  by_cases empty : pending = []
  · subst empty
    refine ⟨[.leaf .start (.ident name)], fun rest => ruleItems_blank false blank _,
      ⟨?_, ?_⟩, by simp⟩
    · intro c member
      rw [List.mem_singleton.1 member]
      rfl
    · intro c first
      cases first
      exact ⟨rfl, rfl, by simp [kind]⟩
  · refine ⟨pending ++ (lead ++ [.leaf .start (.ident name)]), fun rest => by simp, ?_, by simp⟩
    apply leftOver.isHeader.append empty
    intro c member
    rcases List.mem_append.1 member with blanks | ident
    · exact not_isCurlyBlock_of_blank (blank c blanks)
    · rw [List.mem_singleton.1 ident]
      rfl

/-- The pending header takes in a declaration without a block, or ends at the block of one. -/
theorem ruleItems_declared {pending : List Component} (leftOver : LeftOver pending)
    (declared : Declared) (rest : List Component) :
    (declared.value.isBlock = false ∧ ∃ more, LeftOver more ∧ more ≠ [] ∧
      ruleItems false (pending ++ (declared.components ++ rest)) = ruleItems false (more ++ rest)) ∨
    (declared.value.isBlock = true ∧ ∃ header content, 0 < (Rule.written header).length ∧
      ruleItems false (pending ++ (declared.components ++ rest)) =
        .rule header content :: ruleItems false (sign ';' :: rest)) := by
  obtain ⟨lead, name, gap, value, blank_lead, blank_gap⟩ := declared
  obtain ⟨front, joined, starts, filled⟩ := leftOver.ident_append name blank_lead
  cases value with
  | plain value bounded =>
    refine .inl ⟨rfl, front ++ (gap ++ sign ':' :: (value ++ [sign ';'])), ⟨?_, fun _ => by simp⟩,
      by simp, ?_⟩
    · apply starts.append filled
      intro c member
      rw [← List.cons_append, ← List.append_assoc] at member
      rcases List.mem_append.1 member with own | semicolon
      · exact not_isCurlyBlock_of_unended (endsHeader_colon blank_gap bounded c own)
      · rw [List.mem_singleton.1 semicolon]
        rfl
    · rw [List.append_assoc front, ← joined]
      simp [Declared.components, DeclaredValue.components]
  | block before content after blank_before blank_after =>
    have bounded : ∀ c ∈ before, endsHeader true c = false := fun c member =>
      not_endsHeader_of_blank (blank_before c member)
    have isHeader : IsHeader (front ++ (gap ++ sign ':' :: before)) :=
      starts.append filled fun c member =>
      not_isCurlyBlock_of_unended (endsHeader_colon blank_gap bounded c member)
    refine .inr ⟨rfl, front ++ (gap ++ sign ':' :: before), content, ?_, ?_⟩
    · have colon : sign ':' ∈ front ++ (gap ++ sign ':' :: before) := by simp
      have longer := length_written_lt (by decide) colon []
      rw [List.append_nil] at longer
      omega
    · have read := ruleItems_header false isHeader content (after ++ sign ';' :: rest)
      rw [ruleItems_blank false blank_after, List.append_assoc front, ← joined] at read
      rw [← read]
      simp [Declared.components, DeclaredValue.components]

/-- Declarations before rules in a list of rules never make the selectors shorter, and make them
longer when a rule follows or one of them has a block. -/
theorem selectorLength_declared (declared : List Declared) (rules : List NestedRule)
    {pending : List Component} (leftOver : LeftOver pending) :
    selectorLength (ruleItems false (blockOf [] rules)) ≤
        selectorLength (ruleItems false (pending ++ blockOf declared rules)) ∧
      (((pending ≠ [] ∨ declared ≠ []) ∧ rules ≠ [] ∨ ∃ d ∈ declared, d.value.isBlock = true) →
        selectorLength (ruleItems false (blockOf [] rules)) <
          selectorLength (ruleItems false (pending ++ blockOf declared rules))) := by
  -- what is left over grows by declarations without a block and is started anew behind a block
  induction declared generalizing pending with
  | nil =>
    by_cases empty : pending = []
    · subst empty
      refine ⟨le_rfl, ?_⟩
      rintro (⟨some | some, -⟩ | ⟨d, member, -⟩)
      · exact absurd rfl some
      · exact absurd rfl some
      · cases member
    · cases rules with
      | nil =>
        refine ⟨?_, ?_⟩
        · rw [blockOf, List.flatMap_nil, List.flatMap_nil, List.nil_append, ruleItems,
            selectorLength_nil]
          exact Nat.zero_le _
        · rintro (⟨-, some⟩ | ⟨d, member, -⟩)
          · exact absurd rfl some
          · cases member
      | cons rule rules =>
        have longer :=
          selectorLength_nested leftOver empty rule (rules.flatMap NestedRule.components)
        exact ⟨longer.le, fun _ => longer⟩
  | cons first declared ih =>
    have whole : blockOf (first :: declared) rules =
        first.components ++ blockOf declared rules := by
      simp [blockOf]
    rw [whole]
    rcases ruleItems_declared leftOver first (blockOf declared rules) with
      ⟨plain, more, leftOver, filled, read⟩ | ⟨block, header, content, longer, read⟩
    · obtain ⟨least, more⟩ := ih leftOver
      rw [read]
      refine ⟨least, fun either => more ?_⟩
      rcases either with ⟨-, follows⟩ | ⟨d, member, block⟩
      · exact .inl ⟨.inl filled, follows⟩
      · rcases List.mem_cons.1 member with rfl | later
        · cases plain.symm.trans block
        · exact .inr ⟨d, later, block⟩
    · have least := (ih leftOver_semicolon).1
      rw [List.singleton_append] at least
      rw [read, selectorLength_rule]
      refine ⟨?_, fun _ => ?_⟩ <;> omega

/-- A header without a block makes no rule. -/
theorem fst_ofItems_unended {header : List Component} (isHeader : IsHeader header) :
    (Rule.ofItems (ruleItems false header)).1 = [] := by
  cases header with
  | nil => rw [ruleItems, Rule.ofItems]
  | cons first rest =>
    obtain ⟨solid, unmarked, other⟩ := isHeader.start first rfl
    have unended : fromEnd false (first :: rest) = [] := by
      rw [fromEnd, List.dropWhile_eq_nil_iff]
      intro c member
      rw [endsHeader_false, isHeader.plain c member]
      rfl
    have fault : takeRule false first rest = (.fault (lastPosition first rest) .endOfText, []) := by
      unfold takeRule
      rw [unended]
    rw [ruleItems, if_neg (by simp [solid]), takeAny_of_kind other, fault, ruleItems, Rule.ofItems,
      Rule.ofItems]

/-- Declarations without a block and without a rule behind them make no rules. -/
theorem fst_ofItems_plain {declared : List Declared}
    (plain : ∀ d ∈ declared, d.value.isBlock = false) {pending : List Component}
    (leftOver : LeftOver pending) :
    (Rule.ofItems (ruleItems false (pending ++ blockOf declared []))).1 = [] := by
  induction declared generalizing pending with
  | nil =>
    have whole : pending ++ blockOf [] [] = pending := by simp [blockOf]
    rw [whole]
    exact fst_ofItems_unended leftOver.isHeader
  | cons first declared ih =>
    obtain ⟨own, others⟩ := List.forall_mem_cons.1 plain
    have whole : blockOf (first :: declared) [] = first.components ++ blockOf declared [] := by
      simp [blockOf]
    rcases ruleItems_declared leftOver first (blockOf declared []) with
      ⟨-, more, leftOver, -, read⟩ | ⟨block, -⟩
    · rw [whole, read]
      exact ih others leftOver
    · cases own.symm.trans block

/-- There are no declarations, or no rule follows them and none of them has a block. -/
def Harmless (declared : List Declared) (rules : List NestedRule) : Prop :=
  declared = [] ∨ rules = [] ∧ ∀ d ∈ declared, d.value.isBlock = false

theorem Harmless.fst_ofItems_eq {declared : List Declared} {rules : List NestedRule}
    (harmless : Harmless declared rules) :
    (Rule.ofItems (ruleItems false (blockOf declared rules))).1 =
      (Rule.ofItems (ruleItems false (blockOf [] rules))).1 := by
  rcases harmless with rfl | ⟨rfl, plain⟩
  · rfl
  · have none := fst_ofItems_plain plain leftOver_nil
    have empty := fst_ofItems_plain (List.forall_mem_nil _) leftOver_nil
    rw [List.nil_append] at none empty
    rw [none, empty]

theorem selectorLength_lt_of_not_harmless {declared : List Declared} {rules : List NestedRule}
    (harmful : ¬ Harmless declared rules) : selectorLength (ruleItems false (blockOf [] rules)) <
      selectorLength (ruleItems false (blockOf declared rules)) := by
  rw [Harmless, not_or, not_and] at harmful
  obtain ⟨some, blocks⟩ := harmful
  apply (selectorLength_declared declared rules leftOver_nil).2
  by_cases last : rules = []
  · obtain ⟨d, unplain⟩ := not_forall.1 (blocks last)
    obtain ⟨member, block⟩ := Classical.not_imp.1 unplain
    exact .inr ⟨d, member, by simpa using block⟩
  · exact .inl ⟨.inr some, last⟩

/-- The rules of a sheet with one rule at its top. -/
theorem fst_ofItems_header {header : List Component} (isHeader : IsHeader header)
    (content : List Component) :
    (Rule.ofItems (ruleItems true (header ++ [curly content]))).1 =
      [.style (Rule.written header) (Rule.declarations (blockItems content))
        (Rule.ofItems (blockItems content)).1] := by
  rw [ruleItems_header true isHeader, ruleItems, Rule.ofItems, Rule.ofItems]

/-- The rules in a block with one grouping at-rule are those of its block. -/
theorem fst_ofItems_group (group : Group) : ∃ keyword conditional, ∀ content,
    (Rule.ofItems (blockItems (group.around content))).1 =
      [Rule.groupingOf keyword conditional group.condition
        (Rule.ofItems (ruleItems false content)).1] := by
  obtain ⟨keyword, conditional, form⟩ := (isGrouping_iff group.keyword).1 group.grouping
  refine ⟨keyword, conditional, fun content => ?_⟩
  rw [blockItems_group, Rule.fst_ofItems, List.filterMap_cons, List.filterMap_nil,
    Rule.ofItem?, form]

theorem selectorLength_group {header : List Component} (isHeader : IsHeader header) (group : Group)
    (content : List Component) :
    selectorLength (ruleItems true (header ++ [curly (group.around content)])) =
      (Rule.written header).length + selectorLength (ruleItems false content) := by
  have inside : selectorLength (blockItems (group.around content)) =
      selectorLength (ruleItems false content) := by
    simp [blockItems_group, selectorLength, ruleHeaders, group.grouping]
  rw [ruleItems_header true isHeader, selectorLength_rule, inside, ruleItems, selectorLength_nil,
    Nat.add_zero]

/-! ### Style sheets -/

/-- The selector and the completed selector of every leaf of a style sheet. -/
def leafTextsOf (css : Text) : Except Error (List (Option Text × Except Error (Option Text))) := do
  (Forest.ofRules (← Rule.ofText css).1).leafTexts

theorem Spells.leafTextsOf_eq {css : Text} {components : List Component}
    (spells : Spells css components) :
    leafTextsOf css = (Forest.ofRules (Rule.ofItems (ruleItems true components)).1).leafTexts := by
  obtain ⟨notes, read⟩ := spells.ofText_eq
  rw [leafTextsOf, read]
  rfl

theorem selectorLength_of_leafTexts {items others : List Item}
    (same : (Forest.ofRules (Rule.ofItems items).1).leafTexts =
      (Forest.ofRules (Rule.ofItems others).1).leafTexts) :
    selectorLength items = selectorLength others := by
  have selectors := congrArg (Except.map (List.map Prod.fst)) same
  rw [Forest.fst_leafTexts, Forest.fst_leafTexts] at selectors
  have equal := (List.map_inj_right fun _ _ => Option.some.inj).1 (Except.ok.inj selectors)
  rw [← total_leafSelectorsAll, equal, total_leafSelectorsAll]

/-- Declarations before rules in the block of a style rule leave the selectors of all leaves alone.
In the block of a grouping rule inside it they do so only where there are none, or no rule follows
and none of them has a block. -/
theorem leafTexts_declared_iff {header : List Component} (isHeader : IsHeader header)
    (group : Group) (declared : List Declared) (rules : List NestedRule)
    {direct undeclared grouped ungrouped : Text}
    (spellsDirect : Spells direct (header ++ [curly (blockOf declared rules)]))
    (spellsUndeclared : Spells undeclared (header ++ [curly (blockOf [] rules)]))
    (spellsGrouped : Spells grouped (header ++ [curly (group.around (blockOf declared rules))]))
    (spellsUngrouped : Spells ungrouped (header ++ [curly (group.around (blockOf [] rules))])) :
    leafTextsOf direct = leafTextsOf undeclared ∧
      (leafTextsOf grouped = leafTextsOf ungrouped ↔ Harmless declared rules) := by
  rw [spellsDirect.leafTextsOf_eq, spellsUndeclared.leafTextsOf_eq, spellsGrouped.leafTextsOf_eq,
    spellsUngrouped.leafTextsOf_eq]
  refine ⟨?_, fun same => ?_, fun harmless => ?_⟩
  · rw [fst_ofItems_header isHeader, fst_ofItems_header isHeader, blockOf,
      fst_ofItems_declared, blockOf, fst_ofItems_declared]
    exact Forest.leafTexts_style _ _ _ _
  · by_contra harmful
    have longer := selectorLength_lt_of_not_harmless harmful
    have lengths := selectorLength_of_leafTexts same
    rw [selectorLength_group isHeader, selectorLength_group isHeader] at lengths
    omega
  · obtain ⟨keyword, conditional, block⟩ := fst_ofItems_group group
    rw [fst_ofItems_header isHeader, fst_ofItems_header isHeader, block, block,
      harmless.fst_ofItems_eq]
    exact Forest.leafTexts_style _ _ _ _

/-- The rule `b` without anything in its block. -/
def emptyRule : NestedRule :=
  ⟨[], [.leaf .start (.ident ['b'])], [], by decide, ⟨by decide, by decide⟩⟩

/-- The declaration of a colour. -/
def redColor : Declared :=
  ⟨[], "color".toList, [], .plain [.leaf .start (.ident "red".toList)] (by decide),
    by decide, by decide⟩

/-- A grouping rule for the medium `x`. -/
def oneMedium : Group :=
  ⟨"media".toList, [.leaf .start (.blank [' ']), .leaf .start (.ident ['x'])], by decide, by decide⟩

theorem isHeader_a : IsHeader [.leaf .start (.ident ['a'])] := ⟨by decide, by decide⟩

theorem spells_grouped : Spells "a\x7b@media x\x7bcolor:red;b\x7b\x7d\x7d\x7d".toList
    ([.leaf .start (.ident ['a'])] ++
      [curly (oneMedium.around (blockOf [redColor] [emptyRule]))]) := by
  constructor <;> decide +kernel

theorem spells_ungrouped : Spells "a\x7b@media x\x7bb\x7b\x7d\x7d\x7d".toList
    ([.leaf .start (.ident ['a'])] ++ [curly (oneMedium.around (blockOf [] [emptyRule]))]) := by
  constructor <;> decide +kernel

/-- A colour and a rule, directly in a style rule and in a grouping rule inside it. -/
theorem leafTexts_redColor :
    leafTextsOf "a\x7bcolor:red;b\x7b\x7d\x7d".toList = leafTextsOf "a\x7bb\x7b\x7d\x7d".toList ∧
      (leafTextsOf "a\x7b@media x\x7bcolor:red;b\x7b\x7d\x7d\x7d".toList =
        leafTextsOf "a\x7b@media x\x7bb\x7b\x7d\x7d\x7d".toList ↔
        Harmless [redColor] [emptyRule]) := by
  refine leafTexts_declared_iff isHeader_a oneMedium [redColor] [emptyRule] ?_ ?_ spells_grouped
    spells_ungrouped
  · constructor <;> decide +kernel
  · constructor <;> decide +kernel

/-- The colour becomes a part of the selector of the rule behind it. -/
theorem leafTexts_redColor_ne :
    leafTextsOf "a\x7b@media x\x7bcolor:red;b\x7b\x7d\x7d\x7d".toList =
        .ok [(some ['a'], .ok (some ['a'])),
          (some "color:red;b".toList, .ok (some "a color:red;b".toList))] ∧
      leafTextsOf "a\x7b@media x\x7bb\x7b\x7d\x7d\x7d".toList =
        .ok [(some ['a'], .ok (some ['a'])), (some ['b'], .ok (some "a b".toList))] := by
  have written : Rule.written [.leaf .start (.ident ['b'])] = ['b'] := by
    simp only [Rule.written, writeAll, writeFrom_cons, writeFrom_nil, write_leaf]
    decide
  have writtenFirst : Rule.written [.leaf .start (.ident ['a'])] = ['a'] := by
    simp only [Rule.written, writeAll, writeFrom_cons, writeFrom_nil, write_leaf]
    decide
  have joined : Rule.written [.leaf .start (.ident "color".toList), sign ':',
      .leaf .start (.ident "red".toList), sign ';',
      .leaf .start (.ident ['b'])] = "color:red;b".toList := by
    simp only [Rule.written, writeAll, writeFrom_cons, writeFrom_nil, write_leaf, sign]
    decide
  have items : ruleItems false (blockOf [redColor] [emptyRule]) =
      [.rule [.leaf .start (.ident "color".toList), sign ':', .leaf .start (.ident "red".toList),
        sign ';', .leaf .start (.ident ['b'])] []] := by
    decide +kernel
  have itemsToo : ruleItems false (blockOf [] [emptyRule]) =
      [.rule [.leaf .start (.ident ['b'])] []] := by
    decide +kernel
  have none : blockItems [] = [] := by rw [blockItems]
  obtain ⟨keyword, conditional, block⟩ := fst_ofItems_group oneMedium
  rw [spells_grouped.leafTextsOf_eq, spells_ungrouped.leafTextsOf_eq, fst_ofItems_header isHeader_a,
    fst_ofItems_header isHeader_a, block, block, items, itemsToo]
  simp only [Rule.ofItems, none, written, writtenFirst, joined, Rule.groupingOf]
  generalize Rule.written oneMedium.condition = condition
  cases conditional <;> constructor <;> rfl

end StyleScore
