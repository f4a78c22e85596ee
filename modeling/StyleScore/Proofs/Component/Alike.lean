import Mathlib.Data.List.Forall2
import StyleScore.Component.Basic
import StyleScore.Proofs.Text.Small

/-!
Lexemes and component values that a selector is read from alike, though they are written
differently: names in another case, other white space, other values where only the kind of value
counts. Brackets are matched alike (`allAlike_ofLexemes`), also when one text has a blank at its end
that the other does not have.
-/
namespace StyleScore

namespace Text

/-- A character beyond ASCII stands in the text. -/
def HasForeign (text : Text) : Prop := ∃ c ∈ text, 128 ≤ c.toNat

/-- Names that no rule tells apart: the same but for the case of ASCII letters, or both with a
character that stands in no name of a rule. -/
def NamedAlike (name other : Text) : Prop :=
  asciiLower name = asciiLower other ∨ name.HasForeign ∧ other.HasForeign

theorem HasForeign.asciiLower {text : Text} (foreign : text.HasForeign) :
    (asciiLower text).HasForeign := by
  obtain ⟨c, member, high⟩ := foreign
  have same : c.toLower = c := toLower_eq_of_not_capital (.inr (by omega))
  exact ⟨c, List.mem_map.2 ⟨c, member, same⟩, high⟩

/-- What tells no two foreign names apart tells no two names apart that are alike. -/
theorem NamedAlike.congr {β : Type} (f : Text → β) {value : β}
    (constant : ∀ text : Text, text.HasForeign → f text = value) {name other : Text}
    (named : name.NamedAlike other) :
    f (asciiLower name) = f (asciiLower other) := by
  rcases named with same | ⟨foreign, foreignToo⟩
  · rw [same]
  · rw [constant _ foreign.asciiLower, constant _ foreignToo.asciiLower]

/-- All characters are of ASCII. -/
def allAscii (text : Text) : Bool := text.all fun c => c.toNat < 128

theorem HasForeign.ne {text word : Text} (foreign : text.HasForeign)
    (ascii : word.allAscii = true) : text ≠ word := by
  rintro rfl
  obtain ⟨c, member, high⟩ := foreign
  have low : c.toNat < 128 := of_decide_eq_true (List.all_eq_true.1 ascii c member)
  omega

theorem HasForeign.contains_eq {text : Text} (foreign : text.HasForeign) (words : List Text)
    (ascii : words.all allAscii = true) : words.contains text = false := by
  rw [List.contains_eq_mem, decide_eq_false_iff_not]
  intro member
  exact foreign.ne (List.all_eq_true.1 ascii text member) rfl

end Text

/-- Two lists go together entry by entry, but for one blank at the end of the first. No such blank
stands directly behind a bar. -/
inductive UpToEnd {α : Type} (Alike : α → α → Prop) (blank bar : α → Bool) :
    List α → List α → Prop where
  | nil : UpToEnd Alike blank bar [] []
  | blank {a : α} (empty : blank a = true) : UpToEnd Alike blank bar [a] []
  | cons {a b : α} {as bs : List α} (alike : Alike a b)
      (barred : bar a = true → (as = [] ↔ bs = [])) (rest : UpToEnd Alike blank bar as bs) :
      UpToEnd Alike blank bar (a :: as) (b :: bs)

namespace UpToEnd

variable {α : Type} {Alike : α → α → Prop} {blank bar : α → Bool} {as bs : List α}

theorem of_forall₂ (alike : List.Forall₂ Alike as bs) : UpToEnd Alike blank bar as bs := by
  induction alike with
  | nil => exact .nil
  | @cons a b as bs first others ih =>
    have ends : as = [] ↔ bs = [] := by
      rw [← List.length_eq_zero_iff, others.length_eq, List.length_eq_zero_iff]
    exact .cons first (fun _ => ends) ih

theorem append (alike : List.Forall₂ Alike as bs) {cs ds : List α}
    (rest : UpToEnd Alike blank (fun _ => false) cs ds) :
    UpToEnd Alike blank (fun _ => false) (as ++ cs) (bs ++ ds) := by
  induction alike with
  | nil => exact rest
  | cons first _ ih => exact .cons first nofun ih

/-- A blank behind anything but a bar. -/
theorem concat_blank {c : α} (empty : blank c = true) (alike : List.Forall₂ Alike as bs)
    (open_ : ∀ a ∈ as.getLast?, bar a = false) : UpToEnd Alike blank bar (as ++ [c]) bs := by
  induction alike with
  | nil => exact .blank empty
  | @cons a b as bs first others ih =>
    refine .cons first (fun barred => ?_) (ih fun d last => open_ d ?_)
    · cases others with
      | nil => cases (open_ a rfl).symm.trans barred
      | cons => simp
    · cases others with
      | nil => cases last
      | cons => simpa using last

/-- Either all entries go together, or all but a blank at the end. -/
theorem forall₂_or (upTo : UpToEnd Alike blank bar as bs) :
    List.Forall₂ Alike as bs ∨ ∃ front c, as = front ++ [c] ∧ blank c = true ∧
      List.Forall₂ Alike front bs := by
  induction upTo with
  | nil => exact .inl .nil
  | @blank a empty => exact .inr ⟨[], a, rfl, empty, .nil⟩
  | cons first _ _ ih =>
    rcases ih with others | ⟨front, c, rfl, empty, others⟩
    · exact .inl (.cons first others)
    · exact .inr ⟨_ :: front, c, rfl, empty, .cons first others⟩

end UpToEnd

/-- Tokens of one kind. Only names, signs and what kind of hash it is make a difference to a
selector, and the length of a number to whether it can be read. -/
inductive Token.Alike : Token → Token → Prop where
  | blank (text other : Text) : Alike (.blank text) (.blank other)
  | ident {name other : Text} (named : name.NamedAlike other) : Alike (.ident name) (.ident other)
  | atKeyword (name other : Text) : Alike (.atKeyword name) (.atKeyword other)
  | hash (name other : Text) (isIdent : Bool) : Alike (.hash name isIdent) (.hash other isIdent)
  | string (value other : Text) (closed : Bool) :
      Alike (.string value closed) (.string other closed)
  | url (value other : Text) (closed : Bool) : Alike (.url value closed) (.url other closed)
  | range (first last other otherLast : Nat) : Alike (.range first last) (.range other otherLast)
  | number {written other : Text}
      (length : (Token.number written).numeralLength? = (Token.number other).numeralLength?) :
      Alike (.number written) (.number other)
  | percentage {written other : Text}
      (length : (Token.number written).numeralLength? = (Token.number other).numeralLength?) :
      Alike (.percentage written) (.percentage other)
  | dimension {written other : Text} (unit otherUnit : Text)
      (length : (Token.number written).numeralLength? = (Token.number other).numeralLength?) :
      Alike (.dimension written unit) (.dimension other otherUnit)
  | literal (text : Text) : Alike (.literal text) (.literal text)
  | comment (text other : Text) : Alike (.comment text) (.comment other)
  | fault (cause : TokenFault) : Alike (.fault cause) (.fault cause)

theorem Token.Alike.refl (token : Token) : token.Alike token := by
  cases token with
  | ident name => exact .ident (.inl rfl)
  | number written => exact .number rfl
  | percentage written => exact .percentage rfl
  | dimension written unit => exact .dimension unit unit rfl
  | _ => constructor

theorem Token.Alike.numeralLength?_eq {token other : Token} (alike : token.Alike other) :
    token.numeralLength? = other.numeralLength? := by
  cases alike with
  | number length => exact length
  | percentage length => exact length
  | dimension _ _ length => exact length
  | _ => rfl

inductive Opener.Alike : Opener → Opener → Prop where
  | block (bracket : Bracket) : Alike (.block bracket) (.block bracket)
  | function {name other : Text} (named : name.NamedAlike other) :
      Alike (.function name) (.function other)

theorem Opener.Alike.bracket_eq {opener other : Opener} (alike : opener.Alike other) :
    opener.bracket = other.bracket := by
  cases alike with
  | block bracket => rfl
  | function named => rfl

inductive Lexeme.Alike : Lexeme → Lexeme → Prop where
  | token {token other : Token} (alike : token.Alike other) : Alike (.token token) (.token other)
  | opening {opener other : Opener} (alike : opener.Alike other) :
      Alike (.opening opener) (.opening other)
  | closing (bracket : Bracket) : Alike (.closing bracket) (.closing bracket)

theorem Lexeme.Alike.refl (lexeme : Lexeme) : lexeme.Alike lexeme := by
  cases lexeme with
  | token token => exact .token (.refl token)
  | opening opener =>
    cases opener with
    | block bracket => exact .opening (.block bracket)
    | function name => exact .opening (.function (.inl rfl))
  | closing bracket => exact .closing bracket

namespace Component

/-- The bar of a namespace. -/
def isBar (c : Component) : Bool := c.kind = .literal ['|']

/-- Component values alike, inside and out. At the end of the text a blank may be missing in all
that is open. -/
inductive Alike : Component → Component → Prop where
  | leaf (first second : Position) {token other : Token} (alike : token.Alike other) :
      Alike (.leaf first token) (.leaf second other)
  | block (first second : Position) {opener other : Opener} {content inner : List Component}
      (alike : opener.Alike other) (inside : UpToEnd Alike isBlank isBar content inner) :
      Alike (.block first opener content) (.block second other inner)

/-- The components of two lists go together, up to a blank at the end. -/
abbrev AllAlike : List Component → List Component → Prop := UpToEnd Alike isBlank isBar

/-! ### Brackets -/

structure Frame.Alike (frame other : Frame) : Prop where
  opener : frame.opener.Alike other.opener
  before : List.Forall₂ Component.Alike frame.before other.before

structure Nest.Alike (nest other : Nest) : Prop where
  frames : List.Forall₂ Frame.Alike nest.frames other.frames
  content : List.Forall₂ Component.Alike nest.content other.content

theorem Nest.Alike.step {nest other : Nest} (alike : nest.Alike other)
    {entry second : Position × Lexeme} (lexeme : entry.2.Alike second.2) :
    (nest.step entry).Alike (other.step second) := by
  obtain ⟨position, first⟩ := entry
  obtain ⟨place, second⟩ := second
  obtain ⟨frames, content⟩ := alike
  cases lexeme with
  | token alike => exact ⟨frames, .cons (.leaf position place alike) content⟩
  | opening alike => exact ⟨.cons ⟨alike, content⟩ frames, .nil⟩
  | closing bracket =>
    have unmatched : List.Forall₂ Component.Alike (.leaf position (.fault (.unmatched bracket)) ::
        nest.content)
        (.leaf place (.fault (.unmatched bracket)) :: other.content) :=
          .cons (.leaf position place (.fault _)) content
    obtain ⟨open_, inner⟩ := nest
    obtain ⟨openToo, innerToo⟩ := other
    cases frames with
    | nil => exact ⟨.nil, unmatched⟩
    | cons frame frames =>
      simp only [Nest.step, ← frame.opener.bracket_eq]
      split
      · have inside : AllAlike inner.reverse innerToo.reverse :=
          .of_forall₂ (List.rel_reverse content)
        exact ⟨frames, .cons (.block _ _ frame.opener inside) frame.before⟩
      · exact ⟨.cons frame frames, unmatched⟩

theorem Nest.Alike.foldl {nest other : Nest} (alike : nest.Alike other)
    {lexemes others : List (Position × Lexeme)}
    (lexeme : List.Forall₂ (fun entry second => entry.2.Alike second.2) lexemes others) :
    (lexemes.foldl Nest.step nest).Alike (others.foldl Nest.step other) := by
  induction lexeme generalizing nest other with
  | nil => exact alike
  | cons first _ ih => exact ih (alike.step first)

/-- Closing all that is open leaves nothing but a blank at the end to differ in. -/
theorem allAlike_finish {frames others : List Frame}
    (alike : List.Forall₂ Frame.Alike frames others) {content inner : List Component}
    (inside : AllAlike content.reverse inner.reverse) :
    AllAlike (Nest.finish ⟨frames, content⟩) (Nest.finish ⟨others, inner⟩) := by
  induction alike generalizing content inner with
  | nil => exact inside
  | @cons frame other _ _ alike _ ih =>
    have blocks : List.Forall₂ Alike (Nest.closeInto frame content) (Nest.closeInto other inner) :=
      .cons (.block _ _ alike.opener inside) alike.before
    exact ih (.of_forall₂ (List.rel_reverse blocks))

/-- A bar is the last of the innermost contents only if it was the last to be read. -/
theorem Nest.isBar_of_step {nest : Nest} {entry : Position × Lexeme} {c : Component}
    (last : c ∈ (nest.step entry).content.head?) (barred : c.isBar = true) :
    entry.2 = .token (.literal ['|']) := by
  obtain ⟨position, lexeme⟩ := entry
  have kind := of_decide_eq_true barred
  cases lexeme with
  | token token =>
    obtain rfl : .leaf position token = c := Option.some.inj last
    cases token <;> simp_all [Component.kind]
  | opening opener => cases last
  | closing bracket =>
    simp only [Nest.step] at last
    split at last
    · split at last
      · obtain rfl := Option.some.inj last
        next frame _ _ _ => cases h : frame.opener <;> simp [Component.kind, h] at kind
      · obtain rfl := Option.some.inj last
        cases kind
    · obtain rfl := Option.some.inj last
      cases kind

end Component

/-- The white space between tokens. -/
def Lexeme.isBlank : Lexeme → Bool
  | .token (.blank _) => true
  | _ => false

namespace Component

/-- Lexemes alike make component values alike, up to a blank at the end that does not follow a
bar. -/
theorem allAlike_ofLexemes {lexemes others : List (Position × Lexeme)}
    (alike : UpToEnd (fun entry other => entry.2.Alike other.2) (·.2.isBlank) (fun _ => false)
      lexemes others)
    (unbarred : ∀ front bar blank, lexemes = front ++ [bar, blank] → blank.2.isBlank = true →
      bar.2 ≠ .token (.literal ['|'])) :
    AllAlike (ofLexemes lexemes) (ofLexemes others) := by
  have start : Nest.Alike .empty .empty := ⟨.nil, .nil⟩
  rcases alike.forall₂_or with all | ⟨front, ⟨position, lexeme⟩, rfl, blank, most⟩
  · obtain ⟨frames, content⟩ := start.foldl all
    exact allAlike_finish frames (.of_forall₂ (List.rel_reverse content))
  · obtain ⟨frames, content⟩ := start.foldl most
    have text : ∃ text, lexeme = .token (.blank text) := by
      cases lexeme with
      | token token => cases token <;> simp_all [Lexeme.isBlank]
      | _ => cases blank
    obtain ⟨text, rfl⟩ := text
    -- The blank goes to the innermost contents, and closing them wraps it into every block that is
    -- still open.
    rw [ofLexemes, List.foldl_append]
    refine allAlike_finish frames ?_
    rw [List.reverse_cons]
    refine .concat_blank rfl (List.rel_reverse content) fun c last => ?_
    rw [List.getLast?_reverse] at last
    cases barred : c.isBar with
    | false => rfl
    | true =>
      rcases List.eq_nil_or_concat front with rfl | ⟨front, entry, rfl⟩
      · cases last
      · rw [List.concat_eq_append, List.foldl_append] at last
        exact absurd (Nest.isBar_of_step last barred)
          (unbarred front entry (position, _) (by simp) blank)

/-! ### A token in front -/

/-- The frames with more in front of all that stands before the outermost. -/
def Frame.behind (front : List Component) : List Frame → List Frame
  | [] => []
  | [frame] => [{ frame with before := frame.before ++ front }]
  | frame :: next :: frames => frame :: Frame.behind front (next :: frames)

/-- The same blocks with more in front of them. -/
def Nest.behind (front : List Component) : Nest → Nest
  | ⟨[], content⟩ => ⟨[], content ++ front⟩
  | ⟨frame :: frames, content⟩ => ⟨Frame.behind front (frame :: frames), content⟩

theorem Nest.step_behind (front : List Component) (nest : Nest) (entry : Position × Lexeme) :
    (nest.behind front).step entry = (nest.step entry).behind front := by
  obtain ⟨frames, content⟩ := nest
  obtain ⟨position, lexeme⟩ := entry
  cases lexeme with
  | token token => cases frames <;> rfl
  | opening opener => cases frames <;> rfl
  | closing bracket =>
    match frames with
    | [] => rfl
    | [frame] =>
      simp only [Nest.behind, Frame.behind, Nest.step]
      split <;> rfl
    | frame :: next :: frames =>
      simp only [Nest.behind, Frame.behind, Nest.step]
      split <;> rfl

theorem Nest.finish_behind (front : List Component) (nest : Nest) :
    (nest.behind front).finish = front.reverse ++ nest.finish := by
  obtain ⟨frames, content⟩ := nest
  have closed (frame : Frame) (frames : List Frame) (content : List Component) :
      (Frame.behind front (frame :: frames)).foldl
        (fun content frame => closeInto frame content) content =
        (frame :: frames).foldl (fun content frame => closeInto frame content) content ++
          front := by
    induction frames generalizing frame content with
    | nil => rfl
    | cons next frames ih => exact ih next (closeInto frame content)
  cases frames with
  | nil => simp [Nest.behind, Nest.finish]
  | cons frame frames =>
    rw [Nest.behind, Nest.finish, Nest.finish, closed, List.reverse_append]

/-- A token in front is a component value in front. -/
theorem ofLexemes_token (position : Position) (token : Token) (lexemes : List (Position × Lexeme)) :
    ofLexemes ((position, .token token) :: lexemes) =
      .leaf position token :: ofLexemes lexemes := by
  have run (nest : Nest) : lexemes.foldl Nest.step (nest.behind [.leaf position token]) =
      (lexemes.foldl Nest.step nest).behind [.leaf position token] := by
    induction lexemes generalizing nest with
    | nil => rfl
    | cons entry lexemes ih => rw [List.foldl_cons, List.foldl_cons, Nest.step_behind, ih]
  have start : Nest.step .empty (position, .token token) =
      Nest.behind [.leaf position token] .empty := rfl
  rw [ofLexemes, List.foldl_cons, start, run, Nest.finish_behind]
  rfl

end Component
end StyleScore
