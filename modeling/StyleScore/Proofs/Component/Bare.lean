import StyleScore.Component.Basic
import StyleScore.Proofs.Token.Seam

/-!
Component values without their places. Places do not decide how brackets are matched
(`bare_ofLexemes`), and lexemes whose brackets are matched make the same component values inside any
block (`Fills`).
-/
namespace StyleScore.Component

/-- A component value with all places at the start. -/
def bare : Component → Component
  | leaf _ token => leaf .start token
  | block _ opener content => block .start opener (content.map bare)
termination_by component => sizeOf component

theorem bare_leaf (position : Position) (token : Token) :
    (leaf position token).bare = leaf .start token := by
  rw [bare]

theorem bare_block (position : Position) (opener : Opener) (content : List Component) :
    (block position opener content).bare = block .start opener (content.map bare) := by
  rw [bare]

/-- Lexemes that all stand at the start. -/
def unplaced (lexemes : List Lexeme) : List (Position × Lexeme) := lexemes.map (Position.start, ·)

def Frame.bare (frame : Frame) : Frame := ⟨.start, frame.opener, frame.before.map Component.bare⟩

def Nest.bare (nest : Nest) : Nest := ⟨nest.frames.map Frame.bare, nest.content.map Component.bare⟩

theorem Nest.map_closeInto (frame : Frame) (content : List Component) :
    (closeInto frame content).map Component.bare =
      closeInto frame.bare (content.map Component.bare) := by
  simp [closeInto, Frame.bare, bare_block]

theorem Nest.bare_step (nest : Nest) (position : Position) (lexeme : Lexeme) :
    (nest.step (position, lexeme)).bare = nest.bare.step (.start, lexeme) := by
  cases lexeme with
  | token token => simp [step, Nest.bare, bare_leaf]
  | opening opener => simp [step, Nest.bare, Frame.bare]
  | closing bracket =>
    obtain ⟨frames, content⟩ := nest
    cases frames with
    | nil => simp [step, Nest.bare, bare_leaf]
    | cons frame frames =>
      simp only [step, Nest.bare, List.map_cons]
      by_cases fits : frame.opener.bracket = bracket
      · simp [fits, Frame.bare, map_closeInto]
      · simp [fits, Frame.bare, bare_leaf]

theorem Nest.map_finish (nest : Nest) : nest.finish.map Component.bare = nest.bare.finish := by
  obtain ⟨frames, content⟩ := nest
  simp only [finish, Nest.bare, List.map_reverse]
  congr 1
  induction frames generalizing content with
  | nil => rfl
  | cons frame frames ih => rw [List.foldl_cons, List.map_cons, List.foldl_cons, ih, map_closeInto]

/-- The places of lexemes do not decide how brackets are matched. -/
theorem bare_ofLexemes (lexemes : List (Position × Lexeme)) :
    (ofLexemes lexemes).map bare = ofLexemes (unplaced (lexemes.map Prod.snd)) := by
  have steps (nest : Nest) :
      (lexemes.foldl Nest.step nest).bare =
        (unplaced (lexemes.map Prod.snd)).foldl Nest.step nest.bare := by
    induction lexemes generalizing nest with
    | nil => rfl
    | cons lexeme lexemes ih => exact (ih _).trans (by rw [Nest.bare_step]; rfl)
  rw [ofLexemes, Nest.map_finish, steps]
  rfl

/-- The lexemes add component values to any block in which they stand, and leave nothing open. -/
def Fills (lexemes : List Lexeme) (content : List Component) : Prop :=
  ∀ nest : Nest, (unplaced lexemes).foldl Nest.step nest =
    ⟨nest.frames, content.reverse ++ nest.content⟩

theorem Fills.ofLexemes_eq {lexemes : List Lexeme} {content : List Component}
    (fills : Fills lexemes content) :
    ofLexemes (unplaced lexemes) = content := by
  rw [ofLexemes, fills]
  simp [Nest.finish, Nest.empty]

/-- Places do not decide which component values are made. -/
theorem Fills.map_bare {lexemes : List (Position × Lexeme)} {content : List Component}
    (fills : Fills (lexemes.map Prod.snd) content) :
    (ofLexemes lexemes).map bare = content.map bare := by
  have unplace (plain : List Lexeme) : (unplaced plain).map Prod.snd = plain := by
    simp [unplaced, Function.comp_def]
  rw [← fills.ofLexemes_eq, bare_ofLexemes, bare_ofLexemes, unplace]

theorem Fills.nil : Fills [] [] := fun _ => rfl

theorem Fills.token (token : Token) : Fills [.token token] [.leaf .start token] := fun _ => rfl

theorem foldl_unplaced_append (first second : List Lexeme) (nest : Nest) :
    (unplaced (first ++ second)).foldl Nest.step nest =
      (unplaced second).foldl Nest.step ((unplaced first).foldl Nest.step nest) := by
  rw [unplaced, List.map_append, List.foldl_append]
  rfl

theorem Fills.append {first second : List Lexeme} {content more : List Component}
    (fills : Fills first content) (fillsToo : Fills second more) :
    Fills (first ++ second) (content ++ more) := by
  intro nest
  rw [foldl_unplaced_append, fills, fillsToo]
  simp

theorem Fills.block {lexemes : List Lexeme} {content : List Component} (opener : Opener)
    (fills : Fills lexemes content) :
    Fills (.opening opener :: lexemes ++ [.closing opener.bracket])
      [.block .start opener content] := by
  intro nest
  have inner := fills ⟨⟨.start, opener, nest.content⟩ :: nest.frames, []⟩
  have closed := congrArg (fun nest => Nest.step nest (.start, .closing opener.bracket)) inner
  rw [foldl_unplaced_append]
  refine closed.trans ?_
  simp [Nest.step, Nest.closeInto]

/-- No comma stands among component values side by side. -/
def Unlisted (content : List Component) : Prop := ∀ c ∈ content, c.kind ≠ .literal [',']

/-- The lexemes of a plain selector leave no bracket open and hold no comma outside attribute tests.
From inside a test they fill it, close it and go on. -/
theorem fills_of_walk {scope : Scan.Scope} {lexemes : List Lexeme}
    (walk : Scan.Walk scope lexemes) :
    (scope = .top → ∃ content, Fills lexemes content ∧ Unlisted content) ∧
      (scope = .test → ∃ inner content : List Component, Unlisted content ∧
        ∀ (frame : Frame) (frames : List Frame) (before : List Component),
        frame.opener = .block .square →
          (unplaced lexemes).foldl Nest.step ⟨frame :: frames, before⟩ =
            ⟨frames, content.reverse ++ Nest.closeInto frame (inner.reverse ++ before)⟩) := by
  induction walk with
  | done => exact ⟨fun _ => ⟨[], .nil, nofun⟩, nofun⟩
  | next turn _ ih =>
    cases turn with
    | @token scope token inside =>
      refine ⟨fun top => ?_, fun test => ?_⟩
      · obtain ⟨content, fills, unlisted⟩ := ih.1 top
        refine ⟨.leaf .start token :: content, (Fills.token token).append fills, ?_⟩
        refine List.forall_mem_cons.2 ⟨fun comma => inside top ?_, unlisted⟩
        cases token <;> simp [kind] at comma
        rw [comma]
      · obtain ⟨inner, content, unlisted, steps⟩ := ih.2 test
        refine ⟨.leaf .start token :: inner, content, unlisted,
          fun frame frames before square => ?_⟩
        refine (steps frame frames (.leaf .start token :: before) square).trans ?_
        simp
    | opens =>
      refine ⟨fun _ => ?_, nofun⟩
      obtain ⟨inner, content, unlisted, steps⟩ := ih.2 rfl
      refine ⟨.block .start (.block .square) inner :: content, fun nest => ?_, ?_⟩
      · refine (steps ⟨.start, .block .square, nest.content⟩ nest.frames [] rfl).trans ?_
        simp [Nest.closeInto]
      · exact List.forall_mem_cons.2 ⟨nofun, unlisted⟩
    | closes =>
      refine ⟨nofun, fun _ => ?_⟩
      obtain ⟨content, fills, unlisted⟩ := ih.1 rfl
      refine ⟨[], content, unlisted, fun frame frames before square => ?_⟩
      have closed : Nest.step ⟨frame :: frames, before⟩ (.start, .closing .square) =
          ⟨frames, Nest.closeInto frame before⟩ := by
        simp [Nest.step, square, Opener.bracket]
      refine Eq.trans ?_ (fills ⟨frames, Nest.closeInto frame before⟩)
      rw [← closed]
      rfl

end StyleScore.Component
