import StyleScore.Proofs.World.Failure

/-!
What a reader of style sheets does with the world: the text of a file comes from the disk as it is,
and reading its tree and scoring it aloud leave only entries in the log.
-/
namespace StyleScore
open StyleScore.Action

theorem Action.attempt_inspect {α : Type} (look : Disk → Except Error α) (world : World) :
    (inspect look).attempt world = (.ok (look world.disk), world) := by
  change (Except.ok (ofExcept (look world.disk) world).1, (ofExcept (look world.disk) world).2) = _
  cases look world.disk <;> rfl

namespace Reader

theorem nonempty_some {text : Text} (solid : text ≠ []) : nonempty (some text) = some text := by
  simp [nonempty, Option.filter, solid]

theorem contents_of_readText {name text : Text} {world : World} (named : name ≠ [])
    (read : world.disk.readText (Path.ofText name) = .ok text) :
    contents (some name) world = (.ok (some text), world) := by
  have looked := attempt_inspect (fun disk => disk.readText (Path.ofText name)) world
  rw [read] at looked
  unfold contents
  rw [nonempty_some named]
  exact bind_of_ok looked

theorem contents_of_not_readText {name : Text} {world : World} {e : Error} (named : name ≠ [])
    (unread : world.disk.readText (Path.ofText name) = .error e) :
    (∃ after, contents (some name) world = (.ok none, after)) ∨
      ∃ other after, contents (some name) world = (.error other, after) ∧
        other.isSurvivable = true := by
  have looked := attempt_inspect (fun disk => disk.readText (Path.ofText name)) world
  have mild := Disk.readText_survivable unread
  rw [unread] at looked
  unfold contents
  rw [nonempty_some named]
  dsimp only
  rw [bind_of_ok looked]
  cases e with
  | file cause path => exact .inl ⟨_, rfl⟩
  | _ => exact .inr ⟨_, _, rfl, mild⟩

theorem load_of_readText {name text : Text} {world : World} (named : name ≠ [])
    (read : world.disk.readText (Path.ofText name) = .ok text) :
    (ofFile (some name)).load world =
      (.ok (some text, (ofFile (some name)).setText (some text)), world) := by
  exact bind_attempt (contents_of_readText named read)

/-- Where the disk gives no text, there is none or an error that a run survives. -/
theorem load_of_not_readText {name : Text} {world : World}
    (unread : ∀ text, ¬(name ≠ [] ∧ world.disk.readText (Path.ofText name) = .ok text)) :
    (∃ after, (ofFile (some name)).load world = (.ok (none, ofFile (some name)), after)) ∨
      ∃ e after, (ofFile (some name)).load world = (.error e, after) ∧ e.isSurvivable = true := by
  by_cases named : name = []
  · subst named
    exact .inr ⟨_, _, rfl, rfl⟩
  · cases read : world.disk.readText (Path.ofText name) with
    | ok text => exact absurd ⟨named, read⟩ (unread text)
    | error e =>
      rcases contents_of_not_readText named read with ⟨after, nothing⟩ | ⟨other, after,
        failed, mild⟩
      · exact .inl ⟨after, bind_attempt nothing⟩
      · exact .inr ⟨other, _, bind_attempt failed, mild⟩

theorem setText_of_ne {text : Text} (file : Option Text) (solid : text ≠ []) :
    (ofFile file).setText (some text) = ⟨file, some text, none, 0⟩ := by
  rw [setText, nonempty_some solid]
  rfl

/-- The tree of a text that was just read. -/
theorem sheet_of_ok {text : Text} {rules : List Rule} {notes : List Note} (file : Option Text)
    (world : World) (read : Rule.ofText text = .ok (rules, notes)) :
    ∃ reader after, after.disk = world.disk ∧
      sheet ⟨file, some text, none, 0⟩ world =
        (.ok (some ⟨0, Forest.ofRules rules⟩, reader), after) := by
  have parsed : ∃ after, after.disk = world.disk ∧
      parse text world = (.ok (some (Forest.ofRules rules)), after) := by
    unfold parse
    rw [read]
    refine ⟨_, ?_, rfl⟩
    rfl
  obtain ⟨after, kept, parsed⟩ := parsed
  exact ⟨_, after, kept, bind_of_ok parsed⟩

theorem sheet_of_error {text : Text} {e : Error} (file : Option Text) (world : World)
    (unread : Rule.ofText text = .error e) :
    ∃ reader after, after.disk = world.disk ∧
      sheet ⟨file, some text, none, 0⟩ world = (.ok (none, reader), after) := by
  have parsed : ∃ after, after.disk = world.disk ∧ parse text world = (.ok none, after) := by
    unfold parse
    rw [unread]
    refine ⟨_, ?_, rfl⟩
    rfl
  obtain ⟨after, kept, parsed⟩ := parsed
  exact ⟨_, after, kept, bind_of_ok parsed⟩

end Reader

/-- Scoring aloud gives what scoring gives. -/
theorem Forest.fst_scoreAloud (forest : Forest) (tree : Option NodeId) (world : World) :
    (forest.scoreAloud tree world).1 = forest.score tree := by
  unfold scoreAloud score
  cases forest.uniqueSelectors tree with
  | error e => rfl
  | ok selectors =>
    cases forest.inventory tree with
    | error e => rfl
    | ok headers => cases forest.weightedRules tree <;> rfl

theorem Forest.disk_scoreAloud (forest : Forest) (tree : Option NodeId) (world : World) :
    (forest.scoreAloud tree world).2.disk = world.disk := by
  unfold scoreAloud
  cases forest.uniqueSelectors tree with
  | error e => rfl
  | ok selectors =>
    cases forest.inventory tree with
    | error e => rfl
    | ok headers => cases forest.weightedRules tree <;> rfl

end StyleScore
