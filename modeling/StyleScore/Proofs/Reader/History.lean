import Mathlib.Data.List.Induction
import StyleScore.Proofs.Token.Normal
import StyleScore.Proofs.Tree.Leaves
import StyleScore.Proofs.World.Reading

/-!
A reader of style sheets through a history of uses. Its text is the last one given to it that is not
empty (`text_after`), and what it keeps is the tree of that text or is read anew (`Sound`). So no
use ever sees the tree of an earlier text, and two uses see one and the same tree exactly when the
text was the same at every look at a tree from the one to the other (`sheet_after`).
-/
namespace StyleScore.Reader

open StyleScore.Action

/-- What can be done with a reader. -/
inductive Use where
  | setFile (file : Option Text)
  | setText (text : Option Text)
  | load
  | sheet
  | selectors
  deriving Repr

/-- The uses that look at a tree. -/
def Use.looks : Use → Bool
  | sheet | selectors => true
  | _ => false

inductive Answer where
  | done
  | text (text : Option Text)
  | sheet (sheet : Option Sheet)
  | selectors (selectors : Option (List Text))
  | failed (e : Error)
  deriving Repr

/-- Uses one after another, each in the world as it is then. -/
abbrev History := List (World × Use)

/-- The answer of an action and the reader after it; one that fails leaves the reader as it is. -/
def settle {α : Type} (reader : Reader) (answer : α → Answer) :
    Except Error (α × Reader) → Answer × Reader
  | .ok (value, reader) => (answer value, reader)
  | .error e => (.failed e, reader)

def turn (reader : Reader) (world : World) : Use → Answer × Reader
  | .setFile file => (.done, { reader with file })
  | .setText text => (.done, reader.setText text)
  | .load => reader.settle .text (reader.load world).1
  | .sheet => reader.settle .sheet (reader.sheet world).1
  | .selectors => reader.settle .selectors (reader.selectors world).1

def after (reader : Reader) (history : History) : Reader :=
  history.foldl (fun reader step => (reader.turn step.1 step.2).2) reader

/-! ### The texts that a reader is given -/

/-- The text of the file with a name, if the disk has it. -/
def fileText? (file : Option Text) (disk : Disk) : Option Text :=
  (nonempty file).bind fun name => (disk.readText (Path.ofText name)).toOption

/-- The texts that are given to a reader of a file, oldest first; an empty one is none. -/
def given (file : Option Text) : History → List Text
  | [] => []
  | (_, .setFile other) :: rest => given other rest
  | (_, .setText text) :: rest => (nonempty text).toList ++ given file rest
  | (world, .load) :: rest => (nonempty (fileText? file world.disk)).toList ++ given file rest
  | (_, .sheet) :: rest => given file rest
  | (_, .selectors) :: rest => given file rest

/-- The text that stands after a history. -/
def present (file : Option Text) (history : History) : Option Text := (given file history).getLast?

/-- From one point of a history on, the text is the same at every look at a tree. -/
def Steady (file : Option Text) (history between : History) : Prop :=
  ∀ early use, early ++ [use] <+: between → use.2.looks = true →
    present file (history ++ early) = present file history

/-- The tree of a text, if there is one. -/
def tree? (text : Text) : Option Forest :=
  (Rule.ofText text).toOption.map fun (rules, _) => Forest.ofRules rules

/-- The tree of the present text, with the reader that keeps it; `sheet` without its entries in the
log. -/
def look (reader : Reader) : Option Sheet × Reader :=
  match reader.text with
  | none => (none, reader)
  | some text =>
    match reader.last.filter (·.text = text) with
    | some reading => (reading.sheet, reader)
    | none =>
      let sheet := (tree? text).map (⟨reader.readings, ·⟩)
      (sheet, { reader with last := some ⟨text, sheet⟩, readings := reader.readings + 1 })

/-- What is kept is the tree of its text, under a number that is used up. -/
def Sound (reader : Reader) : Prop :=
  ∀ reading ∈ reader.last, ∃ number < reader.readings,
    reading.sheet = (tree? reading.text).map (⟨number, ·⟩)

section Turns

variable {reader : Reader} {world : World} {text : Text} {use : Use}

theorem setText_eq (reader : Reader) (text : Option Text) :
    reader.setText text = { reader with text := (nonempty text).or reader.text } := by
  unfold setText
  split
  · next found => rw [found]; rfl
  · next found => rw [found]; rfl

/-- Loading gives the text of the file or fails, and fails only where there is none. -/
theorem load_cases (reader : Reader) (world : World) :
    let text := fileText? reader.file world.disk
    (reader.load world).1 = .ok (text, reader.setText text) ∨
      (text = none ∧ ∃ e, (reader.load world).1 = .error e) := by
  unfold fileText? load
  cases named : nonempty reader.file with
  | none =>
    have refused : contents reader.file world = (.error .noFileName, world) := by
      unfold contents
      rw [named]
      rfl
    rw [bind_attempt refused]
    exact .inr ⟨rfl, _, rfl⟩
  | some name =>
    have looked := attempt_inspect (fun disk => disk.readText (Path.ofText name)) world
    have read : ∃ result after, contents reader.file world = (result, after) ∧
        (result = .ok (world.disk.readText (Path.ofText name)).toOption ∨
          (world.disk.readText (Path.ofText name)).toOption = none ∧ ∃ e, result = .error e) := by
      unfold contents
      rw [named]
      dsimp only
      rw [bind_of_ok looked]
      cases world.disk.readText (Path.ofText name) with
      | ok text => exact ⟨_, _, rfl, .inl rfl⟩
      | error e =>
        cases e with
        | file cause path => exact ⟨_, _, rfl, .inl rfl⟩
        | _ => exact ⟨_, _, rfl, .inr ⟨rfl, _, rfl⟩⟩
    obtain ⟨result, after, ran, rfl | ⟨nothing, e, rfl⟩⟩ := read
    · rw [bind_attempt ran]
      exact .inl rfl
    · rw [bind_attempt ran]
      exact .inr ⟨nothing, _, rfl⟩

/-- Loading gives the text of the file, if there is one. -/
theorem snd_turn_load (reader : Reader) (world : World) :
    (reader.turn world .load).2 = reader.setText (fileText? reader.file world.disk) := by
  rcases load_cases reader world with loaded | ⟨nothing, e, failed⟩
  · rw [turn, loaded]
    rfl
  · rw [turn, failed, nothing]
    rfl

theorem fst_parse (text : Text) (world : World) : (parse text world).1 = .ok (tree? text) := by
  unfold parse tree?
  cases Rule.ofText text with
  | error e => rfl
  | ok read => rfl

theorem fst_sheet (reader : Reader) (world : World) : (reader.sheet world).1 = .ok reader.look := by
  unfold sheet look
  cases reader.text with
  | none => rfl
  | some text =>
    dsimp only
    cases reader.last.filter (·.text = text) with
    | some reading => rfl
    | none =>
      have parsed : parse text world = (.ok (tree? text), (parse text world).2) :=
        Prod.ext (fst_parse text world) rfl
      exact congrArg Prod.fst (bind_of_ok parsed)

theorem turn_sheet (reader : Reader) (world : World) :
    reader.turn world .sheet = (.sheet reader.look.1, reader.look.2) := by
  rw [turn, fst_sheet]
  rfl

theorem look_none (textless : reader.text = none) : reader.look = (none, reader) := by
  rw [look, textless]

/-- A text that was read last is not read again. -/
theorem look_kept {sheet : Option Sheet} (own : reader.text = some text)
    (kept : reader.last = some ⟨text, sheet⟩) :
    reader.look = (sheet, reader) := by
  rw [look, own, kept]
  simp [Option.filter]

/-- Another text is read under a new number. -/
theorem look_new (own : reader.text = some text)
    (other : ∀ reading ∈ reader.last, reading.text ≠ text) :
    reader.look = ((tree? text).map (⟨reader.readings, ·⟩),
      { reader with
        last := some ⟨text, (tree? text).map (⟨reader.readings, ·⟩)⟩
        readings := reader.readings + 1 }) := by
  have nothing : reader.last.filter (·.text = text) = none := by
    rw [Option.filter_eq_none_iff]
    intro reading kept
    simpa using other reading kept
  simp only [look, own, nothing]

/-- A look at the present text finds its tree and keeps it. -/
theorem Sound.look (sound : reader.Sound) (own : reader.text = some text) :
    ∃ number, reader.look.1 = (tree? text).map (⟨number, ·⟩) ∧ number < reader.look.2.readings ∧
      reader.look.2.last = some ⟨text, reader.look.1⟩ := by
  cases kept : reader.last.filter (·.text = text) with
  | none =>
    have other : ∀ reading ∈ reader.last, reading.text ≠ text := by
      intro reading found
      simpa using Option.filter_eq_none_iff.1 kept reading found
    rw [look_new own other]
    exact ⟨_, rfl, Nat.lt_succ_self _, rfl⟩
  | some reading =>
    obtain ⟨found, same⟩ := Option.filter_eq_some_iff.1 kept
    obtain rfl : reading.text = text := by simpa using same
    obtain ⟨number, used, read⟩ := sound reading found
    rw [look_kept own found]
    exact ⟨number, read, used, found⟩

theorem Sound.look_snd (sound : reader.Sound) : reader.look.2.Sound := by
  cases own : reader.text with
  | none =>
    rw [look_none own]
    exact sound
  | some text =>
    obtain ⟨number, read, used, kept⟩ := sound.look own
    intro reading found
    rw [kept] at found
    cases found
    exact ⟨number, used, read⟩

/-- The selectors are those of the tree that a look finds, which has its leaves. -/
theorem turn_selectors (sound : reader.Sound) (world : World) :
    reader.turn world .selectors =
      (.selectors (reader.look.1.bind
        fun sheet => (sheet.forest.uniqueSelectors (some Forest.root)).toOption),
        reader.look.2) := by
  have ran : reader.sheet world = (.ok reader.look, (reader.sheet world).2) :=
    Prod.ext (fst_sheet reader world) rfl
  rw [turn, selectors, bind_of_ok ran]
  cases own : reader.text with
  | none =>
    rw [look_none own]
    rfl
  | some text =>
    obtain ⟨number, read, -⟩ := sound.look own
    cases looked : reader.look with
    | mk found kept =>
      rw [looked] at read
      subst read
      unfold tree?
      cases Rule.ofText text with
      | error e => rfl
      | ok rules =>
        obtain ⟨selectors, listed⟩ : ∃ selectors,
            (Forest.ofRules rules.1).uniqueSelectors (some Forest.root) = .ok selectors := by
          rw [Forest.uniqueSelectors, Forest.leaves_ofRules]
          exact ⟨_, rfl⟩
        simp only [Except.toOption, Option.map_some, Option.bind_some, listed]
        rfl

/-- Whatever looks at a tree leaves the reader as a look does. -/
theorem snd_turn_of_looks (sound : reader.Sound) (world : World) (looks : use.looks = true) :
    (reader.turn world use).2 = reader.look.2 := by
  cases use with
  | sheet => rw [turn_sheet]
  | selectors => rw [turn_selectors sound]
  | _ => cases looks

/-- What does not look at a tree changes the file or the text only. -/
theorem snd_turn_of_not_looks (reader : Reader) (world : World) (blind : use.looks = false) :
    ∃ file text, (reader.turn world use).2 = { reader with file, text } := by
  cases use with
  | setFile file => exact ⟨file, reader.text, rfl⟩
  | setText text => exact ⟨reader.file, _, setText_eq reader text⟩
  | load => exact ⟨reader.file, _, (snd_turn_load reader world).trans (setText_eq reader _)⟩
  | _ => cases blind

theorem Sound.turn (sound : reader.Sound) (world : World) (use : Use) :
    (reader.turn world use).2.Sound := by
  cases looks : use.looks with
  | true =>
    rw [snd_turn_of_looks sound world looks]
    exact sound.look_snd
  | false =>
    obtain ⟨file, text, changed⟩ := snd_turn_of_not_looks reader world looks
    rw [changed]
    exact sound

theorem look_snd (reader : Reader) :
    reader.look.2.file = reader.file ∧ reader.look.2.text = reader.text := by
  unfold look
  split
  · exact ⟨rfl, rfl⟩
  · split
    · exact ⟨rfl, rfl⟩
    · exact ⟨rfl, rfl⟩

end Turns

/-! ### What a history does to a reader -/

section Histories

variable {reader : Reader} {file : Option Text} {history between : History}

theorem after_append (reader : Reader) (history more : History) :
    reader.after (history ++ more) = (reader.after history).after more := List.foldl_append

theorem Sound.after (sound : reader.Sound) (history : History) : (reader.after history).Sound := by
  induction history generalizing reader with
  | nil => exact sound
  | cons step rest ih => exact ih (sound.turn step.1 step.2)

/-- The text of a reader is the last one given to it that is not empty, or the one from before. -/
theorem text_after_of_sound (sound : reader.Sound) (history : History) :
    (reader.after history).text = (given reader.file history).getLast?.or reader.text := by
  induction history generalizing reader with
  | nil => rfl
  | cons step rest ih =>
    obtain ⟨world, use⟩ := step
    have later : ((reader.turn world use).2.after rest).text = _ := ih (sound.turn world use)
    have more (offered : Option Text) :
        (given reader.file rest).getLast?.or ((nonempty offered).or reader.text) =
        ((nonempty offered).toList ++ given reader.file rest).getLast?.or reader.text := by
      rw [List.getLast?_append, Option.or_assoc]
      cases nonempty offered <;> rfl
    change ((reader.turn world use).2.after rest).text = _
    rw [later]
    cases use with
    | setFile other => rfl
    | setText text =>
      rw [turn, setText_eq]
      exact more text
    | load =>
      rw [snd_turn_load, setText_eq]
      exact more _
    | sheet =>
      rw [snd_turn_of_looks sound world rfl, (look_snd reader).1, (look_snd reader).2, given]
    | selectors =>
      rw [snd_turn_of_looks sound world rfl, (look_snd reader).1, (look_snd reader).2, given]

theorem sound_after (file : Option Text) (history : History) :
    ((ofFile file).after history).Sound := by
  have fresh : (ofFile file).Sound := by
    intro reading impossible
    cases impossible
  exact fresh.after history

theorem text_after (file : Option Text) (history : History) :
    ((ofFile file).after history).text = present file history := by
  have fresh : (ofFile file).Sound := sound_after file []
  rw [text_after_of_sound fresh]
  exact Option.or_none

end Histories

/-! ### One tree or two -/

/-- The reader will show the tree of a text to whoever looks. -/
def Keeps (reader : Reader) (text : Text) (sheet : Sheet) : Prop :=
  reader.last = some ⟨text, some sheet⟩

/-- The reader will never again show a tree. -/
def Lost (reader : Reader) (sheet : Sheet) : Prop :=
  sheet.reading < reader.readings ∧
    ∀ reading ∈ reader.last, ∀ other ∈ reading.sheet, other.reading ≠ sheet.reading

section Sharing

variable {reader : Reader} {text other : Text} {sheet : Sheet} {file : Option Text}
    {history between : History}

theorem Keeps.used (keeps : reader.Keeps text sheet) (sound : reader.Sound) :
    sheet.reading < reader.readings := by
  obtain ⟨number, used, read⟩ := sound _ keeps
  obtain ⟨forest, -, rfl⟩ := Option.map_eq_some_iff.1 read.symm
  exact used

theorem Keeps.look (keeps : reader.Keeps text sheet) (own : reader.text = some text) :
    reader.look.2.Keeps text sheet := by
  rw [look_kept own keeps]
  exact keeps

/-- A look at another text under a new number loses a tree. -/
theorem lost_look_new (used : sheet.reading < reader.readings) (own : reader.text = some other)
    (differs : ∀ reading ∈ reader.last, reading.text ≠ other) : reader.look.2.Lost sheet := by
  rw [look_new own differs]
  refine ⟨Nat.lt_succ_of_lt used, ?_⟩
  intro reading kept found shown
  cases kept
  obtain ⟨forest, -, rfl⟩ := Option.map_eq_some_iff.1 shown
  exact Nat.ne_of_gt used

theorem Keeps.lost (keeps : reader.Keeps text sheet) (sound : reader.Sound)
    (own : reader.text = some other) (differs : text ≠ other) : reader.look.2.Lost sheet := by
  refine lost_look_new (keeps.used sound) own ?_
  intro reading kept
  rw [keeps] at kept
  cases kept
  exact differs

theorem Lost.look (lost : reader.Lost sheet) : reader.look.2.Lost sheet := by
  cases own : reader.text with
  | none =>
    rw [look_none own]
    exact lost
  | some present =>
    by_cases kept : ∃ reading ∈ reader.last, reading.text = present
    · obtain ⟨reading, kept, rfl⟩ := kept
      rw [look_kept own kept]
      exact lost
    · refine lost_look_new lost.1 own ?_
      intro reading found same
      exact kept ⟨reading, found, same⟩

theorem steady_concat (step : World × Use) :
    Steady file history (between ++ [step]) ↔
      Steady file history between ∧
        (step.2.looks = true → present file (history ++ between) = present file history) := by
  constructor
  · intro steady
    constructor
    · intro early use begins looks
      exact steady early use (begins.trans (List.prefix_append _ _)) looks
    · intro looks
      exact steady between step (List.prefix_refl _) looks
  · rintro ⟨steady, last⟩ early use begins looks
    rcases List.prefix_concat_iff.1 begins with whole | shorter
    · obtain ⟨rfl, rfl⟩ := List.append_singleton_inj.1 whole
      exact last looks
    · exact steady early use shorter looks

/-- A text that stands is only ever followed by another one. -/
theorem exists_present_append (own : present file history = some text) (between : History) :
    ∃ other, present file (history ++ between) = some other := by
  have later := text_after_of_sound (sound_after file history) between
  rw [← after_append, text_after, text_after, own] at later
  rw [later]
  cases (given ((ofFile file).after history).file between).getLast? with
  | none => exact ⟨text, rfl⟩
  | some other => exact ⟨other, rfl⟩

/-- What becomes of a tree: it is kept as long as every look is at its text, and lost with the first
that is not. -/
theorem keeps_or_lost (own : present file history = some text)
    (keeps : ((ofFile file).after history).Keeps text sheet) (between : History) :
    (Steady file history between → ((ofFile file).after (history ++ between)).Keeps text sheet) ∧
      (¬ Steady file history between → ((ofFile file).after (history ++ between)).Lost sheet) := by
  induction between using List.reverseRecOn with
  | nil =>
    rw [List.append_nil]
    refine ⟨fun _ => keeps, fun unsteady => absurd ?_ unsteady⟩
    intro early use begins
    simp at begins
  | append_singleton between step ih =>
    obtain ⟨world, use⟩ := step
    have sound := sound_after file (history ++ between)
    have turned : (ofFile file).after (history ++ (between ++ [(world, use)])) =
        (((ofFile file).after (history ++ between)).turn world use).2 := by
      rw [← List.append_assoc, after_append]
      rfl
    rw [turned, steady_concat]
    cases looks : use.looks with
    | false =>
      obtain ⟨newFile, newText, changed⟩ :=
        snd_turn_of_not_looks ((ofFile file).after (history ++ between)) world looks
      simp only [changed, Bool.false_eq_true, false_implies, and_true]
      exact ih
    | true =>
      rw [snd_turn_of_looks sound world looks]
      obtain ⟨shown, standing⟩ := exists_present_append own between
      have standing' := (text_after file (history ++ between)).trans standing
      rw [standing, own]
      by_cases steady : Steady file history between
      · by_cases same : text = shown
        · subst same
          simp [steady, (ih.1 steady).look standing']
        · simp [steady, Ne.symm same, (ih.1 steady).lost sound standing' same]
      · simp [steady, (ih.2 steady).look]

/-- A look that shows a tree shows that of the text that stands, and the reader keeps it. -/
theorem keeps_of_shown (world : World) (shown : ((ofFile file).after history).look.1 = some sheet) :
    ∃ text, present file history = some text ∧ tree? text = some sheet.forest ∧
      ((ofFile file).after (history ++ [(world, .sheet)])).Keeps text sheet := by
  have own := text_after file history
  cases standing : present file history with
  | none =>
    rw [look_none (own.trans standing)] at shown
    cases shown
  | some text =>
    obtain ⟨number, read, -, kept⟩ := (sound_after file history).look (own.trans standing)
    rw [shown] at read kept
    obtain ⟨forest, found, rfl⟩ := Option.map_eq_some_iff.1 read.symm
    refine ⟨text, rfl, found, ?_⟩
    rw [after_append]
    change (((ofFile file).after history).turn world .sheet).2.Keeps _ _
    rw [turn_sheet]
    exact kept

theorem present_concat_sheet (file : Option Text) (history : History) (world : World) :
    present file (history ++ [(world, .sheet)]) = present file history := by
  rw [← text_after, ← text_after, after_append]
  change (((ofFile file).after history).turn world .sheet).2.text = _
  rw [turn_sheet, (look_snd _).2]

/-- Two looks show one and the same tree exactly when every look from the one to the other was at
the same text. -/
theorem reading_eq_iff {first : World} {other : Sheet} (last : World)
    (shown : ((ofFile file).after history).look.1 = some sheet)
    (shownToo : ((ofFile file).after (history ++ [(first, .sheet)] ++ between)).look.1 =
      some other) :
    other.reading = sheet.reading ↔
      Steady file (history ++ [(first, .sheet)]) (between ++ [(last, .sheet)]) := by
  obtain ⟨text, standing, -, keeps⟩ := keeps_of_shown first shown
  obtain ⟨textToo, -, -, keepsToo⟩ := keeps_of_shown last shownToo
  rw [List.append_assoc] at keepsToo
  have own : present file (history ++ [(first, .sheet)]) = some text := by
    rw [present_concat_sheet, standing]
  obtain ⟨kept, lost⟩ := keeps_or_lost own keeps (between ++ [(last, .sheet)])
  constructor
  · intro same
    apply Classical.byContradiction
    intro unsteady
    exact (lost unsteady).2 _ keepsToo other rfl same
  · intro steady
    have same := keepsToo.symm.trans (kept steady)
    cases same
    rfl

end Sharing

/-- A text has no tree exactly if it has a number that is too long to be read. -/
theorem tree?_eq_none_iff (text : Text) :
    tree? text = none ↔ ∃ digits, overlongNumeral? (scan text) = some digits := by
  rw [← Rule.ofText_eq_error_iff, tree?]
  cases Rule.ofText text with
  | error e => simp [Except.toOption]
  | ok pair => simp [Except.toOption]

/-- At every point of its history a reader shows no tree while it was given no text, or a text with
a number that is too long to be read, and else the tree of the text that stands. A later look shows
one and the same tree exactly when the text is the same then, and was the same at every look
between. -/
theorem sheet_after (file : Option Text) (history : History) (world : World) :
    ∃ found, (((ofFile file).after history).turn world .sheet).1 = .sheet found ∧
      (found = none ↔
        given file history = [] ∨ ∃ text ∈ present file history, ∃ digits,
        overlongNumeral? (scan text) = some digits) ∧
      ∀ sheet ∈ found,
        (∃ text rules notes, present file history = some text ∧
          Rule.ofText text = .ok (rules, notes) ∧
          sheet.forest = Forest.ofRules rules) ∧
        ∀ between later other,
          (((ofFile file).after (history ++ (world, .sheet) :: between)).turn later .sheet).1 =
            .sheet (some other) →
            (other.reading = sheet.reading ↔
              present file (history ++ (world, .sheet) :: between) = present file history ∧
                ∀ early use, early ++ [use] <+: between → use.2.looks = true →
                  present file (history ++ (world, .sheet) :: early) = present file history) := by
  have sound := sound_after file history
  have own := text_after file history
  refine ⟨((ofFile file).after history).look.1, by rw [turn_sheet], ?_, ?_⟩
  · cases standing : present file history with
    | none =>
      rw [look_none (own.trans standing)]
      simpa using List.getLast?_eq_none_iff.1 standing
    | some text =>
      have filled : given file history ≠ [] := by
        intro nothing
        rw [present, nothing] at standing
        cases standing
      obtain ⟨number, read, -⟩ := sound.look (own.trans standing)
      rw [read, Option.map_eq_none_iff, tree?_eq_none_iff]
      simp [filled]
  · intro sheet shown
    obtain ⟨text, standing, found, -⟩ := keeps_of_shown world shown
    constructor
    · unfold tree? at found
      cases read : Rule.ofText text with
      | error e =>
        rw [read] at found
        cases found
      | ok result =>
        rw [read] at found
        exact ⟨text, result.1, result.2, standing, read, (Option.some.inj found).symm⟩
    · intro between later other answered
      have shownToo : ((ofFile file).after (history ++ [(world, .sheet)] ++ between)).look.1 =
          some other := by
        rw [turn_sheet] at answered
        simpa using answered
      rw [reading_eq_iff later shown shownToo, steady_concat, and_comm, Steady,
        present_concat_sheet]
      simp [Use.looks]

/-- Nothing on the disk and nothing in the log. -/
def bareWorld : World := ⟨⟨.folder [], []⟩, [], [], []⟩

/-- A reader that was given too many digits has a text and shows no tree. -/
theorem sheet_after_manyDigits :
    present none [(bareWorld, .setText (some manyDigits))] = some manyDigits ∧
      (((ofFile none).after [(bareWorld, .setText (some manyDigits))]).turn bareWorld .sheet).1 =
        .sheet none := by
  have unread : tree? manyDigits = none := by
    rw [tree?, Rule.ofText_manyDigits]
    rfl
  constructor
  · rw [present, given, nonempty_some manyDigits_ne_nil]
    rfl
  · rw [turn_sheet]
    change Answer.sheet ((ofFile none).setText (some manyDigits)).look.1 = _
    rw [setText_of_ne none manyDigits_ne_nil, look_new rfl (by simp), unread]
    rfl

end StyleScore.Reader
