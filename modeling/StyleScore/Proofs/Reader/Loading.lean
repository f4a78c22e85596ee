import StyleScore.Proofs.Cli.Course
import StyleScore.Proofs.Reader.History

/-!
What a reader holds when it has loaded a file. It returns the text of the file, and it shows the
tree and the selectors of that text from then on, unless the text is empty: that one is returned and
not kept, and the reader goes on to show what it showed before (`load_readable`). For the same
reason an empty file counts as one that cannot be read where a style sheet is worked on.
-/
namespace StyleScore

/-- There is no report for want of a text exactly if the text is empty. -/
theorem Report.ofFile_unreadable_iff {disk : Disk} {path : Path} {text : Text}
    (named : path.text ≠ []) (read : disk.readText (Path.ofText path.text) = .ok text) :
    (∃ name, ofFile disk path = .error (.unreadable name)) ↔ text = [] := by
  obtain ⟨bytes, held, decoded⟩ := bind_eq_ok.1 read
  unfold ofFile ofContents
  rw [if_neg named, held]
  split at decoded
  · next plain good =>
    cases decoded
    dsimp only
    rw [good]
    dsimp only
    by_cases empty : plain.plainLineEnds = []
    · rw [if_pos empty]
      exact ⟨fun _ => empty, fun _ => ⟨path.text, rfl⟩⟩
    · rw [if_neg empty]
      refine ⟨?_, fun nothing => absurd nothing empty⟩
      rintro ⟨name, failed⟩
      split at failed
      · cases failed
      · rcases isOfRules_of_ofRules failed with impossible | impossible
        · cases impossible
        · cases impossible
  · cases decoded

namespace Cli
open StyleScore.Action

/-- A file whose text is there counts as one that cannot be read exactly if the text is empty. -/
theorem analyze_unreadable_iff {world : World} {path : Path} {css : Text} (writer : Writer)
    (output html : Option Text)
    (readable : Reader.fileText? (some path.text) world.disk = some css) :
    (∃ name, (analyze writer path output html world).1 = .error (.unreadable name)) ↔ css = [] := by
  obtain ⟨name, kept, read⟩ := Option.bind_eq_some_iff.1 readable
  obtain ⟨same, named⟩ := Option.filter_eq_some_iff.1 kept
  obtain rfl := Option.some.inj same
  obtain ⟨between, -, ran⟩ := analyze_eq_ofFile world path
  rw [ran, ← Report.ofFile_unreadable_iff (by simpa using named) (eq_ok_of_toOption read)]
  refine exists_congr fun name => ?_
  cases made : Report.ofFile world.disk path with
  | error e => exact Iff.rfl
  | ok report =>
    -- what fails then is the writing
    simp only [reduceCtorEq, iff_false]
    intro failed
    cases failsOnly_publish (Report.writing_of_ofFile made) between _ failed

end Cli

namespace Reader

/-- The selectors of a text; there are none where there is no tree. -/
def selectorsOf? (text : Text) : Option (List Text) :=
  (tree? text).bind fun forest => (forest.uniqueSelectors (some Forest.root)).toOption

section Loading

variable {reader : Reader} {file : Option Text} {history between : History} {world : World}
    {text : Text}

theorem fst_turn_load (readable : fileText? reader.file world.disk = some text) :
    (reader.turn world .load).1 = .text (some text) := by
  rcases load_cases reader world with loaded | ⟨nothing, -⟩
  · rw [turn, loaded, readable]
    rfl
  · cases nothing.symm.trans readable

theorem text_turn_load (readable : fileText? reader.file world.disk = some text)
    (solid : text ≠ []) :
    (reader.turn world .load).2.text = some text := by
  rw [snd_turn_load, readable, setText_eq, nonempty_some solid]
  rfl

/-- An empty text leaves the reader as it is. -/
theorem snd_turn_load_nil (readable : fileText? reader.file world.disk = some []) :
    (reader.turn world .load).2 = reader := by
  rw [snd_turn_load, readable]
  rfl

theorem ne_nil_of_nonempty {offered : Option Text} (kept : nonempty offered = some text) :
    text ≠ [] := by
  simpa using (Option.filter_eq_some_iff.1 kept).2

theorem ne_nil_of_mem_given (member : text ∈ given file history) : text ≠ [] := by
  induction history generalizing file with
  | nil => cases member
  | cons step rest ih =>
    obtain ⟨world, use⟩ := step
    have either {offered : Option Text}
        (member : text ∈ (nonempty offered).toList ++ given file rest) : text ≠ [] := by
      rcases List.mem_append.1 member with here | later
      · exact ne_nil_of_nonempty (Option.mem_toList.1 here)
      · exact ih later
    cases use with
    | setFile other => exact ih member
    | setText offered => exact either member
    | load => exact either member
    | sheet => exact ih member
    | selectors => exact ih member

/-- No history leaves a reader with an empty text. -/
theorem text_after_ne_nil (file : Option Text) (history : History) :
    ((ofFile file).after history).text ≠ some [] := by
  rw [text_after]
  intro empty
  exact ne_nil_of_mem_given (List.mem_of_getLast? empty) rfl

theorem given_of_looks (looks : ∀ step ∈ between, step.2.looks = true) (file : Option Text) :
    given file between = [] := by
  induction between with
  | nil => rfl
  | cons step rest ih =>
    obtain ⟨world, use⟩ := step
    obtain ⟨own, others⟩ := List.forall_mem_cons.1 looks
    cases use with
    | sheet => exact ih others
    | selectors => exact ih others
    | _ => cases own

/-- A reader with a text shows the tree and the selectors of that text, however often it is looked
at. -/
theorem Sound.shows (sound : reader.Sound) (own : reader.text = some text)
    (looks : ∀ step ∈ between, step.2.looks = true) (later : World) :
    (∃ number, ((reader.after between).turn later .sheet).1 =
      .sheet ((tree? text).map (⟨number, ·⟩))) ∧
      ((reader.after between).turn later .selectors).1 = .selectors (selectorsOf? text) := by
  have kept : (reader.after between).text = some text := by
    rw [text_after_of_sound sound, given_of_looks looks, own]
    rfl
  obtain ⟨number, read, -⟩ := (sound.after between).look kept
  rw [turn_sheet, turn_selectors (sound.after between), read]
  refine ⟨⟨number, rfl⟩, ?_⟩
  rw [selectorsOf?, Option.bind_map]
  rfl

end Loading

/-- A reader with any history loads a file whose text is there. It returns the text; it holds the
text then exactly if that is not empty, and an empty one changes nothing. While it holds the text,
each look shows the tree and the selectors of it. Work on a style sheet whose text is there fails
for want of it exactly if the text is empty. -/
theorem load_readable {file : Option Text} {history : History} {world : World} {text : Text}
    (readable : fileText? ((ofFile file).after history).file world.disk = some text) :
    let reader := (ofFile file).after history
    let loaded := (reader.turn world .load).2
    (reader.turn world .load).1 = .text (some text) ∧ (loaded.text = some text ↔ text ≠ []) ∧
      (text = [] → loaded = reader) ∧
      (text ≠ [] → ∀ between later, (∀ step ∈ between, step.2.looks = true) →
        (∃ number, ((loaded.after between).turn later .sheet).1 =
          .sheet ((tree? text).map (⟨number, ·⟩))) ∧
          ((loaded.after between).turn later .selectors).1 = .selectors (selectorsOf? text)) ∧
      ∀ writer path output html css, fileText? (some path.text) world.disk = some css →
        ((∃ name, (Cli.analyze writer path output html world).1 = .error (.unreadable name)) ↔
          css = []) := by
  intro reader loaded
  have sound : reader.Sound := sound_after file history
  have unkept (empty : text = []) : loaded = reader := snd_turn_load_nil (empty ▸ readable)
  refine ⟨fst_turn_load readable, ⟨?_, text_turn_load readable⟩, unkept, ?_, ?_⟩
  · rintro held rfl
    rw [unkept rfl] at held
    exact text_after_ne_nil file history held
  · intro solid between later looks
    exact (sound.turn world .load).shows (text_turn_load readable solid) looks later
  · intro writer path output html css held
    exact Cli.analyze_unreadable_iff writer output html held

/-- A style sheet and an empty file. -/
def twoFiles : World :=
  ⟨⟨.folder [("a.css".toList, .file (Text.Utf8.encode "b{}".toList)),
    ("e.css".toList, .file [])], []⟩, [], [], []⟩

/-- A reader that held another text before. -/
theorem load_readable_twoFiles :
    let reader := (ofFile (some "a.css".toList)).after
      [(twoFiles, .setText (some "i{}".toList)), (twoFiles, .selectors)]
    let loaded := (reader.turn twoFiles .load).2
    fileText? reader.file twoFiles.disk = some "b{}".toList ∧ loaded.text = some "b{}".toList ∧
      (loaded.turn twoFiles .selectors).1 = .selectors (some ["b".toList]) := by
  have file : ((ofFile (some "a.css".toList)).after
      [(twoFiles, .setText (some "i{}".toList)), (twoFiles, .selectors)]).file =
      some "a.css".toList := by decide +kernel
  have readable : fileText? (some "a.css".toList) twoFiles.disk = some "b{}".toList := by
    decide +kernel
  rw [← file] at readable
  obtain ⟨-, held, -, shows, -⟩ := load_readable readable
  have listed : selectorsOf? "b{}".toList = some ["b".toList] := by decide +kernel
  refine ⟨readable, held.2 (by decide), ?_⟩
  rw [← listed]
  exact (shows (by decide) [] twoFiles (by simp)).2

/-- The empty file is loaded behind the style sheet: it is returned, and the text of the style sheet
stays. -/
theorem load_empty_file_keeps_text :
    let reader := (ofFile (some "a.css".toList)).after
      [(twoFiles, .load), (twoFiles, .setFile (some "e.css".toList))]
    (reader.turn twoFiles .load).1 = .text (some []) ∧
      (reader.turn twoFiles .load).2.text = some "b{}".toList ∧
      (Cli.analyze (Writer.create none none) (Path.ofText "e.css".toList) none none twoFiles).1 =
        .error (.unreadable "e.css".toList) :=
  ⟨rfl, by decide +kernel, rfl⟩

end Reader
end StyleScore
