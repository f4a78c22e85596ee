import StyleScore.Cli.Run
import StyleScore.Proofs.Cli.Label
import StyleScore.Proofs.Disk.Place

/-!
Where the reports of a run go. The data on several style sheets goes to files in one folder, whose
names all start in the same way and go on with a label. A label that already ends in the name of the
default output is used as it stands, and any other one gets that name as its ending: so the files
are different, except where one label is another one with the ending behind it (`dataPath_eq_iff`).
-/
namespace StyleScore

namespace Path

/-- What is added behind a text without a slash lengthens its last piece. -/
theorem exists_splitAt_append (lead : Text) :
    ∃ front last, ∀ name, '/' ∉ name →
      Text.splitAt '/' (lead ++ name) = front ++ [last ++ name] := by
  obtain ⟨front, last, cut⟩ := Text.exists_splitAt_concat '/' lead
  exact ⟨front, last, fun name free => Text.splitAt_append cut (Text.splitAt_of_not_mem free)⟩

theorem root_append (lead : Text) {name : Text} (free : '/' ∉ name) :
    Root.ofText (lead ++ name) = Root.ofText lead := by
  have first : ∀ rest, name ≠ '/' :: rest := by
    rintro rest rfl
    exact free List.mem_cons_self
  match lead with
  | [] => simp [Root.ofText, first]
  | [a] =>
    by_cases slash : a = '/'
    · subst slash
      simp [Root.ofText, first]
    · simp [Root.ofText, slash]
  | [a, b] =>
    by_cases slash : a = '/' <;> by_cases slashToo : b =
      '/' <;> simp [Root.ofText, slash, slashToo, first]
  | a :: b :: c :: lead =>
    by_cases slash : a = '/' <;> by_cases slashToo : b = '/' <;> by_cases slashThree : c = '/' <;>
      simp [Root.ofText, slash, slashToo, slashThree]

/-- A part that has anything but dots is neither empty nor one of the parts that stay or lead up. -/
theorem solid_of_mem {part : Text} {c : Char} (member : c ∈ part) (solid : c ≠ '.') :
    part ≠ [] ∧ part ≠ here ∧ part ≠ up := by
  refine ⟨?_, ?_, ?_⟩
  · rintro rfl
    cases member
  · rintro rfl
    simp [here, solid] at member
  · rintro rfl
    simp [up, solid] at member

/-- Texts that start in the same way and go on without a slash name paths that differ in the last
part only. -/
theorem exists_ofText_append (lead : Text) :
    ∃ front last, ∀ name, '/' ∉ name → ∀ c ∈ name, c ≠ '.' →
      ofText (lead ++ name) = ⟨Root.ofText lead, front ++ [last ++ name]⟩ := by
  obtain ⟨front, last, cut⟩ := exists_splitAt_append lead
  refine ⟨front.filter fun part => part ≠ [] ∧ part ≠ here, last,
    fun name free c member solid => ?_⟩
  obtain ⟨filled, moves, -⟩ := solid_of_mem (List.mem_append_right last member) solid
  rw [ofText, cut name free, root_append lead free, List.filter_append, List.filter_singleton,
    decide_eq_true (And.intro filled moves)]
  rfl

end Path

namespace Disk

/-- Paths that differ in the last part lead to different places, unless that part leads up. -/
theorem destination_inj (disk : Disk) (root : Path.Root) (front : List Text) {name other : Text}
    (down : name ≠ Path.up) (downToo : other ≠ Path.up) :
    disk.destination ⟨root, front ++ [name]⟩ = disk.destination ⟨root, front ++ [other]⟩ ↔
      name = other := by
  simp [destination, start, Path.step, down, downToo]

end Disk

namespace Cli

/-- Where the data on a style sheet goes, when there are `count` of them. -/
def dataPath (options : Options) (count : Nat) (labels : List (Path × Text)) (path : Path) : Path :=
  (Writer.create none none).outputPath (outputName options count (labelOf labels path))

/-- What stands in front of every label: the name asked for and a dot, if there is one. -/
def leadOf (options : Options) : Text :=
  match options.output.filter (· ≠ []) with
  | some output => output ++ ['.']
  | none => []

/-- A label with the ending of data, unless the name has that ending already. -/
def ended (lead label : Text) : Text :=
  if Text.endsWith (lead ++ label) Writer.standardName then label else label ++
    '.' :: Writer.standardName

/-- The second label is the first one with the ending that the first one gets. -/
def Shadows (lead label other : Text) : Prop :=
  Text.endsWith (lead ++ label) Writer.standardName = false ∧
  other = label ++ '.' :: Writer.standardName

section Names

variable {lead label other : Text}

theorem ended_eq_iff (differs : label ≠ other) :
    ended lead label = ended lead other ↔ Shadows lead label other ∨ Shadows lead other label := by
  have final : ∀ text,
      Text.endsWith (lead ++ (text ++ '.' :: Writer.standardName)) Writer.standardName = true := by
    intro text
    exact Text.endsWith_iff.2 ⟨lead ++ text ++ ['.'], by simp⟩
  unfold ended Shadows
  cases own : Text.endsWith (lead ++ label) Writer.standardName with
  | true =>
    cases ownToo : Text.endsWith (lead ++ other) Writer.standardName with
    | true => simp [differs]
    | false => simp
  | false =>
    cases ownToo : Text.endsWith (lead ++ other) Writer.standardName with
    | true => simp [eq_comm]
    | false =>
      simp only [Bool.false_eq_true, if_false, true_and, List.append_cancel_right_eq, differs,
        false_iff, not_or]
      constructor
      · rintro rfl
        cases (final label).symm.trans ownToo
      · rintro rfl
        cases (final other).symm.trans own

theorem slash_not_mem_ended (name : IsName label) : '/' ∉ ended lead label := by
  unfold ended
  split
  · exact name.2
  · intro slash
    rcases List.mem_append.1 slash with own | ending
    · exact name.2 own
    · exact absurd ending (by decide)

theorem mem_ended (name : IsName label) : 'n' ∈ ended lead label := by
  unfold ended
  split
  · next final =>
    obtain ⟨before, whole⟩ := Text.endsWith_iff.1 final
    have last : (lead ++ label).getLast? = some 'n' := by
      rw [← whole, List.getLast?_append]
      rfl
    rw [List.getLast?_append_of_ne_nil lead name.1] at last
    exact List.mem_of_getLast? last
  · exact List.mem_append_right label (by decide)

end Names

section Data

variable {options : Options} {count : Nat} {labels : List (Path × Text)} {path other : Path}

theorem dataPath_eq (several : count ≠ 1) (name : IsName (labelOf labels path)) :
    dataPath options count labels path =
      Path.ofText (leadOf options ++ ended (leadOf options) (labelOf labels path)) := by
  have named : outputName options count (labelOf labels path) =
      some (leadOf options ++ labelOf labels path) := by
    unfold outputName leadOf
    rw [if_neg several]
    cases options.output.filter (· ≠ []) <;> simp
  have kept : (some (leadOf options ++ labelOf labels path)).filter (· ≠ []) =
      some (leadOf options ++ labelOf labels path) := by
    simp [Option.filter, name.1]
  rw [dataPath, named, Writer.outputPath, kept]
  unfold ended
  change (if Text.endsWith _ Writer.standardName = true then _ else _) = _
  split
  · rfl
  · exact congrArg Path.ofText (List.append_assoc ..)

/-- The data under two different labels goes to one place exactly where one label shadows the
other. -/
theorem destination_dataPath_eq_iff (options : Options) (several : count ≠ 1)
    (name : IsName (labelOf labels path)) (nameToo : IsName (labelOf labels other))
    (differs : labelOf labels path ≠ labelOf labels other) (disk : Disk) :
    (disk.destination (dataPath options count labels path) =
      disk.destination (dataPath options count labels other) ↔
        Shadows (leadOf options) (labelOf labels path) (labelOf labels other) ∨
          Shadows (leadOf options) (labelOf labels other) (labelOf labels path)) ∧
      (dataPath options count labels path = dataPath options count labels other ↔
        disk.destination (dataPath options count labels path) =
          disk.destination (dataPath options count labels other)) := by
  obtain ⟨front, last, spelled⟩ := Path.exists_ofText_append (leadOf options)
  have tip {label : Text} (name : IsName label) : last ++ ended (leadOf options) label ≠ Path.up :=
    (Path.solid_of_mem (List.mem_append_right last (mem_ended name)) (by decide)).2.2
  rw [dataPath_eq several name, dataPath_eq several nameToo,
    spelled _ (slash_not_mem_ended name) 'n' (mem_ended name) (by decide),
    spelled _ (slash_not_mem_ended nameToo) 'n' (mem_ended nameToo) (by decide),
    Disk.destination_inj _ _ _ (tip name) (tip nameToo), List.append_cancel_left_eq,
    ended_eq_iff differs]
  refine ⟨Iff.rfl, ?_⟩
  rw [← ended_eq_iff differs]
  simp

end Data

/-- The data on two of several style sheets goes to one path, and so to one file on any disk,
exactly where the label of one is the label of the other with the ending behind it that the other
one gets. -/
theorem dataPath_eq_iff {workFolder : List Text} {paths : List Path} {entries : List (Path × Text)}
    (options : Options) (plain : ∀ path ∈ paths, path.IsPlain) (distinct : paths.Nodup)
    (labelled : labels workFolder paths = .ok entries) :
    ∀ path ∈ paths, ∀ other ∈ paths, path ≠ other →
      (dataPath options paths.length entries path = dataPath options paths.length entries other ↔
        Shadows (leadOf options) (labelOf entries path) (labelOf entries other) ∨
          Shadows (leadOf options) (labelOf entries other) (labelOf entries path)) ∧
      ∀ disk : Disk, disk.destination (dataPath options paths.length entries path) =
          disk.destination (dataPath options paths.length entries other) ↔
        dataPath options paths.length entries path =
          dataPath options paths.length entries other := by
  intro path member other memberToo differs
  obtain ⟨names, apart⟩ := labels_spec plain distinct labelled
  have several : paths.length ≠ 1 := by
    intro single
    obtain ⟨only, rfl⟩ := List.length_eq_one_iff.1 single
    exact differs ((List.mem_singleton.1 member).trans (List.mem_singleton.1 memberToo).symm)
  have both :=
    destination_dataPath_eq_iff options several (names path member) (names other memberToo)
    fun same => differs (apart path member other memberToo same)
  exact ⟨(both ⟨.folder [], []⟩).2.trans (both _).1, fun disk => (both disk).2.symm⟩

/-- A path as seen from the working folder. -/
def relativePath (parts : List String) : Path := ⟨.relative, parts.map String.toList⟩

/-- Options with a name for the output. -/
def namedOutput (name : String) : Options := ⟨[], some name.toList, none, none, false⟩

/-- Two paths with one base label: the second label is numbered, and the data on both is kept. -/
theorem dataPath_ne_site :
    ∃ entries,
      labels ["work".toList] [relativePath ["x", "site.css"], relativePath ["x.site.css"]] =
        .ok entries ∧
      labelOf entries (relativePath ["x", "site.css"]) = "x.site".toList ∧
      labelOf entries (relativePath ["x.site.css"]) = "x.site-2".toList ∧
      dataPath (namedOutput "out/p") 2 entries (relativePath ["x", "site.css"]) ≠
        dataPath (namedOutput "out/p") 2 entries (relativePath ["x.site.css"]) := by
  let entries :=
    [(relativePath ["x", "site.css"], "x.site".toList),
      (relativePath ["x.site.css"], "x.site-2".toList)]
  have plain : ∀ path ∈ [relativePath ["x", "site.css"], relativePath ["x.site.css"]],
      path.IsPlain := by
    unfold Path.IsPlain
    decide
  have labelled :
      labels ["work".toList] [relativePath ["x", "site.css"], relativePath ["x.site.css"]] =
        .ok entries :=
    eq_ok_of_toOption (by decide +kernel)
  refine ⟨entries, labelled, by decide, by decide, ?_⟩
  have same := (dataPath_eq_iff (namedOutput "out/p") plain (by decide) labelled
    (relativePath ["x", "site.css"]) (by simp) (relativePath ["x.site.css"]) (by simp)
    (by decide)).1
  intro impossible
  rcases same.1 impossible with ⟨-, shadow⟩ | ⟨-, shadow⟩
  · exact absurd shadow (by decide)
  · exact absurd shadow (by decide)

/-- A style sheet whose name ends in the name of the default output: the data on it goes where the
data on the style sheet with the shorter name goes. -/
theorem dataPath_shadowed :
    relativePath ["a.css"] ≠ relativePath ["a.complexity.json.css"] ∧
    ∃ entries, labels [] [relativePath ["a.css"], relativePath ["a.complexity.json.css"]] =
      .ok entries ∧
      dataPath (namedOutput "p") 2 entries (relativePath ["a.css"]) =
        dataPath (namedOutput "p") 2 entries (relativePath ["a.complexity.json.css"]) := by
  refine ⟨by decide, [(relativePath ["a.css"], "a".toList),
    (relativePath ["a.complexity.json.css"], "a.complexity.json".toList)],
    eq_ok_of_toOption (by decide +kernel), ?_⟩
  decide

end Cli
end StyleScore
