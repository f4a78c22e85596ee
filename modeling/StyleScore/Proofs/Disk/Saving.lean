import StyleScore.Proofs.Disk.Place

/-!
What saving does to a disk, the folders it makes on the way included: no folder goes, no file but
the saved one comes or changes, whether or not saving succeeds, and what was saved is read back
(`save_spec`).
-/
namespace StyleScore

namespace FileTree

theorem get?_append {tree found : FileTree} {place : List Text}
    (there : tree.get? place = some found) (more : List Text) :
    tree.get? (place ++ more) = found.get? more := by
  induction place generalizing tree with
  | nil =>
    cases there
    rfl
  | cons name place ih =>
    cases tree with
    | file bytes => cases there
    | folder members =>
      obtain ⟨below, member, there⟩ := Option.bind_eq_some_iff.1 there
      rw [List.cons_append, get?, member, Option.bind_some, ih there]

theorem bare_file (bytes : List UInt8) : ∀ more, more ≠ [] → (file bytes).get? more = none
  | [], filled => absurd rfl filled
  | _ :: _, _ => rfl

theorem bare_folder : ∀ more, more ≠ [] → (folder []).get? more = none
  | [], filled => absurd rfl filled
  | _ :: _, _ => rfl

end FileTree

namespace Disk
open FileTree

/-- Folders stay, and the files are the same but for those at places that may change. -/
structure Keeps (mayChange : List Text → Prop) (before after : Disk) : Prop where
  home : after.workFolder = before.workFolder
  folders : ∀ place, before.tree.HasFolder place → after.tree.HasFolder place
  files : ∀ place bytes, ¬ mayChange place → before.tree.get? place = some (.file bytes) →
    after.tree.get? place = some (.file bytes)
  noneNew : ∀ place bytes, ¬ mayChange place → after.tree.get? place = some (.file bytes) →
    before.tree.get? place = some (.file bytes)

/-- Nothing that was there goes or changes, and no file comes. -/
abbrev Grows (before after : Disk) : Prop := Keeps (fun _ => False) before after

namespace Keeps

variable {mayChange other : List Text → Prop} {before between after : Disk} {path : Path}
    {place : List Text}

theorem refl (mayChange : List Text → Prop) (disk : Disk) : Keeps mayChange disk disk :=
  ⟨rfl, fun _ folder => folder, fun _ _ _ file => file, fun _ _ _ file => file⟩

theorem trans (first : Keeps mayChange before between) (second : Keeps mayChange between after) :
    Keeps mayChange before after where
  home := second.home.trans first.home
  folders place folder := second.folders place (first.folders place folder)
  files place bytes fixed file :=
    second.files place bytes fixed (first.files place bytes fixed file)
  noneNew place bytes fixed file :=
    first.noneNew place bytes fixed (second.noneNew place bytes fixed file)

theorem mono (keeps : Keeps mayChange before after)
    (weaker : ∀ place, mayChange place → other place) :
    Keeps other before after where
  home := keeps.home
  folders := keeps.folders
  files place bytes fixed := keeps.files place bytes fun changed => fixed (weaker place changed)
  noneNew place bytes fixed := keeps.noneNew place bytes fun changed => fixed (weaker place changed)

theorem get?_eq_file_iff (keeps : Keeps mayChange before after) (fixed : ¬ mayChange place)
    (bytes : List UInt8) :
    after.tree.get? place = some (.file bytes) ↔ before.tree.get? place = some (.file bytes) :=
  ⟨keeps.noneNew place bytes fixed, keeps.files place bytes fixed⟩

theorem sound (keeps : Keeps mayChange before after) (sound : before.Sound) : after.Sound := by
  unfold Sound
  rw [keeps.home]
  exact keeps.folders _ sound

theorem destination_eq (keeps : Keeps mayChange before after) (path : Path) :
    after.destination path = before.destination path := by
  rw [destination, destination, start, start, keeps.home]

/-- A path that led somewhere leads there still. -/
theorem place_eq (keeps : Keeps mayChange before after) (placed : before.place path = .ok place) :
    after.place path = .ok place := by
  obtain ⟨clean, located⟩ := place_eq_ok.1 placed
  refine place_eq_ok.2 ⟨clean, ?_⟩
  unfold locate at located ⊢
  rw [keeps.home]
  cases last : path.parts.getLast? with
  | none =>
    rw [last] at located
    exact located
  | some name =>
    rw [last] at located
    obtain ⟨folder, entered, same⟩ := map_eq_ok.1 located
    exact map_eq_ok.2 ⟨folder, enter_mono keeps.folders entered, same⟩

end Keeps

section Reading

variable {disk after : Disk} {path : Path} {bytes : List UInt8}

theorem at?_eq_ok {found : Option FileTree} :
    disk.at? path = .ok found ↔ ∃ place, disk.place path = .ok place ∧
      disk.tree.get? place = found := map_eq_ok

theorem read_eq_ok : disk.read path = .ok bytes ↔
    ∃ place, disk.place path = .ok place ∧ disk.tree.get? place = some (.file bytes) := by
  rw [← at?_eq_ok, read, bind_eq_ok]
  constructor
  · rintro ⟨found, there, taken⟩
    split at taken
    · cases taken
    · cases taken
    · cases taken
      exact there
  · intro there
    exact ⟨_, there, rfl⟩

/-- What is read is the file where the path leads to. -/
theorem get?_destination_of_read (sound : disk.Sound) (held : disk.read path = .ok bytes) :
    disk.tree.get? (disk.destination path) = some (.file bytes) := by
  obtain ⟨place, placed, file⟩ := read_eq_ok.1 held
  obtain ⟨rfl, -⟩ := locate_spec sound (place_eq_ok.1 placed).2
  exact file

/-- A file that may not change is read as before. -/
theorem Keeps.read_eq {mayChange : List Text → Prop} (keeps : Keeps mayChange disk after)
    (sound : disk.Sound) (fixed : ¬ mayChange (disk.destination path))
    (held : disk.read path = .ok bytes) :
    after.read path = .ok bytes := by
  obtain ⟨place, placed, file⟩ := read_eq_ok.1 held
  obtain ⟨rfl, -⟩ := locate_spec sound (place_eq_ok.1 placed).2
  exact read_eq_ok.2 ⟨_, keeps.place_eq placed, keeps.files _ _ fixed file⟩

end Reading

section Changing

variable {disk after : Disk} {path : Path} {place : List Text}

/-- What is put where no folder is stands there, and all else stays. -/
theorem keeps_put (sound : disk.Sound) (placed : disk.place path = .ok place)
    (free : ¬ disk.tree.HasFolder place) {new : FileTree}
    (bare : ∀ more, more ≠ [] → new.get? more = none) :
    Keeps (· = place) disk { disk with tree := disk.tree.put place new } ∧
      (disk.tree.put place new).get? place = some new := by
  obtain ⟨-, folder | ⟨folder, name, held, rfl⟩⟩ := locate_spec sound (place_eq_ok.1 placed).2
  · exact absurd folder free
  · have there := get?_put_into held name new
    refine ⟨⟨rfl, ?_, ?_, ?_⟩, there⟩
    · intro other folderToo
      exact folderToo.put new fun way => free (folderToo.above way)
    · intro other bytes differs file
      refine (get?_put_apart new ?_ ?_).trans file
      · intro way
        exact free (hasFolder_on_way file way (Ne.symm differs))
      · intro way
        -- The file would be one of the folders on the way to the new place.
        rcases List.prefix_concat_iff.1 way with same | way
        · exact differs same
        · obtain ⟨members, folderToo⟩ := held.above way
          cases folderToo.symm.trans file
    · intro other bytes differs file
      refine (get?_put_apart new ?_ ?_).symm.trans file
      · rintro ⟨more, rfl⟩
        have below := get?_append there more
        rw [bare more fun none => differs (by rw [none, List.append_nil])] at below
        cases below.symm.trans file
      · intro way
        obtain ⟨members, folderToo⟩ := hasFolder_on_way there way differs
        cases folderToo.symm.trans file

theorem grows_makeFolder (sound : disk.Sound) (made : disk.makeFolder path = .ok after) :
    Grows disk after := by
  obtain ⟨place, placed, made⟩ := bind_eq_ok.1 made
  split at made
  · cases made
  · next nothing =>
    cases made
    have free : ¬ disk.tree.HasFolder place := by
      rintro ⟨members, folder⟩
      cases nothing.symm.trans folder
    obtain ⟨keeps, there⟩ := keeps_put sound placed free bare_folder
    refine ⟨rfl, keeps.folders, ?_, ?_⟩
    · intro other bytes _ file
      refine keeps.files other bytes ?_ file
      rintro rfl
      cases nothing.symm.trans file
    · intro other bytes _ file
      refine keeps.noneNew other bytes ?_ file
      rintro rfl
      cases there.symm.trans file

theorem grows_ensureFolder (sound : disk.Sound) (path : Path) :
    Grows disk (disk.ensureFolder path).2 := by
  unfold ensureFolder
  split
  · next made => exact grows_makeFolder sound made
  · exact Keeps.refl _ disk
  · exact Keeps.refl _ disk

theorem grows_ensureFoldersWithin (sound : disk.Sound) (path : Path) (above : Nat) :
    Grows disk (disk.ensureFoldersWithin path above).2 := by
  induction above generalizing path with
  | zero => exact grows_ensureFolder sound path
  | succ above ih =>
    unfold ensureFoldersWithin
    split
    · have first := ih path.parent
      split
      · next between ensured =>
        rw [ensured] at first
        exact first.trans (grows_ensureFolder (first.sound sound) path)
      · exact first
    · exact grows_ensureFolder sound path

/-- The bytes of the file at a place; none where no file is. -/
def held (disk : Disk) (place : List Text) : List UInt8 :=
  match disk.tree.get? place with
  | some (.file bytes) => bytes
  | _ => []

theorem held_of_file {bytes : List UInt8} (file : disk.tree.get? place = some (.file bytes)) :
    disk.held place = bytes := by
  rw [held, file]

/-- A file that may not change holds what it held. -/
theorem Keeps.held_eq {mayChange : List Text → Prop} {before : Disk}
    (keeps : Keeps mayChange before after) (fixed : ¬ mayChange place) :
    after.held place = before.held place := by
  have same := keeps.get?_eq_file_iff fixed
  by_cases file : ∃ bytes, before.tree.get? place = some (.file bytes)
  · obtain ⟨bytes, file⟩ := file
    rw [held_of_file file, held_of_file ((same bytes).2 file)]
  · have none {disk : Disk} (none : ¬∃ bytes, disk.tree.get? place = some (.file bytes)) :
        disk.held place = [] := by
      unfold held
      split
      · next bytes found => exact absurd ⟨bytes, found⟩ none
      · rfl
    rw [none file, none fun found => file (found.imp fun bytes => (same bytes).1)]

/-- Updating a file changes no other, and what is read then comes from what the file was. -/
theorem update_spec (sound : disk.Sound) {change : List UInt8 → List UInt8}
    (updated : disk.update path change = .ok after) :
    Keeps (· = disk.destination path) disk after ∧
      after.read path = .ok (change (disk.held (disk.destination path))) := by
  obtain ⟨place, placed, updated⟩ := bind_eq_ok.1 updated
  obtain ⟨rfl, -⟩ := locate_spec sound (place_eq_ok.1 placed).2
  have step (free : ¬ disk.tree.HasFolder (disk.destination path)) {old : List UInt8}
      (was : disk.held (disk.destination path) = old)
      (same : .ok { disk with tree := disk.tree.put (disk.destination path) (.file (change old)) } =
        (.ok after : Except Error Disk)) :
      Keeps (· = disk.destination path) disk after ∧
        after.read path = .ok (change (disk.held (disk.destination path))) := by
    cases same
    obtain ⟨keeps, there⟩ := keeps_put sound placed free (bare_file (change old))
    rw [was]
    exact ⟨keeps, read_eq_ok.2 ⟨_, keeps.place_eq placed, there⟩⟩
  split at updated
  · cases updated
  · next bytes file =>
    refine step ?_ (held_of_file file) updated
    rintro ⟨members, folder⟩
    cases file.symm.trans folder
  · next nothing =>
    refine step ?_ (by rw [held, nothing]) updated
    rintro ⟨members, folder⟩
    cases nothing.symm.trans folder

theorem appendText_spec {text : Text} (sound : disk.Sound)
    (added : disk.appendText path text = .ok after) :
    Keeps (· = disk.destination path) disk after ∧
      after.held (disk.destination path) = disk.held (disk.destination path) ++
        Text.Utf8.encode text := by
  obtain ⟨keeps, read⟩ := update_spec sound added
  have file := get?_destination_of_read (keeps.sound sound) read
  rw [keeps.destination_eq] at file
  exact ⟨keeps, held_of_file file⟩

/-- Whether a file takes what is added to it does not depend on what that is. -/
theorem appendText_of_error {text : Text} {e : Error}
    (refused : disk.appendText path text = .error e) (other : Text) :
    disk.appendText path other = .error e := by
  rcases bind_eq_error.1 refused with misplaced | ⟨place, placed, refused⟩
  · exact bind_eq_error.2 (.inl misplaced)
  · refine bind_eq_error.2 (.inr ⟨place, placed, ?_⟩)
    split at refused
    · exact refused
    · cases refused
    · cases refused

/-- Saving changes no file but the one it saves, and if it succeeds, the text is read back. -/
theorem save_spec (sound : disk.Sound) (path : Path) (text : Text) :
    Keeps (· = disk.destination path) disk (disk.save path text).2 ∧
      ((disk.save path text).1 = .ok () →
        (disk.save path text).2.read path = .ok (Text.Utf8.encode text)) := by
  have first : Keeps (· = disk.destination path) disk _ :=
    (grows_ensureFoldersWithin sound path.parent path.parent.parts.length).mono fun _ impossible =>
      impossible.elim
  unfold save ensureFolders
  split
  · next between ensured =>
    rw [ensured] at first
    split
    · next written =>
      obtain ⟨second, there⟩ := update_spec (first.sound sound) written
      rw [first.destination_eq] at second
      exact ⟨first.trans second, fun _ => there⟩
    · refine ⟨first, ?_⟩
      intro impossible
      cases impossible
  · next failure =>
    refine ⟨first, ?_⟩
    intro success
    exact (failure _ (Prod.ext success rfl)).elim

end Changing
end Disk
end StyleScore
