import Mathlib.Data.Char
import Mathlib.Data.List.Lex
import Mathlib.Data.List.Sort
import StyleScore.Disk.Listing
import StyleScore.Proofs.Disk.Saving
import StyleScore.Proofs.Text.Search

/-!
Which files a folder is expanded to. A file below a folder is listed exactly if its name ends in one
of the endings and no name on the way to it is hidden (`mem_listedBelow`), and it is listed once
(`nodup_listedBelow`). Paths are compared by the lexicographic order of lists, once for the parts
and once for the characters of a part (`partsLt_iff`), so the files stand in that order, however the
folders list their members (`filesByEnding_exact`). Every folder of a disk can be listed; a folder
that may not be opened has no counterpart here.
-/
namespace StyleScore

/-! ### The order of paths -/

theorem Text.lt_iff (s t : Text) : Text.lt s t = true ↔ s < t := by
  fun_induction Text.lt s t with
  | case1 => simp
  | case2 => simp
  | case3 a s b t ih => simp [List.cons_lt_cons_iff, ih, Char.lt_def]

namespace Path

theorem partsLt_iff (a b : List Text) : partsLt a b = true ↔ a < b := by
  fun_induction partsLt a b with
  | case1 => simp
  | case2 => simp
  | case3 a s b t ih => simp [List.cons_lt_cons_iff, ih, Text.lt_iff]

theorem not_partsLt (a b : List Text) : (!partsLt b a) = decide (a ≤ b) := by
  rw [Bool.eq_iff_iff, Bool.not_eq_true', ← Bool.not_eq_true, partsLt_iff,
    decide_eq_true_eq, not_lt]

/-- Different places are sorted into strictly increasing order. -/
theorem pairwise_sorted {places : List (List Text)} (distinct : places.Nodup) :
    (places.mergeSort fun a b => !partsLt b a).Pairwise (· < ·) := by
  simp only [not_partsLt]
  have sorted := List.pairwise_mergeSort' (· ≤ ·) places
  have distinct := (List.mergeSort_perm places fun a b => decide (a ≤ b)).nodup_iff.2 distinct
  exact (sorted.and distinct).imp fun order => lt_of_le_of_ne order.1 order.2

end Path

namespace Fields

variable {κ α : Type} [DecidableEq κ] {fields : List (κ × α)} {name : κ}

theorem get?_eq_some_iff {value : α} (distinct : (fields.map Prod.fst).Nodup) :
    get? name fields = some value ↔ (name, value) ∈ fields := by
  induction fields with
  | nil => simp [get?]
  | cons field fields ih =>
    obtain ⟨first, own⟩ := field
    obtain ⟨fresh, others⟩ := List.nodup_cons.1 distinct
    by_cases same : first = name
    · subst same
      have absent : (first, value) ∉ fields := fun later => fresh (List.mem_map.2 ⟨_, later, rfl⟩)
      simp [get?, absent, eq_comm]
    · simp [get?, same, Ne.symm same, ih others]

end Fields

namespace FileTree

variable {tree other found : FileTree} {members others : List (Text × FileTree)}
    {endings names place : List Text}
  {name : Text}

/-- No folder has two members of one name. -/
def NamesApart (tree : FileTree) : Prop :=
  ∀ place members, tree.get? place = some (.folder members) → (members.map Prod.fst).Nodup

theorem NamesApart.nodup (apart : (folder members).NamesApart) : (members.map Prod.fst).Nodup :=
  apart [] members rfl

theorem NamesApart.below (apart : tree.NamesApart) (there : tree.get? place = some found) :
    found.NamesApart := by
  intro more members held
  apply apart (place ++ more) members
  rw [get?_append there, held]

theorem NamesApart.of_mem (apart : (folder members).NamesApart) (member : (name, tree) ∈ members) :
    tree.NamesApart := by
  have there : (folder members).get? [name] = some tree := by
    rw [get?, (Fields.get?_eq_some_iff apart.nodup).2 member]
    rfl
  exact apart.below there

theorem namesApart_file (bytes : List UInt8) : (file bytes).NamesApart := by
  intro place members there
  cases place <;> cases there

theorem namesApart_folder (distinct : (members.map Prod.fst).Nodup)
    (each : ∀ member ∈ members, member.2.NamesApart) :
    (folder members).NamesApart := by
  intro place inner there
  cases place with
  | nil =>
    cases there
    exact distinct
  | cons name place =>
    obtain ⟨below, member, there⟩ := Option.bind_eq_some_iff.1 there
    exact each _ ((Fields.get?_eq_some_iff distinct).1 member) place inner there

/-! ### Which files are listed -/

/-- The names lead to a file, none of them is hidden, and the last ends in one of the endings,
whatever the case of the letters. -/
structure Offers (endings : List Text) (tree : FileTree) (names : List Text) : Prop where
  file : ∃ bytes, tree.get? names = some (.file bytes)
  shown : ∀ name ∈ names, name.head? ≠ some '.'
  fits : ∃ name ∈ names.getLast?, ∃ ending ∈ endings, Text.lower ending <:+ Text.lower name

theorem isHiddenName_eq_false_iff : Path.isHiddenName name = false ↔ name.head? ≠ some '.' := by
  rw [Path.isHiddenName, ← Bool.not_eq_true, Text.startsWith_iff]
  cases name <;> simp [eq_comm]

theorem hasEnding_iff :
    Path.hasEnding endings name = true ↔
      ∃ ending ∈ endings, Text.lower ending <:+ Text.lower name := by
  simp only [Path.hasEnding, List.any_eq_true, Text.endsWith_iff]

theorem mem_listed :
    names ∈ listed endings name tree ↔ Path.isHiddenName name = false ∧
      ∃ rest, names = name :: rest ∧
    (rest = [] ∧ tree.isFolder = false ∧ Path.hasEnding endings name = true ∨
      rest ∈ listedBelow endings tree) := by
  cases tree with
  | file bytes =>
    rw [listed]
    cases Path.isHiddenName name <;> cases Path.hasEnding endings name <;> simp [listedBelow,
      isFolder]
  | folder members =>
    rw [listed]
    cases Path.isHiddenName name <;> simp [listedBelow, isFolder, and_comm, @eq_comm _ _ names]

theorem mem_listedOf :
    names ∈ listedOf endings members ↔
      ∃ member ∈ members, names ∈ listed endings member.1 member.2 := by
  induction members with
  | nil => simp [listedOf]
  | cons member members ih => simp [listedOf, ih]

theorem not_offers_nil : ¬ Offers endings tree [] := by
  rintro ⟨-, -, name, last, -⟩
  cases last

/-- A folder offers the files of a member that is not hidden, and the member itself if it is a
fitting file. -/
theorem offers_cons_iff : Offers endings (folder members) (name :: names) ↔
    ∃ below, Fields.get? name members = some below ∧ Path.isHiddenName name = false ∧
      (names = [] ∧ below.isFolder = false ∧ Path.hasEnding endings name = true ∨
        Offers endings below names) := by
  rw [isHiddenName_eq_false_iff, hasEnding_iff]
  constructor
  · rintro ⟨⟨bytes, there⟩, shown, fits⟩
    obtain ⟨below, member, there⟩ := Option.bind_eq_some_iff.1 there
    obtain ⟨own, others⟩ := List.forall_mem_cons.1 shown
    refine ⟨below, member, own, ?_⟩
    cases names with
    | nil =>
      cases there
      exact .inl ⟨rfl, rfl, by simpa using fits⟩
    | cons next names => exact .inr ⟨⟨bytes, there⟩, others, by simpa using fits⟩
  · rintro ⟨below, member, own, ⟨rfl, plain, fits⟩ | ⟨⟨bytes, there⟩, shown, fits⟩⟩
    · cases below with
      | folder inner => cases plain
      | file bytes =>
        refine ⟨⟨bytes, Option.bind_eq_some_iff.2 ⟨_, member, rfl⟩⟩, ?_, by simpa using fits⟩
        exact List.forall_mem_singleton.2 own
    · refine ⟨⟨bytes, Option.bind_eq_some_iff.2 ⟨_, member, there⟩⟩,
        List.forall_mem_cons.2 ⟨own, shown⟩, ?_⟩
      obtain ⟨last, tip, fits⟩ := fits
      refine ⟨last, ?_, fits⟩
      rw [List.getLast?_cons, tip]
      rfl

/-- Exactly the files on offer are listed. -/
theorem mem_listedBelow (apart : tree.NamesApart) :
    names ∈ listedBelow endings tree ↔ Offers endings tree names := by
  -- By induction on the names and not on the tree: each name leads to one member at most.
  induction names generalizing tree with
  | nil =>
    refine iff_of_false ?_ not_offers_nil
    cases tree with
    | file bytes => exact List.not_mem_nil
    | folder members =>
      intro inside
      obtain ⟨member, -, listed⟩ := mem_listedOf.1 inside
      obtain ⟨-, rest, impossible, -⟩ := mem_listed.1 listed
      cases impossible
  | cons name names ih =>
    cases tree with
    | file bytes =>
      refine iff_of_false List.not_mem_nil ?_
      rintro ⟨⟨bytes, there⟩, -, -⟩
      cases there
    | folder members =>
      rw [listedBelow, mem_listedOf, offers_cons_iff]
      constructor
      · rintro ⟨⟨_, below⟩, inside, listed⟩
        obtain ⟨shown, rest, same, found⟩ := mem_listed.1 listed
        obtain ⟨rfl, rfl⟩ := List.cons.inj same
        refine ⟨below, (Fields.get?_eq_some_iff apart.nodup).2 inside, shown, ?_⟩
        exact found.imp_right (ih (apart.of_mem inside)).1
      · rintro ⟨below, member, shown, found⟩
        have inside := (Fields.get?_eq_some_iff apart.nodup).1 member
        refine ⟨_, inside, mem_listed.2 ⟨shown, names, rfl, ?_⟩⟩
        exact found.imp_right (ih (apart.of_mem inside)).2

mutual

theorem nodup_listed (endings : List Text) (name : Text) :
    (tree : FileTree) → tree.NamesApart → (listed endings name tree).Nodup
  | file bytes, _ => by
    rw [listed]
    split
    · exact List.nodup_nil
    · split
      · exact List.nodup_singleton _
      · exact List.nodup_nil
  | folder members, apart => by
    rw [listed]
    split
    · exact List.nodup_nil
    · have below :=
        nodup_listedOf endings members apart.nodup fun member inside => apart.of_mem inside
      exact below.map fun a b same => (List.cons.inj same).2

theorem nodup_listedOf (endings : List Text) :
    (members : List (Text × FileTree)) → (members.map Prod.fst).Nodup →
      (∀ member ∈ members, member.2.NamesApart) →
      (listedOf endings members).Nodup
  | [], _, _ => List.nodup_nil
  | (name, tree) :: members, distinct, each => by
    obtain ⟨fresh, distinct⟩ := List.nodup_cons.1 distinct
    obtain ⟨own, each⟩ := List.forall_mem_cons.1 each
    refine List.nodup_append'.2 ⟨nodup_listed endings name tree own,
      nodup_listedOf endings members distinct each, ?_⟩
    -- What is listed for a member starts with its name, so two members list nothing in common.
    intro names first later
    obtain ⟨-, rest, rfl, -⟩ := mem_listed.1 first
    obtain ⟨member, inside, listed⟩ := mem_listedOf.1 later
    obtain ⟨-, restToo, same, -⟩ := mem_listed.1 listed
    apply fresh
    exact List.mem_map.2 ⟨member, inside, (List.cons.inj same).1.symm⟩

end

theorem nodup_listedBelow (endings : List Text) (apart : tree.NamesApart) :
    (listedBelow endings tree).Nodup := by
  cases tree with
  | file bytes => exact List.nodup_nil
  | folder members =>
    exact nodup_listedOf endings members apart.nodup fun member inside => apart.of_mem inside

/-! ### The order in which folders list their members -/

/-- The same files and folders, with the members of each folder in any order. -/
inductive Rearranged : FileTree → FileTree → Prop where
  | file (bytes : List UInt8) : Rearranged (file bytes) (file bytes)
  | folder {members others : List (Text × FileTree)}
      (names : (members.map Prod.fst).Perm (others.map Prod.fst))
      (each : ∀ name tree other, (name, tree) ∈ members → (name, other) ∈ others →
        Rearranged tree other) :
      Rearranged (folder members) (folder others)

theorem Rearranged.refl : (tree : FileTree) → tree.NamesApart → Rearranged tree tree
  | .file bytes, _ => .file bytes
  | .folder members, apart => by
    refine .folder (List.Perm.refl _) ?_
    intro name tree other inside insideToo
    cases List.inj_on_of_nodup_map apart.nodup inside insideToo rfl
    exact Rearranged.refl tree (apart.of_mem inside)
  termination_by tree => sizeOf tree
  decreasing_by
    have smaller := List.sizeOf_lt_of_mem inside
    simp only [Prod.mk.sizeOf_spec, folder.sizeOf_spec] at smaller ⊢
    omega

/-- A folder may list its members in any order. -/
theorem rearranged_of_perm (apart : (folder members).NamesApart) (perm : members.Perm others) :
    Rearranged (folder members) (folder others) := by
  refine .folder (perm.map Prod.fst) ?_
  intro name tree other inside insideToo
  cases List.inj_on_of_nodup_map apart.nodup inside (perm.mem_iff.2 insideToo) rfl
  exact .refl tree (apart.of_mem inside)

theorem Rearranged.symm (same : Rearranged tree other) : Rearranged other tree := by
  induction same with
  | file bytes => exact .file bytes
  | folder names each ih =>
    refine .folder names.symm ?_
    intro name tree other inside insideToo
    exact ih name other tree insideToo inside

theorem exists_other_member {tree : FileTree}
    (names : (members.map Prod.fst).Perm (others.map Prod.fst)) (inside : (name, tree) ∈ members) :
    ∃ other, (name, other) ∈ others := by
  obtain ⟨⟨_, other⟩, insideToo, rfl⟩ :=
    List.mem_map.1 (names.mem_iff.1 (List.mem_map.2 ⟨_, inside, rfl⟩))
  exact ⟨other, insideToo⟩

theorem Rearranged.apart (same : Rearranged tree other) (apart : tree.NamesApart) :
    other.NamesApart := by
  induction same with
  | file bytes => exact apart
  | @folder members others names each ih =>
    refine namesApart_folder (names.nodup_iff.1 apart.nodup) ?_
    rintro ⟨name, other⟩ inside
    obtain ⟨tree, insideToo⟩ := exists_other_member names.symm inside
    exact ih name tree other insideToo inside (apart.of_mem insideToo)

/-- What a tree holds at a place, a rearranged one holds there too, up to rearranging. -/
theorem Rearranged.exists_get? (same : Rearranged tree other) (apart : tree.NamesApart)
    (there : tree.get? place = some found) : ∃ also, other.get? place = some also ∧
      Rearranged found also := by
  induction place generalizing tree other with
  | nil =>
    cases there
    exact ⟨other, rfl, same⟩
  | cons name place ih =>
    cases same with
    | file bytes => cases there
    | folder names each =>
      obtain ⟨below, member, there⟩ := Option.bind_eq_some_iff.1 there
      have inside := (Fields.get?_eq_some_iff apart.nodup).1 member
      obtain ⟨belowToo, insideToo⟩ := exists_other_member names inside
      obtain ⟨also, thereToo, again⟩ :=
        ih (each name below belowToo inside insideToo) (apart.of_mem inside) there
      have memberToo := (Fields.get?_eq_some_iff (names.nodup_iff.1 apart.nodup)).2 insideToo
      exact ⟨also, Option.bind_eq_some_iff.2 ⟨belowToo, memberToo, thereToo⟩, again⟩

theorem Rearranged.offers (same : Rearranged tree other) (apart : tree.NamesApart)
    (offers : Offers endings tree names) :
    Offers endings other names := by
  obtain ⟨⟨bytes, there⟩, shown, fits⟩ := offers
  obtain ⟨also, thereToo, again⟩ := same.exists_get? apart there
  cases again
  exact ⟨⟨bytes, thereToo⟩, shown, fits⟩

end FileTree

/-! ### What a folder is expanded to -/

namespace Disk
open FileTree

variable {disk other : Disk} {base place : Path} {endings : List Text}

/-- Something is at the place, and the names lead from there to a file on offer. -/
def Offers (disk : Disk) (endings place names : List Text) : Prop :=
  ∃ found, disk.tree.get? place = some found ∧ found.Offers endings names

theorem Offers.rearranged {place names : List Text} (offers : disk.Offers endings place names)
    (apart : disk.tree.NamesApart) (same : Rearranged disk.tree other.tree) :
    other.Offers endings place names := by
  obtain ⟨found, there, offers⟩ := offers
  obtain ⟨also, thereToo, again⟩ := same.exists_get? apart there
  exact ⟨also, thereToo, again.offers (apart.below there) offers⟩

/-- The places of the files that are listed below a place, as they are found. -/
def foundBelow (disk : Disk) (endings place : List Text) : List (List Text) :=
  (((disk.tree.get? place).map (listedBelow endings)).getD []).map (place ++ ·)

theorem mem_foundBelow (apart : disk.tree.NamesApart) (place parts : List Text) :
    parts ∈ disk.foundBelow endings place ↔ ∃ names, parts = place ++ names ∧
      disk.Offers endings place names := by
  unfold foundBelow Offers
  cases there : disk.tree.get? place with
  | none => simp
  | some found => simp [mem_listedBelow (apart.below there), and_comm, eq_comm]

theorem nodup_foundBelow (apart : disk.tree.NamesApart) (endings place : List Text) :
    (disk.foundBelow endings place).Nodup := by
  unfold foundBelow
  cases there : disk.tree.get? place with
  | none => exact List.nodup_nil
  | some found =>
    exact (nodup_listedBelow endings (apart.below there)).map (List.append_right_injective place)

/-- The places of the files in order. -/
def sortedBelow (disk : Disk) (endings place : List Text) : List (List Text) :=
  (disk.foundBelow endings place).mergeSort fun a b => !Path.partsLt b a

theorem mem_sortedBelow (apart : disk.tree.NamesApart) (place parts : List Text) :
    parts ∈ disk.sortedBelow endings place ↔ ∃ names, parts = place ++ names ∧
      disk.Offers endings place names := by
  rw [sortedBelow, List.mem_mergeSort, mem_foundBelow apart]

theorem pairwise_sortedBelow (apart : disk.tree.NamesApart) (endings place : List Text) :
    (disk.sortedBelow endings place).Pairwise (· < ·) :=
  Path.pairwise_sorted (nodup_foundBelow apart endings place)

/-- A strictly increasing list of the places that are found is the sorted one. -/
theorem sortedBelow_of_perm {places : List (List Text)} (apart : disk.tree.NamesApart)
    (place : List Text) (perm : (disk.foundBelow endings place).Perm places)
    (increasing : places.Pairwise (· < ·)) :
    disk.sortedBelow endings place = places := by
  refine (pairwise_sortedBelow apart endings place).eq_of_mem_iff increasing ?_
  intro parts
  rw [sortedBelow, List.mem_mergeSort, perm.mem_iff]

/-- Rearranging the folders changes nothing: the places are the same, and they can be in one order
only. -/
theorem sortedBelow_eq (apart : disk.tree.NamesApart) (same : Rearranged disk.tree other.tree)
    (endings place : List Text) :
    other.sortedBelow endings place = disk.sortedBelow endings place := by
  have apartToo := same.apart apart
  refine (pairwise_sortedBelow apartToo endings place).eq_of_mem_iff
    (pairwise_sortedBelow apart endings place) ?_
  intro parts
  have both (names : List Text) : other.Offers endings place names ↔
      disk.Offers endings place names :=
    ⟨fun offers => offers.rearranged apartToo same.symm, fun offers => offers.rearranged apart same⟩
  simp only [mem_sortedBelow apartToo, mem_sortedBelow apart, both]

theorem filesByEnding_eq (placed : base.resolveFrom disk.workFolder = .ok place)
    (endings : List Text) :
    disk.filesByEnding base endings =
      .ok ((disk.sortedBelow endings place.parts).map fun parts => ⟨.single, parts⟩) := by
  unfold filesByEnding
  rw [placed]
  rfl

/-- A folder is expanded to the files below it with a fitting name and no hidden name on the way, in
strictly increasing order of their parts, whatever the order in which the folders list their
members. -/
theorem filesByEnding_exact (apart : disk.tree.NamesApart)
    (placed : base.resolveFrom disk.workFolder = .ok place) (endings : List Text) :
    ∃ files, disk.filesByEnding base endings = .ok files ∧
      (∀ path, path ∈ files ↔
        ∃ names, path = ⟨.single, place.parts ++ names⟩ ∧ disk.Offers endings place.parts names) ∧
      files.Pairwise (fun a b => a.parts < b.parts) ∧
      ∀ other : Disk, other.workFolder = disk.workFolder → Rearranged disk.tree other.tree →
        other.filesByEnding base endings = .ok files := by
  refine ⟨_, filesByEnding_eq placed endings, ?_, ?_, ?_⟩
  · intro path
    rw [List.mem_map]
    constructor
    · rintro ⟨parts, listed, rfl⟩
      obtain ⟨names, rfl, offers⟩ := (mem_sortedBelow apart _ parts).1 listed
      exact ⟨names, rfl, offers⟩
    · rintro ⟨names, rfl, offers⟩
      exact ⟨_, (mem_sortedBelow apart _ _).2 ⟨names, rfl, offers⟩, rfl⟩
  · exact List.pairwise_map.2 (pairwise_sortedBelow apart endings _)
  · intro other sameWork same
    rw [← sameWork] at placed
    rw [filesByEnding_eq placed, sortedBelow_eq apart same]

/-- A hidden folder, a file in capitals, one with another ending, and two folders that are in one
order by their parts and in the other by their texts. -/
def mixedMembers : List (Text × FileTree) :=
  [("b.CSS".toList, .file []), (".git".toList, .folder [("c.css".toList, .file [])]),
    ("n.txt".toList, .file []), ("a.x".toList, .folder [("d.css".toList, .file [])]),
    ("a".toList, .folder [("e.css".toList, .file [])])]

/-- The places of the style sheets among them. -/
def mixedPlaces : List (List Text) :=
  [["work", "a", "e.css"], ["work", "a.x", "d.css"], ["work", "b.CSS"]].map fun parts =>
    parts.map String.toList

def diskOf (members : List (Text × FileTree)) : Disk :=
  ⟨.folder [("work".toList, .folder members)], ["work".toList]⟩

theorem filesByEnding_exact_mixed :
    (diskOf mixedMembers).tree.NamesApart ∧
      ∃ files, files = mixedPlaces.map (fun parts => ⟨.single, parts⟩) ∧
      (diskOf mixedMembers).filesByEnding (Path.ofText ".".toList) sheetEndings = .ok files ∧
      (diskOf mixedMembers.reverse).filesByEnding (Path.ofText ".".toList) sheetEndings =
        .ok files ∧
      files.Pairwise (fun a b => a.parts < b.parts) := by
  have single (name : Text) : (FileTree.folder [(name, .file [])]).NamesApart :=
    namesApart_folder (List.nodup_singleton _) (List.forall_mem_singleton.2 (namesApart_file []))
  have inner : (FileTree.folder mixedMembers).NamesApart := by
    refine namesApart_folder (by decide) ?_
    simp only [mixedMembers, List.forall_mem_cons]
    exact ⟨namesApart_file [], single _, namesApart_file [], single _, single _, by simp⟩
  have apart : (diskOf mixedMembers).tree.NamesApart :=
    namesApart_folder (List.nodup_singleton _) (List.forall_mem_singleton.2 inner)
  have turned : Rearranged (diskOf mixedMembers).tree (diskOf mixedMembers.reverse).tree := by
    refine .folder (List.Perm.refl _) ?_
    intro name tree other inside insideToo
    cases List.mem_singleton.1 inside
    cases List.mem_singleton.1 insideToo
    exact rearranged_of_perm inner mixedMembers.reverse_perm.symm
  have placed : (Path.ofText ".".toList).resolveFrom (diskOf mixedMembers).workFolder =
      .ok ⟨.single, ["work".toList]⟩ := rfl
  have sorted : (diskOf mixedMembers).sortedBelow sheetEndings ["work".toList] = mixedPlaces :=
    sortedBelow_of_perm apart _ (by decide +kernel) (by decide +kernel)
  obtain ⟨files, found, -, increasing, anyOrder⟩ := filesByEnding_exact apart placed sheetEndings
  refine ⟨apart, files, ?_, found, anyOrder _ rfl turned, increasing⟩
  rw [filesByEnding_eq placed, sorted] at found
  exact (Except.ok.inj found).symm

end Disk
end StyleScore
