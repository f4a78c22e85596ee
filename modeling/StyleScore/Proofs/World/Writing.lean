import StyleScore.Proofs.Disk.Saving
import StyleScore.Proofs.World.Failure

/-!
What a writer does to the disk where the disk lets it: it saves one text under the path that belongs
to the name.
-/
namespace StyleScore.Writer
open StyleScore.Action

section Success

variable {world : World} {path : Path} {text : Text} (writer : Writer)

theorem attempt_save (world : World) (path : Path) (text : Text) :
    (change fun disk => disk.save path text).attempt world =
      (.ok (world.disk.save path text).1,
        { world with disk := (world.disk.save path text).2 }) := by
  rw [attempt, change_eq]

theorem save_of_ok (saved : (world.disk.save path text).1 = .ok ()) :
    writer.save path text world = (.ok (),
      { world with disk := (world.disk.save path text).2 }) := by
  have attempted := attempt_save world path text
  rw [saved] at attempted
  exact bind_of_ok attempted

theorem saveText_of_ok (saved : (world.disk.save path text).1 = .ok ()) :
    ∃ after, after.disk = (world.disk.save path text).2 ∧
      writer.saveText path text world = (.ok path, after) := by
  unfold saveText
  rw [bind_of_ok (writer.save_of_ok saved)]
  refine ⟨_, ?_, rfl⟩
  rfl

/-- A text is saved only if the disk takes it. -/
theorem saved_of_save {after : World} (done : writer.save path text world = (.ok (), after)) :
    (world.disk.save path text).1 = .ok () ∧ after.disk = (world.disk.save path text).2 := by
  obtain ⟨result, between, attempted, done⟩ := Action.bind_eq_ok.1 done
  obtain ⟨sameResult, rfl⟩ := Prod.mk.inj (attempted.symm.trans (attempt_save world path text))
  split at done
  · cases done
    exact ⟨(Except.ok.inj sameResult).symm, rfl⟩
  · obtain ⟨_, _, -, done⟩ := Action.bind_eq_ok.1 done
    cases own : writer.log with
    | some log =>
      rw [own] at done
      obtain ⟨_, _, -, impossible⟩ := Action.bind_eq_ok.1 done
      cases impossible
    | none =>
      rw [own] at done
      cases done
  · cases done

theorem saved_of_saveText {named : Path} {after : World}
    (written : writer.saveText path text world = (.ok named, after)) :
    (world.disk.save path text).1 = .ok () ∧ after.disk = (world.disk.save path text).2 := by
  obtain ⟨_, _, done, recorded⟩ := Action.bind_eq_ok.1 written
  obtain ⟨saved, disk⟩ := writer.saved_of_save done
  cases recorded
  exact ⟨saved, disk⟩

theorem writeAs_of_ok {name : Text} (named : name ≠ []) (solid : text ≠ [])
    (saved : (world.disk.save (Path.ofText name) text).1 = .ok ()) :
    ∃ after, after.disk = (world.disk.save (Path.ofText name) text).2 ∧
      writer.writeAs (.text text) (some name) world = (.ok (Path.ofText name), after) := by
  obtain ⟨after, kept, written⟩ := writer.saveText_of_ok saved
  refine ⟨after, kept, ?_⟩
  rw [← written]
  simp [writeAs, Option.filter, named, Value.isTruthy, solid]

end Success
end StyleScore.Writer
