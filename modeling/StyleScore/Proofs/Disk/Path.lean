import StyleScore.Disk.Path
import StyleScore.Proofs.Text.Search

/-!
Paths and their texts. The parts of a path that was read from a text are neither empty nor single
dots and have no slash (`isPlain_ofText`), and a path of such parts is read back from its text
(`ofText_text`).
-/
namespace StyleScore

namespace Path

/-- The parts are neither empty nor single dots and have no slash. -/
def IsPlain (path : Path) : Prop := ∀ part ∈ path.parts, part ≠ [] ∧ part ≠ here ∧ '/' ∉ part

theorem isPlain_ofText (text : Text) : (ofText text).IsPlain := by
  intro part member
  obtain ⟨inside, solid⟩ := List.mem_filter.1 member
  obtain ⟨filled, moving⟩ := of_decide_eq_true solid
  exact ⟨filled, moving, Text.not_mem_of_mem_splitAt inside⟩

section Spelling

variable {path : Path} {part : Text} {parts : List Text}

theorem joinWith_eq_cons (sep part : Text) (parts : List Text) :
    ∃ rest, Text.joinWith sep (part :: parts) = part ++ rest := by
  cases parts with
  | nil => exact ⟨[], (List.append_nil part).symm⟩
  | cons next parts =>
    exact ⟨sep ++ Text.joinWith sep (next :: parts), List.append_assoc part sep _⟩

/-- The slashes in front are told from what follows them. -/
theorem ofText_append (root : Root) {c : Char} (text : Text) (solid : c ≠ '/') :
    Root.ofText (root.text ++ c :: text) = root := by
  cases root <;> simp [Root.ofText, Root.text, solid]

theorem splitAt_append (root : Root) (text : Text) :
    ∃ empties, Text.splitAt '/' (root.text ++ text) = empties ++ Text.splitAt '/' text ∧
      ∀ one ∈ empties, one = [] := by
  cases root with
  | relative => exact ⟨[], rfl, by simp⟩
  | single => exact ⟨[[]], rfl, by simp⟩
  | double => exact ⟨[[], []], rfl, by simp⟩

theorem text_ne_nil (plain : path.IsPlain) : path.text ≠ [] := by
  obtain ⟨root, parts⟩ := path
  unfold Path.text
  split
  · exact List.cons_ne_nil _ _
  · next full =>
    cases parts with
    | nil => cases root <;> simp_all [Root.text]
    | cons part parts =>
      obtain ⟨rest, joined⟩ := joinWith_eq_cons ['/'] part parts
      obtain ⟨filled, -⟩ := plain part List.mem_cons_self
      simp [joined, filled]

/-- A path is read back from its text. -/
theorem ofText_text (plain : path.IsPlain) : ofText path.text = path := by
  obtain ⟨root, parts⟩ := path
  cases parts with
  | nil => cases root <;> decide
  | cons part parts =>
    have free : ∀ one ∈ part :: parts, '/' ∉ one := fun one member => (plain one member).2.2
    obtain ⟨empties, cut, blank⟩ := splitAt_append root (Text.joinWith ['/'] (part :: parts))
    have kept : (part :: parts).filter (fun one => one ≠ [] ∧ one ≠ here) = part :: parts := by
      apply List.filter_eq_self.2
      intro one member
      obtain ⟨filled, moving, -⟩ := plain one member
      exact decide_eq_true ⟨filled, moving⟩
    have dropped : empties.filter (fun one => one ≠ [] ∧ one ≠ here) = [] := by
      apply List.filter_eq_nil_iff.2
      intro one member
      simp [blank one member]
    have first : Root.ofText (root.text ++ Text.joinWith ['/'] (part :: parts)) = root := by
      obtain ⟨rest, joined⟩ := joinWith_eq_cons ['/'] part parts
      obtain ⟨filled, -, free⟩ := plain part List.mem_cons_self
      cases part with
      | nil => exact absurd rfl filled
      | cons c part =>
        rw [joined]
        exact ofText_append root (part ++ rest) fun same => free (same ▸ List.mem_cons_self)
    rw [Path.text, if_neg (by simp), ofText, first, cut, Text.splitAt_joinWith part parts free,
      List.filter_append, dropped, kept]
    rfl

end Spelling
end Path
end StyleScore
