import StyleScore.Component.Write

/-!
How component values are written one behind the other: what is written of a list stands at the end
of what is written of a longer one (`writeFrom_append`), with every character of its component
values (`mem_writeFrom`).
-/
namespace StyleScore.Component

theorem writeFrom_nil (previous : Option Kind) : writeFrom previous [] = [] := by rw [writeFrom]

theorem writeFrom_cons (previous : Option Kind) (c : Component) (rest : List Component) :
    writeFrom previous (c :: rest) =
      separator previous c ++ (c.write ++ writeFrom (some c.kind) rest) := by
  rw [writeFrom, List.append_assoc]

theorem write_leaf (position : Position) (token : Token) :
    (leaf position token).write = token.write := by
  rw [write]

theorem writeFrom_append (previous : Option Kind) (before components : List Component) :
    ∃ between, writeFrom previous (before ++ components) =
      writeFrom previous before ++ (between ++ writeAll components) := by
  induction before generalizing previous with
  | nil =>
    cases components with
    | nil =>
      refine ⟨[], ?_⟩
      rw [List.append_nil, writeAll, writeFrom_nil, writeFrom_nil, List.append_nil, List.append_nil]
    | cons c components =>
      refine ⟨separator previous c, ?_⟩
      have alone : separator none c = [] := rfl
      rw [List.nil_append, writeAll, writeFrom_nil, writeFrom_cons, writeFrom_cons, alone,
        List.nil_append, List.nil_append]
  | cons c before ih =>
    obtain ⟨between, written⟩ := ih (some c.kind)
    refine ⟨between, ?_⟩
    rw [List.cons_append, writeFrom_cons, writeFrom_cons, written, List.append_assoc,
      List.append_assoc]

theorem mem_writeFrom {c : Component} {components : List Component} (member : c ∈ components)
    {letter : Char} (own : letter ∈ c.write) (previous : Option Kind) :
    letter ∈ writeFrom previous components := by
  induction components generalizing previous with
  | nil => cases member
  | cons first components ih =>
    rw [writeFrom_cons]
    rcases List.mem_cons.1 member with rfl | later
    · exact List.mem_append_right _ (List.mem_append_left _ own)
    · exact List.mem_append_right _ (List.mem_append_right _ (ih later _))

end StyleScore.Component
