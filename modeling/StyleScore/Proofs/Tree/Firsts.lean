import StyleScore.Tree.Forest

/-!
Elements at their first place. Adding elements one by one, each only when it is new, leaves the
first place of every one (`foldl_addNew_eq`): nothing is lost (`mem_foldl_addNew`), and elements
that are new anyway are only appended (`foldl_addNew`). There are never more first places than
elements, and none only where there is no element.
-/
namespace StyleScore.Forest

variable {α : Type} [DecidableEq α]

theorem mem_addNew {found : List α} {item other : α} :
    other ∈ addNew found item ↔ other ∈ found ∨ other = item := by
  unfold addNew
  split
  · next old =>
    constructor
    · exact .inl
    · intro either
      rcases either with member | rfl
      · exact member
      · exact old
  · simp

theorem mem_foldl_addNew {found items : List α} {other : α} :
    other ∈ items.foldl addNew found ↔ other ∈ found ∨ other ∈ items := by
  induction items generalizing found with
  | nil => simp
  | cons item items ih => rw [List.foldl_cons, ih, mem_addNew, List.mem_cons, or_assoc]

theorem foldl_addNew_addNew (found items : List α) (item : α) :
    (addNew items item).foldl addNew found = addNew (items.foldl addNew found) item := by
  by_cases old : item ∈ items
  · have met : item ∈ items.foldl addNew found := mem_foldl_addNew.2 (.inr old)
    rw [addNew, if_pos old, addNew, if_pos met]
  · rw [addNew, if_neg old, List.foldl_append]
    rfl

/-- What was collected once is collected again in the same order. -/
theorem foldl_addNew_foldl (found items more : List α) :
    (more.foldl addNew items).foldl addNew found =
      more.foldl addNew (items.foldl addNew found) := by
  induction more generalizing items with
  | nil => rfl
  | cons item more ih => rw [List.foldl_cons, ih, foldl_addNew_addNew, List.foldl_cons]

theorem foldl_addNew_eq [BEq α] [LawfulBEq α] (found items : List α) :
    items.foldl addNew found = found ++ (items.removeAll found).eraseDups := by
  induction items generalizing found with
  | nil => simp
  | cons item items ih =>
    by_cases old : item ∈ found
    · rw [List.foldl_cons, addNew, if_pos old, ih]
      simp [List.removeAll, old]
    · have fewer : items.removeAll (found ++ [item]) =
          (items.removeAll found).filter (fun other => !other == item) := by
        rw [List.removeAll, List.removeAll, List.filter_filter]
        congr 1
        funext other
        by_cases same : other = item <;> simp [same]
      rw [List.foldl_cons, addNew, if_neg old, ih, fewer]
      simp [List.removeAll, old, List.eraseDups_cons]

theorem firsts_eq_eraseDups [BEq α] [LawfulBEq α] (items : List α) :
    firsts items = items.eraseDups := by
  rw [firsts, foldl_addNew_eq]
  simp

/-- Adding elements that are all new puts them at the end. -/
theorem foldl_addNew (items more : List α) (distinct : (items ++ more).Nodup) :
    more.foldl addNew items = items ++ more := by
  induction more generalizing items with
  | nil => simp
  | cons item more ih =>
    have fresh : item ∉ items := by
      intro member
      exact (List.nodup_append.1 distinct).2.2 item member item (by simp) rfl
    rw [List.foldl_cons, addNew, if_neg fresh, ih _ (by simpa using distinct)]
    simp

theorem length_foldl_addNew_le (found items : List α) :
    (items.foldl addNew found).length ≤ found.length + items.length := by
  induction items generalizing found with
  | nil => exact Nat.le_refl _
  | cons item items ih =>
    have step : (addNew found item).length ≤ found.length + 1 := by
      unfold addNew
      split <;> simp
    have rest := ih (addNew found item)
    rw [List.foldl_cons, List.length_cons]
    omega

theorem length_firsts_le (items : List α) : (firsts items).length ≤ items.length := by
  simpa [firsts] using length_foldl_addNew_le [] items

theorem firsts_eq_nil_iff {items : List α} : firsts items = [] ↔ items = [] := by
  constructor
  · intro nothing
    apply List.eq_nil_iff_forall_not_mem.2
    intro item member
    have met : item ∈ firsts items := mem_foldl_addNew.2 (.inr member)
    rw [nothing] at met
    cases met
  · rintro rfl
    rfl

/-- Elements that can be told apart by `f` have their first places where their images have them. -/
theorem map_foldl_addNew {β : Type} [DecidableEq β] {f : α → β} (apart : ∀ a b, f a = f b → a = b)
    (found items : List α) :
    (items.foldl addNew found).map f = (items.map f).foldl addNew (found.map f) := by
  induction items generalizing found with
  | nil => rfl
  | cons item items ih =>
    have met : f item ∈ found.map f ↔ item ∈ found := by
      constructor
      · intro image
        obtain ⟨other, member, same⟩ := List.mem_map.1 image
        rwa [← apart other item same]
      · exact List.mem_map_of_mem
    have step : (addNew found item).map f = addNew (found.map f) (f item) := by
      unfold addNew
      by_cases old : item ∈ found <;> simp [met, old]
    rw [List.foldl_cons, ih, step, List.map_cons, List.foldl_cons]

end StyleScore.Forest
