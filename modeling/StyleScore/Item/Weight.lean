import StyleScore.Item.Basic

/-!
Items hold no more component values than they were read from. So the contents of a rule weigh less
than the list the rule stands in, and rules can be followed inwards to any depth.
-/
namespace StyleScore.Item
open Component

/-- One for the item itself and the weight of the contents of its block. -/
def weight : Item → Nat
  | rule _ content => 1 + weightAll content
  | atRule _ _ (some content) => 1 + weightAll content
  | atRule _ _ none => 1
  | declaration _ _ => 1
  | fault _ _ => 1

def totalWeight : List Item → Nat
  | [] => 0
  | item :: items => item.weight + totalWeight items

theorem weightAll_fromEnd_le (atSemicolon : Bool) (components : List Component) :
    weightAll (fromEnd atSemicolon components) ≤ weightAll components :=
  weightAll_dropWhile_le _ components

theorem weightAll_drop_le (n : Nat) (components : List Component) :
    weightAll (components.drop n) ≤ weightAll components := by
  have h := weightAll_append (components.take n) (components.drop n)
  rw [List.take_append_drop] at h
  omega

theorem weight_takeAtRule_le (keyword : Text) (components : List Component) :
    (takeAtRule keyword components).1.weight + weightAll (takeAtRule keyword components).2 ≤
      1 + weightAll components := by
  have h := weightAll_fromEnd_le true components
  unfold takeAtRule
  simp only
  split
  · next heq =>
    rw [heq] at h
    simp only [weightAll, Component.weight] at h
    simp only [weight]
    omega
  · next heq =>
    have := weightAll_drop_le 1 (fromEnd true components)
    simp only [weight]
    omega

theorem weight_takeRule_le (atSemicolon : Bool) (first : Component) (rest : List Component) :
    (takeRule atSemicolon first rest).1.weight + weightAll (takeRule atSemicolon first rest).2 ≤
      first.weight + weightAll rest := by
  have h := weightAll_fromEnd_le atSemicolon (first :: rest)
  unfold takeRule
  split
  · next heq =>
    rw [heq] at h
    simp only [weightAll, Component.weight] at h
    simp only [weight]
    omega
  · next stop left _ heq =>
    rw [heq] at h
    have := weight_pos stop
    simp only [weightAll] at h
    simp only [weight]
    omega
  · have := weight_pos first
    simp only [weight, weightAll]
    omega

theorem weight_declaration? {first : Component} {rest : List Component} {item : Item}
    (h : declaration? first rest = some item) : item.weight = 1 := by
  unfold declaration? at h
  split at h
  · obtain ⟨value, -, rfl⟩ := Option.map_eq_some_iff.1 h
    rfl
  · simp at h

theorem weightAll_declarationExtent_le (rest : List Component) :
    weightAll (declarationExtent rest).2 ≤ weightAll rest := by
  have h := weightAll_fromEnd_le true rest
  unfold declarationExtent
  split
  · next heq =>
    rw [heq] at h
    simp only [weightAll] at h
    simp only
    omega
  · have := weightAll_drop_le 1 (fromEnd true rest)
    simp only
    omega

theorem weight_takeDeclarationOrRule_le (first : Component) (rest : List Component) :
    (takeDeclarationOrRule first rest).1.weight + weightAll (takeDeclarationOrRule first rest).2 ≤
      first.weight + weightAll rest := by
  unfold takeDeclarationOrRule
  split
  · next item h =>
    have h1 := weight_declaration? h
    have h2 := weightAll_declarationExtent_le rest
    have h3 := weight_pos first
    simp only
    omega
  · exact weight_takeRule_le true first rest

theorem weight_takeAny_le (first : Component) (rest : List Component) :
    (takeAny first rest).1.weight + weightAll (takeAny first rest).2 ≤
      first.weight + weightAll rest := by
  unfold takeAny
  split
  · exact weight_takeAtRule_le _ rest
  · exact weight_takeRule_le false first rest

theorem weight_takeInBlock_le (first : Component) (rest : List Component) :
    (takeInBlock first rest).1.weight + weightAll (takeInBlock first rest).2 ≤
      first.weight + weightAll rest := by
  unfold takeInBlock
  split
  · exact weight_takeAtRule_le _ rest
  · exact weight_takeDeclarationOrRule_le first rest

theorem totalWeight_ruleItems_le (top : Bool) (components : List Component) :
    totalWeight (ruleItems top components) ≤ weightAll components := by
  fun_induction ruleItems top components with
  | case1 => simp [totalWeight]
  | case2 c rest _ ih => simp only [weightAll]; omega
  | case3 c rest _ ih =>
    have := weight_takeAny_le c rest
    simp only [totalWeight, weightAll] at ih ⊢
    omega

theorem totalWeight_blockItems_le (components : List Component) :
    totalWeight (blockItems components) ≤ weightAll components := by
  fun_induction blockItems components with
  | case1 => simp [totalWeight]
  | case2 c rest _ ih => simp only [weightAll]; omega
  | case3 c rest _ ih =>
    have := weight_takeInBlock_le c rest
    simp only [totalWeight, weightAll] at ih ⊢
    omega

theorem totalWeight_lt_cons (item : Item) (rest : List Item) :
    totalWeight rest < totalWeight (item :: rest) := by
  have : 0 < item.weight := by
    unfold weight
    split <;> omega
  simp only [totalWeight]
  omega

theorem totalWeight_blockItems_lt (header content : List Component) (rest : List Item) :
    totalWeight (blockItems content) < totalWeight (rule header content :: rest) := by
  have := totalWeight_blockItems_le content
  simp only [totalWeight, weight] at this ⊢
  omega

theorem totalWeight_ruleItems_lt (keyword : Text) (header content : List Component)
    (rest : List Item) :
    totalWeight (ruleItems false content) <
      totalWeight (atRule keyword header (some content) :: rest) := by
  have := totalWeight_ruleItems_le false content
  simp only [totalWeight, weight] at this ⊢
  omega

end StyleScore.Item
