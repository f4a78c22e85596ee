import StyleScore.Proofs.Tree.Building

/-!
Places of items in the order of a text. Lexemes follow one another (`ordered_scan`), the component
values made of them keep their order (`places_ofLexemes`), and every list of items keeps the order
of the component values it is read from (`sublist_ruleItems`, `sublist_blockItems`,
`sublist_declarationItems`).
-/
namespace StyleScore

namespace Position

/-- The place is the same as the other or comes earlier in the text. -/
def AtOrBefore (p q : Position) : Prop := p.line < q.line ∨ (p.line = q.line ∧ p.column ≤ q.column)

theorem AtOrBefore.refl (p : Position) : p.AtOrBefore p := .inr ⟨rfl, Nat.le_refl _⟩

theorem AtOrBefore.trans {p q r : Position} (first : p.AtOrBefore q) (second : q.AtOrBefore r) :
    p.AtOrBefore r := by
  unfold AtOrBefore at *
  omega

theorem atOrBefore_next (p : Position) (c : Char) : p.AtOrBefore (p.next c) := by
  unfold next
  split
  · exact .inl (Nat.lt_succ_self _)
  · exact .inr ⟨rfl, Nat.le_succ _⟩

theorem atOrBefore_after (p : Position) (text : Text) : p.AtOrBefore (p.after text) := by
  induction text generalizing p with
  | nil => exact .refl p
  | cons c text ih => exact (atOrBefore_next p c).trans (ih (p.next c))

end Position

open Position

/-! ### Lexemes -/

theorem atOrBefore_of_mem_scanFrom {pos : Position} {text : Text} {place : Position}
    (member : place ∈ (Scan.scanFrom pos text).map Prod.fst) : pos.AtOrBefore place := by
  fun_induction Scan.scanFrom pos text with
  | case1 => cases member
  | case2 pos c rest left ih =>
    rw [List.map_append, List.mem_append] at member
    rcases member with here | later
    · rw [List.map_map, List.mem_map] at here
      obtain ⟨lexeme, -, rfl⟩ := here
      exact .refl pos
    · exact (atOrBefore_after pos _).trans (ih later)

theorem ordered_scanFrom (pos : Position) (text : Text) :
    ((Scan.scanFrom pos text).map Prod.fst).Pairwise AtOrBefore := by
  fun_induction Scan.scanFrom pos text with
  | case1 => exact .nil
  | case2 pos c rest left ih =>
    -- The lexemes that begin with one character share its place.
    have here : ∀ place ∈ ((Scan.scanOne c rest).1.map fun lexeme => (pos, lexeme)).map Prod.fst,
        place = pos := by
      simp
    rw [List.map_append, List.pairwise_append]
    refine ⟨List.pairwise_of_forall_mem_list fun first member second belongs => ?_, ih,
      fun first member later belongs => ?_⟩
    · rw [here first member, here second belongs]
      exact .refl pos
    · rw [here first member]
      exact (atOrBefore_after pos _).trans (atOrBefore_of_mem_scanFrom belongs)

/-- Lexemes come in the order of their places. -/
theorem ordered_scan (text : Text) : ((scan text).map Prod.fst).Pairwise AtOrBefore :=
  ordered_scanFrom .start (Scan.normalise text)

/-! ### Component values -/

namespace Component

mutual

/-- The places of a component value and of those in it. -/
def places : Component → List Position
  | leaf position _ => [position]
  | block position _ content => position :: placesAll content

def placesAll : List Component → List Position
  | [] => []
  | c :: rest => places c ++ placesAll rest

end

theorem placesAll_append (components more : List Component) :
    placesAll (components ++ more) = placesAll components ++ placesAll more := by
  induction components with
  | nil => rfl
  | cons c rest ih => rw [List.cons_append, placesAll, placesAll, ih, List.append_assoc]

theorem places_block (position : Position) (opener : Opener) (content : List Component) :
    (block position opener content).places = position :: placesAll content := by
  rw [places]

theorem sublist_placesAll {components more : List Component} (sublist : components.Sublist more) :
    (placesAll components).Sublist (placesAll more) := by
  induction sublist with
  | slnil => exact .refl _
  | cons c rest ih => exact ih.trans (List.sublist_append_right c.places _)
  | cons_cons c rest ih => exact ih.append_left c.places

theorem position_sublist (c : Component) : [c.position].Sublist c.places := by
  cases c with
  | leaf position token =>
    rw [places]
    exact .refl _
  | block position opener content =>
    rw [places_block]
    exact (List.nil_sublist _).cons_cons _

/-- The place of a component value is among those of the list that it stands in. -/
theorem position_sublist_of_mem {c : Component} {components : List Component}
    (member : c ∈ components) :
    [c.position].Sublist (placesAll components) := by
  have alone := sublist_placesAll (List.singleton_sublist.2 member)
  rw [placesAll, placesAll, List.append_nil] at alone
  exact (position_sublist c).trans alone

namespace Nest

/-- The places of what stands before the innermost open block. -/
def framePlaces (frames : List Frame) : List Position :=
  frames.foldr
    (fun frame earlier => earlier ++ placesAll frame.before.reverse ++ [frame.position]) []

/-- The places of all that was read so far. -/
def places (nest : Nest) : List Position :=
  framePlaces nest.frames ++ placesAll nest.content.reverse

theorem placesAll_closeInto (frame : Frame) (content : List Component) :
    placesAll (closeInto frame content).reverse =
      placesAll frame.before.reverse ++ frame.position :: placesAll content.reverse := by
  rw [closeInto, List.reverse_cons, placesAll_append, placesAll, placesAll, List.append_nil,
    places_block]

theorem sublist_step (nest : Nest) (lexeme : Position × Lexeme) :
    (nest.step lexeme).places.Sublist (nest.places ++ [lexeme.1]) := by
  obtain ⟨frames, content⟩ := nest
  obtain ⟨position, lexeme⟩ := lexeme
  have leaf (token : Token) : places ⟨frames, .leaf position token :: content⟩ =
      places ⟨frames, content⟩ ++ [position] := by
    simp only [places, List.reverse_cons, placesAll_append, placesAll, Component.places,
      List.append_nil, List.append_assoc]
  have kept (token : Token) :
      (places ⟨frames, .leaf position token :: content⟩).Sublist (places ⟨frames, content⟩ ++
        [position]) := by
    simp only [leaf, List.Sublist.refl]
  cases lexeme with
  | token token => exact kept token
  | opening opener =>
    simp only [step, places, framePlaces, List.foldr_cons, List.reverse_nil, placesAll,
      List.append_nil]
    exact .refl _
  | closing bracket =>
    cases frames with
    | nil => exact kept _
    | cons frame frames =>
      rw [step]
      dsimp only
      split
      · -- The place of the closing bracket itself is dropped.
        have closed : places ⟨frames, closeInto frame content⟩ =
            places ⟨frame :: frames, content⟩ := by
          simp only [places, framePlaces, List.foldr_cons, placesAll_closeInto, List.append_assoc,
            List.singleton_append]
        rw [closed]
        exact List.sublist_append_left _ _
      · exact kept _

theorem sublist_foldl_step (nest : Nest) (lexemes : List (Position × Lexeme)) :
    (lexemes.foldl step nest).places.Sublist (nest.places ++ lexemes.map Prod.fst) := by
  induction lexemes generalizing nest with
  | nil => simp
  | cons lexeme lexemes ih =>
    have first := (sublist_step nest lexeme).append_right (lexemes.map Prod.fst)
    rw [List.append_assoc, List.singleton_append] at first
    exact (ih (nest.step lexeme)).trans first

theorem placesAll_finish (nest : Nest) : placesAll nest.finish = nest.places := by
  obtain ⟨frames, content⟩ := nest
  rw [finish]
  dsimp only
  induction frames generalizing content with
  | nil => rfl
  | cons frame frames ih =>
    rw [List.foldl_cons, ih]
    simp only [places, framePlaces, List.foldr_cons, placesAll_closeInto, List.append_assoc,
      List.singleton_append]

end Nest

/-- Component values keep the order of their lexemes. -/
theorem places_ofLexemes (lexemes : List (Position × Lexeme)) :
    (placesAll (ofLexemes lexemes)).Sublist (lexemes.map Prod.fst) := by
  have kept := Nest.sublist_foldl_step .empty lexemes
  rw [ofLexemes, Nest.placesAll_finish]
  simpa [Nest.places, Nest.framePlaces, Nest.empty, placesAll] using kept

end Component

/-! ### Items -/

namespace Item
open Component

/-- The place of a fault, or the places of what is in the block of an item. -/
def places : Item → List Position
  | rule _ content => placesAll content
  | atRule _ _ (some content) => placesAll content
  | atRule _ _ none => []
  | declaration _ _ => []
  | fault position _ => [position]

/-- Something was read from component values and leaves others: the places of both are among those
there were, in their order. -/
def Keeps (components : List Component) (read : Item × List Component) : Prop :=
  (read.1.places ++ placesAll read.2).Sublist (placesAll components)

theorem keeps_of_suffix {item : Item} {components left stretch : List Component}
    (own : item.places.Sublist (placesAll stretch)) (split : (stretch ++ left).Sublist components) :
    Keeps components (item, left) := by
  have both := own.append (List.Sublist.refl (placesAll left))
  rw [← placesAll_append] at both
  exact both.trans (sublist_placesAll split)

theorem keeps_takeAtRule (keyword : Text) (components : List Component) :
    Keeps components (takeAtRule keyword components) := by
  have whole : (fromEnd true components).Sublist components := List.dropWhile_sublist _
  unfold takeAtRule
  dsimp only
  split
  · next position content rest ends =>
    rw [ends] at whole
    refine keeps_of_suffix ?_ (List.singleton_append ▸ whole)
    simp only [places, placesAll, places_block, List.append_nil]
    exact List.sublist_cons_self _ _
  · exact keeps_of_suffix (List.nil_sublist (placesAll [])) ((List.drop_sublist 1 _).trans whole)

theorem lastPosition_sublist (first : Component) (rest : List Component) :
    [lastPosition first rest].Sublist (placesAll (first :: rest)) := by
  apply position_sublist_of_mem
  cases last : (first :: rest).getLast? with
  | none => exact List.mem_cons_self
  | some c => exact List.mem_of_getLast? last

theorem keeps_takeRule (atSemicolon : Bool) (first : Component) (rest : List Component) :
    Keeps (first :: rest) (takeRule atSemicolon first rest) := by
  have whole : (fromEnd atSemicolon (first :: rest)).Sublist (first :: rest) :=
    List.dropWhile_sublist _
  unfold takeRule
  split
  · next position content left ends =>
    rw [ends] at whole
    refine keeps_of_suffix ?_ (List.singleton_append ▸ whole)
    simp only [places, placesAll, places_block, List.append_nil]
    exact List.sublist_cons_self _ _
  · next stop left _ ends =>
    rw [ends] at whole
    exact keeps_of_suffix (position_sublist_of_mem List.mem_cons_self)
      (List.singleton_append ▸ whole)
  · exact keeps_of_suffix (lastPosition_sublist first rest) (by simp)

theorem places_declaration? {first : Component} {rest : List Component} {item : Item}
    (read : declaration? first rest = some item) : item.places = [] := by
  unfold declaration? at read
  split at read
  · obtain ⟨value, -, rfl⟩ := Option.map_eq_some_iff.1 read
    rfl
  · cases read

theorem sublist_declarationExtent (rest : List Component) :
    (declarationExtent rest).2.Sublist rest := by
  have whole : (fromEnd true rest).Sublist rest := List.dropWhile_sublist _
  unfold declarationExtent
  split
  · next ends =>
    rw [ends] at whole
    exact (List.sublist_cons_self _ _).trans whole
  · exact (List.drop_sublist 1 _).trans whole

theorem keeps_takeDeclarationOrRule (first : Component) (rest : List Component) :
    Keeps (first :: rest) (takeDeclarationOrRule first rest) := by
  unfold takeDeclarationOrRule
  split
  · next item read =>
    rw [Keeps, places_declaration? read]
    exact sublist_placesAll ((sublist_declarationExtent rest).cons first)
  · exact keeps_takeRule true first rest

theorem sublist_declarationFault (first : Component) (rest : List Component) :
    (declarationFault first rest).places.Sublist (placesAll (first :: rest)) := by
  have own : [first.position].Sublist (placesAll (first :: rest)) :=
    position_sublist_of_mem List.mem_cons_self
  unfold declarationFault
  split
  · exact own
  · next found _ ends =>
    have inside : (found :: _).Sublist rest := ends ▸ List.dropWhile_sublist Component.isBlank
    exact position_sublist_of_mem (List.mem_cons_of_mem _ (inside.mem List.mem_cons_self))
  · exact own

theorem Keeps.cons {components : List Component} {read : Item × List Component}
    (keeps : Keeps components read) (c : Component) : Keeps (c :: components) read :=
  keeps.trans (List.sublist_append_right c.places _)

theorem keeps_takeAny (first : Component) (rest : List Component) :
    Keeps (first :: rest) (takeAny first rest) := by
  unfold takeAny
  split
  · exact (keeps_takeAtRule _ rest).cons _
  · exact keeps_takeRule false first rest

theorem keeps_takeInBlock (first : Component) (rest : List Component) :
    Keeps (first :: rest) (takeInBlock first rest) := by
  unfold takeInBlock
  split
  · exact (keeps_takeAtRule _ rest).cons _
  · exact keeps_takeDeclarationOrRule first rest

theorem keeps_takeInDeclarations (first : Component) (rest : List Component) :
    Keeps (first :: rest) (takeInDeclarations first rest) := by
  have split := List.takeWhile_append_dropWhile (p := fun c => !isSemicolon c) (l := rest)
  unfold takeInDeclarations
  split
  · exact (keeps_takeAtRule _ rest).cons _
  · dsimp only
    have own (stretch : List Component) :
        ((declaration? first stretch).getD (declarationFault first stretch)).places.Sublist
        (placesAll (first :: stretch)) := by
      cases read : declaration? first stretch with
      | none => exact sublist_declarationFault first stretch
      | some item =>
        rw [Option.getD_some, places_declaration? read]
        exact List.nil_sublist _
    refine keeps_of_suffix (own _) ?_
    simp only [List.cons_append, split, List.Sublist.refl]

/-- What one item keeps, a list of items keeps. -/
theorem Keeps.items {components left : List Component} {item : Item} {items : List Item}
    (keeps : Keeps components (item, left))
    (rest : (items.flatMap places).Sublist (placesAll left)) :
    ((item :: items).flatMap places).Sublist (placesAll components) := by
  rw [List.flatMap_cons]
  exact (rest.append_left item.places).trans keeps

theorem sublist_ruleItems (top : Bool) (components : List Component) :
    ((ruleItems top components).flatMap places).Sublist (placesAll components) := by
  fun_induction ruleItems top components with
  | case1 => exact .refl _
  | case2 c rest skipped ih => exact ih.trans (List.sublist_append_right c.places _)
  | case3 c rest read ih => exact (keeps_takeAny c rest).items ih

theorem sublist_blockItems (components : List Component) :
    ((blockItems components).flatMap places).Sublist (placesAll components) := by
  fun_induction blockItems components with
  | case1 => exact .refl _
  | case2 c rest skipped ih => exact ih.trans (List.sublist_append_right c.places _)
  | case3 c rest read ih => exact (keeps_takeInBlock c rest).items ih

theorem sublist_declarationItems (components : List Component) :
    ((declarationItems components).flatMap places).Sublist (placesAll components) := by
  fun_induction declarationItems components with
  | case1 => exact .refl _
  | case2 c rest skipped ih => exact ih.trans (List.sublist_append_right c.places _)
  | case3 c rest read ih => exact (keeps_takeInDeclarations c rest).items ih

/-- The items at the top of a style sheet keep the order of their places. -/
theorem ordered_ofText {text : Text} {items : List Item} (read : Item.ofText text = .ok items) :
    (items.flatMap places).Pairwise AtOrBefore := by
  unfold Item.ofText at read
  dsimp only at read
  split at read
  · cases read
  · obtain rfl := Except.ok.inj read
    refine (ordered_scan text).sublist
      ((sublist_ruleItems true _).trans ((places_ofLexemes _).trans ?_))
    exact List.filter_sublist.map Prod.fst

end Item
end StyleScore
