import Mathlib.Data.List.Basic
import StyleScore.Proofs.Selector.Impostor
import StyleScore.Proofs.Tree.Leaves

/-!
How scoring a style sheet can fail. Errors in headers are announced. Of the errors in selectors two
come from reading a selector that the text of the sheet does not hold as it stands, and one from a
name that only passes for a logical pseudo-class: `Stumbles` says exactly when.
-/
namespace StyleScore

/-- The errors of taking stock of the headers in a tree of rules. -/
def Error.isOfInventory : Error → Bool
  | noRuleTree | noHeaderWord _ | headerWordNotFound _ _ => true
  | _ => false

/-- The errors of scoring a tree of rules. -/
def Error.isOfRules : Error → Bool
  | selectorSyntax _ _ _ | overlongNumeral _ | missingAttribute | missingKey => true
  | e => e.isOfInventory

theorem Error.isAnnounced_of_isOfInventory {e : Error} (ofInventory : e.isOfInventory = true) :
    e.isAnnounced = true := by
  cases e <;> simp_all [isOfInventory, isAnnounced]

theorem Error.isOfRules_of_isOfInventory {e : Error} (ofInventory : e.isOfInventory = true) :
    e.isOfRules = true := by
  cases e <;> simp_all [isOfInventory, isOfRules]

namespace Header

theorem isOfInventory_of_word {header : Text} {e : Error} (failure : word header = .error e) :
    e.isOfInventory = true := by
  unfold word at failure
  split at failure <;> cases failure
  rfl

theorem isOfInventory_of_word? {header : Text} {e : Error} (failure : word? header = .error e) :
    e.isOfInventory = true := by
  unfold word? at failure
  split at failure
  · cases failure
  · exact isOfInventory_of_word (map_eq_error.1 failure)

theorem isOfInventory_of_condition? {header : Text} {e : Error}
    (failure : condition? header = .error e) :
    e.isOfInventory = true := by
  unfold condition? at failure
  split at failure
  · cases failure
  · rcases bind_eq_error.1 failure with wordless | ⟨word, -, failure⟩
    · exact isOfInventory_of_word wordless
    · split at failure <;> cases failure
      rfl

theorem isOfInventory_of_ruleToken? {text : Text} {e : Error}
    (failure : ruleToken? text = .error e) :
    e.isOfInventory = true := by
  unfold ruleToken? at failure
  split at failure
  · cases failure
  · rcases bind_eq_error.1 failure with wordless | ⟨word, -, failure⟩
    · exact isOfInventory_of_word wordless
    · split at failure <;> cases failure

theorem isOfInventory_of_pieceTokens {pieces : List Text} {e : Error}
    (failure : pieceTokens pieces = .error e) :
    e.isOfInventory = true := by
  induction pieces with
  | nil => cases failure
  | cons piece pieces ih =>
    rcases bind_eq_error.1 failure with here | ⟨token, -, failure⟩
    · unfold pieceToken? at here
      split at here
      · exact isOfInventory_of_ruleToken? here
      · repeat' split at here
        all_goals cases here
    · rcases bind_eq_error.1 failure with later | ⟨tokens, -, impossible⟩
      · exact ih later
      · cases impossible

theorem isOfInventory_of_record {header : Text} {e : Error} (failure : record header = .error e) :
    e.isOfInventory = true := by
  rcases bind_eq_error.1 failure with wordless | ⟨word, -, failure⟩
  · exact isOfInventory_of_word? wordless
  · rcases bind_eq_error.1 failure with missing | ⟨condition, -, failure⟩
    · exact isOfInventory_of_condition? missing
    · rcases bind_eq_error.1 failure with unweighed | ⟨weight, -, impossible⟩
      · exact isOfInventory_of_pieceTokens (map_eq_error.1 unweighed)
      · cases impossible

end Header

namespace Forest

theorem isOfInventory_of_recordAll {forest : Forest} {ids : List NodeId} {e : Error}
    (named : ∀ id ∈ ids, (forest.kind? id).elim false NodeKind.isNamed = true)
    (failure : forest.recordAll ids = .error e) : e.isOfInventory = true := by
  induction ids with
  | nil => cases failure
  | cons id ids ih =>
    rcases bind_eq_error.1 failure with textless | ⟨text, -, failure⟩
    · -- A named rule is a grouping rule, and such a rule has a header.
      have own := named id (by simp)
      unfold headerText at textless
      cases found : forest.kind? id with
      | none => simp [found] at own
      | some kind => cases kind <;> simp_all [NodeKind.isNamed, NodeKind.headerText?]
    · rcases bind_eq_error.1 failure with here | ⟨record, -, failure⟩
      · exact Header.isOfInventory_of_record here
      · rcases bind_eq_error.1 failure with later | ⟨records, -, impossible⟩
        · exact ih (fun other member => named other (by simp [member])) later
        · cases impossible

theorem isOfInventory_of_inventory {forest : Forest} {tree : Option NodeId} {e : Error}
    (failure : forest.inventory tree = .error e) : e.isOfInventory = true := by
  rcases bind_eq_error.1 failure with treeless | ⟨ids, around, failure⟩
  · rw [enclosing, map_eq_error] at treeless
    unfold leaves at treeless
    split at treeless <;> cases treeless
    rfl
  · obtain ⟨leaves, -, rfl⟩ := map_eq_ok.1 around
    refine isOfInventory_of_recordAll ?_ failure
    intro id member
    rcases mem_foldl_addNew.1 member with impossible | listed
    · cases impossible
    · exact (List.mem_filter.1 listed).2

/-- Every style rule has a selector. -/
def Selects (forest : Forest) : Prop :=
  ∀ id, (forest.kind? id).elim false NodeKind.isStyle = true →
    ∃ selector, forest.selector? id = some selector

theorem selects_ofRules (rules : List Rule) : (ofRules rules).Selects := by
  intro id style
  cases kind : (ofRules rules).kind? id with
  | none => simp [kind] at style
  | some found =>
    obtain ⟨-, rfl⟩ | ⟨above, rule, -, rfl⟩ := kind?_ofRules kind
    · simp [kind, NodeKind.isStyle] at style
    · cases rule <;> simp_all [Rule.kind, NodeKind.isStyle, selector?]

theorem isStyle_of_selector? {forest : Forest} {id : NodeId} {selector : Text}
    (found : forest.selector? id = some selector) :
    (forest.kind? id).elim false NodeKind.isStyle = true := by
  unfold selector? at found
  split at found
  · next kind => simp [kind, NodeKind.isStyle]
  · cases found

theorem isStyle_of_styleAbove? {forest : Forest} {steps : Nat} {id above : NodeId}
    (found : forest.styleAbove? steps id = some above) :
    (forest.kind? above).elim false NodeKind.isStyle = true := by
  induction steps generalizing id with
  | zero => cases found
  | succ steps ih =>
    rw [styleAbove?] at found
    split at found
    · cases found
    · split at found
      · next style =>
        rw [← Option.some.inj found]
        exact style
      · exact ih found

theorem Selects.resolvedWithin {forest : Forest} (selects : forest.Selects) {id : NodeId}
    {own : Text} (steps : Nat) (selector : forest.selector? id = some own) :
    ∃ text, forest.resolvedWithin steps id = .ok (some text) := by
  induction steps generalizing id own with
  | zero => exact ⟨own, congrArg Except.ok selector⟩
  | succ steps ih =>
    rw [Forest.resolvedWithin]
    split
    · exact ⟨own, congrArg Except.ok selector⟩
    · next above found =>
      obtain ⟨upper, selectorAbove⟩ := selects above (isStyle_of_styleAbove? found)
      obtain ⟨text, completed⟩ := ih selectorAbove
      rw [completed, selector]
      exact ⟨Selector.nest text own, rfl⟩

/-- A style rule with a selector can be completed. -/
theorem Selects.resolved {forest : Forest} (selects : forest.Selects) {id : NodeId} {own : Text}
    (selector : forest.selector? id = some own) : ∃ text, forest.resolved id = .ok (some text) := by
  rw [Forest.resolved, if_pos (isStyle_of_selector? selector)]
  exact selects.resolvedWithin _ selector

theorem weigh_eq_error_iff {forest : Forest} {id : NodeId} {text : Text} {e : Error}
    (resolved : forest.resolved id = .ok (some text)) :
    forest.weigh id = .error e ↔ Selector.complexity text = .error e := by
  rw [weigh, resolved]
  change (Selector.complexity text >>= fun complexity => _) = .error e ↔ _
  rw [bind_eq_error]
  constructor
  · rintro (failure | ⟨complexity, -, impossible⟩)
    · exact failure
    · cases impossible
  · exact .inl

/-- Weighing fails at the first rule that cannot be weighed. -/
theorem weighAll_eq_error_iff {forest : Forest} {ids : List NodeId} {e : Error} :
    forest.weighAll ids = .error e ↔
      ∃ before id after, ids = before ++ id :: after ∧
        (∀ other ∈ before, ∃ weighed, forest.weigh other = .ok weighed) ∧
          forest.weigh id = .error e := by
  induction ids with
  | nil =>
    constructor
    · intro impossible
      cases impossible
    · rintro ⟨before, id, after, impossible, -⟩
      cases before <;> cases impossible
  | cons first ids ih =>
    rw [weighAll, bind_eq_error]
    constructor
    · rintro (here | ⟨weighed, success, failure⟩)
      · exact ⟨[], first, ids, rfl, by simp, here⟩
      · rcases bind_eq_error.1 failure with later | ⟨rest, -, impossible⟩
        · obtain ⟨before, id, after, rfl, fine, failure⟩ := ih.1 later
          refine ⟨first :: before, id, after, rfl, ?_, failure⟩
          intro other member
          rcases List.mem_cons.1 member with rfl | member
          · exact ⟨weighed, success⟩
          · exact fine other member
        · cases impossible
    · rintro ⟨before, id, after, whole, fine, failure⟩
      cases before with
      | nil =>
        obtain ⟨rfl, rfl⟩ := List.cons.inj whole
        exact .inl failure
      | cons head before =>
        obtain ⟨rfl, rfl⟩ := List.cons.inj whole
        obtain ⟨weighed, success⟩ := fine first (by simp)
        refine .inr ⟨weighed, success,
          bind_eq_error.2 (.inl (ih.2 ⟨before, id, after, rfl, ?_, failure⟩))⟩
        exact fun other member => fine other (by simp [member])

end Forest

/-- Reading a selector fails with an error that is not announced when a number in it is too long to
be read, or when the text ends behind the bar of a namespace. -/
theorem Selector.specificity_unannounced_iff {text : Text} {e : Error} :
    specificity text = .error e ∧ e.isAnnounced = false ↔
      (∃ digits, overlongNumeral? (scan text) = some digits ∧ e = .overlongNumeral digits) ∨
      (overlongNumeral? (scan text) = none ∧
        ofComponents (Component.ofLexemes (scan text)) = .error .unfinished ∧
        e = .missingAttribute) := by
  by_cases empty : text = []
  · subst empty
    have nothing : overlongNumeral? (scan []) = none := by cbv
    have broken : ofComponents (Component.ofLexemes (scan [])) ≠ .error .unfinished := by
      have read : ofComponents (Component.ofLexemes (scan [])) =
          .error (.broken .noCompound none) := by
        cbv
      simp [read]
    rw [specificity, if_pos rfl]
    simp [nothing, broken]
  · rw [specificity, if_neg empty, map_eq_error]
    unfold parse
    dsimp only
    split
    · next digits overlong =>
      constructor
      · rintro ⟨failure, -⟩
        exact .inl ⟨digits, overlong, (Except.error.inj failure).symm⟩
      · rintro (⟨_, same, rfl⟩ | ⟨none, -⟩)
        · obtain rfl := Option.some.inj (overlong.symm.trans same)
          exact ⟨rfl, rfl⟩
        · cases overlong.symm.trans none
    · next short =>
      split
      · next selectors read => simp [short, read]
      · next cause found read =>
        simp only [short, read]
        constructor
        · rintro ⟨failure, unannounced⟩
          rw [← Except.error.inj failure] at unannounced
          cases unannounced
        · simp
      · next read =>
        simp only [short, read]
        constructor
        · rintro ⟨failure, -⟩
          exact .inr ⟨trivial, trivial, (Except.error.inj failure).symm⟩
        · rintro (⟨_, impossible, -⟩ | ⟨-, -, rfl⟩)
          · cases impossible
          · exact ⟨rfl, rfl⟩

theorem Selector.isOfRules_of_specificity {text : Text} {e : Error}
    (unread : specificity text = .error e) :
    e.isOfRules = true := by
  unfold specificity at unread
  split at unread
  · cases unread
  · rw [map_eq_error] at unread
    unfold parse at unread
    dsimp only at unread
    split at unread
    · cases unread
      rfl
    · split at unread <;> cases unread <;> rfl

namespace Score

/-- Scoring comes to a leaf with the completed selector `text`, tidied: the headers can be recorded
and the leaves before this one weighed. -/
def Reaches (rules : List Rule) (text : Text) : Prop :=
  ∃ headers before id after completed,
    (Forest.ofRules rules).inventory (some Forest.root) = .ok headers ∧
    (Forest.ofRules rules).leaves (some Forest.root) = .ok (before ++ id :: after) ∧
    (∀ other ∈ before, ∃ weighed, (Forest.ofRules rules).weigh other = .ok weighed) ∧
    (Forest.ofRules rules).resolved id = .ok (some completed) ∧ text = Selector.tidy completed

/-- The ways in which scoring fails without announcing it. The first two lie in reading a selector,
the last one in counting the names in a selector that can be read. -/
inductive Stumbles (rules : List Rule) : Error → Prop where
  | numeral {text : Text} {digits : Nat} (reached : Reaches rules text)
      (overlong : overlongNumeral? (scan text) = some digits) :
        Stumbles rules (.overlongNumeral digits)
  | unfinished {text : Text} (reached : Reaches rules text)
      (short : overlongNumeral? (scan text) = none)
      (cut : Selector.ofComponents (Component.ofLexemes (scan text)) = .error .unfinished) :
      Stumbles rules .missingAttribute
  | impostor {text : Text} {found : Specificity} (reached : Reaches rules text)
      (success : Selector.specificity text = .ok found) (named : Selector.NamesImpostor text) :
      Stumbles rules .missingKey

theorem completes (rules : List Rule) {id : Nat} (leaf : id ∈ Rule.leafNumbersAll 1 rules) :
    ∃ text, (Forest.ofRules rules).resolved id = .ok (some text) := by
  obtain ⟨selector, found⟩ := Forest.exists_selector?_of_mem_leafNumbersAll leaf
  exact (Forest.selects_ofRules rules).resolved found

/-- Scoring fails in taking stock of the headers, or at a leaf that it comes to. -/
theorem score_cases {rules : List Rule} {e : Error}
    (failure : (Forest.ofRules rules).score (some Forest.root) = .error e) :
    e.isOfInventory = true ∨ ∃ text, Reaches rules text ∧
      (Selector.specificity text = .error e ∨
        (∃ found, Selector.specificity text = .ok found) ∧ Selector.NamesImpostor text ∧
        e = .missingKey) := by
  have listed := Forest.leaves_ofRules rules
  rcases bind_eq_error.1 failure with unlisted | ⟨selectors, -, failure⟩
  · rw [Forest.uniqueSelectors, map_eq_error, listed] at unlisted
    cases unlisted
  rcases bind_eq_error.1 failure with unrecorded | ⟨headers, recorded, failure⟩
  · exact .inl (Forest.isOfInventory_of_inventory unrecorded)
  rcases bind_eq_error.1 failure with unweighed | ⟨weighted, -, impossible⟩
  · rw [Forest.weightedRules, listed] at unweighed
    obtain ⟨before, id, after, whole, fine, failure⟩ := Forest.weighAll_eq_error_iff.1 unweighed
    have member : id ∈ Rule.leafNumbersAll 1 rules := by
      rw [whole]
      simp
    obtain ⟨completed, resolved⟩ := completes rules member
    refine .inr ⟨_, ⟨headers, before, id, after, completed, recorded, whole ▸ listed, fine,
      resolved, rfl⟩, ?_⟩
    rwa [Forest.weigh_eq_error_iff resolved, Selector.complexity_eq_error_iff] at failure
  · cases impossible

theorem isOfRules_of_score {rules : List Rule} {e : Error}
    (failure : (Forest.ofRules rules).score (some Forest.root) = .error e) :
    e.isOfRules = true := by
  rcases score_cases failure with ofInventory | ⟨text, -, unread | ⟨-, -, rfl⟩⟩
  · exact Error.isOfRules_of_isOfInventory ofInventory
  · exact Selector.isOfRules_of_specificity unread
  · rfl

theorem score_eq_error_iff (rules : List Rule) (e : Error) :
    (Forest.ofRules rules).score (some Forest.root) = .error e ∧ e.isAnnounced = false ↔
      ∃ text, Reaches rules text ∧
        (Selector.specificity text = .error e ∧ e.isAnnounced = false ∨
          (∃ found, Selector.specificity text = .ok found) ∧ Selector.NamesImpostor text ∧
          e = .missingKey) := by
  constructor
  · rintro ⟨failure, unannounced⟩
    rcases score_cases failure with ofInventory | ⟨text, reached, failure⟩
    · cases unannounced.symm.trans (Error.isAnnounced_of_isOfInventory ofInventory)
    · exact ⟨text, reached, failure.imp_left fun unread => ⟨unread, unannounced⟩⟩
  · rintro ⟨text, ⟨headers, before, id, after, completed, recorded, leaves, fine, resolved, rfl⟩,
      failure⟩
    have stops : (Forest.ofRules rules).weigh id = .error e := by
      rw [Forest.weigh_eq_error_iff resolved, Selector.complexity_eq_error_iff]
      exact failure.imp_left And.left
    have unweighed : (Forest.ofRules rules).weightedRules (some Forest.root) = .error e := by
      rw [Forest.weightedRules, leaves]
      exact Forest.weighAll_eq_error_iff.2 ⟨before, id, after, rfl, fine, stops⟩
    refine ⟨?_, ?_⟩
    · rw [Forest.score, Forest.uniqueSelectors, leaves, recorded, unweighed]
      rfl
    · rcases failure with ⟨-, unannounced⟩ | ⟨-, -, rfl⟩
      · exact unannounced
      · rfl

/-- Scoring fails without announcing it exactly when it stumbles. -/
theorem score_unannounced_iff (rules : List Rule) (e : Error) :
    (Forest.ofRules rules).score (some Forest.root) = .error e ∧ e.isAnnounced = false ↔
      Stumbles rules e := by
  rw [score_eq_error_iff]
  constructor
  · rintro ⟨text, reached, failure | ⟨⟨found, success⟩, named, rfl⟩⟩
    · rcases Selector.specificity_unannounced_iff.1 failure with
        ⟨digits, overlong, rfl⟩ | ⟨short, cut, rfl⟩
      · exact .numeral reached overlong
      · exact .unfinished reached short cut
    · exact .impostor reached success named
  · rintro (⟨reached, overlong⟩ | ⟨reached, short, cut⟩ | ⟨reached, success, named⟩)
    · exact ⟨_, reached, .inl (Selector.specificity_unannounced_iff.2 (.inl ⟨_, overlong, rfl⟩))⟩
    · exact ⟨_, reached, .inl (Selector.specificity_unannounced_iff.2 (.inr ⟨short, cut, rfl⟩))⟩
    · exact ⟨_, reached, .inr ⟨⟨_, success⟩, named, rfl⟩⟩

end Score
end StyleScore
