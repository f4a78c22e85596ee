import StyleScore.Proofs.Tree.Living
import StyleScore.Report.Score

/-!
What dropping a name does. Where the node can still be reached from another known one, nothing that
can be asked about the known nodes changes; in any case exactly the links to nodes that die with the
name are cleared, and no list of children changes (`drop_effect`).
-/
namespace StyleScore.Workshop

open Relation (ReflTransGen)

/-- What can be asked about a node. -/
inductive Query where
  | parent | leaves | selectors | enclosing | completed | headers | weights | score
  deriving DecidableEq, Repr

/-- Nodes stand in an answer by their names. -/
inductive Answer where
  | name (name : Option Text)
  | names (names : List Text)
  | text (text : Option Text)
  | texts (texts : List Text)
  | headers (records : List Header.Record)
  | weights (rules : List WeightedRule)
  | score (score : Score)
  deriving DecidableEq, Repr

/-- The answer to a query about the node under a name. -/
def ask (workshop : Workshop) (name : Text) : Query → Except Error Answer
  | .parent => do
    let id ← workshop.get (some name)
    return .name ((workshop.forest.parent? id).map workshop.nameOf)
  | .leaves => do
    let ids ← workshop.forest.leaves (workshop.find? name)
    return .names (ids.map workshop.nameOf)
  | .selectors => do
    return .texts (← workshop.forest.uniqueSelectors (workshop.find? name))
  | .enclosing => do
    let ids ← workshop.forest.enclosing (workshop.find? name)
    return .names (ids.map workshop.nameOf)
  | .completed => do
    let id ← workshop.get (some name)
    return .text (← workshop.forest.resolved id)
  | .headers => do
    return .headers (← workshop.forest.inventory (workshop.find? name))
  | .weights => do
    return .weights (← workshop.forest.weightedRules (workshop.find? name))
  | .score => do
    return .score (← workshop.forest.score (workshop.find? name))

/-- The workshop without the name of a node. -/
def forget (workshop : Workshop) (id : NodeId) : Workshop :=
  { workshop with known := workshop.known.filter (· ≠ id) }

/-- A node is in the rules of another known node, at any depth. -/
def Shares (workshop : Workshop) (id : NodeId) : Prop :=
  ∃ other ∈ workshop.known, other ≠ id ∧ ReflTransGen workshop.forest.Lists other id

/-- A node dies between two states. -/
def Frees (before after : Workshop) (id : NodeId) : Prop := before.Lives id ∧ ¬ after.Lives id

section Forgetting

variable {workshop : Workshop} {id : NodeId}

theorem mem_known_forget {other : NodeId} :
    other ∈ (workshop.forget id).known ↔ other ∈ workshop.known ∧ other ≠ id := by
  simp [forget]

/-- What lived below a shared node still lives below the node that shares it. -/
theorem lives_forget_of_shares {node : NodeId} (shares : workshop.Shares id)
    (lives : workshop.Lives node) :
    (workshop.forget id).Lives node := by
  obtain ⟨known, member, path⟩ := lives
  by_cases own : known = id
  · subst own
    obtain ⟨other, knownToo, differs, way⟩ := shares
    exact ⟨other, mem_known_forget.2 ⟨knownToo, differs⟩, way.trans path⟩
  · exact ⟨known, mem_known_forget.2 ⟨member, own⟩, path⟩

/-- Other names still stand for the nodes they stood for. -/
theorem find?_forget {name other : Text} (found : workshop.find? name = some id)
    (differs : other ≠ name) :
    (workshop.forget id).find? other = workshop.find? other := by
  have named : workshop.nameOf id = name := by simpa using List.find?_some found
  change (workshop.known.filter (· ≠ id)).find? (workshop.nameOf · = other) =
    workshop.known.find? (workshop.nameOf · = other)
  rw [List.find?_filter]
  congr 1
  funext node
  by_cases own : node = id
  · subst own
    simp [named, differs.symm]
  · simp [own]

/-- Where every link leads to what lives, there is nothing to clear. -/
theorem release_of_linked (linked : Linked workshop) :
    workshop.release.forest = workshop.forest := by
  have same : workshop.release.forest.nodes = workshop.forest.nodes := by
    apply Array.ext_getElem?
    intro id
    have cleared := node?_release workshop id
    simp only [Forest.node?] at cleared
    rw [cleared]
    cases found : workshop.forest.nodes[id]? with
    | none => rfl
    | some node =>
      have kept : node.parent.filter (· ∈ workshop.living) = node.parent := by
        cases link : node.parent with
        | none => rfl
        | some parent =>
          have up : workshop.forest.parent? id = some parent := by
            rw [Forest.parent?, Forest.node?, found]
            exact link
          simp [Option.filter, mem_living_iff.2 (linked id parent up)]
      simp only [Option.map_some, kept]
  exact congrArg Forest.mk same

theorem ask_congr {other : Workshop} {name : Text} (forest : other.forest = workshop.forest)
    (names : other.names = workshop.names) (found : other.find? name = workshop.find? name)
    (query : Query) :
    other.ask name query = workshop.ask name query := by
  have got : other.get (some name) = workshop.get (some name) := by
    simp only [get, Option.bind_some, found]
  have called : other.nameOf = workshop.nameOf := by
    funext id
    simp only [nameOf, names]
  cases query <;> simp only [ask, forest, found, got, called]

end Forgetting

/-- Dropping a name takes it from its node and from no other. If the node is in the rules of another
known node, no answer about any other name changes. The parent links after the drop are those before
it but for the ones that lead to nodes which the drop frees, and all nodes keep their rules. -/
theorem drop_effect {workshop : Workshop} (built : Built workshop) {name : Text} {id : NodeId}
    (found : workshop.find? name = some id) :
    ∃ after, workshop.apply (.drop name) = .ok after ∧
      after.known = workshop.known.filter (· ≠ id) ∧
      (workshop.Shares id → ∀ other, other ≠ name →
        ∀ query, after.ask other query = workshop.ask other query) ∧
      (∀ child parent, after.forest.parent? child = some parent ↔
        workshop.forest.parent? child = some parent ∧ ¬ Frees workshop after parent) ∧
      ∀ node, after.forest.children? node = workshop.forest.children? node := by
  have linked := built.linked
  refine ⟨(workshop.forget id).release, ?_, rfl, ?_, ?_, ?_⟩
  · rw [Workshop.apply, found]
    rfl
  · intro shares other differs query
    have still : Linked (workshop.forget id) :=
      fun node parent link => lives_forget_of_shares shares (linked node parent link)
    have same : (workshop.forget id).release.forest = workshop.forest := release_of_linked still
    exact ask_congr same rfl (find?_forget found differs) query
  · intro child parent
    rw [parent?_release, Option.filter_eq_some_iff, decide_eq_true_iff, mem_living_iff, Frees,
      lives_release]
    constructor
    · rintro ⟨link, lives⟩
      exact ⟨link, fun freed => freed.2 lives⟩
    · rintro ⟨link, kept⟩
      exact ⟨link, Classical.byContradiction fun dead => kept ⟨linked child parent link, dead⟩⟩
  · exact children?_release (workshop.forget id)

/-- A style rule in a grouping rule in a style rule, each under a name. -/
def namedCard : Workshop where
  forest := ⟨#[⟨.style (some "b".toList) [], [], some 1⟩,
    ⟨.grouping "media".toList (some "print".toList) none, [0], some 2⟩,
    ⟨.style (some "a".toList) [], [1], none⟩]⟩
  names := #["inner".toList, "group".toList, "outer".toList]
  known := [0, 1, 2]

theorem built_namedCard : Built namedCard := by
  have inner :=
    Built.empty.change (.create "inner".toList (.style (some "b".toList) []) [] none) rfl
  have group := inner.change (.create "group".toList
    (.grouping "media".toList (some "print".toList) none) ["inner".toList] none) rfl
  exact group.change (.create "outer".toList (.style (some "a".toList) []) ["group".toList] none)
    rfl

/-- The name of the grouping rule can be dropped without a change to the inner rule, whose selector
is still completed by the outer one. Without its name the outer rule dies, and the link of the
grouping rule to it with it, but not that of the inner rule to the grouping rule. -/
theorem drop_namedCard :
    (∃ after, namedCard.apply (.drop "group".toList) = .ok after ∧
      after.ask "inner".toList .completed = .ok (.text (some "a b".toList))) ∧
    ∃ after, namedCard.apply (.drop "outer".toList) = .ok after ∧
      after.forest.parent? 0 = some 1 ∧ after.forest.parent? 1 = none := by
  have group : namedCard.find? "group".toList = some 1 := rfl
  have outer : namedCard.find? "outer".toList = some 2 := rfl
  constructor
  · obtain ⟨after, dropped, -, same, -⟩ := drop_effect built_namedCard group
    have shares : namedCard.Shares 1 :=
      ⟨2, by decide, by decide, .single (show 1 ∈ namedCard.forest.children 2 by decide)⟩
    exact ⟨after, dropped, same shares "inner".toList (by decide) .completed⟩
  · obtain ⟨after, dropped, known, -, links, -⟩ := drop_effect built_namedCard outer
    have lives : after.Lives 1 := lives_of_known (by rw [known]; decide)
    have dies : ¬ after.Lives 2 := by
      rw [← Except.ok.inj dropped, lives_release, ← mem_living_iff]
      decide
    refine ⟨after, dropped, (links 0 1).2 ⟨rfl, fun freed => freed.2 lives⟩, ?_⟩
    cases link : after.forest.parent? 1 with
    | none => rfl
    | some parent =>
      obtain ⟨old, kept⟩ := (links 1 parent).1 link
      obtain rfl : 2 = parent := Option.some.inj old
      exact absurd ⟨lives_of_known (by decide), dies⟩ kept

end StyleScore.Workshop
