import Mathlib.Data.List.Infix
import StyleScore.Text.Alike

/-!
Texts that are searched and cut. A word is found at its first occurrence (`cutAt?_eq_some_iff`), and
the text around a place that no occurrence reaches over is searched part by part
(`replaceFirst_append_left`, `replaceFirst_pair_append_right`, `containsAlike_append_cons`).
Splitting at a character cuts two texts side by side as each of them is cut, with the pieces that
meet as one (`splitAt_append`).
-/
namespace StyleScore.Text

/-! ### Beginnings and ends -/

theorem startsWith_iff {text word : Text} : startsWith text word = true ↔ word <+: text := by
  unfold startsWith
  rw [Option.isSome_iff_exists]
  constructor
  · rintro ⟨rest, stripped⟩
    exact ⟨rest, (eq_append_of_stripStart? stripped).symm⟩
  · rintro ⟨rest, rfl⟩
    exact ⟨rest, stripStart?_append word rest⟩

theorem endsWith_iff {text word : Text} : endsWith text word = true ↔ word <:+ text := by
  rw [endsWith, startsWith_iff, List.reverse_prefix]

theorem stripStart?_eq_none_iff {word text : Text} :
    stripStart? word text = none ↔ ¬word <+: text := by
  rw [← startsWith_iff, startsWith]
  simp

/-! ### The first occurrence of a word -/

section Cutting

variable {word text before rest : Text}

theorem cutAt?_eq_none_iff : cutAt? word text = none ↔ ¬word <:+: text := by
  induction text with
  | nil => by_cases empty : word = [] <;> simp [cutAt?, empty]
  | cons c text ih =>
    rw [cutAt?, List.infix_cons_iff, not_or, ← ih, ← stripStart?_eq_none_iff]
    cases stripStart? word (c :: text) <;> simp

/-- No occurrence of the word starts further left than the one that is found. -/
theorem length_le_of_cutAt? (found : cutAt? word text = some (before, rest)) {front back : Text}
    (whole : text = front ++ word ++ back) : before.length ≤ front.length := by
  induction text generalizing before front with
  | nil =>
    have cut := cutAt_append found
    simp_all
  | cons c text ih =>
    rw [cutAt?] at found
    split at found
    · obtain ⟨rfl, -⟩ : [] = before ∧ _ = rest := by simpa using found
      exact Nat.zero_le _
    · next absent =>
      obtain ⟨⟨b, r⟩, cut, pair⟩ := Option.map_eq_some_iff.1 found
      obtain ⟨rfl, rfl⟩ : c :: b = before ∧ r = rest := by simpa using pair
      cases front with
      | nil => exact absurd ⟨back, whole.symm⟩ (stripStart?_eq_none_iff.1 absent)
      | cons d front =>
        rw [List.cons_append, List.cons_append, List.cons.injEq] at whole
        exact Nat.succ_le_succ (ih cut whole.2)

/-- A text is cut at the first occurrence of the word. -/
theorem cutAt?_eq_some_iff : cutAt? word text = some (before, rest) ↔
    text = before ++ word ++ rest ∧ ∀ front back, text = front ++ word ++ back →
      before.length ≤ front.length := by
  constructor
  · intro found
    exact ⟨cutAt_append found, fun _ _ whole => length_le_of_cutAt? found whole⟩
  · rintro ⟨whole, first⟩
    cases found : cutAt? word text with
    | none => exact absurd ⟨before, rest, whole.symm⟩ (cutAt?_eq_none_iff.1 found)
    | some parts =>
      obtain ⟨front, back⟩ := parts
      have cut := cutAt_append found
      have same : front.length = before.length :=
        Nat.le_antisymm (length_le_of_cutAt? found whole) (first front back cut)
      rw [whole, List.append_assoc, List.append_assoc] at cut
      obtain ⟨rfl, tails⟩ := List.append_inj cut same.symm
      rw [List.append_cancel_left tails]

/-- More text behind a word does not change where it is found. -/
theorem cutAt?_append_of_some (found : cutAt? word text = some (before, rest)) (more : Text) :
    cutAt? word (text ++ more) = some (before, rest ++ more) := by
  obtain ⟨whole, first⟩ := cutAt?_eq_some_iff.1 found
  refine cutAt?_eq_some_iff.2 ⟨by simp [whole], fun front back other => ?_⟩
  by_contra less
  -- An occurrence that starts further left ends further left too, so it lies in the text.
  have room : (front ++ word).length ≤ text.length := by
    have size := congrArg List.length whole
    simp only [List.length_append] at size ⊢
    omega
  obtain ⟨back, inside⟩ :=
    List.prefix_of_prefix_length_le ⟨back, other.symm⟩ (List.prefix_append text more) room
  exact less (first front back inside.symm)

theorem cutAt?_append_of_none (more : Text)
    (clear : ∀ last, last <:+ text → last ≠ [] → ¬word <+: last ++ more) :
    cutAt? word (text ++ more) = (cutAt? word more).map (Prod.map (text ++ ·) id) := by
  induction text with
  | nil =>
    rw [List.nil_append]
    cases cutAt? word more <;> rfl
  | cons c text ih =>
    have own := clear (c :: text) List.suffix_rfl (List.cons_ne_nil c text)
    have later := ih fun last isLast => clear last (isLast.trans (List.suffix_cons c text))
    rw [List.cons_append] at own ⊢
    rw [cutAt?, stripStart?_eq_none_iff.2 own, later]
    cases cutAt? word more <;> rfl

/-- A word is not found at a character that it does not have. -/
theorem cutAt?_cons_of_not_mem {c : Char} (filled : word ≠ []) (other : c ∉ word) :
    cutAt? word (c :: text) = (cutAt? word text).map (Prod.map (c :: ·) id) := by
  refine @cutAt?_append_of_none word [c] text fun last ending nonempty found => other ?_
  obtain ⟨d, rest, rfl⟩ := List.exists_cons_of_ne_nil filled
  obtain rfl : last = [c] := by simpa [List.suffix_cons_iff, nonempty] using ending
  have same : d = c := (List.cons_prefix_cons.1 found).1
  exact same ▸ List.mem_cons_self

end Cutting

/-- Two characters stand side by side in one of the parts of a text, or where the parts meet. -/
theorem pair_infix_append {p q : Char} {front back : Text} : [p, q] <:+: front ++ back ↔
    [p, q] <:+: front ∨ [p, q] <:+: back ∨ (front.getLast? = some p ∧ back.head? = some q) := by
  induction front with
  | nil => simp
  | cons c front ih =>
    rw [List.cons_append, List.infix_cons_iff, ih, List.infix_cons_iff]
    cases front with
    | nil =>
      have meets : [p, q] <+: c :: back ↔ c = p ∧ back.head? = some q := by
        rw [List.cons_prefix_cons, List.head?_eq_some_iff, eq_comm]
        exact and_congr_right fun _ => exists_congr fun _ => eq_comm
      simp [meets, or_comm]
    | cons d front => simp [or_assoc]

/-! ### One replacement -/

section Replacing

variable {word new text : Text}

theorem replaceFirst_of_absent (absent : ¬word <:+: text) : replaceFirst word new text = text := by
  rw [replaceFirst, cutAt?_eq_none_iff.2 absent]

theorem replaceFirst_append_left (inside : word <:+: text) (more : Text) :
    replaceFirst word new (text ++ more) = replaceFirst word new text ++ more := by
  cases found : cutAt? word text with
  | none => exact absurd inside (cutAt?_eq_none_iff.1 found)
  | some parts =>
    obtain ⟨before, rest⟩ := parts
    rw [replaceFirst, replaceFirst, cutAt?_append_of_some found, found]
    simp

theorem length_replaceFirst (inside : word <:+: text) :
    (replaceFirst word new text).length + word.length = text.length + new.length := by
  cases found : cutAt? word text with
  | none => exact absurd inside (cutAt?_eq_none_iff.1 found)
  | some parts =>
    obtain ⟨before, rest⟩ := parts
    rw [replaceFirst, found, cutAt_append found]
    simp only [List.length_append]
    omega

/-- Two characters are looked for behind a text that does not have them, where they do not meet
either. -/
theorem replaceFirst_pair_append_right {p q : Char} {more : Text} (absent : ¬[p, q] <:+: text)
    (apart : ¬(text.getLast? = some p ∧ more.head? = some q)) :
    replaceFirst [p, q] new (text ++ more) = text ++ replaceFirst [p, q] new more := by
  have clear : ∀ last, last <:+ text → last ≠ [] → ¬[p, q] <+: last ++ more := by
    rintro last ⟨front, rfl⟩ filled starts
    match last with
    | [] => exact filled rfl
    | [c] =>
      obtain ⟨rfl, second⟩ : p = c ∧ [q] <+: more := by simpa using starts
      obtain ⟨rest, rfl⟩ := second
      exact apart ⟨by simp, rfl⟩
    | c :: d :: last =>
      obtain ⟨rfl, rfl⟩ : p = c ∧ q = d := by simpa using starts
      exact absent ⟨front, last, by simp⟩
  rw [replaceFirst, replaceFirst, cutAt?_append_of_none more clear]
  cases found : cutAt? [p, q] more <;> simp

theorem replaceFirst_pair_cons (p q : Char) (rest : Text) :
    replaceFirst [p, q] new (p :: q :: rest) = new ++ rest := by
  simp [replaceFirst, cutAt?, stripStart?]

/-- A replacement by characters of the word brings nothing new into the text. -/
theorem mem_of_mem_replaceFirst (within : ∀ c ∈ new, c ∈ word) {c : Char}
    (member : c ∈ replaceFirst word new text) :
    c ∈ text := by
  unfold replaceFirst at member
  split at member
  · next before rest found =>
    rw [cutAt_append found]
    simp only [List.mem_append] at member ⊢
    rcases member with (front | added) | back
    · exact .inl (.inl front)
    · exact .inl (.inr (within c added))
    · exact .inr back
  · exact member

end Replacing

/-! ### Words whatever the letter case -/

/-- Letter by letter the first text passes for the second. -/
def Alike (written word : Text) : Prop :=
  List.Forall₂ (fun c letter => passesFor c letter = true) written word

theorem Alike.exists_letter {written word : Text} (alike : Alike written word) {c : Char}
    (member : c ∈ written) :
    ∃ letter ∈ word, passesFor c letter = true := by
  induction alike with
  | nil => cases member
  | @cons d letter _ _ passes _ ih =>
    rcases List.mem_cons.1 member with rfl | later
    · exact ⟨letter, List.mem_cons_self, passes⟩
    · obtain ⟨other, inside, passesToo⟩ := ih later
      exact ⟨other, List.mem_cons_of_mem letter inside, passesToo⟩

section Searching

variable {word text : Text}

theorem takeAlike?_eq_some_iff {written : Text} :
    takeAlike? word text = some written ↔ written <+: text ∧ Alike written word := by
  induction word generalizing text written with
  | nil =>
    constructor
    · intro found
      cases found
      exact ⟨List.nil_prefix, .nil⟩
    · rintro ⟨-, alike⟩
      cases alike
      rfl
  | cons letter word ih =>
    cases text with
    | nil =>
      simp only [takeAlike?, reduceCtorEq, List.prefix_nil, false_iff, not_and]
      rintro rfl alike
      cases alike
    | cons c text =>
      rw [takeAlike?]
      constructor
      · intro found
        split at found
        · next passes =>
          obtain ⟨rest, taken, rfl⟩ := Option.map_eq_some_iff.1 found
          obtain ⟨start, alike⟩ := ih.1 taken
          exact ⟨List.cons_prefix_cons.2 ⟨rfl, start⟩, .cons passes alike⟩
        · cases found
      · rintro ⟨start, alike⟩
        cases alike with
        | cons passes others =>
          obtain ⟨rfl, later⟩ := List.cons_prefix_cons.1 start
          rw [if_pos passes, ih.2 ⟨later, others⟩, Option.map_some]

theorem isSome_takeAlike?_iff :
    (takeAlike? word text).isSome = true ↔ ∃ written, written <+: text ∧ Alike written word := by
  simp only [Option.isSome_iff_exists, takeAlike?_eq_some_iff]

/-- A character that passes for no letter of the word ends what can be taken. -/
theorem takeAlike?_append_cons {d : Char} (foreign : ∀ letter ∈ word, passesFor d letter = false)
    (front back : Text) : takeAlike? word (front ++ d :: back) = takeAlike? word front := by
  induction word generalizing front with
  | nil => rfl
  | cons letter word ih =>
    obtain ⟨own, others⟩ := List.forall_mem_cons.1 foreign
    cases front with
    | nil => simp [takeAlike?, own]
    | cons c front => rw [List.cons_append, takeAlike?, takeAlike?, ih others]

theorem containsAlike_iff :
    containsAlike word text = true ↔ ∃ written, written <:+: text ∧ Alike written word := by
  induction text with
  | nil =>
    rw [containsAlike, List.isEmpty_iff]
    constructor
    · rintro rfl
      exact ⟨[], List.infix_rfl, .nil⟩
    · rintro ⟨written, inside, alike⟩
      obtain rfl := List.infix_nil.1 inside
      cases alike
      rfl
  | cons c text ih =>
    rw [containsAlike, Bool.or_eq_true, isSome_takeAlike?_iff, ih, ← exists_or]
    simp only [List.infix_cons_iff, or_and_right]

theorem infix_append_cons_iff {inside front back : Text} {d : Char} (free : d ∉ inside) :
    inside <:+: front ++ d :: back ↔ inside <:+: front ∨ inside <:+: back := by
  constructor
  · rintro ⟨before, after, whole⟩
    rw [List.append_assoc, List.append_eq_append_iff] at whole
    rcases whole with ⟨more, rfl, split⟩ | ⟨more, rfl, split⟩
    · rw [List.append_eq_append_iff] at split
      rcases split with ⟨rest, rfl, -⟩ | ⟨rest, rfl, tail⟩
      · exact .inl ⟨before, rest, by simp⟩
      · cases rest with
        | nil => exact .inl ⟨before, [], by simp⟩
        | cons e rest =>
          obtain ⟨rfl, -⟩ := List.cons.inj tail
          exact absurd (by simp) free
    · cases more with
      | nil =>
        cases inside with
        | nil => exact .inl List.nil_infix
        | cons e inside =>
          obtain ⟨rfl, -⟩ := List.cons.inj split
          exact absurd List.mem_cons_self free
      | cons e more =>
        obtain ⟨rfl, rfl⟩ := List.cons.inj split
        exact .inr ⟨more, after, by simp⟩
  · rintro (inside | inside)
    · exact inside.trans (List.prefix_append front (d :: back)).isInfix
    · exact inside.trans ⟨front ++ [d], [], by simp⟩

/-- A word without the character is found on one of its two sides. -/
theorem containsAlike_append_cons {d : Char} (foreign : ∀ letter ∈ word, passesFor d letter = false)
    (front back : Text) :
    containsAlike word (front ++ d :: back) =
      (containsAlike word front || containsAlike word back) := by
  have free {written : Text} (alike : Alike written word) : d ∉ written := by
    intro member
    obtain ⟨letter, inside, passes⟩ := alike.exists_letter member
    rw [foreign letter inside] at passes
    cases passes
  rw [Bool.eq_iff_iff, Bool.or_eq_true, containsAlike_iff, containsAlike_iff, containsAlike_iff,
    ← exists_or]
  refine exists_congr fun written => ?_
  constructor
  · rintro ⟨inside, alike⟩
    exact ((infix_append_cons_iff (free alike)).1 inside).imp (⟨·, alike⟩) (⟨·, alike⟩)
  · rintro (⟨inside, alike⟩ | ⟨inside, alike⟩)
    · exact ⟨(infix_append_cons_iff (free alike)).2 (.inl inside), alike⟩
    · exact ⟨(infix_append_cons_iff (free alike)).2 (.inr inside), alike⟩

end Searching

/-! ### Splitting -/

section Splitting

variable {mark : Char} {part : Text}

theorem not_mem_of_mem_splitAt {text : Text} (member : part ∈ splitAt mark text) : mark ∉ part := by
  induction text generalizing part with
  | nil =>
    rw [List.mem_singleton.1 member]
    exact List.not_mem_nil
  | cons c text ih =>
    rw [splitAt] at member
    split at member
    · rcases List.mem_cons.1 member with rfl | later
      · exact List.not_mem_nil
      · exact ih later
    · next differs =>
      have fresh : mark ≠ c := fun same => differs same.symm
      split at member
      · rw [List.mem_singleton.1 member]
        simpa using fresh
      · next piece pieces cut =>
        rw [cut] at ih
        rcases List.mem_cons.1 member with rfl | later
        · intro inside
          rcases List.mem_cons.1 inside with same | inside
          · exact fresh same
          · exact ih List.mem_cons_self inside
        · exact ih (List.mem_cons_of_mem piece later)

theorem splitAt_append_cons (free : mark ∉ part) (rest : Text) :
    splitAt mark (part ++ mark :: rest) = part :: splitAt mark rest := by
  induction part with
  | nil => exact if_pos rfl
  | cons c part ih =>
    rw [List.mem_cons, not_or] at free
    rw [List.cons_append, splitAt, if_neg (Ne.symm free.1), ih free.2]

theorem splitAt_of_not_mem (free : mark ∉ part) : splitAt mark part = [part] := by
  induction part with
  | nil => rfl
  | cons c part ih =>
    rw [List.mem_cons, not_or] at free
    rw [splitAt, if_neg (Ne.symm free.1), ih free.2]

/-- Parts that are joined by a mark which none of them has come apart again. -/
theorem splitAt_joinWith (part : Text) (parts : List Text)
    (free : ∀ one ∈ part :: parts, mark ∉ one) :
    splitAt mark (joinWith [mark] (part :: parts)) = part :: parts := by
  induction parts generalizing part with
  | nil => exact splitAt_of_not_mem (free part List.mem_cons_self)
  | cons next parts ih =>
    rw [joinWith, List.append_assoc, List.singleton_append,
      splitAt_append_cons (free part List.mem_cons_self),
      ih next fun one member => free one (List.mem_cons_of_mem part member)]
    exact List.cons_ne_nil next parts

/-- Two texts side by side are cut as each of them is; the pieces that meet are one. -/
theorem splitAt_append {front back last next : Text} {lasts nexts : List Text}
    (left : splitAt mark front = lasts ++ [last]) (right : splitAt mark back = next :: nexts) :
    splitAt mark (front ++ back) = lasts ++ (last ++ next) :: nexts := by
  induction front generalizing lasts last with
  | nil =>
    obtain ⟨rfl, rfl⟩ : lasts = [] ∧ last = [] := by
      have single : [[]] = lasts ++ [last] := left
      cases lasts <;> simp_all
    simpa using right
  | cons c front ih =>
    rw [List.cons_append]
    rw [splitAt] at left ⊢
    split at left
    · next same =>
      rw [if_pos same]
      cases lasts with
      | nil =>
        obtain ⟨-, none⟩ : [] = last ∧ splitAt mark front = [] := by simpa using left
        exact absurd none (splitAt_ne_nil mark front)
      | cons first lasts =>
        obtain ⟨rfl, cut⟩ := List.cons.inj left
        rw [ih cut, List.cons_append]
    · next differs =>
      rw [if_neg differs]
      cases cut : splitAt mark front with
      | nil => exact absurd cut (splitAt_ne_nil mark front)
      | cons piece pieces =>
        rw [cut] at left
        cases lasts with
        | nil =>
          obtain ⟨rfl, rfl⟩ : c :: piece = last ∧ pieces = [] := by simpa using left
          have alone : splitAt mark front = [] ++ [piece] := cut
          rw [ih alone]
          rfl
        | cons first lasts =>
          obtain ⟨rfl, rfl⟩ : c :: piece = first ∧ pieces = lasts ++ [last] := by simpa using left
          have several : splitAt mark front = (piece :: lasts) ++ [last] := cut
          rw [ih several]
          rfl

theorem exists_splitAt_concat (mark : Char) (text : Text) :
    ∃ lasts last, splitAt mark text = lasts ++ [last] :=
  ⟨_, _, (List.dropLast_concat_getLast (splitAt_ne_nil mark text)).symm⟩

theorem splitAt_append_mark (mark : Char) (front back : Text) :
    splitAt mark (front ++ mark :: back) = splitAt mark front ++ splitAt mark back := by
  obtain ⟨lasts, last, cut⟩ := exists_splitAt_concat mark front
  have marked : splitAt mark (mark :: back) = [] :: splitAt mark back := if_pos rfl
  rw [splitAt_append cut marked, cut]
  simp

theorem prefix_of_splitAt {text : Text} {parts : List Text}
    (cut : splitAt mark text = part :: parts) :
    part <+: text := by
  by_cases marked : mark ∈ text
  · obtain ⟨first, rest, rfl, free⟩ := List.eq_append_cons_of_mem marked
    rw [splitAt_append_cons free] at cut
    rw [← (List.cons.inj cut).1]
    exact List.prefix_append first _
  · rw [splitAt_of_not_mem marked] at cut
    rw [← (List.cons.inj cut).1]

/-- A piece stands between two marks or the ends of the text. -/
theorem exists_of_mem_splitAt {text : Text} (member : part ∈ splitAt mark text) :
    ∃ before after, text = before ++ part ++ after ∧
      (∀ c ∈ before.getLast?, c = mark) ∧ ∀ c ∈ after.head?, c = mark := by
  induction size : text.length using Nat.strongRecOn generalizing text with
  | ind n ih =>
    by_cases marked : mark ∈ text
    · obtain ⟨first, rest, rfl, free⟩ := List.eq_append_cons_of_mem marked
      rw [splitAt_append_cons free] at member
      rcases List.mem_cons.1 member with rfl | later
      · exact ⟨[], mark :: rest, by simp, by simp, by simp⟩
      · obtain ⟨before, after, rfl, left, right⟩ :=
          ih rest.length (by simp [← size]; omega) later rfl
        refine ⟨first ++ mark :: before, after, by simp, ?_, right⟩
        cases before with
        | nil => simp
        | cons c before => simpa using left
    · rw [splitAt_of_not_mem marked, List.mem_singleton] at member
      exact ⟨[], [], by simp [member], by simp, by simp⟩

end Splitting

end StyleScore.Text
