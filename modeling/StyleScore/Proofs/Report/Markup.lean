import Mathlib.Tactic.SplitIfs
import StyleScore.Report.Page

/-!
The tables of a page, read back from its text.

A page is read from left to right. Of its tags only those of tables, rows and cells count; the text
of a cell is what stands in it outside of tags, with the references of `Text.escapeMarkup` resolved.
The reader knows nothing of reports, so what it finds in a page is what anyone finds there. Main
statements: `resolve_markup`, written text is read back as it was, and `tables_eq`, which gives the
tables of a page put together from parts.
-/
namespace StyleScore.Markup

/-- Text with its references resolved. -/
def resolve : Text → Text
  | '&' :: 'a' :: 'm' :: 'p' :: ';' :: rest => '&' :: resolve rest
  | '&' :: 'l' :: 't' :: ';' :: rest => '<' :: resolve rest
  | '&' :: 'g' :: 't' :: ';' :: rest => '>' :: resolve rest
  | '&' :: '#' :: '3' :: '4' :: ';' :: rest => '"' :: resolve rest
  | '&' :: '#' :: '3' :: '9' :: ';' :: rest => '\'' :: resolve rest
  | c :: rest => c :: resolve rest
  | [] => []

theorem resolve_cons {c : Char} (other : c ≠ '&') (rest : Text) :
    resolve (c :: rest) = c :: resolve rest := by
  rw [resolve] <;> simp [other]

theorem resolve_escapeMarkup (c : Char) (rest : Text) :
    resolve (Text.escapeMarkup c ++ rest) = c :: resolve rest := by
  unfold Text.escapeMarkup
  split_ifs with amp lt gt quote apostrophe
  · rw [amp]; rfl
  · rw [lt]; rfl
  · rw [gt]; rfl
  · rw [quote]; rfl
  · rw [apostrophe]; rfl
  · exact resolve_cons amp rest

theorem resolve_markup_append (text rest : Text) :
    resolve (Text.markup text ++ rest) = text ++ resolve rest := by
  induction text with
  | nil => rfl
  | cons c text induction =>
    change resolve (Text.escapeMarkup c ++ Text.markup text ++ rest) = _
    rw [List.append_assoc, resolve_escapeMarkup, induction, List.cons_append]

theorem resolve_markup (text : Text) : resolve (Text.markup text) = text := by
  simpa [resolve] using resolve_markup_append text []

/-- The characters that tags and their attributes are made with. -/
def isMark (c : Char) : Bool := c = '<' || c = '>' || c = '"' || c = '\''

/-- The marks of a text, in order. -/
def marks (text : Text) : Text := text.filter isMark

@[simp] theorem marks_append (text rest : Text) : marks (text ++ rest) = marks text ++ marks rest :=
  List.filter_append text rest

theorem isMark_of_mem_escapeMarkup {c d : Char} (member : d ∈ Text.escapeMarkup c) :
    isMark d = false := by
  unfold Text.escapeMarkup at member
  split_ifs at member with amp lt gt quote apostrophe
  · revert d; decide
  · revert d; decide
  · revert d; decide
  · revert d; decide
  · revert d; decide
  · obtain rfl := List.mem_singleton.1 member
    simp [isMark, lt, gt, quote, apostrophe]

theorem isMark_of_mem_markup {text : Text} {c : Char} (member : c ∈ Text.markup text) :
    isMark c = false := by
  obtain ⟨_, _, escaped⟩ := List.mem_flatMap.1 member
  exact isMark_of_mem_escapeMarkup escaped

@[simp] theorem marks_markup (text : Text) : marks (Text.markup text) = [] :=
  List.filter_eq_nil_iff.2 fun _ member => by simp [isMark_of_mem_markup member]

/-- What a page holds, as far as tables go. -/
inductive Event where
  /-- A table begins. -/
  | table
  /-- A row begins. -/
  | row
  /-- A cell with this text. -/
  | cell (text : Text)
  deriving DecidableEq

def rowEvents (cells : List Text) : List Event := .row :: cells.map .cell

def tableEvents (rows : List (List Text)) : List Event := .table :: rows.flatMap rowEvents

/-- Where reading stands. -/
structure Reading where
  /-- The text of the cell that is open, so far. -/
  cell : Option Text
  /-- The tag that is open, so far. -/
  tag : Option Text
  deriving DecidableEq

namespace Reading

/-- Not in a cell and not in a tag. -/
def outside : Reading := ⟨none, none⟩

/-- In a cell that holds `text` so far. -/
def within (text : Text) : Reading := ⟨some text, none⟩

/-- What a tag does that has come to its end. A cell is open until it is closed. -/
def close (reading : Reading) (tag : Text) : List Event × Reading :=
  let name := tag.takeWhile (· ≠ ' ')
  if name = "table".toList then ([.table], ⟨reading.cell, none⟩)
  else if name = "tr".toList then ([.row], ⟨reading.cell, none⟩)
  else if name = "td".toList ∨ name = "th".toList then ([], within [])
  else if name = "/td".toList ∨ name = "/th".toList then
    ([.cell (resolve (reading.cell.getD []))], outside)
  else ([], ⟨reading.cell, none⟩)

def read (reading : Reading) (c : Char) : List Event × Reading :=
  match reading.tag with
  | some tag => if c = '>' then reading.close tag else ([], ⟨reading.cell, some (tag ++ [c])⟩)
  | none =>
    if c = '<' then ([], ⟨reading.cell, some []⟩)
    else ([], ⟨reading.cell.map (· ++ [c]), none⟩)

/-- What a text holds, and where reading stands after it. -/
def scan : Reading → Text → List Event × Reading
  | reading, [] => ([], reading)
  | reading, c :: rest =>
    let (found, next) := reading.read c
    let (more, last) := scan next rest
    (found ++ more, last)

end Reading

/-- Reading `text` from `first` finds `events` and comes to `last`. -/
def Scans (first : Reading) (text : Text) (events : List Event) (last : Reading) : Prop :=
  first.scan text = (events, last)

instance (first : Reading) (text : Text) (events : List Event) (last : Reading) :
    Decidable (Scans first text events last) :=
  inferInstanceAs (Decidable (_ = _))

namespace Scans

variable {first middle last : Reading} {text rest : Text} {events more : List Event}

theorem cons {c : Char} {next : Reading} (step : first.read c = (events, next))
    (goOn : Scans next text more last) : Scans first (c :: text) (events ++ more) last := by
  have rest : next.scan text = (more, last) := goOn
  simp only [Scans, Reading.scan, step, rest]

theorem append (start : Scans first text events middle) (goOn : Scans middle rest more last) :
    Scans first (text ++ rest) (events ++ more) last := by
  induction text generalizing first events with
  | nil =>
    obtain ⟨rfl, rfl⟩ := Prod.mk.inj start
    exact goOn
  | cons c text induction =>
    rcases step : first.read c with ⟨found, next⟩
    rcases followed : next.scan text with ⟨foundLater, reached⟩
    have both : Scans first (c :: text) (found ++ foundLater) reached := cons step followed
    obtain ⟨rfl, rfl⟩ := Prod.mk.inj (start.symm.trans both)
    rw [List.append_assoc]
    exact cons step (induction followed)

/-- Text outside of tags is text of the cell that is open, if one is. -/
theorem plain (cell : Option Text) {text : Text} (unmarked : '<' ∉ text) :
    Scans ⟨cell, none⟩ text [] ⟨cell.map (· ++ text), none⟩ := by
  induction text generalizing cell with
  | nil => cases cell <;> simp [Scans, Reading.scan]
  | cons c text induction =>
    obtain ⟨other, restPlain⟩ := not_or.1 (mt List.mem_cons.2 unmarked)
    have step : Reading.read ⟨cell, none⟩ c = ([], ⟨cell.map (· ++ [c]), none⟩) := by
      simp [Reading.read, Ne.symm other]
    have followed := cons step (induction (cell.map (· ++ [c])) restPlain)
    simpa [Function.comp_def] using followed

theorem markup (cell : Option Text) (text : Text) :
    Scans ⟨cell, none⟩ (Text.markup text) [] ⟨cell.map (· ++ Text.markup text), none⟩ :=
  plain cell fun member => absurd (isMark_of_mem_markup member) (by decide)

/-- Rows that are written one after the other. -/
theorem rows {α : Type} {write : α → Text} {cells : α → List Text}
    (each : ∀ part, Scans .outside (write part) (rowEvents (cells part)) .outside) :
    ∀ parts : List α,
      Scans .outside (parts.flatMap write) ((parts.map cells).flatMap rowEvents) .outside
  | [] => rfl
  | part :: parts => by
    rw [List.flatMap_cons, List.map_cons, List.flatMap_cons]
    exact (each part).append (rows each parts)

end Scans

/-- The cells, rows and tables at the front, each without what holds it. -/
def group : List Event → List Text × List (List Text) × List (List (List Text))
  | [] => ([], [], [])
  | .cell text :: events =>
    let (cells, rows, tables) := group events
    (text :: cells, rows, tables)
  | .row :: events =>
    let (cells, rows, tables) := group events
    ([], cells :: rows, tables)
  | .table :: events =>
    let (_, rows, tables) := group events
    ([], [], rows :: tables)

/-- The tables of a page: their rows with the texts of the cells. -/
def tables (page : Text) : List (List (List Text)) :=
  (group (Reading.outside.scan page).1).2.2

theorem group_cells (cells : List Text) (events : List Event) :
    group (cells.map .cell ++ events) =
      (cells ++ (group events).1, (group events).2.1, (group events).2.2) := by
  induction cells with
  | nil => rfl
  | cons text cells induction => simp [group, induction]

theorem group_rows (rows : List (List Text)) {events : List Event} (begun : (group events).1 = []) :
    group (rows.flatMap rowEvents ++ events) =
      ([], rows ++ (group events).2.1, (group events).2.2) := by
  induction rows with
  | nil => simp [← begun]
  | cons cells rows induction =>
    simp [rowEvents, group, group_cells, List.flatMap_cons, induction]

theorem group_tables (tables : List (List (List Text))) :
    group (tables.flatMap tableEvents) = ([], [], tables) := by
  induction tables with
  | nil => rfl
  | cons rows tables induction =>
    have begun : (group (tables.flatMap tableEvents)).1 = [] := by rw [induction]
    simp [tableEvents, group, List.flatMap_cons, group_rows rows begun, induction]

theorem tables_eq {page : Text} {found : List (List (List Text))}
    (scanned : Scans .outside page (found.flatMap tableEvents) .outside) : tables page = found := by
  rw [tables, scanned, group_tables]

end StyleScore.Markup
