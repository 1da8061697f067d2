import DryRun.Proofs.Query.Survivors

/-!
# Reading a grid

A grid is read with its divider alone: the plus signs show where the columns are and how wide they
are, and a line is cut there (`Grid.widths`, `Grid.cut`). Dividers, headers and row lines are ruled
in the same way, so that their lengths hang on the widths of their entries only (`length_ruled`)
and cutting gives the entries back, whatever stands in them (`cut_ruled`).

Every entry is padded to the width of its column, which is as wide as the widest. So all lines of
an answer are equally long, and what is cut out of a line is the whole text of the cell and spaces
(`answer_aligned`).
-/

set_option autoImplicit false

namespace DryRun

open Text

namespace Grid

/-! ## Ruled lines -/

/-- The widths of the columns below a divider, without the space on either side of an entry. -/
def widths (divider : Text) : List Nat :=
  ((pieces (· == '+') divider).drop 1).dropLast.map (·.length - 2)

/-- The entries of a line whose columns have the given widths. -/
def cut : List Nat → Text → List Text
  | [], _ => []
  | width :: widths, line => (line.drop 2).take width :: cut widths (line.drop (width + 3))

/-- Entries between bars, a filling character on either side of each. -/
def ruled (bar fill : Char) (entries : List Text) : Text :=
  entries.flatMap (fun entry => bar :: fill :: (entry ++ [fill])) ++ [bar]

variable {bar fill : Char}

/-- A ruled line with one more entry in front. -/
theorem ruled_cons (entry : Text) (entries : List Text) :
    ruled bar fill (entry :: entries) =
      bar :: (fill :: (entry ++ [fill]) ++ ruled bar fill entries) := by
  simp [ruled]

/-- A ruled line begins with a bar. -/
theorem ruled_eq_cons (entries : List Text) : ∃ rest, ruled bar fill entries = bar :: rest := by
  cases entries with
  | nil => exact ⟨[], rfl⟩
  | cons entry entries => exact ⟨_, ruled_cons entry entries⟩

/-- Entries that are joined by bars are ruled, if there is one at least. -/
theorem join_eq_ruled {entries : List Text} (nonempty : entries ≠ []) :
    bar :: fill :: join [fill, bar, fill] entries ++ [fill, bar] = ruled bar fill entries := by
  induction entries with
  | nil => exact absurd rfl nonempty
  | cons entry entries ih =>
    cases entries with
    | nil => simp [join, ruled]
    | cons next entries =>
      rw [ruled_cons, ← ih (List.cons_ne_nil next entries), join]
      simp

/-- Ruled lines with entries of the same lengths are as long as each other. -/
theorem length_ruled {bar' fill' : Char} {entries entries' : List Text}
    (same : entries.map List.length = entries'.map List.length) :
    (ruled bar fill entries).length = (ruled bar' fill' entries').length := by
  induction entries generalizing entries' with
  | nil =>
    obtain rfl : entries' = [] := by simpa using same.symm
    rfl
  | cons entry entries ih =>
    obtain ⟨entry', entries', rfl, first, others⟩ := List.map_eq_cons_iff.mp same.symm
    simp [ruled_cons, first, ih others.symm]

/-- Cut at its bars a ruled line falls into its entries. -/
theorem pieces_ruled {entries : List Text} (apart : fill ≠ bar)
    (bare : ∀ entry ∈ entries, bar ∉ entry) :
    pieces (· == bar) (ruled bar fill entries) =
      [] :: (entries.map fun entry => fill :: (entry ++ [fill])) ++ [[]] := by
  have opening (s : Text) : pieces (· == bar) (bar :: s) = [] :: pieces (· == bar) s := by
    rw [pieces, if_pos (beq_self_eq_true bar)]
  induction entries with
  | nil => exact opening []
  | cons entry entries ih =>
    obtain ⟨first, others⟩ := List.forall_mem_cons.mp bare
    obtain ⟨rest, parts⟩ : ∃ rest, ruled bar fill entries = bar :: rest := ruled_eq_cons entries
    have behind : pieces (· == bar) rest =
        (entries.map fun entry => fill :: (entry ++ [fill])) ++ [[]] := by
      have all := ih others
      rw [parts, opening] at all
      exact (List.cons.inj all).2
    have single : pieces (· == bar) (fill :: (entry ++ [fill])) = [fill :: (entry ++ [fill])] := by
      refine pieces_of_none fun c member => beq_eq_false_iff_ne.mpr ?_
      rintro rfl
      simp [apart.symm, first] at member
    have split : pieces (· == bar) (fill :: (entry ++ [fill]) ++ bar :: rest) =
        pieces (· == bar) (fill :: (entry ++ [fill])) ++ pieces (· == bar) rest :=
      @pieces_append_separator (· == bar) bar (beq_self_eq_true bar) _ _
    rw [ruled_cons, opening, parts, split, single, behind]
    rfl

/-- A line that is ruled in the widths of its entries falls into them. -/
theorem cut_ruled (entries : List Text) :
    cut (entries.map List.length) (ruled bar fill entries) = entries := by
  induction entries with
  | nil => rfl
  | cons entry entries ih =>
    have first : ((ruled bar fill (entry :: entries)).drop 2).take entry.length = entry := by
      simp [ruled_cons]
    have behind : (ruled bar fill (entry :: entries)).drop (entry.length + 3) =
        ruled bar fill entries := by
      have parts : ruled bar fill (entry :: entries) =
          (bar :: fill :: (entry ++ [fill])) ++ ruled bar fill entries := by simp [ruled_cons]
      rw [parts]
      exact List.drop_left' (by simp)
    rw [List.map_cons, cut, first, behind, ih]

/-- The widths of the entries can be read off a divider. -/
theorem widths_ruled {entries : List Text} (bare : ∀ entry ∈ entries, '+' ∉ entry) :
    widths (ruled '+' '-' entries) = entries.map List.length := by
  rw [widths, pieces_ruled (by decide) bare]
  simp [Function.comp_def]

/-! ## The lines of a grid -/

/-- A line of a grid is ruled with bars. -/
theorem barred_eq_ruled {entries : List Text} (nonempty : entries ≠ []) :
    barred entries = ruled '|' ' ' entries :=
  join_eq_ruled nonempty

/-- A divider is ruled with plus signs. -/
theorem divider_eq_ruled {columns : List Column} (nonempty : columns ≠ []) :
    divider columns = ruled '+' '-' (columns.map fun c => List.replicate c.width '-') :=
  join_eq_ruled (by simpa using nonempty)

/-- A width that is raised to the lengths of some texts is at least each of them, and at least what
it was. -/
theorem length_le_foldl_max (texts : List Text) (start : Nat) :
    start ≤ texts.foldl (fun width s => max width s.length) start ∧
      ∀ s ∈ texts, s.length ≤ texts.foldl (fun width s => max width s.length) start := by
  induction texts generalizing start with
  | nil => simp
  | cons t texts ih =>
    obtain ⟨above, each⟩ := ih (max start t.length)
    refine ⟨le_trans (le_max_left _ _) above, fun s member => ?_⟩
    rcases List.mem_cons.mp member with rfl | member
    · exact le_trans (le_max_right _ _) above
    · exact each s member

/-- A column is as wide as its name. -/
theorem Column.length_name_le (c : Column) : c.name.length ≤ c.width :=
  le_trans (le_max_left _ _) (length_le_foldl_max c.texts _).1

/-- A column is as wide as each of its texts. -/
theorem Column.length_text_le {c : Column} {s : Text} (member : s ∈ c.texts) :
    s.length ≤ c.width :=
  (length_le_foldl_max c.texts _).2 s member

/-- A text that fits is padded to the width. -/
theorem length_padRight {fill : Char} {width : Nat} {s : Text} (fits : s.length ≤ width) :
    (padRight fill width s).length = width := by
  simp [padRight]
  omega

/-- The divider of a grid has the widths of the columns. -/
theorem widths_divider {columns : List Column} (nonempty : columns ≠ []) :
    widths (divider columns) = columns.map Column.width := by
  have bare : ∀ entry ∈ columns.map fun c => List.replicate c.width '-', '+' ∉ entry := by
    simp [List.mem_replicate]
  rw [divider_eq_ruled nonempty, widths_ruled bare]
  simp [Function.comp_def]

/-- Below a divider, the `i`-th entry of a line is the text and spaces behind it. -/
def Shows (divider line : Text) (i : Nat) (text : Text) : Prop :=
  ∃ padding, (cut (widths divider) line)[i]? = some (text ++ List.replicate padding ' ')

section

variable {columns : List Column} {entry : Column → Text}
  (fits : ∀ c ∈ columns, (entry c).length ≤ c.width)

include fits

/-- Entries that fit are padded to the widths of their columns. -/
theorem map_length_padRight :
    (columns.map fun c => padRight ' ' c.width (entry c)).map List.length =
      columns.map Column.width := by
  rw [List.map_map]
  exact List.map_congr_left fun c member => length_padRight (fits c member)

/-- A line whose entries fit is as long as the divider. -/
theorem length_barred :
    (barred (columns.map fun c => padRight ' ' c.width (entry c))).length =
      (divider columns).length := by
  rcases eq_or_ne columns [] with rfl | nonempty
  · rfl
  · rw [barred_eq_ruled (by simpa using nonempty), divider_eq_ruled nonempty]
    refine length_ruled ?_
    rw [map_length_padRight fits]
    simp [Function.comp_def]

/-- A line shows every entry that fits, in the place of its column. -/
theorem shows_barred {i : Nat} {c : Column} (place : columns[i]? = some c) :
    Shows (divider columns) (barred (columns.map fun c => padRight ' ' c.width (entry c))) i
      (entry c) := by
  have nonempty : columns ≠ [] := by
    rintro rfl
    cases place
  have whole : cut (widths (divider columns))
      (barred (columns.map fun c => padRight ' ' c.width (entry c))) =
        columns.map fun c => padRight ' ' c.width (entry c) := by
    rw [widths_divider nonempty, ← map_length_padRight fits,
      barred_eq_ruled (by simpa using nonempty), cut_ruled]
  exact ⟨c.width - (entry c).length, by rw [whole, List.getElem?_map, place]; rfl⟩

end

/-! ## Answers -/

/-- The lines of a grid fit together. They are equally long, there is one for each row, and what the
divider cuts out of them is the names and the whole texts of the cells. -/
structure Aligned (names : List Text) (rows : List Row) (divider header : Text)
    (rowLines : List Text) : Prop where
  length_rowLines : rowLines.length = rows.length
  length_line : ∀ line ∈ header :: rowLines, line.length = divider.length
  length_widths : names ≠ [] → (widths divider).length = names.length
  shows_name : ∀ (i : Nat) name, names[i]? = some name → Shows divider header i name
  shows_cell : ∀ (i j : Nat) (name line : Text) (row : Row), names[i]? = some name →
    rows[j]? = some row → rowLines[j]? = some line →
      ∃ (cell : Cell) (text : Text), row.get? name = some cell ∧ cell.text? = .ok text ∧
        Shows divider line i text

/-- To what stands at a place of a list, what stands there in a related list is related. -/
theorem getElem?_of_forall₂ {α β : Type} {R : α → β → Prop} {xs : List α} {ys : List β}
    (related : List.Forall₂ R xs ys) {i : Nat} {x : α} (place : xs[i]? = some x) :
    ∃ y, ys[i]? = some y ∧ R x y := by
  obtain ⟨inside, rfl⟩ := List.getElem?_eq_some_iff.mp place
  have inside' : i < ys.length := related.length_eq ▸ inside
  exact ⟨ys[i], List.getElem?_eq_getElem inside', related.get inside inside'⟩

/-- A column has the given name and a text for every row. -/
theorem column_eq_ok {rows : List Row} {name : Text} {c : Column}
    (ok : column rows name = .ok c) :
    c.name = name ∧ List.Forall₂ (fun row text => cellText name row = .ok text) rows c.texts := by
  obtain ⟨texts, found, same⟩ := exists_of_bind_eq_ok ok
  obtain rfl := Except.ok.inj same
  exact ⟨rfl, forall₂_of_mapM_eq_ok found⟩

/-- A cell that is shown is there and has a text. -/
theorem cellText_eq_ok {name : Text} {row : Row} {text : Text}
    (ok : cellText name row = .ok text) :
    ∃ cell, row.get? name = some cell ∧ cell.text? = .ok text := by
  unfold cellText at ok
  split at ok
  · exact ⟨_, ‹_›, ok⟩
  · cases ok

/-- A grid whose columns can be shown is aligned. -/
theorem aligned_of_columns {names : List Text} {rows : List Row} {columns : List Column}
    (ok : names.mapM (column rows) = .ok columns) :
    Aligned names rows (divider columns) (header columns)
      ((List.range rows.length).map (rowLine columns)) := by
  have each := forall₂_of_mapM_eq_ok ok
  have fits (j : Nat) (c : Column) : (c.texts.getD j []).length ≤ c.width := by
    rw [List.getD_eq_getElem?_getD]
    cases place : c.texts[j]? with
    | none => exact Nat.zero_le _
    | some text => exact Column.length_text_le (List.mem_of_getElem? place)
  refine ⟨by simp, ?_, fun nonempty => ?_, fun i name place => ?_, ?_⟩
  · refine List.forall_mem_cons.mpr ⟨length_barred fun c _ => c.length_name_le, ?_⟩
    intro line member
    obtain ⟨j, -, rfl⟩ := List.mem_map.mp member
    exact length_barred fun c _ => fits j c
  · have some : columns ≠ [] := by
      rintro rfl
      exact nonempty (List.forall₂_nil_right_iff.mp each)
    rw [widths_divider some, List.length_map, each.length_eq]
  · obtain ⟨c, found, made⟩ := getElem?_of_forall₂ each place
    rw [← (column_eq_ok made).1]
    exact shows_barred (fun c _ => c.length_name_le) found
  · intro i j name line row place here below
    obtain ⟨c, found, made⟩ := getElem?_of_forall₂ each place
    obtain ⟨text, entered, read⟩ := getElem?_of_forall₂ (column_eq_ok made).2 here
    obtain ⟨cell, stored, spelled⟩ := cellText_eq_ok read
    obtain rfl : rowLine columns j = line := by
      have inside : j < rows.length := (List.getElem?_eq_some_iff.mp here).1
      simpa [inside] using below
    have shown : Shows (divider columns) (rowLine columns j) i (c.texts.getD j []) :=
      shows_barred (fun c _ => fits j c) found
    rw [List.getD_eq_getElem?_getD, entered] at shown
    exact ⟨cell, text, stored, spelled, shown⟩

end Grid

namespace Table

open Grid

/-- **Grids.** A selection that is answered tells how many rows of the table it shows, and shows
them in a grid whose lines fit together, whatever the columns are called and the cells hold. -/
theorem answer_aligned {t : Table} {query : Text} {s : Selection} {lines : List Text}
    (selects : Statement.ofText query = .select s) (answered : t.answer query = .ok lines) :
    ∃ (shown : List Row) (divider header : Text) (rowLines : List Text),
      shown.Subperm t.rows ∧ lines.length = shown.length + 7 ∧
      lines = ["✔ Query OK, ".toList ++ Nat.toDigits 10 shown.length ++ " rows retrieved".toList,
          [], divider, header, divider] ++ rowLines ++
        [divider, '(' :: Nat.toDigits 10 shown.length ++ " rows)".toList] ∧
      Aligned (shownColumns t.columns s.columns) shown divider header rowLines := by
  rw [answer, selects] at answered
  obtain ⟨shown, among, drawn⟩ := exists_shown answered
  obtain ⟨columns, made, same⟩ := exists_of_bind_eq_ok drawn
  obtain rfl := Except.ok.inj same
  exact ⟨shown, Grid.divider columns, Grid.header columns,
    (List.range shown.length).map (rowLine columns), among, by simp [Grid.lines],
    by simp [Grid.lines], aligned_of_columns made⟩

/-- A table with a cell that holds a bar and is longer than any name. -/
def ledger : Table :=
  .ofRows [[("n".toList, .int 2), ("note".toList, .bool true)],
    [("n".toList, .int 1), ("note".toList, .text "bread | milk".toList)]]

/-- The bar in the cell is not taken for the end of its column. -/
theorem answer_aligned_ledger :
    ∃ s lines, Statement.ofText "select note, n from ledger order by n limit 1".toList =
        .select s ∧
      ledger.answer "select note, n from ledger order by n limit 1".toList = .ok lines ∧
      lines[5]? = some "| 1        | bread | milk |".toList ∧
      ∃ (shown : List Row) (divider header : Text) (rowLines : List Text),
        shown.Subperm ledger.rows ∧ lines.length = shown.length + 7 ∧
        Aligned (shownColumns ledger.columns s.columns) shown divider header rowLines := by
  have selects : Statement.ofText "select note, n from ledger order by n limit 1".toList =
      .select ⟨some ["note".toList, "n".toList], [], some ⟨"n".toList, false⟩, some [1]⟩ := by
    decide +kernel
  obtain ⟨lines, answered, row⟩ : ∃ lines,
      ledger.answer "select note, n from ledger order by n limit 1".toList = .ok lines ∧
        lines[5]? = some "| 1        | bread | milk |".toList :=
    ⟨["✔ Query OK, 1 rows retrieved".toList, [], "+----------+--------------+".toList,
      "| n        | note         |".toList, "+----------+--------------+".toList,
      "| 1        | bread | milk |".toList, "+----------+--------------+".toList,
      "(1 rows)".toList], by decide +kernel, by decide⟩
  obtain ⟨shown, divider, header, rowLines, among, count, -, aligned⟩ :=
    answer_aligned selects answered
  exact ⟨_, lines, selects, answered, row, shown, divider, header, rowLines, among, count, aligned⟩

end Table

end DryRun
