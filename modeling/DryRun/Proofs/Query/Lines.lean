import DryRun.Proofs.Query.Command
import DryRun.Proofs.Query.Failure
import DryRun.Proofs.Query.Grid

/-!
# Answers line by line

What a table answers is a list of lines, and none of them has a line feed in it, as long as no name
of a column and no text of a cell has one (`Table.SingleLined.not_mem_answer`). The query does not
matter. Of its text only the word that a syntax error quotes comes back, and a query in canonical
form has no other blanks than spaces (`Statement.not_mem_canonical`).

The built-in table is such a table, and what it says when a query fails is one line too.
-/

set_option autoImplicit false

namespace DryRun

open Text

/-- What a traversal that succeeds returns is what its elements return. -/
theorem mem_mapM_iff {α β ε : Type} {f : α → Except ε β} {xs : List α} {ys : List β}
    (ok : xs.mapM f = .ok ys) {y : β} : y ∈ ys ↔ ∃ x ∈ xs, f x = .ok y := by
  have related := forall₂_of_mapM_eq_ok ok
  clear ok
  induction related with
  | nil => simp
  | cons made _ ih => simp [ih, made, eq_comm]

/-- Digits are no line feeds. -/
theorem not_mem_toDigits (n : Nat) : '\n' ∉ Nat.toDigits 10 n := fun feed =>
  absurd (Nat.isDigit_of_mem_toDigits (by decide) (by decide) feed) (by decide)

/-- A character that is in no part and not in the separator is not in the joined text. -/
theorem Text.not_mem_join {c : Char} {separator : Text} {parts : List Text} (bare : c ∉ separator)
    (apart : ∀ part ∈ parts, c ∉ part) : c ∉ join separator parts := fun member =>
  (mem_join member).elim bare fun ⟨part, known, inside⟩ => apart part known inside

/-- The message about a long numeral is on one line. -/
theorem QueryError.not_mem_message_longNumeral (digits : Nat) :
    '\n' ∉ (QueryError.longNumeral digits).message :=
  List.not_mem_append (List.not_mem_append (by decide) (not_mem_toDigits digits)) (by decide)

namespace Statement

/-- A query in canonical form stands on one line. -/
theorem not_mem_canonical (query : Text) : '\n' ∉ canonical query := by
  refine not_mem_upper_feed (not_mem_join (by decide) fun word known feed => ?_)
  have solid := solid_of_mem_pieces (List.mem_filter.mp known).1 '\n' feed
  exact absurd solid (by decide)

/-- The word that is complained about is the first one of the query. -/
theorem eq_takeWhile_of_unknown {s word : Text} (unknown : ofCanonical s = .unknown word) :
    word = s.takeWhile (· != ' ') := by
  have none : ∀ command ∈ commands, ¬ command <+: s := fun command known front =>
    ofCanonical_ne_unknown known front word unknown
  rw [ofCanonical_of_no_command none] at unknown
  exact (Statement.unknown.inj unknown).symm

end Statement

namespace Grid

/-- The name of a column and the texts in it stand on one line each. -/
structure Column.SingleLined (c : Column) : Prop where
  name : '\n' ∉ c.name
  texts : ∀ text ∈ c.texts, '\n' ∉ text

/-- Entries of one line make a line of a grid. -/
theorem not_mem_barred {entries : List Text} (whole : ∀ entry ∈ entries, '\n' ∉ entry) :
    '\n' ∉ barred entries :=
  List.not_mem_append (List.not_mem_append (by decide) (not_mem_join (by decide) whole)) (by decide)

/-- A repeated character is no line feed if it is none once. -/
theorem not_mem_replicate (width : Nat) {fill : Char} (solid : fill ≠ '\n') :
    '\n' ∉ List.replicate width fill := fun feed =>
  solid (List.eq_of_mem_replicate feed).symm

/-- A divider is one line. -/
theorem not_mem_divider (columns : List Column) : '\n' ∉ divider columns := by
  refine List.not_mem_append (List.not_mem_append (by decide) (not_mem_join (by decide) ?_))
    (by decide)
  exact List.forall_mem_map.mpr fun c _ => not_mem_replicate c.width (by decide)

/-- The lines of a grid of such columns are single lines. -/
theorem not_mem_lines {columns : List Column} (single : ∀ c ∈ columns, c.SingleLined)
    (count : Nat) : ∀ line ∈ lines columns count, '\n' ∉ line := by
  have padded {entry : Column → Text} (whole : ∀ c ∈ columns, '\n' ∉ entry c) :
      '\n' ∉ barred (columns.map fun c => padRight ' ' c.width (entry c)) := by
    refine not_mem_barred (List.forall_mem_map.mpr fun c known => ?_)
    exact List.not_mem_append (whole c known) (not_mem_replicate _ (by decide))
  have heading : '\n' ∉ header columns := padded fun c known => (single c known).name
  have rows (i : Nat) : '\n' ∉ rowLine columns i := by
    refine padded fun c known => ?_
    rw [List.getD_eq_getElem?_getD]
    cases place : c.texts[i]? with
    | none => exact List.not_mem_nil
    | some text => exact (single c known).texts text (List.mem_of_getElem? place)
  simp only [lines, List.forall_mem_append, List.forall_mem_cons, List.forall_mem_map,
    List.not_mem_nil, false_imp_iff, implies_true, and_true]
  exact ⟨⟨⟨not_mem_divider columns, heading, not_mem_divider columns⟩, fun i _ => rows i⟩,
    not_mem_divider columns⟩

/-- Where names and cells stand on one line each, so do the lines of an answer. -/
theorem not_mem_answer {names : List Text} {rows : List Row} {lines : List Text}
    (named : ∀ name ∈ names, '\n' ∉ name)
    (filled : ∀ name ∈ names, ∀ row ∈ rows, ∀ s, cellText name row = .ok s → '\n' ∉ s)
    (answered : answer names rows = .ok lines) : ∀ line ∈ lines, '\n' ∉ line := by
  obtain ⟨columns, made, same⟩ := exists_of_bind_eq_ok answered
  obtain rfl := Except.ok.inj same
  have single : ∀ c ∈ columns, c.SingleLined := by
    intro c member
    obtain ⟨name, known, made⟩ := (mem_mapM_iff made).mp member
    obtain ⟨texts, read, same⟩ := exists_of_bind_eq_ok made
    obtain rfl := Except.ok.inj same
    refine ⟨named name known, fun text inside => ?_⟩
    obtain ⟨row, here, read⟩ := (mem_mapM_iff read).mp inside
    exact filled name known row here text read
  have counting : '\n' ∉ Nat.toDigits 10 rows.length := not_mem_toDigits _
  refine List.forall_mem_append.mpr
    ⟨List.forall_mem_append.mpr ⟨List.forall_mem_cons.mpr ⟨?_, by decide⟩, not_mem_lines single _⟩,
      List.forall_mem_singleton.mpr ?_⟩
  · exact List.not_mem_append (List.not_mem_append (by decide) counting) (by decide)
  · exact List.not_mem_append (List.not_mem_cons_of_ne_of_not_mem (by decide) counting) (by decide)

end Grid

namespace Table

/-- The names of the columns and the texts of the cells stand on one line each. -/
structure SingleLined (t : Table) : Prop where
  names : ∀ name ∈ t.columns, '\n' ∉ name
  cells : ∀ name ∈ t.columns, ∀ row ∈ t.rows, ∀ s, Grid.cellText name row = .ok s → '\n' ∉ s

/-- What such a table answers stands on one line each, whatever the query. -/
theorem SingleLined.not_mem_answer {t : Table} (single : t.SingleLined) {query : Text}
    {lines : List Text} (answered : t.answer query = .ok lines) : ∀ line ∈ lines, '\n' ∉ line := by
  rw [answer] at answered
  cases statement : Statement.ofText query with
  | select s =>
    rw [statement] at answered
    obtain ⟨shown, among, drawn⟩ := exists_shown answered
    have known : shownColumns t.columns s.columns ⊆ t.columns := shownColumns_subset _ _
    exact Grid.not_mem_answer (fun name member => single.names name (known member))
      (fun name member row here => single.cells name (known member) row (among.subset here)) drawn
  | insert | update | delete =>
    rw [statement] at answered
    obtain rfl := Except.ok.inj answered
    decide
  | unknown word =>
    rw [statement] at answered
    obtain rfl := Except.ok.inj answered
    obtain rfl := Statement.eq_takeWhile_of_unknown statement
    refine List.forall_mem_singleton.mpr (List.not_mem_append (List.not_mem_append (by decide) ?_)
      (by decide))
    exact fun feed =>
      Statement.not_mem_canonical query ((List.takeWhile_prefix _).subset feed)

/-- The cells of the users are on one line. -/
theorem singleLined_users : users.SingleLined := by
  have all : ∀ name ∈ users.columns, '\n' ∉ name ∧ ∀ row ∈ users.rows,
      (Grid.cellText name row).toOption.all ('\n' ∉ ·) = true := by decide
  refine ⟨fun name known => (all name known).1, fun name known row here s read => ?_⟩
  have whole := (all name known).2 row here
  rw [read] at whole
  exact of_decide_eq_true whole

/-- Why a query on the built-in table fails is told on one line. -/
theorem not_mem_message_users {query : Text} {error : QueryError}
    (failed : users.answer query = .error error) : '\n' ∉ error.message := by
  obtain ⟨digits, -, -, rfl⟩ := uniform_users.answer_eq_error_iff.mp failed
  exact QueryError.not_mem_message_longNumeral _

end Table

end DryRun
