import DryRun.Proofs.Query.Comparing
import DryRun.Proofs.Query.Sorting
import DryRun.Query.Table

/-!
# The steps of a selection

A selection filters the rows of a table, sorts them, keeps some of them and shows them as a grid.
Each step has its equation here: filtering if every row can be compared, sorting if a column holds
cells of one kind (`Table.sortRows_eq`), showing if every cell has a text (`Grid.answer_eq`).

A grid tells how many rows there are (`Grid.length_answer`) and which one of two rows comes first
(`Grid.rowLine_eq_of_answer_eq`).
-/

set_option autoImplicit false

namespace DryRun

/-- What goes on after something has gone well only if that did. -/
theorem exists_of_bind_eq_ok {α β ε : Type} {x : Except ε α} {f : α → Except ε β} {result : β}
    (ok : x >>= f = .ok result) : ∃ a, x = .ok a ∧ f a = .ok result := by
  cases x with
  | error e => cases ok
  | ok a => exact ⟨a, rfl, ok⟩

/-- A computation that succeeds on every element succeeds on the list. -/
theorem mapM_eq_map {α β ε : Type} {f : α → Except ε β} {g : α → β} {xs : List α}
    (ok : ∀ x ∈ xs, f x = .ok (g x)) : xs.mapM f = .ok (xs.map g) := by
  induction xs with
  | nil => rfl
  | cons x xs ih =>
    obtain ⟨first, others⟩ := List.forall_mem_cons.mp ok
    rw [List.mapM_cons, first, ih others]
    rfl

/-- A condition that fails on no row keeps those that it selects. -/
theorem Condition.filter_eq {c : Condition} {f : Row → Bool} {rows : List Row}
    (selects : ∀ row ∈ rows, c.selects row = .ok (f row)) :
    c.filter rows = .ok (rows.filter f) := by
  induction rows with
  | nil => rfl
  | cons row rows ih =>
    obtain ⟨first, others⟩ := List.forall_mem_cons.mp selects
    rw [Condition.filter, first, ih others, List.filter_cons]
    rfl

namespace Table

/-- Nothing is selected of no rows. -/
theorem filterRows_nil (columns : List Text) (conditions : List Condition) :
    filterRows columns conditions [] = .ok [] := by
  induction conditions with
  | nil => rfl
  | cons c conditions ih =>
    rw [filterRows]
    split
    · exact ih
    · exact ih

/-! ## Sorting -/

/-- Where a row stands in an order by a column. -/
def rank (column : Text) (row : Row) : ℤ ⊕ₗ List Char := ((row.get? column).getD .null).rank

/-- A column holds only integers or only texts. -/
def OneKind (column : Text) (rows : List Row) : Prop :=
  (∀ row ∈ rows, ∃ i, row.get? column = some (.int i)) ∨
    ∀ row ∈ rows, ∃ s, row.get? column = some (.text s)

/-- Some rows of a column of one kind have cells of that kind. -/
theorem OneKind.mono {column : Text} {rows some : List Row} (kind : OneKind column rows)
    (subset : some ⊆ rows) : OneKind column some := by
  rcases kind with ints | texts
  · left
    intro row member
    exact ints row (subset member)
  · right
    intro row member
    exact texts row (subset member)

/-- A row with the cell by which it is ordered. -/
def keyed (column : Text) (row : Row) : Cell × Row :=
  (((row.get? column).getD .null).lowered, row)

variable {column : Text} {rows : List Row} (kind : OneKind column rows)

include kind

/-- The key of a row that has one. -/
theorem sortKey_eq {row : Row} (member : row ∈ rows) :
    sortKey column row = .ok (keyed column row) := by
  rcases kind with ints | texts
  · obtain ⟨i, found⟩ := ints row member
    rw [sortKey, keyed, found]
    rfl
  · obtain ⟨s, found⟩ := texts row member
    rw [sortKey, keyed, found]
    rfl

/-- Any two rows compare as their ranks do. -/
theorem precedes_keyed {a b : Row} (left : a ∈ rows) (right : b ∈ rows) :
    (keyed column a).1.precedes (keyed column b).1 =
      .ok (decide (rank column a < rank column b)) := by
  refine Cell.precedes_lowered ?_
  rcases kind with ints | texts
  · obtain ⟨i, first⟩ := ints a left
    obtain ⟨j, second⟩ := ints b right
    rw [first, second]
    exact .inl ⟨⟨i, rfl⟩, j, rfl⟩
  · obtain ⟨s, first⟩ := texts a left
    obtain ⟨u, second⟩ := texts b right
    rw [first, second]
    exact .inr ⟨⟨s, rfl⟩, u, rfl⟩

/-- Rows are sorted by rank, in either direction. -/
theorem sortRows_eq {columns : List Text} (known : columns.contains column = true)
    (descending : Bool) :
    sortRows columns (some ⟨column, descending⟩) rows =
      .ok (if descending then rows.insertionSort fun a b => rank column b ≤ rank column a
        else rows.insertionSort fun a b => rank column a ≤ rank column b) := by
  have keys : rows.mapM (sortKey column) = .ok (rows.map (keyed column)) :=
    mapM_eq_map fun row member => sortKey_eq kind member
  have sound : ∀ pair ∈ rows.map (keyed column), pair.2 ∈ rows ∧ pair = keyed column pair.2 := by
    intro pair member
    obtain ⟨row, inside, rfl⟩ := List.mem_map.mp member
    exact ⟨inside, rfl⟩
  have compares {a b : Cell × Row} (left : a.2 ∈ rows ∧ a = keyed column a.2)
      (right : b.2 ∈ rows ∧ b = keyed column b.2) :
      a.1.precedes b.1 = .ok (decide (rank column a.2 < rank column b.2)) := by
    rw [left.2, right.2]
    exact precedes_keyed kind left.1 right.1
  have back (r : Row → Row → Prop) [DecidableRel r] :
      ((rows.map (keyed column)).insertionSort fun a b => r a.2 b.2).map Prod.snd =
        rows.insertionSort r := by
    rw [List.map_insertionSort _ r _ _ fun _ _ _ _ => .rfl, List.map_map]
    exact congrArg _ (List.map_id rows)
  simp only [sortRows, if_pos known, keys, bind, Except.bind, pure, Except.pure]
  cases descending with
  | true =>
    simp only [if_true, Sorting.sortDescending_eq compares sound,
      back fun a b => rank column b ≤ rank column a]
  | false =>
    simp only [Bool.false_eq_true, if_false, Sorting.sort_eq compares sound,
      back fun a b => rank column a ≤ rank column b]

omit kind

/-- Rows of one rank keep their order. -/
theorem sortRows_of_rank_eq {columns : List Text} {order : SortOrder} {rows : List Row}
    (kind : OneKind order.column rows)
    (alike : ∀ a ∈ rows, ∀ b ∈ rows, rank order.column a = rank order.column b) :
    sortRows columns (some order) rows = .ok rows := by
  by_cases known : columns.contains order.column = true
  · have up : rows.Pairwise fun a b => rank order.column a ≤ rank order.column b :=
      List.pairwise_of_forall_mem_list fun a left b right => (alike a left b right).le
    have down : rows.Pairwise fun a b => rank order.column b ≤ rank order.column a :=
      List.pairwise_of_forall_mem_list fun a left b right => (alike a left b right).ge
    rw [sortRows_eq kind known, up.insertionSort_eq, down.insertionSort_eq, ite_self]
  · rw [sortRows]
    exact if_neg known

/-- Without rows there is nothing to sort. -/
theorem sortRows_nil (columns : List Text) (order : Option SortOrder) :
    sortRows columns order [] = .ok [] := by
  cases order with
  | none => rfl
  | some order => exact sortRows_of_rank_eq (.inl (by simp)) (by simp)

/-- Two rows of different rank come in the same order, wherever they stood. -/
theorem sortRows_swap {columns : List Text} {order : SortOrder} {a b : Row}
    (known : columns.contains order.column = true) (kind : OneKind order.column [a, b])
    (apart : rank order.column a ≠ rank order.column b) :
    sortRows columns (some order) [a, b] = sortRows columns (some order) [b, a] := by
  have turned : OneKind order.column [b, a] := kind.mono (List.Perm.swap a b []).subset
  rw [sortRows_eq kind known, sortRows_eq turned known]
  simp only [List.insertionSort_cons, List.insertionSort_nil, List.orderedInsert_nil,
    List.orderedInsert_cons]
  rcases lt_or_gt_of_ne apart with less | greater
  · simp [less.le, less.not_ge]
  · simp [greater.le, greater.not_ge]

/-! ## Keeping the first rows -/

/-- A limit keeps the first rows. -/
theorem limitRows_prefix {limit : Option (List Nat)} {rows kept : List Row}
    (limited : limitRows limit rows = .ok kept) : kept <+: rows := by
  unfold limitRows at limited
  split at limited
  · obtain rfl := Except.ok.inj limited
    exact List.prefix_rfl
  · split at limited
    · cases limited
    · rw [← Except.ok.inj limited]
      apply List.take_prefix

/-- A limit keeps no more rows than it says. -/
theorem length_limitRows {digits : List Nat} {rows kept : List Row}
    (limited : limitRows (some digits) rows = .ok kept) : kept.length ≤ Numeral.value digits := by
  rw [limitRows] at limited
  split at limited
  · cases limited
  · obtain rfl := Except.ok.inj limited
    rw [List.length_take]
    omega

end Table

/-! ## Grids -/

namespace Grid

/-- The text that is shown of a cell. -/
def shown (name : Text) (row : Row) : Text :=
  match cellText name row with
  | .ok s => s
  | .error _ => []

/-- A cell that can be shown is shown by its text. -/
theorem shown_eq {name s : Text} {row : Row} (readable : cellText name row = .ok s) :
    shown name row = s := by
  rw [shown, readable]

/-- Every cell of some rows in some columns is there and can be shown. -/
def Readable (names : List Text) (rows : List Row) : Prop :=
  ∀ name ∈ names, ∀ row ∈ rows, ∃ s, cellText name row = .ok s

/-- Some rows of readable ones are readable. -/
theorem Readable.mono {names : List Text} {rows some : List Row} (readable : Readable names rows)
    (subset : some ⊆ rows) : Readable names some := by
  intro name known row member
  exact readable name known row (subset member)

/-- What can be shown is shown. -/
theorem answer_eq {names : List Text} {rows : List Row} (readable : Readable names rows) :
    answer names rows = .ok
      (["✔ Query OK, ".toList ++ Nat.toDigits 10 rows.length ++ " rows retrieved".toList, []] ++
        lines (names.map fun name => ⟨name, rows.map (shown name)⟩) rows.length ++
        ['(' :: Nat.toDigits 10 rows.length ++ " rows)".toList]) := by
  have texts (name : Text) (known : name ∈ names) :
      rows.mapM (cellText name) = .ok (rows.map (shown name)) :=
    mapM_eq_map fun row member => by
      obtain ⟨s, found⟩ := readable name known row member
      rw [found, shown_eq found]
  have columns : names.mapM (column rows) =
      .ok (names.map fun name => ⟨name, rows.map (shown name)⟩) :=
    mapM_eq_map fun name known => by
      rw [column, texts name known]
      rfl
  rw [answer, columns]
  rfl

/-- An answer has one line for each row, and seven more. -/
theorem length_answer {names : List Text} {rows : List Row} {lines : List Text}
    (answered : answer names rows = .ok lines) : lines.length = rows.length + 7 := by
  unfold answer at answered
  cases columns : names.mapM (column rows) with
  | error e => rw [columns] at answered; cases answered
  | ok columns' =>
    rw [columns] at answered
    obtain rfl := Except.ok.inj answered
    simp [Grid.lines]

/-- Where two rows may change places, their lines are the same. -/
theorem rowLine_eq_of_answer_eq {names : List Text} {a b : Row} (readable : Readable names [a, b])
    (same : answer names [a, b] = answer names [b, a]) :
    rowLine (names.map fun name => ⟨name, [shown name a, shown name b]⟩) 0 =
      rowLine (names.map fun name => ⟨name, [shown name b, shown name a]⟩) 0 := by
  have turned : Readable names [b, a] := readable.mono (List.Perm.swap a b []).subset
  rw [answer_eq readable, answer_eq turned] at same
  have lines := Except.ok.inj same
  simp only [Grid.lines, List.length_cons, List.length_nil, List.range_succ, List.range_zero,
    List.nil_append, List.map_cons, List.map_nil, List.cons_append, List.cons.injEq] at lines
  exact lines.2.2.2.2.2.1

end Grid

end DryRun
