import DryRun.Proofs.Query.Table

/-!
# What a selection answers

The answer to a selection is the grid of the columns and rows that it asks for
(`Query.answer_written`). The rows are those that meet every condition on a column of the table, in
the order that is asked for, those of the same rank as they stand in the table, and no more of them
than the row count allows (`Query.rows`). The columns are the named ones that the table has, in the
order of the table (`Query.shown`).

It is assumed that every column of the table holds only integers that are short enough to be shown,
or only texts (`Table.Uniform`); then no comparison fails and every cell has a text.
-/

set_option autoImplicit false

namespace DryRun

/-- Every column of a table holds integers that can be shown, or it holds texts. -/
def Table.Uniform (t : Table) : Prop :=
  ∀ column ∈ t.columns,
    (∀ row ∈ t.rows, ∃ i : Int, row.get? column = some (.int i) ∧
      (Nat.toDigits 10 i.natAbs).length ≤ Numeral.digitLimit) ∨
    ∀ row ∈ t.rows, ∃ s, row.get? column = some (.text s)

/-- Every column of a uniform table has cells of one kind. -/
theorem Table.Uniform.oneKind {t : Table} (uniform : t.Uniform) {column : Text}
    (known : column ∈ t.columns) : OneKind column t.rows := by
  rcases uniform column known with ints | texts
  · exact .inl fun row member => (ints row member).imp fun _ found => found.1
  · exact .inr texts

/-- The table of the users is uniform. -/
theorem Table.uniform_users : Table.users.Uniform := by
  intro column known
  obtain rfl | rfl | rfl | rfl | rfl : column = "id".toList ∨ column = "name".toList ∨
      column = "role".toList ∨ column = "active".toList ∨ column = "age".toList := by
    simpa [Table.users, Table.ofRows, Table.user, Record.names] using known
  case inr.inl | inr.inr.inl =>
    refine .inr ?_
    rintro row (_ | ⟨_, _ | ⟨_, _ | ⟨_, _ | ⟨_, _ | _⟩⟩⟩⟩)
    all_goals exact ⟨_, rfl⟩
  all_goals
    refine .inl ?_
    rintro row (_ | ⟨_, _ | ⟨_, _ | ⟨_, _ | ⟨_, _ | _⟩⟩⟩⟩)
    all_goals exact ⟨_, rfl, by decide⟩

namespace Query

/-- Whether a row meets a condition. A condition on no column of the table is met. -/
def Clause.meets (clause : Clause) (t : Table) (row : Row) : Bool :=
  !t.columns.contains clause.column.chars || (row.get? clause.column.chars).any clause.holds

/-- The cell by which a row is ordered. -/
def Order.cell (order : Order) (row : Row) : Cell := (row.get? order.column.chars).getD .null

def Order.rank (order : Order) (row : Row) : ℤ ⊕ₗ List Char := (order.cell row).rank

/-- The rows in an order. Rows of the same rank stay as they are. -/
def Order.sorted (order : Order) (rows : List Row) : List Row :=
  if order.direction = some .descending then
    rows.insertionSort fun a b => order.rank b ≤ order.rank a
  else rows.insertionSort fun a b => order.rank a ≤ order.rank b

/-- The rows in the order that a query asks for, if it is by a column of the table. -/
def sorted (q : Query) (t : Table) (rows : List Row) : List Row :=
  match q.order with
  | none => rows
  | some order => if t.columns.contains order.column.chars then order.sorted rows else rows

def limited (q : Query) (rows : List Row) : List Row :=
  match q.limit with
  | none => rows
  | some digits => rows.take digits.value

/-- The rows that a query asks for. -/
def rows (q : Query) (t : Table) : List Row :=
  q.limited (q.sorted t (t.rows.filter fun row => q.clauses.all fun clause => clause.meets t row))

/-- The columns that a query asks for. -/
def shown (q : Query) (t : Table) : List Text :=
  if q.names.isEmpty then t.columns
  else t.columns.filter fun column => q.names.any fun name => name.chars == column

/-! ## Any table -/

/-- The limit is applied as it was meant. -/
theorem limitRows_eq (q : Query) (rows : List Row) :
    Table.limitRows (q.limit.map fun digits => digits.values.map fun d : Fin 10 => d.val) rows =
      .ok (q.limited rows) := by
  cases asked : q.limit with
  | none => simp [Table.limitRows, limited, asked]
  | some digits =>
    have short : ¬Numeral.digitLimit < (digits.values.map fun d : Fin 10 => d.val).length := by
      simpa using digits.short
    rw [Option.map_some, Table.limitRows, if_neg short, digits.value_eq, limited, asked]

/-- Sorting brings in no row. -/
theorem sorted_subset (q : Query) (t : Table) (rows : List Row) : q.sorted t rows ⊆ rows := by
  intro row member
  unfold sorted at member
  split at member
  · exact member
  · unfold Order.sorted at member
    split at member
    · split at member
      all_goals exact (List.mem_insertionSort _).mp member
    · exact member

/-- The rows of an answer are rows of the table. -/
theorem rows_subset (q : Query) (t : Table) : q.rows t ⊆ t.rows := by
  intro row member
  have kept : row ∈ q.sorted t (t.rows.filter fun row => q.clauses.all fun clause =>
      clause.meets t row) := by
    unfold rows limited at member
    split at member
    · exact member
    · exact List.mem_of_mem_take member
  exact (List.mem_filter.mp (sorted_subset q t _ kept)).1

/-- The columns are shown that were meant. -/
theorem shownColumns_eq (q : Query) (t : Table) :
    Table.shownColumns t.columns q.selection.columns = q.shown t := by
  cases names : q.names with
  | nil => simp [selection, shown, names, Table.shownColumns]
  | cons name others =>
    simp only [selection, shown, names, Table.shownColumns, List.isEmpty_cons, Bool.false_eq_true,
      if_false]
    refine List.filter_congr fun column _ => ?_
    rw [Bool.eq_iff_iff, List.contains_iff_mem, List.mem_map, List.any_eq_true]
    constructor
    · rintro ⟨name, known, same⟩
      exact ⟨name, known, beq_iff_eq.mpr same⟩
    · rintro ⟨name, known, same⟩
      exact ⟨name, known, beq_iff_eq.mp same⟩

/-- The columns of an answer are columns of the table. -/
theorem shown_subset (q : Query) (t : Table) : q.shown t ⊆ t.columns := by
  unfold shown
  split
  · exact List.Subset.refl _
  · exact List.filter_subset_self _

/-! ## Tables with columns of one kind -/

section Uniform

variable {t : Table} (uniform : t.Uniform)

include uniform

/-- A condition selects the rows of which it holds. -/
theorem selects_eq {clause : Clause} (known : clause.column.chars ∈ t.columns) {row : Row}
    (member : row ∈ t.rows) :
    clause.condition.selects row = .ok ((row.get? clause.column.chars).any clause.holds) := by
  have cell : ∃ cell, row.get? clause.column.chars = some cell ∧ (cell.IsInt ∨ cell.IsText) := by
    rcases uniform _ known with ints | texts
    · obtain ⟨i, found, -⟩ := ints row member
      exact ⟨_, found, .inl ⟨i, rfl⟩⟩
    · obtain ⟨s, found⟩ := texts row member
      exact ⟨_, found, .inr ⟨s, rfl⟩⟩
  obtain ⟨cell, found, kind⟩ := cell
  rw [Condition.selects, show clause.condition.column = clause.column.chars from rfl, found]
  exact clause.selectsCell_eq kind

/-- The rows are kept that meet all conditions. -/
theorem filterRows_eq (clauses : List Clause) {rows : List Row} (subset : rows ⊆ t.rows) :
    Table.filterRows t.columns (clauses.map Clause.condition) rows =
      .ok (rows.filter fun row => clauses.all fun clause => clause.meets t row) := by
  induction clauses generalizing rows with
  | nil => simp [Table.filterRows]
  | cons clause clauses ih =>
    rw [List.map_cons, Table.filterRows,
      show clause.condition.column = clause.column.chars from rfl]
    by_cases known : t.columns.contains clause.column.chars = true
    · have first : ∀ row ∈ rows, clause.condition.selects row = .ok (clause.meets t row) := by
        intro row member
        rw [selects_eq uniform (List.contains_iff_mem.mp known) (subset member), Clause.meets,
          known]
        rfl
      rw [if_pos known, Condition.filter_eq first]
      refine (ih (List.Subset.trans (List.filter_subset_self rows) subset)).trans (congrArg _ ?_)
      rw [List.filter_filter]
      exact List.filter_congr fun row _ => by rw [List.all_cons, Bool.and_comm]
    · have always (row : Row) : clause.meets t row = true := by
        rw [Clause.meets, Bool.eq_false_iff.mpr known]
        rfl
      rw [if_neg known, ih subset]
      exact congrArg _ (List.filter_congr fun row _ => by rw [List.all_cons, always, Bool.true_and])

/-- The rows are sorted as it was meant. -/
theorem sortRows_eq (q : Query) {rows : List Row} (subset : rows ⊆ t.rows) :
    Table.sortRows t.columns (q.order.map Order.sortOrder) rows = .ok (q.sorted t rows) := by
  cases asked : q.order with
  | none => simp [Table.sortRows, sorted, asked]
  | some order =>
    rw [Option.map_some, Order.sortOrder, sorted, asked]
    by_cases known : t.columns.contains order.column.chars = true
    · have kind := uniform.oneKind (List.contains_iff_mem.mp known)
      simp only [Table.sortRows_eq (kind.mono subset) known, if_pos known, Order.sorted, beq_iff_eq]
      rfl
    · simp only [Table.sortRows, if_neg known]

/-- Every cell of a column can be shown. -/
theorem cellText_ok {column : Text} (known : column ∈ t.columns) {row : Row}
    (member : row ∈ t.rows) : ∃ s, Grid.cellText column row = .ok s := by
  rcases uniform _ known with ints | texts
  · obtain ⟨i, found, short⟩ := ints row member
    refine ⟨if i < 0 then '-' :: Nat.toDigits 10 i.natAbs else Nat.toDigits 10 i.natAbs, ?_⟩
    simp only [Grid.cellText, found, Cell.text?, Numeral.intText?, if_neg (not_lt.mpr short)]
  · obtain ⟨s, found⟩ := texts row member
    refine ⟨s, ?_⟩
    simp only [Grid.cellText, found, Cell.text?]

/-- Rows of a uniform table can be shown. -/
theorem answer_ok {rows : List Row} (subset : rows ⊆ t.rows) {names : List Text}
    (known : names ⊆ t.columns) : ∃ lines, Grid.answer names rows = .ok lines := by
  have readable : Grid.Readable names rows := by
    intro name member row inside
    exact cellText_ok uniform (known member) (subset inside)
  exact ⟨_, Grid.answer_eq readable⟩

/-- A selection is answered with the columns and rows that it asks for. -/
theorem answer_written {q : Query} {text : Text} (written : q.Written text) :
    ∃ lines, Grid.answer (q.shown t) (q.rows t) = .ok lines ∧ t.answer text = .ok lines := by
  obtain ⟨lines, answered⟩ := answer_ok uniform (rows_subset q t) (shown_subset q t)
  refine ⟨lines, answered, ?_⟩
  let met := t.rows.filter fun row => q.clauses.all fun clause => clause.meets t row
  have filtered : Table.filterRows t.columns q.selection.conditions t.rows = .ok met :=
    filterRows_eq uniform q.clauses (List.Subset.refl t.rows)
  have sorted : Table.sortRows t.columns q.selection.order met = .ok (q.sorted t met) :=
    sortRows_eq uniform q (List.filter_subset_self t.rows)
  have limited : Table.limitRows q.selection.limit (q.sorted t met) = .ok (q.rows t) :=
    limitRows_eq q (q.sorted t met)
  rw [Table.answer, written.ofText, Table.run, Table.select, shownColumns_eq]
  simp only [bind, Except.bind, filtered, sorted, limited, answered]

end Uniform

/-- A name given as a string. -/
def Name.ofString (s : String)
    (fit : (∀ c ∈ s.toList, c ∈ plainChars) ∧ (∀ k ∈ reserved, ¬k <:+: Text.upper s.toList) ∧
      Text.upper s.toList ≠ "AND".toList ∧ s.toList ≠ []) : Name :=
  ⟨⟨s.toList, fit.1, fit.2.1, fit.2.2.1⟩, fit.2.2.2⟩

/-- Name and age of the oldest one of the users with the role `User` from twenty years on. -/
def oldestUser : Query where
  names := [.ofString "name" (by decide +kernel), .ofString "age" (by decide +kernel)]
  table := .ofString "users" (by decide +kernel)
  clauses := [
    ⟨.ofString "role" (by decide +kernel), .equal,
      .quoted '\x27' (by decide) (Name.ofString "user" (by decide +kernel)).toWord⟩,
    ⟨.ofString "age" (by decide +kernel), .greaterEqual,
      .numeral [] (by decide) ⟨[2, 0], by decide, by decide⟩⟩]
  order := some ⟨.ofString "age" (by decide +kernel), some .descending⟩
  limit := some ⟨[1], by decide, by decide⟩

/-- The oldest of the ordinary users, asked for in a free spelling. -/
theorem answer_written_oldestUser :
    Table.users.Uniform ∧
      oldestUser.Written ("select Name, age from users where role = 'User' and age>=20 ".toList ++
        "order by age desc limit 1;".toList) ∧
      oldestUser.rows Table.users = [Table.user 3 "Charlie" "User" 1 35] ∧
      ∃ lines,
        Grid.answer (oldestUser.shown Table.users) (oldestUser.rows Table.users) = .ok lines ∧
        Table.users.answer ("select Name, age from users where role = 'User' and age>=20 ".toList ++
          "order by age desc limit 1;".toList) = .ok lines := by
  have written : oldestUser.Written
      ("select Name, age from users where role = 'User' and age>=20 ".toList ++
        "order by age desc limit 1;".toList) := by
    refine ⟨[] ++ ("select".toList ++ ([' '] ++ ("Name".toList ++ ([] ++ ([','] ++
      ([' '] ++ ("age".toList ++ ([' '] ++ ("from".toList ++ ([' '] ++ ("users".toList ++
      ([' '] ++ ("where".toList ++ ([' '] ++ ("role".toList ++ ([' '] ++ (['='] ++
      ([' '] ++ ("'User'".toList ++ ([' '] ++ ("and".toList ++ ([' '] ++ ("age".toList ++
      ([] ++ (['>', '='] ++ ([] ++ ("20".toList ++ ([' '] ++ ("order".toList ++
      ([' '] ++ ("by".toList ++ ([' '] ++ ("age".toList ++ ([' '] ++ ("desc".toList ++
      ([' '] ++ ("limit".toList ++ ([' '] ++ (['1'] ++ []))))))))))))))))))))))))))))))))))))))),
      [';'], by decide +kernel, ?_, by decide +kernel⟩
    iterate 20 refine .cons (by decide +kernel) (by decide +kernel) (by decide +kernel) ?_
    exact .nil _
  exact ⟨Table.uniform_users, written, by decide +kernel,
    answer_written Table.uniform_users written⟩

end Query

end DryRun
