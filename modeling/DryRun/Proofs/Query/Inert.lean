import DryRun.Proofs.Query.Answer
import DryRun.Proofs.Query.Quotation

/-!
# Quoted names that are found

A table that is asked for the rows of a quoted name shows these rows, in its order, if the name is
inert: read in capitals it stays as it is, and neither a word nor an order nor a row count in it is
taken for a part of the query (`Statement.Inert`). A name with a word such as "and" in it, or with
two spaces in a row, is not.

Nothing less will do, for each of the conditions there is a table that tells
(`Statement.inert_of_answers`): a single row with the name, one row more than the row count, or two
rows that an order turns around.
-/

set_option autoImplicit false

namespace DryRun

open Text Statement

/-! ## Rows by name -/

namespace Table

/-- A table has a text as a name in every row. -/
structure HasNames (t : Table) : Prop where
  column : "name".toList ∈ t.columns
  texts : ∀ row ∈ t.rows, ∃ s, row.get? "name".toList = some (.text s)

/-- Whether the name in a row is the given one, whatever the letter case. -/
def isNamed (v : Text) (row : Row) : Bool :=
  match row.get? "name".toList with
  | some (.text s) => upper s == upper v
  | _ => false

/-- A row has a name if its name and that one agree in capitals. -/
theorem isNamed_eq {v s : Text} {row : Row} (found : row.get? "name".toList = some (.text s)) :
    isNamed v row = decide (upper s = upper v) := by
  simp only [isNamed, found]
  exact beq_eq_decide _ _

/-- Names that agree in capitals are had by the same rows. -/
theorem isNamed_congr {v x : Text} (same : upper x = upper v) : isNamed x = isNamed v := by
  funext row
  simp only [isNamed, same]

/-- What is answered to the query depends on the quotation as it is read, on the conditions, the
order and the limit that are found in it. -/
theorem answer_nameQuery {v q : Text} (read : canonical (quotation v) = q) (t : Table) :
    t.answer (nameQuery v) = (do
      let rows ← filterRows t.columns (conditions (opening ++ ' ' :: q)) t.rows
      let rows ← sortRows t.columns (firstAt? orderHere? q) rows
      let rows ← limitRows (firstAt? limitHere? q) rows
      Grid.answer t.columns rows) := by
  subst read
  rw [answer, ofText_nameQuery]
  rfl

/-- A condition on the name comes first. -/
theorem filterRows_name {t : Table} (names : t.HasNames) (x : Text) (others : List Condition) :
    filterRows t.columns (⟨"name".toList, .eq, .text x⟩ :: others) t.rows =
      filterRows t.columns others (t.rows.filter (isNamed x)) := by
  have selects : ∀ row ∈ t.rows, (⟨"name".toList, .eq, .text x⟩ : Condition).selects row =
      .ok (isNamed x row) := by
    intro row member
    obtain ⟨s, found⟩ := names.texts row member
    rw [Condition.selects_text found, isNamed_eq found]
  rw [filterRows, if_pos (List.contains_iff_mem.mpr names.column), Condition.filter_eq selects]
  rfl

end Table

/-! ## Texts that are left alone -/

namespace Statement

/-- A text that means nothing else between quote marks than itself. -/
structure Inert (v : Text) : Prop where
  /-- No semicolon is dropped and no blank evened out. -/
  even : canonical (quotation v) = upper (quotation v)
  wordless : Wordless (upper (quotation v))
  /-- No order is read, except one that does not tell the names apart. -/
  unordered : ∀ order ∈ firstAt? orderHere? (upper (quotation v)),
    order.column = "name".toList ∧ ∀ s, upper s = upper v → lower s = lower v
  /-- No row count is read. -/
  unlimited : firstAt? limitHere? (upper (quotation v)) = none

variable {v : Text}

/-- In capitals a quotation is the quotation of the capitals. -/
theorem upper_quotation (v : Text) : upper (quotation v) = quotation (upper v) := by
  simp [quotation, upper, show upperChar '\x27' = ['\x27'] by decide]

/-- Quotations of different texts differ. -/
theorem quotation_injective : Function.Injective quotation := by
  intro s t same
  simpa [quotation] using same

namespace Inert

variable (inert : Inert v)

include inert

/-- The one condition that is read is that the name be the given one. -/
theorem conditions_eq :
    conditions (opening ++ ' ' :: upper (quotation v)) =
      [⟨"name".toList, .eq, .text (upper v)⟩] := by
  have wordless := inert.wordless
  rw [upper_quotation] at wordless ⊢
  exact conditions_of_wordless wordless

/-- The rows with the given name are answered. -/
theorem answer {t : Table} (names : t.HasNames) :
    t.answer (nameQuery v) = Grid.answer t.columns (t.rows.filter (Table.isNamed v)) := by
  have filtered : Table.filterRows t.columns [⟨"name".toList, .eq, .text (upper v)⟩] t.rows =
      .ok (t.rows.filter (Table.isNamed v)) := by
    rw [Table.filterRows_name names, Table.isNamed_congr (upper_upper v)]
    rfl
  have sorted : Table.sortRows t.columns (firstAt? orderHere? (upper (quotation v)))
      (t.rows.filter (Table.isNamed v)) = .ok (t.rows.filter (Table.isNamed v)) := by
    cases read : firstAt? orderHere? (upper (quotation v)) with
    | none => rfl
    | some order =>
      obtain ⟨byName, alike⟩ := inert.unordered order read
      -- All the names have the same small letters.
      have found : ∀ row ∈ t.rows.filter (Table.isNamed v), ∃ s,
          row.get? order.column = some (.text s) ∧ lower s = lower v := by
        intro row member
        obtain ⟨inside, named⟩ := List.mem_filter.mp member
        obtain ⟨s, found⟩ := names.texts row inside
        rw [Table.isNamed_eq found, decide_eq_true_eq] at named
        exact ⟨s, byName ▸ found, alike s named⟩
      refine Table.sortRows_of_rank_eq (.inr fun row member => (found row member).imp
        fun _ here => here.1) fun a left b right => ?_
      obtain ⟨s, first, small⟩ := found a left
      obtain ⟨u, second, small'⟩ := found b right
      simp only [Table.rank, first, second, Option.getD_some, Cell.rank, small, small']
  rw [Table.answer_nameQuery inert.even, inert.conditions_eq, filtered]
  simp only [bind, Except.bind, sorted, inert.unlimited, Table.limitRows]

end Inert

/-! ## Tables that tell -/

end Statement

namespace Table

/-- A row with nothing but a name. -/
def nameRow (s : Text) : Row := [("name".toList, .text s)]

/-- A table of names. -/
def ofNames (names : List Text) : Table := ⟨["name".toList], names.map nameRow⟩

/-- The row of a name has that name. -/
theorem get?_name (s : Text) : Record.get? (nameRow s) "name".toList = some (.text s) := by
  simp [nameRow, Record.get?]

/-- In a table of names every row has a name. -/
theorem hasNames_ofNames (names : List Text) : (ofNames names).HasNames := by
  refine ⟨List.mem_cons_self, fun row member => ?_⟩
  obtain ⟨s, -, rfl⟩ := List.mem_map.mp member
  exact ⟨s, get?_name s⟩

/-- If all names agree with the given one in capitals no row is left out. -/
theorem filter_ofNames {v : Text} {names : List Text} (alike : ∀ s ∈ names, upper s = upper v) :
    (ofNames names).rows.filter (isNamed v) = (ofNames names).rows := by
  rw [List.filter_eq_self]
  intro row member
  obtain ⟨s, known, rfl⟩ := List.mem_map.mp member
  rw [isNamed_eq (get?_name s), decide_eq_true_eq]
  exact alike s known

/-- In the row of a name the name is shown. -/
theorem cellText_name (s : Text) : Grid.cellText "name".toList (nameRow s) = .ok s := by
  simp only [Grid.cellText, get?_name, Cell.text?]

/-- A table of names can be shown. -/
theorem readable_ofNames (names : List Text) :
    Grid.Readable ["name".toList] (ofNames names).rows := by
  intro column known row member
  obtain rfl := List.mem_singleton.mp known
  obtain ⟨s, -, rfl⟩ := List.mem_map.mp member
  exact ⟨s, cellText_name s⟩

/-- A row with a number in front of the name. -/
def numbered (column v : Text) (i : Int) : Row := [(column, .int i), ("name".toList, .text v)]

/-- A numbered row has its number in the column. -/
theorem get?_numbered (column v : Text) (i : Int) :
    Record.get? (numbered column v i) column = some (.int i) := by
  simp [numbered, Record.get?]

/-- A numbered row has its name, unless the name's column is the one with the numbers. -/
theorem get?_name_numbered {column : Text} (other : column ≠ "name".toList) (v : Text) (i : Int) :
    Record.get? (numbered column v i) "name".toList = some (.text v) := by
  have apart : ("name".toList == column) = false := beq_eq_false_iff_ne.mpr other.symm
  rw [numbered, Record.get?, List.lookup_cons, apart]
  exact get?_name v

/-- Numbered rows have names. -/
theorem hasNames_numbered {column : Text} (other : column ≠ "name".toList) (v : Text) :
    HasNames ⟨[column, "name".toList], [numbered column v 0, numbered column v 1]⟩ := by
  refine ⟨by simp, fun row member => ?_⟩
  rcases List.mem_pair.mp member with rfl | rfl
  · exact ⟨v, get?_name_numbered other v 0⟩
  · exact ⟨v, get?_name_numbered other v 1⟩

/-- Numbered rows have the given name. -/
theorem isNamed_numbered {column : Text} (other : column ≠ "name".toList) (v : Text) (i : Int) :
    isNamed v (numbered column v i) = true := by
  rw [isNamed_eq (get?_name_numbered other v i), decide_eq_true_eq]

/-- The column of the numbers has numbers only. -/
theorem oneKind_numbered (column v : Text) :
    OneKind column [numbered column v 0, numbered column v 1] := by
  refine .inl fun row member => ?_
  rcases List.mem_pair.mp member with rfl | rfl
  · exact ⟨0, get?_numbered column v 0⟩
  · exact ⟨1, get?_numbered column v 1⟩

/-- Rows with different numbers are told apart when they are sorted. -/
theorem rank_numbered_ne (column v : Text) :
    rank column (numbered column v 0) ≠ rank column (numbered column v 1) := by
  intro same
  simp [rank, get?_numbered, Cell.rank] at same

/-- Two numbered rows do not look the same. -/
theorem answer_numbered_ne {column : Text} (other : column ≠ "name".toList) (v : Text) :
    Grid.answer [column, "name".toList] [numbered column v 0, numbered column v 1] ≠
      Grid.answer [column, "name".toList] [numbered column v 1, numbered column v 0] := by
  have zero : Grid.cellText column (numbered column v 0) = .ok ['0'] := by
    simp only [Grid.cellText, get?_numbered, Cell.text?]
    rfl
  have one : Grid.cellText column (numbered column v 1) = .ok ['1'] := by
    simp only [Grid.cellText, get?_numbered, Cell.text?]
    rfl
  have name (i : Int) : Grid.cellText "name".toList (numbered column v i) = .ok v := by
    simp only [Grid.cellText, get?_name_numbered other, Cell.text?]
  intro same
  have readable : Grid.Readable [column, "name".toList]
      [numbered column v 0, numbered column v 1] := by
    intro n known row member
    rcases List.mem_pair.mp known with rfl | rfl <;> rcases List.mem_pair.mp member with rfl | rfl
    exacts [⟨_, zero⟩, ⟨_, one⟩, ⟨v, name 0⟩, ⟨v, name 1⟩]
  have lines := Grid.rowLine_eq_of_answer_eq readable same
  simp [Grid.rowLine, Grid.barred, join, padRight, Grid.shown_eq zero, Grid.shown_eq one] at lines

/-- The row of a name is sorted by the name in small letters. -/
theorem rank_name (s : Text) : rank "name".toList (nameRow s) = Sum.inrₗ (lower s) := by
  rw [rank, get?_name]
  rfl

/-- Blanks at the end do not hide what differs only in letter case. -/
theorem eq_of_append_blanks {v s : Text} (same : upper s = upper v) {i j : Nat}
    (padded : v ++ List.replicate i ' ' = s ++ List.replicate j ' ') : s = v := by
  have capitals := congrArg upper padded
  have blanks (n : Nat) : upper (List.replicate n ' ') = List.replicate n ' ' := by
    induction n with
    | zero => rfl
    | succ n ih =>
      rw [List.replicate_succ, upper, List.flatMap_cons, ← upper, ih]
      rfl
  rw [upper_append, upper_append, blanks, blanks, same, List.append_cancel_left_eq,
    List.replicate_inj] at capitals
  rw [capitals.1] at padded
  exact (List.append_cancel_right padded).symm

/-- Two names that differ only in letter case do not look the same. -/
theorem answer_ofNames_ne {v s : Text} (same : upper s = upper v) (different : s ≠ v) :
    Grid.answer ["name".toList] (ofNames [v, s]).rows ≠
      Grid.answer ["name".toList] (ofNames [s, v]).rows := by
  intro swapped
  have lines := Grid.rowLine_eq_of_answer_eq (readable_ofNames [v, s]) swapped
  simp only [List.map_cons, List.map_nil, Grid.shown_eq (cellText_name v),
    Grid.shown_eq (cellText_name s)] at lines
  have padded := List.append_cancel_left (List.append_cancel_right lines)
  exact different (eq_of_append_blanks same padded)

end Table

namespace Statement

section

variable {v : Text} (answers : ∀ t : Table, t.HasNames →
  t.answer (nameQuery v) = Grid.answer t.columns (t.rows.filter (Table.isNamed v)))

include answers

/-- If the query is answered right, then of a table whose names all agree with the given one every
row meets the conditions and is still there after sorting and limiting. -/
theorem exists_rows {q : Text} (read : canonical (quotation v) = q) (names : List Text)
    (alike : ∀ s ∈ names, upper s = upper v) :
    ∃ met sorted rows,
      Table.filterRows ["name".toList] (conditions (opening ++ ' ' :: q))
        (Table.ofNames names).rows = .ok met ∧
      Table.sortRows ["name".toList] (firstAt? orderHere? q) met = .ok sorted ∧
      Table.limitRows (firstAt? limitHere? q) sorted = .ok rows ∧ rows.length = names.length := by
  have answered := answers (Table.ofNames names) (Table.hasNames_ofNames names)
  have expected := Grid.answer_eq (Table.readable_ofNames names)
  rw [Table.filter_ofNames alike, Table.answer_nameQuery read] at answered
  rw [show Grid.answer (Table.ofNames names).columns _ = _ from expected] at answered
  obtain ⟨met, filtered, answered⟩ := exists_of_bind_eq_ok answered
  obtain ⟨sorted, ordered, answered⟩ := exists_of_bind_eq_ok answered
  obtain ⟨rows, limited, answered⟩ := exists_of_bind_eq_ok answered
  refine ⟨met, sorted, rows, filtered, ordered, limited, ?_⟩
  have all : (Table.ofNames names).rows.length = names.length := List.length_map _
  have lines := Grid.length_answer expected
  have found := Grid.length_answer answered
  omega

/-- The one row with the name is found if the first literal is the name. -/
theorem upper_literal {q x : Text} {others : List Condition} (read : canonical (quotation v) = q)
    (first : conditions (opening ++ ' ' :: q) = ⟨"name".toList, .eq, .text x⟩ :: others) :
    upper x = upper v := by
  by_contra unlike
  obtain ⟨met, sorted, rows, filtered, ordered, limited, one⟩ :=
    exists_rows answers read [v] (by simp)
  have missed : (Table.ofNames [v]).rows.filter (Table.isNamed x) = [] := by
    have other : Table.isNamed x (Table.nameRow v) = false := by
      rw [Table.isNamed_eq (Table.get?_name v), decide_eq_false_iff_not]
      exact fun same => unlike same.symm
    exact List.filter_cons_of_neg (by rw [other]; exact Bool.false_ne_true)
  have none := Table.filterRows_name (Table.hasNames_ofNames [v]) x others
  rw [missed, Table.filterRows_nil, ← first] at none
  obtain rfl := Except.ok.inj (filtered.symm.trans none)
  obtain rfl := Except.ok.inj (ordered.symm.trans (Table.sortRows_nil _ _))
  rw [List.prefix_nil.mp (Table.limitRows_prefix limited)] at one
  cases one

/-- Two rows with the name stand in the order of the table, so no order may tell them apart. -/
theorem answer_swap {q : Text} (read : canonical (quotation v) = q) {x : Text}
    (only : conditions (opening ++ ' ' :: q) = [⟨"name".toList, .eq, .text x⟩])
    (alike : upper x = upper v) {order : SortOrder} (ordered : firstAt? orderHere? q = some order)
    {columns : List Text} {a b : Row} (names : (⟨columns, [a, b]⟩ : Table).HasNames)
    (first : Table.isNamed v a = true) (second : Table.isNamed v b = true)
    (known : order.column ∈ columns) (kind : Table.OneKind order.column [a, b])
    (apart : Table.rank order.column a ≠ Table.rank order.column b) :
    Grid.answer columns [a, b] = Grid.answer columns [b, a] := by
  have turned : (⟨columns, [b, a]⟩ : Table).HasNames :=
    ⟨names.column, fun row member => names.texts row ((List.Perm.swap a b []).subset member)⟩
  have filtered := Table.filterRows_name names x []
  have filtered' := Table.filterRows_name turned x []
  rw [← only, Table.isNamed_congr alike] at filtered filtered'
  have left := answers _ names
  have right := answers _ turned
  rw [Table.answer_nameQuery read, ordered] at left right
  simp only [List.filter_cons, first, second, if_true, List.filter_nil, Table.filterRows]
    at filtered filtered' left right
  rw [filtered] at left
  rw [filtered'] at right
  have same := Table.sortRows_swap (List.contains_iff_mem.mpr known) kind apart
  rw [← left, ← right]
  simp only [bind, Except.bind, same]

/-- A text without an apostrophe whose query is answered right is inert. -/
theorem inert_of_answers (bare : '\x27' ∉ v) : Inert v := by
  obtain ⟨inner, read, single⟩ := canonical_quotation bare
  -- A word that cuts the query inside the text would leave the opening mark in the literal.
  have wordless : Wordless (quotation inner) := by
    by_contra worded
    obtain ⟨x, others, first⟩ := conditions_of_not_wordless single worded
    have mark := upper_literal answers read first
    exact not_mem_upper_quote bare (mark ▸ mem_upper List.mem_cons_self (by decide))
  have alike := upper_literal answers read (conditions_of_wordless wordless)
  have capitals : inner = upper v := by
    have fixed := upper_canonical (quotation v)
    rw [read, upper_quotation] at fixed
    rw [← quotation_injective fixed, alike]
  subst capitals
  rw [← upper_quotation] at read
  have only := conditions_of_wordless wordless
  rw [← upper_quotation] at only
  refine ⟨read, by rwa [upper_quotation], fun order ordered => ?_, ?_⟩
  -- An order by another column would swap two rows that have the same name.
  · have byName : order.column = "name".toList := by
      by_contra other
      have swapped := answer_swap answers read only alike ordered
        (Table.hasNames_numbered other v) (Table.isNamed_numbered other v 0)
        (Table.isNamed_numbered other v 1) List.mem_cons_self
        (Table.oneKind_numbered order.column v) (Table.rank_numbered_ne order.column v)
      exact Table.answer_numbered_ne other v swapped
    refine ⟨byName, fun s same => ?_⟩
    -- An order by name would swap two rows whose names differ in their capitals alone.
    by_contra different
    have swapped := answer_swap answers read only alike ordered
      (Table.hasNames_ofNames [v, s])
      (by rw [Table.isNamed_eq (Table.get?_name v), decide_eq_true_eq])
      (by rw [Table.isNamed_eq (Table.get?_name s), decide_eq_true_eq, same])
      (by rw [byName]; exact List.mem_cons_self)
      (by rw [byName]; exact .inr (Table.hasNames_ofNames [v, s]).texts)
      (by
        rw [byName, Table.rank_name, Table.rank_name]
        exact fun equal => different (Sum.inr_injective equal).symm)
    exact Table.answer_ofNames_ne same (fun equal => different (by rw [equal])) swapped
  -- A limit would cut off the last of so many equal rows.
  · rw [Option.eq_none_iff_forall_ne_some]
    intro digits limit
    obtain ⟨met, sorted, rows, -, -, limited, all⟩ :=
      exists_rows answers read (List.replicate (Numeral.value digits + 1) v) (by simp)
    rw [limit] at limited
    have few := Table.length_limitRows limited
    rw [List.length_replicate] at all
    omega

end

/-- A word that is not in a text is not in its quotation. -/
theorem not_infix_quotation {word s : Text} (isWord : IsWord word) (missing : ¬word <:+: s) :
    ¬word <:+: quotation s := by
  have other : isWordChar '\x27' = false := by decide
  have mark : ¬word <:+: ['\x27'] := isWord.not_infix_singleton other
  intro inside
  rcases infix_append (a := ['\x27']) isWord (.of_left (by simpa using other) _) inside with
    first | inside
  · exact mark first
  · exact (infix_append isWord (.of_right _ (by simpa using other)) inside).elim missing mark

/-- A text is inert if its words are apart by single spaces, it has no semicolon, and none of four
words stands in it, whatever the letter case. -/
theorem inert_of_free {v : Text} (whole : ';' ∉ v)
    (spaced : join [' '] (words (quotation v)) = quotation v)
    (free : ∀ k ∈ "AND".toList :: closingWords, ¬k <:+: upper v) : Inert v := by
  have isWord : ∀ k ∈ "AND".toList :: closingWords, IsWord k :=
    List.forall_mem_cons.mpr ⟨Query.isWord_and _ List.mem_cons_self, isWord_closing⟩
  have missing : ∀ k ∈ "AND".toList :: closingWords, ¬k <:+: upper (quotation v) := by
    intro k known
    rw [upper_quotation]
    exact not_infix_quotation (isWord k known) (free k known)
  obtain ⟨noAnd, noClosing⟩ := List.forall_mem_cons.mp missing
  have kept : (quotation v).filter (· != ';') = quotation v := by
    rw [List.filter_eq_self]
    intro c member
    rw [bne_iff_ne]
    rintro rfl
    simp [quotation, whole] at member
  have noOrder : firstAt? orderHere? (upper (quotation v)) = none :=
    firstAt?_of_not_infix (isWord_closing "ORDER".toList (by decide))
      (fun _ found => Query.begins_of_afterWord? found) (noClosing _ (by decide))
  have noLimit : firstAt? limitHere? (upper (quotation v)) = none :=
    firstAt?_of_not_infix (isWord_closing "LIMIT".toList (by decide))
      (fun _ found => Query.begins_of_afterWord? found) (noClosing _ (by decide))
  refine ⟨by rw [canonical, kept, spaced], ⟨?_, ?_⟩, by simp [noOrder], noLimit⟩
  · exact Keyword.split?_of_not_infix Query.isWord_and (List.forall_mem_singleton.mpr noAnd)
  · exact Keyword.split?_of_not_infix isWord_closing noClosing

/-- Asked for by a quoted name, a table shows the rows of that name, whatever other columns and
rows it has, exactly if the name is inert. It does show them unless a cell cannot be shown. -/
theorem answer_nameQuery_iff {v : Text} (bare : '\x27' ∉ v) :
    (∀ t : Table, t.HasNames →
      t.answer (nameQuery v) = Grid.answer t.columns (t.rows.filter (Table.isNamed v)) ∧
        (Grid.Readable t.columns t.rows → ∃ lines, t.answer (nameQuery v) = .ok lines)) ↔
      Inert v := by
  constructor
  · intro answers
    exact inert_of_answers (fun t names => (answers t names).1) bare
  · intro inert t names
    have answered := inert.answer names
    refine ⟨answered, ?_⟩
    intro readable
    rw [answered, Grid.answer_eq (readable.mono (List.filter_subset_self t.rows))]
    exact ⟨_, rfl⟩

/-- Parentheses, commas, points and signs in a name do no harm. -/
theorem answer_nameQuery_iff_punctuated :
    '\x27' ∉ "(Max), no. 5 = <5>".toList ∧ ∀ t : Table, t.HasNames →
      t.answer (nameQuery "(Max), no. 5 = <5>".toList) =
        Grid.answer t.columns (t.rows.filter (Table.isNamed "(Max), no. 5 = <5>".toList)) := by
  have bare : '\x27' ∉ "(Max), no. 5 = <5>".toList := by decide
  have free : ∀ k ∈ "AND".toList :: closingWords,
      occursIn k (upper "(Max), no. 5 = <5>".toList) = false := by decide +kernel
  have inert : Inert "(Max), no. 5 = <5>".toList := by
    apply inert_of_free
    · decide
    · decide
    · intro k known inside
      rw [← occursIn_iff, free k known] at inside
      cases inside
  refine ⟨bare, ?_⟩
  intro t names
  exact ((answer_nameQuery_iff bare).mpr inert t names).1

/-- A name with the word "and" in it is not found. -/
theorem answer_nameQuery_and :
    (Table.ofNames ["Rock AND Roll".toList, "Bob".toList]).HasNames ∧
      '\x27' ∉ "Rock AND Roll".toList ∧
      (Table.ofNames ["Rock AND Roll".toList, "Bob".toList]).answer
          (nameQuery "Rock AND Roll".toList) = Grid.answer ["name".toList] [] ∧
      Grid.answer ["name".toList] [] ≠ Grid.answer ["name".toList]
        ((Table.ofNames ["Rock AND Roll".toList, "Bob".toList]).rows.filter
          (Table.isNamed "Rock AND Roll".toList)) := by
  refine ⟨Table.hasNames_ofNames _, by decide, by decide +kernel, by decide +kernel⟩

end Statement

end DryRun
