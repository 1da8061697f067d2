import DryRun.Proofs.Query.Answer
import DryRun.Proofs.Query.Quotation

/-!
# When a query fails

A query on a table with columns of one kind fails for one reason only, the row count. Any literal
can be compared with an integer or a text (`Condition.exists_selects`), the rows that are left have
the columns of the table and can be sorted and shown, and a clause is there wherever its word is
looked for (`Statement.isSome_split?_where`). But the digits of a row count are read without a look
at how many they are, and more than `Numeral.digitLimit` of them cannot be converted
(`Table.answer_eq_error_iff`).

The built-in table is such a table (`Table.answer_users_iff`).
-/

set_option autoImplicit false

namespace DryRun

open Text Statement

/-! ## Conditions -/

/-- An integer or a text can be compared with every literal. -/
theorem Condition.exists_selects {c : Condition} {row : Row} {cell : Cell}
    (found : row.get? c.column = some cell) (kind : cell.IsInt ∨ cell.IsText) :
    ∃ selected, c.selects row = .ok selected := by
  rw [selects, found]
  rcases kind with ⟨i, rfl⟩ | ⟨s, rfl⟩
  · cases number : c.literal.number? with
    | none => exact ⟨false, by simp only [selectsCell, number]⟩
    | some n => exact ⟨_, by simp only [selectsCell, number, Cell.number?]; rfl⟩
  · exact ⟨_, rfl⟩

/-- Where no row fails, some of the rows are left. -/
theorem Condition.exists_filter {c : Condition} {rows : List Row}
    (selects : ∀ row ∈ rows, ∃ selected, c.selects row = .ok selected) :
    ∃ met, c.filter rows = .ok met ∧ met ⊆ rows := by
  have each : ∀ row ∈ rows, c.selects row = .ok ((c.selects row).toOption.getD false) := by
    intro row member
    obtain ⟨selected, found⟩ := selects row member
    rw [found]
    rfl
  exact ⟨_, Condition.filter_eq each, List.filter_subset_self rows⟩

/-- A keyword that is found in a text is found behind any other text, or one before it is. -/
theorem Keyword.isSome_split?_append {keywords : List Text} {s : Text}
    (found : ∀ previous, (split? keywords previous s).isSome = true) (front : Text)
    (previous : Option Char) : (split? keywords previous (front ++ s)).isSome = true := by
  induction front generalizing previous with
  | nil => exact found previous
  | cons c front ih =>
    rw [List.cons_append, split?]
    split
    · rfl
    · rw [Option.isSome_map, ih]

/-- The conditions stand behind a word that is there: where the word is found between two spaces, it
is found by itself. -/
theorem Statement.isSome_split?_where {s : Text} (occurs : occursIn " WHERE ".toList s = true) :
    (Keyword.split? ["WHERE".toList] none s).isSome = true := by
  have words : ∀ k ∈ ["WHERE".toList], IsWord k := by
    simpa using Query.isWord_of_mem_reserved (k := "WHERE".toList) (by decide)
  obtain ⟨before, after, rfl⟩ := occursIn_iff.mp occurs
  rw [List.append_assoc]
  refine Keyword.isSome_split?_append (fun previous => ?_) before none
  have next : (Keyword.split? ["WHERE".toList] (some ' ')
      ("WHERE".toList ++ ' ' :: after)).isSome = true :=
    congrArg Option.isSome
      (Keyword.split?_append_keyword (a := []) words List.mem_cons_self rfl rfl rfl)
  show (Keyword.split? ["WHERE".toList] previous
    (' ' :: ("WHERE".toList ++ ' ' :: after))).isSome = true
  rw [Keyword.split?]
  split
  · rfl
  · rw [Option.isSome_map, next]

/-! ## Tables with columns of one kind -/

namespace Table

/-- Only columns of the table are shown. -/
theorem shownColumns_subset (columns : List Text) (named : Option (List Text)) :
    shownColumns columns named ⊆ columns := by
  unfold shownColumns
  split
  · exact List.Subset.refl _
  · exact List.filter_subset_self _

variable {t : Table} (uniform : t.Uniform)

include uniform

/-- No condition makes a uniform table fail. -/
theorem Uniform.exists_filterRows (conditions : List Condition) {rows : List Row}
    (subset : rows ⊆ t.rows) :
    ∃ met, filterRows t.columns conditions rows = .ok met ∧ met ⊆ t.rows := by
  induction conditions generalizing rows with
  | nil => exact ⟨rows, rfl, subset⟩
  | cons c conditions ih =>
    rw [filterRows]
    split
    next known =>
      have selects : ∀ row ∈ rows, ∃ selected, c.selects row = .ok selected := by
        intro row member
        rcases uniform c.column (List.contains_iff_mem.mp known) with ints | texts
        · obtain ⟨i, found, -⟩ := ints row (subset member)
          exact Condition.exists_selects found (.inl ⟨i, rfl⟩)
        · obtain ⟨s, found⟩ := texts row (subset member)
          exact Condition.exists_selects found (.inr ⟨s, rfl⟩)
      obtain ⟨met, filtered, fewer⟩ := Condition.exists_filter selects
      rw [filtered]
      exact ih (List.Subset.trans fewer subset)
    next => exact ih subset

/-- No order makes a uniform table fail. -/
theorem Uniform.exists_sortRows (order : Option SortOrder) {rows : List Row}
    (subset : rows ⊆ t.rows) :
    ∃ sorted, sortRows t.columns order rows = .ok sorted ∧ sorted ⊆ t.rows := by
  cases order with
  | none => exact ⟨rows, rfl, subset⟩
  | some order =>
    by_cases known : t.columns.contains order.column = true
    · have kind := (uniform.oneKind (List.contains_iff_mem.mp known)).mono subset
      refine ⟨_, sortRows_eq kind known order.descending, fun row member => subset ?_⟩
      split at member
      · exact (List.mem_insertionSort _).mp member
      · exact (List.mem_insertionSort _).mp member
    · refine ⟨rows, ?_, subset⟩
      rw [sortRows, if_neg known]

/-- The rows of a uniform table can be shown. -/
theorem Uniform.exists_answer {rows : List Row} (subset : rows ⊆ t.rows)
    (named : Option (List Text)) :
    ∃ lines, Grid.answer (shownColumns t.columns named) rows = .ok lines :=
  Query.answer_ok uniform subset (shownColumns_subset _ named)

/-- A selection fails exactly if its row count has too many digits. -/
theorem Uniform.select_eq_error_iff {s : Selection} {e : QueryError} :
    t.select s = .error e ↔
      ∃ digits ∈ s.limit, Numeral.digitLimit < digits.length ∧ e = .longNumeral digits.length := by
  obtain ⟨met, filtered, subset⟩ := uniform.exists_filterRows s.conditions (List.Subset.refl t.rows)
  obtain ⟨sorted, ordered, subset⟩ := uniform.exists_sortRows s.order subset
  have same : t.select s = (do
      let rows ← limitRows s.limit sorted
      Grid.answer (shownColumns t.columns s.columns) rows) := by
    simp only [select, filtered, ordered, bind, Except.bind]
  have shown {rows : List Row} (limited : limitRows s.limit sorted = .ok rows) :
      t.select s ≠ .error e := by
    have first : rows <+: sorted := limitRows_prefix limited
    obtain ⟨lines, answered⟩ := uniform.exists_answer (List.Subset.trans first.subset subset)
      s.columns
    rw [same, limited]
    simp [bind, Except.bind, answered]
  cases limit : s.limit with
  | none => exact iff_of_false (shown (by rw [limit]; rfl)) (by simp)
  | some digits =>
    by_cases long : Numeral.digitLimit < digits.length
    · have failed : limitRows s.limit sorted = .error (.longNumeral digits.length) := by
        rw [limit, limitRows, if_pos long]
      rw [same, failed]
      simp [bind, Except.bind, long, eq_comm]
    · have limited : limitRows s.limit sorted = .ok (sorted.take (Numeral.value digits)) := by
        rw [limit, limitRows, if_neg long]
      exact iff_of_false (shown limited) (by simp [long])

end Table

/-! ## Queries -/

/-- The digits of the row count that a query states, if it is a selection. -/
def Statement.rowCount? (query : Text) : Option (List Nat) :=
  match ofText query with
  | .select selection => selection.limit
  | _ => none

namespace Table

/-- A query fails exactly if it states a row count of too many digits. -/
theorem Uniform.answer_eq_error_iff {t : Table} (uniform : t.Uniform) {query : Text}
    {e : QueryError} :
    t.answer query = .error e ↔
      ∃ digits ∈ rowCount? query,
        Numeral.digitLimit < digits.length ∧ e = .longNumeral digits.length := by
  rw [answer, rowCount?]
  cases ofText query with
  | select selection => exact uniform.select_eq_error_iff
  | insert => simp [run]
  | update => simp [run]
  | delete => simp [run]
  | unknown word => simp [run]

/-- **Failures.** Every query on the built-in table is answered with lines of text, unless it states
a row count of more digits than can be converted. The conditions of a query are found wherever they
are looked for. -/
theorem answer_users_iff (query : Text) :
    ((∃ lines, users.answer query = .ok lines) ↔
        ∀ digits ∈ rowCount? query, digits.length ≤ Numeral.digitLimit) ∧
      (occursIn " WHERE ".toList (canonical query) = true →
        (Keyword.split? ["WHERE".toList] none (canonical query)).isSome = true) := by
  refine ⟨?_, isSome_split?_where⟩
  constructor
  · rintro ⟨lines, answered⟩ digits counted
    by_contra long
    have failed := uniform_users.answer_eq_error_iff.mpr ⟨digits, counted, not_le.mp long, rfl⟩
    rw [failed] at answered
    cases answered
  · intro short
    cases answered : users.answer query with
    | ok lines => exact ⟨lines, rfl⟩
    | error e =>
      obtain ⟨digits, counted, long, -⟩ := uniform_users.answer_eq_error_iff.mp answered
      exact absurd (short digits counted) (not_le.mpr long)

end Table

/-! ## A query with a row count -/

namespace Statement

/-- A token is the one word of itself. -/
theorem words_of_isToken {s : Text} (isToken : IsToken s) :
    words (s.filter (· != ';')) = [s] := by
  have kept : s.filter (· != ';') = s := List.filter_eq_self.mpr fun c member =>
    bne_iff_ne.mpr (isToken.solid c member).2
  rw [kept, words_of_solid isToken.some fun c member => (isToken.solid c member).1]

/-- What stands in front of the row count in a query for some of the users. -/
def counting : Text := "SELECT * FROM USERS LIMIT".toList

/-- The digits of a row count are all read, however many there are. -/
theorem rowCount?_counting {values : List (Fin 10)} (nonempty : values ≠ []) :
    rowCount? (counting ++ ' ' :: values.map fun d => Nat.digitChar d.val) =
      some (values.map fun d => d.val) := by
  let numeral : Text := values.map fun d => Nat.digitChar d.val
  have isToken : IsToken numeral := Query.isToken_of_isWord (Query.isWord_numeral nonempty)
  have capitals : upper numeral = numeral := by
    -- Digits have no case, and there are only ten of them.
    have digit : ∀ d : Fin 10, upperChar (Nat.digitChar d.val) = [Nat.digitChar d.val] := by decide
    have each : upper numeral = values.flatMap fun d => upperChar (Nat.digitChar d.val) :=
      List.flatMap_map _ _ _
    simp only [each, digit]
    exact List.map_eq_flatMap.symm
  have read : canonical (counting ++ ' ' :: numeral) = counting ++ ' ' :: numeral := by
    have only : words (numeral.filter (· != ';')) = [numeral] := words_of_isToken isToken
    have behind : canonical numeral = numeral := by
      rw [canonical, only]
      exact capitals
    have before : canonical counting = counting := by decide +kernel
    rw [canonical_append_space (by decide +kernel) (by simp [only]), before, behind]
  have isWord : IsWord "LIMIT".toList := Query.isWord_of_mem_reserved (by decide)
  have missing : ¬ "LIMIT".toList <:+: "SELECT * FROM USERS ".toList := by
    rw [← occursIn_iff]
    decide
  have limit : firstAt? limitHere? (counting ++ ' ' :: numeral) =
      some (values.map fun d => d.val) := by
    have parts : counting ++ ' ' :: numeral =
        "SELECT * FROM USERS ".toList ++ ("LIMIT".toList ++ ' ' :: numeral) := rfl
    have begins (s : Text) (found : (limitHere? s).isSome) : "LIMIT".toList <+: s :=
      Query.begins_of_afterWord? found
    rw [parts, firstAt?_append isWord begins (.of_left (by decide) _) missing]
    exact firstAt?_of_some (Query.limitHere?_numeral nonempty)
  have selects : ofText (counting ++ ' ' :: numeral) =
      .select (selection (counting ++ ' ' :: numeral)) := by
    rw [ofText, read]
    rfl
  rw [rowCount?, selects]
  exact limit

end Statement

/-- A row count of one digit too many is not converted, and the query fails. -/
theorem Table.answer_users_long :
    Numeral.digitLimit = 4300 ∧
      users.answer (counting ++ ' ' :: List.replicate 4301 '9') = .error (.longNumeral 4301) := by
  have some : List.replicate 4301 (9 : Fin 10) ≠ [] := by
    rw [ne_eq, List.replicate_eq_nil_iff]
    decide
  have read := rowCount?_counting some
  rw [List.map_replicate, List.map_replicate] at read
  refine ⟨rfl, uniform_users.answer_eq_error_iff.mpr ⟨_, read, ?_, ?_⟩⟩
  · rw [List.length_replicate]
    decide
  · rw [List.length_replicate]

end DryRun
