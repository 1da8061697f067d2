import DryRun.Proofs.Language.OutputForm
import DryRun.Proofs.Source.Idiom

/-!
# Assign, then print

A program that binds a name to a quoted text in the usual way of its language and prints the name
in the usual way is predicted to print the text, whatever the name, the text and the other lines of
the program are, as long as these do not bind the name and do not print
(`printed_as_assigned`).

The two lines are read in ways that have little in common. The assignment is one line among those
that any line end cuts, and it is read from its first equals sign (`get?_readText_assignment`). The
output statement is searched for by each form of the language in turn, on lines that only line feeds
cut (`Idiom.Prints`).
-/

set_option autoImplicit false

namespace DryRun

/-- A line holds a statement between an indentation and blanks. -/
def Padded (statement line : Text) : Prop :=
  ∃ indent trail, (∀ c ∈ indent, OutputForm.isGap c = true) ∧
    (∀ c ∈ trail, Text.isBlank c = true ∧ c ≠ '\n') ∧ line = indent ++ statement ++ trail

/-- A statement alone is a line with it. -/
theorem Padded.self (statement : Text) : Padded statement statement :=
  ⟨[], [], by simp, by simp, by simp⟩

/-- Padding brings in nothing but gaps and blanks. -/
theorem Padded.not_mem {statement line : Text} (padded : Padded statement line) {c : Char}
    (inside : c ∉ statement) (gap : OutputForm.isGap c = false)
    (blank : Text.isBlank c = false ∨ c = '\n') : c ∉ line := by
  obtain ⟨indent, trail, gaps, blanks, rfl⟩ := padded
  have left : c ∉ indent := fun member => by simp [gaps c member] at gap
  have right : c ∉ trail := fun member => by
    obtain ⟨isBlank, noFeed⟩ := blanks c member
    rcases blank with off | feed
    · simp [isBlank] at off
    · exact noFeed feed
  simp [left, inside, right]

/-- A gap character is blank. -/
theorem isBlank_of_isGap {c : Char} (gap : OutputForm.isGap c = true) : Text.isBlank c = true := by
  rcases (by simpa [OutputForm.isGap] using gap : c = ' ' ∨ c = '\t') with rfl | rfl
  · decide
  · decide

namespace Idiom

variable {idiom : Idiom}

/-! ### The assignment as a line -/

/-- What an idiom fixes of its assignment keeps to one line, has no equals sign and begins neither
with a blank nor like a comment. -/
def WellWritten (idiom : Idiom) : Prop :=
  (leadText idiom.leads ++ idiom.binder.text).all (fun c => !Text.isLineEnd c && c != '=') = true ∧
    (leadText idiom.leads).head?.all Text.isWordChar = true ∧
    (idiom.leads = [] → idiom.isPointer = false)

instance (idiom : Idiom) : Decidable idiom.WellWritten :=
  inferInstanceAs (Decidable (_ ∧ _ ∧ _))

variable {x : Text}

/-- An assignment begins with a dollar sign or a word character. -/
theorem head_eq_cons (written : idiom.WellWritten) (identifier : Head.isIdentifier x = true) :
    ∃ c s, idiom.head x = c :: s ∧ (c = '$' ∨ Text.isWordChar c = true) := by
  obtain ⟨-, start, mark⟩ := written
  unfold Idiom.head
  cases opening : leadText idiom.leads with
  | cons c s =>
    exact ⟨c, s ++ idiom.target x ++ idiom.binder.text, rfl, .inr (by simpa [opening] using start)⟩
  | nil =>
    have alone : idiom.leads = [] := by
      cases leads : idiom.leads with
      | nil => rfl
      | cons lead leads => simp [leads, leadText] at opening
    have target : idiom.target x = idiom.name x := by simp [target, mark alone]
    obtain ⟨c, s, cut⟩ := List.exists_cons_of_ne_nil (name_ne_nil idiom identifier)
    refine ⟨c, s ++ idiom.binder.text, by simp [target, cut], ?_⟩
    exact mem_name idiom identifier (cut ▸ List.mem_cons_self)

/-- The head of an assignment has no line end and no equals sign. -/
theorem mem_head (written : idiom.WellWritten) (identifier : Head.isIdentifier x = true) {c : Char}
    (member : c ∈ idiom.head x) : Text.isLineEnd c = false ∧ c ≠ '=' := by
  have outer (inside : c ∈ leadText idiom.leads ++ idiom.binder.text) :
      Text.isLineEnd c = false ∧ c ≠ '=' := by
    simpa using List.all_eq_true.1 written.1 c inside
  rcases List.mem_append.1 member with inside | last
  · rcases List.mem_append.1 inside with first | middle
    · exact outer (List.mem_append_left _ first)
    · constructor
      · by_contra ends
        rw [Bool.not_eq_false] at ends
        have solid := target_solid idiom identifier c middle
        simp [Text.isBlank_of_isLineEnd ends] at solid
      · rintro rfl
        have inside : '=' ∉ idiom.name x := not_mem_name idiom identifier (by decide) (by decide)
        unfold target at middle
        split at middle
        · exact inside (by simpa using middle)
        · exact inside middle
  · exact outer (List.mem_append_right _ last)

/-- What begins with a name is no comment. -/
theorem isComment_of_head {c : Char} (start : c = '$' ∨ Text.isWordChar c = true) (s : Text) :
    Assignment.isComment (c :: s) = false := by
  have apart (d : Char) (sigil : d ≠ '$') (off : Text.isWordChar d = false) : d ≠ c := by
    rintro rfl
    rcases start with same | word
    · exact sigil same
    · simp [off] at word
  have slash := apart '/' (by decide) (by decide)
  have hash := apart '#' (by decide) (by decide)
  have star := apart '*' (by decide) (by decide)
  have dash := apart '-' (by decide) (by decide)
  simp [Assignment.isComment, Assignment.commentMarks, List.isPrefixOf, slash, hash, star, dash]

/-- The idiom's assignment binds the name to the text. -/
theorem ofStripped?_assignment (written : idiom.WellWritten) (names : idiom.Names)
    (identifier : Head.isIdentifier x = true) {quote : Char} (mark : quote ∈ Text.quoteMarks)
    {v : Text} (whole : '\n' ∉ v) :
    Assignment.ofStripped? (idiom.assignment x quote v) = some ⟨idiom.name x, v⟩ := by
  have closes : idiom.closing = [] ∨ idiom.closing = [';'] := by
    unfold closing
    split
    · exact .inr rfl
    · exact .inl rfl
  have plain : Assignment.isComment (idiom.assignment x quote v) = false := by
    obtain ⟨c, s, cut, start⟩ := head_eq_cons written identifier
    rw [assignment, cut]
    exact isComment_of_head start _
  exact Assignment.ofStripped?_eq_some plain (fun member => (mem_head written identifier member).2 rfl)
    (by simp) (names x identifier) (RightHandSide.value?_quoted mark whole closes)

/-- There is nothing to strip from an assignment. -/
theorem strip_assignment (written : idiom.WellWritten) (identifier : Head.isIdentifier x = true)
    {quote : Char} (mark : quote ∈ Text.quoteMarks) (v : Text) :
    Text.strip (idiom.assignment x quote v) = idiom.assignment x quote v := by
  refine Text.strip_eq_self ?_ ?_
  · obtain ⟨c, s, cut, start⟩ := head_eq_cons written identifier
    intro d first
    obtain rfl : c = d := by simpa [assignment, cut] using first
    by_contra blank
    rw [Bool.not_eq_false] at blank
    rcases start with rfl | word
    · simp [Text.isBlank] at blank
    · simp [Text.isWordChar_of_isBlank blank] at word
  · have solid : Text.isBlank quote = false := Text.forall_mem_of_all (by decide) quote mark
    intro d last
    unfold assignment closing at last
    split at last
    · obtain rfl : ';' = d := by simpa [List.getLast?_append, List.getLast?_cons] using last
      decide
    · obtain rfl : quote = d := by simpa [List.getLast?_append, List.getLast?_cons] using last
      exact solid

/-- An assignment of a text of one line is on one line. -/
theorem isLineEnd_assignment (written : idiom.WellWritten)
    (identifier : Head.isIdentifier x = true) {quote : Char} (mark : quote ∈ Text.quoteMarks)
    {v : Text} (whole : ∀ c ∈ v, Text.isLineEnd c = false) :
    ∀ c ∈ idiom.assignment x quote v, Text.isLineEnd c = false := by
  have quotes : Text.isLineEnd quote = false := Text.forall_mem_of_all (by decide) quote mark
  have ends : ∀ c ∈ idiom.closing, Text.isLineEnd c = false := by
    unfold closing
    split <;> exact Text.forall_mem_of_all (by decide)
  intro c member
  unfold assignment at member
  simp only [List.mem_append, List.mem_cons, List.not_mem_nil, or_false] at member
  rcases member with head | rfl | rfl | ((rfl | inside) | rfl) | last
  · exact (mem_head written identifier head).1
  · decide
  · decide
  · exact quotes
  · exact whole c inside
  · exact quotes
  · exact ends c last

/-- The lines of an assignment that stands between blanks bind the name to the text. -/
theorem get?_readText_assignment (written : idiom.WellWritten) (names : idiom.Names)
    (identifier : Head.isIdentifier x = true) {quote : Char} (mark : quote ∈ Text.quoteMarks)
    {v : Text} (whole : ∀ c ∈ v, Text.isLineEnd c = false) {line : Text}
    (padded : Padded (idiom.assignment x quote v) line) (table : Bindings) :
    (Bindings.readText table line).get? (idiom.name x) = some v := by
  obtain ⟨indent, trail, gaps, blanks, rfl⟩ := padded
  have some_ : idiom.assignment x quote v ≠ [] := by simp [assignment]
  have inside : ∀ c ∈ indent ++ idiom.assignment x quote v, Text.isLineEnd c = false := by
    intro c member
    rcases List.mem_append.1 member with gap | core
    · rcases (by simpa [OutputForm.isGap] using gaps c gap : c = ' ' ∨ c = '\t') with rfl | rfl
      · decide
      · decide
    · exact isLineEnd_assignment written identifier mark whole c core
  -- The trailing blanks may end the line and open others, which are blank.
  have blankLines : ∀ line ∈ Text.lines trail, ∀ c ∈ line, Text.isBlank c = true :=
    fun line piece c member => (blanks c (Text.mem_of_mem_lines piece member)).1
  have blankRest : ∀ c ∈ (Text.lines trail).headD [], Text.isBlank c = true := by
    cases cut : Text.lines trail with
    | nil => simp
    | cons first others => exact blankLines first (by simp [cut])
  have unbound : ∀ line ∈ (Text.lines trail).tail, ¬ Assignment.Binds line (idiom.name x) :=
    fun line piece => Assignment.not_binds_of_no_sign (fun member =>
      absurd (blankLines line (List.mem_of_mem_tail piece) '=' member) (by decide)) _
  have bound : Assignment.ofLine? (indent ++ idiom.assignment x quote v ++
      (Text.lines trail).headD []) = some ⟨idiom.name x, v⟩ := by
    rw [Assignment.ofLine?, Text.strip_append_blanks blankRest,
      Text.strip_blanks_append fun c gap => isBlank_of_isGap (gaps c gap),
      strip_assignment written identifier mark]
    exact ofStripped?_assignment written names identifier mark fun member =>
      absurd (whole '\n' member) (by decide)
  rw [Bindings.readText, Text.lines_append_of_inside (by simp [some_]) inside, List.foldl_cons,
    Bindings.get?_foldl_readLine unbound]
  exact Bindings.get?_readLine_self bound

/-! ### The output statement as a line -/

/-- A call is read up to its last parenthesis. -/
theorem here?_output_call (idiom : Idiom) (shape : idiom.form.shape = .call) (x : Text)
    {trail : Text} (unclosed : ')' ∉ trail) :
    idiom.form.here? (idiom.output x ++ trail) = some (idiom.name x) := by
  have last : ')' ∉ idiom.closing ++ trail := by
    unfold closing
    split <;> simp [unclosed]
  unfold output
  rw [shape, List.append_assoc, OutputForm.here?_append, OutputForm.argumentAfter?, shape]
  simpa using OutputForm.callArgument?_paren (idiom.name x) last

/-- A stream is read from its first arrow to its second one. -/
theorem here?_output_stream (idiom : Idiom) (shape : idiom.form.shape = .stream) {x : Text}
    (identifier : Head.isIdentifier x = true) (trail : Text) :
    idiom.form.here? (idiom.output x ++ trail) = some (' ' :: idiom.name x ++ [' ']) := by
  have arrow : '<' ∉ ' ' :: idiom.name x ++ [' '] := by
    simpa using not_mem_name idiom identifier (by decide) (by decide)
  have bare : ';' ∉ ' ' :: idiom.name x ++ [' '] := by
    simpa using not_mem_name idiom identifier (by decide) (by decide)
  unfold output
  rw [shape, List.append_assoc, OutputForm.here?_append, OutputForm.argumentAfter?, shape]
  simpa using OutputForm.streamArgument?_arrow arrow bare
    (" endl".toList ++ idiom.closing ++ trail)

/-- A statement is read up to its first semicolon. -/
theorem here?_output_statement (idiom : Idiom) (shape : idiom.form.shape = .statement) {x : Text}
    (identifier : Head.isIdentifier x = true) (trail : Text) :
    idiom.form.here? (idiom.output x ++ trail) =
      some (idiom.name x ++ (idiom.closing ++ trail).takeWhile (· != ';')) := by
  obtain ⟨c, s, cut⟩ := List.exists_cons_of_ne_nil (name_ne_nil idiom identifier)
  have noGap : OutputForm.isGap c = false := by
    by_contra gap
    have first := name_solid idiom identifier c (cut ▸ List.mem_cons_self)
    simp [isBlank_of_isGap (by simpa using gap)] at first
  have noSemicolon : ';' ∉ idiom.name x := not_mem_name idiom identifier (by decide) (by decide)
  have before : ∀ d ∈ idiom.name x, (d != ';') = true := fun d member =>
    bne_iff_ne.2 fun same => noSemicolon (same ▸ member)
  unfold output
  rw [shape, ← List.takeWhile_append_of_pos before, List.append_assoc, OutputForm.here?_append,
    OutputForm.argumentAfter?, shape, cut]
  simpa using OutputForm.statementArgument?_gap noGap (s ++ (idiom.closing ++ trail))

/-- The argument that an idiom's form reads from its output statement is the name, blanks apart. -/
theorem here?_output (idiom : Idiom) {x : Text} (identifier : Head.isIdentifier x = true)
    {trail : Text} (blanks : ∀ c ∈ trail, Text.isBlank c = true) :
    ∃ argument, idiom.form.here? (idiom.output x ++ trail) = some argument ∧
      Text.strip argument = idiom.name x := by
  have solid := name_solid idiom identifier
  have stripped : Text.strip (idiom.name x) = idiom.name x :=
    Text.strip_eq_self (fun c first => solid c (List.mem_of_mem_head? first))
      fun c last => solid c (List.mem_of_mem_getLast? last)
  have blankOf (c : Char) (off : Text.isBlank c = false) : c ∉ trail := fun member => by
    simp [blanks c member] at off
  cases shape : idiom.form.shape with
  | call =>
    exact ⟨_, here?_output_call idiom shape x (blankOf ')' (by decide)), stripped⟩
  | stream =>
    refine ⟨_, here?_output_stream idiom shape identifier trail, ?_⟩
    have space : ∀ c ∈ [' '], Text.isBlank c = true := Text.forall_mem_of_all (by decide)
    rw [Text.strip_append_blanks space, ← List.singleton_append,
      Text.strip_blanks_append space, stripped]
  | statement =>
    refine ⟨_, here?_output_statement idiom shape identifier trail, ?_⟩
    unfold closing
    split
    · simpa using stripped
    · have all : trail.takeWhile (· != ';') = trail :=
        List.takeWhile_eq_self_iff.2 fun d member =>
          bne_iff_ne.2 fun same => blankOf ';' (by decide) (same ▸ member)
      rw [List.nil_append, all, Text.strip_append_blanks blanks, stripped]

/-- The idiom's form finds the name on the line of the output statement. -/
theorem onLine?_output (worded : idiom.form.HasKeyword) (identifier : Head.isIdentifier x = true)
    {line : Text} (padded : Padded (idiom.output x) line) :
    idiom.form.onLine? line = some (idiom.name x) := by
  obtain ⟨indent, trail, gaps, blanks, rfl⟩ := padded
  obtain ⟨argument, found, stripped⟩ :=
    here?_output idiom identifier fun c member => (blanks c member).1
  rw [OutputForm.onLine?, List.append_assoc,
    OutputForm.rawArgument?_indented worded gaps found, Option.map_some, stripped]

/-- The first form of the language that finds itself on the output statement takes the name. -/
def Prints (idiom : Idiom) : Prop :=
  ∀ x line, Head.isIdentifier x = true → Padded (idiom.output x) line →
    idiom.language.outputForms.findSome? (·.onLine? line) = some (idiom.name x)

/-- An idiom with the first form of its language prints. -/
theorem prints_first (first : idiom.language.outputForms.head? = some idiom.form)
    (worded : idiom.form.HasKeyword) : idiom.Prints := by
  intro x line identifier padded
  obtain ⟨others, forms⟩ := List.head?_eq_some_iff.1 first
  rw [forms, List.findSome?_cons, onLine?_output worded identifier padded]

/-- A statement is not taken for a call that has the same keyword. -/
theorem prints_second {others : List OutputForm} {keyword : String}
    (form : idiom.form = ⟨.statement, keyword, .lineStart⟩)
    (forms : idiom.language.outputForms = ⟨.call, keyword, .lineStart⟩ :: idiom.form :: others)
    (worded : idiom.form.HasKeyword) : idiom.Prints := by
  intro x line identifier padded
  have found := onLine?_output worded identifier padded
  obtain ⟨indent, trail, gaps, blanks, rfl⟩ := padded
  have solid : ∀ c ∈ (idiom.output x ++ trail).head?, OutputForm.isGap c = false := by
    obtain ⟨argument, here, -⟩ :=
      here?_output idiom identifier fun c member => (blanks c member).1
    obtain ⟨c, s, cut, solid⟩ := worded.cons_of_here? here
    simpa [cut] using solid
  have noCall : OutputForm.here? ⟨.call, keyword, .lineStart⟩ (idiom.output x ++ trail) = none := by
    obtain ⟨c, s, cut⟩ := List.exists_cons_of_ne_nil (name_ne_nil idiom identifier)
    have member : c ∈ idiom.name x := cut ▸ List.mem_cons_self
    have noParen : c ≠ '(' :=
      ne_of_mem_of_not_mem member (not_mem_name idiom identifier (by decide) (by decide))
    have noGap : OutputForm.isGap c = false := by
      by_contra gap
      have first := name_solid idiom identifier c member
      simp [isBlank_of_isGap (by simpa using gap)] at first
    rw [output, form, cut, List.append_assoc]
    refine (OutputForm.here?_append (OutputForm.mk .call keyword .lineStart) _).trans ?_
    simp [OutputForm.argumentAfter?, OutputForm.callArgument?, noGap, noParen,
      show OutputForm.isGap ' ' = true by rfl]
  have skipped : OutputForm.onLine? ⟨.call, keyword, .lineStart⟩ (indent ++ idiom.output x ++ trail) =
      none := by
    rw [OutputForm.onLine?, List.append_assoc,
      OutputForm.rawArgument?_indented_none rfl gaps solid noCall, Option.map_none]
  rw [forms, List.findSome?_cons, skipped, List.findSome?_cons, found]

/-- The characters of an output statement are those of its keyword, of the name and a few marks. -/
theorem not_mem_output {c : Char} (keyword : c ∉ idiom.form.keyword.toList)
    (fixed : c ∉ "(); <endl".toList) (sigil : c ≠ '$') (off : Text.isWordChar c = false)
    (identifier : Head.isIdentifier x = true) : c ∉ idiom.output x := by
  have name : c ∉ idiom.name x := not_mem_name idiom identifier sigil off
  simp only [String.reduceToList, List.mem_cons, List.not_mem_nil, or_false, not_or] at fixed
  have ends : c ∉ idiom.closing := by
    unfold closing
    split <;> simp [fixed]
  unfold output
  split <;> simp [keyword, name, ends, fixed]

/-- A name stands for what it is bound to. -/
theorem resolve_name (identifier : Head.isIdentifier x = true) {table : Bindings} {v : Text}
    (bound : table.get? (idiom.name x) = some v) : Prediction.resolve table (idiom.name x) = v := by
  have solid := name_solid idiom identifier
  have stripped : Text.strip (idiom.name x) = idiom.name x :=
    Text.strip_eq_self (fun c first => solid c (List.mem_of_mem_head? first))
      fun c last => solid c (List.mem_of_mem_getLast? last)
  have bare : RightHandSide.dropSemicolon (idiom.name x) = idiom.name x :=
    RightHandSide.dropSemicolon_eq_self fun last =>
      not_mem_name idiom identifier (by decide) (by decide) (List.mem_of_getLast? last)
  have unquoted : Text.between? Text.quoteMarks (idiom.name x) = none := by
    by_contra quoted
    obtain ⟨inner, between⟩ := Option.ne_none_iff_exists'.1 quoted
    obtain ⟨mark, isMark, cut⟩ := Text.between?_eq_some_iff.1 between
    have member : mark ∈ idiom.name x := by simp [cut]
    have sigil : mark ≠ '$' := ne_of_mem_of_not_mem isMark (by decide)
    have off : Text.isWordChar mark = false := Text.forall_mem_of_all (by decide) mark isMark
    exact not_mem_name idiom identifier sigil off member
  simp [Prediction.resolve, stripped, bare, unquoted, bound]

end Idiom

/-! ### The idioms of the languages -/

/-- The usual idioms bind their names. -/
theorem names_of_mem_idioms {idiom : Idiom} (usual : idiom ∈ idioms) : idiom.Names := by
  simp only [idioms, List.mem_cons, List.not_mem_nil, or_false] at usual
  rcases usual with rfl | rfl | rfl | rfl | rfl | rfl | rfl | rfl | rfl | rfl | rfl | rfl | rfl |
    rfl | rfl | rfl
  case inr.inr.inr.inr.inr.inr.inr.inr.inr.inl => exact Idiom.names_walrus rfl rfl
  case inr.inr.inr.inr.inr.inr.inr.inr.inr.inr.inl =>
    exact Idiom.names_typed rfl ⟨rfl, rfl⟩ rfl (by decide) (by decide)
  case inr.inr.inr.inr.inr.inr.inr.inr.inr.inr.inr.inl =>
    exact Idiom.names_annotated (by decide) (by decide) rfl (by decide) (by decide) (by decide)
  all_goals exact Idiom.names_plain (by decide) (by decide) rfl

/-- The usual idioms print. -/
theorem prints_of_mem_idioms {idiom : Idiom} (usual : idiom ∈ idioms) : idiom.Prints := by
  have worded : idiom.form.HasKeyword := by
    have all : ∀ idiom ∈ idioms, idiom.form.keyword.toList.head?.any (!OutputForm.isGap ·) = true :=
      by decide
    obtain ⟨c, first, solid⟩ := Option.any_eq_true _ _ |>.1 (all idiom usual)
    exact ⟨c, first, by simpa using solid⟩
  simp only [idioms, List.mem_cons, List.not_mem_nil, or_false] at usual
  rcases usual with rfl | rfl | rfl | rfl | rfl | rfl | rfl | rfl | rfl | rfl | rfl | rfl | rfl |
    rfl | rfl | rfl
  case inr.inr.inr.inr.inr.inr.inr.inr.inr.inr.inr.inr.inr.inl =>
    exact Idiom.prints_second rfl rfl worded
  all_goals exact Idiom.prints_first rfl worded

/-- The usual idioms are well written. -/
theorem wellWritten_of_mem_idioms : ∀ idiom ∈ idioms, idiom.WellWritten := by decide

/-- The keywords of the usual idioms have no equals sign and no line feed. -/
theorem not_mem_keyword_of_mem_idioms :
    ∀ idiom ∈ idioms, '=' ∉ idiom.form.keyword.toList ∧ '\n' ∉ idiom.form.keyword.toList := by
  decide

/-- **Assign, then print.** A program that binds a name to a quoted text and prints the name on a
later line, both in the usual way of its language, is predicted to print the text. The other lines
are arbitrary as long as none of them binds the name and no line but the output statement has a
part that an output form of the language finds. -/
theorem printed_as_assigned {idiom : Idiom} (usual : idiom ∈ idioms) {x : Text}
    (identifier : Head.isIdentifier x = true) {quote : Char} (mark : quote ∈ Text.quoteMarks)
    {v : Text} (whole : ∀ c ∈ v, Text.isLineEnd c = false) {assigns prints : Text}
    (assigned : Padded (idiom.assignment x quote v) assigns)
    (printed : Padded (idiom.output x) prints) {before between after : List Text}
    (cut : ∀ line ∈ before ++ between ++ after, '\n' ∉ line)
    (unbound : ∀ line ∈ before ++ between ++ after, ∀ part ∈ Text.lines line,
      ¬ Assignment.Binds part (idiom.name x))
    (silent : ∀ line ∈ before ++ assigns :: between ++ after,
      ∀ form ∈ idiom.language.outputForms, form.onLine? line = none) :
    Prediction.ofSource? idiom.language
      (Text.join ['\n'] (before ++ assigns :: between ++ prints :: after)) = some v := by
  have written := wellWritten_of_mem_idioms idiom usual
  have names := names_of_mem_idioms usual
  -- The assignment is the last line that binds the name, as the output statement has no equals
  -- sign.
  have bound : (Bindings.ofSource
      (Text.join ['\n'] (before ++ assigns :: between ++ prints :: after))).get? (idiom.name x) =
        some v := by
    have noSign : '=' ∉ prints := printed.not_mem
      (Idiom.not_mem_output (not_mem_keyword_of_mem_idioms idiom usual).1 (by decide) (by decide)
        (by decide) identifier) (by decide) (.inl (by decide))
    have quiet : ∀ text ∈ between ++ prints :: after, ∀ line ∈ Text.lines text,
        ¬ Assignment.Binds line (idiom.name x) := by
      intro text member line piece
      rcases List.mem_append.1 member with inside | later
      · exact unbound text (by simp [inside]) line piece
      · rcases List.mem_cons.1 later with rfl | inside
        · exact Assignment.not_binds_of_no_sign
            (fun sign => noSign (Text.mem_of_mem_lines piece sign)) _
        · exact unbound text (by simp [inside]) line piece
    rw [Bindings.ofSource_eq, Bindings.readText_join, List.append_assoc, List.foldl_append,
      List.cons_append, List.foldl_cons, Bindings.get?_foldl_readText quiet]
    exact Idiom.get?_readText_assignment written names identifier mark whole assigned _
  -- The output statement is the first line with a part that an output form finds.
  have argument : Prediction.argument? idiom.language
      (Text.join ['\n'] (before ++ assigns :: between ++ prints :: after)) =
        some (idiom.name x) := by
    have first : '\n' ∉ assigns := assigned.not_mem
      (fun member => absurd (Idiom.isLineEnd_assignment written identifier mark whole '\n' member)
        (by decide)) (by decide) (.inr rfl)
    have second : '\n' ∉ prints := printed.not_mem
      (Idiom.not_mem_output (not_mem_keyword_of_mem_idioms idiom usual).2 (by decide) (by decide)
        (by decide) identifier) (by decide) (.inr rfl)
    have all : ∀ other ∈ before ++ assigns :: between ++ prints :: after, '\n' ∉ other := by
      intro other member
      simp only [List.mem_append, List.mem_cons] at member cut
      grind
    rw [Prediction.argument?, OutputForm.findSome?_argument?_join all silent]
    exact prints_of_mem_idioms usual x prints identifier printed
  rw [Prediction.ofSource?, Prediction.output?, argument, Option.map_some,
    Idiom.resolve_name identifier bound]

/-- A text with a semicolon, an equals sign and a quote mark of its own, in a program of five
lines. -/
theorem printed_as_assigned_among_lines :
    Prediction.ofSource? Language.python
      (Text.join ['\n'] ["import os".toList, "x = \x22a; b = 'c'\x22".toList, "y = x".toList,
        "  print(x)\r".toList, "# print(y)".toList]) = some "a; b = 'c'".toList :=
  @printed_as_assigned
    { language := .python, form := ⟨.call, "print", .lineStart⟩, hasSemicolon := false }
    List.mem_cons_self ['x'] (by decide) '\x22' (by decide)
    "a; b = 'c'".toList (Text.forall_mem_of_all (by decide)) _ _ (Padded.self _)
    ⟨[' ', ' '], ['\r'], Text.forall_mem_of_all (by decide),
      List.forall_mem_singleton.2 (by decide), rfl⟩
    ["import os".toList] ["y = x".toList] ["# print(y)".toList]
    (by decide) (by decide) (by decide)

end DryRun
