import DryRun.Proofs.Query.Table

/-!
# How a query is told by its beginning

What a query asks for is told by the first characters of its canonical form, without regard to where
its first word ends. These characters come from the leading word, which ends before the first
character that may not stand in words (`Statement.prefix_canonical_iff`): a semicolon in it is
dropped, blanks in front of it are passed over, and no other character turns into a letter of a
command in upper case.

So a query is a syntax error exactly if no command begins its leading word, and any other query
that is answered is told to be carried out (`Table.answer_eq_syntaxError_iff`). A word that goes on
behind a command, such as "updated", is taken for the command.
-/

set_option autoImplicit false

namespace DryRun

namespace Text

/-- A text of characters of a kind is not begun by what stands behind another character. -/
theorem prefix_append_iff {p : Char → Bool} {word a b : Text} (kind : ∀ c ∈ word, p c = true)
    (stops : b.head?.any p = false) : word <+: a ++ b ↔ word <+: a := by
  constructor
  · rintro ⟨rest, same⟩
    obtain ⟨after, rfl, -⟩ | ⟨across, rfl, beyond⟩ := List.append_eq_append_iff.mp same
    · exact List.prefix_append word after
    · cases across with
      | nil => simp
      | cons c across =>
        have inside := kind c (by simp)
        simp [beyond, inside] at stops
  · exact fun front => front.trans (List.prefix_append a b)

/-- Behind the word characters at the front of a text no letter from A to Z comes next in upper
case. -/
theorem head?_upper_dropWhile (s : Text) :
    (upper (s.dropWhile isWordChar)).head?.any isAsciiLetter = false := by
  cases behind : s.dropWhile isWordChar with
  | nil => rfl
  | cons c rest =>
    have other : isWordChar c = false := by
      simpa [behind] using List.head?_dropWhile_not isWordChar s
    rw [upper, List.flatMap_cons, List.head?_append,
      Option.or_of_isSome (by simpa using upperChar_ne_nil c), Bool.eq_false_iff]
    intro letter
    obtain ⟨d, first, letter⟩ := (Option.any_eq_true _ _).mp letter
    rw [isWordChar_of_upperChar first letter] at other
    cases other

end Text

namespace Statement

open Text

/-- The words that open the statements that are understood. -/
def commands : List Text :=
  ["SELECT".toList, "INSERT".toList, "UPDATE".toList, "DELETE".toList]

/-- The word characters that a query begins with, semicolons and blanks apart. -/
def leadingWord (query : Text) : Text :=
  (stripLeft (query.filter (· != ';'))).takeWhile isWordChar

/-- What a query begins with up to the next blank, semicolons apart. -/
def firstWord (query : Text) : Text := (words (query.filter (· != ';'))).headD []

/-- A canonical form begins with the first word in capitals, and goes on with a space. -/
theorem canonical_eq_append (query : Text) :
    ∃ rest, canonical query = upper (firstWord query) ++ rest ∧
      (rest = [] ∨ ∃ others, rest = ' ' :: others) := by
  unfold canonical firstWord
  rcases words (query.filter (· != ';')) with _ | ⟨word, _ | ⟨next, others⟩⟩
  · exact ⟨[], rfl, .inl rfl⟩
  · exact ⟨[], (List.append_nil _).symm, .inl rfl⟩
  · refine ⟨' ' :: upper (join [' '] (next :: others)), ?_, .inr ⟨_, rfl⟩⟩
    rw [join, List.append_assoc, upper_append]
    rfl

/-- The first word in capitals begins with the leading word in capitals, and does not go on with a
letter from A to Z. -/
theorem upper_firstWord_eq_append (query : Text) :
    ∃ rest, upper (firstWord query) = upper (leadingWord query) ++ rest ∧
      rest.head?.any isAsciiLetter = false := by
  unfold firstWord leadingWord
  by_cases none : stripLeft (query.filter (· != ';')) = []
  · rw [← words_stripLeft, none]
    exact ⟨[], rfl, rfl⟩
  · obtain ⟨word, rest, whole, -, -, ends, cut⟩ := words_eq_cons none
    have stops : rest.takeWhile isWordChar = [] := by
      cases rest with
      | nil => rfl
      | cons blank rest => simp [isWordChar_of_isBlank (by simpa using ends)]
    have leading : (word ++ rest).takeWhile isWordChar = word.takeWhile isWordChar := by
      rw [List.takeWhile_append, stops, List.append_nil]
      split
      next all => exact ((List.takeWhile_prefix isWordChar).eq_of_length all).symm
      next => rfl
    rw [cut, whole, leading, List.headD_cons]
    refine ⟨_, ?_, head?_upper_dropWhile word⟩
    rw [← upper_append, List.takeWhile_append_dropWhile]

/-- The words of the commands are made of ASCII letters. -/
theorem isAsciiLetter_of_mem_commands :
    ∀ command ∈ commands, ∀ c ∈ command, isAsciiLetter c = true := by decide

/-- A command begins a canonical form exactly if it begins the leading word in capitals. -/
theorem prefix_canonical_iff {command : Text} (known : command ∈ commands) (query : Text) :
    command <+: canonical query ↔ command <+: upper (leadingWord query) := by
  have letters := isAsciiLetter_of_mem_commands command known
  obtain ⟨rest, whole, stops⟩ := canonical_eq_append query
  obtain ⟨tail, first, apart⟩ := upper_firstWord_eq_append query
  have blank : rest.head?.any isAsciiLetter = false := by
    rcases stops with rfl | ⟨others, rfl⟩
    · rfl
    · rfl
  rw [whole, prefix_append_iff letters blank, first, prefix_append_iff letters apart]

/-- The word that a syntax error quotes is the first one in capitals. -/
theorem takeWhile_canonical (query : Text) :
    (canonical query).takeWhile (· != ' ') = upper (firstWord query) := by
  have solid : ' ' ∉ upper (firstWord query) := by
    apply not_mem_upper_space
    unfold firstWord
    by_cases none : stripLeft (query.filter (· != ';')) = []
    · rw [← words_stripLeft, none]
      exact List.not_mem_nil
    · obtain ⟨word, rest, -, -, solid, -, cut⟩ := words_eq_cons none
      rw [cut, List.headD_cons]
      exact fun member => absurd (solid ' ' member) (by decide)
  obtain ⟨rest, whole, stops⟩ := canonical_eq_append query
  have before : ∀ c ∈ upper (firstWord query), (c != ' ') = true := fun c member =>
    bne_iff_ne.mpr fun space => solid (space ▸ member)
  rw [whole, List.takeWhile_append_of_pos before]
  rcases stops with rfl | ⟨others, rfl⟩
  · simp
  · simp

/-- A text that no command begins is no statement that is understood. -/
theorem ofCanonical_of_no_command {s : Text} (none : ∀ command ∈ commands, ¬ command <+: s) :
    ofCanonical s = .unknown (s.takeWhile (· != ' ')) := by
  simp only [commands, List.forall_mem_cons, ← List.isPrefixOf_iff_prefix] at none
  obtain ⟨select, insert, update, delete, -⟩ := none
  rw [ofCanonical, if_neg select, if_neg insert, if_neg update, if_neg delete]

/-- A query that begins with a command is not unknown. -/
theorem ofCanonical_ne_unknown {s command : Text} (known : command ∈ commands)
    (front : command <+: s) (word : Text) : ofCanonical s ≠ .unknown word := by
  intro unknown
  have none : ∀ command ∈ commands, ¬ command <+: s := by
    unfold ofCanonical at unknown
    split at unknown
    case isTrue => cases unknown
    split at unknown
    case isTrue => cases unknown
    split at unknown
    case isTrue => cases unknown
    split at unknown
    case isTrue => cases unknown
    simp_all [commands, ← List.isPrefixOf_iff_prefix]
  exact none command known front

end Statement

/-! ## Answers -/

open Text Statement

/-- How the line about a syntax error begins. -/
def Table.complaint : Text := "⚠ Syntax Error: Unknown command starting at ".toList

/-- The line that answers a query with an unknown command. -/
def Table.syntaxError (word : Text) : Text := complaint ++ ['\x22'] ++ word ++ ['\x22']

/-- An unknown query is answered with a syntax error. -/
theorem Table.run_unknown (t : Table) (word : Text) :
    t.run (.unknown word) = .ok [syntaxError word] := by
  have opening : "⚠ Syntax Error: Unknown command starting at \x22".toList =
      complaint ++ ['\x22'] := by decide
  rw [run, opening, syntaxError]

/-- How the line begins that tells that a query has been carried out. -/
def Table.acknowledgement : Text := "✔ Query OK".toList

/-- One of the lines tells that a query has been carried out. -/
def Table.Acknowledges (lines : List Text) : Prop := ∃ line ∈ lines, acknowledgement <+: line

/-- What is answered to a selection begins with the count of the rows. -/
theorem Grid.acknowledges_answer {names : List Text} {rows : List Row} {lines : List Text}
    (answered : answer names rows = .ok lines) : Table.Acknowledges lines := by
  unfold answer at answered
  obtain ⟨columns, -, shown⟩ := exists_of_bind_eq_ok answered
  obtain rfl := Except.ok.inj shown
  refine ⟨_, List.mem_cons_self, ", ".toList ++ Nat.toDigits 10 rows.length ++
    " rows retrieved".toList, ?_⟩
  have parts : "✔ Query OK, ".toList = Table.acknowledgement ++ ", ".toList := by decide
  simp [parts]

namespace Table

variable (t : Table)

/-- Every query that is known is acknowledged. -/
theorem acknowledges_run {statement : Statement} (known : ∀ word, statement ≠ .unknown word)
    {lines : List Text} (answered : t.run statement = .ok lines) : Acknowledges lines := by
  cases statement with
  | select selection =>
    obtain ⟨met, -, answered⟩ := exists_of_bind_eq_ok answered
    obtain ⟨sorted, -, answered⟩ := exists_of_bind_eq_ok answered
    obtain ⟨rows, -, answered⟩ := exists_of_bind_eq_ok answered
    exact Grid.acknowledges_answer answered
  | insert =>
    obtain rfl := Except.ok.inj answered
    exact ⟨_, List.mem_cons_self, by decide⟩
  | update =>
    obtain rfl := Except.ok.inj answered
    exact ⟨_, List.mem_cons_self, by decide⟩
  | delete =>
    obtain rfl := Except.ok.inj answered
    exact ⟨_, List.mem_cons_self, by decide⟩
  | unknown word => exact absurd rfl (known word)

/-- A syntax error is no acknowledgement. -/
theorem not_acknowledges_syntaxError (word : Text) : ¬ Acknowledges [syntaxError word] := by
  rintro ⟨line, member, front⟩
  obtain rfl := List.mem_singleton.mp member
  have first : acknowledgement.head? = (syntaxError word).head? := by
    obtain ⟨rest, same⟩ := front
    rw [← same]
    rfl
  have mark : complaint.head? = some '⚠' := by decide
  simp [syntaxError, mark, acknowledgement] at first

/-- **Commands.** A query is answered with the one line about its first word exactly if no command
begins its leading word in capitals. If one does, whatever is answered tells that the query has been
carried out. -/
theorem answer_eq_syntaxError_iff (query : Text) :
    (t.answer query = .ok [syntaxError (upper (firstWord query))] ↔
        ∀ command ∈ commands, ¬ command <+: upper (leadingWord query)) ∧
      ∀ lines, t.answer query = .ok lines →
        (Acknowledges lines ↔ ∃ command ∈ commands, command <+: upper (leadingWord query)) := by
  by_cases known : ∃ command ∈ commands, command <+: upper (leadingWord query)
  · obtain ⟨command, member, front⟩ := known
    have understood := ofCanonical_ne_unknown member ((prefix_canonical_iff member query).mpr front)
    have carriedOut {lines : List Text} (answered : t.answer query = .ok lines) :
        Acknowledges lines := t.acknowledges_run understood answered
    constructor
    · refine iff_of_false (fun answered => ?_) fun none => none command member front
      exact not_acknowledges_syntaxError _ (carriedOut answered)
    · exact fun lines answered => iff_of_true (carriedOut answered) ⟨command, member, front⟩
  · have none : ∀ command ∈ commands, ¬ command <+: canonical query := fun command member front =>
      known ⟨command, member, (prefix_canonical_iff member query).mp front⟩
    have answered : t.answer query = .ok [syntaxError (upper (firstWord query))] := by
      rw [answer, ofText, ofCanonical_of_no_command none, takeWhile_canonical, run_unknown]
    constructor
    · exact iff_of_true answered fun command member front => known ⟨command, member, front⟩
    · intro lines answered'
      obtain rfl := Except.ok.inj (answered.symm.trans answered')
      exact iff_of_false (not_acknowledges_syntaxError _) known

/-- A word that goes on behind a command is no command, and is carried out as one. -/
theorem answer_updated :
    upper (leadingWord "updated users set age = 31".toList) = "UPDATED".toList ∧
      "UPDATED".toList ∉ commands ∧
      users.answer "updated users set age = 31".toList =
        .ok ["✔ Query OK, 1 row affected, 1 warning".toList] := by
  decide +kernel

end Table

end DryRun
