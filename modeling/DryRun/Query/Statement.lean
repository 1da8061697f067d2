import DryRun.Query.Condition
import DryRun.Text.Word

/-!
# Statements

A query is read in capitals, its blanks evened out and its semicolons taken away. How it begins
says what it asks for; only a selection is read further. Its clauses are looked for independently
of each other: the columns stand before the first `FROM`, the conditions after the word `WHERE`,
the order after `ORDER BY` and the row count after `LIMIT`, wherever these stand.
-/

set_option autoImplicit false

/-!
## Keywords of a query

A keyword counts where it stands as a word of its own: no word character right before it and none
right after it.
-/

namespace DryRun.Keyword

/-- What follows one of the keywords that stands as a word at the front of a text, given the
character before the text. -/
def after? (keywords : List Text) (previous : Option Char) (s : Text) : Option Text :=
  if previous.any Text.isWordChar then none
  else
    keywords.findSome? fun keyword =>
      if keyword.isPrefixOf s && !(s.drop keyword.length).head?.any Text.isWordChar then
        some (s.drop keyword.length)
      else none

/-- The text before and after the first of the keywords. -/
def split? (keywords : List Text) (previous : Option Char) : Text → Option (Text × Text)
  | [] => none
  | c :: rest =>
    match after? keywords previous (c :: rest) with
    | some after => some ([], after)
    | none => (split? keywords (some c) rest).map fun parts => (c :: parts.1, parts.2)

/-- The text before the first of the keywords, all of it if there is none. -/
def upTo (keywords : List Text) (s : Text) : Text :=
  match split? keywords none s with
  | some (before, _) => before
  | none => s

/-- The pieces between the occurrences of a keyword. -/
def pieces (keyword : Text) (previous : Option Char) (s : Text) : List Text :=
  match s with
  | [] => [[]]
  | c :: rest =>
    if (after? [keyword] previous (c :: rest)).isSome then
      [] :: pieces keyword keyword.getLast? (rest.drop (keyword.length - 1))
    else Text.consPiece c (pieces keyword (some c) rest)
  termination_by s.length
  decreasing_by all_goals simp only [List.length_cons, List.length_drop]; omega

end DryRun.Keyword

namespace DryRun

/-- The column by which rows are ordered. -/
structure SortOrder where
  column : Text
  /-- Whether the largest comes first. -/
  descending : Bool
  deriving DecidableEq, Repr

/-- What a selection asks for. -/
structure Selection where
  /-- The columns to show, all of them if none are named. -/
  columns : Option (List Text)
  conditions : List Condition
  /-- The order of the rows, if it is not that of the table. -/
  order : Option SortOrder
  /-- The digits of the number of rows to show at most. -/
  limit : Option (List Nat)
  deriving DecidableEq

/-- A query that has been read. -/
inductive Statement where
  | select (selection : Selection)
  | insert
  | update
  | delete
  /-- Something else, which begins with the given word. -/
  | unknown (word : Text)
  deriving DecidableEq

namespace Statement

/-- A query in capitals, with single spaces between its words and no semicolons. -/
def canonical (query : Text) : Text :=
  Text.upper (Text.join [' '] (Text.words (query.filter (· != ';'))))

/-- The first result of a function on the ends of a text, from the whole text on. -/
def firstAt? {α : Type} (f : Text → Option α) : Text → Option α
  | [] => f []
  | c :: rest =>
    match f (c :: rest) with
    | some result => some result
    | none => firstAt? f rest

/-- What follows a word at the front of a text. -/
def afterWord? (word : String) (s : Text) : Option Text :=
  if word.toList.isPrefixOf s then some (s.drop word.length) else none

/-- What follows the blanks at the front of a text, one at least. -/
def afterBlanks? (s : Text) : Option Text :=
  if s.head?.any Text.isBlank then some (Text.stripLeft s) else none

/-- Whether the blanks at the front of a text are followed by a direction, and whether that is
the descending one. -/
def descends (s : Text) : Bool :=
  match afterBlanks? s with
  | some rest => "DESC".toList.isPrefixOf rest
  | none => false

/-- The order that a text states at its front. -/
def orderHere? (s : Text) : Option SortOrder := do
  let s ← afterWord? "ORDER" s
  let s ← afterBlanks? s
  let s ← afterWord? "BY" s
  let s ← afterBlanks? s
  let column := s.takeWhile Text.isWordChar
  if column.isEmpty then none
  else some ⟨Text.lower column, descends (s.dropWhile Text.isWordChar)⟩

/-- The digits of the row count that a text states at its front. -/
def limitHere? (s : Text) : Option (List Nat) := do
  let s ← afterWord? "LIMIT" s
  let s ← afterBlanks? s
  let digits := (s.takeWhile fun c => (Text.digitValue? c).isSome).filterMap Text.digitValue?
  if digits.isEmpty then none else some digits

def closingWords : List Text := ["GROUP".toList, "ORDER".toList, "LIMIT".toList]

/-- The conditions of a selection. A condition that cannot be read is no condition. -/
def conditions (canonical : Text) : List Condition :=
  -- The test wants spaces around the word, the cut only its boundaries.
  if Text.occursIn " WHERE ".toList canonical then
    match Keyword.split? ["WHERE".toList] none canonical with
    | some (_, clause) =>
      (Keyword.pieces "AND".toList none (Keyword.upTo closingWords clause)).filterMap
        Condition.ofText?
    | none => []
  else []

def columns? (canonical : Text) : Option (List Text) :=
  let named :=
    Text.strip (Text.eraseFirst "SELECT".toList (Text.upTo "FROM".toList canonical))
  if named.isEmpty || named.contains '*' then none
  else some ((Text.pieces (· == ',') named).map fun name => Text.lower (Text.strip name))

/-- The selection that a query in canonical form states. -/
def selection (canonical : Text) : Selection where
  columns := columns? canonical
  conditions := conditions canonical
  order := firstAt? orderHere? canonical
  limit := firstAt? limitHere? canonical

/-- The statement that a query in canonical form makes. -/
def ofCanonical (canonical : Text) : Statement :=
  -- A prefix is enough, whether or not the word ends there.
  if "SELECT".toList.isPrefixOf canonical then .select (selection canonical)
  else if "INSERT".toList.isPrefixOf canonical then .insert
  else if "UPDATE".toList.isPrefixOf canonical then .update
  else if "DELETE".toList.isPrefixOf canonical then .delete
  else .unknown (canonical.takeWhile (· != ' '))

def ofText (query : Text) : Statement := ofCanonical (canonical query)

end Statement

end DryRun
