/-!
# Texts

A text is the list of its characters. This file holds what the rest of the library asks of texts
in general: whether one stands inside another, where it first stands, which of two comes first,
cutting a text at a separator, at blanks and at line ends, the quote marks around a text, and
records, which give values to names. `splitFirst?_eq_some` says that cutting loses nothing.
-/

set_option autoImplicit false

namespace DryRun

/-- A text is the list of its characters. -/
abbrev Text := List Char

namespace Text

def occursIn (pattern : Text) : Text → Bool
  | [] => pattern.isEmpty
  | c :: rest => pattern.isPrefixOf (c :: rest) || occursIn pattern rest

/-- What stands before and after the first occurrence of `pattern`. -/
def splitFirst? (pattern : Text) : Text → Option (Text × Text)
  | [] => if pattern.isEmpty then some ([], []) else none
  | c :: rest =>
    if pattern.isPrefixOf (c :: rest) then some ([], (c :: rest).drop pattern.length)
    else (splitFirst? pattern rest).map fun parts => (c :: parts.1, parts.2)

/-- The text up to the first occurrence of `pattern`, all of it if there is none. -/
def upTo (pattern s : Text) : Text :=
  match splitFirst? pattern s with
  | some (before, _) => before
  | none => s

/-- The text without the first occurrence of `pattern`. -/
def eraseFirst (pattern s : Text) : Text :=
  match splitFirst? pattern s with
  | some (before, after) => before ++ after
  | none => s

/-- Put a character in front of the first piece. -/
def consPiece (c : Char) : List Text → List Text
  | [] => [[c]]
  | piece :: pieces => (c :: piece) :: pieces

/-- The pieces between the characters that satisfy `isSeparator`: one more than there are of
these. -/
def pieces (isSeparator : Char → Bool) : Text → List Text
  | [] => [[]]
  | c :: rest =>
    if isSeparator c then [] :: pieces isSeparator rest
    else consPiece c (pieces isSeparator rest)

def order : Text → Text → Ordering
  | [], [] => .eq
  | [], _ :: _ => .lt
  | _ :: _, [] => .gt
  | a :: s, b :: t => (compare a.toNat b.toNat).then (order s t)

/-- The texts one after the other with `separator` between neighbours. -/
def join (separator : Text) : List Text → Text
  | [] => []
  | [s] => s
  | s :: t :: rest => s ++ separator ++ join separator (t :: rest)

/-- The text without the characters at its end that satisfy `p`. -/
def dropWhileEnd (p : Char → Bool) (s : Text) : Text :=
  (s.reverse.dropWhile p).reverse

/-- The text followed by as many copies of `fill` as it lacks in width. -/
def padRight (fill : Char) (width : Nat) (s : Text) : Text :=
  s ++ List.replicate (width - s.length) fill

/-- What stands before a pattern, the pattern and what stands behind it are the text. -/
theorem splitFirst?_eq_some {pattern s before after : Text}
    (h : splitFirst? pattern s = some (before, after)) : s = before ++ pattern ++ after := by
  induction s generalizing before with
  | nil =>
    simp only [splitFirst?] at h
    split at h
    · simp_all
    · simp at h
  | cons c rest ih =>
    simp only [splitFirst?] at h
    split at h
    · rename_i hp
      obtain ⟨tail, ht⟩ := List.isPrefixOf_iff_prefix.1 hp
      simp only [Option.some.injEq, Prod.mk.injEq] at h
      obtain ⟨rfl, rfl⟩ := h
      simp [← ht]
    · simp only [Option.map_eq_some_iff] at h
      obtain ⟨parts, hparts, heq⟩ := h
      obtain ⟨b, a⟩ := parts
      simp only [Prod.mk.injEq] at heq
      obtain ⟨rfl, rfl⟩ := heq
      rw [ih hparts]
      simp

/-- Cutting a text leaves at least one piece. -/
theorem pieces_ne_nil (isSeparator : Char → Bool) (s : Text) : pieces isSeparator s ≠ [] := by
  cases s with
  | nil => simp [pieces]
  | cons c rest =>
    simp only [pieces]
    split
    · simp
    · cases pieces isSeparator rest <;> simp [consPiece]

end Text

end DryRun

/-!
## Blank characters

The blank characters are the 29 that Unicode counts as white space, the ASCII separators `0x1c` to
`0x1f` among them. `strip` removes them from both ends of a text and `words` cuts a text at them.
-/

namespace DryRun.Text

def isBlank (c : Char) : Bool :=
  let n := c.toNat
  (9 ≤ n && n ≤ 13) || (28 ≤ n && n ≤ 32) || n == 0x85 || n == 0xa0 || n == 0x1680 ||
    (0x2000 ≤ n && n ≤ 0x200a) || n == 0x2028 || n == 0x2029 || n == 0x202f || n == 0x205f ||
    n == 0x3000

/-- The text without the blanks in front of it. -/
def stripLeft (s : Text) : Text := s.dropWhile isBlank

/-- The text without the blanks at its end. -/
def stripRight (s : Text) : Text := dropWhileEnd isBlank s

/-- The text without the blanks at either end. -/
def strip (s : Text) : Text := stripRight (stripLeft s)

/-- The longest runs of characters that are not blank. -/
def words (s : Text) : List Text := (pieces isBlank s).filter fun piece => !piece.isEmpty

end DryRun.Text

/-!
## Lines

Two notions of line are in use. A text shown to a person ends a line at any of the characters of
`isLineEnd`, a carriage return and the line feed after it counting once (`lines`). A search that
works line by line cuts at line feeds only (`feedLines`).
-/

namespace DryRun.Text

def isLineEnd (c : Char) : Bool :=
  let n := c.toNat
  (10 ≤ n && n ≤ 13) || (28 ≤ n && n ≤ 30) || n == 0x85 || n == 0x2028 || n == 0x2029

/-- The lines of a text without their ends; an end that is the last character opens no line. -/
def lines : Text → List Text
  | [] => []
  | '\r' :: '\n' :: rest => [] :: lines rest
  | c :: rest => if isLineEnd c then [] :: lines rest else consPiece c (lines rest)

def feedLines (s : Text) : List Text := pieces (· == '\n') s

/-- The text with every line end of a file, `\r\n`, `\r` or `\n`, written as one line feed. -/
def unifyFeeds : Text → Text
  | [] => []
  | '\r' :: '\n' :: rest => '\n' :: unifyFeeds rest
  | '\r' :: rest => '\n' :: unifyFeeds rest
  | c :: rest => c :: unifyFeeds rest

end DryRun.Text

/-!
## Delimited texts

A text is delimited when it begins and ends with the same quote mark, two characters apart at
least. Nothing is asked of the text between the marks.
-/

namespace DryRun.Text

/-- The text between a pair of equal quote marks, one of `marks`, at its two ends. -/
def between? (marks : List Char) : Text → Option Text
  | [] => none
  | mark :: rest =>
    if marks.contains mark && rest.getLast? == some mark then some rest.dropLast else none

/-- The quote marks of program texts: double, single and back quote. -/
def quoteMarks : List Char := ['\x22', '\x27', '\x60']

/-- Whether a text is delimited by a pair of equal quote marks. -/
def isQuoted (s : Text) : Bool := (between? quoteMarks s).isSome

/-- The text without its pair of quote marks, if it has one. -/
def stripQuotes (s : Text) : Text := (between? quoteMarks s).getD s

/-- A text between marks begins and ends with one of the marks. -/
theorem between?_eq_some_iff {marks : List Char} {s inner : Text} :
    between? marks s = some inner ↔ ∃ mark ∈ marks, s = mark :: inner ++ [mark] := by
  cases s with
  | nil => simp [between?]
  | cons c rest =>
    simp only [between?, Bool.and_eq_true, List.contains_iff_mem, beq_iff_eq,
      Option.ite_none_right_eq_some, Option.some.injEq, List.cons_append, List.cons.injEq]
    constructor
    · rintro ⟨⟨hc, hlast⟩, rfl⟩
      obtain ⟨ys, rfl⟩ := List.getLast?_eq_some_iff.1 hlast
      exact ⟨c, hc, rfl, by simp⟩
    · rintro ⟨mark, hm, rfl, rfl⟩
      exact ⟨⟨hm, by simp⟩, by simp⟩

end DryRun.Text

/-!
## Records

A record gives values to names and keeps the names in the order in which they first got one.
Setting a name again changes its value and not its place.
-/

namespace DryRun

/-- Names with their values, in the order in which the names first appeared. -/
abbrev Record (α : Type) := List (Text × α)

namespace Record

variable {α : Type}

/-- Give a name a value: at its place if it has one already, else at the end. -/
def set (name : Text) (value : α) : Record α → Record α
  | [] => [(name, value)]
  | (other, old) :: rest =>
    if other = name then (name, value) :: rest else (other, old) :: set name value rest

/-- Set the names of a later record one after the other. -/
def update (record later : Record α) : Record α :=
  later.foldl (fun record entry => record.set entry.1 entry.2) record

/-- The record that sets the given pairs one after the other. -/
def ofList (pairs : List (Text × α)) : Record α := update [] pairs

def get? (record : Record α) (name : Text) : Option α := record.lookup name

def names (record : Record α) : List Text := record.map Prod.fst

end Record

end DryRun
