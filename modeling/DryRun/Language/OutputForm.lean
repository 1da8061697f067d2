import DryRun.Text.Word

/-!
# Output statements

An output form says how a language writes a statement that prints: as a call `print(x)`, as a
stream `cout << x`, or as a statement `puts x`. A form looks at one line at a time and takes the
argument of the first line on which it finds itself: `OutputForm.argument?` is
`OutputForm.onLine?` on the first line, cut at line feeds, where that succeeds.

The argument of a call reaches to the last closing parenthesis of its line. Of a stream only the
first operand counts, and a semicolon ends the argument of a stream or a statement.
-/

set_option autoImplicit false

namespace DryRun

/-- How the argument of an output statement is delimited. -/
inductive OutputShape where
  /-- Between parentheses, as in `print(x)`. -/
  | call
  /-- After a stream arrow, as in `cout << x;`. -/
  | stream
  /-- After blanks, up to a semicolon, as in `puts x`. -/
  | statement
  deriving DecidableEq, Repr

/-- Where on a line the keyword of an output statement may stand. -/
inductive KeywordPlace where
  /-- First on the line, spaces and tabs apart. -/
  | lineStart
  /-- Not right after a word character. -/
  | wordStart
  | anywhere
  deriving DecidableEq, Repr

/-- One way of writing an output statement. -/
structure OutputForm where
  /-- How the argument is delimited. -/
  shape : OutputShape
  /-- The word that opens the statement. -/
  keyword : String
  /-- Where that word may stand. -/
  place : KeywordPlace
  deriving DecidableEq, Repr

namespace OutputForm

/-- Whether a character is a space or a tab. -/
def isGap (c : Char) : Bool := c == ' ' || c == '\t'

/-- What follows a keyword that the text begins with. -/
def afterKeyword? (keyword s : Text) : Option Text :=
  if keyword.isPrefixOf s then some (s.drop keyword.length) else none

def upToLastParen? (s : Text) : Option Text :=
  match s.reverse.dropWhile (· != ')') with
  | [] => none
  | _ :: before => some before.reverse

/-- The argument of a call whose keyword has just been read. -/
def callArgument? (afterKeyword : Text) : Option Text :=
  match afterKeyword.dropWhile isGap with
  | '(' :: body => upToLastParen? body
  | _ => none

/-- The first operand of a stream whose keyword has just been read. -/
def streamArgument? (afterKeyword : Text) : Option Text :=
  match afterKeyword.dropWhile isGap with
  | '<' :: '<' :: operands =>
    some ((Text.upTo ['<', '<'] operands).takeWhile (· != ';'))
  | _ => none

/-- The argument of a statement whose keyword has just been read: something has to follow the gap,
or the gap has to be two characters long. -/
def statementArgument? (afterKeyword : Text) : Option Text :=
  let gap := afterKeyword.takeWhile isGap
  match afterKeyword.dropWhile isGap with
  -- The gap gives up its last character if nothing else is left to be the argument.
  | [] => if 2 ≤ gap.length then some [] else none
  | argument => if gap.isEmpty then none else some (argument.takeWhile (· != ';'))

/-- The argument that follows a keyword, in the form's shape. -/
def argumentAfter? (form : OutputForm) (afterKeyword : Text) : Option Text :=
  match form.shape with
  | .call => callArgument? afterKeyword
  | .stream => streamArgument? afterKeyword
  | .statement => statementArgument? afterKeyword

/-- The argument of a statement that starts right here. -/
def here? (form : OutputForm) (s : Text) : Option Text :=
  (afterKeyword? form.keyword.toList s).bind form.argumentAfter?

/-- The argument of the first statement whose start satisfies `mayStart`, a condition on the
character before it. -/
def firstFrom? (form : OutputForm) (mayStart : Option Char → Bool) (previous : Option Char) :
    Text → Option Text
  | [] => none
  | c :: rest =>
    match if mayStart previous then form.here? (c :: rest) else none with
    | some argument => some argument
    | none => form.firstFrom? mayStart (some c) rest

/-- The argument that the form finds on a line, as it is written there. -/
def rawArgument? (form : OutputForm) (line : Text) : Option Text :=
  match form.place with
  | .lineStart => form.here? (line.dropWhile isGap)
  | .wordStart =>
    form.firstFrom? (fun previous => !previous.any Text.isWordChar) none line
  | .anywhere => form.firstFrom? (fun _ => true) none line

/-- The argument that the form finds on a line. -/
def onLine? (form : OutputForm) (line : Text) : Option Text :=
  (form.rawArgument? line).map Text.strip

/-- The argument of the first line on which the form finds itself. -/
def argument? (form : OutputForm) (source : Text) : Option Text :=
  (Text.feedLines source).findSome? form.onLine?

end OutputForm

end DryRun
