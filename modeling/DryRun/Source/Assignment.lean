import DryRun.Text.Word

/-!
# Assignments

An assignment line has a head, its first equals sign and a right-hand side. The head alone decides
whether a name is bound and which one (`Head.name?`), the right-hand side alone decides the value
(`RightHandSide.value?`); `Assignment.ofLine?` puts the two together. Nothing is evaluated: the
value is the text as written, without a final semicolon and without its pair of quote marks.

A head is one of

* `var` or `const`, a name and a type of one word: `var x string`;
* any number of words that may be keywords or types, then a name, perhaps with pointer marks in
  front of it: `private static final String G`, `char *name`, `$x`;
* the same, then a colon and a type: `let mut x: i32`.

A colon right before the equals sign belongs to the sign.
-/

set_option autoImplicit false

namespace DryRun

/-- A name and the text that an assignment binds it to. -/
structure Assignment where
  name : Text
  value : Text
  deriving DecidableEq, Repr

namespace Head

/-- Whether a text is a letter or underscore followed by word characters. -/
def isIdentifier : Text → Bool
  | [] => false
  | c :: rest => (Text.isAsciiLetter c || c == '_') && rest.all Text.isWordChar

/-- Whether a text is an identifier, perhaps with a dollar sign in front. -/
def isName : Text → Bool
  | '$' :: rest => isIdentifier rest
  | s => isIdentifier s

/-- The name in a word that may begin with pointer marks. -/
def markedName? (word : Text) : Option Text :=
  let name := word.dropWhile fun c => c == '&' || c == '*'
  if isName name then some name else none

/-- Whether a character may stand in a word before the name. -/
def isLeadChar (c : Char) : Bool :=
  Text.isWordChar c || "<>[],.&*$?".toList.contains c

/-- Whether every character may stand in a word before the name, colons in pairs only. -/
def isLead : Text → Bool
  | [] => true
  | ':' :: ':' :: rest => isLead rest
  | c :: rest => isLeadChar c && isLead rest

/-- Whether a character may stand in the type after a colon. -/
def isTypeChar (c : Char) : Bool :=
  Text.isWordChar c || "<>[]?,.&* ".toList.contains c

/-- Whether a text may stand after the colon: type characters between blanks, one at least. -/
def isAnnotation (s : Text) : Bool :=
  let core := Text.strip s
  -- A space may stand in a type, so blanks alone are one if a space is among them.
  if core.isEmpty then s.contains ' ' else core.all isTypeChar

/-- The name that some words end in, all words before it being fit to stand there. -/
def lastName? (words : List Text) : Option Text :=
  match words.getLast? with
  | none => none
  | some word => if words.dropLast.all isLead then markedName? word else none

/-- The text before and after the last colon. -/
def splitLastColon? (s : Text) : Option (Text × Text) :=
  let after := s.reverse.takeWhile (· != ':')
  match s.reverse.dropWhile (· != ':') with
  | [] => none
  | _ :: before => some (before.reverse, after.reverse)

/-- The name bound by a head that ends in the name or in its type annotation. -/
def declaredName? (s : Text) : Option Text :=
  match lastName? (Text.words s) with
  | some name => some name
  | none =>
    match splitLastColon? s with
    | some (before, annotation) =>
      if isAnnotation annotation then lastName? (Text.words before) else none
    | none => none

/-- Whether a text is a type of one word that may follow a name without a colon. -/
def isPlainType (s : Text) : Bool :=
  s.all fun c => Text.isWordChar c || "[]*.".toList.contains c

/-- The name bound by a head of the form `var name type`. -/
def typedName? (s : Text) : Option Text :=
  match Text.words s with
  | [keyword, name, type] =>
    if (keyword == "var".toList || keyword == "const".toList) && isIdentifier name &&
        isPlainType type then some name
    else none
  | _ => none

/-- The head without a colon right before the equals sign. -/
def dropFinalColon (s : Text) : Text := if s.getLast? == some ':' then s.dropLast else s

def name? (head : Text) : Option Text :=
  (typedName? head).or (declaredName? (dropFinalColon head))

end Head

namespace RightHandSide

/-- The text without one semicolon at its end and the blanks before that. -/
def dropSemicolon (s : Text) : Text :=
  if s.getLast? == some ';' then Text.stripRight s.dropLast else s

/-- The value of a right-hand side: there is none if a line feed stands inside of it. Up to two
semicolons at the end are not part of the value. -/
def value? (side : Text) : Option Text :=
  -- Two readers each drop a semicolon: the one of the line and the one of the value.
  let value := dropSemicolon (Text.strip side)
  if value.contains '\n' then none else some (Text.stripQuotes (dropSemicolon value))

end RightHandSide

namespace Assignment

def commentMarks : List String := ["//", "#", "/*", "*", "--"]

/-- Whether a line begins as a comment does. -/
def isComment (line : Text) : Bool := commentMarks.any fun mark => mark.toList.isPrefixOf line

/-- The assignment that a line without blanks around it makes. A doubled equals sign makes none. -/
def ofStripped? (line : Text) : Option Assignment :=
  if isComment line then none
  else
    match line.dropWhile (· != '=') with
    | [] => none
    -- Only the first sign is looked at, so a comparison further on does not matter.
    | _ :: '=' :: _ => none
    | _ :: side =>
      match Head.name? (line.takeWhile (· != '=')), RightHandSide.value? side with
      | some name, some value => some ⟨name, value⟩
      | _, _ => none

def ofLine? (line : Text) : Option Assignment := ofStripped? (Text.strip line)

end Assignment

end DryRun

/-!
## Bindings of a source text

The assignments of a source text, read line by line, bind names to texts. A name that is bound
again keeps its place in the order and takes the new text.
-/

namespace DryRun

/-- Names and the texts that they are bound to. -/
abbrev Bindings := Record Text

namespace Bindings

/-- Bind what a line assigns, if it is an assignment. -/
def readLine (table : Bindings) (line : Text) : Bindings :=
  match Assignment.ofLine? line with
  | some assignment => Record.set assignment.name assignment.value table
  | none => table

/-- The bindings that the assignments of a source text leave behind. -/
def ofSource (source : Text) : Bindings := (Text.lines source).foldl readLine []

end Bindings

end DryRun
