import DryRun.Text.Quoted

/-!
# Arguments of a command

Options have a long name after two dashes and perhaps a letter after one. A value follows its
option, or is attached to it: `--expected=5`, `-e5`. Letters may share a dash. After `--` nothing is
an option any more.

This belongs to the outer layer: it stands in for an option parser, which the program takes as a
parameter (`Toolkit.interpret`), and no result about the program rests on it.
-/

set_option autoImplicit false

/-!
## Suggestions for a misspelt name

Two names resemble each other when at least three fifths of their characters match. Matching takes
the longest block that the names have in common, the earliest of several, and goes on to its left
and to its right. Of the names that resemble a misspelt one the closest are suggested, three at
most, in the order of their characters.
-/

namespace DryRun.CommandLine

/-- The length of the longest common front of two texts. -/
def commonFront : Text → Text → Nat
  | a :: s, b :: t => if a == b then commonFront s t + 1 else 0
  | _, _ => 0

/-- A block that two texts have in common. -/
structure Block where
  first : Nat
  second : Nat
  size : Nat

/-- The longest block that two texts have in common, the earliest in the first text and then in the
second one. -/
def longestBlock (s t : Text) : Block :=
  (List.range s.length).foldl
    (fun best i => (List.range t.length).foldl
      (fun best j =>
        let size := commonFront (s.drop i) (t.drop j)
        if best.size < size then ⟨i, j, size⟩ else best) best)
    ⟨0, 0, 0⟩

/-- The number of characters of two texts that match; the bound on the blocks is the length of the
first text. -/
def matched : Nat → Text → Text → Nat
  | 0, _, _ => 0
  | bound + 1, s, t =>
    let block := longestBlock s t
    if block.size = 0 then 0
    else
      matched bound (s.take block.first) (t.take block.second) + block.size +
        matched bound (s.drop (block.first + block.size)) (t.drop (block.second + block.size))

/-- A name that resembles another one. -/
structure Likeness where
  name : Text
  matched : Nat
  total : Nat
  deriving DecidableEq, Repr

namespace Likeness

def of (misspelt name : Text) : Likeness :=
  ⟨name, CommandLine.matched name.length name misspelt, name.length + misspelt.length⟩

def isClose (l : Likeness) : Bool := 3 * l.total ≤ 10 * l.matched

/-- Whether one likeness is at least as close as another; of two that are equally close the one
whose name comes later is taken for the closer one. -/
def isCloser (a b : Likeness) : Bool :=
  ((compare (b.matched * a.total) (a.matched * b.total)).then (Text.order b.name a.name)).isLE

end Likeness

/-- The number of names that are suggested at most. -/
def suggestionLimit : Nat := 3

/-- The names that are suggested in place of a misspelt one. -/
def suggestions (misspelt : Text) (names : List Text) : List Text :=
  let close := (names.map (Likeness.of misspelt)).filter Likeness.isClose
  (((close.mergeSort Likeness.isCloser).take suggestionLimit).map Likeness.name).mergeSort
    fun s t => (Text.order s t).isLE

end DryRun.CommandLine

namespace DryRun.CommandLine

/-- An option of a command. -/
structure OptionSpec where
  name : String
  /-- The letter, if it has one. -/
  letter : Option Char
  takesValue : Bool
  /-- What it is for, in a sentence. -/
  about : String
  deriving DecidableEq, Repr

/-- Why arguments cannot be used. -/
inductive UsageProblem where
  | noSuchOption (name : Text) (suggestions : List Text)
  | needsValue (name : Text)
  /-- An option was given a value and takes none. -/
  | takesNoValue (name : Text)
  | missingArgument (name : String)
  /-- There are more arguments than the command takes. -/
  | extraArguments (arguments : List Text)
  | noSuchCommand (name : Text) (suggestions : List Text)
  | missingCommand
  | noSuchFile (argument : String) (path : Text)
  | isDirectory (argument : String) (path : Text)
  deriving DecidableEq, Repr

def suggestionText : List Text → Text
  | [] => []
  | [name] => " Did you mean ".toList ++ Text.quoted name ++ ['?']
  | names =>
    " (Did you mean one of: ".toList ++ Text.join [',', ' '] (names.map Text.quoted) ++ ['?', ')']

def UsageProblem.message : UsageProblem → Text
  | .noSuchOption name suggestions =>
    "No such option ".toList ++ Text.quoted name ++ ['.'] ++ suggestionText suggestions
  | .needsValue name => "Option ".toList ++ Text.quoted name ++ " requires an argument.".toList
  | .takesNoValue name =>
    "Option ".toList ++ Text.quoted name ++ " does not take a value.".toList
  | .missingArgument name => "Missing argument '".toList ++ name.toList ++ "'.".toList
  | .extraArguments arguments =>
    "Got unexpected extra argument".toList ++ (if arguments.length = 1 then [] else ['s']) ++
      " (".toList ++ Text.join [' '] arguments ++ [')']
  | .noSuchCommand name suggestions =>
    "No such command ".toList ++ Text.quoted name ++ ['.'] ++ suggestionText suggestions
  | .missingCommand => "Missing command.".toList
  | .noSuchFile argument path =>
    "Invalid value for '".toList ++ argument.toList ++ "': File ".toList ++ Text.quoted path ++
      " does not exist.".toList
  | .isDirectory argument path =>
    "Invalid value for '".toList ++ argument.toList ++ "': File ".toList ++ Text.quoted path ++
      " is a directory.".toList

/-- Whether a problem lies in the use of one option alone, so that the usage of the command is not
shown with it. -/
def UsageProblem.isOfOption : UsageProblem → Bool
  | .needsValue _ | .takesNoValue _ => true
  | _ => false

/-- Options with their values, and the other arguments. -/
structure Arguments where
  /-- The options by name, in order. -/
  options : List (String × Text) := []
  /-- The other arguments, in order. -/
  positional : List Text := []
  deriving DecidableEq, Repr

namespace Arguments

/-- The value of an option; the last one counts. -/
def value? (a : Arguments) (name : String) : Option Text :=
  (a.options.reverse.find? (·.1 == name)).map Prod.snd

def has (a : Arguments) (name : String) : Bool := a.options.any (·.1 == name)

def withOptions (options : List (String × Text)) (a : Arguments) : Arguments :=
  { a with options := options ++ a.options }

/-- The arguments with one that is no option in front. -/
def withPositional (argument : Text) (a : Arguments) : Arguments :=
  { a with positional := argument :: a.positional }

end Arguments

/-- The long name of an option with its dashes. -/
def OptionSpec.longName (o : OptionSpec) : Text := '-' :: '-' :: o.name.toList

/-- What an argument that is an option says. -/
inductive OptionReading where
  /-- Some options with their values. -/
  | complete (options : List (String × Text))
  /-- Some options, and one by the given name whose value is the next argument. -/
  | awaiting (options : List (String × Text)) (name : String) (shown : Text)

def readLetters (specs : List OptionSpec) (before : List (String × Text)) :
    Text → Except UsageProblem OptionReading
  | [] => .ok (.complete before)
  | c :: rest =>
    match specs.find? (·.letter == some c) with
    | none => .error (.noSuchOption ['-', c] [])
    | some spec =>
      if spec.takesValue then
        if rest.isEmpty then .ok (.awaiting before spec.name ['-', c])
        else .ok (.complete (before ++ [(spec.name, rest)]))
      else readLetters specs (before ++ [(spec.name, [])]) rest

/-- Read an argument that begins with a dash. -/
def readOption (specs : List OptionSpec) (argument : Text) :
    Except UsageProblem OptionReading :=
  let name := argument.takeWhile (· != '=')
  let attached := match argument.dropWhile (· != '=') with
    | [] => none
    | _ :: value => some value
  match specs.find? (·.longName == name) with
  | some spec =>
    match spec.takesValue, attached with
    | true, some value => .ok (.complete [(spec.name, value)])
    | true, none => .ok (.awaiting [] spec.name name)
    | false, some _ => .error (.takesNoValue name)
    | false, none => .ok (.complete [(spec.name, [])])
  | none =>
    if "--".toList.isPrefixOf argument then
      .error (.noSuchOption name (suggestions name (specs.map OptionSpec.longName)))
    else readLetters specs [] (argument.drop 1)

/-- Read arguments. If they may not be mixed, everything from the first one on that is no option is
left alone. -/
def readArguments (specs : List OptionSpec) (mixed : Bool) :
    List Text → Except UsageProblem Arguments
  | [] => .ok {}
  | argument :: rest =>
    if argument == "--".toList then .ok { positional := rest }
    else if argument.head? == some '-' && 1 < argument.length then
      match readOption specs argument with
      | .error problem => .error problem
      | .ok (.complete options) =>
        (readArguments specs mixed rest).map (Arguments.withOptions options)
      | .ok (.awaiting options name shown) =>
        match rest with
        | [] => .error (.needsValue shown)
        | value :: rest =>
          (readArguments specs mixed rest).map
            (Arguments.withOptions (options ++ [(name, value)]))
    else if mixed then (readArguments specs mixed rest).map (Arguments.withPositional argument)
    else .ok { positional := argument :: rest }

end DryRun.CommandLine
