import DryRun.CommandLine.Arguments
import DryRun.CommandLine.Program
import DryRun.Page.Layout

/-!
# The program on a terminal

The outer layer of the program: a reader of its arguments and a console of 80 columns, as far as the
program needs them (`standard`). The arguments name a command, options and a file or a language;
what makes no sense is refused with exit code 2, and a command that gives up ends with exit code 1.

The layer stands in for libraries that the program only uses. No result about the program depends on
how it is made, only on its being lawful (`standard_lawful`).
-/

set_option autoImplicit false

namespace DryRun.CommandLine

/-- Lines and an exit code. -/
def Response.ofLines (lines : List Text) (exitCode : Nat) : Response :=
  ⟨lines.map .output, exitCode⟩

/-- The name of the program in its messages. -/
def programName : String := "cli"

/-- A command. -/
inductive Command where
  | run
  | exercise
  | languages
  | helpers
  deriving DecidableEq, Repr

namespace Command

def all : List Command := [.exercise, .helpers, .languages, .run]

def name : Command → String
  | .run => "run"
  | .exercise => "exercise"
  | .languages => "languages"
  | .helpers => "helpers"

/-- The name of the argument of a command that takes one. -/
def argument : Command → Option String
  | .run | .exercise => some "FILE"
  | .languages => none
  | .helpers => some "LANGUAGE"

def about : Command → String
  | .run => "Run a source FILE through the emulator."
  | .exercise => "Grade an exercise JSON FILE (\x7bid, language, starter, expected\x7d)."
  | .languages => "List supported languages."
  | .helpers => "Show the quick-insert syntax helpers for LANGUAGE."

def helpOption : OptionSpec := ⟨"help", none, false, "Show this message and exit."⟩

def fastOption : OptionSpec := ⟨"fast", none, false, "Skip the simulated delays"⟩

def options : Command → List OptionSpec
  | .run =>
    [⟨"language", some 'l', true, "Language tag (default: from file extension)"⟩,
     ⟨"expected", some 'e', true, "Expected output to grade against"⟩, fastOption, helpOption]
  | .exercise => [fastOption, helpOption]
  | .languages | .helpers => [helpOption]

def ofName? (name : Text) : Option Command := all.find? (·.name.toList == name)

end Command

def programOptions : List OptionSpec :=
  [⟨"version", none, false, "Show the version and exit."⟩,
   ⟨"verbose", some 'v', false, "Show debug logging"⟩, Command.helpOption]

/-- The program's name followed by that of a command. -/
def commandPath (command : Option Command) : Text :=
  programName.toList ++ match command with
    | some c => ' ' :: c.name.toList
    | none => []

/-- How a command, or the program, is used. -/
def usageLine (command : Option Command) : Text :=
  "Usage: ".toList ++ commandPath command ++ " [OPTIONS]".toList ++ match command with
    | none => " COMMAND [ARGS]...".toList
    | some c => match c.argument with
      | some name => ' ' :: name.toList
      | none => []

/-- The lines that tell how a command, or the program, is used and where to find out more. -/
def usageHint (command : Option Command) : List Text :=
  [usageLine command, "Try '".toList ++ commandPath command ++ " --help' for help.".toList, []]

/-- The answer to arguments that make no sense. -/
def refuse (command : Option Command) (problem : UsageProblem) : Response :=
  .ofLines ((if problem.isOfOption then [] else usageHint command) ++
    ["Error: ".toList ++ problem.message]) 2

/-- Names with what they stand for, in two columns. None of the lines needs wrapping. -/
def glossary (entries : List (Text × String)) : List Text :=
  let width := entries.foldl (fun width entry => max width entry.1.length) 0
  entries.map fun (name, about) => "  ".toList ++ Text.padRight ' ' (width + 2) name ++ about.toList

def optionForm (o : OptionSpec) : Text :=
  (match o.letter with
    | some c => ['-', c, ',', ' ']
    | none => []) ++ o.longName ++ if o.takesValue then " TEXT".toList else []

/-- The help page of a command, or of the program. -/
def helpPage (command : Option Command) : List Text :=
  let about := match command with
    | some c => c.about
    | none => "Code Emulator - predict and grade the output of exercise snippets."
  let options := (command.map Command.options).getD programOptions
  let commands := match command with
    | some _ => []
    | none => [[], "Commands:".toList] ++
        glossary (Command.all.map fun c => (c.name.toList, c.about))
  [usageLine command, [], "  ".toList ++ about.toList, [], "Options:".toList] ++
    glossary (options.map fun o => (optionForm o, o.about)) ++ commands

def help (command : Option Command) : Response := .ofLines (helpPage command) 0

/-- What a command that takes one argument is to do. -/
def withArgument (command : Command) (name : String) (a : Arguments)
    (order : Text → Except UsageProblem Order) : Except Response Order :=
  match a.positional with
  | [] => .error (refuse (some command) (.missingArgument name))
  | first :: rest =>
    match order first with
    | .error problem => .error (refuse (some command) problem)
    | .ok order =>
      if rest.isEmpty then .ok order else .error (refuse (some command) (.extraArguments rest))

/-- What a command on a file is to do, if the path leads to one. -/
def withFile (look : Text → Entry) (order : File → Order) (path : Text) :
    Except UsageProblem Order :=
  match look path with
  | .absent => .error (.noSuchFile "FILE" path)
  | .directory => .error (.isDirectory "FILE" path)
  | .file bytes => .ok (order ⟨path, bytes⟩)

/-- What a command whose arguments have been read is to do. -/
def orderOf (command : Command) (look : Text → Entry) (a : Arguments) : Except Response Order :=
  if a.has "help" then .error (help (some command))
  else
    match command with
    | .run => withArgument command "FILE" a (withFile look fun file =>
        .run file (a.value? "language") (a.value? "expected") (a.has "fast"))
    | .exercise =>
      withArgument command "FILE" a (withFile look fun file => .exercise file (a.has "fast"))
    | .helpers => withArgument command "LANGUAGE" a fun tag => .ok (.helpers tag)
    | .languages =>
      if a.positional.isEmpty then .ok .languages
      else .error (refuse (some command) (.extraArguments a.positional))

/-- The response to an option of the program that is a question of its own. -/
def answerOption? (name : String) : Option Response :=
  if name == "version" then some (.ofLines ["Code Emulator, version 0.1.0".toList] 0)
  else if name == "help" then some (help none)
  else none

/-- The response to the options of the program, unless it goes on with a command: the first question
is answered. -/
def answerProgram (a : Arguments) : Option Response :=
  a.options.findSome? fun option => answerOption? option.1

/-- The response to an unknown command. A name that looks like an option is read as one. -/
def answerUnknown (name : Text) (rest : List Text) : Response :=
  match readArguments programOptions false (name :: rest) with
  | .error problem => refuse none problem
  | .ok a =>
    (answerProgram a).getD
      (refuse none (.noSuchCommand name (suggestions name (Command.all.map (·.name.toList)))))

/-- What the arguments of the program ask for, and whether all records are to be shown. -/
def interpret (look : Text → Entry) (arguments : List Text) : Except Response (Bool × Order) :=
  match readArguments programOptions false arguments with
  | .error problem => .error (refuse none problem)
  | .ok a =>
    match answerProgram a, a.positional with
    | some response, _ => .error response
    | none, [] =>
      .error (if arguments.isEmpty then .ofLines (helpPage none) 2 else refuse none .missingCommand)
    | none, name :: rest =>
      match Command.ofName? name with
      | none => .error (answerUnknown name rest)
      | some command =>
        match readArguments command.options true rest with
        | .error problem => .error (refuse (some command) problem)
        | .ok own => (orderOf command look own).map fun order => (a.has "verbose", order)

/-- The lines that a terminal without colours shows. -/
def draw : Request → List Text
  | .print markup => Page.printed markup
  | .panel title body _ => Page.panel (Page.plain title) body
  | .table title columns rows =>
    Page.listing (Text.feedLines (Page.plain title)) (columns.map (·.heading.toList)) rows
  | .status _ => []

/-- The lines and the exit code that the end of a command comes to. -/
def close : Ending → List Text × Nat
  | .returned => ([], 0)
  | .exited code => ([], code)
  | .aborted => (["Aborted!".toList], 1)

/-- A reader of arguments and a terminal. -/
def standard : Toolkit := ⟨interpret, Page.escape, draw, close⟩

/-- The response to the arguments of the program on a terminal. -/
def respond (look : Text → Entry) (arguments : List Text) : Response :=
  respondWith standard look arguments

/-- The paths that the response to some arguments may depend on. -/
def pathsOf (arguments : List Text) : List Text :=
  match readArguments programOptions false arguments with
  | .error _ => []
  | .ok a =>
    match a.positional with
    | [] => []
    | name :: rest =>
      match Command.ofName? name with
      | none => []
      | some command =>
        match readArguments command.options true rest with
        | .error _ => []
        | .ok a => a.positional.take 1

end DryRun.CommandLine
