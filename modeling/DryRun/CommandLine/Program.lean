import DryRun.Desk.Rehearsal
import DryRun.Document.ExerciseFile

/-!
# The program

The program carries out one of four commands: it runs a source file, grades an exercise file, lists
the languages, or shows the quick inserts of one. What it does is a list of effects, asking the
console to show something, recording an event or waiting, and in the end it returns, exits with a
code or gives up.

Three things are not its own: reading the arguments, drawing on the console, and what the end of a
command comes to for whoever called it. A `Toolkit` provides them, and `Toolkit.Lawful` says what is
relied on. The markup of what is shown is the program's own.
-/

set_option autoImplicit false

namespace DryRun.CommandLine

/-! ## What the program asks for -/

/-- How serious a record is. -/
inductive Level where
  | debug
  | info
  | warning
  deriving DecidableEq, Repr

namespace Level

def name : Level → String
  | .debug => "DEBUG"
  | .info => "INFO"
  | .warning => "WARNING"

def number : Level → Nat
  | .debug => 10
  | .info => 20
  | .warning => 30

def ofName? (name : String) : Option Level := [.debug, .info, .warning].find? (·.name == name)

/-- The number from which records are shown: that of the level in the settings, unless everything is
asked for. -/
def threshold (verbose : Bool) : Nat :=
  if verbose then Level.debug.number else ((ofName? Settings.reportLevel).map number).getD 0

end Level

/-- A column of a table. -/
structure Column where
  heading : String
  style : String
  /-- Whether its entries are kept on one line. -/
  isUnbroken : Bool := false

/-- What the console is asked to show. -/
inductive Request where
  /-- Text with its markup. -/
  | print (markup : Text)
  /-- Plain text in a frame of a colour, with a title. -/
  | panel (title body : Text) (border : String)
  | table (title : Text) (columns : List Column) (rows : List (List Text))
  /-- A message for as long as something takes; `none` takes it away. -/
  | status (message : Option Text)

/-- Something that the program does; `α` is what it has shown. -/
inductive Effect (α : Type) where
  | output (a : α)
  | record (level : Level) (message : Text)
  | wait (seconds : Float)

/-- How a command ends. -/
inductive Ending where
  | returned
  | exited (code : Nat)
  | aborted
  deriving DecidableEq, Repr

/-- What a command does and how it ends. -/
structure Answer where
  effects : List (Effect Request)
  ending : Ending

/-- A command with the values of its arguments. -/
inductive Order where
  | run (file : File) (language expected : Option Text) (fast : Bool)
  | exercise (file : File) (fast : Bool)
  | languages
  | helpers (language : Text)

/-! ## What the program takes from elsewhere -/

/-- What comes of the arguments: lines, times to wait and an exit code. -/
structure Response where
  effects : List (Effect Text)
  exitCode : Nat

/-- The lines that are shown; records are no part of them. -/
def Response.lines (r : Response) : List Text :=
  r.effects.filterMap fun
    | .output s => some s
    | .record .. | .wait _ => none

/-- A reader of arguments and a console. -/
structure Toolkit where
  /-- What some arguments ask for, and whether all records are to be shown; or the response to
  arguments that ask for help or make no sense. The function tells what a path leads to. -/
  interpret : (Text → Entry) → List Text → Except Response (Bool × Order)
  /-- The markup that shows a text as it is. -/
  escape : Text → Text
  /-- The lines that the console shows when it is asked to. -/
  draw : Request → List Text
  /-- The lines and the exit code that the end of a command comes to. -/
  close : Ending → List Text × Nat

namespace Toolkit

variable (tools : Toolkit)

/-- An effect with what is shown drawn. Records below a number are dropped. -/
def carryOut (threshold : Nat) : Effect Request → List (Effect Text)
  | .output request => (tools.draw request).map .output
  | .record level message => if threshold ≤ level.number then [.record level message] else []
  | .wait seconds => [.wait seconds]

/-- What the answer of a command comes to. -/
def finish (verbose : Bool) (answer : Answer) : Response where
  effects := answer.effects.flatMap (tools.carryOut (Level.threshold verbose)) ++
    (tools.close answer.ending).1.map .output
  exitCode := (tools.close answer.ending).2

end Toolkit

/-! ## The commands -/

/-- A text between an opening and a closing tag. -/
def styled (style : String) (s : Text) : Text :=
  '[' :: style.toList ++ ']' :: s ++ '[' :: '/' :: style.toList ++ [']']

/-- What the console is asked for about a report: the log in a panel, and the verdict. -/
def reportRequests (report : Report) : List Request :=
  [.panel (styled "bold" (Text.upper report.language.toList)) (Text.join ['\n'] report.grade.log)
      (if report.passed then "green" else "red"),
    match report.grade.verdict with
    | .success => .print (styled "bold green" "✓ Output accepted".toList)
    | .fail => .print (styled "bold red" "✗ Output does not match the expected result".toList)]

/-- A sleep is waited for, and a warning recorded. -/
def Effect.ofNotice : Notice → Effect Request
  | .slept seconds => .wait seconds
  | .warned message => .record .warning message

/-- Run an exercise and show what comes of it: the report, unless there is none. -/
def runExercise (exercise : Exercise) (fast : Bool) :
    List (Effect Request) × Except Text Report :=
  let r := Rehearsal.ofExercise (if fast then .virtual else .monotonic) exercise
  let label := (Language.ofTag exercise.tag).displayName.toList
  let building := styled "cyan" ("Building ".toList ++ label ++ " snippet...".toList)
  let run : List (Effect Request) :=
    .output (.status (some building)) :: r.before.map .ofNotice ++ [.output (.status none)]
  match r.report? with
  | none => (run, .error "list index out of range".toList)
  | some report =>
    -- The report is shown as soon as the session is idle. The completion comes due later.
    let completion : List Request :=
      if r.announced then [.print (styled "dim" "Exercise marked complete.".toList)] else []
    (run ++ (reportRequests report).map .output ++ r.after.map .ofNotice ++
      completion.map .output, .ok report)

/-- Tell what went wrong, and give up. -/
def Answer.failed (tools : Toolkit) (effects : List (Effect Request)) (message : Text) : Answer where
  effects := effects ++ [.output (.print
    ('\n' :: styled "bold red" "Error:".toList ++ ' ' :: tools.escape message ++ ['\n']))]
  ending := .aborted

/-- Run an exercise after some other effects, and end as its report says. -/
def Answer.ofExercise (tools : Toolkit) (effects : List (Effect Request)) (exercise : Exercise)
    (fast : Bool) : Answer :=
  let (more, outcome) := runExercise exercise fast
  match outcome with
  | .error message => .failed tools (effects ++ more) message
  | .ok report => ⟨effects ++ more, if report.passed then .returned else .exited 1⟩

/-- The answer to the command that runs a source file. -/
def answerRun (tools : Toolkit) (file : File) (language expected : Option Text) (fast : Bool) :
    Answer :=
  let tag := language.getD (Language.tagOfExtension (File.ending file.name))
  match file.text with
  | .error e => .failed tools [] e.message
  | .ok source => .ofExercise tools [] ⟨File.stem file.name, some tag, some source, expected⟩ fast

def exerciseRequests (tools : Toolkit) (e : Exercise) : List Request :=
  .print ('\n' :: styled "bold cyan" ("Exercise ".toList ++ tools.escape e.id)) ::
    match e.expected with
    | none | some [] => []
    | some expected =>
      [.print (styled "dim" ("Expected output: ".toList ++ tools.escape expected))]

/-- The answer to the command that grades an exercise file. -/
def answerExercise (tools : Toolkit) (file : File) (fast : Bool) : Answer :=
  match Exercise.ofFile file with
  | .error e =>
    .failed tools [] ((if e.isMisshapen then "Invalid exercise file: ".toList else []) ++ e.message)
  | .ok exercise => .ofExercise tools ((exerciseRequests tools exercise).map .output) exercise fast

/-- A delay with one place after the point. -/
def delayText (seconds : Float) : Text :=
  let tenths := (seconds * 10 + 0.5).toUInt64.toNat
  Nat.toDigits 10 (tenths / 10) ++ '.' :: Nat.toDigits 10 (tenths % 10) ++ ['s']

def engineName : Engine → String
  | .heuristic => "heuristic"
  | .sql => "sql"

/-- The answer to the command that lists the languages. -/
def answerLanguages : Answer :=
  let columns : List Column :=
    [⟨"Id", "cyan", true⟩, ⟨"Name", "white", false⟩, ⟨"File", "magenta", false⟩,
     ⟨"Build", "green", false⟩, ⟨"Engine", "yellow", false⟩]
  let row := fun (listing : Language.Listing) =>
    let l := listing.language
    [l.id.toList, l.displayName.toList, l.sourceFile, delayText l.compileDelay,
     (engineName l.engine).toList]
  let count := Nat.toDigits 10 Language.catalogue.length
  { effects :=
      [.output (.table "\n💻 Supported Languages".toList columns (Language.catalogue.map row)),
       .output (.print ("\nTotal: ".toList ++ count ++ " languages\n".toList))]
    ending := .returned }

/-- The answer to the command that shows the quick inserts of a language. -/
def answerHelpers (tools : Toolkit) (tag : Text) : Answer :=
  let l := Language.ofTag (some tag)
  let inserts := l.helpers.map fun s => styled "magenta" (tools.escape s.toList)
  { effects :=
      [.output (.print
         ('\n' :: styled "bold cyan" l.displayName.toList ++ " quick inserts:\n".toList)),
       .output (.print (' ' :: ' ' :: Text.join [' ', ' '] inserts)), .output (.print [])]
    ending := .returned }

/-- The answer to a command. -/
def Order.answer (tools : Toolkit) : Order → Answer
  | .run file language expected fast => answerRun tools file language expected fast
  | .exercise file fast => answerExercise tools file fast
  | .languages => answerLanguages
  | .helpers language => answerHelpers tools language

/-- The response to the arguments of the program; `look` tells what a path leads to. -/
def respondWith (tools : Toolkit) (look : Text → Entry) (arguments : List Text) : Response :=
  match tools.interpret look arguments with
  | .error response => response
  | .ok (verbose, order) => tools.finish verbose (order.answer tools)

end DryRun.CommandLine
