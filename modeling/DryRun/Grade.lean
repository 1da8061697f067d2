import DryRun.Language.Tag
import DryRun.Query.Table
import DryRun.Source.Assignment

/-!
# Grades

A grade is everything that a run of a source text yields: the predicted output, the verdict on it
and the log that is shown. `Grade.ofSource` is the whole dry run as one function of the language,
the source text and the expected output, without clock or state.
-/

set_option autoImplicit false

namespace DryRun

/-- An exercise as it is handed to a learner. -/
structure Exercise where
  id : Text
  /-- The tag of the language, if it has one. -/
  tag : Option Text
  starter : Option Text
  /-- The output that is expected, if one is. -/
  expected : Option Text
  deriving DecidableEq, Repr

end DryRun

/-!
## Predicting the output

The first output form of the language that finds itself anywhere in the source text gives the
argument, and the argument is resolved: a quoted text is itself, a bound name is what it is bound
to, anything else stays as written.
-/

namespace DryRun.Prediction

/-- The text that an argument of an output statement stands for. -/
def resolve (table : Bindings) (argument : Text) : Text :=
  let clean := RightHandSide.dropSemicolon (Text.strip argument)
  match Text.between? Text.quoteMarks clean with
  | some inner => inner
  | none => (Record.get? table clean).getD clean

/-- The argument of the output statement that counts. -/
def argument? (language : Language) (source : Text) : Option Text :=
  language.outputForms.findSome? fun form => form.argument? source

/-- What a source text is predicted to print, if it has an output statement. -/
def output? (language : Language) (table : Bindings) (source : Text) : Option Text :=
  (argument? language source).map (resolve table)

/-- What a source text is predicted to print with its own bindings. -/
def ofSource? (language : Language) (source : Text) : Option Text :=
  output? language (Bindings.ofSource source) source

end DryRun.Prediction

/-!
## Verdicts

A prediction passes when the expected text stands somewhere in it, blanks at the ends and letter
case apart. An absent or blank expectation is met by anything, and a language may name further
texts that count as a pass.
-/

namespace DryRun

/-- Whether a run was accepted. -/
inductive Verdict where
  | success
  | fail
  deriving DecidableEq, Repr

namespace Verdict

def normalize (s : Option Text) : Text := Text.lower (Text.strip (s.getD []))

def grade (predicted expected : Option Text) (markers : List Text) : Verdict :=
  let wanted := normalize expected
  let actual := normalize predicted
  if wanted.isEmpty || Text.occursIn wanted actual then .success
  else if markers.any fun marker =>
      !(normalize (some marker)).isEmpty && Text.occursIn (normalize (some marker)) actual then
    .success
  else .fail

end Verdict

end DryRun

/-!
## Transcripts

The transcript of a run is the log that a person sees: what the tool chain says, the output of the
program, and for a process the exit code.
-/

namespace DryRun.Transcript

/-- The lines that end the log of a process with the given exit code. -/
def exitTrailer (language : Language) (code : Text) : List Text :=
  if language.hasExitTrailer then [[], Settings.exitLine.fill fun _ => code] else []

/-- The log of a run that printed the given lines; `none` stands for no output at all, and so does
an empty list. -/
def ofOutput (language : Language) (output : Option (List Text)) : List Text :=
  let body := match output with
    | none | some [] => [Settings.noOutputLine]
    | some lines => lines
  language.banner ++ body ++ exitTrailer language ['0']

/-- The log of a run whose engine failed. -/
def ofFailure (language : Language) (message : Text) : List Text :=
  language.banner ++ [Settings.failureLine.fill fun _ => message] ++ exitTrailer language ['1']

end DryRun.Transcript

namespace DryRun

/-- What a run yields. -/
structure Grade where
  /-- The predicted output, if there is any. -/
  predicted : Option Text
  log : List Text
  verdict : Verdict
  deriving DecidableEq, Repr

namespace Language

/-- What the engine of a language makes of a source text: its lines, none if it prints nothing. -/
def output (language : Language) (source : Text) : Except QueryError (Option (List Text)) :=
  match language.engine with
  | .sql => (Table.users.answer source).map some
  | .heuristic => .ok ((Prediction.ofSource? language source).map fun line => [line])

end Language

namespace Grade

/-- The grade of a run that printed the given lines. -/
def ofOutput (language : Language) (expected : Option Text) (output : Option (List Text)) :
    Grade :=
  let predicted := output.map (Text.join ['\n'])
  { predicted
    log := Transcript.ofOutput language output
    verdict :=
      Verdict.grade predicted expected (language.successMarkers.map String.toList) }

/-- The grade of a run whose engine failed. -/
def ofFailure (language : Language) (error : QueryError) : Grade where
  predicted := none
  log := Transcript.ofFailure language error.message
  verdict := .fail

def ofSource (language : Language) (expected : Option Text) (source : Text) : Grade :=
  match language.output source with
  | .ok output => ofOutput language expected output
  | .error error => ofFailure language error

end Grade

end DryRun
