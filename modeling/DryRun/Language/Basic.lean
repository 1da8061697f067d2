import DryRun.Language.OutputForm
import DryRun.Settings

/-!
# Languages

What a dry run knows about a programming language: how it prints, what its tool chain says before
the program's output, how its files are named and how long a run takes.
-/

set_option autoImplicit false

namespace DryRun

/-- What produces the output of a run. -/
inductive Engine where
  /-- The output is predicted from the source text. -/
  | heuristic
  /-- The source is a query and is executed. -/
  | sql
  deriving DecidableEq, Repr

/-- A programming language. -/
structure Language where
  /-- The name by which the library refers to it. -/
  id : String
  displayName : String
  /-- The ways of printing, the preferred one first. -/
  outputForms : List OutputForm
  /-- What the tool chain prints before the program's output. -/
  bannerLines : List Template
  /-- The ending of source files, with its dot. -/
  extension : String
  /-- The name of the source file without its ending, and of the program made from it. -/
  entryPoint : String := "main"
  /-- The simulated seconds from the start of a run to its end. -/
  compileDelay : Float := Settings.interpretedDelay
  /-- Pieces of syntax offered for quick insertion. -/
  helpers : List String := []
  engine : Engine := .heuristic
  /-- Texts whose appearance in the output also counts as a pass. -/
  successMarkers : List String := []
  /-- Whether the log ends with the exit code of a process. -/
  hasExitTrailer : Bool := true

namespace Language

def sourceFile (language : Language) : Text :=
  language.entryPoint.toList ++ language.extension.toList

/-- Whether a run takes as long as that of a compiled language. -/
def isCompiled (language : Language) : Bool :=
  Settings.compiledDelay ≤ language.compileDelay

/-- The value of a slot of a banner line. -/
def bannerValue (language : Language) (slot : String) : Text :=
  if slot == "source" then language.sourceFile else language.entryPoint.toList

/-- What the tool chain prints before the program's output. -/
def banner (language : Language) : List Text :=
  language.bannerLines.map (Template.fill language.bannerValue)

end Language

end DryRun
