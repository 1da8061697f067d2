import DryRun.Text.Basic

/-!
# Settings

The constants of a dry run: the simulated delays, in seconds, and the fixed texts of its log. A text
with named slots is a template.
-/

set_option autoImplicit false

/-!
## Templates

A template is a text with named slots. `pattern` shows it with every slot's name in braces, `fill`
puts values in place of the slots.
-/

namespace DryRun

/-- A piece of a template. -/
inductive TemplatePart where
  /-- Text that stands as it is. -/
  | literal (s : String)
  /-- A place for the value of that name. -/
  | slot (name : String)
  deriving DecidableEq, Repr

abbrev Template := List TemplatePart

namespace Template

/-- The template with every slot written as its name in braces. -/
def pattern (t : Template) : Text :=
  t.flatMap fun
    | .literal s => s.toList
    | .slot name => '\x7b' :: name.toList ++ ['\x7d']

/-- The template with the values of its slots. -/
def fill (value : String → Text) (t : Template) : Text :=
  t.flatMap fun
    | .literal s => s.toList
    | .slot name => value name

end Template

end DryRun

namespace DryRun.Settings

/-- The tag of an exercise that names no language. -/
def defaultTag : Text := "javascript".toList

/-- The level from which events are reported when nothing else is asked for. -/
def reportLevel : String := "WARNING"

/-- How long an interpreted language takes from the start of a run to its end. -/
def interpretedDelay : Float := 0.6

/-- How long a compiled language takes from the start of a run to its end. -/
def compiledDelay : Float := 1.2

/-- How long an accepted run waits before the completion is announced. -/
def completionDelay : Float := 1.5

/-- The log line of a run that printed nothing. -/
def noOutputLine : Text := "(Program exited with no output)".toList

/-- The line that ends the log of a process. -/
def exitLine : Template := [.literal "Process finished with exit code ", .slot "code"]

/-- The line that a failed run leaves in the log. -/
def failureLine : Template := [.literal "Runtime Error: ", .slot "message"]

def fileEncoding : String := "utf-8"

end DryRun.Settings
