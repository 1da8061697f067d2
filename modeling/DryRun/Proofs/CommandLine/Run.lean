import DryRun.CommandLine.Commands
import DryRun.Proofs.Desk.Rehearsal

/-!
# The response to a run of a file

The program responds to `run FILE --fast` with what the pure pipeline makes of the file
(`respond_run`): the language comes from an option or else from the ending of the file, the engine
of the language predicts the output, and the prediction is compared with the expected one. On the
way there a desk is opened, a run is started and tasks are waited for. None of this shows but in the
order of what is printed, since the rehearsal goes the same way whatever the language and the source
text are (`Rehearsal.goes`).

Which arguments ask for a run and how the console draws is left to the toolkit. All that is assumed
of it is that the exit code of a command that returns or exits is zero or its own.
-/

set_option autoImplicit false

namespace DryRun

/-- The verdict on a source text without a desk: what the engine of the language prints is compared
with the expected output, and an engine that fails makes the run fail. -/
def Verdict.ofSource (language : Language) (expected : Option Text) (source : Text) : Verdict :=
  match language.output source with
  | .ok output =>
    grade (output.map (Text.join ['\n'])) expected (language.successMarkers.map String.toList)
  | .error _ => .fail

namespace CommandLine

/-- Whatever is done is shown: what the console draws, records and waits as they are. -/
def Toolkit.shown (tools : Toolkit) : Effect Request → List (Effect Text)
  | .output request => (tools.draw request).map .output
  | .record level message => [.record level message]
  | .wait seconds => [.wait seconds]

end CommandLine

end DryRun
