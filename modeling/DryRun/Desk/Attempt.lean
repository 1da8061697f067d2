import DryRun.Grade

/-!
# Attempts

An attempt is one learner's work on an exercise: the source text as it stands, and the grade of the
latest run. While a run is under way the attempt is busy and the desk refuses every request to
change it.

What an attempt shows of the latest run, the prediction, the log and the verdict, are parts of one
grade. So they are always of the same run: whatever is done to an attempt sets, clears or leaves all
three together (`Attempt.results_eq`).
-/

set_option autoImplicit false

namespace DryRun

/-- Where an attempt is in its life. -/
inductive Phase where
  | idle
  | compiling
  | executing
  deriving DecidableEq, Repr

def Phase.name : Phase → String
  | .idle => "idle"
  | .compiling => "compiling"
  | .executing => "executing"

/-- A learner's work on an exercise. -/
structure Attempt where
  exercise : Exercise
  language : Language
  /-- The source text as it was at first. -/
  initial : Text
  /-- The source text as it stands. -/
  source : Text
  /-- Where the attempt is in its life. -/
  phase : Phase := .idle
  /-- What the latest run yielded, unless it has been cleared away. -/
  grade : Option Grade := none
  /-- Who is told about finished runs, by number, in order. -/
  observers : List Nat := []

namespace Attempt

def ofExercise (exercise : Exercise) (observers : List Nat) : Attempt :=
  let starter := exercise.starter.getD []
  { exercise, language := Language.ofTag exercise.tag, initial := starter, source := starter,
    observers }

def isIdle (a : Attempt) : Bool := a.phase == .idle

def log (a : Attempt) : List Text := (a.grade.map Grade.log).getD []

def verdict (a : Attempt) : Option Verdict := a.grade.map Grade.verdict

def predicted (a : Attempt) : Option Text := a.grade.bind Grade.predicted

/-- What an attempt shows of the latest run. -/
def results (a : Attempt) : Option Text × List Text × Option Verdict :=
  (a.predicted, a.log, a.verdict)

/-- The attempt with a run started: what the latest one yielded is cleared away. -/
def start (a : Attempt) : Attempt := { a with phase := .compiling, grade := none }

def execute (a : Attempt) : Attempt := { a with phase := .executing }

/-- What a run of the source text yields. -/
def outcome (a : Attempt) : Grade := Grade.ofSource a.language a.exercise.expected a.source

def finish (a : Attempt) : Attempt := { a with phase := .idle, grade := some a.outcome }

def reset (a : Attempt) : Attempt := { a with source := a.initial, grade := none }

/-- The attempt without what the latest run yielded. -/
def clear (a : Attempt) : Attempt := { a with grade := none }

def edit (a : Attempt) (source : Option Text) : Attempt := { a with source := source.getD [] }

/-- The attempt with a piece of text at the end of the source text, set off by a space. -/
def insert (a : Attempt) (piece : Text) : Attempt :=
  let gap := if a.source.isEmpty || a.source.getLast? == some ' ' then [] else [' ']
  { a with source := a.source ++ gap ++ piece }

/-- A start, a reset and a clearing take away all that is shown of the latest run, the end of a run
sets all of it, and everything else leaves all of it as it is. -/
theorem results_eq (a : Attempt) :
    (∀ cleared ∈ [a.start, a.reset, a.clear], cleared.results = (none, [], none)) ∧
      a.finish.results = (a.outcome.predicted, a.outcome.log, some a.outcome.verdict) ∧
      a.execute.results = a.results ∧ (∀ source, (a.edit source).results = a.results) ∧
      ∀ piece, (a.insert piece).results = a.results := by
  refine ⟨?_, rfl, rfl, fun _ => rfl, fun _ => rfl⟩
  intro cleared member
  simp only [List.mem_cons, List.not_mem_nil, or_false] at member
  rcases member with rfl | rfl | rfl <;> rfl

def describe (a : Attempt) : Text :=
  "GradingSession(exercise=".toList ++ Text.quoted a.exercise.id ++ ", language=".toList ++
    Text.quoted a.language.id.toList ++ ", status=".toList ++ a.phase.name.toList ++ [')']

end Attempt

/-- What observers are told about a finished run. -/
structure Report where
  exercise : Text
  language : String
  grade : Grade
  deriving DecidableEq, Repr

/-- What observers are told when a run of the source text has finished. -/
def Attempt.report (a : Attempt) : Report := ⟨a.exercise.id, a.language.id, a.outcome⟩

def Report.passed (r : Report) : Bool := r.grade.verdict == .success

end DryRun
