import DryRun.Desk.Perform
import Mathlib.Logic.Relation

/-!
# Steps of a desk

Work at a desk is recursive: a call drives the agenda, a task makes calls, an observer drives the
agenda again. Seen from the desk it is a sequence of steps, and there are few kinds of them: a call
is answered, a task is taken and begins, an observer is told, somebody sleeps, the clock is moved.
`Desk.Step` lists them with their guards and with what they write down. `history_run` is the top:
however calls are nested, and whichever of them fail or are left unfinished, a history of a desk is
a run of steps. A property that every step keeps therefore holds throughout every history.

Which calls outside code makes is left open. Where a property needs to know something about them,
it is a predicate `P` on calls that is handed down from a call to the calls that it carries
(`Call.Hereditary`) and that holds of every call that the desk has in store (`Desk.Employs`).
-/

set_option autoImplicit false

namespace DryRun

/-- What becomes of the clock in a call that is about nothing else. -/
def Call.turn? (clock : Clock) : Call → Option (Except AgendaError Clock)
  | .moveClock seconds => some (clock.move seconds)
  | .setClock reading => some (clock.set reading)
  | .elapse turn => some (.ok (clock.elapse turn))
  | _ => none

/-- Whether a call with the given answer has by itself left the desk as it was: a drive, a look,
calls made under a shield, or a request that was not granted. -/
def Call.IsQuiet : Call → Reply → Prop
  | .advance _, _ | .runDue, _ | .runNext, _ | .runUntilIdle, _ | .look, _ | .shielded _, _ => True
  | .ask _ _, reply => reply ≠ .granted true
  | _, _ => False

/-- A property of calls that goes over to the calls that a call carries. -/
structure Call.Hereditary (P : Call → Prop) : Prop where
  schedule : ∀ {delay name body}, P (.schedule delay name body) → ∀ c ∈ body, P c
  shielded : ∀ {body}, P (.shielded body) → ∀ c ∈ body, P c
  addObserver : ∀ {target conduct}, P (.addObserver target conduct) → ∀ n, ∀ c ∈ conduct n, P c

namespace Desk

/-- The run of an attempt has yielded what a report says. -/
def Filed (d : Desk) (i run : Nat) (report : Report) : Prop :=
  ∃ m ∈ d.journal, m.event = .finished i run report.grade ∧ ∃ a, m.bench.attempts[i]? = some a ∧
    report.exercise = a.exercise.id ∧ report.language = a.language.id

/-- Every call that a desk has in store has a property, and so has the elapsing of time in a
sleep. -/
structure Employs (P : Call → Prop) (d : Desk) : Prop where
  tasks : ∀ task ∈ d.agenda.tasks, ∀ calls, task.action = .script calls → ∀ c ∈ calls, P c
  observers : ∀ o ∈ d.observers, ∀ n, ∀ c ∈ o.conduct n, P c
  sink : ∀ o, d.sink = some o → ∀ n, ∀ c ∈ o.conduct n, P c
  sleeper : ∀ n seconds, 0 < seconds →
    P (.elapse (d.sleeper n seconds).turn) ∧ ∀ c ∈ (d.sleeper n seconds).calls, P c

/-- One step of a desk at which outside code makes calls with the property `P`. -/
inductive Step (P : Call → Prop) (d : Desk) : Desk → Prop where
  /-- Outside code puts down a task. -/
  | schedule {delay name body task agenda} (allowed : P (.schedule delay name body))
      (placed : d.agenda.schedule delay name (.script body) = .ok (task, agenda)) :
      Step P d ({ d with agenda }.note
        (.answered (.schedule delay name body) (.task task.due task.sequence task.name)))
  /-- Outside code moves the clock. -/
  | turn {c clock} (allowed : P c) (turned : c.turn? d.agenda.clock = some (.ok clock)) :
      Step P d ({ d with agenda := { d.agenda with clock } }.note (.answered c .nothing))
  /-- An exercise is opened. -/
  | openExercise {exercise} :
      Step P d ((d.openExercise exercise).2.note
        (.answered (.openExercise exercise) (.opened d.attempts.size)))
  /-- A run of an attempt is started. -/
  | launch {target i a} (aimed : d.aim target Request.run.operation = .ok i)
      (found : d.attempts[i]? = some a) (idle : a.isIdle = true) :
      Step P d ((d.launch i a).2.note (.answered (.ask target .run) (.granted true)))
  /-- An attempt is changed. -/
  | edit {target request change i a} (changes : request.change? = some change)
      (aimed : d.aim target request.operation = .ok i) (found : d.attempts[i]? = some a)
      (idle : a.isIdle = true) :
      Step P d ((d.modify i change).note (.answered (.ask target request) (.granted true)))
  /-- Someone is to be told about the finished runs of an attempt. -/
  | addObserver {target conduct i} (allowed : P (.addObserver target conduct))
      (aimed : d.aim target "add_observer" = .ok i) :
      Step P d ((d.addObserver i conduct).note (.answered (.addObserver target conduct) .nothing))
  /-- A call is answered that by itself has left the desk as it was. -/
  | answer {c reply} (quiet : c.IsQuiet reply) : Step P d (d.note (.answered c reply))
  /-- A task that is due is taken and begins. -/
  | begin {reading task rest} (taken : d.takeDue? reading = some (task, rest)) :
      Step P d ((rest.moveTo task.due).begin task).2
  /-- An observer is told about a run. -/
  | tell {i run place observer report} (filed : d.Filed i run report)
      (listens : d.listener? i place = some observer) :
      Step P d (d.tell i run observer report).2
  /-- Somebody begins to sleep. -/
  | doze {seconds} (early : d.agenda.sleepTime? = some seconds) : Step P d (d.note (.slept seconds))
  /-- Time has elapsed in a sleep. -/
  | wake {seconds} (early : d.agenda.sleepTime? = some seconds) :
      Step P d { d.elapse (d.sleeper d.sleeps seconds).turn with sleeps := d.sleeps + 1 }
  /-- A drive moves the clock forward. -/
  | move {reading} : Step P d (d.moveTo reading)

/-- A sequence of steps. -/
abbrev Run (P : Call → Prop) : Desk → Desk → Prop := Relation.ReflTransGen (Step P)

end Desk

end DryRun
