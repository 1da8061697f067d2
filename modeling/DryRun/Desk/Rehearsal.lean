import DryRun.Desk.Perform

/-!
# Rehearsals

A rehearsal opens one exercise on a desk of its own, runs the source text once and waits for what
comes of it. There is one observer, who does nothing but listen, and a sink that does the same. What
a person at the desk notices before the report and after it is kept in order: how long was slept,
and the warning that an engine failed.
-/

set_option autoImplicit false

namespace DryRun

/-- Something that is noticed while a run is waited for. -/
inductive Notice where
  | slept (seconds : Float)
  | warned (message : Text)

/-- What is noticed of a moment. The engine of a run that has finished failed if it has no output
for the source text, which a run does not change. -/
def Moment.notice? (m : Moment) : Option Notice :=
  match m.event with
  | .slept seconds => some (.slept seconds)
  | .finished i _ _ => m.bench.attempts[i]?.bind fun a =>
    match a.language.output a.source with
    | .ok _ => none
    | .error e => some (.warned
        ('[' :: a.exercise.id ++ "] Engine failed: ".toList ++ e.message))
  | _ => none

/-- What came of a rehearsal. -/
structure Rehearsal where
  report? : Option Report
  /-- What was noticed before the report. -/
  before : List Notice
  /-- What was noticed after the report. -/
  after : List Notice
  announced : Bool

namespace Rehearsal

/-- A desk with the exercise opened and its run started. -/
def begun (kind : ClockKind) (exercise : Exercise) : Desk :=
  let d := Desk.fresh ⟨kind, 0⟩ (some fun _ => []) [fun _ => []]
  ((d.answer (.openExercise exercise)).2.answer (.ask none .run)).2

/-- Whether a run is under way on a desk. -/
def isBusy (d : Desk) : Bool := d.attempts.any fun a => !a.isIdle

/-- Wait for tasks, one after the other, until no run is under way; the bound is on their number. -/
def untilIdle : Nat → Desk → Desk
  | 0, d => d
  | bound + 1, d => if isBusy d then untilIdle bound (d.answer .runNext).2 else d

/-- The report that was last handed out at a desk. -/
def lastReport? (d : Desk) : Option Report :=
  d.journal.findSome? fun m => match m.event with
    | .reported _ _ _ report => some report
    | _ => none

/-- Whether an exercise was announced as accepted at a desk. -/
def hasAnnounced (d : Desk) : Bool :=
  d.journal.any fun m => match m.event with
    | .announced .. => true
    | _ => false

/-- Run the source text of an exercise once. -/
def ofExercise (kind : ClockKind) (exercise : Exercise) : Rehearsal :=
  let reported := untilIdle Desk.ampleDepth (begun kind exercise)
  let final := (reported.answer .runUntilIdle).2
  { report? := lastReport? reported
    before := (reported.eventsSince 0).filterMap Moment.notice?
    after := (final.eventsSince reported.journal.length).filterMap Moment.notice?
    announced := hasAnnounced final }

end Rehearsal

end DryRun
