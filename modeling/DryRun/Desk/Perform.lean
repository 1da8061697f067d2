import DryRun.Desk.Basic

/-!
# Work at a desk

Answering a call may set off more work: tasks run, which make calls, which run further tasks. A
piece of work is a `Work`; `Work.step` does one piece, given how the pieces that it sets off are
done, and `Desk.perform` ties the knot. The depth to which work may be nested is bounded by a
number that a caller can choose; work that would exceed it is left unfinished, which is told apart
from every real outcome.

A failure ends the work it arises in and goes up from there. Only an observer's failure goes no
further: the next observer is told all the same.
-/

set_option autoImplicit false

namespace DryRun

/-- How a piece of work ended. -/
inductive Outcome (α : Type) where
  | returned (a : α)
  | failed (failure : Failure)
  /-- Not at all within the bound on nesting. -/
  | unfinished

def Outcome.map {α β : Type} (f : α → β) : Outcome α → Outcome β
  | .returned a => .returned (f a)
  | .failed failure => .failed failure
  | .unfinished => .unfinished

/-- A piece of work. -/
inductive Work where
  | call (c : Call)
  | script (calls : List Call)
  /-- Tell the observers of an attempt about a run, from the given place on. -/
  | deliver (attempt run : Nat) (report : Report) (place : Nat)
  /-- Run the tasks that are due; some have been run already. -/
  | drainDue (ran : Nat)
  /-- Run the tasks that come due until a reading, then set the clock to it; some have been run
  already. -/
  | drainUntil (reading : Float) (ran : Nat)
  /-- Wait for the next task and run the tasks that are due then. -/
  | drainNext
  /-- Run until no task waits; some have been run already. -/
  | drainAll (ran : Nat)

/-- What a piece of work is answered with. -/
abbrev Work.Answer : Work → Type
  | .call _ => Reply
  | .script _ | .deliver .. => Unit
  | .drainDue _ | .drainUntil .. | .drainNext | .drainAll _ => Nat

abbrev Performer := (w : Work) → Desk → Outcome w.Answer × Desk

namespace Work

/-- Answer a call with the outcome of a drive. -/
def reportCount (result : Outcome Nat × Desk) : Outcome Reply × Desk :=
  (result.1.map .ran, result.2)

/-- Put a new clock on the desk, unless it was refused. -/
def setClock (d : Desk) : Except AgendaError Clock → Outcome Reply × Desk
  | .ok clock => (.returned .nothing, { d with agenda := { d.agenda with clock } })
  | .error error => (.failed (.agenda error), d)

/-- The outcome of a request that is aimed at no attempt. Only a description is given all the same
where no attempt has been opened. -/
def decline (request : Request) (failure : Failure) : Outcome Reply :=
  match request, failure with
  | .describe, .noAttempt _ => .returned (.text "None".toList)
  | _, failure => .failed failure

def answer (next : Performer) (d : Desk) : Call → Outcome Reply × Desk
  | .schedule delay name body =>
    match d.agenda.schedule delay name (.script body) with
    | .ok (task, agenda) =>
      (.returned (.task task.due task.sequence task.name), { d with agenda })
    | .error error => (.failed (.agenda error), d)
  | .fail message => (.failed (.outside message), d)
  | .advance seconds =>
    match d.agenda.clock.kind with
    | .virtual => reportCount (next (.drainUntil (d.agenda.now + seconds) 0) d)
    | _ => (.failed (.agenda .needsVirtualClock), d)
  | .moveClock seconds => setClock d (d.agenda.clock.move seconds)
  | .setClock reading => setClock d (d.agenda.clock.set reading)
  | .elapse turn => (.returned .nothing, d.elapse turn)
  | .runDue => reportCount (next (.drainDue 0) d)
  | .runNext => reportCount (next .drainNext d)
  | .runUntilIdle => reportCount (next (.drainAll 0) d)
  | .openExercise exercise =>
    let (i, d) := d.openExercise exercise
    (.returned (.opened i), d)
  | .ask target request =>
    match d.aim target request.operation with
    | .error failure => (decline request failure, d)
    | .ok i =>
      match d.attempts[i]? with
      | none => (.failed .unknownAttempt, d)
      | some a =>
        let (reply, d) := d.grant i a request
        (.returned reply, d)
  | .addObserver target conduct =>
    match d.aim target "add_observer" with
    | .error failure => (.failed failure, d)
    | .ok i => (.returned .nothing, d.addObserver i conduct)
  | .look => (.returned .nothing, d)
  | .shielded body =>
    match next (.script body) d with
    | (.unfinished, d) => (.unfinished, d)
    | (_, d) => (.returned .nothing, d)

/-- Do what a task that was taken is there for. -/
def start (next : Performer) (d : Desk) (task : Task Action) : Outcome Unit × Desk :=
  match d.begin task with
  | (.script calls, d) => next (.script calls) d
  | (.deliver i run report, d) => next (.deliver i run report 0) d

/-- Do a piece of work, given how the work that it sets off is done. -/
def step (next : Performer) : Performer
  | .call c, d => answer next d c
  | .script [], d => (.returned (), d)
  | .script (c :: rest), d =>
    match next (.call c) d with
    | (.returned reply, d) => next (.script rest) (d.note (.answered c reply))
    | (.failed failure, d) => (.failed failure, d)
    | (.unfinished, d) => (.unfinished, d)
  | .deliver i run report place, d =>
    match d.listener? i place with
    | none => (.returned (), d)
    | some observer =>
      let (calls, d) := d.tell i run observer report
      match next (.script calls) d with
      | (.unfinished, d) => (.unfinished, d)
      -- An observer that fails does not keep the others from being told.
      | (_, d) => next (.deliver i run report (place + 1)) d
  | .drainDue ran, d =>
    match d.takeDue? d.agenda.now with
    | none => (.returned ran, d)
    | some (task, d) =>
      match start next d task with
      | (.returned _, d) => next (.drainDue (ran + 1)) d
      | (.failed failure, d) => (.failed failure, d)
      | (.unfinished, d) => (.unfinished, d)
  | .drainUntil reading ran, d =>
    match d.takeDue? reading with
    | none => (.returned ran, d.moveTo reading)
    | some (task, d) =>
      -- The task begins at its due time, unless that has passed already.
      match start next (d.moveTo task.due) task with
      | (.returned _, d) => next (.drainUntil reading (ran + 1)) d
      | (.failed failure, d) => (.failed failure, d)
      | (.unfinished, d) => (.unfinished, d)
  | .drainNext, d =>
    if d.agenda.pending = 0 then (.returned 0, d)
    else
      match d.agenda.sleepTime? with
      | none => next (.drainDue 0) d.await
      | some seconds =>
        -- After a sleep that is too short no task is due, and the drive comes back empty.
        let (calls, d) := d.sleep seconds
        match next (.script calls) d with
        | (.returned _, d) => next (.drainDue 0) d
        | (.failed failure, d) => (.failed failure, d)
        | (.unfinished, d) => (.unfinished, d)
  | .drainAll ran, d =>
    if d.agenda.pending = 0 then (.returned ran, d)
    else
      match next .drainNext d with
      | (.returned count, d) => next (.drainAll (ran + count)) d
      | (.failed failure, d) => (.failed failure, d)
      | (.unfinished, d) => (.unfinished, d)

end Work

namespace Desk

/-- Do a piece of work that is nested at most as deep as the bound says. -/
def perform : Nat → Performer
  | 0 => fun _ d => (.unfinished, d)
  | depth + 1 => Work.step (perform depth)

/-- A bound on nesting that no history of a finite time exceeds in practice. -/
def ampleDepth : Nat := 1000000000000000

def answer (d : Desk) (c : Call) : Outcome Reply × Desk := perform ampleDepth (.call c) d

/-- The desk after calls that a host makes in turn, whether they fail or not. What was answered is
written down as for other outside code. A call that is left unfinished is the last one. -/
def history (depth : Nat) : List Call → Desk → Desk
  | [], d => d
  | c :: rest, d =>
    match perform depth (.call c) d with
    | (.returned reply, d) => history depth rest (d.note (.answered c reply))
    | (.failed _, d) => history depth rest d
    | (.unfinished, d) => d

/-- What has happened since the journal had the given length, the earliest first. -/
def eventsSince (d : Desk) (length : Nat) : List Moment :=
  (d.journal.take (d.journal.length - length)).reverse

end Desk

end DryRun
