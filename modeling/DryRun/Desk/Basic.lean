import DryRun.Desk.Call

/-!
# Desks

A desk is where exercises are opened and attempted. Its attempts share one agenda. Whatever happens
is written into the journal, together with the state of the bench at that moment, so that a
statement about all moments of a history is one about its journal.
-/

set_option autoImplicit false

namespace DryRun

/-- What outside code can look at: the agenda and the attempts. -/
structure Bench where
  agenda : Agenda Action
  /-- The attempts, in the order in which they were opened. -/
  attempts : Array Attempt := #[]

/-- Something that happened at a desk. -/
inductive Event where
  | began (task : Task Action)
  | slept (seconds : Float)
  /-- An attempt started the run that is known by the number of its task. -/
  | launched (attempt run : Nat)
  | finished (attempt run : Nat) (grade : Grade)
  /-- An observer is told about a run. -/
  | reported (attempt run observer : Nat) (report : Report)
  /-- The completion sink is told that an exercise was accepted. -/
  | announced (attempt : Nat) (exercise : Exercise)
  /-- A call made by outside code during the desk's work was answered. -/
  | answered (call : Call) (reply : Reply)

/-- An event and the bench at that moment. -/
structure Moment where
  event : Event
  bench : Bench

/-- Someone who is told about finished runs. -/
structure Observer where
  /-- The calls they make in turn. -/
  conduct : Conduct
  /-- How often they have been told so far. -/
  calls : Nat := 0

/-- A desk. -/
structure Desk extends Bench where
  sink : Option Observer := none
  /-- Everyone who is told about finished runs of some attempt. -/
  observers : Array Observer := #[]
  /-- The observers that every attempt has from the start. -/
  shared : List Nat := []
  /-- What happens in a sleep. -/
  sleeper : Sleeper := Sleeper.exact
  /-- How often somebody has slept so far. -/
  sleeps : Nat := 0
  /-- What has happened, the latest first. -/
  journal : List Moment := []

/-- What a task leads to once it has begun. -/
inductive Sequel where
  | script (calls : List Call)
  /-- The observers of an attempt are told about a run. -/
  | deliver (attempt run : Nat) (report : Report)

namespace Desk

def fresh (clock : Clock) (sink : Option Conduct) (observers : List Conduct)
    (sleeper : Sleeper := Sleeper.exact) : Desk where
  agenda := { clock }
  sink := sink.map fun conduct => { conduct }
  observers := (observers.map fun conduct => ({ conduct } : Observer)).toArray
  shared := List.range observers.length
  sleeper

/-- The number of the observer of an attempt who stands at the given place. -/
def listener? (d : Desk) (i place : Nat) : Option Nat :=
  match d.attempts[i]? with
  | none => none
  | some a => a.observers[place]?

def note (d : Desk) (event : Event) : Desk :=
  { d with journal := ⟨event, d.toBench⟩ :: d.journal }

/-- The number of the attempt that a call is aimed at. -/
def aim (d : Desk) (target : Option Nat) (operation : String) : Except Failure Nat :=
  match target with
  | some i => if i < d.attempts.size then .ok i else .error .unknownAttempt
  | none => if d.attempts.size = 0 then .error (.noAttempt operation)
    else .ok (d.attempts.size - 1)

def modify (d : Desk) (i : Nat) (change : Attempt → Attempt) : Desk :=
  { d with attempts := d.attempts.modify i change }

def put (d : Desk) (delay : Float) (name : Text) (action : Action) : Task Action × Desk :=
  let (task, agenda) := d.agenda.put delay name action
  (task, { d with agenda })

/-- The name of a task that concerns an exercise. -/
def taskName (exercise : Exercise) (suffix : String) : Text :=
  exercise.id ++ ':' :: suffix.toList

/-- The desk with an exercise opened, and the number of its attempt. -/
def openExercise (d : Desk) (exercise : Exercise) : Nat × Desk :=
  (d.attempts.size,
    { d with attempts := d.attempts.push (Attempt.ofExercise exercise d.shared) })

/-- Start a run of an attempt, unless one is under way. -/
def launch (d : Desk) (i : Nat) (a : Attempt) : Bool × Desk :=
  if a.isIdle then
    let (task, d) := (d.modify i Attempt.start).put a.language.compileDelay
      (taskName a.exercise "compile") (.compile i)
    (true, d.note (.launched i task.sequence))
  else (false, d)

/-- The desk after a request to change an attempt, which is refused while a run is under way. -/
def change (d : Desk) (i : Nat) (a : Attempt) (f : Attempt → Attempt) : Bool × Desk :=
  if a.isIdle then (true, d.modify i f) else (false, d)

/-- The answer to a request, and the desk after it. -/
def grant (d : Desk) (i : Nat) (a : Attempt) (request : Request) : Reply × Desk :=
  match request.change?, request with
  | some f, _ => let (granted, d) := d.change i a f; (.granted granted, d)
  | none, .describe => (.text a.describe, d)
  | none, .info => (.about a.exercise a.language, d)
  | none, _ => let (granted, d) := d.launch i a; (.granted granted, d)

/-- Let someone be told about the finished runs of an attempt from now on. -/
def addObserver (d : Desk) (i : Nat) (conduct : Conduct) : Desk :=
  let number := d.observers.size
  ({ d with observers := d.observers.push { conduct } }).modify i fun a =>
    { a with observers := a.observers ++ [number] }

/-- The desk after a run of an attempt: if it was accepted and there is a sink, the announcement is
put down for later. -/
def promise (d : Desk) (i run : Nat) (a : Attempt) : Desk :=
  if a.outcome.verdict = .success && d.sink.isSome then
    (d.put Settings.completionDelay (taskName a.exercise "complete") (.complete i run)).2
  else d

/-- Let the run of an attempt take place: it yields the grade of the source text. The report goes to
the observers. -/
def finish (d : Desk) (i run : Nat) (a : Attempt) : Report × Desk :=
  -- The completion is put down before the observers hear of the run.
  let d := ((d.modify i Attempt.execute).modify i Attempt.finish).promise i run a
  (a.report, d.note (.finished i run a.outcome))

/-- Tell an observer about a run; what they do about it comes first. -/
def tell (d : Desk) (i run observer : Nat) (report : Report) : List Call × Desk :=
  let d := d.note (.reported i run observer report)
  match d.observers[observer]? with
  | none => ([], d)
  | some o =>
    (o.conduct o.calls,
      { d with observers := d.observers.modify observer fun o => { o with calls := o.calls + 1 } })

/-- Tell the completion sink that an attempt was accepted; what it does about it comes first. -/
def announce (d : Desk) (i : Nat) (a : Attempt) : List Call × Desk :=
  match d.sink with
  | none => ([], d)
  | some sink =>
    let d := d.note (.announced i a.exercise)
    (sink.conduct sink.calls, { d with sink := some { sink with calls := sink.calls + 1 } })

/-- Take the next task if it is due at the given reading. -/
def takeDue? (d : Desk) (reading : Float) : Option (Task Action × Desk) :=
  (d.agenda.takeDue? reading).map fun (task, agenda) => (task, { d with agenda })

/-- The desk once a task that was taken has begun, and what the task leads to. -/
def begin (d : Desk) (task : Task Action) : Sequel × Desk :=
  let d := d.note (.began task)
  match task.action with
  | .script calls => (.script calls, d)
  | .compile i =>
    match d.attempts[i]? with
    | none => (.script [], d)
    | some a =>
      let (report, d) := d.finish i task.sequence a
      (.deliver i task.sequence report, d)
  | .complete i _ =>
    match d.attempts[i]? with
    | none => (.script [], d)
    | some a =>
      let (calls, d) := d.announce i a
      (.script calls, d)

/-- The desk with its clock at a later reading. -/
def moveTo (d : Desk) (reading : Float) : Desk := { d with agenda := d.agenda.moveTo reading }

/-- The desk at the time at which the next task is due, if its clock can be moved there. -/
def await (d : Desk) : Desk := { d with agenda := d.agenda.await }

def elapse (d : Desk) (turn : Float → Float) : Desk :=
  { d with agenda := { d.agenda with clock := d.agenda.clock.elapse turn } }

/-- The desk after a sleep, and the calls that are made in it. -/
def sleep (d : Desk) (seconds : Float) : List Call × Desk :=
  let nap := d.sleeper d.sleeps seconds
  (nap.calls, { (d.note (.slept seconds)).elapse nap.turn with sleeps := d.sleeps + 1 })

end Desk

end DryRun
