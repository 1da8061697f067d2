import DryRun.Desk.Perform
import DryRun.Proofs.Agenda.Relabel
import DryRun.Proofs.Desk.Effects

/-!
# Observers without their failures

An observer may fail at the end of what it does about a report. To hush outside code is to leave
these failures out, wherever an observer is registered (`Call.hush`): the calls that the observer
makes before it fails stay, and so do the failures of tasks, of sinks and of sleeps. An observer
that only records reports and one that raises after it has recorded them are the same once they are
hushed (`Conduct.hush_of_recording`).

Whatever a desk does by itself, it does the same if all the outside code that it has in store is
hushed (`Desk.hush`): taking a task and beginning it, telling an observer, answering a call that
sets off no other work.
-/

set_option autoImplicit false

namespace DryRun

/-! ## Outside code -/

mutual

/-- The call, with observers that it registers, now or later, hushed. -/
def Call.hush : Call → Call
  | .schedule delay name body => .schedule delay name (Call.hushAll body)
  | .addObserver target conduct =>
    .addObserver target fun n => Call.hushAnswer (conduct n)
  | .shielded body => .shielded (Call.hushAll body)
  | c => c

/-- Calls in turn, which are not those of an observer. Their own failures stay. -/
def Call.hushAll : List Call → List Call
  | [] => []
  | c :: rest => c.hush :: Call.hushAll rest

/-- What an observer does about a report before it fails of itself, if it does. -/
def Call.hushAnswer : List Call → List Call
  | [] => []
  | c :: rest =>
    match c with
    | .fail _ => []
    | c => c.hush :: Call.hushAnswer rest

end

/-- An observer does nothing, or fails of itself at once, or makes a call. -/
theorem Call.hushAnswer_cases (calls : List Call) :
    (hushAnswer calls = [] ∧ (calls = [] ∨ ∃ message rest, calls = .fail message :: rest)) ∨
      ∃ c rest, calls = c :: rest ∧ hushAnswer calls = c.hush :: hushAnswer rest := by
  cases calls with
  | nil => exact .inl ⟨rfl, .inl rfl⟩
  | cons c rest =>
    cases c with
    | fail message => exact .inl ⟨rfl, .inr ⟨message, rest, rfl⟩⟩
    | _ => exact .inr ⟨_, rest, rfl, rfl⟩

/-- An observer's conduct without its own failures. -/
def Conduct.hush (conduct : Conduct) : Conduct := fun n => Call.hushAnswer (conduct n)

/-- The conduct of somebody who is no observer. Their own failures stay. -/
def Conduct.hushCalls (conduct : Conduct) : Conduct := fun n => Call.hushAll (conduct n)

/-- An observer without their own failures. -/
def Observer.hush (o : Observer) : Observer := { o with conduct := Conduct.hush o.conduct }

def Observer.hushCalls (o : Observer) : Observer :=
  { o with conduct := Conduct.hushCalls o.conduct }

def Sleeper.hush (sleeper : Sleeper) : Sleeper := fun n seconds =>
  { sleeper n seconds with calls := Call.hushAll (sleeper n seconds).calls }

def Action.hush : Action → Action
  | .script calls => .script (Call.hushAll calls)
  | action => action

def Sequel.hush : Sequel → Sequel
  | .script calls => .script (Call.hushAll calls)
  | sequel => sequel

def Bench.hush (b : Bench) : Bench := { b with agenda := b.agenda.map Action.hush }

def Event.hush : Event → Event
  | .began task => .began (task.map Action.hush)
  | .answered c reply => .answered c.hush reply
  | event => event

def Moment.hush (m : Moment) : Moment := ⟨m.event.hush, m.bench.hush⟩

/-- The desk with all the outside code hushed that it has in store or has written down. -/
def Desk.hush (d : Desk) : Desk where
  toBench := d.toBench.hush
  sink := d.sink.map Observer.hushCalls
  observers := d.observers.map Observer.hush
  shared := d.shared
  sleeper := Sleeper.hush d.sleeper
  sleeps := d.sleeps
  journal := d.journal.map Moment.hush

/-- It does not matter on which of its calls an observer raises that otherwise only records. -/
theorem Conduct.hush_of_recording {conduct : Conduct}
    (records : ∀ n, conduct n = [] ∨ ∃ message, conduct n = [.fail message]) :
    Conduct.hush conduct = fun _ => [] := by
  funext n
  rcases records n with silent | ⟨message, raises⟩
  · rw [Conduct.hush, silent]
    rfl
  · rw [Conduct.hush, raises]
    rfl

namespace Desk

/-! ## What a desk does by itself -/

/-- A fresh desk hushed is one that is opened with hushed outside code. -/
theorem fresh_hush (clock : Clock) (sink : Option Conduct) (observers : List Conduct)
    (sleeper : Sleeper) :
    (fresh clock sink observers sleeper).hush =
      fresh clock (sink.map Conduct.hushCalls) (observers.map Conduct.hush) sleeper.hush := by
  have sinks : (sink.map fun conduct => ({ conduct } : Observer)).map Observer.hushCalls =
      (sink.map Conduct.hushCalls).map fun conduct => { conduct } := by
    rw [Option.map_map, Option.map_map]
    rfl
  have told : (observers.map fun conduct => ({ conduct } : Observer)).toArray.map Observer.hush =
      ((observers.map Conduct.hush).map fun conduct => { conduct }).toArray := by
    rw [List.map_toArray, List.map_map, List.map_map]
    rfl
  have empty : ({ clock } : Agenda Action).map Action.hush = { clock } := by
    rw [Agenda.map, Array.map_empty]
  simp only [fresh, hush, Bench.hush, sinks, told, empty, List.length_map]
  rfl

variable (d : Desk)

/-- Attempts have no outside code to hush. -/
@[simp] theorem hush_attempts : d.hush.attempts = d.attempts := rfl

/-- What is written down may be hushed before or after. -/
theorem note_hush (event : Event) : d.hush.note event.hush = (d.note event).hush := rfl

/-- The answer to a call is written down. -/
theorem note_answered_hush {d e : Desk} (same : d.hush = e.hush) {c c' : Call}
    (calls : c.hush = c'.hush) (reply : Reply) :
    (d.note (.answered c reply)).hush = (e.note (.answered c' reply)).hush := by
  rw [← note_hush, ← note_hush, same]
  simp only [Event.hush, calls]

/-- A task may be hushed before or after it is put down. -/
theorem put_hush (delay : Float) (name : Text) (action : Action) :
    d.hush.put delay name action.hush =
      ((d.put delay name action).1.map Action.hush, (d.put delay name action).2.hush) := by
  have placed := d.agenda.put_map Action.hush delay name action
  simp only [put]
  rw [show d.hush.agenda = d.agenda.map Action.hush from rfl, placed]
  rfl

/-- The tasks may be hushed before or after one is taken. -/
theorem takeDue?_hush (reading : Float) :
    d.hush.takeDue? reading =
      (d.takeDue? reading).map fun (task, rest) => (task.map Action.hush, rest.hush) := by
  simp only [takeDue?, Option.map_map]
  rw [show d.hush.agenda = d.agenda.map Action.hush from rfl, Agenda.takeDue?_map, Option.map_map]
  rfl

/-- Outside code is not asked while the clock is moved to the next task. -/
theorem await_hush : d.hush.await = d.await.hush := by
  simp only [await]
  rw [show d.hush.agenda = d.agenda.map Action.hush from rfl, Agenda.await_map]
  rfl

/-- The desk may be hushed before or after a completion is put down. -/
theorem promise_hush (i run : Nat) (a : Attempt) :
    d.hush.promise i run a = (d.promise i run a).hush := by
  have placed := congrArg Prod.snd (d.put_hush Settings.completionDelay
    (taskName a.exercise "complete") (.complete i run))
  have sink : d.hush.sink.isSome = d.sink.isSome := Option.isSome_map
  simp only [promise, sink]
  split
  · exact placed
  · rfl

/-- The desk may be hushed before or after a run finishes. -/
theorem finish_hush (i run : Nat) (a : Attempt) :
    d.hush.finish i run a = ((d.finish i run a).1, (d.finish i run a).2.hush) := by
  have promised := ((d.modify i Attempt.execute).modify i Attempt.finish).promise_hush i run a
  simp only [finish]
  rw [← note_hush, ← promised]
  rfl

/-- The desk may be hushed before or after a run starts. -/
theorem launch_hush (i : Nat) (a : Attempt) :
    d.hush.launch i a = ((d.launch i a).1, (d.launch i a).2.hush) := by
  have placed := (d.modify i Attempt.start).put_hush a.language.compileDelay
    (taskName a.exercise "compile") (.compile i)
  have started : d.hush.modify i Attempt.start = (d.modify i Attempt.start).hush := rfl
  simp only [launch, started]
  split
  · have placed : (d.modify i Attempt.start).hush.put a.language.compileDelay
        (taskName a.exercise "compile") (.compile i) = _ := placed
    rw [placed]
    rfl
  · rfl

/-- The desk may be hushed before or after a request is granted. -/
theorem grant_hush (i : Nat) (a : Attempt) (request : Request) :
    d.hush.grant i a request = ((d.grant i a request).1, (d.grant i a request).2.hush) := by
  cases changes : request.change? with
  | some f =>
    simp only [grant, changes, change]
    split <;> rfl
  | none => cases request <;> simp [grant, changes, launch_hush]

/-- An observer may be hushed before or after they are added. -/
theorem addObserver_hush (i : Nat) (conduct : Conduct) :
    d.hush.addObserver i (Conduct.hush conduct) = (d.addObserver i conduct).hush := by
  have size : d.hush.observers.size = d.observers.size := Array.size_map
  have pushed : d.hush.observers.push { conduct := Conduct.hush conduct } =
      (d.observers.push { conduct }).map Observer.hush := by
    rw [Array.map_push]
    rfl
  simp only [addObserver, size]
  exact congrArg (fun observers => ({ d.hush with observers } : Desk).modify i fun a =>
    { a with observers := a.observers ++ [d.observers.size] }) pushed

/-- The sink may be hushed before or after it is told. -/
theorem announce_hush (i : Nat) (a : Attempt) :
    d.hush.announce i a = (Call.hushAll (d.announce i a).1, (d.announce i a).2.hush) := by
  cases held : d.sink <;> simp only [announce, hush, held] <;> rfl

/-- An observer may be hushed before or after they are told. -/
theorem tell_hush (i run observer : Nat) (report : Report) :
    d.hush.tell i run observer report =
      (Call.hushAnswer (d.tell i run observer report).1,
        (d.tell i run observer report).2.hush) := by
  have found : (d.hush.note (.reported i run observer report)).observers[observer]? =
      d.observers[observer]?.map Observer.hush :=
    Array.getElem?_map
  have told : d.hush.observers.modify observer (fun o => { o with calls := o.calls + 1 }) =
      (d.observers.modify observer fun o => { o with calls := o.calls + 1 }).map
        Observer.hush := by
    refine Array.ext_getElem? fun k => ?_
    simp only [hush, Array.getElem?_modify, Array.getElem?_map]
    split <;> simp [Function.comp_def, Observer.hush]
  have known : (d.note (.reported i run observer report)).observers[observer]? =
      d.observers[observer]? := rfl
  simp only [tell, found, known]
  cases d.observers[observer]? with
  | none => rfl
  | some o =>
    simp only [Option.map_some]
    exact Prod.ext rfl (congrArg (fun observers =>
      ({ (d.hush.note (.reported i run observer report)) with observers } : Desk)) told)

/-- A task may be hushed before or after it begins. -/
theorem begin_hush (task : Task Action) :
    d.hush.begin (task.map Action.hush) = ((d.begin task).1.hush, (d.begin task).2.hush) := by
  obtain ⟨due, sequence, name, action⟩ := task
  have noted : d.hush.note (.began ⟨due, sequence, name, action.hush⟩) =
      (d.note (.began ⟨due, sequence, name, action⟩)).hush := rfl
  cases action with
  | script => rfl
  | compile i =>
    simp only [begin, Task.map, Action.hush] at noted ⊢
    simp only [noted, hush_attempts, note_toBench]
    cases d.attempts[i]? with
    | none => rfl
    | some a =>
      simp only [finish_hush]
      rfl
  | complete i run =>
    simp only [begin, Task.map, Action.hush] at noted ⊢
    simp only [noted, hush_attempts, note_toBench]
    cases d.attempts[i]? with
    | none => rfl
    | some a =>
      simp only [announce_hush]
      rfl

end Desk

/-- Hushing a call does not change whether it sets off other work. -/
theorem Call.isNesting_hush (c : Call) : c.hush.IsNesting ↔ c.IsNesting := by
  cases c <;> exact Iff.rfl

/-- A call that sets off no other work is answered the same if all outside code is hushed. -/
theorem Work.answer_hush (next next' : Performer) {d : Desk} {c : Call} (direct : ¬ c.IsNesting) :
    answer next' d.hush c.hush = ((answer next d c).1, (answer next d c).2.hush) := by
  -- The answer reads nothing of a desk that hushing changes, so it is enough to push the hushing
  -- through the definitions.
  cases c with
  | schedule delay name body =>
    have placed := d.agenda.schedule_map Action.hush delay name (.script body)
    have agenda : d.hush.agenda = d.agenda.map Action.hush := rfl
    have action : Action.hush (.script body) = .script (Call.hushAll body) := rfl
    simp only [Call.hush, answer, agenda, ← action, placed]
    cases d.agenda.schedule delay name (.script body) <;> rfl
  | fail => rfl
  | moveClock seconds =>
    have clock : d.hush.agenda.clock = d.agenda.clock := rfl
    simp only [Call.hush, answer, clock]
    cases d.agenda.clock.move seconds <;> rfl
  | setClock reading =>
    have clock : d.hush.agenda.clock = d.agenda.clock := rfl
    simp only [Call.hush, answer, clock]
    cases d.agenda.clock.set reading <;> rfl
  | elapse => rfl
  | openExercise => rfl
  | ask target request =>
    have aim : d.hush.aim target request.operation = d.aim target request.operation := rfl
    simp only [Call.hush, answer, aim]
    cases d.aim target request.operation with
    | error => rfl
    | ok i =>
      simp only [Desk.hush_attempts]
      cases d.attempts[i]? with
      | none => rfl
      | some a => simp only [Desk.grant_hush]
  | addObserver target conduct =>
    have aim : d.hush.aim target "add_observer" = d.aim target "add_observer" := rfl
    simp only [Call.hush, answer, aim]
    cases d.aim target "add_observer" with
    | error => rfl
    | ok i => exact Prod.ext rfl (d.addObserver_hush i conduct)
  | look => rfl
  | advance | runDue | runNext | runUntilIdle | shielded => exact absurd trivial direct

end DryRun
