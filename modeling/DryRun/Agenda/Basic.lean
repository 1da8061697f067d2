import DryRun.Agenda.Clock
import DryRun.Agenda.Heap

/-!
# Agendas

An agenda is a clock with the tasks that wait for it. Tasks are taken in the order of the time at
which they are due, those due at the same time in the order in which they were put down: every
task has a number, given out in sequence. What a task does is left open.
-/

set_option autoImplicit false

namespace DryRun

/-- Something to do at a certain time. -/
structure Task (α : Type) where
  due : Float
  sequence : Nat
  name : Text
  action : α

def Task.before {α : Type} (a b : Task α) : Bool :=
  if a.due == b.due then a.sequence < b.sequence else a.due < b.due

/-- A clock and the tasks that wait for it. -/
structure Agenda (α : Type) where
  clock : Clock
  tasks : Array (Task α) := #[]
  issued : Nat := 0

namespace Agenda

variable {α : Type}

def now (agenda : Agenda α) : Float := agenda.clock.reading

def pending (agenda : Agenda α) : Nat := agenda.tasks.size

def first? (agenda : Agenda α) : Option (Task α) := agenda.tasks[0]?

def nextDue? (agenda : Agenda α) : Option Float := agenda.first?.map Task.due

/-- Put down a task that is due after a delay, whatever the delay. -/
def put (agenda : Agenda α) (delay : Float) (name : Text) (action : α) : Task α × Agenda α :=
  let task : Task α := ⟨agenda.now + delay, agenda.issued, name, action⟩
  (task, { agenda with
    tasks := Heap.push Task.before agenda.tasks task
    issued := agenda.issued + 1 })

/-- Put down a task that is due after a delay, which must not be negative. -/
def schedule (agenda : Agenda α) (delay : Float) (name : Text) (action : α) :
    Except AgendaError (Task α × Agenda α) :=
  if delay < 0 then .error (.negativeDelay delay) else .ok (agenda.put delay name action)

/-- Take the next task, whenever it is due. -/
def take? (agenda : Agenda α) : Option (Task α × Agenda α) :=
  (Heap.pop? Task.before agenda.tasks).map fun (task, tasks) => (task, { agenda with tasks })

/-- Take the next task if it is due at the given reading. -/
def takeDue? (agenda : Agenda α) (reading : Float) : Option (Task α × Agenda α) :=
  match agenda.first? with
  | some task => if task.due ≤ reading then agenda.take? else none
  | none => none

/-- The agenda with its clock at a later reading. -/
def moveTo (agenda : Agenda α) (reading : Float) : Agenda α :=
  { agenda with clock := agenda.clock.moveTo reading }

/-- How long to sleep until the next task is due, where sleeping is called for: the clock is not a
virtual one and the task is not due. -/
def sleepTime? (agenda : Agenda α) : Option Float :=
  match agenda.clock.kind, agenda.nextDue? with
  | .virtual, _ | _, none => none
  | _, some due => if 0 < due - agenda.now then some (due - agenda.now) else none

/-- The agenda at the time at which the next task is due, if that is later. Only a virtual clock
jumps there. -/
def await (agenda : Agenda α) : Agenda α :=
  match agenda.clock.kind, agenda.nextDue? with
  | .virtual, some due => if 0 < due - agenda.now then agenda.moveTo due else agenda
  | _, _ => agenda

end Agenda

end DryRun
