import DryRun.Proofs.Desk.Effects

/-!
# How many tasks of a kind wait

`Bench.waiting` counts the tasks of a kind on the agenda. A task that is put down counts at once, a
task that is taken no more; nothing else changes the count (`waiting_put`, `waiting_taken`).
-/

set_option autoImplicit false

namespace DryRun

/-- Whether a task lets a run of the given attempt take place. -/
def Action.isCompile (i : Nat) : Action → Bool
  | .compile j => j == i
  | _ => false

/-- Whether a task announces that the given attempt was accepted, in one of certain runs. -/
def Action.isComplete (i : Nat) (runs : Nat → Bool) : Action → Bool
  | .complete j run => j == i && runs run
  | _ => false

/-- How many tasks of a kind wait. -/
def Bench.waiting (b : Bench) (kind : Action → Bool) : Nat :=
  b.agenda.tasks.toList.countP fun task => kind task.action

namespace Desk

variable (d : Desk) (kind : Action → Bool)

/-- A task of the kind that is put down is one more that waits. -/
theorem waiting_put (delay : Float) (name : Text) (action : Action) :
    (d.put delay name action).2.waiting kind =
      d.waiting kind + if kind action = true then 1 else 0 := by
  have placed := (Agenda.tasks_put d.agenda delay name action).countP_eq
    fun task => kind task.action
  rw [List.countP_cons] at placed
  exact placed

/-- The task of an announcement is not one of another kind. -/
theorem waiting_finish (i run : Nat) (a : Attempt) (other : kind (.complete i run) = false) :
    (d.finish i run a).2.waiting kind = d.waiting kind := by
  rw [finish_snd, promise_eq]
  split
  · have placed := d.waiting_put kind Settings.completionDelay (taskName a.exercise "complete")
      (.complete i run)
    simp only [other, Bool.false_eq_true, if_false] at placed
    exact placed
  · rfl

variable {d}

/-- The task of a script is not one of another kind. -/
theorem waiting_schedule {delay : Float} {name : Text} {body : List Call} {task : Task Action}
    {agenda : Agenda Action}
    (placed : d.agenda.schedule delay name (.script body) = .ok (task, agenda))
    (other : kind (.script body) = false) :
    { d with agenda : Desk }.waiting kind = d.waiting kind := by
  obtain ⟨-, put⟩ := Agenda.schedule_eq_ok_iff.mp placed
  have waiting := d.waiting_put kind delay name (.script body)
  rw [Desk.put, put, other] at waiting
  exact waiting

/-- A task of the kind that is taken is one fewer that waits. -/
theorem waiting_taken {rest : Desk} {reading : Float} {task : Task Action}
    (taken : d.takeDue? reading = some (task, rest)) :
    d.waiting kind =
      (rest.moveTo task.due).waiting kind + if kind task.action = true then 1 else 0 := by
  have left := (moveTo_of_takeDue? taken).1.countP_eq fun task => kind task.action
  rw [List.countP_cons] at left
  exact left

end Desk

end DryRun
