import DryRun.Proofs.Desk.Dated
import DryRun.Proofs.Desk.Ledger

/-!
# Tasks begin in order

When a task begins, it is before every task that still waits, it is due, and the clock has not gone
back since anything else happened (`Moment.InTurn`). `tasks_begin_in_order` says so of every history
in which outside code does not turn the clock back (`Call.Timed`), however drives are nested: a
drive that moves the clock itself to the time of a task finds it there already when a nested one was
faster, and a task that fails has been taken all the same.

The invariant is `Desk.Timely`, and all of it but the turns is kept as at every desk with a steady
clock (`Desk.Dated`). The order is that of the heap, which keeps it because no task is due at NaN;
that the task which is taken is strictly before the others follows from the numbers, of which no two
tasks have the same.
-/

set_option autoImplicit false

namespace DryRun

open Reading

/-- A call that does not turn back the clock: delays and amounts of time are numbers, time elapses
forward, and the calls that it carries are such calls. -/
inductive Call.Timed : Call → Prop where
  | schedule {delay name body} (number : delay.isNaN = false) (inner : ∀ c ∈ body, Timed c) :
      Timed (.schedule delay name body)
  | fail {message} : Timed (.fail message)
  | advance {seconds} : Timed (.advance seconds)
  | moveClock {seconds} (number : seconds.isNaN = false) : Timed (.moveClock seconds)
  | setClock {reading} : Timed (.setClock reading)
  | elapse {turn} (forward : ∀ reading, IsTime reading → reading ≤ turn reading) :
      Timed (.elapse turn)
  | runDue : Timed .runDue
  | runNext : Timed .runNext
  | runUntilIdle : Timed .runUntilIdle
  | openExercise {exercise} : Timed (.openExercise exercise)
  | ask {target request} : Timed (.ask target request)
  | addObserver {target conduct} (inner : ∀ n, ∀ c ∈ conduct n, Timed c) :
      Timed (.addObserver target conduct)
  | look : Timed .look
  | shielded {body} (inner : ∀ c ∈ body, Timed c) : Timed (.shielded body)

/-- What a timed call carries is timed. -/
theorem Call.timed_hereditary : Call.Hereditary Call.Timed := by
  constructor
  · intro delay name body timed
    cases timed with
    | schedule _ inner => exact inner
  · intro body timed
    cases timed with
    | shielded inner => exact inner
  · intro target conduct timed
    cases timed with
    | addObserver inner => exact inner

/-- Timed calls keep time on a steady clock. -/
theorem Call.timed_keepTime (kind : ClockKind) : Call.KeepTime kind True Call.Timed := by
  constructor
  · intro delay name body timed
    cases timed with
    | schedule number => exact number
  · intro c clock later timed _ time turned
    cases timed with
    | moveClock number => exact Clock.proceeds_move time number (Option.some.inj turned)
    | setClock => exact Clock.proceeds_set time (Option.some.inj turned)
    | elapse forward =>
      cases turned
      exact Clock.proceeds_elapse time (time.of_le (forward _ time)) fun _ _ => forward _ time
    | _ => cases turned

/-- Sleeping for exactly the time asked for does not turn back the clock. -/
theorem Sleeper.exact_timed (n : ℕ) {seconds : Float} (asked : 0 < seconds) :
    (Call.elapse (Sleeper.exact n seconds).turn).Timed := by
  refine .elapse fun reading time => time.le_add ?_
  have le := Reading.le_of_lt asked
  exact ⟨(number_of_le le).2, not_lt_of_le le⟩

/-- A task that begins is before every task that waits, it is due, and the clock shows nothing
earlier than it did when anything else happened. -/
def Moment.InTurn (m : Moment) (earlier : List Moment) : Prop :=
  ∀ task, m.event = .began task →
    (∀ other ∈ m.bench.agenda.tasks, task.before other = true) ∧
      task.due ≤ m.bench.agenda.now ∧
      ∀ m₀ ∈ earlier, m₀.bench.agenda.now ≤ m.bench.agenda.now

namespace Desk

variable {d d' : Desk}

/-- The clock shows a time and has not gone back, tasks are queued at numbers, every run takes as
long as the catalogue says, and every task that has begun did so in its turn. -/
structure Timely (d : Desk) : Prop where
  time : IsTime d.agenda.now
  queued : d.agenda.Queued
  past : ∀ m ∈ d.journal, m.bench.agenda.now ≤ d.agenda.now
  listed : ∀ (i : Nat) (a : Attempt), d.attempts[i]? = some a → a.language.IsListed
  turns : Throughout Moment.InTurn d.journal

/-- A timely desk is dated, and its clock steady. -/
theorem Timely.dated (timely : d.Timely) : d.Dated d.agenda.clock.kind True :=
  ⟨rfl, timely.time, timely.queued, timely.listed, fun _ => timely.past⟩

/-- A dated desk with a steady clock is timely if its tasks began in turn. -/
theorem Dated.timely {kind : ClockKind} (dated : d.Dated kind True)
    (turns : Throughout Moment.InTurn d.journal) : d.Timely :=
  ⟨dated.time, dated.queued, dated.past trivial, dated.listed, turns⟩

/-- Something is written down that is not the beginning of a task. -/
theorem turns_cons {m : Moment} {journal : List Moment} (other : ∀ task, m.event ≠ .began task)
    (turns : Throughout Moment.InTurn journal) : Throughout Moment.InTurn (m :: journal) :=
  ⟨fun task began => absurd began (other task), turns⟩

/-- A task that is taken begins in its turn. -/
theorem Timely.begin (timely : d.Timely) (ledger : d.Ledger) {reading : Float} {task : Task Action}
    {rest : Desk} (taken : d.takeDue? reading = some (task, rest)) :
    Throughout Moment.InTurn ((rest.moveTo task.due).begin task).2.journal := by
  obtain ⟨-, popped, -⟩ := takeDue?_eq_some taken
  obtain ⟨queued, number, first⟩ := timely.queued.pop popped
  have numbers := ledger.sequence_ne taken
  have moved := (timely.dated.take taken).moveTo task.due
  have due : task.due ≤ (rest.moveTo task.due).agenda.now := Clock.le_moveTo number moved.time.1
  have turn : Moment.InTurn ⟨.began task, (rest.moveTo task.due).toBench⟩
      (rest.moveTo task.due).journal := by
    rintro _ ⟨⟩
    -- The heap only says that no other task is before this one; the numbers make that strict.
    refine ⟨fun other member => ?_, due, moved.past trivial⟩
    exact Task.before_of_not_before number (queued.due other member) (numbers other member)
      (first other member)
  have old : Throughout Moment.InTurn (rest.moveTo task.due).journal := by
    rw [(moveTo_of_takeDue? taken).2]
    exact timely.turns
  have begun := (rest.moveTo task.due).begins task
  generalize rest.moveTo task.due = d₁ at turn old begun ⊢
  generalize d₁.begin task = result at begun ⊢
  cases begun with
  | script => exact ⟨turn, old⟩
  | stray => exact ⟨turn, old⟩
  | run =>
    rw [finish_journal]
    exact turns_cons (by simp) ⟨turn, old⟩
  | announcement => exact turns_cons (by simp) ⟨turn, old⟩

/-- A step lets a task begin in its turn only. -/
theorem Step.turns {P : Call → Prop} (step : d.Step P d') (ledger : d.Ledger) (timely : d.Timely) :
    Throughout Moment.InTurn d'.journal := by
  have turns := timely.turns
  cases step with
  | schedule => exact turns_cons (by simp) turns
  | turn => exact turns_cons (by simp) turns
  | openExercise => exact turns_cons (by simp) turns
  | launch _ _ idle =>
    rw [launch_snd _ _ idle]
    exact turns_cons (by simp) (turns_cons (by simp) turns)
  | edit => exact turns_cons (by simp) turns
  | addObserver => exact turns_cons (by simp) turns
  | answer => exact turns_cons (by simp) turns
  | begin taken => exact timely.begin ledger taken
  | @tell i run place observer report =>
    rw [(d.tell_snd i run observer report).2]
    exact turns_cons (by simp) turns
  | doze => exact turns_cons (by simp) turns
  | wake => exact turns
  | move => exact turns

/-- A step of timed calls keeps a desk timely. -/
theorem Step.timely (step : d.Step Call.Timed d') (employs : d.Employs Call.Timed)
    (ledger : d.Ledger) (timely : d.Timely) : d'.Timely :=
  (step.dated (Call.timed_keepTime _) employs timely.dated).timely (step.turns ledger timely)

/-- A fresh desk whose clock shows a time is timely. -/
theorem timely_fresh {clock : Clock} (time : IsTime clock.reading) (sink : Option Conduct)
    (observers : List Conduct) (sleeper : Sleeper) :
    (fresh clock sink observers sleeper).Timely :=
  (dated_fresh time sink observers sleeper).timely trivial

/-- A run of steps keeps the clock from going back and the tasks in order. -/
theorem Run.timely (run : d.Run Call.Timed d') (employs : d.Employs Call.Timed) (ledger : d.Ledger)
    (timely : d.Timely) : d'.Timely := by
  have kept := run.keeps (I := fun d => d.Employs Call.Timed ∧ d.Ledger ∧ d.Timely)
    ⟨employs, ledger, timely⟩ fun step ⟨employs, ledger, timely⟩ =>
      ⟨step.employs Call.timed_hereditary employs, step.ledger ledger,
        step.timely employs ledger timely⟩
  exact kept.2.2

/-- If the clock shows a time at first and neither the host nor the outside code at the desk turns
it back, then in every history every task begins in its turn. -/
theorem tasks_begin_in_order (depth : Nat) {calls : List Call} {clock : Clock}
    {sink : Option Conduct} {observers : List Conduct} {sleeper : Sleeper}
    (time : IsTime clock.reading) (host : ∀ c ∈ calls, c.Timed)
    (outside : (fresh clock sink observers sleeper).Employs Call.Timed) :
    Throughout Moment.InTurn
      (history depth calls (fresh clock sink observers sleeper)).journal := by
  have run := history_run Call.timed_hereditary depth outside host
  exact (run.timely outside (ledger_fresh clock sink observers sleeper)
    (timely_fresh time sink observers sleeper)).turns

/-- A drive until 3 runs a task that puts down another one, moves the clock to 5 and drives the desk
itself, which runs the new task and a later one that fails. -/
def overtakenDrive : List Call :=
  [.schedule 2 [] [.runDue, .fail []],
    .schedule 1 [] [.schedule 0 [] [], .moveClock 4, .runUntilIdle], .advance 3, .runNext]

/-- A drive that is overtaken by one of its own tasks. -/
theorem tasks_begin_in_order_overtaken :
    let d := history 12 overtakenDrive (fresh ⟨.virtual, 0⟩ none [])
    begunNumbers d.journal = [0, 2, 1] ∧ Throughout Moment.InTurn d.journal := by
  have time : IsTime (0 : Float) := ⟨rfl, WithBot.coe_ne_bot⟩
  have failing : ∀ c ∈ [Call.runDue, .fail []], c.Timed := by
    simp only [List.forall_mem_cons]
    exact ⟨.runDue, .fail, by simp⟩
  have moving : ∀ c ∈ [Call.schedule 0 [] [], .moveClock 4, .runUntilIdle], c.Timed := by
    simp only [List.forall_mem_cons]
    exact ⟨.schedule (by decide) (by simp), .moveClock (by decide), .runUntilIdle, by simp⟩
  have host : ∀ c ∈ overtakenDrive, c.Timed := by
    simp only [overtakenDrive, List.forall_mem_cons]
    exact ⟨.schedule (by decide) failing, .schedule (by decide) moving, .advance, .runNext, by simp⟩
  have outside : (fresh ⟨.virtual, 0⟩ none []).Employs Call.Timed := by
    refine ⟨?_, ?_, ?_, fun n seconds asked => ⟨Sleeper.exact_timed n asked, ?_⟩⟩
    · rintro task ⟨⟨⟩⟩
    · rintro o ⟨⟨⟩⟩
    · rintro o ⟨⟩
    · rintro c ⟨⟩
  exact ⟨by decide +kernel, tasks_begin_in_order 12 time host outside⟩

end Desk

end DryRun
