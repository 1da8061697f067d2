import DryRun.Proofs.Agenda.Clock
import DryRun.Proofs.Desk.Run
import DryRun.Proofs.Language.Catalogue

/-!
# What the clock of a desk shows

The tasks of an agenda are a queue as long as none of them is due at NaN. That is so where the clock
shows a time and the delays are numbers (`Desk.Dated`), and every step keeps it if the calls of
outside code keep time (`Step.dated`).

The kind of a clock stays the same. Not every kind goes forward: outside code may turn back a clock
that is not a virtual one. Whether the clock is steady is left open; if it is, nothing was written
down at a later reading than it shows.
-/

set_option autoImplicit false

namespace DryRun

open Reading

/-- A clock of the same kind that shows a time. If the clock is steady, it is not an earlier one. -/
structure Clock.Proceeds (steady : Prop) (clock later : Clock) : Prop where
  kind : later.kind = clock.kind
  time : IsTime later.reading
  forward : steady → clock.reading ≤ later.reading

/-- Calls with a certain property keep time: delays are numbers and the clock is set to times. -/
structure Call.KeepTime (kind : ClockKind) (steady : Prop) (P : Call → Prop) : Prop where
  delay : ∀ {delay name body}, P (.schedule delay name body) → delay.isNaN = false
  turn : ∀ {c} {clock later : Clock}, P c → clock.kind = kind → IsTime clock.reading →
    c.turn? clock = some (.ok later) → clock.Proceeds steady later

namespace Clock

variable {steady : Prop} {clock later : Clock} (time : IsTime clock.reading)
include time

/-- A clock of the same kind that shows a later time has gone on. -/
theorem Proceeds.of_forward (kind : later.kind = clock.kind) (le : clock.reading ≤ later.reading) :
    clock.Proceeds steady later :=
  ⟨kind, time.of_le le, fun _ => le⟩

/-- A clock that stands still has gone on. -/
theorem proceeds_self : clock.Proceeds steady clock := .of_forward time rfl time.le_self

/-- A clock that is moved to a later reading has gone on. -/
theorem proceeds_moveTo (reading : Float) : clock.Proceeds steady (clock.moveTo reading) :=
  .of_forward time (moveTo_kind reading) (forward_moveTo time reading)

/-- A clock that is moved by a number has gone on. -/
theorem proceeds_move {seconds : Float} (number : seconds.isNaN = false)
    (moved : clock.move seconds = .ok later) : clock.Proceeds steady later := by
  refine .of_forward time ?_ (forward_move time number moved)
  unfold move at moved
  split at moved
  · split at moved <;> cases moved
    rfl
  · cases moved

/-- A clock that is set has gone on. -/
theorem proceeds_set {reading : Float} (set : clock.set reading = .ok later) :
    clock.Proceeds steady later := by
  refine .of_forward time ?_ (forward_set time set)
  unfold Clock.set at set
  split at set
  · cases set
    exact moveTo_kind reading
  · cases set

/-- Time elapses: a virtual clock stands still, and another one shows a time again. -/
theorem proceeds_elapse {turn : Float → Float} (turns : IsTime (turn clock.reading))
    (forward : clock.kind ≠ .virtual → steady → clock.reading ≤ turn clock.reading) :
    clock.Proceeds steady (clock.elapse turn) := by
  unfold elapse
  split
  · exact proceeds_self time
  case h_2 real => exact ⟨rfl, turns, forward real⟩

end Clock

namespace Desk

variable {kind : ClockKind} {steady : Prop} {P : Call → Prop} {d d' : Desk}

/-- The clock is of a certain kind and shows a time, the tasks are queued at numbers, and every run
takes as long as the catalogue says. If the clock is steady, nothing was written down at a later
reading. -/
structure Dated (kind : ClockKind) (steady : Prop) (d : Desk) : Prop where
  kind : d.agenda.clock.kind = kind
  time : IsTime d.agenda.now
  queued : d.agenda.Queued
  listed : ∀ (i : Nat) (a : Attempt), d.attempts[i]? = some a → a.language.IsListed
  past : steady → ∀ m ∈ d.journal, m.bench.agenda.now ≤ d.agenda.now

namespace Dated

/-- Nothing is written down and the clock proceeds. -/
theorem alter (dated : d.Dated kind steady)
    (proceeds : d.agenda.clock.Proceeds steady d'.agenda.clock) (queued : d'.agenda.Queued)
    (attempts : d'.attempts = d.attempts)
    (journal : d'.journal = d.journal) : d'.Dated kind steady := by
  constructor
  · exact proceeds.kind.trans dated.kind
  · exact proceeds.time
  · exact queued
  · rw [attempts]
    exact dated.listed
  · rw [journal]
    intro isSteady m member
    exact Reading.le_trans (dated.past isSteady m member) (proceeds.forward isSteady)

/-- Writing something down keeps a desk dated. -/
theorem note (dated : d.Dated kind steady) (event : Event) : (d.note event).Dated kind steady := by
  refine ⟨dated.kind, dated.time, dated.queued, dated.listed, fun isSteady m member => ?_⟩
  rcases List.mem_cons.mp member with rfl | old
  · exact dated.time.le_self
  · exact dated.past isSteady m old

/-- What was written down last does not matter for the rest. -/
theorem of_note {event : Event} (dated : (d.note event).Dated kind steady) : d.Dated kind steady :=
  ⟨dated.kind, dated.time, dated.queued, dated.listed,
    fun isSteady m member => dated.past isSteady m (List.mem_cons_of_mem _ member)⟩

/-- A task with a number for its delay keeps a desk dated. -/
theorem put (dated : d.Dated kind steady) {delay : Float} (allowed : IsDelay delay) (name : Text)
    (action : Action) : (d.put delay name action).2.Dated kind steady :=
  dated.alter (Clock.proceeds_self dated.time)
    (dated.queued.put (number_of_le (dated.time.le_add allowed)).2 name action) rfl rfl

/-- Moving the clock keeps a desk dated. -/
theorem moveTo (dated : d.Dated kind steady) (reading : Float) :
    (d.moveTo reading).Dated kind steady :=
  dated.alter (Clock.proceeds_moveTo dated.time reading)
    ⟨dated.queued.due, dated.queued.ordered⟩ rfl rfl

/-- A change of an attempt that leaves its language keeps a desk dated. -/
theorem modify (dated : d.Dated kind steady) (i : Nat) (change : Attempt → Attempt)
    (language : ∀ a, (change a).language = a.language) : (d.modify i change).Dated kind steady := by
  refine ⟨dated.kind, dated.time, dated.queued, ?_, dated.past⟩
  refine forall_attempts_modify (d.modify_getElem? i change) dated.listed fun a listed => ?_
  rw [language]
  exact listed

/-- Opening an exercise keeps a desk dated. -/
theorem openExercise (dated : d.Dated kind steady) (exercise : Exercise) :
    (d.openExercise exercise).2.Dated kind steady :=
  ⟨dated.kind, dated.time, dated.queued,
    forall_attempts_openExercise dated.listed (Language.ofTag_listed _), dated.past⟩

/-- Finishing a run keeps a desk dated. -/
theorem finish (dated : d.Dated kind steady) (i run : Nat) (a : Attempt) :
    (d.finish i run a).2.Dated kind steady := by
  have delay : IsDelay Settings.completionDelay := ⟨by decide, by decide⟩
  have finished := dated.modify i Attempt.finish fun _ => rfl
  rw [finish_snd, promise_eq]
  split
  · exact (finished.put delay _ _).note _
  · exact finished.note _

/-- Taking a task keeps a desk dated. -/
theorem take (dated : d.Dated kind steady) {reading : Float} {task : Task Action} {rest : Desk}
    (taken : d.takeDue? reading = some (task, rest)) : rest.Dated kind steady := by
  obtain ⟨-, popped, others⟩ := takeDue?_eq_some taken
  have queued := (dated.queued.pop popped).1
  rw [others] at queued ⊢
  exact dated.alter (Clock.proceeds_self dated.time) queued rfl rfl

/-- Beginning a task keeps a desk dated. -/
theorem begin (dated : d.Dated kind steady) (task : Task Action) :
    (d.begin task).2.Dated kind steady := by
  have begun := d.begins task
  generalize d.begin task = result at begun ⊢
  cases begun with
  | script => exact dated.note _
  | stray => exact dated.note _
  | run => exact (dated.note _).finish _ _ _
  | @announcement i run a =>
    have announced := (dated.note (.began task)).note (.announced i a.exercise)
    exact ⟨announced.kind, announced.time, announced.queued, announced.listed, announced.past⟩

end Dated

/-- A step keeps what the clock shows a time. -/
theorem Step.dated (keepTime : Call.KeepTime kind steady P) (step : d.Step P d')
    (employs : d.Employs P) (dated : d.Dated kind steady) : d'.Dated kind steady := by
  -- The reading changes only where the clock is turned, a drive sleeps, or the clock moves to a due
  -- time, and the calls that are made keep it a time.
  cases step with
  | @schedule delay name body task agenda allowed placed =>
    obtain ⟨nonneg, put⟩ := Agenda.schedule_eq_ok_iff.mp placed
    have scheduled := dated.put ⟨keepTime.delay allowed, nonneg⟩ name (.script body)
    rw [Desk.put, put] at scheduled
    exact scheduled.note _
  | @turn c clock allowed turned =>
    have proceeds := keepTime.turn allowed dated.kind dated.time turned
    have moved : ({ d with agenda := { d.agenda with clock } } : Desk).Dated kind steady :=
      dated.alter proceeds ⟨dated.queued.due, dated.queued.ordered⟩ rfl rfl
    exact moved.note _
  | openExercise => exact (dated.openExercise _).note _
  | @launch target i a aimed found idle =>
    rw [launch_snd d i idle]
    have started := dated.modify i Attempt.start fun _ => rfl
    have put := started.put (dated.listed i a found).delay (taskName a.exercise "compile")
      (.compile i)
    exact (put.note _).note _
  | @edit target request change i a changes =>
    refine (dated.modify i change fun a' => ?_).note _
    obtain ⟨source, grade, same, -⟩ := Request.change?_eq_some changes a'
    rw [same]
  | @addObserver target conduct i =>
    have observed := dated.modify i (fun a =>
      { a with observers := a.observers ++ [d.observers.size] }) fun _ => rfl
    have added : (d.addObserver i conduct).Dated kind steady :=
      ⟨observed.kind, observed.time, observed.queued, observed.listed, observed.past⟩
    exact added.note _
  | answer => exact dated.note _
  | begin taken => exact ((dated.take taken).moveTo _).begin _
  | @tell i run place observer report =>
    have told := dated.note (.reported i run observer report)
    obtain ⟨bench, entry⟩ := d.tell_snd i run observer report
    have agenda : (d.tell i run observer report).2.agenda = d.agenda := congrArg Bench.agenda bench
    refine told.alter ?_ ?_ (congrArg Bench.attempts bench) entry
    · rw [agenda]
      exact Clock.proceeds_self told.time
    · rw [agenda]
      exact told.queued
  | doze => exact dated.note _
  | @wake seconds early =>
    have allowed := (employs.sleeper d.sleeps seconds (Agenda.sleepTime?_pos early)).1
    exact dated.alter (keepTime.turn allowed dated.kind dated.time rfl)
      ⟨dated.queued.due, dated.queued.ordered⟩ rfl rfl
  | @move reading => exact dated.moveTo reading

/-- A fresh desk whose clock shows a time is dated. -/
theorem dated_fresh {clock : Clock} (time : IsTime clock.reading) (sink : Option Conduct)
    (observers : List Conduct) (sleeper : Sleeper) :
    (fresh clock sink observers sleeper).Dated clock.kind steady := by
  refine ⟨rfl, time, ⟨?_, ?_⟩, ?_, ?_⟩
  · rintro task ⟨⟨⟩⟩
  · rintro i - x y ⟨⟩
  · rintro i a ⟨⟩
  · rintro - m ⟨⟩

/-- A run of steps keeps what every step keeps. -/
theorem Run.dated (keepTime : Call.KeepTime kind steady P) (hereditary : Call.Hereditary P)
    (run : d.Run P d') (employs : d.Employs P) (dated : d.Dated kind steady) :
    d'.Dated kind steady := by
  have kept := run.keeps (I := fun d => d.Employs P ∧ d.Dated kind steady) ⟨employs, dated⟩
    fun step ⟨employs, dated⟩ =>
      ⟨step.employs hereditary employs, step.dated keepTime employs dated⟩
  exact kept.2

end Desk

end DryRun
