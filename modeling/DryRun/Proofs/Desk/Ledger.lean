import DryRun.Proofs.Desk.Run

/-!
# Every task is taken at most once

The numbers that an agenda has given out are those of the tasks that wait and of the tasks that have
begun, and each of them belongs to one task (`Ledger.numbers`). So no number begins twice, and none
begins while it waits. The runs that have finished are among the tasks that have begun
(`Ledger.finished`), so none finishes twice.
-/

set_option autoImplicit false

namespace DryRun

/-- The number of the task that begins at a moment, if one does. -/
def Moment.began? (m : Moment) : Option Nat :=
  match m.event with
  | .began task => some task.sequence
  | _ => none

/-- The numbers of the tasks that have begun, the latest first. -/
def begunNumbers (journal : List Moment) : List Nat := journal.filterMap Moment.began?

/-- The number of the run that finishes at a moment, if one does. -/
def Moment.finished? (m : Moment) : Option Nat :=
  match m.event with
  | .finished _ run _ => some run
  | _ => none

/-- The numbers of the runs that have finished, the latest first. -/
def finishedNumbers (journal : List Moment) : List Nat := journal.filterMap Moment.finished?

namespace Desk

variable {P : Call → Prop} {d d' : Desk}

/-- The tasks that wait and the tasks that have begun are those that were given a number, and every
run that has finished is a task that has begun. -/
structure Ledger (d : Desk) : Prop where
  numbers : (d.agenda.tasks.toList.map Task.sequence ++ begunNumbers d.journal).Perm
    (List.range d.agenda.issued)
  finished : (finishedNumbers d.journal).Sublist (begunNumbers d.journal)

namespace Ledger

/-- What begins no task and finishes no run leaves the books as they are. -/
theorem note (ledger : d.Ledger) (event : Event) (began : ∀ task, event ≠ .began task)
    (finished : ∀ i run g, event ≠ .finished i run g) : (d.note event).Ledger := by
  have noneBegan : Moment.began? ⟨event, d.toBench⟩ = none := by
    cases event <;> simp_all [Moment.began?]
  have noneFinished : Moment.finished? ⟨event, d.toBench⟩ = none := by
    cases event <;> simp_all [Moment.finished?]
  have sameBegan : begunNumbers (d.note event).journal = begunNumbers d.journal :=
    List.filterMap_cons_none noneBegan
  have sameFinished : finishedNumbers (d.note event).journal = finishedNumbers d.journal :=
    List.filterMap_cons_none noneFinished
  constructor
  · rw [sameBegan]
    exact ledger.numbers
  · rw [sameBegan, sameFinished]
    exact ledger.finished

/-- A task that is put down is entered into the books. -/
theorem put (ledger : d.Ledger) (delay : Float) (name : Text) (action : Action) :
    (d.put delay name action).2.Ledger := by
  have placed := (Agenda.tasks_put d.agenda delay name action).map Task.sequence
  have more :=
    (placed.append_right (begunNumbers d.journal)).trans (ledger.numbers.cons d.agenda.issued)
  refine ⟨more.trans ?_, ledger.finished⟩
  show (d.agenda.issued :: List.range d.agenda.issued).Perm (List.range (d.agenda.issued + 1))
  rw [List.range_succ]
  exact (List.perm_append_singleton _ _).symm

/-- A task that is taken begins. -/
theorem take {reading : Float} {task : Task Action} {rest : Desk} (ledger : d.Ledger)
    (taken : d.takeDue? reading = some (task, rest)) :
    ((rest.moveTo task.due).note (.began task)).Ledger := by
  obtain ⟨tasks, taking⟩ := moveTo_of_takeDue? taken
  have left := (tasks.map Task.sequence).append_right (begunNumbers d.journal)
  have numbers : ((rest.moveTo task.due).agenda.tasks.toList.map Task.sequence ++
      task.sequence :: begunNumbers d.journal).Perm (List.range d.agenda.issued) :=
    List.perm_middle.trans (left.symm.trans ledger.numbers)
  rw [taking]
  exact ⟨numbers, ledger.finished.cons _⟩

/-- If a run takes place in a task that is taken, it finishes. -/
theorem begin {reading : Float} {task : Task Action} {rest : Desk} (ledger : d.Ledger)
    (taken : d.takeDue? reading = some (task, rest)) :
    ((rest.moveTo task.due).begin task).2.Ledger := by
  have taking := (moveTo_of_takeDue? taken).2
  have began := ledger.take taken
  have before : (rest.moveTo task.due).journal = d.journal := by rw [taking]
  have begun := (rest.moveTo task.due).begins task
  generalize rest.moveTo task.due = d₁ at began before begun ⊢
  generalize d₁.begin task = result at begun ⊢
  cases begun with
  | script => exact began
  | stray => exact began
  | @run i a =>
    constructor
    · rw [finish_snd, promise_eq]
      split
      · exact (began.put _ _ _).numbers
      · exact began.numbers
    · rw [finish_journal, note_journal, before]
      exact ledger.finished.cons_cons task.sequence
  | @announcement i run a =>
    have announced := began.note (.announced i a.exercise) (by simp) (by simp)
    exact ⟨announced.numbers, announced.finished⟩

/-- No number has begun twice. -/
theorem nodup (ledger : d.Ledger) : (begunNumbers d.journal).Nodup :=
  (List.nodup_append.mp (ledger.numbers.nodup_iff.mpr List.nodup_range)).2.1

/-- No task that is left has the number of the one that is taken. -/
theorem sequence_ne {reading : Float} {task : Task Action} {rest : Desk} (ledger : d.Ledger)
    (taken : d.takeDue? reading = some (task, rest)) :
    ∀ other ∈ (rest.moveTo task.due).agenda.tasks, task.sequence ≠ other.sequence := by
  have waiting := (List.nodup_append.mp (ledger.numbers.nodup_iff.mpr List.nodup_range)).1
  have numbers := ((moveTo_of_takeDue? taken).1.map Task.sequence).nodup_iff.mp waiting
  rw [List.map_cons, List.nodup_cons] at numbers
  intro other member same
  exact numbers.1 (List.mem_map.mpr ⟨other, Array.mem_toList_iff.mpr member, same.symm⟩)

end Ledger

/-- A step keeps the books. -/
theorem Step.ledger (step : d.Step P d') (ledger : d.Ledger) : d'.Ledger := by
  -- A number is added where a task is put, and moves from the queue to the journal where it begins.
  cases step with
  | @schedule delay name body task agenda allowed placed =>
    obtain ⟨-, put⟩ := Agenda.schedule_eq_ok_iff.mp placed
    have scheduled := ledger.put delay name (.script body)
    rw [Desk.put, put] at scheduled
    exact scheduled.note _ (by simp) (by simp)
  | @turn c clock =>
    have turned : ({ d with agenda := { d.agenda with clock } } : Desk).Ledger :=
      ⟨ledger.numbers, ledger.finished⟩
    exact turned.note _ (by simp) (by simp)
  | @openExercise exercise =>
    have opened : (d.openExercise exercise).2.Ledger := ⟨ledger.numbers, ledger.finished⟩
    exact opened.note _ (by simp) (by simp)
  | @launch target i a aimed found idle =>
    rw [launch_snd d i idle]
    have started : (d.modify i Attempt.start).Ledger := ⟨ledger.numbers, ledger.finished⟩
    exact ((started.put _ _ _).note _ (by simp) (by simp)).note _ (by simp) (by simp)
  | @edit target request change i =>
    have edited : (d.modify i change).Ledger := ⟨ledger.numbers, ledger.finished⟩
    exact edited.note _ (by simp) (by simp)
  | @addObserver target conduct i =>
    have observed : (d.addObserver i conduct).Ledger := ⟨ledger.numbers, ledger.finished⟩
    exact observed.note _ (by simp) (by simp)
  | answer => exact ledger.note _ (by simp) (by simp)
  | begin taken => exact ledger.begin taken
  | @tell i run place observer report =>
    have told := ledger.note (.reported i run observer report) (by simp) (by simp)
    obtain ⟨bench, entry⟩ := d.tell_snd i run observer report
    constructor
    · rw [entry, bench]
      exact told.numbers
    · rw [entry]
      exact told.finished
  | doze => exact ledger.note _ (by simp) (by simp)
  | wake => exact ⟨ledger.numbers, ledger.finished⟩
  | move => exact ⟨ledger.numbers, ledger.finished⟩

/-- A run of steps keeps the books. -/
theorem Run.ledger (run : d.Run P d') (ledger : d.Ledger) : d'.Ledger :=
  run.keeps ledger fun step => step.ledger

/-- The books of a fresh desk are in order. -/
theorem ledger_fresh (clock : Clock) (sink : Option Conduct) (observers : List Conduct)
    (sleeper : Sleeper) : (fresh clock sink observers sleeper).Ledger :=
  ⟨.nil, .slnil⟩

end Desk

end DryRun
