import DryRun.Desk.Rehearsal
import DryRun.Proofs.Desk.Effects
import DryRun.Proofs.Language.Catalogue
import DryRun.Proofs.Plan.Pace

/-!
# How a rehearsal goes

A rehearsal on a virtual clock goes the same way whatever the exercise is (`Rehearsal.goes`). One
task waits after the run was started, so the first wait jumps to it and ends the run. Then either no
task waits, or the completion does. Both are waits for the one task of a virtual clock
(`Agenda.AwaitsOnly`, `perform_drainNext_only`), and neither nests deep, so that the bound on
nesting does not matter (`Desk.answer_eq`).

The language decides how long the run takes and the source text decides its grade. All that is used
of the first is that every language takes some time (`ready_times`), and of the second nothing but
whether the run passed.
-/

set_option autoImplicit false

namespace DryRun

open Reading

/-! ## A single task -/

section

variable {α : Type} (before : α → α → Bool) (x : α)

/-- A heap with one element. -/
theorem Heap.push_empty : push before #[] x = #[x] := by
  simp [push, siftUp]

/-- Of a heap with one element nothing is left. -/
theorem Heap.pop?_singleton : pop? before #[x] = some (x, #[]) := by
  simp [pop?]

end

namespace Agenda

variable {agenda : Agenda Action} {task : Task Action}

/-- The one task of an agenda is due later than its virtual clock shows. -/
structure AwaitsOnly (agenda : Agenda Action) (task : Task Action) : Prop where
  movable : agenda.clock.kind = .virtual
  alone : agenda.tasks = #[task]
  later : agenda.now < task.due

/-- The agenda once its one task has been taken on time. -/
def emptied (agenda : Agenda Action) (task : Task Action) : Agenda Action :=
  { agenda with clock := { agenda.clock with reading := task.due }, tasks := #[] }

namespace AwaitsOnly

variable (awaits : agenda.AwaitsOnly task)
include awaits

/-- A task that is awaited is pending. -/
theorem pending_ne_zero : agenda.pending ≠ 0 := by
  rw [pending, awaits.alone]
  simp

/-- The clock is moved to the task that is awaited. -/
theorem await_eq : agenda.await = agenda.moveTo task.due := by
  have next : agenda.nextDue? = some task.due := by
    rw [nextDue?, first?, awaits.alone]
    rfl
  obtain ⟨shown, due⟩ := number_of_le (Reading.le_of_lt awaits.later)
  rw [await_of_virtual awaits.movable, next]
  exact if_pos ((sub_pos_iff shown due).mpr awaits.later)

/-- Then the task is due, and none is left. -/
theorem takeDue?_now :
    agenda.await.takeDue? agenda.await.now = some (task, agenda.emptied task) := by
  have due : task.due.isNaN = false := (number_of_le (Reading.le_of_lt awaits.later)).2
  have jumped :
      agenda.await = { agenda with clock := { agenda.clock with reading := task.due } } := by
    rw [awaits.await_eq, Agenda.moveTo, Clock.moveTo_of_lt awaits.later]
  rw [jumped, takeDue?_eq_some_iff]
  refine ⟨le_of_not_lt due due (not_lt_self due), ?_⟩
  rw [take?, awaits.alone, Heap.pop?_singleton]
  rfl

end AwaitsOnly

end Agenda

namespace Desk

/-- A call is answered as under any bound under which it comes to an end. -/
theorem answer_eq {d d' : Desk} {c : Call} {outcome : Outcome Reply} (depth : Nat)
    (small : depth ≤ ampleDepth) (finished : outcome ≠ .unfinished)
    (done : perform depth (.call c) d = (outcome, d')) : d.answer c = (outcome, d') := by
  unfold answer
  rw [perform_of_le small _ _ (by rwa [done]), done]

/-- A task that is put down where no task waits is the only one. -/
theorem put_of_idle {d : Desk} (idle : d.agenda.tasks = #[]) (delay : Float) (name : Text)
    (action : Action) :
    (d.put delay name action).2 =
      { d with agenda :=
        { d.agenda with
          tasks := #[⟨d.agenda.now + delay, d.agenda.issued, name, action⟩]
          issued := d.agenda.issued + 1 } } := by
  simp only [put, Agenda.put, idle, Heap.push_empty]

/-- A wait for the one task of a virtual clock: the task is taken when it is due. -/
theorem perform_drainNext_only {d : Desk} {task : Task Action}
    (awaits : d.agenda.AwaitsOnly task) (depth : Nat) :
    perform (depth + 2) .drainNext d =
      Work.proceed (Work.start (perform depth) { d with agenda := d.agenda.emptied task } task)
        fun _ d => perform depth (.drainDue 1) d := by
  have taken : d.await.takeDue? d.await.agenda.now =
      some (task, { d with agenda := d.agenda.emptied task }) := by
    rw [takeDue?, Desk.await, awaits.takeDue?_now]
    rfl
  rw [perform, Work.step_drainNext, if_neg awaits.pending_ne_zero,
    Agenda.sleepTime?_of_virtual awaits.movable]
  simp only
  rw [perform, Work.step_drainDue, taken]

end Desk

namespace Rehearsal

variable {exercise : Exercise}

/-! ## Before the run -/

section Begun

variable (exercise : Exercise)

/-- The attempt that is made in a rehearsal, before its run. -/
def attempt : Attempt := Attempt.ofExercise exercise [0]

/-- When the run takes place. -/
def ready : Float := 0 + (attempt exercise).language.compileDelay

def compiling : Task Action :=
  ⟨ready exercise, 0, Desk.taskName exercise "compile", .compile 0⟩

def completing : Task Action :=
  ⟨ready exercise + Settings.completionDelay, 1, Desk.taskName exercise "complete", .complete 0 0⟩

def begunBench : Bench where
  agenda := { clock := ⟨.virtual, 0⟩, tasks := #[compiling exercise], issued := 1 }
  attempts := #[(attempt exercise).start]

/-- The desk once the run was started. -/
def begunDesk : Desk where
  toBench := begunBench exercise
  sink := some { conduct := fun _ => [] }
  observers := #[{ conduct := fun _ => [] }]
  shared := [0]
  journal := [⟨.launched 0 0, begunBench exercise⟩]

/-- With the exercise opened and the run started, the task of the run waits. -/
theorem begun_eq : begun .virtual exercise = begunDesk exercise := by
  let opened : Desk :=
    ((Desk.fresh ⟨.virtual, 0⟩ (some fun _ => []) [fun _ => []]).openExercise exercise).2
  have opens : (Desk.fresh ⟨.virtual, 0⟩ (some fun _ => []) [fun _ => []]).answer
      (.openExercise exercise) = (.returned (.opened 0), opened) :=
    Desk.answer_eq 1 (by decide) (by simp) rfl
  have runs : opened.answer (.ask none .run) =
      (.returned (.granted true), begunDesk exercise) := by
    refine Desk.answer_eq 1 (by decide) (by simp) ?_
    have aimed : opened.aim none Request.run.operation = .ok 0 := rfl
    have found : opened.attempts[0]? = some (attempt exercise) := rfl
    rw [Desk.perform, Work.step, Work.answer]
    simp only [aimed, found]
    rw [Desk.grant_run _ _ rfl, Desk.launch_snd _ _ rfl, Desk.put_of_idle rfl]
    rfl
  rw [begun, opens, runs]

end Begun

/-- Every language takes its time, and after it the completion takes some more. -/
theorem ready_times :
    0 < ready exercise ∧ ready exercise < ready exercise + Settings.completionDelay := by
  obtain ⟨listing, member, same⟩ := Language.ofTag_listed exercise.tag
  have times : ∀ listing ∈ Language.catalogue, 0 < 0 + listing.language.compileDelay ∧
      0 + listing.language.compileDelay <
        0 + listing.language.compileDelay + Settings.completionDelay := by decide
  have language : (attempt exercise).language = listing.language := same.symm
  rw [ready, language]
  exact times listing member

/-- Nothing but the run is awaited. -/
theorem begun_awaits : (begunDesk exercise).agenda.AwaitsOnly (compiling exercise) :=
  ⟨rfl, rfl, ready_times.1⟩

/-! ## The run -/

section Run

variable (exercise : Exercise)

/-- The bench while the run takes place. -/
def runBench : Bench where
  agenda := (begunBench exercise).agenda.emptied (compiling exercise)
  attempts := #[(attempt exercise).start]

/-- The bench after the run. The completion waits if the run passed. -/
def restBench : Bench where
  agenda :=
    if (attempt exercise).report.passed then
      { clock := ⟨.virtual, ready exercise⟩, tasks := #[completing exercise], issued := 2 }
    else { clock := ⟨.virtual, ready exercise⟩, issued := 1 }
  attempts := #[(attempt exercise).finish]

/-- The desk after the run, before anybody was told. -/
def gradedDesk : Desk where
  toBench := restBench exercise
  sink := some { conduct := fun _ => [] }
  observers := #[{ conduct := fun _ => [] }]
  shared := [0]
  journal :=
    [⟨.finished 0 0 (attempt exercise).outcome, restBench exercise⟩,
     ⟨.began (compiling exercise), runBench exercise⟩,
     ⟨.launched 0 0, begunBench exercise⟩]

/-- The desk after the run was reported. -/
def restDesk : Desk :=
  { (gradedDesk exercise).note (.reported 0 0 0 (attempt exercise).report) with
    observers := #[{ conduct := fun _ => [], calls := 1 }] }

end Run

/-- A report has passed if its verdict is a success. -/
theorem passed_iff :
    (attempt exercise).report.passed = true ↔ (attempt exercise).outcome.verdict = .success :=
  beq_iff_eq

/-- After a run that failed nothing waits. -/
theorem restDesk_failed (failed : ¬ (attempt exercise).report.passed = true) :
    (restDesk exercise).agenda = { clock := ⟨.virtual, ready exercise⟩, issued := 1 } :=
  if_neg failed

/-- After a run that passed the completion waits. -/
theorem restDesk_passed (passed : (attempt exercise).report.passed = true) :
    (restDesk exercise).agenda =
      { clock := ⟨.virtual, ready exercise⟩, tasks := #[completing exercise], issued := 2 } :=
  if_pos passed

/-- The task of the run finishes it. -/
theorem begin_compiling :
    { begunDesk exercise with
      agenda := (begunDesk exercise).agenda.emptied (compiling exercise) }.begin
        (compiling exercise) =
      (.deliver 0 0 (attempt exercise).report, gradedDesk exercise) := by
  let d : Desk :=
    { begunDesk exercise with toBench := runBench exercise }.note (.began (compiling exercise))
  have ran : (d.finish 0 0 (attempt exercise).start).2 = gradedDesk exercise := by
    rw [Desk.finish_snd, Desk.promise_eq]
    unfold gradedDesk restBench
    by_cases passed : (attempt exercise).report.passed = true
    · rw [if_pos ⟨passed_iff.mp passed, rfl⟩, if_pos passed, Desk.put_of_idle rfl]
      rfl
    · rw [if_neg fun both => passed (passed_iff.mpr both.1), if_neg passed]
      rfl
  exact Prod.ext rfl ran

/-- The completion is not due yet when the run has taken place. -/
theorem restDesk_undue : (restDesk exercise).takeDue? (restDesk exercise).agenda.now = none := by
  rw [Desk.takeDue?, Option.map_eq_none_iff]
  by_cases passed : (attempt exercise).report.passed = true
  · have first : (restDesk exercise).agenda.first? = some (completing exercise) := by
      rw [restDesk_passed passed]
      rfl
    apply Agenda.takeDue?_of_undue first
    intro due
    rw [restDesk_passed passed] at due
    exact not_lt_of_le due ready_times.2
  · rw [restDesk_failed passed]
    rfl

/-- The first wait ends the run. -/
theorem runNext_eq :
    (begunDesk exercise).answer .runNext = (.returned (.ran 1), restDesk exercise) := by
  refine Desk.answer_eq 5 (by decide) (by simp) ?_
  have told : Desk.perform 2 (.deliver 0 0 (attempt exercise).report 0) (gradedDesk exercise) =
      (.returned (), restDesk exercise) := rfl
  have started :
      Work.start (Desk.perform 2)
        { begunDesk exercise with
          agenda := (begunDesk exercise).agenda.emptied (compiling exercise) }
        (compiling exercise) = (.returned (), restDesk exercise) := by
    rw [Work.start, begin_compiling]
    exact told
  have onward : Desk.perform 2 (.drainDue 1) (restDesk exercise) =
      (.returned 1, restDesk exercise) := by
    rw [Desk.perform, Work.step_drainDue, restDesk_undue]
  rw [Desk.perform, Work.step, Work.answer, Desk.perform_drainNext_only begun_awaits, started,
    Work.proceed, onward]
  rfl

/-! ## After the run -/

/-- The desk once the completion was announced. -/
def announcedDesk (exercise : Exercise) : Desk :=
  let taken : Desk :=
    { restDesk exercise with agenda := (restDesk exercise).agenda.emptied (completing exercise) }
  { (taken.note (.began (completing exercise))).note (.announced 0 exercise) with
    sink := some { conduct := fun _ => [], calls := 1 } }

def endDesk (exercise : Exercise) : Desk :=
  if (attempt exercise).report.passed then announcedDesk exercise else restDesk exercise

/-- After a run that failed nothing is left to do. -/
theorem runUntilIdle_failed (failed : ¬ (attempt exercise).report.passed = true) :
    (restDesk exercise).answer .runUntilIdle = (.returned (.ran 0), restDesk exercise) := by
  refine Desk.answer_eq 2 (by decide) (by simp) ?_
  have idle : (restDesk exercise).agenda.pending = 0 := by
    rw [restDesk_failed failed]
    rfl
  rw [Desk.perform, Work.step, Work.answer, Desk.perform, Work.step_drainAll, if_pos idle]
  rfl

/-- After a run that passed the completion is announced. -/
theorem runUntilIdle_passed (passed : (attempt exercise).report.passed = true) :
    (restDesk exercise).answer .runUntilIdle = (.returned (.ran 1), announcedDesk exercise) := by
  refine Desk.answer_eq 6 (by decide) (by simp) ?_
  have awaits : (restDesk exercise).agenda.AwaitsOnly (completing exercise) := by
    rw [restDesk_passed passed]
    exact ⟨rfl, rfl, ready_times.2⟩
  have started :
      Work.start (Desk.perform 2)
        { restDesk exercise with
          agenda := (restDesk exercise).agenda.emptied (completing exercise) }
        (completing exercise) = (.returned (), announcedDesk exercise) := rfl
  have onward : Desk.perform 2 (.drainDue 1) (announcedDesk exercise) =
      (.returned 1, announcedDesk exercise) := rfl
  have idle : Desk.perform 4 (.drainAll (0 + 1)) (announcedDesk exercise) =
      (.returned 1, announcedDesk exercise) := rfl
  rw [Desk.perform, Work.step, Work.answer, Desk.perform, Work.step_drainAll,
    if_neg awaits.pending_ne_zero, Desk.perform_drainNext_only awaits, started, Work.proceed,
    onward, Work.proceed, idle]
  rfl

/-- After the run what is left is the completion, if the run passed. -/
theorem runUntilIdle_eq :
    (restDesk exercise).answer .runUntilIdle =
      (.returned (.ran (if (attempt exercise).report.passed then 1 else 0)), endDesk exercise) := by
  by_cases passed : (attempt exercise).report.passed = true
  · rw [runUntilIdle_passed passed, endDesk, if_pos passed, if_pos passed]
  · rw [runUntilIdle_failed passed, endDesk, if_neg passed, if_neg passed]

/-! ## The whole -/

/-- A desk with one attempt is busy with it. -/
theorem isBusy_single {d : Desk} {a : Attempt} (alone : d.attempts = #[a]) :
    isBusy d = !a.isIdle := by
  simp [isBusy, alone]

/-- The run is under way once it was started. -/
theorem isBusy_begunDesk : isBusy (begunDesk exercise) = true := by
  have alone : (begunDesk exercise).attempts = #[(attempt exercise).start] := rfl
  rw [isBusy_single alone]
  rfl

/-- The run is not under way any more once it has taken place. -/
theorem isBusy_restDesk : isBusy (restDesk exercise) = false := by
  have alone : (restDesk exercise).attempts = #[(attempt exercise).finish] := rfl
  rw [isBusy_single alone]
  rfl

/-- One wait is enough. -/
theorem untilIdle_begun {bound : Nat} (enough : 2 ≤ bound) :
    untilIdle bound (begun .virtual exercise) = restDesk exercise := by
  obtain ⟨more, rfl⟩ := Nat.exists_eq_add_of_le' enough
  rw [begun_eq, untilIdle, if_pos isBusy_begunDesk, runNext_eq, untilIdle,
    if_neg (by simp [isBusy_restDesk])]

/-- How a rehearsal on a virtual clock goes that ends with a given report: the first wait ends the
run, the tasks that are left then are run, and no more happens than what is listed. -/
structure Goes (exercise : Exercise) (report : Report) : Prop where
  waited : ∃ d, (begun .virtual exercise).answer .runNext = (.returned (.ran 1), d) ∧
    isBusy d = false ∧ untilIdle Desk.ampleDepth (begun .virtual exercise) = d
  ended : ∃ d, (untilIdle Desk.ampleDepth (begun .virtual exercise)).answer .runUntilIdle =
      (.returned (.ran (if report.passed then 1 else 0)), d) ∧
    d.agenda.pending = 0 ∧
    d.journal.reverse.map Moment.event =
      [.launched 0 0, .began (compiling exercise), .finished 0 0 report.grade,
        .reported 0 0 0 report] ++
      if report.passed then [.began (completing exercise), .announced 0 exercise] else []

/-- Every rehearsal goes the same way, with the report that the exercise deserves. -/
theorem goes (exercise : Exercise) : Goes exercise (attempt exercise).report := by
  have reported : untilIdle Desk.ampleDepth (begun .virtual exercise) = restDesk exercise :=
    untilIdle_begun (by decide)
  constructor
  case waited =>
    refine ⟨restDesk exercise, ?_, isBusy_restDesk, reported⟩
    rw [begun_eq, runNext_eq]
  case ended =>
    rw [reported]
    refine ⟨endDesk exercise, runUntilIdle_eq, ?_⟩
    by_cases passed : (attempt exercise).report.passed = true
    · rw [endDesk, if_pos passed, if_pos passed]
      exact ⟨rfl, rfl⟩
    · rw [endDesk, if_neg passed, if_neg passed, restDesk_failed passed]
      exact ⟨rfl, rfl⟩

end Rehearsal

end DryRun
