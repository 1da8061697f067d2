import DryRun.Proofs.Desk.Drive
import DryRun.Proofs.Desk.Ledger

/-!
# No task is lost

The tasks that have been put down at a desk are those that wait and those that have begun, and no
task is two of these (`Bench.Accounts`). A task that fails has begun, so it is gone for good, and
the others wait as before. `tasks_conserved` says so of every point of every history, together with
what a call to put down a task adds and with what a drive returns.

What has been put down is read off the journal: the tasks of a moment that were given a number since
the moment before (`Moment.placed`). There is one at most, and the event says which
(`Event.Places`).
-/

set_option autoImplicit false

namespace DryRun

/-- The task that begins at a moment, if one does. -/
def Moment.begun? (m : Moment) : Option (Task Action) :=
  match m.event with
  | .began task => some task
  | _ => none

/-- The tasks that have begun, the latest first. -/
def begunTasks (journal : List Moment) : List (Task Action) := journal.filterMap Moment.begun?

/-- How many numbers had been given out at the latest moment of a journal. -/
def issuedBy : List Moment → Nat
  | [] => 0
  | m :: _ => m.bench.agenda.issued

/-- The tasks that are put down at a moment: they wait then and were given a number since the moment
before. -/
def Moment.placed (m : Moment) (earlier : List Moment) : List (Task Action) :=
  m.bench.agenda.tasks.toList.filter fun task => issuedBy earlier ≤ task.sequence

/-- The tasks that have been put down, the latest first. -/
def placedTasks : List Moment → List (Task Action)
  | [] => []
  | m :: earlier => m.placed earlier ++ placedTasks earlier

/-- Which tasks are put down when something happens: one for a call to do so that is answered, one
for a run that is started, and one at most for a run that finishes. -/
def Event.Places (tasks : List (Task Action)) : Event → Prop
  | .answered (.schedule _ _ body) (.task due sequence name) =>
    tasks = [⟨due, sequence, name, .script body⟩]
  | .launched i run => ∃ due name, tasks = [⟨due, run, name, .compile i⟩]
  | .finished i run _ =>
    tasks = [] ∨ ∃ due sequence name, tasks = [⟨due, sequence, name, .complete i run⟩]
  | _ => tasks = []

/-- The tasks that have been put down are those that wait and those that have begun. Each has a
number of its own, so none of them does both or has begun twice. -/
structure Bench.Accounts (b : Bench) (journal : List Moment) : Prop where
  conserved : (b.agenda.tasks.toList ++ begunTasks journal).Perm (placedTasks journal)
  once : ((b.agenda.tasks.toList ++ begunTasks journal).map Task.sequence).Nodup
  numbers : ((placedTasks journal).map Task.sequence).Perm (List.range b.agenda.issued)

/-- The numbers of the tasks that have begun. -/
theorem begunTasks_sequence (journal : List Moment) :
    (begunTasks journal).map Task.sequence = begunNumbers journal := by
  rw [begunTasks, begunNumbers, List.map_filterMap]
  congr 1
  funext m
  obtain ⟨event, bench⟩ := m
  cases event <;> rfl

namespace Desk

variable {P : Call → Prop} {d d' : Desk}

/-- A task that waits has a number that was given out. -/
theorem Ledger.sequence_lt (ledger : d.Ledger) {task : Task Action} (waits : task ∈ d.agenda.tasks) :
    task.sequence < d.agenda.issued := by
  have given := ledger.numbers.mem_iff (a := task.sequence)
  rw [List.mem_range] at given
  refine given.mp (List.mem_append_left _ ?_)
  exact List.mem_map.mpr ⟨task, Array.mem_toList_iff.mpr waits, rfl⟩

/-- Tasks that are conserved are accounted for, since each has a number of its own. -/
theorem Ledger.accounts (ledger : d.Ledger)
    (union : (d.agenda.tasks.toList ++ begunTasks d.journal).Perm (placedTasks d.journal)) :
    d.toBench.Accounts d.journal := by
  have given := ledger.numbers
  rw [← begunTasks_sequence, ← List.map_append] at given
  exact ⟨union, given.nodup_iff.mpr List.nodup_range, (union.map Task.sequence).symm.trans given⟩

/-- Tasks are conserved, and were accounted for at every moment so far. -/
structure Conserved (d : Desk) : Prop where
  ledger : d.Ledger
  counted : issuedBy d.journal = d.agenda.issued
  union : (d.agenda.tasks.toList ++ begunTasks d.journal).Perm (placedTasks d.journal)
  moments : Throughout (fun m earlier => m.bench.Accounts (m :: earlier) ∧
    m.event.Places (m.placed earlier)) d.journal

namespace Conserved

/-- If the tasks that wait at a moment are new ones, one at most, and some that waited before, then
what is put down are the new ones. -/
theorem placed_eq (conserved : d.Conserved) (new : List (Task Action)) {old : List (Task Action)}
    {m : Moment}
    (tasks : m.bench.agenda.tasks.toList.Perm (new ++ old))
    (waited : ∀ task ∈ old, task ∈ d.agenda.tasks)
    (numbered : ∀ task ∈ new, d.agenda.issued ≤ task.sequence) (one : new.length ≤ 1) :
    m.placed d.journal = new := by
  have placed : (m.placed d.journal).Perm new := by
    rw [Moment.placed, conserved.counted]
    refine (tasks.filter _).trans ?_
    rw [List.filter_append, List.filter_eq_self.mpr (by simpa using numbered),
      List.filter_eq_nil_iff.mpr, List.append_nil]
    intro task member
    have given := conserved.ledger.sequence_lt (waited task member)
    simpa using given
  match new, one with
  | [], _ => exact placed.eq_nil
  | [task], _ => exact placed.eq_singleton

/-- Something is written down that is not the beginning of a task, with new tasks or none. -/
theorem enter (conserved : d.Conserved) (ledger : d'.Ledger) {event : Event}
    {new : List (Task Action)} (entry : d'.journal = ⟨event, d'.toBench⟩ :: d.journal)
    (tasks : d'.agenda.tasks.toList.Perm (new ++ d.agenda.tasks.toList))
    (numbered : ∀ task ∈ new, d.agenda.issued ≤ task.sequence) (one : new.length ≤ 1)
    (other : ∀ task, event ≠ .began task) (places : event.Places new) : d'.Conserved := by
  have placed := conserved.placed_eq new (m := ⟨event, d'.toBench⟩) tasks
    (fun _ => Array.mem_toList_iff.mp) numbered one
  have begun : begunTasks d'.journal = begunTasks d.journal := by
    rw [entry]
    refine List.filterMap_cons_none ?_
    cases event <;> simp_all [Moment.begun?]
  have union : (d'.agenda.tasks.toList ++ begunTasks d'.journal).Perm (placedTasks d'.journal) := by
    rw [begun, entry, placedTasks, placed]
    refine (tasks.append_right _).trans ?_
    rw [List.append_assoc]
    exact conserved.union.append_left new
  refine ⟨ledger, by rw [entry, issuedBy], union, ?_⟩
  have accounts := ledger.accounts union
  rw [entry] at accounts ⊢
  exact ⟨⟨accounts, placed.symm ▸ places⟩, conserved.moments⟩

/-- A task is put down. -/
theorem place (conserved : d.Conserved) {event : Event} {delay : Float} {name : Text}
    {action : Action} (ledger : d'.Ledger)
    (entry : d'.journal = ⟨event, d'.toBench⟩ :: d.journal)
    (agenda : d'.agenda = (d.agenda.put delay name action).2) (other : ∀ task, event ≠ .began task)
    (places : event.Places [⟨d.agenda.now + delay, d.agenda.issued, name, action⟩]) :
    d'.Conserved := by
  refine conserved.enter ledger entry ?_ (by simp) (by simp) other places
  rw [agenda]
  exact Agenda.tasks_put d.agenda delay name action

/-- Something is written down that is about no task. -/
theorem note (conserved : d.Conserved) {event : Event} (ledger : d'.Ledger)
    (entry : d'.journal = ⟨event, d'.toBench⟩ :: d.journal)
    (tasks : d'.agenda.tasks = d.agenda.tasks) (other : ∀ task, event ≠ .began task)
    (places : event.Places []) : d'.Conserved :=
  conserved.enter ledger entry (by rw [tasks]; exact .rfl) (by simp) (by simp) other places

/-- A task that is taken begins. -/
theorem take (conserved : d.Conserved) {reading : Float} {task : Task Action} {rest : Desk}
    (taken : d.takeDue? reading = some (task, rest)) :
    ((rest.moveTo task.due).note (.began task)).Conserved := by
  obtain ⟨tasks, taking⟩ := moveTo_of_takeDue? taken
  have ledger := conserved.ledger.take taken
  have left := (mem_of_takeDue? taken).2
  have placed := conserved.placed_eq [] (m := ⟨.began task, (rest.moveTo task.due).toBench⟩) .rfl
    (fun _ member => left _ (Array.mem_toList_iff.mp member)) (by simp) (by simp)
  have journal : (rest.moveTo task.due).journal = d.journal := by rw [taking]
  have union : ((rest.moveTo task.due).agenda.tasks.toList ++ task :: begunTasks d.journal).Perm
      (placedTasks d.journal) :=
    List.perm_middle.trans ((tasks.symm.append_right _).trans conserved.union)
  generalize rest.moveTo task.due = d₁ at ledger placed journal union
  have union : ((d₁.note (.began task)).agenda.tasks.toList ++
      begunTasks (d₁.note (.began task)).journal).Perm
      (placedTasks (d₁.note (.began task)).journal) := by
    rw [note_journal, journal, placedTasks, placed]
    exact union
  refine ⟨ledger, rfl, union, ?_⟩
  have accounts := ledger.accounts union
  rw [note_journal, journal] at accounts ⊢
  exact ⟨⟨accounts, placed⟩, conserved.moments⟩

/-- A run takes place: the task of its announcement may be put down. -/
theorem finish (conserved : d.Conserved) (i run : Nat) (a : Attempt)
    (ledger : (d.finish i run a).2.Ledger) : (d.finish i run a).2.Conserved := by
  rw [finish_snd, promise_eq] at ledger ⊢
  split
  case isTrue promised =>
    rw [if_pos promised] at ledger
    exact conserved.place ledger rfl rfl (by simp) (.inr ⟨_, _, _, rfl⟩)
  case isFalse unpromised =>
    rw [if_neg unpromised] at ledger
    exact conserved.note ledger rfl rfl (by simp) (.inl rfl)

/-- A task that begins is conserved. -/
theorem begin (conserved : d.Conserved) {reading : Float} {task : Task Action} {rest : Desk}
    (taken : d.takeDue? reading = some (task, rest)) :
    ((rest.moveTo task.due).begin task).2.Conserved := by
  have began := conserved.take taken
  have ledger := conserved.ledger.begin taken
  have begun := (rest.moveTo task.due).begins task
  generalize rest.moveTo task.due = d₁ at began ledger begun ⊢
  generalize d₁.begin task = result at ledger begun ⊢
  cases begun with
  | script => exact began
  | stray => exact began
  | run => exact began.finish _ _ _ ledger
  | announcement => exact began.note ledger rfl rfl (by simp) rfl

end Conserved

/-- A step conserves tasks. -/
theorem Step.conserved (step : d.Step P d') (conserved : d.Conserved) : d'.Conserved := by
  have ledger := step.ledger conserved.ledger
  cases step with
  | @schedule delay name body task agenda allowed placed =>
    obtain ⟨-, put⟩ := Agenda.schedule_eq_ok_iff.mp placed
    obtain ⟨rfl, rfl⟩ := Prod.mk.inj put
    exact conserved.place ledger rfl rfl (by simp) rfl
  | @turn c clock allowed turned =>
    exact conserved.note ledger rfl rfl (by simp) (by cases c <;> rfl)
  | openExercise => exact conserved.note ledger rfl rfl (by simp) rfl
  | @launch target i a aimed found idle =>
    have started : (d.modify i Attempt.start).Ledger :=
      ⟨conserved.ledger.numbers, conserved.ledger.finished⟩
    rw [launch_snd d i idle] at ledger ⊢
    have launched := (started.put a.language.compileDelay (taskName a.exercise "compile")
      (.compile i)).note (.launched i d.agenda.issued) (by simp) (by simp)
    have placed := conserved.place launched rfl rfl (by simp) ⟨_, _, rfl⟩
    exact placed.note ledger rfl rfl (by simp) rfl
  | edit => exact conserved.note ledger rfl rfl (by simp) rfl
  | addObserver => exact conserved.note ledger rfl rfl (by simp) rfl
  | @answer c reply quiet =>
    refine conserved.note ledger rfl rfl (by simp) ?_
    cases c with
    | schedule => cases quiet
    | _ => rfl
  | begin taken => exact conserved.begin taken
  | @tell i run place observer report =>
    obtain ⟨bench, entry⟩ := d.tell_snd i run observer report
    rw [← bench] at entry
    exact conserved.note ledger entry (by rw [bench]) (by simp) rfl
  | doze => exact conserved.note ledger rfl rfl (by simp) rfl
  | wake => exact ⟨ledger, conserved.counted, conserved.union, conserved.moments⟩
  | move => exact ⟨ledger, conserved.counted, conserved.union, conserved.moments⟩

/-- A run of steps conserves tasks. -/
theorem Run.conserved (run : d.Run P d') (conserved : d.Conserved) : d'.Conserved :=
  run.keeps conserved fun step => step.conserved

/-- At a fresh desk there are no tasks to conserve. -/
theorem conserved_fresh (clock : Clock) (sink : Option Conduct) (observers : List Conduct)
    (sleeper : Sleeper) : (fresh clock sink observers sleeper).Conserved :=
  ⟨ledger_fresh clock sink observers sleeper, rfl, .nil, trivial⟩

/-! ## The tasks of a drive begin -/

/-- Certain tasks have begun since, in this order, whatever else has happened. -/
def Begun (d : Desk) (tasks : List (Task Action)) (d' : Desk) : Prop :=
  ∃ recent, d'.journal = recent ++ d.journal ∧ tasks.reverse.Sublist (begunTasks recent)

/-- In a run of steps tasks may have begun. -/
theorem Run.begun (run : d.Run P d') : d.Begun [] d' := by
  have suffix : d.journal <:+ d'.journal := by
    induction run with
    | refl => exact List.suffix_refl _
    | tail _ step ih => exact ih.trans step.journal
  obtain ⟨recent, entries⟩ := suffix
  exact ⟨recent, entries.symm, List.nil_sublist _⟩

/-- Tasks of two stretches have begun one after the other. -/
theorem Begun.trans {d₁ : Desk} {tasks others : List (Task Action)} (first : d.Begun tasks d₁)
    (second : d₁.Begun others d') : d.Begun (tasks ++ others) d' := by
  obtain ⟨recent, entries, began⟩ := first
  obtain ⟨later, entries', began'⟩ := second
  refine ⟨later ++ recent, by rw [entries', entries, List.append_assoc], ?_⟩
  rw [List.reverse_append, begunTasks, List.filterMap_append]
  exact began'.append began

/-- A task that begins has begun. -/
theorem begun_begin (d : Desk) (task : Task Action) : d.Begun [task] (d.begin task).2 := by
  obtain ⟨more, entries⟩ := d.begin_journal task
  refine ⟨more ++ [⟨.began task, d.toBench⟩], by simp [entries], ?_⟩
  rw [begunTasks, List.filterMap_append]
  exact List.sublist_append_right _ _

/-- The tasks that are taken have begun. -/
theorem Takes.begun {limit : Option Float} {tasks : List (Task Action)} {outcome : Outcome Unit}
    (takes : d.Takes limit tasks outcome d') : d.Begun tasks d' := by
  have started {d rest d₁ : Desk} {reading : Float} {task : Task Action} {outcome : Outcome Unit}
      (taken : d.takeDue? reading = some (task, rest))
      (started : (rest.moveTo task.due).Starts task outcome d₁) : d.Begun [task] d₁ := by
    have same : (rest.moveTo task.due).journal = d.journal := by rw [(moveTo_of_takeDue? taken).2]
    have began := (begun_begin (rest.moveTo task.due) task).trans started.run.begun
    rwa [Begun, same] at began
  induction takes with
  | @stop d undue =>
    refine ⟨[], ?_, List.nil_sublist _⟩
    cases limit <;> rfl
  | next taken starts _ ih => exact (started taken starts).trans ih
  | fail taken starts => exact started taken starts

/-- The tasks that a drive takes have begun. -/
theorem Drives.begun {c : Call} {tasks : List (Task Action)} {outcome : Outcome Unit}
    (drives : d.Drives c tasks outcome d') : d.Begun tasks d' := by
  have idle {d : Desk} : d.Begun [] d := ⟨[], rfl, List.nil_sublist _⟩
  have dozed {d : Desk} {seconds : Float} : d.Begun [] (d.sleep seconds).2 :=
    ⟨[⟨.slept seconds, d.toBench⟩], rfl, List.nil_sublist _⟩
  induction drives with
  | advance _ takes => exact takes.begun
  | advanceRefuse => exact idle
  | runDue takes => exact takes.begun
  | runNextIdle => exact idle
  | @runNext d _ _ _ _ _ takes =>
    have awaited : d.Run (fun _ => True) d.await := Work.run_await
    exact awaited.begun.trans takes.begun
  | runNextAfter _ _ slept takes => exact (dozed.trans slept.run.begun).trans takes.begun
  | runNextFail _ _ slept => exact dozed.trans slept.run.begun
  | runUntilIdleStop => exact idle
  | runUntilIdle _ _ _ ih ih' => exact ih.trans ih'
  | runUntilIdleFail _ _ ih => exact ih

/-- When a drive until no task waits has returned, none does. -/
theorem Drives.emptied {tasks : List (Task Action)}
    (drives : d.Drives .runUntilIdle tasks (.returned ()) d') : d'.agenda.pending = 0 := by
  generalize call : Call.runUntilIdle = c at drives
  generalize ending : Outcome.returned () = outcome at drives
  induction drives with
  | runUntilIdleStop idle => exact idle
  | runUntilIdle _ _ _ _ ih => exact ih call ending
  | runUntilIdleFail => cases ending
  | _ => cases call

end Desk

/-! ## What waits, waits or begins -/

/-- Tasks that were put down stay so as the journal grows. -/
theorem placedTasks_suffix (recent journal : List Moment) :
    placedTasks journal <:+ placedTasks (recent ++ journal) := by
  induction recent with
  | nil => exact List.suffix_refl _
  | cons m recent ih => exact ih.trans (List.suffix_append _ _)

/-- A task that waited at an earlier point waits or has begun since. -/
theorem Bench.Accounts.waits_or_begun {b b' : Bench} {journal recent : List Moment}
    (before : b.Accounts journal) (after : b'.Accounts (recent ++ journal)) {task : Task Action}
    (waited : task ∈ b.agenda.tasks) :
    task ∈ b'.agenda.tasks ∨ task ∈ begunTasks recent := by
  have listed : task ∈ b.agenda.tasks.toList := Array.mem_toList_iff.mpr waited
  have placed : task ∈ placedTasks journal :=
    before.conserved.mem_iff.mp (List.mem_append_left _ listed)
  have known := after.conserved.mem_iff.mpr ((placedTasks_suffix recent journal).subset placed)
  rw [begunTasks, List.filterMap_append, List.mem_append, List.mem_append, Array.mem_toList_iff]
    at known
  rcases known with waits | recently | earlier
  · exact .inl waits
  · exact .inr recently
  · have once := before.once
    rw [List.map_append, List.nodup_append] at once
    exact absurd rfl (once.2.2 _ (List.mem_map_of_mem listed) _ (List.mem_map_of_mem earlier))

namespace Desk

variable {d d' : Desk}

/-- A call to put down a task either adds that one task, under the next number, or is refused for
its delay and changes nothing. -/
theorem perform_schedule (d : Desk) (depth : Nat) (delay : Float) (name : Text)
    (body : List Call) :
    let task : Task Action := ⟨d.agenda.now + delay, d.agenda.issued, name, .script body⟩
    (delay < 0 ∧ perform (depth + 1) (.call (.schedule delay name body)) d =
        (.failed (.agenda (.negativeDelay delay)), d)) ∨
      ¬ delay < 0 ∧ ∃ d', perform (depth + 1) (.call (.schedule delay name body)) d =
          (.returned (.task task.due task.sequence task.name), d') ∧
        d'.agenda.tasks.toList.Perm (task :: d.agenda.tasks.toList) ∧
        d'.agenda.issued = d.agenda.issued + 1 := by
  simp only [perform, Work.step, Work.answer, Agenda.schedule]
  split
  case h_1 task agenda placed =>
    split at placed
    case isTrue => cases placed
    case isFalse allowed =>
      cases placed
      exact .inr ⟨allowed, _, rfl, Agenda.tasks_put _ _ _ _, rfl⟩
  case h_2 error refused =>
    split at refused
    case isTrue negative =>
      cases refused
      exact .inl ⟨negative, rfl⟩
    case isFalse => cases refused

/-- A drive until no task waits that returns has run every task that waited. -/
theorem begun_of_runUntilIdle (conserved : d.Conserved) {depth : Nat} {reply : Reply}
    (returned : perform depth (.call .runUntilIdle) d = (.returned reply, d')) :
    d'.agenda.pending = 0 ∧ ∃ recent, d'.journal = recent ++ d.journal ∧
      ∀ task ∈ d.agenda.tasks, task ∈ begunTasks recent := by
  have answer := drives_of_perform (c := .runUntilIdle) trivial depth d
  rw [returned] at answer
  obtain ⟨tasks, drives, -⟩ := answer
  obtain ⟨recent, entries, -⟩ := drives.begun
  have none := drives.emptied
  refine ⟨none, recent, entries, fun task waited => ?_⟩
  have made := perform_made hereditary_all depth (.call .runUntilIdle) d d.employs_all trivial
  rw [returned] at made
  have settled := Run.conserved made conserved
  have after := settled.ledger.accounts settled.union
  rw [Work.settle, note_journal, entries, ← List.cons_append] at after
  -- The accounts let a task that waited before the drive wait or have begun, and none waits any
  -- more.
  rcases (conserved.ledger.accounts conserved.union).waits_or_begun after waited with waits | began
  · rw [note_toBench, Array.eq_empty_of_size_eq_zero none] at waits
    simp at waits
  · exact began

/-- At every point of every history the tasks that have been put down are those that wait and those
that have begun, no task is two of these, and what waited at an earlier point waits or has begun
since; whatever has failed, a drive until no task waits that returns runs them all. A call to put
down a task adds that one task, or is refused and changes nothing. A drive that comes to an end has
begun the tasks that it takes itself, and if it returns, it returns their number. At any desk, also
where a task has just failed, the next one to be taken is the first of the queue, if it is due, and
all others stay. -/
theorem tasks_conserved (depth : Nat) (calls : List Call) (clock : Clock) (sink : Option Conduct)
    (observers : List Conduct) (sleeper : Sleeper) :
    let d := history depth calls (fresh clock sink observers sleeper)
    d.toBench.Accounts d.journal ∧
      Throughout (fun m earlier => m.bench.Accounts (m :: earlier) ∧
        m.event.Places (m.placed earlier)) d.journal ∧
      (∀ recent m earlier, d.journal = recent ++ m :: earlier → ∀ task ∈ m.bench.agenda.tasks,
        task ∈ d.agenda.tasks ∨ task ∈ begunTasks recent) ∧
      (∀ (bound : Nat) (reply : Reply) (d' : Desk),
        perform bound (.call .runUntilIdle) d = (.returned reply, d') →
          d'.agenda.pending = 0 ∧ ∃ recent, d'.journal = recent ++ d.journal ∧
            ∀ task ∈ d.agenda.tasks, task ∈ begunTasks recent) ∧
      (∀ (d₁ : Desk) (c : Call) (bound : Nat), c.IsDrive →
        AnswersWithCount (fun tasks outcome d₂ => d₁.Drives c tasks outcome d₂ ∧ d₁.Begun tasks d₂)
          (perform bound (.call c) d₁)) ∧
      (∀ (d₁ : Desk) (bound : Nat) (delay : Float) (name : Text) (body : List Call),
        let task : Task Action := ⟨d₁.agenda.now + delay, d₁.agenda.issued, name, .script body⟩
        (delay < 0 ∧ perform (bound + 1) (.call (.schedule delay name body)) d₁ =
            (.failed (.agenda (.negativeDelay delay)), d₁)) ∨
          ¬ delay < 0 ∧ ∃ d₂, perform (bound + 1) (.call (.schedule delay name body)) d₁ =
              (.returned (.task task.due task.sequence task.name), d₂) ∧
            d₂.agenda.tasks.toList.Perm (task :: d₁.agenda.tasks.toList) ∧
            d₂.agenda.issued = d₁.agenda.issued + 1) ∧
      ∀ (d₁ : Desk) (reading : Float),
        (∃ task d₂, d₁.agenda.first? = some task ∧ task.due ≤ reading ∧
          d₁.takeDue? reading = some (task, d₂) ∧
          d₁.agenda.tasks.toList.Perm (task :: d₂.agenda.tasks.toList)) ∨
        d₁.takeDue? reading = none ∧ ∀ task ∈ d₁.agenda.first?, ¬ task.due ≤ reading := by
  have run := history_run_fresh depth calls clock sink observers sleeper
  -- The first four clauses come from the invariant of the history, the others hold at any desk.
  have conserved := run.conserved (conserved_fresh clock sink observers sleeper)
  refine ⟨conserved.ledger.accounts conserved.union, conserved.moments, ?_, ?_, ?_, ?_, ?_⟩
  · intro recent m earlier entries task waited
    have after := conserved.ledger.accounts conserved.union
    have moments := conserved.moments
    rw [entries] at after moments
    exact moments.of_append.1.1.waits_or_begun after waited
  · exact fun bound reply d' returned => begun_of_runUntilIdle conserved returned
  · intro d₁ c bound drive
    exact (drives_of_perform drive bound d₁).mono fun drives => ⟨drives, drives.begun⟩
  · exact fun d₁ bound delay name body => d₁.perform_schedule bound delay name body
  · intro d₁ reading
    obtain ⟨task, rest, first, due, taken, others⟩ | ⟨none, undue⟩ :=
      d₁.agenda.takeDue?_first reading
    · exact .inl ⟨task, { d₁ with agenda := rest }, first, due, by rw [takeDue?, taken]; rfl, others⟩
    · exact .inr ⟨by rw [takeDue?, none]; rfl, undue⟩

end Desk

end DryRun
