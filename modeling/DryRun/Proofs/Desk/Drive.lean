import DryRun.Proofs.Desk.Depth
import DryRun.Proofs.Desk.Run

/-!
# Drives

A drive takes tasks from the agenda one after the other; each of them begins, and all that it sets
off is done before the next one is taken. `Takes` and `Drives` say which tasks a drive takes itself.
Tasks that are taken by other drives, which a task calls in its turn, are no part of that: they are
inside of what the task sets off. Neither relation counts anything.

`drives_of_perform` says that every drive that comes to an end takes tasks in this way and, where it
returns, returns their number.
-/

set_option autoImplicit false

namespace DryRun

/-- Whether a call is one for a drive. -/
def Call.IsDrive : Call → Prop
  | .advance _ | .runDue | .runNext | .runUntilIdle => True
  | _ => False

namespace Desk

/-- The tasks that are taken one after the other, in this order, while the next one is due at a
given reading or, where none is given, at the present one. A task that fails is the last one; if
none does, the clock is set to the given reading in the end. -/
inductive Takes (limit : Option Float) :
    Desk → List (Task Action) → Outcome Unit → Desk → Prop where
  | stop {d} (undue : d.takeDue? (limit.getD d.agenda.now) = none) :
      Takes limit d [] (.returned ()) (limit.elim d d.moveTo)
  | next {d task rest d₁ tasks outcome d'}
      (taken : d.takeDue? (limit.getD d.agenda.now) = some (task, rest))
      (started : (rest.moveTo task.due).Starts task (.returned ()) d₁)
      (others : Takes limit d₁ tasks outcome d') : Takes limit d (task :: tasks) outcome d'
  | fail {d task rest failure d'}
      (taken : d.takeDue? (limit.getD d.agenda.now) = some (task, rest))
      (started : (rest.moveTo task.due).Starts task (.failed failure) d') :
      Takes limit d [task] (.failed failure) d'

/-- The tasks that a drive takes itself. -/
inductive Drives : Desk → Call → List (Task Action) → Outcome Unit → Desk → Prop where
  | advance {d : Desk} {seconds tasks outcome d'} (movable : d.agenda.clock.kind = .virtual)
      (takes : d.Takes (some (d.agenda.now + seconds)) tasks outcome d') :
      Drives d (.advance seconds) tasks outcome d'
  | advanceRefuse {d : Desk} {seconds} (immovable : d.agenda.clock.kind ≠ .virtual) :
      Drives d (.advance seconds) [] (.failed (.agenda .needsVirtualClock)) d
  | runDue {d : Desk} {tasks outcome d'} (takes : d.Takes none tasks outcome d') :
      Drives d .runDue tasks outcome d'
  | runNextIdle {d : Desk} (idle : d.agenda.pending = 0) : Drives d .runNext [] (.returned ()) d
  | runNext {d : Desk} {tasks outcome d'} (busy : d.agenda.pending ≠ 0)
      (awake : d.agenda.sleepTime? = none) (takes : d.await.Takes none tasks outcome d') :
      Drives d .runNext tasks outcome d'
  | runNextAfter {d : Desk} {seconds d₁ tasks outcome d'} (busy : d.agenda.pending ≠ 0)
      (early : d.agenda.sleepTime? = some seconds)
      (slept : (d.sleep seconds).2.Does (.script (d.sleep seconds).1) (.returned ()) d₁)
      (takes : d₁.Takes none tasks outcome d') : Drives d .runNext tasks outcome d'
  | runNextFail {d : Desk} {seconds failure d'} (busy : d.agenda.pending ≠ 0)
      (early : d.agenda.sleepTime? = some seconds)
      (slept : (d.sleep seconds).2.Does (.script (d.sleep seconds).1) (.failed failure) d') :
      Drives d .runNext [] (.failed failure) d'
  | runUntilIdleStop {d : Desk} (idle : d.agenda.pending = 0) :
      Drives d .runUntilIdle [] (.returned ()) d
  | runUntilIdle {d : Desk} {tasks d₁ others outcome d'} (busy : d.agenda.pending ≠ 0)
      (first : Drives d .runNext tasks (.returned ()) d₁)
      (onward : Drives d₁ .runUntilIdle others outcome d') :
      Drives d .runUntilIdle (tasks ++ others) outcome d'
  | runUntilIdleFail {d : Desk} {tasks failure d'} (busy : d.agenda.pending ≠ 0)
      (first : Drives d .runNext tasks (.failed failure) d') :
      Drives d .runUntilIdle tasks (.failed failure) d'

/-! ## Drives return what they take -/

/-- Work has ended after tasks were taken in a certain way, and if it returned a number, it is that
of the tasks on top of an earlier one. -/
def Counts (takes : List (Task Action) → Outcome Unit → Desk → Prop) (ran : Nat) :
    Outcome Nat × Desk → Prop
  | (.returned count, d) => ∃ tasks, takes tasks (.returned ()) d ∧ count = ran + tasks.length
  | (.failed failure, d) => ∃ tasks, takes tasks (.failed failure) d
  | (.unfinished, _) => True

namespace Counts

variable {takes takes' : List (Task Action) → Outcome Unit → Desk → Prop} {ran : Nat}
  {result : Outcome Nat × Desk}

/-- Some tasks have been taken before. -/
theorem after (first : List (Task Action)) (counts : Counts takes (ran + first.length) result)
    (onward : ∀ {tasks outcome d'}, takes tasks outcome d' → takes' (first ++ tasks) outcome d') :
    Counts takes' ran result := by
  obtain ⟨outcome, d'⟩ := result
  cases outcome with
  | returned count =>
    obtain ⟨tasks, taken, number⟩ := counts
    refine ⟨first ++ tasks, onward taken, ?_⟩
    rw [number, List.length_append]
    omega
  | failed failure =>
    obtain ⟨tasks, taken⟩ := counts
    exact ⟨first ++ tasks, onward taken⟩
  | unfinished => trivial

/-- A count holds of every way of taking tasks that includes the first. -/
theorem mono (counts : Counts takes ran result)
    (onward : ∀ {tasks outcome d'}, takes tasks outcome d' → takes' tasks outcome d') :
    Counts takes' ran result :=
  counts.after [] onward

/-- Work goes on after a part that has returned, or ends with the failure of that part. -/
theorem proceed {α : Type} {part : Outcome α × Desk} {onward : α → Desk → Outcome Nat × Desk}
    (returned : ∀ a d', part = (.returned a, d') → Counts takes ran (onward a d'))
    (failed : ∀ failure d', part = (.failed failure, d') →
      ∃ tasks, takes tasks (.failed failure) d') :
    Counts takes ran (Work.proceed part onward) := by
  obtain ⟨outcome, d'⟩ := part
  cases outcome with
  | returned a => exact returned a d' rfl
  | failed failure => exact failed failure d' rfl
  | unfinished => trivial

end Counts

/-- A loop that takes tasks while the next one is due counts the tasks that it takes. -/
theorem takes_of_loop {limit : Option Float} (loop : Nat → Nat → Desk → Outcome Nat × Desk)
    (stuck : ∀ ran d, loop 0 ran d = (.unfinished, d))
    (goesOn : ∀ depth ran d, loop (depth + 1) ran d =
      match d.takeDue? (limit.getD d.agenda.now) with
      | none => (.returned ran, limit.elim d d.moveTo)
      | some (task, rest) =>
        Work.proceed (Work.start (perform depth) (rest.moveTo task.due) task) fun _ d =>
          loop depth (ran + 1) d)
    (depth ran : Nat) (d : Desk) : Counts (d.Takes limit) ran (loop depth ran d) := by
  induction depth generalizing ran d with
  | zero =>
    rw [stuck]
    trivial
  | succ depth ih =>
    rw [goesOn]
    cases taken : d.takeDue? (limit.getD d.agenda.now) with
    | none => exact ⟨[], .stop taken, rfl⟩
    | some result =>
      refine .proceed (fun _ d₁ done => ?_) fun failure d₁ done => ?_
      · exact (ih (ran + 1) d₁).after [result.1] (.next taken ⟨by simp, depth, done⟩)
      · exact ⟨[result.1], .fail taken ⟨by simp, depth, done⟩⟩

/-- A drive of what is due takes tasks and counts them. -/
theorem takes_of_drainDue (depth ran : Nat) (d : Desk) :
    Counts (d.Takes none) ran (perform depth (.drainDue ran) d) := by
  refine takes_of_loop (fun depth ran d => perform depth (.drainDue ran) d)
    (fun _ _ => rfl) (fun depth ran d => ?_) depth ran d
  rw [perform, Work.step_drainDue]
  cases taken : d.takeDue? d.agenda.now with
  | none => simp [taken]
  | some result =>
    simp only [Option.getD_none, taken]
    rw [Work.moveTo_of_due taken]

/-- A drive up to a time takes tasks and counts them. -/
theorem takes_of_drainUntil (depth : Nat) (reading : Float) (ran : Nat) (d : Desk) :
    Counts (d.Takes (some reading)) ran (perform depth (.drainUntil reading ran) d) := by
  refine takes_of_loop (fun depth ran d => perform depth (.drainUntil reading ran) d)
    (fun _ _ => rfl) (fun depth ran d => ?_) depth ran d
  rw [perform, Work.step_drainUntil]
  rfl

/-- A wait for the next task takes tasks and counts them. -/
theorem drives_of_drainNext (depth : Nat) (d : Desk) :
    Counts (d.Drives .runNext) 0 (perform depth .drainNext d) := by
  cases depth with
  | zero => trivial
  | succ depth =>
    rw [perform, Work.step_drainNext]
    split
    case isTrue idle => exact ⟨[], .runNextIdle idle, rfl⟩
    case isFalse busy =>
      cases early : d.agenda.sleepTime? with
      | none => exact (takes_of_drainDue depth 0 d.await).mono (.runNext busy early)
      | some seconds =>
        refine .proceed (fun _ d₁ slept => ?_) fun failure d₁ slept => ?_
        · exact (takes_of_drainDue depth 0 d₁).mono
            (.runNextAfter busy early ⟨by simp, depth, slept⟩)
        · exact ⟨[], .runNextFail busy early ⟨by simp, depth, slept⟩⟩

/-- A drive of all tasks takes tasks and counts them. -/
theorem drives_of_drainAll (depth ran : Nat) (d : Desk) :
    Counts (d.Drives .runUntilIdle) ran (perform depth (.drainAll ran) d) := by
  induction depth generalizing ran d with
  | zero => trivial
  | succ depth ih =>
    rw [perform, Work.step_drainAll]
    split
    case isTrue idle => exact ⟨[], .runUntilIdleStop idle, rfl⟩
    case isFalse busy =>
      have first := drives_of_drainNext depth d
      refine .proceed (fun count d₁ done => ?_) fun failure d₁ done => ?_
      · rw [done] at first
        obtain ⟨tasks, first, number⟩ := first
        rw [number, Nat.zero_add]
        exact (ih (ran + tasks.length) d₁).after tasks (.runUntilIdle busy first)
      · rw [done] at first
        obtain ⟨tasks, first⟩ := first
        exact ⟨tasks, .runUntilIdleFail busy first⟩

/-- A call has ended after tasks were taken in a certain way, and if it was answered, then with
their number. -/
def AnswersWithCount (takes : List (Task Action) → Outcome Unit → Desk → Prop) :
    Outcome Reply × Desk → Prop
  | (.returned reply, d) => ∃ tasks, takes tasks (.returned ()) d ∧ reply = .ran tasks.length
  | (.failed failure, d) => ∃ tasks, takes tasks (.failed failure) d
  | (.unfinished, _) => True

/-- A call for a drive is answered with its count. -/
theorem Counts.reportCount {takes : List (Task Action) → Outcome Unit → Desk → Prop}
    {result : Outcome Nat × Desk} (counts : Counts takes 0 result) :
    AnswersWithCount takes (Work.reportCount result) := by
  obtain ⟨outcome, d'⟩ := result
  cases outcome with
  | returned count =>
    obtain ⟨tasks, taken, number⟩ := counts
    exact ⟨tasks, taken, by rw [number, Nat.zero_add]⟩
  | failed failure => exact counts
  | unfinished => trivial

/-- An answer holds of every way of taking tasks that includes the first. -/
theorem AnswersWithCount.mono {takes takes' : List (Task Action) → Outcome Unit → Desk → Prop}
    {result : Outcome Reply × Desk} (answers : AnswersWithCount takes result)
    (onward : ∀ {tasks outcome d}, takes tasks outcome d → takes' tasks outcome d) :
    AnswersWithCount takes' result := by
  obtain ⟨outcome, d'⟩ := result
  cases outcome with
  | returned reply =>
    obtain ⟨tasks, taken, number⟩ := answers
    exact ⟨tasks, onward taken, number⟩
  | failed failure =>
    obtain ⟨tasks, taken⟩ := answers
    exact ⟨tasks, onward taken⟩
  | unfinished => trivial

/-- Every drive that comes to an end takes tasks itself, and if it returns, it returns their
number. -/
theorem drives_of_perform {c : Call} (drive : c.IsDrive) (depth : Nat) (d : Desk) :
    AnswersWithCount (d.Drives c) (perform depth (.call c) d) := by
  cases depth with
  | zero => trivial
  | succ depth =>
    rw [perform]
    cases c with
    | advance seconds =>
      have takes := takes_of_drainUntil depth (d.agenda.now + seconds) 0 d
      rw [Work.step, Work.answer]
      split
      case h_1 movable =>
        have drives : Counts (d.Drives (.advance seconds)) 0 _ := takes.mono (.advance movable)
        exact drives.reportCount
      case h_2 immovable => exact ⟨[], .advanceRefuse immovable⟩
    | runDue =>
      have drives : Counts (d.Drives .runDue) 0 _ := (takes_of_drainDue depth 0 d).mono .runDue
      exact drives.reportCount
    | runNext => exact (drives_of_drainNext depth d).reportCount
    | runUntilIdle => exact (drives_of_drainAll depth 0 d).reportCount
    | _ => exact drive.elim

/-! ## The journal of a drive -/

/-- That nothing is asked of calls is passed on to what they carry. -/
theorem hereditary_all : Call.Hereditary fun _ => True := by constructor <;> simp

/-- Every desk employs some calls or other. -/
theorem employs_all (d : Desk) : d.Employs fun _ => True := by constructor <;> simp

variable {d d' : Desk}

/-- Calls that are made come to their end in steps. -/
theorem Does.run {calls : List Call} {outcome : Outcome Unit}
    (does : d.Does (.script calls) outcome d') : d.Run (fun _ => True) d' := by
  obtain ⟨-, depth, done⟩ := does
  have made := perform_made hereditary_all depth (.script calls) d d.employs_all (by simp [Work.Allowed])
  rw [done] at made
  exact made

/-- What a task sets off is a run of steps. -/
theorem Starts.run {task : Task Action} {outcome : Outcome Unit}
    (starts : d.Starts task outcome d') : (d.begin task).2.Run (fun _ => True) d' := by
  obtain ⟨finished, depth, done⟩ := starts
  have allowed := (d.employs_all.begin task (by simp)).2
  rw [Work.start] at done
  generalize d.begin task = begun at done allowed ⊢
  obtain ⟨sequel, d₁⟩ := begun
  cases sequel with
  | script calls => exact Does.run ⟨finished, depth, done⟩
  | deliver i run report =>
    have made := perform_made hereditary_all depth (.deliver i run report 0) d₁ d₁.employs_all allowed
    simp only at done
    rw [done] at made
    exact made

/-- A task that begins is written down first. -/
theorem begin_journal (d : Desk) (task : Task Action) :
    ∃ more, (d.begin task).2.journal = more ++ ⟨.began task, d.toBench⟩ :: d.journal := by
  have begun := d.begins task
  generalize d.begin task = result at begun ⊢
  cases begun with
  | script => exact ⟨[], rfl⟩
  | stray => exact ⟨[], rfl⟩
  | run => exact ⟨[_], finish_journal _ _ _ _⟩
  | announcement => exact ⟨[_], rfl⟩

end Desk

end DryRun
