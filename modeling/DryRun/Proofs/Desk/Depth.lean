import DryRun.Desk.Perform
import Mathlib.Order.Filter.AtTopBot.Basic

/-!
# Work that comes to an end

Work is done under a bound on how deep it may be nested. Work that comes to an end under one bound
ends the same under every larger one (`perform_of_le`), so how it ends is a matter of the desk and
the work alone: `Desk.Does` says so without a bound, and `Desk.Does.unique` that there is one such
end. The step of the induction is that `Work.step` makes more of work of which more comes to an end
(`Work.step_extends`).
-/

set_option autoImplicit false

namespace DryRun

namespace Work

/-- Whatever comes to an end in the first way of doing work ends the same in the second. -/
def Extends (next next' : Performer) : Prop :=
  ∀ (w : Work) (d : Desk), (next w d).1 ≠ .unfinished → next' w d = next w d

/-- Go on with the answer of work that has returned. -/
def proceed {α β : Type} (result : Outcome α × Desk) (onward : α → Desk → Outcome β × Desk) :
    Outcome β × Desk :=
  match result with
  | (.returned a, d) => onward a d
  | (.failed failure, d) => (.failed failure, d)
  | (.unfinished, d) => (.unfinished, d)

/-- Go on after work that has returned or failed. -/
def recover {α β : Type} (result : Outcome α × Desk) (onward : Desk → Outcome β × Desk) :
    Outcome β × Desk :=
  match result with
  | (.unfinished, d) => (.unfinished, d)
  | (_, d) => onward d

/-! ## Work and what follows it -/

section

variable {α β : Type} {result result' : Outcome α × Desk}

/-- Work that comes to an end together with what follows it does so in every way of doing work that
extends the first. -/
theorem proceed_congr {onward onward' : α → Desk → Outcome β × Desk}
    (first : result.1 ≠ .unfinished → result' = result)
    (second : ∀ a d, (onward a d).1 ≠ .unfinished → onward' a d = onward a d)
    (finished : (proceed result onward).1 ≠ .unfinished) :
    proceed result' onward' = proceed result onward := by
  obtain ⟨outcome, d⟩ := result
  cases outcome with
  | returned a =>
    rw [first (by simp)]
    exact second a d finished
  | failed =>
    rw [first (by simp)]
    rfl
  | unfinished => exact absurd rfl finished

/-- The same holds where a failure is recovered from. -/
theorem recover_congr {onward onward' : Desk → Outcome β × Desk}
    (first : result.1 ≠ .unfinished → result' = result)
    (second : ∀ d, (onward d).1 ≠ .unfinished → onward' d = onward d)
    (finished : (recover result onward).1 ≠ .unfinished) :
    recover result' onward' = recover result onward := by
  obtain ⟨outcome, d⟩ := result
  cases outcome with
  | returned =>
    rw [first (by simp)]
    exact second d finished
  | failed =>
    rw [first (by simp)]
    exact second d finished
  | unfinished => exact absurd rfl finished

end

/-! ## One piece of work, in these terms -/

section

variable (next : Performer) (d : Desk)

/-- Under a shield calls are answered with nothing, whether they return or fail. -/
theorem answer_shielded (body : List Call) :
    answer next d (.shielded body) =
      recover (next (.script body) d) fun d => (.returned .nothing, d) := by
  rw [answer]
  obtain ⟨outcome, d'⟩ := next (.script body) d
  cases outcome <;> rfl

/-- A script makes its first call, and the others after it has returned. -/
theorem step_script_cons (c : Call) (rest : List Call) :
    step next (.script (c :: rest)) d =
      proceed (next (.call c) d) fun reply d => next (.script rest) (d.note (.answered c reply)) := by
  rw [step]
  obtain ⟨outcome, d'⟩ := next (.call c) d
  cases outcome <;> rfl

/-- A report is handed to the observer at a place, and then to those after. -/
theorem step_deliver (i run place : Nat) (report : Report) :
    step next (.deliver i run report place) d =
      match d.listener? i place with
      | none => (.returned (), d)
      | some observer =>
        recover (next (.script (d.tell i run observer report).1) (d.tell i run observer report).2)
          fun d => next (.deliver i run report (place + 1)) d := by
  rw [step]
  cases d.listener? i place with
  | none => rfl
  | some observer =>
    simp only
    obtain ⟨outcome, d'⟩ := next (.script (d.tell i run observer report).1)
      (d.tell i run observer report).2
    cases outcome <;> rfl

/-- A drive of what is due takes a task that is due now, and goes on. -/
theorem step_drainDue (ran : Nat) :
    step next (.drainDue ran) d =
      match d.takeDue? d.agenda.now with
      | none => (.returned ran, d)
      | some (task, rest) =>
        proceed (start next rest task) fun _ d => next (.drainDue (ran + 1)) d := by
  rw [step]
  cases d.takeDue? d.agenda.now with
  | none => rfl
  | some taken =>
    simp only
    obtain ⟨outcome, d'⟩ := start next taken.2 taken.1
    cases outcome <;> rfl

/-- A drive up to a time takes a task that is due then, and in the end turns the clock. -/
theorem step_drainUntil (reading : Float) (ran : Nat) :
    step next (.drainUntil reading ran) d =
      match d.takeDue? reading with
      | none => (.returned ran, d.moveTo reading)
      | some (task, rest) =>
        proceed (start next (rest.moveTo task.due) task) fun _ d =>
          next (.drainUntil reading (ran + 1)) d := by
  rw [step]
  cases d.takeDue? reading with
  | none => rfl
  | some taken =>
    simp only
    obtain ⟨outcome, d'⟩ := start next (taken.2.moveTo taken.1.due) taken.1
    cases outcome <;> rfl

/-- A wait for the next task sleeps until it is due, and drives what is due then. -/
theorem step_drainNext :
    step next .drainNext d =
      if d.agenda.pending = 0 then (.returned 0, d)
      else
        match d.agenda.sleepTime? with
        | none => next (.drainDue 0) d.await
        | some seconds =>
          proceed (next (.script (d.sleep seconds).1) (d.sleep seconds).2) fun _ d =>
            next (.drainDue 0) d := by
  rw [step]
  split
  · rfl
  cases d.agenda.sleepTime? with
  | none => rfl
  | some seconds =>
    simp only
    obtain ⟨outcome, d'⟩ := next (.script (d.sleep seconds).1) (d.sleep seconds).2
    cases outcome <;> rfl

/-- A drive of all tasks waits for one after the other. -/
theorem step_drainAll (ran : Nat) :
    step next (.drainAll ran) d =
      if d.agenda.pending = 0 then (.returned ran, d)
      else proceed (next .drainNext d) fun count d => next (.drainAll (ran + count)) d := by
  rw [step]
  obtain ⟨outcome, d'⟩ := next .drainNext d
  cases outcome <;> rfl

end

/-! ## More depth -/

section

variable {next next' : Performer} (more : Extends next next')

include more

/-- A call that is answered in the first way is answered the same in the second. -/
theorem answer_extends (c : Call) (d : Desk) (finished : (answer next d c).1 ≠ .unfinished) :
    answer next' d c = answer next d c := by
  -- A drive that is called ends as the work that it is.
  have counted {result result' : Outcome Nat × Desk}
      (same : result.1 ≠ .unfinished → result' = result)
      (finished : (reportCount result).1 ≠ .unfinished) :
      reportCount result' = reportCount result := by
    rw [same]
    rintro unfinished
    simp [reportCount, unfinished, Outcome.map] at finished
  cases c with
  | advance seconds =>
    rw [answer] at finished ⊢
    rw [answer]
    split
    case h_1 => exact counted (more _ _) (by simpa [*] using finished)
    case h_2 => rfl
  | runDue => exact counted (more _ _) finished
  | runNext => exact counted (more _ _) finished
  | runUntilIdle => exact counted (more _ _) finished
  | shielded body =>
    rw [answer_shielded] at finished ⊢
    rw [answer_shielded]
    exact recover_congr (more _ _) (fun _ _ => rfl) finished
  | _ => rfl

/-- A task that comes to an end in the first way ends the same in the second. -/
theorem start_extends (task : Task Action) (d : Desk)
    (finished : (start next d task).1 ≠ .unfinished) : start next' d task = start next d task := by
  rw [start] at finished ⊢
  rw [start]
  generalize d.begin task = begun at finished ⊢
  obtain ⟨sequel, d'⟩ := begun
  cases sequel with
  | script calls => exact more _ _ finished
  | deliver i run report => exact more _ _ finished

/-- If nested work extends, so does the work that sets it off. -/
theorem step_extends : Extends (step next) (step next') := by
  intro w d finished
  -- One case for each kind of work. The part that is performed first has an end as well, so both
  -- performers agree on it, and what follows starts from the same desk.
  cases w with
  | call c => exact answer_extends more c d finished
  | script calls =>
    cases calls with
    | nil => rfl
    | cons c rest =>
      rw [step_script_cons] at finished ⊢
      rw [step_script_cons]
      exact proceed_congr (more _ _) (fun _ _ => more _ _) finished
  | deliver i run report place =>
    rw [step_deliver] at finished ⊢
    rw [step_deliver]
    cases listens : d.listener? i place with
    | none => rfl
    | some observer =>
      simp only [listens] at finished
      exact recover_congr (more _ _) (fun _ => more _ _) finished
  | drainDue ran =>
    rw [step_drainDue] at finished ⊢
    rw [step_drainDue]
    cases taken : d.takeDue? d.agenda.now with
    | none => rfl
    | some result =>
      simp only [taken] at finished
      exact proceed_congr (start_extends more _ _) (fun _ _ => more _ _) finished
  | drainUntil reading ran =>
    rw [step_drainUntil] at finished ⊢
    rw [step_drainUntil]
    cases taken : d.takeDue? reading with
    | none => rfl
    | some result =>
      simp only [taken] at finished
      exact proceed_congr (start_extends more _ _) (fun _ _ => more _ _) finished
  | drainNext =>
    rw [step_drainNext] at finished ⊢
    rw [step_drainNext]
    split
    case isTrue => rfl
    case isFalse waiting =>
      rw [if_neg waiting] at finished
      cases early : d.agenda.sleepTime? with
      | none =>
        simp only [early] at finished
        exact more _ _ finished
      | some seconds =>
        simp only [early] at finished
        exact proceed_congr (more _ _) (fun _ _ => more _ _) finished
  | drainAll ran =>
    rw [step_drainAll] at finished ⊢
    rw [step_drainAll]
    split
    case isTrue => rfl
    case isFalse waiting =>
      rw [if_neg waiting] at finished
      exact proceed_congr (more _ _) (fun _ _ => more _ _) finished

end

end Work

/-! ## The end of work -/

namespace Desk

open Filter

/-- A larger bound extends a smaller one. -/
theorem perform_of_le {depth depth' : Nat} (le : depth ≤ depth') :
    Work.Extends (perform depth) (perform depth') := by
  induction depth generalizing depth' with
  | zero => exact fun w d finished => absurd rfl finished
  | succ depth ih =>
    obtain ⟨more, rfl⟩ := Nat.exists_eq_add_of_lt le
    exact Work.step_extends (ih (Nat.le_add_right depth more))

/-- Work at a desk comes to an end, and how. -/
def Does (d : Desk) (w : Work) (outcome : Outcome w.Answer) (d' : Desk) : Prop :=
  outcome ≠ .unfinished ∧ ∃ depth, perform depth w d = (outcome, d')

/-- What a task is there for comes to an end, and how. -/
def Starts (d : Desk) (task : Task Action) (outcome : Outcome Unit) (d' : Desk) : Prop :=
  outcome ≠ .unfinished ∧ ∃ depth, Work.start (perform depth) d task = (outcome, d')

variable {d d₁ d₂ : Desk}

/-- Work that comes to an end does so under every bound that is great enough. -/
theorem Does.eventually {w : Work} {outcome : Outcome w.Answer} (does : d.Does w outcome d₁) :
    ∀ᶠ depth in atTop, perform depth w d = (outcome, d₁) := by
  obtain ⟨finished, depth, done⟩ := does
  filter_upwards [eventually_ge_atTop depth] with depth' le
  rw [perform_of_le le w d (by rwa [done]), done]

/-- A task that comes to an end does so under every bound that is great enough. -/
theorem Starts.eventually {task : Task Action} {outcome : Outcome Unit}
    (starts : d.Starts task outcome d₁) :
    ∀ᶠ depth in atTop, Work.start (perform depth) d task = (outcome, d₁) := by
  obtain ⟨finished, depth, done⟩ := starts
  filter_upwards [eventually_ge_atTop depth] with depth' le
  rw [Work.start_extends (perform_of_le le) task d (by rwa [done]), done]

/-- Work at a desk ends in one way. -/
theorem Does.unique {w : Work} {outcome outcome' : Outcome w.Answer} (does : d.Does w outcome d₁)
    (does' : d.Does w outcome' d₂) : outcome = outcome' ∧ d₁ = d₂ := by
  obtain ⟨depth, done, done'⟩ := (does.eventually.and does'.eventually).exists
  exact Prod.mk.inj (done.symm.trans done')

end Desk

end DryRun
