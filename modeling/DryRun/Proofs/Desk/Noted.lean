import DryRun.Proofs.Agenda.Clock
import DryRun.Proofs.Desk.Depth
import DryRun.Proofs.Desk.Effects

/-!
# What the clock shows has been written down

While outside code is at work at a virtual clock, the last entry of the journal shows the present
reading (`Desk.Noted`): a task that begins, a report and the answer to a call are written down after
the clock was moved, and nobody sleeps on a virtual clock. A drive that moves its clock in the end
is the exception, until its answer is written down. `Desk.Starts.noted` is what is used of this: all
that a task sets off leaves a desk at which the reading has been written down.
-/

set_option autoImplicit false

namespace DryRun

/-- The latest moment was at the present reading, if the clock is a virtual one. -/
def Desk.Noted (d : Desk) : Prop :=
  d.agenda.clock.kind = .virtual →
    ∃ m, d.journal.head? = some m ∧ m.bench.agenda.now = d.agenda.now

namespace Desk

/-- After something was written down the reading is. -/
theorem noted_note (d : Desk) (event : Event) : (d.note event).Noted :=
  fun _ => ⟨_, rfl, rfl⟩

/-- After a task has begun the reading is written down. -/
theorem noted_begin (d : Desk) (task : Task Action) : (d.begin task).2.Noted := by
  have begun := d.begins task
  generalize d.begin task = result at begun ⊢
  cases begun with
  | script => exact d.noted_note _
  | stray => exact d.noted_note _
  | run =>
    rw [finish_snd]
    exact noted_note _ _
  | announcement => exact fun _ => ⟨_, rfl, rfl⟩

/-- After an observer was told the reading is written down. -/
theorem noted_tell (d : Desk) (i run observer : Nat) (report : Report) :
    (d.tell i run observer report).2.Noted := by
  obtain ⟨bench, entry⟩ := d.tell_snd i run observer report
  intro _
  rw [entry, bench]
  exact ⟨_, rfl, rfl⟩

/-- There is nothing to show of a sleep: nobody sleeps on a virtual clock. -/
theorem noted_sleep {d : Desk} {seconds : Float} (early : d.agenda.sleepTime? = some seconds) :
    (d.sleep seconds).2.Noted := by
  intro isVirtual
  have kind : d.agenda.clock.kind = .virtual := by
    rw [← isVirtual]
    exact (Clock.elapse_kind (d.sleeper d.sleeps seconds).turn).symm
  rw [Agenda.sleepTime?, kind] at early
  cases early

end Desk

namespace Work

/-- Work is done in a way that leaves the reading written down: calls that are made in turn and
reports, if it has been before, and all work that fails. -/
structure Notes (next : Performer) : Prop where
  script : ∀ {calls d outcome d'}, d.Noted → next (.script calls) d = (outcome, d') →
    outcome ≠ .unfinished → d'.Noted
  deliver : ∀ {i run report place d outcome d'}, d.Noted →
    next (.deliver i run report place) d = (outcome, d') → outcome ≠ .unfinished → d'.Noted
  call : ∀ {c d failure d'}, d.Noted → next (.call c) d = (.failed failure, d') → d'.Noted
  drainDue : ∀ {ran d failure d'}, next (.drainDue ran) d = (.failed failure, d') → d'.Noted
  drainUntil : ∀ {reading ran d failure d'},
    next (.drainUntil reading ran) d = (.failed failure, d') → d'.Noted
  drainNext : ∀ {d failure d'}, next .drainNext d = (.failed failure, d') → d'.Noted
  drainAll : ∀ {ran d failure d'}, next (.drainAll ran) d = (.failed failure, d') → d'.Noted

variable {next : Performer} {d d' : Desk} {failure : Failure}

/-- A drive that is called fails as the work that it is. -/
theorem notes_reportCount {result : Outcome Nat × Desk}
    (done : reportCount result = (.failed failure, d'))
    (failed : ∀ d₁, result = (.failed failure, d₁) → d₁.Noted) : d'.Noted := by
  obtain ⟨outcome, d₁⟩ := result
  cases outcome with
  | returned => cases done
  | failed =>
    cases done
    exact failed _ rfl
  | unfinished => cases done

/-- A clock that cannot be set stays at the reading that was written down. -/
theorem notes_setClock {turned : Except AgendaError Clock} (noted : d.Noted)
    (done : setClock d turned = (.failed failure, d')) : d'.Noted := by
  cases turned with
  | ok => cases done
  | error =>
    cases done
    exact noted

/-- Work that fails with its first part, or with what follows it. -/
theorem notes_proceed {α β : Type} {part : Outcome α × Desk} {onward : α → Desk → Outcome β × Desk}
    (done : proceed part onward = (.failed failure, d'))
    (first : ∀ d₁, part = (.failed failure, d₁) → d₁.Noted)
    (second : ∀ a d₁, onward a d₁ = (.failed failure, d') → d'.Noted) : d'.Noted := by
  obtain ⟨outcome, d₁⟩ := part
  cases outcome with
  | returned a => exact second a d₁ done
  | failed =>
    cases done
    exact first _ rfl
  | unfinished => cases done

section

variable (notes : Notes next)
include notes

/-- A task that comes to an end leaves the reading written down. -/
theorem notes_start {task : Task Action} {outcome : Outcome Unit}
    (done : start next d task = (outcome, d')) (finished : outcome ≠ .unfinished) : d'.Noted := by
  have noted := d.noted_begin task
  rw [start] at done
  generalize d.begin task = begun at done noted
  obtain ⟨calls | ⟨i, run, report⟩, d₁⟩ := begun
  · exact notes.script noted done finished
  · exact notes.deliver noted done finished

/-- A call that fails leaves the reading written down. -/
theorem notes_answer (noted : d.Noted) {c : Call}
    (done : answer next d c = (.failed failure, d')) : d'.Noted := by
  -- A call that fails at once has moved no clock, so only a drive hands the question to nested
  -- work.
  cases c with
  | schedule delay name body =>
    rw [answer] at done
    split at done <;> cases done
    exact noted
  | fail =>
    cases done
    exact noted
  | advance seconds =>
    rw [answer] at done
    split at done
    · exact notes_reportCount done fun _ => notes.drainUntil
    · cases done
      exact noted
  | moveClock => exact notes_setClock noted done
  | setClock => exact notes_setClock noted done
  | elapse => cases done
  | runDue => exact notes_reportCount done fun _ => notes.drainDue
  | runNext => exact notes_reportCount done fun _ => notes.drainNext
  | runUntilIdle => exact notes_reportCount done fun _ => notes.drainAll
  | openExercise => cases done
  | ask target request =>
    rw [answer] at done
    split at done
    · obtain ⟨-, rfl⟩ := Prod.mk.inj done
      exact noted
    · split at done
      · cases done
        exact noted
      · cases done
  | addObserver target conduct =>
    rw [answer] at done
    split at done
    · cases done
      exact noted
    · cases done
  | look => cases done
  | shielded body =>
    rw [answer] at done
    split at done <;> cases done

/-- Calls that are made in turn leave the reading written down. -/
theorem notes_script (noted : d.Noted) {calls : List Call} {outcome : Outcome Unit}
    (done : step next (.script calls) d = (outcome, d')) (finished : outcome ≠ .unfinished) :
    d'.Noted := by
  cases calls with
  | nil =>
    cases done
    exact noted
  | cons c rest =>
    rw [step_script_cons] at done
    cases first : next (.call c) d with
    | mk ending d₁ =>
      rw [first] at done
      cases ending with
      | returned reply => exact notes.script (d₁.noted_note _) done finished
      | failed =>
        cases done
        exact notes.call noted first
      | unfinished =>
        cases done
        exact absurd rfl finished

/-- Handing out a report leaves the reading written down. -/
theorem notes_deliver (noted : d.Noted) {i run place : Nat} {report : Report}
    {outcome : Outcome Unit} (done : step next (.deliver i run report place) d = (outcome, d'))
    (finished : outcome ≠ .unfinished) : d'.Noted := by
  rw [step_deliver] at done
  cases listens : d.listener? i place with
  | none =>
    rw [listens] at done
    cases done
    exact noted
  | some observer =>
    simp only [listens] at done
    cases told : next (.script (d.tell i run observer report).1)
        (d.tell i run observer report).2 with
    | mk ending d₁ =>
      have heard := notes.script (d.noted_tell i run observer report) told
      rw [told] at done
      -- Whether the observer has failed or not, the next one is told from a desk that is noted.
      cases ending with
      | returned => exact notes.deliver (heard (by simp)) done finished
      | failed => exact notes.deliver (heard (by simp)) done finished
      | unfinished =>
        cases done
        exact absurd rfl finished

/-- If nested work leaves the reading written down so does the work that sets it off. -/
theorem notes_step : Notes (step next) := by
  constructor
  case script =>
    intro calls d outcome d' noted done finished
    exact notes_script notes noted done finished
  case deliver =>
    intro i run report place d outcome d' noted done finished
    exact notes_deliver notes noted done finished
  case call =>
    intro c d failure d' noted done
    exact notes_answer notes noted done
  case drainDue =>
    intro ran d failure d' done
    rw [step_drainDue] at done
    split at done
    · cases done
    · refine notes_proceed done (fun _ started => ?_) fun _ _ => notes.drainDue
      exact notes_start notes started (by simp)
  case drainUntil =>
    intro reading ran d failure d' done
    rw [step_drainUntil] at done
    split at done
    · cases done
    · refine notes_proceed done (fun _ started => ?_) fun _ _ => notes.drainUntil
      exact notes_start notes started (by simp)
  case drainNext =>
    intro d failure d' done
    rw [step_drainNext] at done
    split at done
    · cases done
    · split at done
      · exact notes.drainDue done
      case h_2 seconds early =>
        refine notes_proceed done (fun _ slept => ?_) fun _ _ => notes.drainDue
        exact notes.script (Desk.noted_sleep early) slept (by simp)
  case drainAll =>
    intro ran d failure d' done
    rw [step_drainAll] at done
    split at done
    · cases done
    · exact notes_proceed done (fun _ => notes.drainNext) fun _ _ => notes.drainAll

end

end Work

namespace Desk

/-- Work leaves the reading written down. -/
theorem notes_perform (depth : Nat) : Work.Notes (perform depth) := by
  induction depth with
  | zero =>
    constructor
    case script =>
      intro calls d outcome d' noted done finished
      cases done
      exact noted
    case deliver =>
      intro i run report place d outcome d' noted done finished
      cases done
      exact noted
    all_goals
      intros
      rename_i done
      cases done
  | succ depth ih => exact Work.notes_step ih

/-- When a task has come to its end with all that it sets off, the reading has been written down. -/
theorem Starts.noted {d d' : Desk} {task : Task Action} {outcome : Outcome Unit}
    (starts : d.Starts task outcome d') : d'.Noted := by
  obtain ⟨finished, depth, done⟩ := starts
  exact Work.notes_start (notes_perform depth) done finished

end Desk

end DryRun
