import DryRun.Proofs.Desk.Run

/-!
# What becomes of a source text

From one entry of the journal to the next an attempt keeps its exercise, its language and the source
text that it had at first. Its source text changes only with a granted request to reset it, to
replace it or to put something at its end, and then to what the request says
(`Moment.Continues`). Runs, drives, refused requests and requests to clear the log therefore leave
it as it is. `Step.traced` is the step, and nothing changes after the last entry either.
-/

set_option autoImplicit false

namespace DryRun

/-- What may have become of an attempt when something has happened at a bench. -/
structure Attempt.Succeeds (event : Event) (b : Bench) (i : Nat) (a₀ a : Attempt) : Prop where
  exercise : a.exercise = a₀.exercise
  language : a.language = a₀.language
  initial : a.initial = a₀.initial
  source : a.source = a₀.source ∨ ∃ target request change,
    event = .answered (.ask target request) (.granted true) ∧
      target.getD (b.attempts.size - 1) = i ∧ request.change? = some change ∧
      request ≠ .clearLog ∧ a.source = (change a₀).source

/-- The attempts as they were when something last happened. -/
def lastAttempts : List Moment → Array Attempt
  | [] => #[]
  | m :: _ => m.bench.attempts

/-- The attempts at a moment are those of the moment before, with what may have become of them. -/
def Moment.Continues (m : Moment) (earlier : List Moment) : Prop :=
  ∀ (i : Nat) (a₀ : Attempt), (lastAttempts earlier)[i]? = some a₀ →
    ∃ a : Attempt, m.bench.attempts[i]? = some a ∧ Attempt.Succeeds m.event m.bench i a₀ a

/-- An attempt that keeps all but its phase and its grade may have come of itself. -/
theorem Attempt.Succeeds.of_source {event : Event} {b : Bench} {i : Nat} {a₀ a : Attempt}
    (same : a = { a₀ with phase := a.phase, grade := a.grade, observers := a.observers }) :
    Attempt.Succeeds event b i a₀ a := by
  rw [same]
  exact ⟨rfl, rfl, rfl, .inl rfl⟩

namespace Desk

variable {P : Call → Prop} {d d' : Desk}

/-- The journal tells what has become of every attempt up to now. -/
structure Traced (d : Desk) : Prop where
  current : d.attempts = lastAttempts d.journal
  moments : Throughout Moment.Continues d.journal

namespace Traced

/-- Nothing is written down and no attempt changes. -/
theorem still (traced : d.Traced) (journal : d'.journal = d.journal)
    (attempts : d'.attempts = d.attempts) : d'.Traced := by
  constructor
  · rw [attempts, journal]
    exact traced.current
  · rw [journal]
    exact traced.moments

/-- Something is written down. -/
theorem enter (traced : d.Traced) (event : Event)
    (journal : d'.journal = ⟨event, d'.toBench⟩ :: d.journal)
    (attempts : ∀ (i : Nat) (a₀ : Attempt), d.attempts[i]? = some a₀ →
      ∃ a : Attempt, d'.attempts[i]? = some a ∧ Attempt.Succeeds event d'.toBench i a₀ a) :
    d'.Traced := by
  constructor
  · rw [journal]
    rfl
  · rw [journal]
    refine ⟨fun i a₀ found => ?_, traced.moments⟩
    rw [← traced.current] at found
    exact attempts i a₀ found

/-- An event that leaves the attempts is traced. -/
theorem same (traced : d.Traced) (event : Event)
    (journal : d'.journal = ⟨event, d'.toBench⟩ :: d.journal)
    (attempts : d'.attempts = d.attempts) : d'.Traced := by
  refine traced.enter event journal fun i a₀ found => ⟨a₀, ?_, .of_source rfl⟩
  rw [attempts]
  exact found

/-- An event that changes one attempt as may become of it is traced. -/
theorem modify (traced : d.Traced) (event : Event)
    (journal : d'.journal = ⟨event, d'.toBench⟩ :: d.journal) (i : Nat) (change : Attempt → Attempt)
    (attempts : ∀ k, d'.attempts[k]? = if i = k then d.attempts[k]?.map change else d.attempts[k]?)
    (own : ∀ a, d.attempts[i]? = some a → Attempt.Succeeds event d'.toBench i a (change a)) :
    d'.Traced := by
  refine traced.enter event journal fun k a₀ found => ?_
  rw [attempts]
  by_cases same : i = k
  · subst same
    exact ⟨change a₀, by rw [if_pos rfl, found]; rfl, own a₀ found⟩
  · exact ⟨a₀, by rw [if_neg same, found], .of_source rfl⟩

end Traced

/-- A task that begins is traced. -/
theorem traced_begin (traced : d.Traced) (task : Task Action) : (d.begin task).2.Traced := by
  have noted : (d.note (.began task)).Traced := traced.same _ rfl rfl
  have begun := d.begins task
  generalize d.begin task = result at begun ⊢
  cases begun with
  | script => exact noted
  | stray => exact noted
  | @run i a =>
    exact noted.modify _ (finish_journal _ _ _ _) i Attempt.finish (finish_getElem? _ _ _ _)
      fun _ _ => .of_source rfl
  | @announcement i run a sink =>
    have announced : ((d.note (.began task)).note (.announced i a.exercise)).Traced :=
      noted.same _ rfl rfl
    exact announced.still rfl rfl

/-- A step is traced. -/
theorem Step.traced (step : d.Step P d') (traced : d.Traced) : d'.Traced := by
  cases step with
  | schedule => exact traced.same _ rfl rfl
  | turn => exact traced.same _ rfl rfl
  | openExercise =>
    refine traced.enter _ rfl fun i a₀ found => ⟨a₀, ?_, .of_source rfl⟩
    have inside := (Array.getElem?_eq_some_iff.mp found).1
    show (d.attempts.push _)[i]? = some a₀
    rw [Array.getElem?_push_lt inside, ← found, Array.getElem?_eq_getElem inside]
  | @launch target i a aimed found idle =>
    rw [launch_snd d i idle]
    refine Traced.same ?_ _ rfl rfl
    exact traced.modify _ rfl i Attempt.start (d.modify_getElem? i _) fun _ _ => .of_source rfl
  | @edit target request change i a changes aimed found idle =>
    refine traced.modify _ rfl i change (d.modify_getElem? i _) fun a' _ => ?_
    obtain ⟨source, grade, changed, -⟩ := Request.change?_eq_some changes a'
    -- Clearing the log is the only edit that keeps the source.
    by_cases clearing : request = .clearLog
    · subst clearing
      cases changes
      exact .of_source rfl
    · have latest : target.getD ((d.modify i change).attempts.size - 1) = i := by
        simpa [Desk.modify] using aim_eq_ok aimed
      refine ⟨?_, ?_, ?_, .inr ⟨target, request, change, rfl, latest, changes, clearing, rfl⟩⟩
      all_goals rw [changed]
  | @addObserver target conduct i =>
    exact traced.modify _ rfl i _ (d.modify_getElem? i _) fun _ _ => .of_source rfl
  | answer => exact traced.same _ rfl rfl
  | @begin reading task rest taken =>
    have taking := (moveTo_of_takeDue? taken).2
    exact traced_begin (traced.still (by rw [taking]) (by rw [taking])) task
  | @tell i run place observer report =>
    obtain ⟨bench, entry⟩ := d.tell_snd i run observer report
    refine traced.same (.reported i run observer report) ?_ ?_
    · rw [entry, bench]
    · rw [bench]
  | doze => exact traced.same _ rfl rfl
  | wake => exact traced.still rfl rfl
  | move => exact traced.still rfl rfl

/-- A run of steps is traced. -/
theorem Run.traced (run : d.Run P d') (traced : d.Traced) : d'.Traced :=
  run.keeps traced fun step => step.traced

/-- At a fresh desk there is nothing to trace. -/
theorem traced_fresh (clock : Clock) (sink : Option Conduct) (observers : List Conduct)
    (sleeper : Sleeper) : (fresh clock sink observers sleeper).Traced :=
  ⟨rfl, trivial⟩

end Desk

end DryRun
