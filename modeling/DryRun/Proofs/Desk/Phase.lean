import DryRun.Proofs.Desk.Run
import DryRun.Proofs.Desk.Waiting

/-!
# The phase of an attempt and the agenda

An attempt is compiling exactly while one task waits to let its run take place, and idle exactly
while none does; while it is compiling nothing of an earlier run is left, and what a finished run
leaves behind is a log and a verdict. `attempts_coherent` says so of every attempt at every point
of every history at which outside code can look, together with the refusal of every request to
change an attempt that is compiling.

The invariant `Bench.Coherent` counts the tasks that wait for an attempt. An idle attempt has none,
so a run that it starts is the only one; a task that is taken was the only one, so the attempt that
it leaves idle has none. Nothing but the start of a run puts such a task down, and nothing but the
beginning of one takes it away.
-/

set_option autoImplicit false

namespace DryRun

/-- The phase of an attempt and what it shows fit each other and the number of tasks that wait to
let its run take place. -/
structure Attempt.Coherent (a : Attempt) (waiting : Nat) : Prop where
  settled : a.phase = .idle ∨ a.phase = .compiling
  compiling : a.phase = .compiling ↔ waiting = 1
  idle : a.phase = .idle ↔ waiting = 0
  cleared : a.phase = .compiling → a.log = [] ∧ a.verdict = none ∧ a.predicted = none
  graded : a.phase = .idle → (a.log = [] ↔ a.verdict = none)
  judged : a.phase = .idle → a.predicted ≠ none → a.verdict ≠ none

/-- There is a log to every run. -/
theorem Grade.log_ofSource_ne_nil (language : Language) (expected : Option Text) (source : Text) :
    (Grade.ofSource language expected source).log ≠ [] := by
  unfold Grade.ofSource
  split
  · simp only [Grade.ofOutput, Transcript.ofOutput]
    split
    · simp
    · simp
    · simp_all
  · simp [Grade.ofFailure, Transcript.ofFailure]

namespace Attempt

variable {a : Attempt}

/-- An idle attempt with nothing waiting is coherent. -/
theorem coherent_idle (idle : a.phase = .idle) (logged : ∀ g, a.grade = some g → g.log ≠ []) :
    a.Coherent 0 := by
  constructor
  · exact .inl idle
  · simp [idle]
  · simp [idle]
  · simp [idle]
  · intro _
    cases grade : a.grade with
    | none => simp [log, verdict, grade]
    | some g => simp [log, verdict, grade, logged g grade]
  · intro _
    cases grade : a.grade <;> simp [predicted, verdict, grade]

/-- An attempt without a grade whose run is under way is coherent with one run that waits. -/
theorem coherent_compiling (compiling : a.phase = .compiling) (cleared : a.grade = none) :
    a.Coherent 1 := by
  constructor <;> simp [compiling, log, verdict, predicted, cleared]

/-- The grade of an idle attempt has a log. -/
theorem Coherent.logged {waiting : Nat} (coherent : a.Coherent waiting) (idle : a.phase = .idle)
    (g : Grade) (grade : a.grade = some g) : g.log ≠ [] := by
  have graded := coherent.graded idle
  simp only [log, verdict, grade, Option.map_some, Option.getD_some, reduceCtorEq, iff_false]
    at graded
  exact graded

end Attempt

/-- Every attempt of a bench is coherent, and no task waits for an attempt that is not there. -/
structure Bench.Coherent (b : Bench) : Prop where
  known : ∀ (i : Nat) (a : Attempt), b.attempts[i]? = some a →
    a.Coherent (b.waiting (Action.isCompile i))
  unknown : ∀ i, b.attempts[i]? = none → b.waiting (Action.isCompile i) = 0

namespace Bench.Coherent

variable {b b' : Bench}

/-- The attempts and the tasks that wait for their runs are all that matters. -/
theorem congr (coherent : b.Coherent) (attempts : b'.attempts = b.attempts)
    (waiting : ∀ i, b'.waiting (Action.isCompile i) = b.waiting (Action.isCompile i)) :
    b'.Coherent := by
  constructor
  · intro i a found
    rw [waiting]
    exact coherent.known i a (attempts ▸ found)
  · intro i found
    rw [waiting]
    exact coherent.unknown i (attempts ▸ found)

/-- One attempt changes, and the number of tasks that wait for it. -/
theorem modify (coherent : b.Coherent) (i : Nat) (change : Attempt → Attempt)
    (attempts : ∀ k, b'.attempts[k]? = if i = k then b.attempts[k]?.map change else b.attempts[k]?)
    (others : ∀ k, i ≠ k → b'.waiting (Action.isCompile k) = b.waiting (Action.isCompile k))
    (own : ∀ a, b.attempts[i]? = some a → (change a).Coherent (b'.waiting (Action.isCompile i)))
    (absent : b.attempts[i]? = none → b'.waiting (Action.isCompile i) = 0) : b'.Coherent := by
  constructor
  · intro k a found
    rw [attempts] at found
    by_cases same : i = k
    · subst same
      rw [if_pos rfl, Option.map_eq_some_iff] at found
      obtain ⟨a', found, rfl⟩ := found
      exact own a' found
    · rw [if_neg same] at found
      rw [others k same]
      exact coherent.known k a found
  · intro k found
    rw [attempts] at found
    by_cases same : i = k
    · subst same
      rw [if_pos rfl, Option.map_eq_none_iff] at found
      exact absent found
    · rw [if_neg same] at found
      rw [others k same]
      exact coherent.unknown k found

/-- An attempt is added for which no task waits. -/
theorem push (coherent : b.Coherent) {a : Attempt} (attempts : b'.attempts = b.attempts.push a)
    (waiting : ∀ i, b'.waiting (Action.isCompile i) = b.waiting (Action.isCompile i))
    (new : a.Coherent 0) : b'.Coherent := by
  constructor
  · intro i a' found
    rw [attempts, Array.getElem?_push] at found
    rw [waiting]
    split at found
    case isTrue last =>
      cases found
      rw [coherent.unknown i (by simp [last])]
      exact new
    case isFalse => exact coherent.known i a' found
  · intro i found
    rw [attempts, Array.getElem?_push] at found
    rw [waiting]
    split at found
    case isTrue => cases found
    case isFalse => exact coherent.unknown i found

end Bench.Coherent

namespace Desk

variable {P : Call → Prop} {d d' : Desk}

/-- A task that begins leaves all attempts coherent. -/
theorem coherent_begin {reading : Float} {task : Task Action} {rest : Desk}
    (taken : d.takeDue? reading = some (task, rest)) (coherent : d.toBench.Coherent) :
    ((rest.moveTo task.due).begin task).2.toBench.Coherent := by
  have waiting (i : Nat) := waiting_taken (Action.isCompile i) taken
  have attempts : (rest.moveTo task.due).attempts = d.attempts := by
    rw [(moveTo_of_takeDue? taken).2]
  have begun := (rest.moveTo task.due).begins task
  generalize rest.moveTo task.due = d₁ at waiting attempts begun ⊢
  generalize d₁.begin task = result at begun ⊢
  cases begun with
  | script action =>
    exact coherent.congr attempts fun i => by simp [waiting, action, Action.isCompile]
  -- The run of an unknown attempt cannot have waited, and an announcement touches no attempt.
  | stray action =>
    refine coherent.congr attempts fun i => ?_
    rcases action with ⟨j, action, absent⟩ | ⟨j, run, action, -⟩
    · have none := coherent.unknown j (attempts ▸ absent)
      simp [waiting, action, Action.isCompile] at none
    · simp [waiting, action, Action.isCompile]
  | @run i a action known =>
    rw [attempts] at known
    have left (k : Nat) :
        ((d₁.note (.began task)).finish i task.sequence a).2.waiting (Action.isCompile k) =
          d₁.waiting (Action.isCompile k) :=
      waiting_finish _ _ _ _ _ rfl
    have own := coherent.known i a known
    have only : d.waiting (Action.isCompile i) = d₁.waiting (Action.isCompile i) + 1 := by
      simp [waiting, action, Action.isCompile]
    refine coherent.modify i Attempt.finish ?_ ?_ ?_ ?_
    · intro k
      rw [finish_getElem?, note_toBench, attempts]
    · intro k other
      rw [left, waiting]
      simp [action, Action.isCompile, other]
    · intro a' _
      -- The attempt was compiling, since a run of it waited. That run was the only one.
      have none : d₁.waiting (Action.isCompile i) = 0 := by
        rcases own.settled with idle | compiling
        · have := own.idle.mp idle
          omega
        · have := own.compiling.mp compiling
          omega
      rw [left, none]
      refine Attempt.coherent_idle rfl ?_
      rintro g ⟨⟩
      exact Grade.log_ofSource_ne_nil _ _ _
    · intro absent
      rw [known] at absent
      cases absent
  | announcement action =>
    exact coherent.congr attempts fun i => by simp [waiting, action, Action.isCompile]

/-- A run of an idle attempt is started: its task is the only one that waits. -/
theorem coherent_launch (coherent : d.toBench.Coherent) {i : Nat} {a : Attempt}
    (found : d.attempts[i]? = some a) (idle : a.isIdle = true) :
    (d.launch i a).2.toBench.Coherent := by
  have waiting (k : Nat) := (d.modify i Attempt.start).waiting_put (Action.isCompile k)
    a.language.compileDelay (taskName a.exercise "compile") (.compile i)
  have none := (coherent.known i a found).idle.mp (a.isIdle_iff.mp idle)
  rw [launch_snd d i idle]
  refine coherent.modify i Attempt.start (d.modify_getElem? i _) ?_ ?_ ?_
  · intro k other
    have same := waiting k
    simp only [Action.isCompile, beq_iff_eq, other, if_false] at same
    exact same
  · intro a' _
    have one := waiting i
    have before : (d.modify i Attempt.start).waiting (Action.isCompile i) = 0 := none
    simp only [Action.isCompile, beq_self_eq_true, if_true, before, Nat.zero_add] at one
    have started := Attempt.coherent_compiling (a := a'.start) rfl rfl
    rw [← one] at started
    exact started
  · intro absent
    rw [found] at absent
    cases absent

/-- A request changes an idle attempt, which stays idle. -/
theorem coherent_edit (coherent : d.toBench.Coherent) {request : Request}
    {change : Attempt → Attempt} (changes : request.change? = some change) {i : Nat} {a : Attempt}
    (found : d.attempts[i]? = some a) (idle : a.isIdle = true) :
    (d.modify i change).toBench.Coherent := by
  refine coherent.modify i change (d.modify_getElem? i _) ?_ ?_ ?_
  · exact fun _ _ => rfl
  · intro a' found'
    rw [found] at found'
    cases found'
    have idle := a.isIdle_iff.mp idle
    have own := coherent.known i a found
    obtain ⟨source, grade, same, kept⟩ := Request.change?_eq_some changes a
    have none := own.idle.mp idle
    have changed : (change a).Coherent 0 := by
      rw [same]
      refine Attempt.coherent_idle idle ?_
      rcases kept with rfl | rfl
      · exact own.logged idle
      · rintro g ⟨⟩
    rw [← none] at changed
    exact changed
  · exact coherent.unknown i

/-- A step leaves all attempts coherent. -/
theorem Step.coherent (step : d.Step P d') (coherent : d.toBench.Coherent) :
    d'.toBench.Coherent := by
  cases step with
  | schedule _ placed => exact coherent.congr rfl fun i => waiting_schedule _ placed rfl
  | turn => exact coherent.congr rfl fun _ => rfl
  | openExercise =>
    exact coherent.push rfl (fun _ => rfl) (Attempt.coherent_idle rfl (by rintro g ⟨⟩))
  | launch aimed found idle => exact coherent_launch coherent found idle
  | edit changes aimed found idle => exact coherent_edit coherent changes found idle
  | @addObserver target conduct i =>
    refine coherent.modify i _ (d.modify_getElem? i _) (fun _ _ => rfl) ?_ (coherent.unknown i)
    intro a found
    have own := coherent.known i a found
    exact ⟨own.settled, own.compiling, own.idle, own.cleared, own.graded, own.judged⟩
  | answer => exact coherent
  | begin taken => exact coherent_begin taken coherent
  | tell =>
    rw [(tell_snd _ _ _ _ _).1]
    exact coherent
  | doze => exact coherent
  | wake => exact coherent.congr rfl fun _ => rfl
  | move => exact coherent.congr rfl fun _ => rfl

/-- A run of steps leaves all attempts coherent. -/
theorem Run.coherent (run : d.Run P d') (coherent : d.toBench.Coherent) : d'.toBench.Coherent :=
  run.keeps coherent fun step => step.coherent

/-- A fresh desk has no attempt that is not coherent. -/
theorem coherent_fresh (clock : Clock) (sink : Option Conduct) (observers : List Conduct)
    (sleeper : Sleeper) : (fresh clock sink observers sleeper).toBench.Coherent := by
  constructor
  · intro i a found
    cases found
  · intro i _
    rfl

/-- A request to change an attempt that is compiling is refused, and nothing happens. -/
theorem perform_ask_of_compiling {target : Option Nat} {request : Request} {i : Nat} {a : Attempt}
    (depth : Nat) (aimed : d.aim target request.operation = .ok i)
    (found : d.attempts[i]? = some a) (compiling : a.phase = .compiling)
    (asked : request ≠ .describe ∧ request ≠ .info) :
    perform (depth + 1) (.call (.ask target request)) d = (.returned (.granted false), d) := by
  have busy : a.isIdle = false := by simp [Attempt.isIdle, compiling]
  have change : request = .run ∨ request.change?.isSome := by
    cases request <;> simp_all [Request.change?]
  have refused := grant_of_busy d i busy change
  simp only [perform, Work.step, Work.answer, aimed, found, refused]

/-- In every history, at every point at which outside code can look, every attempt is idle or
compiling, is compiling exactly while one task waits to let its run take place and idle while none
does, and shows what befits its phase. While it is compiling, every request to change it is refused
and nothing happens. -/
theorem attempts_coherent (depth : Nat) (calls : List Call) (clock : Clock) (sink : Option Conduct)
    (observers : List Conduct) (sleeper : Sleeper) :
    let d := history depth calls (fresh clock sink observers sleeper)
    d.toBench.Coherent ∧
      Throughout (fun m _ => m.event.IsOutside → m.bench.Coherent) d.journal ∧
      ∀ (d₁ : Desk) (target : Option Nat) (request : Request) (i : Nat) (a : Attempt) (bound : Nat),
        d₁.aim target request.operation = .ok i → d₁.attempts[i]? = some a →
        a.phase = .compiling → request ≠ .describe ∧ request ≠ .info →
        perform (bound + 1) (.call (.ask target request)) d₁ =
          (.returned (.granted false), d₁) := by
  have run := history_run_fresh depth calls clock sink observers sleeper
  have initially := coherent_fresh clock sink observers sleeper
  refine ⟨run.coherent initially, ?_, fun d₁ target request i a bound aimed found compiling asked =>
    perform_ask_of_compiling bound aimed found compiling asked⟩
  refine (run.boundaries rfl).mono fun m earlier boundary outside => ?_
  obtain ⟨d₁, run, bench, -⟩ := boundary outside
  rw [← bench]
  exact run.coherent initially

end Desk

end DryRun
