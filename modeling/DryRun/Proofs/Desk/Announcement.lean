import DryRun.Proofs.Agenda.Clock
import DryRun.Proofs.Desk.Ledger
import DryRun.Proofs.Desk.Waiting

/-!
# Announcements

At a desk with a completion sink, every run that is accepted is announced once: the announcements
that have been made and those that wait are as many as the runs that were accepted, for each attempt
and for each run (`Bench.Balanced`). An announcement names the exercise that the attempt was opened
with, and it is not made before the delay is over that began with the end of the run
(`Moment.Announces`). `announcements_balanced` says so of every history. Since only the end of an
accepted run and the beginning of an announcement are counted, nothing else adds or cancels one: not
a run that failed, a reset, a change of the source text, the opening of an exercise, nor a sink that
fails.
-/

set_option autoImplicit false

namespace DryRun

/-- Whether the task begins that announces that an attempt was accepted in one of certain runs. -/
def Event.isTaken (i : Nat) (runs : Nat → Bool) : Event → Bool
  | .began task => task.action.isComplete i runs
  | _ => false

/-- Whether one of certain runs of an attempt finishes and is accepted. -/
def Event.isAccepted (i : Nat) (runs : Nat → Bool) : Event → Bool
  | .finished j run g => j == i && runs run && decide (g.verdict = .success)
  | _ => false

/-- Whether the sink is told that an attempt was accepted. -/
def Event.isAnnounced (i : Nat) : Event → Bool
  | .announced j _ => j == i
  | _ => false

/-- How often something of a kind has happened. -/
def tally (kind : Event → Bool) (journal : List Moment) : Nat :=
  journal.countP fun m => kind m.event

/-- The exercise of an attempt. -/
def Bench.exercise? (b : Bench) (i : Nat) : Option Exercise := b.attempts[i]?.map Attempt.exercise

/-- An attempt was opened with the given exercise. -/
def Opened (journal : List Moment) (i : Nat) (exercise : Exercise) : Prop :=
  ∃ m ∈ journal, m.event = .answered (.openExercise exercise) (.opened i)

/-- A run was accepted at a moment with a certain reading. -/
def Accepted (journal : List Moment) (i run : Nat) (reading : Float) : Prop :=
  ∃ m ∈ journal, m.bench.agenda.now = reading ∧
    ∃ g, m.event = .finished i run g ∧ g.verdict = .success

/-- As many announcements are made or wait as runs were accepted: for each attempt, and for each
run, of which there is one at most. -/
def Bench.Balanced (b : Bench) (journal : List Moment) : Prop :=
  ∀ i, tally (Event.isAnnounced i) journal + b.waiting (Action.isComplete i fun _ => true) =
      tally (Event.isAccepted i fun _ => true) journal ∧
    ∀ run, tally (Event.isTaken i (· == run)) journal + b.waiting (Action.isComplete i (· == run)) =
      tally (Event.isAccepted i (· == run)) journal ∧
      tally (Event.isAccepted i (· == run)) journal ≤ 1

/-- An announcement that is made at a moment comes from the task of an accepted run, which has just
begun, and not before its time; it names the exercise that the attempt has and was opened with. -/
def Moment.Announces (m : Moment) (earlier : List Moment) : Prop :=
  match m.event with
  | .announced i exercise => m.bench.exercise? i = some exercise ∧ Opened earlier i exercise ∧
      ∃ task bench before run reading, earlier = ⟨.began task, bench⟩ :: before ∧
        task.action = .complete i run ∧ Accepted before i run reading ∧
        (m.bench.agenda.now.isNaN = false →
          reading + Settings.completionDelay ≤ m.bench.agenda.now)
  | _ => True

/-- What was opened stays so as the journal grows. -/
theorem Opened.mono {journal longer : List Moment} {i : Nat} {exercise : Exercise}
    (opened : Opened journal i exercise) (suffix : journal <:+ longer) :
    Opened longer i exercise := by
  obtain ⟨m, member, event⟩ := opened
  exact ⟨m, suffix.subset member, event⟩

/-- What was accepted stays so as the journal grows. -/
theorem Accepted.mono {journal longer : List Moment} {i run : Nat} {reading : Float}
    (accepted : Accepted journal i run reading) (suffix : journal <:+ longer) :
    Accepted longer i run reading := by
  obtain ⟨m, member, event⟩ := accepted
  exact ⟨m, suffix.subset member, event⟩

/-- An event of the kind counts one. -/
theorem tally_cons (kind : Event → Bool) (m : Moment) (journal : List Moment) :
    tally kind (m :: journal) = tally kind journal + if kind m.event = true then 1 else 0 :=
  List.countP_cons

/-- No run is accepted more often than it finished. -/
theorem tally_isAccepted_le (i run : Nat) (journal : List Moment) :
    tally (Event.isAccepted i (· == run)) journal ≤ (finishedNumbers journal).count run := by
  induction journal with
  | nil => exact Nat.le_refl _
  | cons m earlier ih =>
    obtain ⟨event, bench⟩ := m
    rw [tally_cons]
    cases event with
    | finished j r g =>
      have number : finishedNumbers (⟨.finished j r g, bench⟩ :: earlier) =
          r :: finishedNumbers earlier := rfl
      rw [number, List.count_cons]
      have counted :
          Event.isAccepted i (· == run) (.finished j r g) = true → (r == run) = true := by
        simp only [Event.isAccepted, Bool.and_eq_true]
        exact fun accepted => accepted.1.2
      split
      case isTrue accepted =>
        rw [if_pos (counted accepted)]
        omega
      case isFalse => exact Nat.le_add_right_of_le ih
    | _ => exact ih

namespace Desk

variable {P : Call → Prop} {d d' : Desk}

/-- Announcements are balanced, and those that wait are promised by the journal. -/
structure Owing (d : Desk) : Prop where
  held : d.sink ≠ none
  owed : ∀ i runs, tally (Event.isTaken i runs) d.journal + d.waiting (Action.isComplete i runs) =
    tally (Event.isAccepted i runs) d.journal
  told : ∀ i, tally (Event.isAnnounced i) d.journal =
    tally (Event.isTaken i fun _ => true) d.journal
  promised : ∀ task ∈ d.agenda.tasks, ∀ i run, task.action = .complete i run →
    d.exercise? i ≠ none ∧ ∃ reading, task.due = reading + Settings.completionDelay ∧
      Accepted d.journal i run reading
  opened : ∀ i exercise, d.exercise? i = some exercise → Opened d.journal i exercise
  moments : Throughout Moment.Announces d.journal

namespace Owing

/-- Nothing is written down and no announcement is put down or taken away. -/
theorem alter (owing : d.Owing) (sink : d'.sink = d.sink) (journal : d'.journal = d.journal)
    (exercises : ∀ i, d'.exercise? i = d.exercise? i)
    (waiting : ∀ i runs,
      d'.waiting (Action.isComplete i runs) = d.waiting (Action.isComplete i runs))
    (tasks : ∀ task ∈ d'.agenda.tasks, ∀ i run, task.action = .complete i run →
      task ∈ d.agenda.tasks) : d'.Owing := by
  constructor
  · rw [sink]
    exact owing.held
  · intro i runs
    rw [journal, waiting]
    exact owing.owed i runs
  · rw [journal]
    exact owing.told
  · intro task member i run action
    rw [journal, exercises]
    exact owing.promised task (tasks task member i run action) i run action
  · intro i exercise
    rw [journal, exercises]
    exact owing.opened i exercise
  · rw [journal]
    exact owing.moments

/-- A task that announces nothing changes no debt. -/
theorem put (owing : d.Owing) (delay : Float) (name : Text) (action : Action)
    (other : ∀ i run, action ≠ .complete i run) : (d.put delay name action).2.Owing := by
  have none (i : Nat) (runs : Nat → Bool) : action.isComplete i runs = false := by
    cases action with
    | script => rfl
    | compile => rfl
    | complete j run => exact absurd rfl (other j run)
  refine owing.alter rfl rfl (fun _ => rfl) (fun i runs => ?_) fun task member i run complete => ?_
  · rw [waiting_put, none]
    rfl
  · rcases Agenda.mem_put.mp member with rfl | old
    · exact absurd complete (other i run)
    · exact old

/-- A change of an attempt that leaves its exercise changes no exercise. -/
theorem exercise?_modify (i : Nat) (change : Attempt → Attempt)
    (exercise : ∀ a, (change a).exercise = a.exercise) (k : Nat) :
    (d.modify i change).exercise? k = d.exercise? k := by
  rw [Bench.exercise?, modify_getElem?, Bench.exercise?]
  split
  · cases d.attempts[k]? with
    | none => rfl
    | some a => exact congrArg some (exercise a)
  · rfl

/-- A change of an attempt that leaves its exercise changes no debt. -/
theorem modify (owing : d.Owing) (i : Nat) (change : Attempt → Attempt)
    (exercise : ∀ a, (change a).exercise = a.exercise) : (d.modify i change).Owing :=
  owing.alter rfl rfl (exercise?_modify i change exercise) (fun _ _ => rfl)
    fun _ member _ _ _ => member

/-- Something is written down that is not counted. -/
theorem note (owing : d.Owing) (event : Event) (taken : ∀ i runs, event.isTaken i runs = false)
    (accepted : ∀ i runs, event.isAccepted i runs = false)
    (announced : ∀ i exercise, event ≠ .announced i exercise) : (d.note event).Owing := by
  have silent (i : Nat) : event.isAnnounced i = false := by
    cases event <;> simp_all [Event.isAnnounced]
  have suffix : d.journal <:+ (d.note event).journal := List.suffix_cons _ _
  constructor
  · exact owing.held
  · intro i runs
    rw [note_journal, tally_cons, tally_cons, taken, accepted]
    exact owing.owed i runs
  · intro i
    rw [note_journal, tally_cons, tally_cons, taken, silent]
    exact owing.told i
  · intro task member i run action
    obtain ⟨known, reading, due, accepted⟩ := owing.promised task member i run action
    exact ⟨known, reading, due, accepted.mono suffix⟩
  · intro i exercise known
    exact (owing.opened i exercise known).mono suffix
  · refine ⟨?_, owing.moments⟩
    cases event <;> first | trivial | exact absurd rfl (announced _ _)

/-- Opening an exercise changes no debt. -/
theorem openExercise (owing : d.Owing) (exercise : Exercise) :
    ((d.openExercise exercise).2.note
      (.answered (.openExercise exercise) (.opened d.attempts.size))).Owing := by
  have suffix (m : Moment) : d.journal <:+ m :: d.journal := List.suffix_cons _ _
  have exercises (i : Nat) : (d.openExercise exercise).2.exercise? i =
      if i = d.attempts.size then some exercise else d.exercise? i := by
    simp only [Bench.exercise?, Desk.openExercise, Array.getElem?_push]
    split <;> rfl
  constructor
  · exact owing.held
  · exact owing.owed
  · exact owing.told
  · intro task member i run action
    obtain ⟨known, reading, due, accepted⟩ := owing.promised task member i run action
    refine ⟨?_, reading, due, accepted.mono (suffix _)⟩
    rw [note_toBench, exercises]
    split
    · simp
    · exact known
  · intro i exercise' known
    rw [note_toBench, exercises] at known
    split at known
    case isTrue last =>
      cases known
      exact ⟨_, List.mem_cons_self, by rw [last]⟩
    case isFalse => exact (owing.opened i exercise' known).mono (suffix _)
  · exact ⟨trivial, owing.moments⟩

/-- A run takes place: if it is accepted, its announcement waits from then on. -/
theorem finish (owing : d.Owing) {i : Nat} (run : Nat) {a : Attempt}
    (found : d.attempts[i]? = some a) :
    (d.finish i run a).2.Owing := by
  have exercises := exercise?_modify (d := d) i Attempt.finish fun _ => rfl
  have suffix (m : Moment) : d.journal <:+ m :: d.journal := List.suffix_cons _ _
  have held : (d.modify i Attempt.finish).sink.isSome = true := by
    rw [Option.isSome_iff_ne_none]
    exact owing.held
  -- An accepted run makes one debt and one waiting announcement, and any other run makes neither.
  by_cases success : a.outcome.verdict = .success
  · rw [finish_snd, promise_eq, if_pos ⟨success, held⟩]
    constructor
    · exact owing.held
    · intro k runs
      have more := (d.modify i Attempt.finish).waiting_put (Action.isComplete k runs)
        Settings.completionDelay (taskName a.exercise "complete") (.complete i run)
      have before := owing.owed k runs
      have same : (Event.finished i run a.outcome).isAccepted k runs =
          Action.isComplete k runs (.complete i run) := by
        simp [Event.isAccepted, Action.isComplete, success]
      have total := congrArg (tally (Event.isTaken k runs) d.journal + ·) more
      refine total.trans ?_
      rw [note_journal, tally_cons, same, ← Nat.add_assoc]
      exact congrArg (· + _) before
    · exact owing.told
    · intro task member k run' action
      rcases Agenda.mem_put.mp member with rfl | old
      · cases action
        refine ⟨?_, d.agenda.now, rfl, _, List.mem_cons_self, rfl, a.outcome, rfl, success⟩
        refine (exercises i).trans_ne ?_
        rw [Bench.exercise?, found]
        simp
      · obtain ⟨known, reading, due, accepted⟩ := owing.promised task old k run' action
        exact ⟨(exercises k).trans_ne known, reading, due, accepted.mono (suffix _)⟩
    · intro k exercise known
      exact (owing.opened k exercise ((exercises k).symm.trans known)).mono (suffix _)
    · exact ⟨trivial, owing.moments⟩
  · rw [finish_snd, promise_eq, if_neg fun both => success both.1]
    refine (owing.modify i Attempt.finish fun _ => rfl).note (.finished i run a.outcome)
      (fun _ _ => rfl) (fun k runs => ?_) (by simp)
    simp [Event.isAccepted, success]

/-- An announcement that was waiting is made. -/
theorem announce (owing : d.Owing) {reading : Float} {task : Task Action} {rest : Desk}
    (taken : d.takeDue? reading = some (task, rest)) {i run : Nat}
    (action : task.action = .complete i run) {a : Attempt} (found : d.attempts[i]? = some a) :
    (((rest.moveTo task.due).note (.began task)).note (.announced i a.exercise)).Owing := by
  have taking := (moveTo_of_takeDue? taken).2
  have waiting (k : Nat) (runs : Nat → Bool) := waiting_taken (Action.isComplete k runs) taken
  obtain ⟨waits, left⟩ := mem_of_takeDue? taken
  change ∀ other ∈ (rest.moveTo task.due).agenda.tasks, other ∈ d.agenda.tasks at left
  have attempts : (rest.moveTo task.due).attempts = d.attempts := by rw [taking]
  have journal : (rest.moveTo task.due).journal = d.journal := by rw [taking]
  have sink : (rest.moveTo task.due).sink = d.sink := by rw [taking]
  have suffix (m m' : Moment) : d.journal <:+ m :: m' :: d.journal :=
    (List.suffix_cons _ _).trans (List.suffix_cons _ _)
  obtain ⟨known, ended, due, accepted⟩ := owing.promised task waits i run action
  have named : d.exercise? i = some a.exercise := by rw [Bench.exercise?, found]; rfl
  -- The announcement was put at the end of the run with the delay added, and a task begins only
  -- once its due time has come.
  have reached : (rest.moveTo task.due).agenda.now.isNaN = false →
      ended + Settings.completionDelay ≤ (rest.moveTo task.due).agenda.now := by
    intro number
    rw [← due]
    exact Clock.le_moveTo (Reading.number_of_le (takeDue?_eq_some taken).1).1 number
  generalize rest.moveTo task.due = d₁ at waiting left attempts journal sink reached
  have exercises (k : Nat) : d₁.exercise? k = d.exercise? k := by
    rw [Bench.exercise?, attempts]
    rfl
  constructor
  · exact sink ▸ owing.held
  · intro k runs
    have before := owing.owed k runs
    rw [waiting] at before
    have same : ((d₁.note (.began task)).note (.announced i a.exercise)).waiting
        (Action.isComplete k runs) = d₁.waiting (Action.isComplete k runs) := rfl
    rw [same, note_journal, note_journal, tally_cons, tally_cons, tally_cons, tally_cons, journal]
    -- The announcement leaves the queue as it is taken, so both sides change by the same amount.
    cases kind : task.action.isComplete k runs
    all_goals
      simp only [kind, Event.isTaken, Event.isAccepted, Bool.false_eq_true, if_false, if_true]
        at before ⊢
      omega
  · intro k
    have before := owing.told k
    rw [note_journal, note_journal, tally_cons, tally_cons, tally_cons, tally_cons, journal, before]
    simp [Event.isTaken, Event.isAnnounced, action, Action.isComplete]
  · intro other member k run' action'
    obtain ⟨known', reading', due', accepted'⟩ :=
      owing.promised other (left other member) k run' action'
    rw [note_journal, note_journal, journal]
    exact ⟨(exercises k).trans_ne known', reading', due', accepted'.mono (suffix _ _)⟩
  · intro k exercise known'
    rw [note_journal, note_journal, journal]
    exact (owing.opened k exercise ((exercises k).symm.trans known')).mono (suffix _ _)
  · rw [note_journal, note_journal, journal]
    refine ⟨⟨(exercises i).trans named, ?_, task, _, _, run, ended, rfl, action, accepted, reached⟩,
      trivial, owing.moments⟩
    exact (owing.opened i a.exercise named).mono (List.suffix_cons _ _)

end Owing

/-- A task that begins settles its debt or makes the debt of an accepted run. -/
theorem owing_begin {reading : Float} {task : Task Action} {rest : Desk}
    (taken : d.takeDue? reading = some (task, rest)) (owing : d.Owing) :
    ((rest.moveTo task.due).begin task).2.Owing := by
  have taking := (moveTo_of_takeDue? taken).2
  obtain ⟨waits, left⟩ := mem_of_takeDue? taken
  have attempts : (rest.moveTo task.due).attempts = d.attempts := by rw [taking]
  have sink : (rest.moveTo task.due).sink = d.sink := by rw [taking]
  have other (noAnnouncement : ∀ i run, task.action ≠ .complete i run) :
      ((rest.moveTo task.due).note (.began task)).Owing := by
    -- A script or a run that is taken is no announcement, so the number of those that wait stays.
    have none (i : Nat) (runs : Nat → Bool) : task.action.isComplete i runs = false := by
      cases action : task.action with
      | script => rfl
      | compile => rfl
      | complete j run => exact absurd action (noAnnouncement j run)
    refine Owing.note (owing.alter sink (by rw [taking]) ?_ ?_ ?_) _ none (fun _ _ => rfl) (by simp)
    · intro i
      rw [Bench.exercise?, attempts]
      rfl
    · intro i runs
      rw [waiting_taken _ taken, none i runs]
      rfl
    · exact fun other member _ _ _ => left other member
  have announced {i run : Nat} (action : task.action = .complete i run) {a : Attempt} :=
    owing.announce taken action (a := a)
  have begun := (rest.moveTo task.due).begins task
  generalize rest.moveTo task.due = d₁ at attempts sink other announced begun
  generalize d₁.begin task = result at begun ⊢
  cases begun with
  | script action => exact other (by simp [action])
  | stray action =>
    rcases action with ⟨i, action, -⟩ | ⟨i, run, action, absent | none⟩
    · exact other (by simp [action])
    -- An announcement cannot go astray: its attempt is known, and the sink is held.
    · have known := (owing.promised task waits i run action).1
      rw [Bench.exercise?, ← attempts, absent] at known
      exact absurd rfl known
    · rw [sink] at none
      exact absurd none owing.held
  | run action found => exact (other (by simp [action])).finish _ found
  | @announcement i run a sink' action found =>
    rw [attempts] at found
    have made := announced action found
    exact ⟨by simp, made.owed, made.told, made.promised, made.opened, made.moments⟩

/-- After a step what is owed is what waits. -/
theorem Step.owing (step : d.Step P d') (owing : d.Owing) : d'.Owing := by
  cases step with
  | @schedule delay name body task agenda allowed placed =>
    obtain ⟨-, put⟩ := Agenda.schedule_eq_ok_iff.mp placed
    have scheduled := owing.put delay name (.script body) (by simp)
    rw [Desk.put, put] at scheduled
    exact scheduled.note _ (fun _ _ => rfl) (fun _ _ => rfl) (by simp)
  | @turn c clock =>
    have turned : ({ d with agenda := { d.agenda with clock } } : Desk).Owing :=
      owing.alter rfl rfl (fun _ => rfl) (fun _ _ => rfl) fun _ member _ _ _ => member
    exact turned.note _ (fun _ _ => rfl) (fun _ _ => rfl) (by simp)
  | openExercise => exact owing.openExercise _
  | @launch target i a aimed found idle =>
    rw [launch_snd d i idle]
    have started := ((owing.modify i Attempt.start fun _ => rfl).put
      a.language.compileDelay (taskName a.exercise "compile") (.compile i) (by simp)).note
      (.launched i d.agenda.issued) (fun _ _ => rfl) (fun _ _ => rfl) (by simp)
    exact started.note _ (fun _ _ => rfl) (fun _ _ => rfl) (by simp)
  | @edit target request change i a changes =>
    have edited : (d.modify i change).Owing := by
      refine owing.modify i change fun a => ?_
      obtain ⟨source, grade, changed, -⟩ := Request.change?_eq_some changes a
      rw [changed]
    exact edited.note _ (fun _ _ => rfl) (fun _ _ => rfl) (by simp)
  | @addObserver target conduct i =>
    have heard : ({ d with observers := d.observers.push { conduct } } : Desk).Owing :=
      owing.alter rfl rfl (fun _ => rfl) (fun _ _ => rfl) fun _ member _ _ _ => member
    have observed : (d.addObserver i conduct).Owing := heard.modify i _ fun _ => rfl
    exact observed.note _ (fun _ _ => rfl) (fun _ _ => rfl) (by simp)
  | answer => exact owing.note _ (fun _ _ => rfl) (fun _ _ => rfl) (by simp)
  | begin taken => exact owing_begin taken owing
  | @tell i run place observer report =>
    have told := owing.note (.reported i run observer report) (fun _ _ => rfl) (fun _ _ => rfl)
      (by simp)
    obtain ⟨bench, entry⟩ := d.tell_snd i run observer report
    refine told.alter (tell_sink _ _ _ _ _) entry ?_ ?_ ?_
    · intro k
      rw [bench]
      rfl
    · intro k runs
      rw [bench]
      rfl
    · rw [bench]
      exact fun _ member _ _ _ => member
  | doze => exact owing.note _ (fun _ _ => rfl) (fun _ _ => rfl) (by simp)
  | wake => exact owing.alter rfl rfl (fun _ => rfl) (fun _ _ => rfl) fun _ member _ _ _ => member
  | move => exact owing.alter rfl rfl (fun _ => rfl) (fun _ _ => rfl) fun _ member _ _ _ => member

/-- After a run of steps what is owed is what waits. -/
theorem Run.owing (run : d.Run P d') (owing : d.Owing) : d'.Owing :=
  run.keeps owing fun step => step.owing

/-- Nothing is owed at a fresh desk. -/
theorem owing_fresh (clock : Clock) (conduct : Conduct) (observers : List Conduct)
    (sleeper : Sleeper) : (fresh clock (some conduct) observers sleeper).Owing where
  held := by simp [fresh]
  owed _ _ := rfl
  told _ := rfl
  promised := by simp [fresh]
  opened := by simp [fresh, Bench.exercise?]
  moments := trivial

/-- Where what is owed is what waits, announcements and tasks together balance the accepted runs. -/
theorem Owing.balanced (owing : d.Owing) (ledger : d.Ledger) : d.toBench.Balanced d.journal := by
  intro i
  refine ⟨?_, fun run => ⟨owing.owed i _, ?_⟩⟩
  · rw [owing.told i]
    exact owing.owed i _
  · calc tally (Event.isAccepted i (· == run)) d.journal
        ≤ (finishedNumbers d.journal).count run := tally_isAccepted_le i run d.journal
      _ ≤ (begunNumbers d.journal).count run := ledger.finished.count_le run
      _ ≤ 1 := List.nodup_iff_count_le_one.mp ledger.nodup run

/-- In every history of a desk with a completion sink, at every point at which outside code can
look, the announcements that have been made and those that wait are as many as the runs that were
accepted, for each attempt and for each run; and every announcement names the exercise that its
attempt was opened with and keeps to its time. -/
theorem announcements_balanced (depth : Nat) (calls : List Call) (clock : Clock)
    (conduct : Conduct) (observers : List Conduct) (sleeper : Sleeper) :
    let d := history depth calls (fresh clock (some conduct) observers sleeper)
    d.toBench.Balanced d.journal ∧
      Throughout (fun m earlier => m.Announces earlier ∧
        (m.event.IsOutside → m.bench.Balanced (m :: earlier))) d.journal := by
  have run := history_run_fresh depth calls clock (some conduct) observers sleeper
  have owing := owing_fresh clock conduct observers sleeper
  have ledger := ledger_fresh clock (some conduct) observers sleeper
  refine ⟨(run.owing owing).balanced (run.ledger ledger), ?_⟩
  refine ((run.owing owing).moments.and (run.boundaries rfl)).mono
    fun m earlier ⟨announces, boundary⟩ => ⟨announces, fun outside => ?_⟩
  obtain ⟨d₁, run, bench, journal⟩ := boundary outside
  rw [← bench, ← journal]
  exact (run.owing owing).balanced (run.ledger ledger)

end Desk

end DryRun
