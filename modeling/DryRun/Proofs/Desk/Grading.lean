import DryRun.Proofs.Desk.Phase
import DryRun.Proofs.Desk.Sources

/-!
# What a run yields

A run reads the source text when its time has come, not when it is started. Still it yields the
grade of the source text as it was when the run was started, and every report about it says the
same, however late and whatever has happened to the attempt since. What an attempt shows is always
either nothing or all that its latest run yielded. `runs_graded_as_launched` says so of every
history.

A run is known by the number of its task, and no two runs have the same. While the task waits the
attempt is compiling, so no request changes its source text (`Desk.Launched` holds until the task is
taken); the grade is noted together with the end of the run, so that nobody finds the attempt
between two grades.
-/

set_option autoImplicit false

namespace DryRun

/-- The number of the run that is started at a moment, if one is. -/
def Moment.launched? (m : Moment) : Option Nat :=
  match m.event with
  | .launched _ run => some run
  | _ => none

/-- The numbers of the runs that have been started, the latest first. -/
def launches (journal : List Moment) : List Nat := journal.filterMap Moment.launched?

/-- What the latest finished run of an attempt yielded. -/
def lastGrade? (i : Nat) (journal : List Moment) : Option Grade :=
  journal.findSome? fun m => match m.event with
    | .finished j _ g => if j = i then some g else none
    | _ => none

/-- A run of an attempt has been started by a request that was granted then, when the attempt was
as it is given. -/
def Granted (journal : List Moment) (i run : Nat) (a : Attempt) : Prop :=
  ∃ m m₀ before target, m :: m₀ :: before <:+ journal ∧ m₀.event = .launched i run ∧
    m.event = .answered (.ask target .run) (.granted true) ∧
    target.getD (m.bench.attempts.size - 1) = i ∧ m.bench.attempts[i]? = some a

/-- An attempt shows all of a grade. -/
def Attempt.Shows (a : Attempt) (g : Grade) : Prop :=
  a.predicted = g.predicted ∧ a.log = g.log ∧ a.verdict = some g.verdict

/-- An attempt shows nothing of any grade. -/
def Attempt.ShowsNothing (a : Attempt) : Prop :=
  a.predicted = none ∧ a.log = [] ∧ a.verdict = none

/-- Every attempt of a bench shows nothing or all that its latest finished run yielded. -/
def Bench.Untorn (b : Bench) (journal : List Moment) : Prop :=
  ∀ (i : Nat) (a : Attempt), b.attempts[i]? = some a →
    a.ShowsNothing ∨ ∃ g, lastGrade? i journal = some g ∧ a.Shows g

/-- What the journal says about a run at a moment is true in view of the moments before: a run
that has finished yielded the grade of the source text as it was when the run was granted, and the
attempt shows it; a report about a run says the same. -/
def Moment.Truthful (m : Moment) (earlier : List Moment) : Prop :=
  match m.event with
  | .finished i run g => ∃ a₀ a : Attempt, Granted earlier i run a₀ ∧
      m.bench.attempts[i]? = some a ∧ a.report = a₀.report ∧
      g = Grade.ofSource a₀.language a₀.exercise.expected a₀.source ∧ a.Shows g
  | .reported i run _ report => ∃ a₀ : Attempt, Granted earlier i run a₀ ∧
      report = ⟨a₀.exercise.id, a₀.language.id,
        Grade.ofSource a₀.language a₀.exercise.expected a₀.source⟩
  | _ => True

/-- What was granted stays so as the journal grows. -/
theorem Granted.mono {journal longer : List Moment} {i run : Nat} {a : Attempt}
    (granted : Granted journal i run a) (suffix : journal <:+ longer) : Granted longer i run a := by
  obtain ⟨m, m₀, before, target, entry, what⟩ := granted
  exact ⟨m, m₀, before, target, entry.trans suffix, what⟩

/-- An attempt with a grade shows all of it. -/
theorem Attempt.shows_of_grade {a : Attempt} {g : Grade} (grade : a.grade = some g) :
    a.Shows g := by
  simp [Shows, predicted, log, verdict, grade]

/-- An attempt without a grade shows nothing. -/
theorem Attempt.showsNothing_of_grade {a : Attempt} (grade : a.grade = none) : a.ShowsNothing := by
  simp [ShowsNothing, predicted, log, verdict, grade]

namespace Desk

variable {P : Call → Prop} {d d' : Desk}

/-- A run was granted when the attempt was as it is now, as far as its outcome goes. -/
def Launched (d : Desk) (i run : Nat) : Prop :=
  ∃ a₀ a : Attempt, Granted d.journal i run a₀ ∧ d.attempts[i]? = some a ∧ a.report = a₀.report

/-- The journal is truthful, the attempts show what it says, and every run that waits has been
started with the attempt as it is. -/
structure Faithful (d : Desk) : Prop where
  numbered : ∀ run ∈ launches d.journal, run < d.agenda.issued
  distinct : (launches d.journal).Nodup
  awaited : ∀ task ∈ d.agenda.tasks, ∀ i, task.action = .compile i → d.Launched i task.sequence
  shown : ∀ (i : Nat) (a : Attempt), d.attempts[i]? = some a →
    a.grade = none ∨ a.grade = lastGrade? i d.journal
  moments : Throughout Moment.Truthful d.journal

namespace Faithful

/-- The journal stays as it is. Attempts may be cleared; those with a run that waits keep what
matters for its outcome. -/
theorem alter (faithful : d.Faithful) (journal : d'.journal = d.journal)
    (issued : d.agenda.issued ≤ d'.agenda.issued)
    (tasks : ∀ task ∈ d'.agenda.tasks, ∀ i, task.action = .compile i → task ∈ d.agenda.tasks)
    (shown : ∀ (i : Nat) (a' : Attempt), d'.attempts[i]? = some a' → a'.grade = none ∨
      ∃ a : Attempt, d.attempts[i]? = some a ∧ a'.grade = a.grade)
    (kept : ∀ task ∈ d'.agenda.tasks, ∀ (i : Nat) (a : Attempt), task.action = .compile i →
      d.attempts[i]? = some a → ∃ a' : Attempt, d'.attempts[i]? = some a' ∧ a'.report = a.report) :
    d'.Faithful := by
  constructor
  · rw [journal]
    exact fun run member => Nat.lt_of_lt_of_le (faithful.numbered run member) issued
  · rw [journal]
    exact faithful.distinct
  · intro task member i action
    obtain ⟨a₀, a, granted, found, same⟩ :=
      faithful.awaited task (tasks task member i action) i action
    obtain ⟨a', found', same'⟩ := kept task member i a action found
    exact ⟨a₀, a', journal ▸ granted, found', same'.trans same⟩
  · intro i a' found'
    rw [journal]
    rcases shown i a' found' with cleared | ⟨a, found, same⟩
    · exact .inl cleared
    · rw [same]
      exact faithful.shown i a found
  · rw [journal]
    exact faithful.moments

/-- Nothing changes but the agenda, and no run is put down. -/
theorem quiet (faithful : d.Faithful) (journal : d'.journal = d.journal)
    (issued : d.agenda.issued ≤ d'.agenda.issued)
    (tasks : ∀ task ∈ d'.agenda.tasks, ∀ i, task.action = .compile i → task ∈ d.agenda.tasks)
    (attempts : d'.attempts = d.attempts) : d'.Faithful := by
  refine faithful.alter journal issued tasks ?_ ?_
  · intro i a found
    exact .inr ⟨a, attempts ▸ found, rfl⟩
  · intro task _ i a _ found
    exact ⟨a, attempts ▸ found, rfl⟩

/-- One attempt changes: it may be cleared, and if a run of it waits, it keeps what matters for its
outcome. -/
theorem modify (faithful : d.Faithful) (i : Nat) (change : Attempt → Attempt)
    (shown : ∀ a, (change a).grade = a.grade ∨ (change a).grade = none)
    (kept : ∀ task ∈ d.agenda.tasks, task.action = .compile i →
      ∀ a, (change a).report = a.report) : (d.modify i change).Faithful := by
  refine faithful.alter rfl (Nat.le_refl _) (fun _ member _ _ => member) ?_ ?_
  · intro k a' found
    rw [modify_getElem?] at found
    split at found
    · rw [Option.map_eq_some_iff] at found
      obtain ⟨a, found, rfl⟩ := found
      rcases shown a with same | cleared
      · exact .inr ⟨a, found, same⟩
      · exact .inl cleared
    · exact .inr ⟨a', found, rfl⟩
  · intro task member k a action found
    rw [modify_getElem?, found]
    split
    case isTrue same =>
      subst same
      exact ⟨change a, rfl, kept task member action a⟩
    case isFalse => exact ⟨a, rfl, rfl⟩

/-- An attempt is opened: it shows nothing yet. -/
theorem openExercise (faithful : d.Faithful) (exercise : Exercise) :
    (d.openExercise exercise).2.Faithful := by
  refine faithful.alter rfl (Nat.le_refl _) (fun _ member _ _ => member) ?_ ?_
  · intro i a found
    simp only [Desk.openExercise, Array.getElem?_push] at found
    split at found
    · cases found
      exact .inl rfl
    · exact .inr ⟨a, found, rfl⟩
  · intro task _ i a _ found
    have inside := (Array.getElem?_eq_some_iff.mp found).1
    refine ⟨a, ?_, rfl⟩
    simp only [Desk.openExercise]
    rw [Array.getElem?_push_lt inside, ← found, Array.getElem?_eq_getElem inside]

/-- A request changes an attempt that is idle: no run of it waits. -/
theorem edit (faithful : d.Faithful) (coherent : d.toBench.Coherent) {request : Request}
    {change : Attempt → Attempt} (changes : request.change? = some change) {i : Nat} {a : Attempt}
    (found : d.attempts[i]? = some a) (idle : a.isIdle = true) :
    (d.modify i change).Faithful := by
  have none := (coherent.known i a found).idle.mp (a.isIdle_iff.mp idle)
  refine faithful.modify i _ (fun a => ?_) fun task member action => ?_
  · obtain ⟨source, grade, changed, kept⟩ := Request.change?_eq_some changes a
    rw [changed]
    exact kept
  · have waits : 0 < d.waiting (Action.isCompile i) := by
      rw [Bench.waiting, List.countP_pos_iff]
      exact ⟨task, Array.mem_toList_iff.mpr member, by simp [action, Action.isCompile]⟩
    omega

/-- Something is written down that says nothing new about runs, or says so truly. -/
theorem note (faithful : d.Faithful) (event : Event)
    (launched : ∀ i run, event ≠ .launched i run)
    (finished : ∀ i run g, event ≠ .finished i run g)
    (truthful : Moment.Truthful ⟨event, d.toBench⟩ d.journal) : (d.note event).Faithful := by
  have none : Moment.launched? ⟨event, d.toBench⟩ = none := by
    cases event <;> simp_all [Moment.launched?]
  have same : launches (d.note event).journal = launches d.journal := List.filterMap_cons_none none
  constructor
  · rw [same]
    exact faithful.numbered
  · rw [same]
    exact faithful.distinct
  · intro task member i action
    obtain ⟨a₀, a, granted, waits⟩ := faithful.awaited task member i action
    exact ⟨a₀, a, granted.mono (List.suffix_cons _ _), waits⟩
  · intro i a found
    have latest : lastGrade? i (d.note event).journal = lastGrade? i d.journal := by
      cases event <;> simp_all [lastGrade?]
    rw [latest]
    exact faithful.shown i a found
  · exact ⟨truthful, faithful.moments⟩

/-- A run is granted: its task is put down, and the attempt is as it is. -/
theorem launch (faithful : d.Faithful) {i : Nat} {a : Attempt} (found : d.attempts[i]? = some a)
    {target : Option Nat} (latest : target.getD (d.attempts.size - 1) = i) (delay : Float)
    (name : Text) :
    (((d.put delay name (.compile i)).2.note (.launched i d.agenda.issued)).note
      (.answered (.ask target .run) (.granted true))).Faithful := by
  constructor
  · intro run member
    rcases List.mem_cons.mp member with rfl | old
    · exact Nat.lt_succ_self _
    · exact Nat.lt_succ_of_lt (faithful.numbered run old)
  · refine List.nodup_cons.mpr ⟨fun again => ?_, faithful.distinct⟩
    exact Nat.lt_irrefl _ (faithful.numbered _ again)
  · intro task member k action
    rcases Agenda.mem_put.mp member with rfl | old
    · cases action
      exact ⟨a, a, ⟨_, _, _, target, List.suffix_refl _, rfl, rfl, latest, found⟩, found, rfl⟩
    · obtain ⟨a₀, a', granted, waits⟩ := faithful.awaited task old k action
      exact ⟨a₀, a', granted.mono ((List.suffix_cons _ _).trans (List.suffix_cons _ _)), waits⟩
  · exact faithful.shown
  · exact ⟨trivial, trivial, faithful.moments⟩

/-- A run that was granted takes place: it yields the grade of the source text as it was. -/
theorem finish (faithful : d.Faithful) {i run : Nat} {a : Attempt}
    (found : d.attempts[i]? = some a) (launched : d.Launched i run) :
    (d.finish i run a).2.Faithful := by
  obtain ⟨issued, tasks⟩ := d.finish_tasks i run a
  have attempts := d.finish_getElem? i run a
  have journal := d.finish_journal i run a
  have own : (d.finish i run a).2.attempts[i]? = some a.finish := by
    rw [attempts, if_pos rfl, found]
    rfl
  generalize (d.finish i run a).2 = d' at issued tasks attempts journal own ⊢
  constructor
  · intro k member
    rw [journal] at member
    exact Nat.lt_of_lt_of_le (faithful.numbered k member) issued
  · rw [journal]
    exact faithful.distinct
  · intro task member k action
    rcases tasks task member with old | complete
    · obtain ⟨a₀, a', granted, found', same⟩ := faithful.awaited task old k action
      have later : Granted d'.journal k task.sequence a₀ := by
        rw [journal]
        exact granted.mono (List.suffix_cons _ _)
      refine ⟨a₀, ?_⟩
      rw [attempts, found']
      split
      · exact ⟨a'.finish, later, rfl, same⟩
      · exact ⟨a', later, rfl, same⟩
    · rw [action] at complete
      cases complete
  -- The attempt shows what its newest finished run yielded, and that is the entry just made.
  · intro k a' found'
    rw [attempts] at found'
    rw [journal, lastGrade?, List.findSome?_cons]
    by_cases same : i = k
    · subst same
      rw [if_pos rfl, found] at found'
      cases found'
      exact .inr (by simp [Attempt.finish])
    · rw [if_neg same] at found'
      simp only [if_neg same]
      exact faithful.shown k a' found'
  · rw [journal]
    obtain ⟨a₀, a', granted, found', same⟩ := launched
    rw [found] at found'
    cases found'
    -- The attempt would still be reported as when the run was granted, and so with the same grade.
    have outcome : a.outcome = a₀.outcome := congrArg Report.grade same
    exact ⟨⟨a₀, a.finish, granted, own, same, outcome, Attempt.shows_of_grade rfl⟩,
      faithful.moments⟩

end Faithful

/-- A task that begins leaves the desk faithful. -/
theorem faithful_begin {reading : Float} {task : Task Action} {rest : Desk}
    (taken : d.takeDue? reading = some (task, rest)) (faithful : d.Faithful) :
    ((rest.moveTo task.due).begin task).2.Faithful := by
  have taking := (moveTo_of_takeDue? taken).2
  obtain ⟨waits, left⟩ := mem_of_takeDue? taken
  have began : ((rest.moveTo task.due).note (.began task)).Faithful := by
    refine Faithful.note ?_ _ (by simp) (by simp) trivial
    rw [taking]
    exact faithful.quiet rfl (Nat.le_refl _) (fun other member _ _ => left other member) rfl
  have awaited (i : Nat) (action : task.action = .compile i) :
      ((rest.moveTo task.due).note (.began task)).Launched i task.sequence := by
    obtain ⟨a₀, a, granted, found⟩ := faithful.awaited task waits i action
    rw [taking]
    exact ⟨a₀, a, granted.mono (List.suffix_cons _ _), found⟩
  have begun := (rest.moveTo task.due).begins task
  generalize rest.moveTo task.due = d₁ at began awaited begun ⊢
  generalize d₁.begin task = result at begun ⊢
  cases begun with
  | script => exact began
  | stray => exact began
  | run action known => exact began.finish known (awaited _ action)
  | @announcement i run a sink =>
    have announced := began.note (.announced i a.exercise) (by simp) (by simp) trivial
    exact announced.quiet rfl (Nat.le_refl _) (fun _ member _ _ => member) rfl

/-- A report that is handed out says what the run yielded. -/
theorem truthful_reported (faithful : d.Faithful) {i run observer : Nat} {report : Report}
    (filed : d.Filed i run report) :
    Moment.Truthful ⟨.reported i run observer report, d.toBench⟩ d.journal := by
  -- The report was filed when the run finished, and the entry of that moment is truthful already.
  obtain ⟨m, member, event, a, found, exercise, language⟩ := filed
  obtain ⟨earlier, suffix, truthful⟩ := faithful.moments.mem member
  simp only [Moment.Truthful, event] at truthful
  obtain ⟨a₀, a', granted, found', same, outcome, -⟩ := truthful
  rw [found] at found'
  cases found'
  refine ⟨a₀, granted.mono ((List.suffix_cons _ _).trans suffix), ?_⟩
  have names := same
  simp only [Attempt.report, Report.mk.injEq] at names
  rw [← outcome, ← names.1, ← names.2.1, ← exercise, ← language]

/-- A step leaves the desk faithful. -/
theorem Step.faithful (step : d.Step P d') (coherent : d.toBench.Coherent)
    (faithful : d.Faithful) : d'.Faithful := by
  -- Only a launch and the begin of a task touch granted runs. An edit needs an idle attempt, and
  -- all other steps leave grades and waiting runs as they are.
  cases step with
  | @schedule delay name body task agenda allowed placed =>
    obtain ⟨-, put⟩ := Agenda.schedule_eq_ok_iff.mp placed
    have scheduled : ({ d with agenda } : Desk).Faithful := by
      refine faithful.quiet rfl ?_ ?_ rfl
      · rw [← (Prod.mk.inj put).2]
        exact Nat.le_succ _
      · intro other member i action
        rw [← (Prod.mk.inj put).2] at member
        rcases Agenda.mem_put.mp member with rfl | old
        · cases action
        · exact old
    exact scheduled.note _ (by simp) (by simp) trivial
  | @turn c clock =>
    have turned' : ({ d with agenda := { d.agenda with clock } } : Desk).Faithful :=
      faithful.quiet rfl (Nat.le_refl _) (fun _ member _ _ => member) rfl
    exact turned'.note _ (by simp) (by simp) trivial
  | @openExercise exercise =>
    exact (faithful.openExercise exercise).note _ (by simp) (by simp) trivial
  | @launch target i a aimed found idle =>
    have started : (d.modify i Attempt.start).Faithful :=
      faithful.modify i _ (fun _ => .inr rfl) fun _ _ _ _ => rfl
    have changed : (d.modify i Attempt.start).attempts[i]? = some a.start := by
      rw [modify_getElem?, if_pos rfl, found]
      rfl
    rw [launch_snd d i idle]
    have latest : target.getD ((d.modify i Attempt.start).attempts.size - 1) = i := by
      simpa [Desk.modify] using aim_eq_ok aimed
    exact started.launch changed latest _ _
  | @edit target request change i a changes aimed found idle =>
    have edited := faithful.edit coherent changes found idle
    exact edited.note _ (by simp) (by simp) trivial
  | @addObserver target conduct i =>
    have heard : ({ d with observers := d.observers.push { conduct } } : Desk).Faithful :=
      faithful.quiet rfl (Nat.le_refl _) (fun _ member _ _ => member) rfl
    have observed : (d.addObserver i conduct).Faithful :=
      heard.modify i _ (fun _ => .inl rfl) fun _ _ _ _ => rfl
    exact observed.note _ (by simp) (by simp) trivial
  | answer => exact faithful.note _ (by simp) (by simp) trivial
  | begin taken => exact faithful_begin taken faithful
  | @tell i run place observer report filed =>
    have told := faithful.note (.reported i run observer report) (by simp) (by simp)
      (truthful_reported faithful filed)
    obtain ⟨bench, entry⟩ := d.tell_snd i run observer report
    refine told.quiet entry ?_ ?_ ?_
    · rw [bench]
      exact Nat.le_refl _
    · rw [bench]
      exact fun _ member _ _ => member
    · rw [bench]
      rfl
  | doze => exact faithful.note _ (by simp) (by simp) trivial
  | wake => exact faithful.quiet rfl (Nat.le_refl _) (fun _ member _ _ => member) rfl
  | move => exact faithful.quiet rfl (Nat.le_refl _) (fun _ member _ _ => member) rfl

/-- What an attempt shows is nothing or what its latest finished run yielded. -/
theorem Faithful.untorn (faithful : d.Faithful) : d.toBench.Untorn d.journal := by
  intro i a found
  rcases faithful.shown i a found with cleared | same
  · exact .inl (Attempt.showsNothing_of_grade cleared)
  · cases grade : a.grade with
    | none => exact .inl (Attempt.showsNothing_of_grade grade)
    | some g => exact .inr ⟨g, by rw [← same, grade], Attempt.shows_of_grade grade⟩

/-- A run of steps leaves the desk faithful. -/
theorem Run.faithful (run : d.Run P d') (coherent : d.toBench.Coherent) (faithful : d.Faithful) :
    d'.Faithful := by
  induction run with
  | refl => exact faithful
  | tail run step ih => exact step.faithful (Run.coherent run coherent) ih

/-- A fresh desk is faithful. -/
theorem faithful_fresh (clock : Clock) (sink : Option Conduct) (observers : List Conduct)
    (sleeper : Sleeper) : (fresh clock sink observers sleeper).Faithful where
  numbered := by simp [fresh, launches]
  distinct := .nil
  awaited := by simp [fresh]
  shown := by simp [fresh]
  moments := trivial

/-- In every history a run that finishes yields the grade of the source text as it was when the run
was started, and the reports about it say so; no two runs have the same number. At every point at
which outside code can look, every attempt shows nothing or all that its latest finished run
yielded. From one moment to the next, source texts change only as granted requests say, and the
source text that an attempt had at first never changes. -/
theorem runs_graded_as_launched (depth : Nat) (calls : List Call) (clock : Clock)
    (sink : Option Conduct) (observers : List Conduct) (sleeper : Sleeper) :
    let d := history depth calls (fresh clock sink observers sleeper)
    (launches d.journal).Nodup ∧ d.toBench.Untorn d.journal ∧
      d.attempts = lastAttempts d.journal ∧
      Throughout (fun m earlier => m.Truthful earlier ∧ m.Continues earlier ∧
        (m.event.IsOutside → m.bench.Untorn (m :: earlier))) d.journal := by
  have run := history_run_fresh depth calls clock sink observers sleeper
  have coherent := coherent_fresh clock sink observers sleeper
  have initially := faithful_fresh clock sink observers sleeper
  have faithful := run.faithful coherent initially
  have traced := run.traced (traced_fresh clock sink observers sleeper)
  refine ⟨faithful.distinct, faithful.untorn, traced.current, ?_⟩
  refine (faithful.moments.and (traced.moments.and (run.boundaries rfl))).mono
    fun m earlier ⟨truthful, continues, boundary⟩ => ⟨truthful, continues, fun outside => ?_⟩
  obtain ⟨d₁, run, bench, journal⟩ := boundary outside
  rw [← bench, ← journal]
  exact (run.faithful coherent initially).untorn

end Desk

end DryRun
