import DryRun.Proofs.Desk.Announcement
import DryRun.Proofs.Desk.Grading
import DryRun.Proofs.Query.Command
import DryRun.Proofs.Text.Case

/-!
# Rejected queries

A query with an unknown command is answered with a line that quotes its first word. The run passes
all the same if the expected text stands in that line, and also if a success marker does. Of the
line in lower case only the quoted word can contain a marker (`occursIn_normalize_syntaxError`), and
it can be any word, so whether a run is failed depends on the word that the learner wrote
(`verdict_syntaxError`).

An announcement is scheduled for an accepted run only (`Step.schedules`), with a completion sink or
without one. So a run that fails on a syntax error is never announced, and a run whose first word
has a marker in it passes (`syntaxError_failed_iff`).
-/

set_option autoImplicit false

namespace DryRun

deriving instance DecidableEq for Language

/-! ## The verdict -/

/-- A success marker stands in a word, in any letter case. -/
def HasMarker (word : Text) : Prop :=
  ∃ marker ∈ Language.sql.successMarkers, Text.occursIn marker.toList (Text.lower word) = true

instance (word : Text) : Decidable (HasMarker word) :=
  inferInstanceAs (Decidable (∃ marker ∈ Language.sql.successMarkers, _))

/-- Something is expected, and it does not stand in the line about a syntax error. -/
def Demands (expected : Option Text) (word : Text) : Prop :=
  Verdict.normalize expected ≠ [] ∧
    Text.occursIn (Verdict.normalize expected)
      (Verdict.normalize (some (Table.syntaxError word))) = false

instance (expected : Option Text) (word : Text) : Decidable (Demands expected word) :=
  inferInstanceAs (Decidable (_ ∧ _))

namespace Verdict

/-- The line about a syntax error in small letters. -/
theorem normalize_syntaxError (word : Text) :
    normalize (some (Table.syntaxError word)) =
      Text.lower Table.complaint ++ ('\x22' :: Text.lower word ++ ['\x22']) := by
  have parts : Table.syntaxError word = Table.complaint ++ '\x22' :: (word ++ '\x22' :: []) := by
    simp [Table.syntaxError]
  have whole : Text.strip (Table.syntaxError word) = Table.syntaxError word := by
    apply Text.strip_eq_self
    · have start : Table.complaint.head? = some '⚠' := by decide
      intro c first
      rw [parts, List.head?_append, start] at first
      obtain rfl : '⚠' = c := Option.some.inj first
      decide
    · intro c last
      rw [Table.syntaxError, List.getLast?_concat] at last
      obtain rfl : '\x22' = c := Option.some.inj last
      decide
  have mark : Text.lowerChar '\x22' = ['\x22'] := by decide
  have nothing : Text.lower [] = [] := by decide
  rw [normalize, Option.getD_some, whole, parts, Text.isBarrier_quote.lower_append,
    Text.isBarrier_quote.lower_append, mark, nothing]
  simp

/-- A marker stands in the line about a syntax error only where it stands in the quoted word. -/
theorem occursIn_normalize_syntaxError {marker : Text} (isWord : Text.IsWord marker)
    (outside : Text.occursIn marker (Text.lower Table.complaint) = false) (word : Text) :
    Text.occursIn marker (normalize (some (Table.syntaxError word))) =
      Text.occursIn marker (Text.lower word) := by
  have noMark : Text.isWordChar '\x22' = false := by decide
  have alone := isWord.not_infix_singleton noMark
  rw [normalize_syntaxError, Bool.eq_iff_iff, Text.occursIn_iff, Text.occursIn_iff]
  rw [Bool.eq_false_iff, ne_eq, Text.occursIn_iff] at outside
  constructor
  · intro inside
    have quoted : marker <:+: ['\x22'] ++ (Text.lower word ++ ['\x22']) :=
      (Text.infix_append isWord (.of_right _ (by simp [noMark])) inside).resolve_left outside
    have behind : marker <:+: Text.lower word ++ ['\x22'] :=
      (Text.infix_append isWord (.of_left (by simp [noMark]) _) quoted).resolve_left alone
    exact (Text.infix_append isWord (.of_right _ (by simp [noMark])) behind).resolve_right alone
  · intro inside
    exact inside.trans ⟨Text.lower Table.complaint ++ ['\x22'], ['\x22'], by simp⟩

/-- The success markers are words in lower case, and none of them stands in the fixed part of the
line. -/
theorem marker_facts : ∀ marker ∈ Language.sql.successMarkers,
    normalize (some marker.toList) = marker.toList ∧ marker.toList ≠ [] ∧
      (∀ c ∈ marker.toList, Text.isWordChar c = true) ∧
      Text.occursIn marker.toList (Text.lower Table.complaint) = false := by
  decide +kernel

/-- The line about a syntax error has a success marker exactly if the word that it names has one. -/
theorem any_marker_iff (word : Text) :
    ((Language.sql.successMarkers.map String.toList).any fun marker =>
      !(normalize (some marker)).isEmpty &&
        Text.occursIn (normalize (some marker))
          (normalize (some (Table.syntaxError word)))) = true ↔
      HasMarker word := by
  have each : ∀ marker ∈ Language.sql.successMarkers,
      (!(normalize (some marker.toList)).isEmpty && Text.occursIn (normalize (some marker.toList))
        (normalize (some (Table.syntaxError word)))) =
          Text.occursIn marker.toList (Text.lower word) := by
    intro marker member
    obtain ⟨same, nonempty, solid, outside⟩ := marker_facts marker member
    rw [same, occursIn_normalize_syntaxError ⟨nonempty, solid⟩ outside]
    simp [nonempty]
  rw [List.any_map, List.any_eq_true]
  unfold HasMarker
  constructor
  · rintro ⟨marker, member, found⟩
    exact ⟨marker, member, (each marker member).symm.trans found⟩
  · rintro ⟨marker, member, found⟩
    exact ⟨marker, member, (each marker member).trans found⟩

/-- A syntax error fails a run that demands something else exactly if the word has no success
marker. -/
theorem grade_syntaxError {expected : Option Text} {word : Text} (demands : Demands expected word) :
    grade (some (Table.syntaxError word)) expected (Language.sql.successMarkers.map String.toList) =
      .fail ↔ ¬ HasMarker word := by
  obtain ⟨some, absent⟩ := demands
  have unmet : ¬ ((normalize expected).isEmpty ||
      Text.occursIn (normalize expected) (normalize (.some (Table.syntaxError word)))) = true := by
    simpa [absent] using some
  rw [← any_marker_iff]
  unfold grade
  simp only
  rw [if_neg unmet]
  split
  case isTrue marked => simpa using marked
  case isFalse unmarked => simpa using unmarked

end Verdict

namespace Attempt

/-- A run on a syntax error fails unless a success marker stands in the word of the line. -/
theorem verdict_syntaxError {a : Attempt} (sql : a.language = Language.sql) {word : Text}
    (rejected : Table.users.answer a.source = .ok [Table.syntaxError word])
    (demands : Demands a.exercise.expected word) :
    a.outcome.verdict = .fail ↔ ¬ HasMarker word := by
  have output : a.language.output a.source = .ok (some [Table.syntaxError word]) := by
    have engine : Language.sql.engine = .sql := rfl
    rw [sql, Language.output, engine, rejected]
    rfl
  have verdict : a.outcome.verdict = Verdict.grade (some (Table.syntaxError word))
      a.exercise.expected (Language.sql.successMarkers.map String.toList) := by
    rw [outcome, Grade.ofSource, output, sql]
    rfl
  rw [verdict]
  exact Verdict.grade_syntaxError demands

end Attempt

/-! ## The announcement -/

namespace Desk

/-- An announcement of a run has been scheduled: its task waits or has begun. -/
def Schedules (d : Desk) (i run : Nat) : Prop :=
  (∃ task ∈ d.agenda.tasks, task.action = .complete i run) ∨
    ∃ m ∈ d.journal, ∃ task, m.event = .began task ∧ task.action = .complete i run

variable {P : Call → Prop} {d d' : Desk} {i run : Nat}

namespace Schedules

/-- No announcement of the run is put down and no task begins. -/
theorem before (scheduled : d'.Schedules i run)
    (tasks : ∀ task ∈ d'.agenda.tasks, task.action = .complete i run → task ∈ d.agenda.tasks)
    (journal : ∀ m ∈ d'.journal, m ∈ d.journal ∨ ∀ task, m.event ≠ .began task) :
    d.Schedules i run := by
  rcases scheduled with ⟨task, member, action⟩ | ⟨m, member, task, began, action⟩
  · exact .inl ⟨task, tasks task member action, action⟩
  · rcases journal m member with old | other
    · exact .inr ⟨m, old, task, began, action⟩
    · exact absurd began (other task)

/-- What an event shows as scheduled was so before, unless a task began. -/
theorem before_note {event : Event} (scheduled : (d.note event).Schedules i run)
    (other : ∀ task, event ≠ .began task) : d.Schedules i run := by
  apply scheduled.before
  · exact fun _ member _ => member
  · intro m member
    rcases List.mem_cons.mp member with rfl | old
    · exact .inr other
    · exact .inl old

/-- Putting down another task schedules no announcement of the run. -/
theorem before_put {delay : Float} {name : Text} {action : Action}
    (scheduled : (d.put delay name action).2.Schedules i run) (other : action ≠ .complete i run) :
    d.Schedules i run := by
  apply scheduled.before
  · intro task member complete
    rcases Agenda.mem_put.mp member with rfl | old
    · exact absurd complete other
    · exact old
  · exact fun _ member => .inl member

/-- Changing an attempt schedules nothing. -/
theorem before_modify {k : Nat} {change : Attempt → Attempt}
    (scheduled : (d.modify k change).Schedules i run) : d.Schedules i run :=
  scheduled.before (fun _ member _ => member) fun _ member => .inl member

/-- A task that begins was scheduled while it waited. -/
theorem before_take {reading : Float} {task : Task Action} {rest : Desk}
    (taken : d.takeDue? reading = some (task, rest))
    (scheduled : ((rest.moveTo task.due).note (.began task)).Schedules i run) :
    d.Schedules i run := by
  obtain ⟨waits, left⟩ := mem_of_takeDue? taken
  have journal : (rest.moveTo task.due).journal = d.journal := by rw [(moveTo_of_takeDue? taken).2]
  rcases scheduled with ⟨other, member, action⟩ | ⟨m, member, other, began, action⟩
  · exact .inl ⟨other, left other member, action⟩
  · rw [note_journal, journal] at member
    rcases List.mem_cons.mp member with rfl | old
    · obtain rfl : task = other := by simpa using began
      exact .inl ⟨task, waits, action⟩
    · exact .inr ⟨m, old, other, began, action⟩

/-- A run that takes place puts down an announcement only if it is accepted. -/
theorem before_finish {k number : Nat} {a : Attempt}
    (scheduled : (d.finish k number a).2.Schedules i run) :
    d.Schedules i run ∨ ∃ reading, Accepted (d.finish k number a).2.journal i run reading := by
  rw [finish_journal]
  by_cases success : a.outcome.verdict = .success
  · by_cases this : Action.complete k number = .complete i run
    · cases this
      exact .inr ⟨_, _, List.mem_cons_self, rfl, a.outcome, rfl, success⟩
    · left
      rw [finish_snd, promise_eq] at scheduled
      have finished := scheduled.before_note (by simp)
      split at finished
      · exact (finished.before_put this).before_modify
      · exact finished.before_modify
  · left
    rw [finish_snd, promise_eq, if_neg fun both => success both.1] at scheduled
    exact (scheduled.before_note (by simp)).before_modify

end Schedules

/-- A task that begins schedules the announcement of a run only if the run is accepted. -/
theorem schedules_begin {reading : Float} {task : Task Action} {rest : Desk}
    (taken : d.takeDue? reading = some (task, rest))
    (scheduled : ((rest.moveTo task.due).begin task).2.Schedules i run) :
    d.Schedules i run ∨
      ∃ reading, Accepted ((rest.moveTo task.due).begin task).2.journal i run reading := by
  have begun := (rest.moveTo task.due).begins task
  have began (scheduled : ((rest.moveTo task.due).note (.began task)).Schedules i run) :
      d.Schedules i run := scheduled.before_take taken
  generalize (rest.moveTo task.due).begin task = result at begun scheduled ⊢
  cases begun with
  | script => exact .inl (began scheduled)
  | stray => exact .inl (began scheduled)
  | run => exact scheduled.before_finish.imp_left began
  | @announcement k number a =>
    have noted : (((rest.moveTo task.due).note (.began task)).note
        (.announced k a.exercise)).Schedules i run := scheduled
    exact .inl (began (noted.before_note (by simp)))

/-- Whatever happens, an announcement is scheduled only for a run that was accepted. -/
theorem Step.schedules (step : d.Step P d') (scheduled : d'.Schedules i run) :
    d.Schedules i run ∨ ∃ reading, Accepted d'.journal i run reading := by
  -- Every step but the begin of a task leaves the announcements in the queue as they were.
  cases step with
  | @schedule delay name body task agenda allowed placed =>
    obtain ⟨-, put⟩ := Agenda.schedule_eq_ok_iff.mp placed
    have noted := scheduled.before_note (by simp)
    have placing : { d with agenda } = (d.put delay name (.script body)).2 := by
      rw [Desk.put, put]
    rw [placing] at noted
    exact .inl (noted.before_put (by simp))
  | @turn c clock =>
    exact .inl ((scheduled.before_note (by simp)).before (fun _ member _ => member)
      fun _ member => .inl member)
  | openExercise =>
    exact .inl ((scheduled.before_note (by simp)).before (fun _ member _ => member)
      fun _ member => .inl member)
  | @launch target k a aimed found idle =>
    rw [launch_snd d k idle] at scheduled
    have launched := (scheduled.before_note (by simp)).before_note (by simp)
    exact .inl (launched.before_put (by simp)).before_modify
  | edit => exact .inl (scheduled.before_note (by simp)).before_modify
  | @addObserver target conduct k =>
    have observed := scheduled.before_note (by simp)
    exact .inl (observed.before (fun _ member _ => member) fun _ member => .inl member)
  | answer => exact .inl (scheduled.before_note (by simp))
  | begin taken => exact schedules_begin taken scheduled
  | @tell k number place observer report =>
    obtain ⟨bench, entry⟩ := d.tell_snd k number observer report
    left
    apply scheduled.before
    · rw [bench]
      exact fun _ member _ => member
    · rw [entry]
      intro m member
      rcases List.mem_cons.mp member with rfl | old
      · exact .inr (by simp)
      · exact .inl old
  | doze => exact .inl (scheduled.before_note (by simp))
  | wake => exact .inl (scheduled.before (fun _ member _ => member) fun _ member => .inl member)
  | move => exact .inl (scheduled.before (fun _ member _ => member) fun _ member => .inl member)

/-- Every announcement that has been scheduled is that of an accepted run. -/
def Honest (d : Desk) : Prop :=
  ∀ i run, d.Schedules i run → ∃ reading, Accepted d.journal i run reading

/-- A run of steps keeps a desk honest. -/
theorem Run.honest (run : d.Run P d') (honest : d.Honest) : d'.Honest := by
  refine run.keeps honest fun step honest i number scheduled => ?_
  rcases step.schedules scheduled with old | accepted
  · obtain ⟨reading, accepted⟩ := honest i number old
    exact ⟨reading, accepted.mono step.journal⟩
  · exact accepted

/-- A fresh desk is honest. -/
theorem honest_fresh (clock : Clock) (sink : Option Conduct) (observers : List Conduct)
    (sleeper : Sleeper) : (fresh clock sink observers sleeper).Honest := by
  intro i run scheduled
  simp [Schedules, fresh] at scheduled

/-- No run finishes twice, so its grade is the only one. -/
theorem grade_unique {journal : List Moment} (distinct : (finishedNumbers journal).Nodup)
    {m m' : Moment} (first : m ∈ journal) (second : m' ∈ journal) {k : Nat} {g g' : Grade}
    (event : m.event = .finished i run g) (event' : m'.event = .finished k run g') : g = g' := by
  have counted {m : Moment} {journal : List Moment} {j : Nat} {g : Grade}
      (member : m ∈ journal) (event : m.event = .finished j run g) :
      run ∈ finishedNumbers journal :=
    List.mem_filterMap.mpr ⟨m, member, by simp [Moment.finished?, event]⟩
  induction journal with
  | nil => cases first
  | cons n earlier ih =>
    have once {n : Moment} {j : Nat} {g : Grade} (event : n.event = .finished j run g)
        (distinct : (finishedNumbers (n :: earlier)).Nodup) : run ∉ finishedNumbers earlier := by
      have number : finishedNumbers (n :: earlier) = run :: finishedNumbers earlier :=
        List.filterMap_cons_some (by simp [Moment.finished?, event])
      rw [number] at distinct
      exact (List.nodup_cons.mp distinct).1
    have others : (finishedNumbers earlier).Nodup :=
      distinct.sublist ((List.sublist_cons_self n earlier).filterMap _)
    rcases List.mem_cons.mp first with rfl | old
    · rcases List.mem_cons.mp second with rfl | old'
      · rw [event] at event'
        cases event'
        rfl
      · exact absurd (counted old' event') (once event distinct)
    · rcases List.mem_cons.mp second with rfl | old'
      · exact absurd (counted old event) (once event' distinct)
      · exact ih others old old'

/-- **Syntax errors.** In every history, a run on a query with an unknown command whose expected
text is not in the line about it fails and is never announced, exactly if no success marker stands
in the word that the line quotes. -/
theorem syntaxError_failed_iff (depth : Nat) (calls : List Call) (clock : Clock)
    (sink : Option Conduct) (observers : List Conduct) (sleeper : Sleeper) {m : Moment}
    (happened : m ∈ (history depth calls (fresh clock sink observers sleeper)).journal) {g : Grade}
    (finished : m.event = .finished i run g) {a : Attempt} (known : m.bench.attempts[i]? = some a)
    (sql : a.language = Language.sql) {word : Text}
    (rejected : Table.users.answer a.source = .ok [Table.syntaxError word])
    (demands : Demands a.exercise.expected word) :
    (g.verdict = .fail ∧
        ¬ (history depth calls (fresh clock sink observers sleeper)).Schedules i run) ↔
      ¬ HasMarker word := by
  have steps := history_run_fresh depth calls clock sink observers sleeper
  have faithful := steps.faithful (coherent_fresh clock sink observers sleeper)
    (faithful_fresh clock sink observers sleeper)
  have honest := steps.honest (honest_fresh clock sink observers sleeper)
  have ledger := steps.ledger (ledger_fresh clock sink observers sleeper)
  have distinct := ledger.finished.nodup ledger.nodup
  generalize history depth calls (fresh clock sink observers sleeper) = d at *
  have outcome : g = a.outcome := by
    obtain ⟨earlier, -, truthful⟩ := faithful.moments.mem happened
    unfold Moment.Truthful at truthful
    rw [finished] at truthful
    obtain ⟨a₀, a', -, known', same, grade, -⟩ := truthful
    obtain rfl : a = a' := Option.some.inj (known.symm.trans known')
    exact grade.trans (congrArg Report.grade same).symm
  rw [← Attempt.verdict_syntaxError sql rejected demands, ← outcome]
  constructor
  · exact fun failed => failed.1
  · intro failed
    refine ⟨failed, fun scheduled => ?_⟩
    obtain ⟨reading, m', member, -, g', accepted, success⟩ := honest i run scheduled
    rw [grade_unique distinct happened member finished accepted, success] at failed
    cases failed

/-- A session on an exercise in SQL whose starter is run at once. -/
def queryDrive (starter expected : String) : Desk :=
  history 12 [.openExercise ⟨['e'], some "sql".toList, some starter.toList, some expected.toList⟩,
    .ask none .run, .advance 1] (fresh ⟨.virtual, 0⟩ (some fun _ => []) [])

/-- Whether the first run of a session takes place at a moment, on the given query. -/
def gradesQuery (source expected : String) (m : Moment) : Bool :=
  match m.event, m.bench.attempts[0]? with
  | .finished 0 0 _, some a => a.language == Language.sql && a.source == source.toList &&
      a.exercise.expected == some expected.toList
  | _, _ => false

/-- The word `SELEC` has no success marker, so the run fails and nothing is scheduled. -/
theorem syntaxError_failed_iff_selec :
    ∃ m ∈ (queryDrive "SELEC" "alice").journal, ∃ g, m.event = .finished 0 0 g ∧
      g.verdict = .fail ∧ ¬ (queryDrive "SELEC" "alice").Schedules 0 0 := by
  have graded : (queryDrive "SELEC" "alice").journal.any (gradesQuery "SELEC" "alice") = true := by
    decide +kernel
  obtain ⟨m, happened, graded⟩ := List.any_eq_true.mp graded
  unfold gradesQuery at graded
  split at graded
  case h_1 g a finished known =>
    simp only [Bool.and_eq_true, beq_iff_eq] at graded
    obtain ⟨⟨sql, source⟩, expected⟩ := graded
    have rejected : Table.users.answer a.source = .ok [Table.syntaxError "SELEC".toList] := by
      have command : Statement.ofText "SELEC".toList = .unknown "SELEC".toList := by decide +kernel
      rw [source, Table.answer, command, Table.run_unknown]
    have demands : Demands a.exercise.expected "SELEC".toList := by
      rw [expected]
      decide +kernel
    have unmarked : ¬ HasMarker "SELEC".toList := by decide +kernel
    have failed := (syntaxError_failed_iff 12 _ _ _ [] Sleeper.exact happened finished known sql
      rejected demands).mpr unmarked
    exact ⟨m, happened, g, finished, failed⟩
  case h_2 => cases graded

/-- A word with the letters of a marker is no command, and the run passes and will be announced. -/
theorem syntaxError_passed_book :
    Table.users.answer "BOOK".toList = .ok [Table.syntaxError "BOOK".toList] ∧
      Demands (some "zed".toList) "BOOK".toList ∧
      lastGrade? 0 (queryDrive "BOOK" "zed").journal =
        some (Grade.ofSource Language.sql (some "zed".toList) "BOOK".toList) ∧
      (Grade.ofSource Language.sql (some "zed".toList) "BOOK".toList).verdict = .success ∧
      (queryDrive "BOOK" "zed").waiting (Action.isComplete 0 fun _ => true) = 1 := by
  decide +kernel

end Desk

end DryRun
