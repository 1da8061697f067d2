import DryRun.Proofs.Desk.Audience
import DryRun.Proofs.Desk.Ledger

/-!
# Copies of reports

The copies of the report of a run are read off the journal, in the order in which they were handed
out. Of all that can happen only the end of a run and a report that is handed out matter to them
(`Desk.Mute`), and there is no copy of a report before its run has finished (`Orderly.reported`).
-/

set_option autoImplicit false

namespace DryRun

/-- A copy of a report, which an observer is told on behalf of an attempt. -/
structure Copy where
  attempt : Nat
  observer : Nat
  report : Report

/-- The copy of the report of a run that is handed out at a moment, if one is. -/
def Moment.copy? (run : Nat) (m : Moment) : Option Copy :=
  match m.event with
  | .reported i r observer report => if r = run then some ⟨i, observer, report⟩ else none
  | _ => none

/-- The copies of the report of a run that have been handed out, the first one first. -/
def copies (run : Nat) (journal : List Moment) : List Copy :=
  (journal.filterMap (Moment.copy? run)).reverse

/-- Copies of a report for certain observers of an attempt. -/
def copiesFor (i : Nat) (report : Report) (observers : List Nat) : List Copy :=
  observers.map fun observer => ⟨i, observer, report⟩

/-- Whether something that happened is neither the end of a run nor a report. -/
def Event.IsMute : Event → Prop
  | .finished .. | .reported .. => False
  | _ => True

/-- What is mute adds no copy. -/
theorem copies_append_of_mute {run : Nat} {recent journal : List Moment}
    (mute : ∀ m ∈ recent, m.event.IsMute) :
    copies run (recent ++ journal) = copies run journal := by
  have none : recent.filterMap (Moment.copy? run) = [] := by
    refine List.filterMap_eq_nil_iff.mpr fun m member => ?_
    obtain ⟨event, bench⟩ := m
    cases event <;> first | rfl | exact (mute _ member).elim
  rw [copies, List.filterMap_append, none]
  rfl

/-- A run that was written down as finished is among those that have finished. -/
theorem mem_finishedNumbers {journal : List Moment} {m : Moment} (member : m ∈ journal)
    {i run : Nat} {g : Grade} (event : m.event = .finished i run g) :
    run ∈ finishedNumbers journal := by
  refine List.mem_filterMap.mpr ⟨m, member, ?_⟩
  rw [Moment.finished?, event]

/-- A run that has finished stays among those that have. -/
theorem finishedNumbers_mono {journal longer : List Moment} (suffix : journal <:+ longer) :
    finishedNumbers journal ⊆ finishedNumbers longer :=
  (suffix.sublist.filterMap _).subset

/-- What is mute finishes no run. -/
theorem finishedNumbers_append_of_mute {recent journal : List Moment}
    (mute : ∀ m ∈ recent, m.event.IsMute) :
    finishedNumbers (recent ++ journal) = finishedNumbers journal := by
  have none : recent.filterMap Moment.finished? = [] := by
    refine List.filterMap_eq_nil_iff.mpr fun m member => ?_
    obtain ⟨event, bench⟩ := m
    cases event <;> first | rfl | exact (mute _ member).elim
  rw [finishedNumbers, List.filterMap_append, none]
  rfl

namespace Desk

variable {P : Call → Prop} {d d₁ d' : Desk}

/-- Nothing about a run has been written down since. -/
def Mute (d d' : Desk) : Prop :=
  ∃ recent, d'.journal = recent ++ d.journal ∧ ∀ m ∈ recent, m.event.IsMute

/-- Where nothing was written down nothing about a run was. -/
theorem mute_of_eq (journal : d'.journal = d.journal) : d.Mute d' := ⟨[], journal, by simp⟩

/-- Something mute may be written down. -/
theorem mute_note (d : Desk) {event : Event} (mute : event.IsMute) : d.Mute (d.note event) :=
  ⟨[_], rfl, by simpa using mute⟩

/-- Starting a run is mute. -/
theorem mute_launch (i : Nat) (a : Attempt) : d.Mute (d.launch i a).2 := by
  unfold launch
  split
  · exact mute_note _ trivial
  · exact mute_of_eq rfl

/-- Granting a request is mute. -/
theorem mute_grant (i : Nat) (a : Attempt) (request : Request) :
    d.Mute (d.grant i a request).2 := by
  cases changes : request.change? with
  | some f =>
    simp only [grant, changes, change]
    split <;> exact mute_of_eq rfl
  | none =>
    by_cases asked : request = .run
    · subst asked
      exact mute_launch i a
    · rw [(d.grant_of_question i a asked changes).1]
      exact mute_of_eq rfl

/-- Two mute stretches are one. -/
theorem Mute.trans (first : d.Mute d₁) (second : d₁.Mute d') : d.Mute d' := by
  obtain ⟨recent, entries, mute⟩ := first
  obtain ⟨recent', entries', mute'⟩ := second
  exact ⟨recent' ++ recent, by rw [entries', entries, List.append_assoc],
    List.forall_mem_append.mpr ⟨mute', mute⟩⟩

/-- The journal only grows. -/
theorem Mute.journal (mute : d.Mute d') : d.journal <:+ d'.journal := by
  obtain ⟨recent, entries, -⟩ := mute
  exact ⟨recent, entries.symm⟩

/-- A call that sets off no other work is no end of a run and no report. -/
theorem mute_answer (next : Performer) {c : Call} (direct : ¬ c.IsNesting) :
    d.Mute (Work.answer next d c).2 := by
  have same : d.Mute d := mute_of_eq rfl
  cases c with
  | schedule delay name body =>
    rw [Work.answer]
    split
    · exact mute_of_eq rfl
    · exact same
  | moveClock | setClock =>
    simp only [Work.answer, Work.setClock]
    split
    · exact mute_of_eq rfl
    · exact same
  | ask target request =>
    simp only [Work.answer]
    split
    · exact same
    · split
      · exact same
      · exact mute_grant _ _ request
  | addObserver =>
    rw [Work.answer]
    split
    · exact same
    · exact mute_of_eq rfl
  | fail | look => exact same
  | elapse | openExercise => exact mute_of_eq rfl
  | advance | runDue | runNext | runUntilIdle | shielded => exact absurd trivial direct

/-- The answer to a call is mute. -/
theorem mute_settle (c : Call) {result : Outcome Reply × Desk} (mute : d.Mute result.2) :
    d.Mute (Work.settle c result) := by
  obtain ⟨outcome, d₁⟩ := result
  cases outcome with
  | returned => exact mute.trans (d₁.mute_note trivial)
  | _ => exact mute

/-- What holds of the journal whenever work is done: every task has its own number, every audience
is made of different observers, and no report was handed out before its run had finished. -/
structure Orderly (d : Desk) : Prop where
  ledger : d.Ledger
  enrolled : d.Enrolled
  reported : ∀ run, run ∉ finishedNumbers d.journal → copies run d.journal = []

/-- A run whose report is filed has finished. -/
theorem finishedNumbers_of_filed {i run : Nat} {report : Report} (filed : d.Filed i run report) :
    run ∈ finishedNumbers d.journal := by
  obtain ⟨m, member, event, -⟩ := filed
  exact mem_finishedNumbers member event

/-- A run has not finished before it finishes. -/
theorem Orderly.not_mem_finishedNumbers (orderly : d.Orderly) {m : Moment} {earlier : List Moment}
    (suffix : m :: earlier <:+ d.journal) {i run : Nat} {g : Grade}
    (event : m.event = .finished i run g) : run ∉ finishedNumbers earlier := by
  have number : finishedNumbers (m :: earlier) = run :: finishedNumbers earlier := by
    rw [finishedNumbers, List.filterMap_cons, Moment.finished?, event]
    rfl
  have distinct := orderly.ledger.finished.nodup orderly.ledger.nodup
  exact (List.nodup_cons.mp (number ▸ distinct.sublist (suffix.sublist.filterMap _))).1

/-- If no report was handed out before its run had finished, this is still so after something mute.
-/
theorem Mute.reported (mute : d.Mute d')
    (reported : ∀ run, run ∉ finishedNumbers d.journal → copies run d.journal = []) :
    ∀ run, run ∉ finishedNumbers d'.journal → copies run d'.journal = [] := by
  obtain ⟨recent, entries, mute⟩ := mute
  rw [entries, finishedNumbers_append_of_mute mute]
  intro run unfinished
  rw [copies_append_of_mute mute]
  exact reported run unfinished

/-- An observer who is told makes one more copy of the report of that run, and none of another one.
-/
theorem copies_tell (d : Desk) (i run observer : Nat) (report : Report) (r : Nat) :
    copies r (d.tell i run observer report).2.journal =
      copies r d.journal ++ if run = r then [⟨i, observer, report⟩] else [] := by
  rw [(d.tell_snd i run observer report).2, copies, List.filterMap_cons]
  simp only [Moment.copy?]
  split_ifs <;> simp [copies]

/-- A task that begins sets off calls, or a run of an attempt has finished in it and its report is
to be handed out. -/
inductive Opens (d : Desk) (task : Task Action) : Sequel × Desk → Prop where
  | script {calls d'} (mute : d.Mute d') : Opens d task (.script calls, d')
  | deliver {i a d'} (known : d'.attempts[i]? = some a) (graded : a.grade = some a.outcome)
      (journal : d'.journal =
        ⟨.finished i task.sequence a.outcome, d'.toBench⟩ :: ⟨.began task, d.toBench⟩ ::
          d.journal) : Opens d task (.deliver i task.sequence a.report, d')

/-- A task that begins sets off calls or a report. -/
theorem opens (d : Desk) (task : Task Action) : d.Opens task (d.begin task) := by
  have begun := d.begins task
  generalize d.begin task = result at begun ⊢
  cases begun with
  | script => exact .script (d.mute_note trivial)
  | stray => exact .script (d.mute_note trivial)
  | @run i a action known =>
    have finished : ((d.note (.began task)).finish i task.sequence a).2.attempts[i]? =
        some a.finish := by
      rw [finish_getElem?, if_pos rfl, note_toBench, known]
      rfl
    exact .deliver (a := a.finish) finished rfl (finish_journal _ _ _ _)
  | announcement =>
    have noted : d.Mute (d.note (.began task)) := d.mute_note trivial
    exact .script (noted.trans (mute_note _ trivial))

/-- No step hands out a report before its run has finished. -/
theorem Step.reported (step : d.Step P d')
    (reported : ∀ run, run ∉ finishedNumbers d.journal → copies run d.journal = []) :
    ∀ run, run ∉ finishedNumbers d'.journal → copies run d'.journal = [] := by
  cases step with
  | schedule => exact Mute.reported (mute_note _ trivial) reported
  | turn => exact Mute.reported (mute_note _ trivial) reported
  | openExercise => exact Mute.reported (mute_note _ trivial) reported
  | @launch target i a =>
    have answered : (d.launch i a).2.Mute
        ((d.launch i a).2.note (.answered (.ask target .run) (.granted true))) :=
      mute_note _ trivial
    exact ((mute_launch i a).trans answered).reported reported
  | edit => exact Mute.reported (mute_note _ trivial) reported
  | addObserver => exact Mute.reported (mute_note _ trivial) reported
  | answer => exact Mute.reported (mute_note _ trivial) reported
  | @begin reading task rest taken =>
    have same : (rest.moveTo task.due).journal = d.journal := by
      rw [(moveTo_of_takeDue? taken).2]
    have opened := (rest.moveTo task.due).opens task
    generalize (rest.moveTo task.due).begin task = result at opened ⊢
    cases opened with
    | script mute => exact mute.reported (same ▸ reported)
    | deliver _ _ journal =>
      rw [journal, same]
      intro run unfinished
      exact reported run fun old => unfinished (List.mem_cons_of_mem _ old)
  | @tell i run place observer report filed =>
    -- The report that is handed out is on file, so its run has finished and is another one.
    intro r unfinished
    have other : run ≠ r := by
      rintro rfl
      refine unfinished ?_
      rw [(d.tell_snd i run observer report).2]
      exact finishedNumbers_of_filed filed
    rw [copies_tell, if_neg other, List.append_nil]
    refine reported r ?_
    rw [(d.tell_snd i run observer report).2] at unfinished
    exact unfinished
  | doze => exact Mute.reported (mute_note _ trivial) reported
  | wake => exact reported
  | move => exact reported

/-- A run of steps leaves a desk orderly. -/
theorem Run.orderly (run : d.Run P d') (orderly : d.Orderly) : d'.Orderly where
  ledger := run.ledger orderly.ledger
  enrolled := run.enrolled orderly.enrolled
  reported := run.keeps orderly.reported fun step => step.reported

/-- A fresh desk is orderly. -/
theorem orderly_fresh (clock : Clock) (sink : Option Conduct) (observers : List Conduct)
    (sleeper : Sleeper) : (fresh clock sink observers sleeper).Orderly where
  ledger := ledger_fresh clock sink observers sleeper
  enrolled := enrolled_fresh clock sink observers sleeper
  reported := fun _ _ => rfl

end Desk

end DryRun
