import DryRun.Proofs.Desk.Copies
import DryRun.Proofs.Desk.Ending
import DryRun.Proofs.Desk.Registration

/-!
# How reports are handed out

An observer who is told about a run may do anything at the desk before the next observer is told:
edit the attempt, run it again, drive the agenda so that other runs finish, register more observers,
fail. `Desk.reports_handed_out` says what becomes of the report of every run all the same: it goes
to those who are in the audience of the attempt when the handing out comes to its end, to each of
them once and in order, and it says what the attempt was when the run finished. Who is in an
audience is not left to the desk: these are the observers that the desk was given and those whom
calls have registered with the attempt until then (`Desk.Registered`).

The induction is over how deep work is nested (`perform_passing`). Work of any kind passes over the
reports of runs that had finished before (`Desk.Passes.still`), for these have been handed out, or
they are being handed out by somebody who waits for that work; and it hands out the reports of runs
that finish in it (`Desk.Passes.handed`). Only work that hands out a report itself owes its copies.
Since an audience grows only at its end, the place up to which a report has been handed out still
splits it into those who were told and those who were not, whatever happened in between
(`Work.deliver_passed`).
-/

set_option autoImplicit false

namespace DryRun

namespace Desk

/-- How the report of a run is handed out that has just finished at a desk, until a later desk: to
all who are in the audience when the handing out comes to an end, and to nobody after that; or only
to the first of them, if the work is cut off before that. -/
inductive HandsOut (i run : Nat) (report : Report) (d final : Desk) (cut : Prop) : Prop where
  | fully {d₁} (handed : d.Does (.deliver i run report 0) (.returned ()) d₁)
      (way : d.Run (fun _ => True) d₁) (onward : d₁.Run (fun _ => True) final)
      (grown : d.audience i <+: d₁.audience i) (known : d₁.Knows (d₁.audience i))
      (told : copies run final.journal = copiesFor i report (d₁.audience i))
  | partly {depth place} (unfinished : cut)
      (handed : perform depth (.deliver i run report 0) d = (.unfinished, final))
      (told : copies run final.journal = copiesFor i report ((final.audience i).take place))

end Desk

/-- If a run of an attempt finishes at a moment, its report is handed out from then on. -/
def Moment.HandedOut (m : Moment) (earlier : List Moment) (start final : Desk) (cut : Prop) :
    Prop :=
  ∀ i run g, m.event = .finished i run g → ∃ (d : Desk) (a : Attempt),
    start.Run (fun _ => True) d ∧ d.toBench = m.bench ∧ d.journal = m :: earlier ∧
      m.bench.attempts[i]? = some a ∧ a.grade = some g ∧ a.outcome = g ∧
      d.HandsOut i run a.report final cut

/-- A moment of a journal is one of an earlier journal or has come after all of that. -/
theorem cons_suffix_or_suffix {m : Moment} {earlier journal longer : List Moment}
    (suffix : m :: earlier <:+ longer) (part : journal <:+ longer) :
    m :: earlier <:+ journal ∨ journal <:+ earlier := by
  rcases List.suffix_or_suffix_of_suffix suffix part with old | new
  · exact .inl old
  rcases List.suffix_cons_iff.mp new with same | new
  · exact .inl (same ▸ List.suffix_refl _)
  · exact .inr new

namespace Desk

variable {d d₁ d' : Desk} {own : Option Nat} {cut cut' : Prop}

/-- What work may do about the reports of runs, other than a report that it hands out itself: no
copy is added to the report of a run that had finished before, and the report of a run that
finishes is handed out. -/
structure Passes (own : Option Nat) (d d' : Desk) (cut : Prop) : Prop where
  run : d.Run (fun _ => True) d'
  still : ∀ run ∈ finishedNumbers d.journal, some run ≠ own →
    copies run d'.journal = copies run d.journal
  handed : ∀ m earlier, m :: earlier <:+ d'.journal → d.journal <:+ earlier →
    m.HandedOut earlier d d' cut

namespace Passes

/-- Work that lets no run finish. -/
theorem of_unfinished (run : d.Run (fun _ => True) d') {recent : List Moment}
    (entries : d'.journal = recent ++ d.journal)
    (unfinished : ∀ m ∈ recent, ∀ i run g, m.event ≠ .finished i run g)
    (still : ∀ run, some run ≠ own → copies run d'.journal = copies run d.journal) :
    d.Passes own d' cut := by
  refine ⟨run, fun run _ => still run, fun m earlier suffix within i run g event => ?_⟩
  obtain ⟨newer, same⟩ := suffix
  obtain ⟨inner, rfl⟩ := within
  have new : m ∈ recent := by
    rw [entries, ← List.cons_append, ← List.append_assoc, List.append_cancel_right_eq] at same
    exact same ▸ List.mem_append_right _ List.mem_cons_self
  exact absurd event (unfinished m new i run g)

/-- A mute run of steps passes. -/
theorem of_mute (run : d.Run (fun _ => True) d') (mute : d.Mute d') : d.Passes own d' cut := by
  obtain ⟨recent, entries, mute⟩ := mute
  refine .of_unfinished run entries (fun m member i run g event => ?_) fun run _ => ?_
  · have silent := mute m member
    rw [event] at silent
    exact silent
  · rw [entries, copies_append_of_mute mute]

/-- An observer is told about a run. -/
theorem of_tell {i run place observer : Nat} {report : Report} (filed : d.Filed i run report)
    (listens : d.listener? i place = some observer) :
    d.Passes (some run) (d.tell i run observer report).2 cut := by
  have entries : (d.tell i run observer report).2.journal =
      [⟨.reported i run observer report, d.toBench⟩] ++ d.journal :=
    (d.tell_snd i run observer report).2
  refine .of_unfinished (.single (.tell filed listens)) entries (by simp) fun r other => ?_
  have apart : run ≠ r := fun same => other (congrArg some same.symm)
  rw [copies_tell, if_neg apart, List.append_nil]

/-- A passage may be said to be cut off in more cases than it is. -/
theorem mono (passes : d.Passes own d' cut) (weaker : cut → cut') : d.Passes own d' cut' := by
  refine ⟨passes.run, passes.still, fun m earlier suffix within i run g event => ?_⟩
  obtain ⟨d₀, a, start, bench, entries, known, graded, outcome, handed⟩ :=
    passes.handed m earlier suffix within i run g event
  refine ⟨d₀, a, start, bench, entries, known, graded, outcome, ?_⟩
  cases handed with
  | fully handed way onward grown known told => exact .fully handed way onward grown known told
  | partly unfinished handed told => exact .partly (weaker unfinished) handed told

/-- Work is followed by other work. -/
theorem trans (orderly : d.Orderly) (owned : ∀ run ∈ own, run ∈ finishedNumbers d.journal)
    (first : d.Passes own d₁ False) (second : d₁.Passes own d' cut) : d.Passes own d' cut := by
  refine ⟨first.run.trans second.run, fun run old other => ?_, fun m earlier suffix within => ?_⟩
  · have kept := finishedNumbers_mono first.run.journal old
    exact (second.still run kept other).trans (first.still run old other)
  -- The report of a run that finishes in the first part is not handed out in the second one.
  have early (inner : m :: earlier <:+ d₁.journal) : m.HandedOut earlier d d' cut := by
    intro i run g event
    obtain ⟨d₀, a, start, bench, entries, known, graded, outcome, handed⟩ :=
      first.handed m earlier inner within i run g event
    refine ⟨d₀, a, start, bench, entries, known, graded, outcome, ?_⟩
    have other : some run ≠ own := by
      intro same
      have old := finishedNumbers_mono within (owned run same.symm)
      exact (first.run.orderly orderly).not_mem_finishedNumbers inner event old
    have finished : run ∈ finishedNumbers d₁.journal :=
      mem_finishedNumbers (inner.subset List.mem_cons_self) event
    cases handed with
    | fully handed way onward grown known told =>
      exact .fully handed way (onward.trans second.run) grown known
        ((second.still run finished other).trans told)
    | partly unfinished => exact unfinished.elim
  rcases cons_suffix_or_suffix suffix second.run.journal with inner | outer
  · exact early inner
  · intro i run g event
    obtain ⟨d₀, a, start, what⟩ := second.handed m earlier suffix outer i run g event
    exact ⟨d₀, a, first.run.trans start, what⟩

/-- Nothing happens in a passage that stays where it is. -/
theorem refl (d : Desk) : d.Passes own d cut := .of_mute .refl (mute_of_eq rfl)

/-- A passage that hands out no report of its own passes with any. -/
theorem disown (passes : d.Passes none d' cut) : d.Passes own d' cut :=
  ⟨passes.run, fun run old _ => passes.still run old (by simp), passes.handed⟩

/-- Work that has returned is followed by other work, and work that has not is the last. -/
theorem proceed {α β : Type} {part : Outcome α × Desk} {onward : α → Desk → Outcome β × Desk}
    (orderly : d.Orderly) (first : d.Passes none part.2 (part.1 = .unfinished))
    (second : ∀ a d₁, part = (.returned a, d₁) → d₁.Orderly →
      d₁.Passes none (onward a d₁).2 ((onward a d₁).1 = .unfinished)) :
    d.Passes none (Work.proceed part onward).2 ((Work.proceed part onward).1 = .unfinished) := by
  obtain ⟨outcome, d₁⟩ := part
  cases outcome with
  | returned a =>
    exact (first.mono nofun).trans orderly (by simp)
      (second a d₁ rfl (first.run.orderly orderly))
  | failed => exact first.mono nofun
  | unfinished => exact first.mono fun _ => rfl

end Passes

/-- Work has handed out the report of a run to the whole audience or, if it was cut off, to the
first of it, and has passed over the reports of all other runs. -/
structure Delivers (i run : Nat) (report : Report) (d : Desk) (result : Outcome Unit × Desk) :
    Prop where
  passes : d.Passes (some run) result.2 (result.1 = .unfinished)
  fully : result.1 = .returned () →
    copies run result.2.journal = copiesFor i report (result.2.audience i)
  partly : result.1 = .unfinished → ∃ place,
    copies run result.2.journal = copiesFor i report ((result.2.audience i).take place)
  shielded : ∀ failure, result.1 ≠ .failed failure

/-- A delivery that begins with the first observer hands the report out. -/
theorem Delivers.handsOut {depth i run : Nat} {report : Report} (orderly : d.Orderly)
    (delivers : d.Delivers i run report (perform depth (.deliver i run report 0) d)) :
    d.HandsOut i run report (perform depth (.deliver i run report 0) d).2
      ((perform depth (.deliver i run report 0) d).1 = .unfinished) := by
  cases done : perform depth (.deliver i run report 0) d with | mk outcome d' =>
  rw [done] at delivers
  cases outcome with
  | returned =>
    have enrolled := delivers.passes.run.enrolled orderly.enrolled
    exact .fully ⟨nofun, depth, done⟩ delivers.passes.run .refl
      (delivers.passes.run.audience_prefix i) (enrolled.audience i) (delivers.fully rfl)
  | failed failure => exact absurd rfl (delivers.shielded failure)
  | unfinished =>
    obtain ⟨place, told⟩ := delivers.partly rfl
    exact .partly rfl done told

/-- A run finishes, and its report is handed out. -/
theorem Passes.of_finish {i run : Nat} {a : Attempt} {m : Moment} {task : Task Action}
    (begun : d.Run (fun _ => True) d₁) (known : d₁.attempts[i]? = some a)
    (graded : a.grade = some a.outcome)
    (journal : d₁.journal = ⟨.finished i run a.outcome, d₁.toBench⟩ :: m :: d.journal)
    (event : m.event = .began task) (new : run ∉ finishedNumbers d.journal)
    (passes : d₁.Passes (some run) d' cut) (handed : d₁.HandsOut i run a.report d' cut) :
    d.Passes none d' cut := by
  refine ⟨begun.trans passes.run, fun r old _ => ?_, fun k earlier suffix within => ?_⟩
  · have other : run ≠ r := fun same => new (same ▸ old)
    have copied : copies r d₁.journal = copies r d.journal := by
      rw [journal, copies, List.filterMap_cons, List.filterMap_cons, Moment.copy?, Moment.copy?,
        event]
      rfl
    have kept := finishedNumbers_mono begun.journal old
    exact (passes.still r kept fun same => other (Option.some.inj same).symm).trans copied
  -- The run itself is the only one that has finished before its report is handed out.
  have first (inner : k :: earlier <:+ d₁.journal) : k.HandedOut earlier d d' cut := by
    intro i' run' g finished
    rw [journal] at inner
    rcases List.suffix_cons_iff.mp inner with same | inner
    · obtain ⟨rfl, rfl⟩ := List.cons.inj same
      obtain ⟨rfl, rfl, rfl⟩ := Event.finished.inj finished
      exact ⟨d₁, a, begun, rfl, journal, known, graded, rfl, handed⟩
    rcases List.suffix_cons_iff.mp inner with same | inner
    · obtain ⟨rfl, rfl⟩ := List.cons.inj same
      rw [event] at finished
      cases finished
    · have short := inner.length_le
      have long := within.length_le
      rw [List.length_cons] at short
      omega
  rcases cons_suffix_or_suffix suffix passes.run.journal with inner | outer
  · exact first inner
  · intro i' run' g finished
    obtain ⟨d₀, a', start, what⟩ := passes.handed k earlier suffix outer i' run' g finished
    exact ⟨d₀, a', begun.trans start, what⟩

end Desk

namespace Work

open Desk

/-- The report that work is to hand out is that of a run, and it has been handed out to those of the
audience that come before the given place. -/
def Ready (d : Desk) : Work → Prop
  | .deliver i run report place =>
    d.Filed i run report ∧ copies run d.journal = copiesFor i report ((d.audience i).take place)
  | _ => True

/-- Work has passed over the reports of runs, but for one that it was to hand out. The answer to a
call counts as written down. -/
def Passed (d : Desk) : (w : Work) → Outcome w.Answer × Desk → Prop
  | .call c, result => d.Passes none (settle c result) (result.1 = .unfinished)
  | .deliver i run report _, result => d.Delivers i run report result
  | .script _, result | .drainDue _, result | .drainUntil .., result | .drainNext, result
  | .drainAll _, result => d.Passes none result.2 (result.1 = .unfinished)

/-- Work under a certain bound does so. -/
def Passing (depth : Nat) : Prop :=
  ∀ (w : Work) (d : Desk), d.Orderly → w.Ready d → w.Passed d (perform depth w d)

/-- A call that is answered with the outcome of a drive. -/
theorem reportCount_passed {d : Desk} (orderly : d.Orderly) {c : Call}
    {result : Outcome Nat × Desk} (quiet : ∀ reply, c.IsQuiet reply)
    (passed : d.Passes none result.2 (result.1 = .unfinished)) :
    d.Passes none (settle c (reportCount result)) ((reportCount result).1 = .unfinished) := by
  obtain ⟨outcome, d₁⟩ := result
  cases outcome with
  | returned count =>
    have noted : d₁.Passes none (d₁.note (.answered c (.ran count)))
        (Outcome.returned (Reply.ran count) = .unfinished) :=
      .of_mute (.single (.answer (quiet _))) (d₁.mute_note trivial)
    exact (passed.mono nofun).trans orderly (by simp) noted
  | failed => exact passed.mono nofun
  | unfinished => exact passed.mono fun _ => rfl

section

variable {depth : Nat} (passing : Passing depth) {d : Desk} (orderly : d.Orderly)

include passing orderly

/-- A script passes if nested work does. -/
theorem script_passed (calls : List Call) :
    d.Passes none (step (perform depth) (.script calls) d).2
      ((step (perform depth) (.script calls) d).1 = .unfinished) := by
  cases calls with
  | nil => exact .refl d
  | cons c rest =>
    have first := passing (.call c) d orderly trivial
    rw [step_script_cons]
    generalize perform depth (.call c) d = result at first ⊢
    obtain ⟨outcome, d₁⟩ := result
    -- Only a call that is answered lets the rest of the script follow.
    cases outcome with
    | returned reply =>
      have noted : d.Passes none (d₁.note (.answered c reply)) False := first.mono nofun
      exact noted.trans orderly (by simp)
        (passing (.script rest) _ (noted.run.orderly orderly) trivial)
    | failed => exact first.mono nofun
    | unfinished => exact first.mono fun _ => rfl

/-- A delivery goes on as it should if nested work does. -/
theorem deliver_passed {i run place : Nat} {report : Report}
    (ready : Ready d (.deliver i run report place)) :
    d.Delivers i run report (step (perform depth) (.deliver i run report place) d) := by
  obtain ⟨filed, told⟩ := ready
  rw [step_deliver, listener?_eq]
  cases listens : (d.audience i)[place]? with
  | none =>
    have all : (d.audience i).take place = d.audience i :=
      List.take_of_length_le (List.getElem?_eq_none_iff.mp listens)
    rw [all] at told
    exact ⟨.refl d, fun _ => told, nofun, nofun⟩
  | some observer =>
    have listener : d.listener? i place = some observer := (listener?_eq d i place).trans listens
    have telling : d.Passes (some run) (d.tell i run observer report).2 False :=
      .of_tell filed listener
    have owned : ∀ r ∈ some run, r ∈ finishedNumbers d.journal := by
      rintro r ⟨⟩
      exact finishedNumbers_of_filed filed
    have orderly₁ := telling.run.orderly orderly
    -- Telling one more observer extends the copies by the one for this place.
    have told₁ : copies run (d.tell i run observer report).2.journal =
        copiesFor i report (((d.tell i run observer report).2.audience i).take (place + 1)) := by
      rw [(d.audience_tell i run observer report).1, copies_tell, if_pos rfl, told,
        List.take_add_one, listens]
      simp [copiesFor]
    have inside : place + 1 ≤ ((d.tell i run observer report).2.audience i).length := by
      rw [(d.audience_tell i run observer report).1]
      exact (List.getElem?_eq_some_iff.mp listens).1
    have scripted := passing (.script (d.tell i run observer report).1) _ orderly₁ trivial
    simp only
    generalize (d.tell i run observer report).2 = d₁ at telling orderly₁ told₁ inside scripted ⊢
    generalize perform depth (.script (d.tell i run observer report).1) d₁ = part at scripted ⊢
    obtain ⟨outcome, d₂⟩ := part
    have scripted : d₁.Passes none d₂ (outcome = .unfinished) := scripted
    -- The observer's script may add observers, but only behind those that are there, and it makes
    -- no copies of this run.
    have told₂ : copies run d₂.journal =
        copiesFor i report ((d₂.audience i).take (place + 1)) := by
      have finished := finishedNumbers_mono telling.run.journal (owned run rfl)
      obtain ⟨more, grown⟩ := scripted.run.audience_prefix i
      rw [scripted.still run finished (by simp), told₁, ← grown,
        List.take_append_of_le_length inside]
    have both := telling.trans orderly owned scripted.disown
    -- A failure of the observer is caught, so the delivery goes on in both cases.
    have onward (answered : outcome ≠ .unfinished) :
        d.Delivers i run report (perform depth (.deliver i run report (place + 1)) d₂) := by
      have delivered : d₂.Delivers i run report _ :=
        passing (.deliver i run report (place + 1)) d₂ (both.run.orderly orderly)
          ⟨both.run.filed filed, told₂⟩
      exact ⟨(both.mono answered).trans orderly owned delivered.passes, delivered.fully,
        delivered.partly, delivered.shielded⟩
    cases outcome with
    | returned => exact onward nofun
    | failed => exact onward nofun
    | unfinished => exact ⟨both.mono fun _ => rfl, nofun, fun _ => ⟨place + 1, told₂⟩, nofun⟩

/-- A task that is taken begins, and if a run finishes in it, the report is handed out. -/
theorem start_passed {reading : Float} {task : Task Action} {rest : Desk}
    (taken : d.takeDue? reading = some (task, rest)) :
    d.Passes none (start (perform depth) (rest.moveTo task.due) task).2
      ((start (perform depth) (rest.moveTo task.due) task).1 = .unfinished) := by
  have begun : d.Run (fun _ => True) ((rest.moveTo task.due).begin task).2 := .single (.begin taken)
  have same : (rest.moveTo task.due).journal = d.journal := by
    rw [(moveTo_of_takeDue? taken).2]
  have opened := (rest.moveTo task.due).opens task
  rw [start]
  generalize (rest.moveTo task.due).begin task = result at begun opened ⊢
  have orderly₁ := begun.orderly orderly
  cases opened with
  | @script calls d₁ mute =>
    have mute : d.Mute d₁ := by rwa [Mute, same] at mute
    exact (Passes.of_mute begun mute).trans orderly (by simp)
      (passing (.script calls) d₁ orderly₁ trivial)
  | @deliver i a d₁ known graded journal =>
    rw [same] at journal
    have copied (run : Nat) : copies run d₁.journal = copies run d.journal := by
      rw [journal]
      rfl
    have new : task.sequence ∉ finishedNumbers d.journal :=
      orderly₁.not_mem_finishedNumbers ⟨[], journal.symm⟩ rfl
    have ready : Ready d₁ (.deliver i task.sequence a.report 0) := by
      refine ⟨⟨_, journal ▸ List.mem_cons_self, rfl, a, known, rfl, rfl⟩, ?_⟩
      rw [copied, orderly.reported _ new]
      rfl
    have delivered : d₁.Delivers i task.sequence a.report _ := passing _ d₁ orderly₁ ready
    exact .of_finish begun known graded journal rfl new delivered.passes
      (delivered.handsOut orderly₁)

/-- A drive of what is due passes if nested work does. -/
theorem drainDue_passed (ran : Nat) :
    d.Passes none (step (perform depth) (.drainDue ran) d).2
      ((step (perform depth) (.drainDue ran) d).1 = .unfinished) := by
  rw [step_drainDue]
  cases taken : d.takeDue? d.agenda.now with
  | none => exact .refl d
  | some result =>
    have started := start_passed passing orderly taken
    rw [moveTo_of_due taken] at started
    exact started.proceed orderly fun _ d₁ _ orderly₁ =>
      passing (.drainDue (ran + 1)) d₁ orderly₁ trivial

/-- A drive up to a time passes if nested work does. -/
theorem drainUntil_passed (reading : Float) (ran : Nat) :
    d.Passes none (step (perform depth) (.drainUntil reading ran) d).2
      ((step (perform depth) (.drainUntil reading ran) d).1 = .unfinished) := by
  rw [step_drainUntil]
  cases taken : d.takeDue? reading with
  | none => exact .of_mute (.single .move) (mute_of_eq rfl)
  | some result =>
    exact (start_passed passing orderly taken).proceed orderly fun _ d₁ _ orderly₁ =>
      passing (.drainUntil reading (ran + 1)) d₁ orderly₁ trivial

/-- A wait for the next task passes if nested work does. -/
theorem drainNext_passed :
    d.Passes none (step (perform depth) .drainNext d).2
      ((step (perform depth) .drainNext d).1 = .unfinished) := by
  rw [step_drainNext]
  split
  case isTrue => exact .refl d
  case isFalse =>
    cases early : d.agenda.sleepTime? with
    | none =>
      have awaited : d.Passes none d.await False := .of_mute run_await (mute_of_eq rfl)
      exact awaited.trans orderly (by simp)
        (passing (.drainDue 0) d.await (awaited.run.orderly orderly) trivial)
    | some seconds =>
      have noted : d.Mute (d.note (.slept seconds)) := d.mute_note trivial
      have slept : d.Passes none (d.sleep seconds).2 False :=
        .of_mute (.tail (.single (.doze early)) (.wake early)) noted
      have woken := slept.run.orderly orderly
      have scripted := passing (.script (d.sleep seconds).1) (d.sleep seconds).2 woken trivial
      exact slept.trans orderly (by simp) (scripted.proceed woken fun _ d₁ _ orderly₁ =>
        passing (.drainDue 0) d₁ orderly₁ trivial)

/-- A drive of all tasks passes if nested work does. -/
theorem drainAll_passed (ran : Nat) :
    d.Passes none (step (perform depth) (.drainAll ran) d).2
      ((step (perform depth) (.drainAll ran) d).1 = .unfinished) := by
  rw [step_drainAll]
  split
  case isTrue => exact .refl d
  case isFalse =>
    have first := passing .drainNext d orderly trivial
    exact first.proceed orderly fun count d₁ _ orderly₁ =>
      passing (.drainAll (ran + count)) d₁ orderly₁ trivial

/-- The answer to a call passes if nested work does. -/
theorem answer_passed (c : Call) :
    d.Passes none (settle c (answer (perform depth) d c))
      ((answer (perform depth) d c).1 = .unfinished) := by
  have direct (direct : ¬ c.IsNesting) : d.Passes none (settle c (answer (perform depth) d c))
      ((answer (perform depth) d c).1 = .unfinished) :=
    .of_mute (answer_made hereditary_all (perform_made hereditary_all depth) (employs_all d) trivial)
      (mute_settle c (mute_answer _ direct))
  cases c with
  | advance seconds =>
    rw [answer]
    split
    · exact reportCount_passed orderly (fun _ => trivial)
        (passing (.drainUntil _ 0) d orderly trivial)
    · exact .refl d
  | runDue =>
    exact reportCount_passed orderly (fun _ => trivial) (passing (.drainDue 0) d orderly trivial)
  | runNext =>
    exact reportCount_passed orderly (fun _ => trivial) (passing .drainNext d orderly trivial)
  | runUntilIdle =>
    exact reportCount_passed orderly (fun _ => trivial) (passing (.drainAll 0) d orderly trivial)
  | shielded body =>
    have inner := passing (.script body) d orderly trivial
    rw [answer_shielded]
    generalize perform depth (.script body) d = result at inner ⊢
    obtain ⟨outcome, d₁⟩ := result
    have noted : d₁.Passes none (d₁.note (.answered (.shielded body) .nothing))
        (Outcome.returned Reply.nothing = .unfinished) :=
      .of_mute (.single (.answer trivial)) (d₁.mute_note trivial)
    cases outcome with
    | returned => exact (inner.mono (by simp)).trans orderly (by simp) noted
    | failed => exact (inner.mono (by simp)).trans orderly (by simp) noted
    | unfinished => exact inner.mono fun _ => rfl
  | _ => exact direct id

end

/-- One piece of work passes over reports, if the work that it sets off does. -/
theorem step_passing {depth : Nat} (passing : Passing depth) : Passing (depth + 1) := by
  intro w d orderly ready
  cases w with
  | call c => exact answer_passed passing orderly c
  | script calls => exact script_passed passing orderly calls
  | deliver => exact deliver_passed passing orderly ready
  | drainDue ran => exact drainDue_passed passing orderly ran
  | drainUntil reading ran => exact drainUntil_passed passing orderly reading ran
  | drainNext => exact drainNext_passed passing orderly
  | drainAll ran => exact drainAll_passed passing orderly ran

end Work

namespace Desk

/-- However deep work is nested, it passes over reports other than its own. -/
theorem perform_passing (depth : Nat) : Work.Passing depth := by
  induction depth with
  | zero =>
    intro w d _ ready
    cases w with
    | deliver i run report place =>
      exact ⟨.refl d, nofun, fun _ => ⟨place, ready.2⟩, nofun⟩
    | _ => exact .refl d
  | succ depth ih => exact Work.step_passing ih

/-- A history ends in a call that is left unfinished. -/
def CutOff (depth : Nat) : List Call → Desk → Prop
  | [], _ => False
  | c :: rest, d =>
    (perform depth (.call c) d).1 = .unfinished ∨
      CutOff depth rest (Work.settle c (perform depth (.call c) d))

/-- In every history each run whose report is handed out hands it to its audience, unless the
history is cut off. -/
theorem history_passed (depth : Nat) (calls : List Call) {d : Desk} (orderly : d.Orderly) :
    d.Passes none (history depth calls d) (CutOff depth calls d) := by
  induction calls generalizing d with
  | nil => exact .refl d
  | cons c rest ih =>
    have first := perform_passing depth (.call c) d orderly trivial
    rw [history, CutOff]
    simp only [Work.Passed] at first
    generalize perform depth (.call c) d = result at first ⊢
    obtain ⟨outcome, d₁⟩ := result
    have others := ih (first.run.orderly orderly)
    cases outcome with
    | returned => exact (first.mono (by simp)).trans orderly (by simp) (others.mono .inr)
    | failed => exact (first.mono (by simp)).trans orderly (by simp) (others.mono .inr)
    | unfinished => exact first.mono .inl

/-- The report of every run that finishes in a history is handed out, to all who are in the audience
by the end of that and to each of them once, in order. What the copies say is fixed when the run
finishes, whatever the observers do. At every desk on the way the audience of an attempt consists of
the observers that the desk was given and of those whom calls have registered with the attempt so
far, in the order of these calls. -/
theorem reports_handed_out (depth : Nat) (calls : List Call) (clock : Clock)
    (sink : Option Conduct) (observers : List Conduct) (sleeper : Sleeper) :
    let start := fresh clock sink observers sleeper
    Throughout (fun m earlier => m.HandedOut earlier start (history depth calls start)
      (CutOff depth calls start)) (history depth calls start).journal ∧
    ∀ d : Desk, start.Run (fun _ => True) d → d.Registered observers := by
  intro start
  have passed := history_passed depth calls (orderly_fresh clock sink observers sleeper)
  constructor
  · exact .of_suffix fun m earlier suffix => passed.handed m earlier suffix List.nil_suffix
  · exact fun d run => run.registered

/-- While run 0 is reported, its first observer registers another one, starts run 1, waits until
that has been reported to all three, and fails. -/
example :
    let exercise : Exercise := ⟨['a'], some "python".toList, some "print(1)".toList, some ['1']⟩
    let nosy : Conduct := fun n =>
      if n = 0 then [.addObserver none fun _ => [], .ask none .run, .advance 1, .fail []] else []
    let d := history 60 [.openExercise exercise, .ask none .run, .advance 5]
      (fresh ⟨.virtual, 0⟩ none [nosy, fun _ => []])
    finishedNumbers d.journal = [1, 0] ∧ ∀ run ∈ [0, 1],
      (copies run d.journal).map Copy.observer = [0, 1, 2] := by
  decide +kernel

end Desk

end DryRun
