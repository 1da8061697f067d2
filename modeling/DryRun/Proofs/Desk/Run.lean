import DryRun.Proofs.Desk.Effects
import DryRun.Proofs.Desk.Journal
import DryRun.Proofs.Reading.Place

/-!
# Histories are runs of steps

Work that is done at a desk is a run of steps (`Work.step_made`, by one case for each kind of work,
and `perform_made`, by induction on the depth). A call that is answered is a run of steps together
with the note of its answer, since nothing can happen between the two.
-/

set_option autoImplicit false

namespace DryRun

namespace Desk

variable {P : Call → Prop} {d d' : Desk}

/-! ## What a desk has in store -/

/-- A desk has only allowed calls in store if it has them from another desk or they are allowed. -/
theorem Employs.of_parts (employs : d.Employs P)
    (tasks : ∀ task ∈ d'.agenda.tasks, task ∈ d.agenda.tasks ∨
      ∀ calls, task.action = .script calls → ∀ c ∈ calls, P c)
    (observers : ∀ o ∈ d'.observers, (∃ o' ∈ d.observers, o'.conduct = o.conduct) ∨
      ∀ n, ∀ c ∈ o.conduct n, P c)
    (sink : ∀ o, d'.sink = some o → ∃ o', d.sink = some o' ∧ o'.conduct = o.conduct)
    (sleeper : d'.sleeper = d.sleeper) : d'.Employs P := by
  constructor
  · intro task member
    rcases tasks task member with old | new
    · exact employs.tasks task old
    · exact new
  · intro o member
    rcases observers o member with ⟨o', old, same⟩ | new
    · rw [← same]
      exact employs.observers o' old
    · exact new
  · intro o held
    obtain ⟨o', old, same⟩ := sink o held
    rw [← same]
    exact employs.sink o' old
  · rw [sleeper]
    exact employs.sleeper

/-- What a desk has in store does not depend on its attempts, its clock or its journal. -/
theorem Employs.of_agenda (employs : d.Employs P)
    (tasks : ∀ task ∈ d'.agenda.tasks, task ∈ d.agenda.tasks ∨
      ∀ calls, task.action = .script calls → ∀ c ∈ calls, P c)
    (observers : d'.observers = d.observers) (sink : d'.sink = d.sink)
    (sleeper : d'.sleeper = d.sleeper) : d'.Employs P := by
  refine employs.of_parts tasks ?_ ?_ sleeper
  · intro o member
    exact .inl ⟨o, observers ▸ member, rfl⟩
  · intro o held
    exact ⟨o, sink ▸ held, rfl⟩

/-- The calls of a task that is put down are employed. -/
theorem Employs.put (employs : d.Employs P) (delay : Float) (name : Text) (action : Action)
    (allowed : ∀ calls, action = .script calls → ∀ c ∈ calls, P c) :
    (d.put delay name action).2.Employs P := by
  refine employs.of_agenda ?_ rfl rfl rfl
  intro task member
  rcases Agenda.mem_put.mp member with rfl | old
  · exact .inr allowed
  · exact .inl old

/-- What is written down employs nobody. -/
theorem Employs.note (employs : d.Employs P) (event : Event) : (d.note event).Employs P :=
  employs.of_agenda (fun _ member => .inl member) rfl rfl rfl

/-- A change of an attempt employs nobody. -/
theorem Employs.modify (employs : d.Employs P) (i : Nat) (f : Attempt → Attempt) :
    (d.modify i f).Employs P :=
  employs.of_agenda (fun _ member => .inl member) rfl rfl rfl

/-- Turning the clock employs nobody. -/
theorem Employs.moveTo (employs : d.Employs P) (reading : Float) : (d.moveTo reading).Employs P :=
  employs.of_agenda (fun _ member => .inl member) rfl rfl rfl

/-- Taking a task takes it out of store. -/
theorem Employs.takeDue? (employs : d.Employs P) {reading : Float} {task : Task Action}
    (taken : d.takeDue? reading = some (task, d')) :
    d'.Employs P ∧ ∀ calls, task.action = .script calls → ∀ c ∈ calls, P c := by
  obtain ⟨-, -, others⟩ := takeDue?_eq_some taken
  obtain ⟨waits, left⟩ := mem_of_takeDue? taken
  constructor
  · refine employs.of_agenda (fun other member => .inl (left other member)) ?_ ?_ ?_
    all_goals rw [others]
  · exact employs.tasks task waits

/-- Telling an observer changes what it will do next, but not what it may do. -/
theorem Employs.tell (employs : d.Employs P) (i run observer : Nat) (report : Report) :
    (d.tell i run observer report).2.Employs P ∧
      ∀ c ∈ (d.tell i run observer report).1, P c := by
  have noted := employs.note (.reported i run observer report)
  simp only [Desk.tell]
  cases known : (d.note (.reported i run observer report)).observers[observer]? with
  | none => exact ⟨noted, by simp⟩
  | some o =>
    refine ⟨noted.of_parts (fun _ member => .inl member) ?_ (fun o held => ⟨o, held, rfl⟩) rfl,
      noted.observers o (Array.mem_of_getElem? known) o.calls⟩
    intro o' member
    left
    obtain ⟨k, inside, rfl⟩ := Array.mem_iff_getElem.mp member
    simp only [Array.size_modify] at inside
    refine ⟨_, Array.getElem_mem inside, ?_⟩
    simp only [Array.getElem_modify]
    split <;> rfl

/-- The announcement of an accepted run carries no calls. -/
theorem Employs.finish (employs : d.Employs P) (i run : Nat) (a : Attempt) :
    (d.finish i run a).2.Employs P := by
  rw [finish_snd, promise_eq]
  split
  · exact ((employs.modify _ _).put _ _ _ (by rintro calls ⟨⟩)).note _
  · exact (employs.modify _ _).note _

/-- A run that has just taken place is on file. -/
theorem filed_finish {i : Nat} (run : Nat) {a : Attempt} (known : d.attempts[i]? = some a) :
    (d.finish i run a).2.Filed i run a.report := by
  refine ⟨⟨.finished i run a.outcome, (d.finish i run a).2.toBench⟩, ?_, rfl, a.finish, ?_, rfl,
    rfl⟩
  · rw [finish_journal]
    exact List.mem_cons_self
  · rw [finish_getElem?, if_pos rfl, known]
    rfl

/-- What a task may lead to at a desk: calls that are allowed, or the report of a run. -/
def Sequel.Allowed (P : Call → Prop) (d : Desk) : Sequel → Prop
  | .script calls => ∀ c ∈ calls, P c
  | .deliver i run report => d.Filed i run report

/-- A task that begins leads to calls that were in store or to the report of a run. -/
theorem Employs.begin (employs : d.Employs P) (task : Task Action)
    (allowed : ∀ calls, task.action = .script calls → ∀ c ∈ calls, P c) :
    (d.begin task).2.Employs P ∧ Sequel.Allowed P (d.begin task).2 (d.begin task).1 := by
  have noted := employs.note (.began task)
  have begun := d.begins task
  generalize d.begin task = result at begun ⊢
  cases begun with
  | script action => exact ⟨noted, allowed _ action⟩
  | stray => exact ⟨noted, by simp [Sequel.Allowed]⟩
  | @run i a action known =>
    exact ⟨noted.finish _ _ _, filed_finish task.sequence known⟩
  | @announcement i run a sink action known held =>
    refine ⟨noted.of_parts (fun _ member => .inl member)
      (fun o member => .inl ⟨o, member, rfl⟩) ?_ rfl, employs.sink sink held sink.calls⟩
    rintro o ⟨⟩
    exact ⟨sink, held, rfl⟩

/-- Whatever happens, a desk has only allowed calls in store. -/
theorem Step.employs (hereditary : Call.Hereditary P) (employs : d.Employs P) (step : d.Step P d') :
    d'.Employs P := by
  cases step with
  | @schedule delay name body task agenda allowed placed =>
    obtain ⟨-, put⟩ := Agenda.schedule_eq_ok_iff.mp placed
    have kept := employs.put delay name (.script body)
      (by rintro calls ⟨⟩; exact hereditary.schedule allowed)
    rw [Desk.put, put] at kept
    exact kept.note _
  | turn => exact employs.of_agenda (fun _ member => .inl member) rfl rfl rfl
  | openExercise => exact employs.of_agenda (fun _ member => .inl member) rfl rfl rfl
  | launch _ _ idle =>
    rw [launch_snd d _ idle]
    exact (((employs.modify _ _).put _ _ _ (by rintro calls ⟨⟩)).note _).note _
  | edit => exact (employs.modify _ _).note _
  | @addObserver target conduct i allowed =>
    refine employs.of_parts (fun _ member => .inl member) ?_ (fun o held => ⟨o, held, rfl⟩) rfl
    intro o member
    rcases Array.mem_push.mp member with old | rfl
    · exact .inl ⟨o, old, rfl⟩
    · exact .inr (hereditary.addObserver allowed)
  | answer => exact employs.note _
  | begin taken =>
    obtain ⟨rest, allowed⟩ := employs.takeDue? taken
    exact ((rest.moveTo _).begin _ allowed).1
  | tell => exact (employs.tell _ _ _ _).1
  | doze => exact employs.note _
  | wake => exact employs.of_agenda (fun _ member => .inl member) rfl rfl rfl
  | move => exact employs.moveTo _

/-- Only calls that are allowed are ever employed. -/
theorem Run.employs (hereditary : Call.Hereditary P) (employs : d.Employs P) (run : d.Run P d') :
    d'.Employs P := by
  induction run with
  | refl => exact employs
  | tail _ step ih => exact step.employs hereditary ih

/-- A report that is filed stays so. -/
theorem Run.filed (run : d.Run P d') {i number : Nat} {report : Report}
    (filed : d.Filed i number report) : d'.Filed i number report := by
  induction run with
  | refl => exact filed
  | tail _ step ih =>
    obtain ⟨m, member, what⟩ := ih
    exact ⟨m, step.journal.subset member, what⟩

end Desk

/-! ## Work is made of steps -/

namespace Work

open Desk

variable {P : Call → Prop}

/-- Work that may be done at a desk: its calls are allowed, and a report that is handed out is that
of a run. -/
def Allowed (P : Call → Prop) (d : Desk) : Work → Prop
  | .call c => P c
  | .script calls => ∀ c ∈ calls, P c
  | .deliver i run report _ => d.Filed i run report
  | .drainDue _ | .drainUntil .. | .drainNext | .drainAll _ => True

/-- The desk after a call, with the answer written down. -/
def settle (c : Call) : Outcome Reply × Desk → Desk
  | (.returned reply, d) => d.note (.answered c reply)
  | (.failed _, d) | (.unfinished, d) => d

/-- Work that has been done in steps. The answer to a call counts as written down. -/
def Made (P : Call → Prop) (d : Desk) : (w : Work) → Outcome w.Answer × Desk → Prop
  | .call c, result => d.Run P (settle c result)
  | .script _, result | .deliver .., result => d.Run P result.2
  | .drainDue _, result | .drainUntil .., result | .drainNext, result | .drainAll _, result =>
    d.Run P result.2

/-- A way of doing work that does it in steps. -/
def Stepwise (P : Call → Prop) (next : Performer) : Prop :=
  ∀ (w : Work) (d : Desk), d.Employs P → w.Allowed P d → w.Made P d (next w d)

section

variable {next : Performer} {d : Desk}

/-- The answer of a drive is a step after the drive. -/
theorem settle_reportCount {result : Outcome Nat × Desk} (run : d.Run P result.2) {c : Call}
    (quiet : ∀ reply, c.IsQuiet reply) : d.Run P (settle c (reportCount result)) := by
  obtain ⟨outcome, d'⟩ := result
  cases outcome with
  | returned => exact run.tail (.answer (quiet _))
  | failed => exact run
  | unfinished => exact run

/-- Turning the clock is a step. -/
theorem settle_setClock {c : Call} {turned : Except AgendaError Clock} (allowed : P c)
    (turn : c.turn? d.agenda.clock = some turned) : d.Run P (settle c (setClock d turned)) := by
  cases turned with
  | ok clock => exact .single (.turn allowed turn)
  | error => exact .refl

/-- Granting a request is a step. -/
theorem settle_grant {target : Option Nat} {request : Request} {i : Nat} {a : Attempt}
    (aimed : d.aim target request.operation = .ok i) (found : d.attempts[i]? = some a) :
    d.Run P ((d.grant i a request).2.note
      (.answered (.ask target request) (d.grant i a request).1)) := by
  by_cases asked : request = .run ∨ request.change?.isSome
  · cases idle : a.isIdle with
    | false =>
      rw [grant_of_busy d i idle asked]
      exact .single (.answer (by simp [Call.IsQuiet]))
    | true =>
      rcases asked with rfl | changes
      · rw [grant_run d i idle]
        exact .single (.launch aimed found idle)
      · obtain ⟨change, changes⟩ := Option.isSome_iff_exists.mp changes
        rw [grant_of_change d i idle changes]
        exact .single (.edit changes aimed found idle)
  · rw [not_or, Option.not_isSome_iff_eq_none] at asked
    obtain ⟨same, reply⟩ := grant_of_question d i a asked.1 asked.2
    rw [same]
    exact .single (.answer reply)

/-- Calls are answered in steps, if the work that they set off is done in steps. -/
theorem answer_made (hereditary : Call.Hereditary P) (stepwise : Stepwise P next)
    (employs : d.Employs P) {c : Call} (allowed : P c) : d.Run P (settle c (answer next d c)) := by
  -- A call is one step or fails without any. A drive or a shielded script is the run of its nested
  -- work, with the answer as the last step.
  cases c with
  | schedule delay name body =>
    rw [answer]
    cases placed : d.agenda.schedule delay name (.script body) with
    | ok result => exact .single (.schedule allowed placed)
    | error => exact .refl
  | fail => exact .refl
  | advance seconds =>
    rw [answer]
    split
    · exact settle_reportCount (stepwise (.drainUntil _ _) d employs trivial) fun _ => trivial
    · exact .refl
  | moveClock => exact settle_setClock allowed rfl
  | setClock => exact settle_setClock allowed rfl
  | elapse => exact .single (.turn allowed rfl)
  | runDue => exact settle_reportCount (stepwise (.drainDue _) d employs trivial) fun _ => trivial
  | runNext => exact settle_reportCount (stepwise .drainNext d employs trivial) fun _ => trivial
  | runUntilIdle =>
    exact settle_reportCount (stepwise (.drainAll _) d employs trivial) fun _ => trivial
  | openExercise => exact .single .openExercise
  | ask target request =>
    simp only [answer]
    cases aimed : d.aim target request.operation with
    | error failure =>
      simp only [decline]
      split
      · exact .single (.answer (by simp [Call.IsQuiet]))
      · exact .refl
    | ok i =>
      cases found : d.attempts[i]? with
      | none =>
        simp only [found]
        exact .refl
      | some a =>
        simp only [found]
        exact settle_grant aimed found
  | addObserver target conduct =>
    rw [answer]
    cases aimed : d.aim target "add_observer" with
    | error => exact .refl
    | ok i => exact .single (.addObserver allowed aimed)
  | look => exact .single (.answer trivial)
  | shielded body =>
    have made := stepwise (.script body) d employs (hereditary.shielded allowed)
    rw [answer]
    generalize next (.script body) d = result at made ⊢
    obtain ⟨outcome, d'⟩ := result
    cases outcome with
    | returned => exact made.tail (.answer trivial)
    | failed => exact made.tail (.answer trivial)
    | unfinished => exact made

/-- A task that is taken begins with a step and goes on in steps. -/
theorem start_made (stepwise : Stepwise P next) (employs : d.Employs P) {reading : Float}
    {task : Task Action} {rest : Desk} (taken : d.takeDue? reading = some (task, rest)) :
    d.Run P (start next (rest.moveTo task.due) task).2 := by
  have begun : d.Step P ((rest.moveTo task.due).begin task).2 := .begin taken
  obtain ⟨kept, allowed⟩ := employs.takeDue? taken
  obtain ⟨after, permitted⟩ := (kept.moveTo task.due).begin task allowed
  rw [start]
  generalize (rest.moveTo task.due).begin task = result at begun after permitted ⊢
  obtain ⟨calls | ⟨i, run, report⟩, d'⟩ := result
  · exact .head begun (stepwise (.script calls) d' after permitted)
  · exact .head begun (stepwise (.deliver i run report 0) d' after permitted)

/-- A task that is due at the present reading is not ahead of the clock. -/
theorem moveTo_of_due {task : Task Action} {rest : Desk}
    (taken : d.takeDue? d.agenda.now = some (task, rest)) : rest.moveTo task.due = rest := by
  obtain ⟨due, -, others⟩ := Desk.takeDue?_eq_some taken
  have reached : ¬ rest.agenda.clock.reading < task.due := by
    rw [others]
    exact Reading.not_lt_of_le due
  simp only [Desk.moveTo, Agenda.moveTo, Clock.moveTo, if_neg reached]

/-- Moving the clock to the next task is a run of steps. -/
theorem run_await : d.Run P d.await := by
  simp only [Desk.await, Agenda.await]
  split
  · split
    · exact .single .move
    · exact .refl
  · exact .refl

variable (hereditary : Call.Hereditary P) (stepwise : Stepwise P next)

include hereditary stepwise

/-- A script is made of steps if nested work is. -/
theorem script_made (employs : d.Employs P) {calls : List Call} (allowed : ∀ c ∈ calls, P c) :
    d.Run P (step next (.script calls) d).2 := by
  cases calls with
  | nil => exact .refl
  | cons c rest =>
    have first := stepwise (.call c) d employs (allowed c List.mem_cons_self)
    have others : ∀ c' ∈ rest, P c' := fun c' member => allowed c' (List.mem_cons_of_mem c member)
    rw [step]
    generalize next (.call c) d = result at first ⊢
    obtain ⟨outcome, d'⟩ := result
    cases outcome with
    | returned =>
      exact first.trans (stepwise (.script rest) _ (first.employs hereditary employs) others)
    | failed => exact first
    | unfinished => exact first

/-- A delivery is made of steps if nested work is. -/
theorem deliver_made (employs : d.Employs P) {i run place : Nat} {report : Report}
    (filed : d.Filed i run report) : d.Run P (step next (.deliver i run report place) d).2 := by
  rw [step]
  cases listens : d.listener? i place with
  | none => exact .refl
  | some observer =>
    have told : d.Run P (d.tell i run observer report).2 := .single (.tell filed listens)
    obtain ⟨kept, allowed⟩ := employs.tell i run observer report
    have answered : d.Run P _ := told.trans
      (stepwise (.script (d.tell i run observer report).1) _ kept allowed)
    simp only
    generalize next (.script (d.tell i run observer report).1) (d.tell i run observer report).2 =
      result at answered ⊢
    obtain ⟨outcome, d'⟩ := result
    have onward := answered.trans (stepwise (.deliver i run report (place + 1)) _
      (answered.employs hereditary employs) (answered.filed filed))
    cases outcome with
    | returned => exact onward
    | failed => exact onward
    | unfinished => exact answered

/-- A drive of what is due is made of steps if nested work is. -/
theorem drainDue_made (employs : d.Employs P) (ran : Nat) :
    d.Run P (step next (.drainDue ran) d).2 := by
  rw [step]
  cases taken : d.takeDue? d.agenda.now with
  | none => exact .refl
  | some result =>
    obtain ⟨task, rest⟩ := result
    have made := start_made stepwise employs taken
    rw [moveTo_of_due taken] at made
    simp only
    generalize start next rest task = result at made ⊢
    obtain ⟨outcome, d'⟩ := result
    cases outcome with
    | returned =>
      exact made.trans
        (stepwise (.drainDue (ran + 1)) _ (made.employs hereditary employs) trivial)
    | failed => exact made
    | unfinished => exact made

/-- A drive up to a time is made of steps if nested work is. -/
theorem drainUntil_made (employs : d.Employs P) (reading : Float) (ran : Nat) :
    d.Run P (step next (.drainUntil reading ran) d).2 := by
  rw [step]
  cases taken : d.takeDue? reading with
  | none => exact .single .move
  | some result =>
    obtain ⟨task, rest⟩ := result
    have made := start_made stepwise employs taken
    simp only
    generalize start next (rest.moveTo task.due) task = result at made ⊢
    obtain ⟨outcome, d'⟩ := result
    cases outcome with
    | returned =>
      exact made.trans
        (stepwise (.drainUntil reading (ran + 1)) _ (made.employs hereditary employs) trivial)
    | failed => exact made
    | unfinished => exact made

/-- A wait for the next task is made of steps if nested work is. -/
theorem drainNext_made (employs : d.Employs P) : d.Run P (step next .drainNext d).2 := by
  rw [step]
  split
  · exact .refl
  cases early : d.agenda.sleepTime? with
  | none =>
    have awaited : d.Run P d.await := run_await
    exact awaited.trans
      (stepwise (.drainDue 0) _ (awaited.employs hereditary employs) trivial)
  | some seconds =>
    have slept : d.Run P (d.sleep seconds).2 :=
      .tail (.single (.doze early)) (.wake early)
    have allowed := (employs.sleeper d.sleeps seconds (Agenda.sleepTime?_pos early)).2
    have made : d.Run P _ := slept.trans
      (stepwise (.script (d.sleep seconds).1) _ (slept.employs hereditary employs) allowed)
    simp only
    generalize next (.script (d.sleep seconds).1) (d.sleep seconds).2 = result at made ⊢
    obtain ⟨outcome, d'⟩ := result
    cases outcome with
    | returned =>
      exact made.trans (stepwise (.drainDue 0) _ (made.employs hereditary employs) trivial)
    | failed => exact made
    | unfinished => exact made

/-- A drive of all tasks is made of steps if nested work is. -/
theorem drainAll_made (employs : d.Employs P) (ran : Nat) :
    d.Run P (step next (.drainAll ran) d).2 := by
  rw [step]
  split
  · exact .refl
  have made := stepwise .drainNext d employs trivial
  generalize next .drainNext d = result at made ⊢
  obtain ⟨outcome, d'⟩ := result
  cases outcome with
  | returned count =>
    exact made.trans
      (stepwise (.drainAll (ran + count)) _ (made.employs hereditary employs) trivial)
  | failed => exact made
  | unfinished => exact made

/-- One piece of work is done in steps, if the work that it sets off is. -/
theorem step_made : Stepwise P (step next) := by
  intro w d employs allowed
  cases w with
  | call => exact answer_made hereditary stepwise employs allowed
  | script => exact script_made hereditary stepwise employs allowed
  | deliver => exact deliver_made hereditary stepwise employs allowed
  | drainDue ran => exact drainDue_made hereditary stepwise employs ran
  | drainUntil reading ran => exact drainUntil_made hereditary stepwise employs reading ran
  | drainNext => exact drainNext_made hereditary stepwise employs
  | drainAll ran => exact drainAll_made hereditary stepwise employs ran

end

end Work

namespace Desk

variable {P : Call → Prop}

/-- However deep work is nested, it is done in steps. -/
theorem perform_made (hereditary : Call.Hereditary P) (depth : Nat) :
    Work.Stepwise P (perform depth) := by
  induction depth with
  | zero =>
    intro w d _ _
    cases w <;> exact .refl
  | succ depth ih => exact Work.step_made hereditary ih

/-- A history is a run of steps, whatever the host and the outside code at the desk call. -/
theorem history_run (hereditary : Call.Hereditary P) (depth : Nat) {calls : List Call} {d : Desk}
    (employs : d.Employs P) (allowed : ∀ c ∈ calls, P c) : d.Run P (history depth calls d) := by
  induction calls generalizing d with
  | nil => exact .refl
  | cons c rest ih =>
    have first := perform_made hereditary depth (.call c) d employs (allowed c List.mem_cons_self)
    have others : ∀ c' ∈ rest, P c' := fun c' member => allowed c' (List.mem_cons_of_mem c member)
    rw [history]
    generalize perform depth (.call c) d = result at first ⊢
    obtain ⟨outcome, d'⟩ := result
    have onward := first.trans (ih (first.employs hereditary employs) others)
    cases outcome with
    | returned => exact onward
    | failed => exact onward
    | unfinished => exact first

/-- At a fresh desk a history is a run of steps, whatever outside code calls. -/
theorem history_run_fresh (depth : Nat) (calls : List Call) (clock : Clock) (sink : Option Conduct)
    (observers : List Conduct) (sleeper : Sleeper) :
    (fresh clock sink observers sleeper).Run (fun _ => True)
      (history depth calls (fresh clock sink observers sleeper)) := by
  refine history_run ?_ depth ?_ (by simp)
  · constructor <;> simp
  · constructor <;> simp

end Desk

end DryRun
