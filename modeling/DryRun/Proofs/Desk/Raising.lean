import DryRun.Proofs.Desk.Copies
import DryRun.Proofs.Desk.Depth
import DryRun.Proofs.Desk.Hush

/-!
# Observers that raise change nothing

Two desks are worked at whose outside code is the same but for the failures of observers.
`Desk.raising_changes_nothing` is the top: call by call, a history ends alike at both of them, and
leaves them the same but for the failures that their observers have still in store. So the attempts
at every moment, the reports and their order, the announcements and their times, the clock and the
tasks that wait are the same, and so is the answer or the failure of every call.

The two are worked at in lockstep (`Work.Mimics`), which goes through by induction on how deep work
is nested. They differ in one place only, where an observer is told (`Work.told_heard`), and what
follows there does not depend on how the observer ended (`Desk.Heard.recover`). A failure is one
call more, so the second desk is given one more level of nesting. Work that is left unfinished at
the first desk may have gone further at the second one, but not differently.
-/

set_option autoImplicit false

namespace DryRun

/-! ## What is written down stays -/

/-- Taking a task writes nothing down. -/
theorem Desk.journal_of_takeDue? {d rest : Desk} {reading : Float} {task : Task Action}
    (taken : d.takeDue? reading = some (task, rest)) : rest.journal = d.journal := by
  rw [(takeDue?_eq_some taken).2.2]

namespace Work

open Desk

/-- After work that came to an end it goes on, however the work ended. -/
theorem recover_of_finished {α β : Type} {outcome : Outcome α} (finished : outcome ≠ .unfinished)
    (onward : Desk → Outcome β × Desk) (d : Desk) : recover (outcome, d) onward = onward d := by
  cases outcome with
  | unfinished => exact absurd rfl finished
  | _ => rfl

/-- A way of doing work that only ever adds to the journal. -/
def Records (next : Performer) : Prop :=
  ∀ (w : Work) (d : Desk), d.journal <:+ (next w d).2.journal

section

variable {next : Performer} (records : Records next) {d : Desk}

/-- If work and what follows it only write down, so do they together. -/
theorem proceed_records {α β : Type} {part : Outcome α × Desk}
    {onward : α → Desk → Outcome β × Desk} (first : d.journal <:+ part.2.journal)
    (second : ∀ a d₁, d₁.journal <:+ (onward a d₁).2.journal) :
    d.journal <:+ (proceed part onward).2.journal := by
  obtain ⟨outcome, d₁⟩ := part
  cases outcome with
  | returned a => exact first.trans (second a d₁)
  | _ => exact first

/-- If work and what follows it only write down, so do they together, also after a failure. -/
theorem recover_records {α β : Type} {part : Outcome α × Desk} {onward : Desk → Outcome β × Desk}
    (first : d.journal <:+ part.2.journal) (second : ∀ d₁, d₁.journal <:+ (onward d₁).2.journal) :
    d.journal <:+ (recover part onward).2.journal := by
  obtain ⟨outcome, d₁⟩ := part
  cases outcome with
  | unfinished => exact first
  | _ => exact first.trans (second d₁)

include records

/-- Answering a call only writes down. -/
theorem answer_records (c : Call) : d.journal <:+ (answer next d c).2.journal := by
  have direct (direct : ¬ c.IsNesting) := (mute_answer next (d := d) direct).journal
  cases c with
  | advance =>
    rw [answer]
    split
    · exact records _ d
    · exact List.suffix_refl _
  | runDue | runNext | runUntilIdle => exact records _ d
  | shielded body =>
    rw [answer_shielded]
    exact recover_records (records _ d) fun d₁ => List.suffix_refl d₁.journal
  | _ => exact direct id

/-- Beginning a task only writes down. -/
theorem start_records (task : Task Action) : d.journal <:+ (start next d task).2.journal := by
  have begun := (d.entered_begin task).journal
  rw [start]
  generalize d.begin task = result at begun ⊢
  obtain ⟨sequel, d₁⟩ := result
  cases sequel <;> exact begun.trans (records _ d₁)

/-- If nested work only writes down, so does the work that sets it off. -/
theorem step_records : Records (step next) := by
  intro w d
  have same : d.journal <:+ d.journal := List.suffix_refl _
  -- Each kind of work takes a desk by steps that write down, then leaves it to nested work.
  cases w with
  | call c => exact answer_records records c
  | script calls =>
    cases calls with
    | nil => exact same
    | cons c rest =>
      rw [step_script_cons]
      exact proceed_records (records _ d) fun reply d₁ =>
        (List.suffix_cons _ _).trans (records (.script rest) (d₁.note (.answered c reply)))
  | deliver i run report place =>
    rw [step_deliver]
    cases d.listener? i place with
    | none => exact same
    | some observer =>
      have told : d.journal <:+ (d.tell i run observer report).2.journal := by
        rw [(d.tell_snd i run observer report).2]
        exact List.suffix_cons _ _
      exact recover_records (told.trans (records _ _)) fun d₁ => records _ d₁
  | drainDue ran =>
    rw [step_drainDue]
    cases taken : d.takeDue? d.agenda.now with
    | none => exact same
    | some result =>
      obtain ⟨task, rest⟩ := result
      have left := journal_of_takeDue? taken
      have started := start_records records (d := rest) task
      exact proceed_records (left ▸ started) fun _ d₁ => records _ d₁
  | drainUntil reading ran =>
    rw [step_drainUntil]
    cases taken : d.takeDue? reading with
    | none => exact same
    | some result =>
      obtain ⟨task, rest⟩ := result
      have left := journal_of_takeDue? taken
      have started := start_records records (d := rest.moveTo task.due) task
      exact proceed_records (left ▸ started) fun _ d₁ => records _ d₁
  | drainNext =>
    rw [step_drainNext]
    split
    · exact same
    · cases d.agenda.sleepTime? with
      | none => exact records (.drainDue 0) d.await
      | some seconds =>
        have slept : d.journal <:+ (d.sleep seconds).2.journal := List.suffix_cons _ _
        exact proceed_records (slept.trans (records _ _)) fun _ d₁ => records _ d₁
  | drainAll ran =>
    rw [step_drainAll]
    split
    · exact same
    · exact proceed_records (records _ d) fun _ d₁ => records _ d₁

end

end Work

namespace Desk

/-- Work erases nothing from the journal. -/
theorem perform_records (depth : Nat) : Work.Records (perform depth) := by
  induction depth with
  | zero => exact fun w d => List.suffix_refl d.journal
  | succ depth ih => exact Work.step_records ih

/-! ## Work at two desks -/

/-- What has been written down at a desk is, but for the failures of observers, the beginning of
what has been written down at another. -/
def Precedes (d e : Desk) : Prop := d.hush.journal <:+ e.hush.journal

/-- Work at two desks: if it comes to an end at the first one, it ends alike at the other, and they
are the same but for the failures of observers. If it does not, what it does at the first one it
does at the other too. -/
inductive Mirrored {α : Type} : Outcome α × Desk → Outcome α × Desk → Prop where
  | ended {outcome d e} (finished : outcome ≠ .unfinished) (same : d.hush = e.hush) :
      Mirrored (outcome, d) (outcome, e)
  | cut {d result} (begun : d.Precedes result.2) : Mirrored (.unfinished, d) result

/-- What two observers do about a report, of whom one may fail where the other does not. -/
inductive Heard : Outcome Unit × Desk → Outcome Unit × Desk → Prop where
  | ended {outcome outcome' d e} (finished : outcome ≠ .unfinished)
      (finished' : outcome' ≠ .unfinished) (same : d.hush = e.hush) :
      Heard (outcome, d) (outcome', e)
  | cut {d result} (begun : d.Precedes result.2) : Heard (.unfinished, d) result

variable {d e e' : Desk}

/-- A desk that is the same but for the failures comes before. -/
theorem Precedes.of_eq (same : d.hush = e.hush) : d.Precedes e := by
  rw [Precedes, same]

/-- What comes before a desk comes before everything that follows. -/
theorem Precedes.trans (begun : d.Precedes e) (more : e.journal <:+ e'.journal) : d.Precedes e' :=
  List.IsSuffix.trans begun (more.map Moment.hush)

/-- Desks that are the same but for the failures show the same time. -/
theorem clock_of_hush (same : d.hush = e.hush) : d.agenda.clock = e.agenda.clock :=
  show d.hush.agenda.clock = e.hush.agenda.clock by rw [same]

/-- Desks that are the same but for the failures have the same number of tasks. -/
theorem pending_of_hush (same : d.hush = e.hush) : d.agenda.pending = e.agenda.pending := by
  have pending : d.hush.agenda.pending = e.hush.agenda.pending := by rw [same]
  exact (d.agenda.pending_map _).symm.trans (pending.trans (e.agenda.pending_map _))

/-- Desks that are the same but for the failures are slept at for the same time. -/
theorem sleepTime?_of_hush (same : d.hush = e.hush) :
    d.agenda.sleepTime? = e.agenda.sleepTime? := by
  have sleepTime : d.hush.agenda.sleepTime? = e.hush.agenda.sleepTime? := by rw [same]
  exact (d.agenda.sleepTime?_map _).symm.trans (sleepTime.trans (e.agenda.sleepTime?_map _))

/-- At two desks that are the same but for the failures of observers the same task is taken. -/
theorem takeDue?_of_hush (same : d.hush = e.hush) (reading : Float) :
    (d.takeDue? reading = none ∧ e.takeDue? reading = none) ∨ ∃ task rest task' rest',
      d.takeDue? reading = some (task, rest) ∧ e.takeDue? reading = some (task', rest') ∧
        task.map Action.hush = task'.map Action.hush ∧ rest.hush = rest'.hush := by
  have taken := d.takeDue?_hush reading
  rw [same, e.takeDue?_hush reading] at taken
  cases first : d.takeDue? reading with
  | none =>
    rw [first, Option.map_none, Option.map_eq_none_iff] at taken
    exact .inl ⟨rfl, taken⟩
  | some result =>
    rw [first, Option.map_some, Option.map_eq_some_iff] at taken
    obtain ⟨result', second, alike⟩ := taken
    obtain ⟨tasks, rests⟩ := Prod.mk.inj alike
    exact .inr ⟨_, _, _, _, rfl, second, tasks.symm, rests.symm⟩

namespace Mirrored

variable {α β : Type} {x y : Outcome α × Desk}

/-- Work that is done at once. -/
theorem of_eq (outcome : x.1 = y.1) (same : x.2.hush = y.2.hush) : Mirrored x y := by
  obtain ⟨outcome, d⟩ := x
  obtain ⟨_, e⟩ := y
  obtain rfl := outcome
  cases outcome with
  | unfinished => exact .cut (.of_eq same)
  | _ => exact .ended nofun same

/-- Work is followed by other work if it returns. -/
theorem proceed {onward onward' : α → Desk → Outcome β × Desk} (first : Mirrored x y)
    (records : ∀ a e, e.journal <:+ (onward' a e).2.journal)
    (second : ∀ a d e, d.hush = e.hush → Mirrored (onward a d) (onward' a e)) :
    Mirrored (Work.proceed x onward) (Work.proceed y onward') := by
  cases first with
  | @ended outcome d e finished same =>
    cases outcome with
    | returned a => exact second a d e same
    | failed => exact .ended nofun same
    | unfinished => exact absurd rfl finished
  | cut begun =>
    have more : y.2.journal <:+ (Work.proceed y onward').2.journal :=
      Work.proceed_records (List.suffix_refl _) records
    exact .cut (begun.trans more)

/-- If two drives mirror each other so do the calls for them. -/
theorem reportCount {x y : Outcome Nat × Desk} (alike : Mirrored x y) :
    Mirrored (Work.reportCount x) (Work.reportCount y) := by
  cases alike with
  | @ended outcome d e finished same => exact .of_eq rfl same
  | cut begun => exact .cut begun

end Mirrored

/-- Whether an observer fails or not, what follows is the same. -/
theorem Heard.recover {α : Type} {x y : Outcome Unit × Desk}
    {onward onward' : Desk → Outcome α × Desk} (first : Heard x y)
    (records : ∀ e, e.journal <:+ (onward' e).2.journal)
    (second : ∀ d e, d.hush = e.hush → Mirrored (onward d) (onward' e)) :
    Mirrored (Work.recover x onward) (Work.recover y onward') := by
  cases first with
  | @ended outcome outcome' d e finished finished' same =>
    rw [Work.recover_of_finished finished, Work.recover_of_finished finished']
    exact second d e same
  | cut begun =>
    have more : y.2.journal <:+ (Work.recover y onward').2.journal :=
      Work.recover_records (List.suffix_refl _) records
    exact .cut (begun.trans more)

/-- What mirrors has been heard alike. -/
theorem Mirrored.heard {x y : Outcome Unit × Desk} (alike : Mirrored x y) : Heard x y := by
  cases alike with
  | ended finished same => exact .ended finished finished same
  | cut begun => exact .cut begun

/-- What has come to an end at desks that are the same but for the failures has been heard alike. -/
theorem Heard.of_outcome {outcome outcome' : Outcome Unit} (finished' : outcome' ≠ .unfinished)
    (same : d.hush = e.hush) : Heard (outcome, d) (outcome', e) := by
  cases outcome with
  | unfinished => exact .cut (.of_eq same)
  | _ => exact .ended nofun finished' same

/-- What an observer calls first is followed by the rest if it returns. -/
theorem Mirrored.proceed_heard {α : Type} {x y : Outcome α × Desk}
    {onward onward' : α → Desk → Outcome Unit × Desk} (first : Mirrored x y)
    (records : ∀ a e, e.journal <:+ (onward' a e).2.journal)
    (second : ∀ a d e, d.hush = e.hush → Heard (onward a d) (onward' a e)) :
    Heard (Work.proceed x onward) (Work.proceed y onward') := by
  cases first with
  | @ended outcome d e finished same =>
    cases outcome with
    | returned a => exact second a d e same
    | failed => exact .ended nofun nofun same
    | unfinished => exact absurd rfl finished
  | cut begun =>
    have more : y.2.journal <:+ (Work.proceed y onward').2.journal :=
      Work.proceed_records (List.suffix_refl _) records
    exact .cut (begun.trans more)

end Desk

namespace Work

open Desk

/-- A script that stops at once leaves the desk as it is. -/
theorem script_stopped {next : Performer}
    (stays : ∀ message d, (next (.call (.fail message)) d).2 = d ∧
      ∀ reply, (next (.call (.fail message)) d).1 ≠ .returned reply)
    {calls : List Call} (stops : calls = [] ∨ ∃ message rest, calls = .fail message :: rest)
    (d : Desk) : (step next (.script calls) d).2 = d := by
  rcases stops with rfl | ⟨message, rest, rfl⟩
  · rfl
  · obtain ⟨stays, fails⟩ := stays message d
    rw [step_script_cons]
    generalize next (.call (.fail message)) d = result at stays fails ⊢
    obtain ⟨outcome, d₁⟩ := result
    cases outcome with
    | returned reply => exact absurd rfl (fails reply)
    | _ => exact stays

/-- A script that stops at once comes to an end, if failing does. -/
theorem exists_script_stopped {next : Performer}
    (fails : ∀ message d, next (.call (.fail message)) d = (.failed (.outside message), d))
    {calls : List Call} (stops : calls = [] ∨ ∃ message rest, calls = .fail message :: rest)
    (d : Desk) : ∃ outcome : Outcome Unit, outcome ≠ .unfinished ∧
      step next (.script calls) d = (outcome, d) := by
  rcases stops with rfl | ⟨message, rest, rfl⟩
  · exact ⟨.returned (), nofun, rfl⟩
  · refine ⟨.failed (.outside message), nofun, ?_⟩
    rw [step_script_cons, fails]
    rfl

/-- Whether work is given without calls that outside code makes. -/
def IsPlain : Work → Prop
  | .call _ | .script _ => False
  | _ => True

/-- The second way of doing work does at a desk what the first one does at another that is the same
but for the failures of observers. -/
structure Mimics (next next' : Performer) : Prop where
  records : Records next'
  call : ∀ {c c' : Call} {d e : Desk}, c.hush = c'.hush → d.hush = e.hush →
    Mirrored (next (.call c) d) (next' (.call c') e)
  script : ∀ {calls calls' : List Call} {d e : Desk}, Call.hushAll calls = Call.hushAll calls' →
    d.hush = e.hush → Mirrored (next (.script calls) d) (next' (.script calls') e)
  told : ∀ {calls calls' : List Call} {d e : Desk},
    Call.hushAnswer calls = Call.hushAnswer calls' → d.hush = e.hush →
      Heard (next (.script calls) d) (next' (.script calls') e)
  plain : ∀ {w : Work} {d e : Desk}, w.IsPlain → d.hush = e.hush → Mirrored (next w d) (next' w e)

section

variable {next next' : Performer} (mimics : Mimics next next') {d e : Desk} (same : d.hush = e.hush)

include mimics same

/-- Calls that are the same but for the failures are answered alike. -/
theorem answer_mirrored {c c' : Call} (calls : c.hush = c'.hush) :
    Mirrored (answer next d c) (answer next' e c') := by
  -- A call that performs no nested work is answered from the hushed desk alone.
  have direct (direct : ¬ c.IsNesting) : Mirrored (answer next d c) (answer next' e c') := by
    have direct' : ¬ c'.IsNesting := by rwa [← c'.isNesting_hush, ← calls, c.isNesting_hush]
    have first := answer_hush next next (d := d) direct
    have second := answer_hush next' next (d := e) direct'
    rw [same, calls, second] at first
    exact .of_eq (congrArg Prod.fst first).symm (congrArg Prod.snd first).symm
  cases c with
  | advance seconds =>
    cases c' <;> cases calls
    have now : d.agenda.now = e.agenda.now := congrArg Clock.reading (clock_of_hush same)
    rw [answer, answer, clock_of_hush same, now]
    split
    · exact (mimics.plain (w := .drainUntil _ 0) trivial same).reportCount
    · exact .ended (by simp) same
  | runDue =>
    cases c' <;> cases calls
    exact (mimics.plain (w := .drainDue 0) trivial same).reportCount
  | runNext =>
    cases c' <;> cases calls
    exact (mimics.plain (w := .drainNext) trivial same).reportCount
  | runUntilIdle =>
    cases c' <;> cases calls
    exact (mimics.plain (w := .drainAll 0) trivial same).reportCount
  | shielded body =>
    cases c' with
    | shielded body' =>
      have bodies : Call.hushAll body = Call.hushAll body' := Call.shielded.inj calls
      rw [answer_shielded, answer_shielded]
      exact (mimics.script bodies same).heard.recover (fun e => List.suffix_refl e.journal)
        fun d e same => .ended (by simp) same
    | _ => cases calls
  | _ => exact direct id

/-- Scripts that are the same but for the failures go alike. -/
theorem script_mirrored {calls calls' : List Call}
    (alike : Call.hushAll calls = Call.hushAll calls') :
    Mirrored (step next (.script calls) d) (step next' (.script calls') e) := by
  cases calls with
  | nil =>
    cases calls' <;> cases alike
    exact .ended nofun same
  | cons c rest =>
    cases calls' with
    | nil => cases alike
    | cons c' rest' =>
      obtain ⟨calls, others⟩ := List.cons.inj alike
      rw [step_script_cons, step_script_cons]
      refine (mimics.call calls same).proceed (fun reply e => ?_) fun reply d e same => ?_
      · exact (List.suffix_cons _ _).trans
          (mimics.records (.script rest') (e.note (.answered c' reply)))
      · exact mimics.script others (note_answered_hush same calls reply)

/-- Tasks that are the same but for the failures begin alike. -/
theorem start_mirrored {task task' : Task Action}
    (tasks : task.map Action.hush = task'.map Action.hush) :
    Mirrored (start next d task) (start next' e task') := by
  have begun := d.begin_hush task
  rw [same, tasks, e.begin_hush task'] at begun
  rw [start, start]
  generalize d.begin task = result at begun ⊢
  generalize e.begin task' = result' at begun ⊢
  obtain ⟨sequel, d₁⟩ := result
  obtain ⟨sequel', e₁⟩ := result'
  obtain ⟨sequels, desks⟩ := Prod.mk.inj begun
  cases sequel with
  | script calls =>
    cases sequel' with
    | script calls' => exact mimics.script (Sequel.script.inj sequels).symm desks.symm
    | deliver => cases sequels
  | deliver i run report =>
    cases sequel' <;> cases sequels
    exact mimics.plain trivial desks.symm

/-- A report is handed out alike. -/
theorem deliver_mirrored (i run place : Nat) (report : Report) :
    Mirrored (step next (.deliver i run report place) d)
      (step next' (.deliver i run report place) e) := by
  have listener : d.listener? i place = e.listener? i place :=
    show d.hush.listener? i place = e.hush.listener? i place by rw [same]
  rw [step_deliver, step_deliver, listener]
  cases e.listener? i place with
  | none => exact .ended nofun same
  | some observer =>
    have told := d.tell_hush i run observer report
    rw [same, e.tell_hush i run observer report] at told
    obtain ⟨answers, desks⟩ := Prod.mk.inj told
    exact (mimics.told answers.symm desks.symm).recover (fun e => mimics.records _ e)
      fun d e same => mimics.plain trivial same

/-- A drive of what is due goes alike. -/
theorem drainDue_mirrored (ran : Nat) :
    Mirrored (step next (.drainDue ran) d) (step next' (.drainDue ran) e) := by
  have now : d.agenda.now = e.agenda.now := congrArg Clock.reading (clock_of_hush same)
  rw [step_drainDue, step_drainDue, now]
  rcases takeDue?_of_hush same e.agenda.now with
    ⟨none, none'⟩ | ⟨task, rest, task', rest', taken, taken', tasks, rests⟩
  · rw [none, none']
    exact .ended nofun same
  · rw [taken, taken']
    exact (start_mirrored mimics rests tasks).proceed (fun _ e => mimics.records _ e)
      fun _ d e same => mimics.plain trivial same

/-- A drive up to a time goes alike. -/
theorem drainUntil_mirrored (reading : Float) (ran : Nat) :
    Mirrored (step next (.drainUntil reading ran) d) (step next' (.drainUntil reading ran) e) := by
  rw [step_drainUntil, step_drainUntil]
  rcases takeDue?_of_hush same reading with
    ⟨none, none'⟩ | ⟨task, rest, task', rest', taken, taken', tasks, rests⟩
  · rw [none, none']
    exact .ended nofun (congrArg (fun d : Desk => d.moveTo reading) same)
  · rw [taken, taken']
    have due : task.due = task'.due :=
      show (task.map Action.hush).due = (task'.map Action.hush).due by rw [tasks]
    have moved : (rest.moveTo task.due).hush = (rest'.moveTo task'.due).hush :=
      due ▸ congrArg (fun d : Desk => d.moveTo task.due) rests
    exact (start_mirrored mimics moved tasks).proceed (fun _ e => mimics.records _ e)
      fun _ d e same => mimics.plain trivial same

/-- A wait for the next task goes alike. -/
theorem drainNext_mirrored : Mirrored (step next .drainNext d) (step next' .drainNext e) := by
  rw [step_drainNext, step_drainNext, pending_of_hush same, sleepTime?_of_hush same]
  split
  · exact .ended nofun same
  · cases e.agenda.sleepTime? with
    | none =>
      have awaited : d.await.hush = e.await.hush := by rw [← await_hush, ← await_hush, same]
      exact mimics.plain trivial awaited
    | some seconds =>
      have slept : d.hush.sleep seconds = e.hush.sleep seconds := by rw [same]
      have calls : Call.hushAll (d.sleep seconds).1 = Call.hushAll (e.sleep seconds).1 :=
        congrArg Prod.fst slept
      have desks : (d.sleep seconds).2.hush = (e.sleep seconds).2.hush := congrArg Prod.snd slept
      exact (mimics.script calls desks).proceed (fun _ e => mimics.records _ e)
        fun _ d e same => mimics.plain trivial same

/-- A drive of all tasks goes alike. -/
theorem drainAll_mirrored (ran : Nat) :
    Mirrored (step next (.drainAll ran) d) (step next' (.drainAll ran) e) := by
  rw [step_drainAll, step_drainAll, pending_of_hush same]
  split
  · exact .ended nofun same
  · exact (mimics.plain (w := .drainNext) trivial same).proceed (fun _ e => mimics.records _ e)
      fun _ d e same => mimics.plain trivial same

/-- An observer makes the same calls until it fails of itself, if it does. -/
theorem told_heard (stays : ∀ message d, (next (.call (.fail message)) d).2 = d ∧
      ∀ reply, (next (.call (.fail message)) d).1 ≠ .returned reply)
    (fails : ∀ message e, next' (.call (.fail message)) e = (.failed (.outside message), e))
    {calls calls' : List Call} (answers : Call.hushAnswer calls = Call.hushAnswer calls') :
    Heard (step next (.script calls) d) (step next' (.script calls') e) := by
  rcases Call.hushAnswer_cases calls with ⟨silent, stops⟩ | ⟨c, rest, rfl, goes⟩
  · rcases Call.hushAnswer_cases calls' with ⟨-, stops'⟩ | ⟨c', rest', rfl, goes'⟩
    · have first := script_stopped stays stops d
      obtain ⟨outcome', finished', second⟩ := exists_script_stopped fails stops' e
      rw [second, ← Prod.eta (step next (.script calls) d), first]
      exact .of_outcome finished' same
    · rw [silent, goes'] at answers
      cases answers
  · rcases Call.hushAnswer_cases calls' with ⟨silent', -⟩ | ⟨c', rest', rfl, goes'⟩
    · rw [goes, silent'] at answers
      cases answers
    · rw [goes, goes'] at answers
      obtain ⟨calls, others⟩ := List.cons.inj answers
      rw [step_script_cons, step_script_cons]
      refine (mimics.call calls same).proceed_heard (fun reply e => ?_) fun reply d e same => ?_
      · exact (List.suffix_cons _ _).trans
          (mimics.records (.script rest') (e.note (.answered c' reply)))
      · exact mimics.told others (note_answered_hush same calls reply)

end

/-- Work that sets off other work is done alike if that is. -/
theorem step_mimics {next next' : Performer} (mimics : Mimics next next')
    (stays : ∀ message d, (next (.call (.fail message)) d).2 = d ∧
      ∀ reply, (next (.call (.fail message)) d).1 ≠ .returned reply)
    (fails : ∀ message e, next' (.call (.fail message)) e = (.failed (.outside message), e)) :
    Mimics (step next) (step next') where
  records := step_records mimics.records
  call calls same := answer_mirrored mimics same calls
  script calls same := script_mirrored mimics same calls
  told answers same := told_heard mimics same stays fails answers
  plain {w d e} plain same := by
    cases w with
    | call => exact plain.elim
    | script => exact plain.elim
    | deliver i run report place => exact deliver_mirrored mimics same i run place report
    | drainDue ran => exact drainDue_mirrored mimics same ran
    | drainUntil reading ran => exact drainUntil_mirrored mimics same reading ran
    | drainNext => exact drainNext_mirrored mimics same
    | drainAll ran => exact drainAll_mirrored mimics same ran

end Work

namespace Desk

/-- A failure of an observer is one call more, so the other desk needs one more level of nesting. -/
theorem perform_mimics (depth : Nat) : Work.Mimics (perform depth) (perform (depth + 1)) := by
  induction depth with
  | zero =>
    have begun {d e : Desk} (same : d.hush = e.hush) (w : Work) :
        d.Precedes (perform 1 w e).2 := (Precedes.of_eq same).trans (perform_records 1 w e)
    exact {
      records := perform_records 1
      call := fun {_ c' _ _} _ same => .cut (begun same (.call c'))
      script := fun {_ calls' _ _} _ same => .cut (begun same (.script calls'))
      told := fun {_ calls' _ _} _ same => .cut (begun same (.script calls'))
      plain := fun {w _ _} _ same => .cut (begun same w) }
  | succ depth ih =>
    refine Work.step_mimics ih (fun message d => ?_) fun _ _ => rfl
    cases depth with
    | zero => exact ⟨rfl, nofun⟩
    | succ => exact ⟨rfl, nofun⟩

/-! ## Histories -/

/-- How the calls of a history end, each with the desk as it is then, the answer written down. A
call that is left unfinished is the last one. -/
def course (depth : Nat) : List Call → Desk → List (Outcome Reply × Desk)
  | [], _ => []
  | c :: rest, d =>
    let result := perform depth (.call c) d
    (result.1, Work.settle c result) :: match result.1 with
      | .unfinished => []
      | _ => course depth rest (Work.settle c result)

/-- A history leads to where its last call ends. -/
theorem history_eq_course (depth : Nat) (calls : List Call) (d : Desk) :
    history depth calls d = ((course depth calls d).map Prod.snd).getLastD d := by
  induction calls generalizing d with
  | nil => rfl
  | cons c rest ih =>
    rw [history, course]
    generalize perform depth (.call c) d = result
    obtain ⟨outcome, d₁⟩ := result
    cases outcome with
    | unfinished => rfl
    | _ => simp only [List.map_cons, List.getLastD_cons, ← ih, Work.settle]

/-- Two histories, call by call: their calls end alike, and the desks are the same but for the
failures of observers, up to a call that is left unfinished in the first history. -/
inductive Retraces : List (Outcome Reply × Desk) → List (Outcome Reply × Desk) → Prop where
  | nil : Retraces [] []
  | ended {outcome d e rest rest'} (finished : outcome ≠ .unfinished) (same : d.hush = e.hush)
      (onward : Retraces rest rest') : Retraces ((outcome, d) :: rest) ((outcome, e) :: rest')
  | cut {d result rest'} (begun : d.Precedes result.2) :
      Retraces [(.unfinished, d)] (result :: rest')

/-- The answers to calls that are the same but for the failures leave desks that are. -/
theorem settle_hush {c c' : Call} (calls : c.hush = c'.hush) (outcome : Outcome Reply)
    {d e : Desk} (same : d.hush = e.hush) :
    (Work.settle c (outcome, d)).hush = (Work.settle c' (outcome, e)).hush := by
  cases outcome with
  | returned reply => exact note_answered_hush same calls reply
  | _ => exact same

/-- A history with failures retraces the one without them. -/
theorem course_retraces (depth : Nat) {calls calls' : List Call} {d e : Desk}
    (alike : Call.hushAll calls = Call.hushAll calls') (same : d.hush = e.hush) :
    Retraces (course depth calls d) (course (depth + 1) calls' e) := by
  induction calls generalizing calls' d e with
  | nil =>
    cases calls' <;> cases alike
    exact .nil
  | cons c rest ih =>
    cases calls' with
    | nil => cases alike
    | cons c' rest' =>
      obtain ⟨calls, others⟩ := List.cons.inj alike
      have first := (perform_mimics depth).call calls same
      rw [course, course]
      generalize perform depth (.call c) d = result at first ⊢
      generalize perform (depth + 1) (.call c') e = result' at first ⊢
      cases first with
      | @ended outcome d e finished same =>
        have settled := settle_hush calls outcome same
        refine .ended finished settled ?_
        cases outcome with
        | unfinished => exact absurd rfl finished
        | _ => exact ih others settled
      | cut begun =>
        refine .cut (begun.trans ?_)
        obtain ⟨outcome, e⟩ := result'
        cases outcome with
        | returned => exact List.suffix_cons _ _
        | _ => exact List.suffix_refl _

/-- It changes nothing whether observers raise. -/
theorem raising_changes_nothing {calls calls' : List Call} {sink sink' : Option Conduct}
    {observers observers' : List Conduct} {sleeper sleeper' : Sleeper}
    (sameCalls : Call.hushAll calls = Call.hushAll calls')
    (sameSink : sink.map Conduct.hushCalls = sink'.map Conduct.hushCalls)
    (sameObservers : observers.map Conduct.hush = observers'.map Conduct.hush)
    (sameSleeper : sleeper.hush = sleeper'.hush) (clock : Clock) (depth : Nat) :
    let start := fresh clock sink observers sleeper
    let start' := fresh clock sink' observers' sleeper'
    Retraces (course depth calls start) (course (depth + 1) calls' start') ∧
      Retraces (course depth calls' start') (course (depth + 1) calls start) := by
  intro start start'
  have same : start.hush = start'.hush := by
    rw [fresh_hush, fresh_hush, sameSink, sameObservers, sameSleeper]
  exact ⟨course_retraces depth sameCalls same, course_retraces depth sameCalls.symm same.symm⟩

/-- A run that somebody is told about who is registered in a task. -/
def observedRun (conduct : Conduct) : List Call :=
  let exercise : Exercise := ⟨['a'], some "python".toList, some "print(1)".toList, some ['1']⟩
  [.openExercise exercise, .schedule 0 [] [.addObserver none conduct], .ask none .run, .advance 5]

/-- A run whose first observer raises, with another one who asks for the next run. -/
theorem raising_changes_nothing_observedRun :
    let recording : Conduct := fun _ => []
    let raising : Conduct := fun n => if n = 0 then [.fail "display went away".toList] else []
    let repeating : Conduct := fun n => if n = 0 then [.ask none .run, .advance 1] else []
    let sink : Option Conduct := some fun _ => [.fail []]
    let start := fresh ⟨.virtual, 0⟩ sink [recording, repeating]
    let start' := fresh ⟨.virtual, 0⟩ sink [raising, repeating]
    (finishedNumbers (history 60 (observedRun raising) start').journal).length = 2 ∧
      Retraces (course 60 (observedRun recording) start) (course 61 (observedRun raising) start') ∧
      Retraces (course 60 (observedRun raising) start')
        (course 61 (observedRun recording) start) := by
  intro recording raising repeating sink start start'
  have quiet : Conduct.hush raising = fun _ => [] := by
    refine Conduct.hush_of_recording fun n => ?_
    by_cases first : n = 0
    · exact .inr ⟨_, if_pos first⟩
    · exact .inl (if_neg first)
  have sameCalls : Call.hushAll (observedRun recording) = Call.hushAll (observedRun raising) :=
    congrArg (fun conduct => observedRun conduct) quiet.symm
  have sameObservers : [recording, repeating].map Conduct.hush =
      [raising, repeating].map Conduct.hush :=
    congrArg (fun conduct => [conduct, Conduct.hush repeating]) quiet.symm
  exact ⟨by decide +kernel,
    raising_changes_nothing sameCalls rfl sameObservers rfl ⟨.virtual, 0⟩ 60⟩

end Desk

end DryRun
