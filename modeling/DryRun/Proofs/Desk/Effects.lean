import DryRun.Desk.Perform
import DryRun.Proofs.Agenda.Tasks

/-!
# What the operations of a desk change

Each operation that grants a request, lets a run take place or begins a task in one equation or one
case distinction, down to the agenda, the attempts and the entry in the journal. Statements about
steps go through these and do not open the operations.
-/

set_option autoImplicit false

namespace DryRun

/-- An attempt is idle in the idle phase only. -/
theorem Attempt.isIdle_iff (a : Attempt) : a.isIdle = true ↔ a.phase = .idle := by
  cases h : a.phase <;> simp [isIdle, h]

/-- A request to change an attempt is about its source text and what its latest run yielded. -/
theorem Request.change?_eq_some {request : Request} {change : Attempt → Attempt}
    (changes : request.change? = some change) (a : Attempt) :
    ∃ source grade, change a = { a with source, grade } ∧ (grade = a.grade ∨ grade = none) := by
  cases request with
  | run => cases changes
  | reset =>
    cases changes
    exact ⟨_, _, rfl, .inr rfl⟩
  | clearLog =>
    cases changes
    exact ⟨_, _, rfl, .inr rfl⟩
  | edit =>
    cases changes
    exact ⟨_, _, rfl, .inl rfl⟩
  | insert =>
    cases changes
    exact ⟨_, _, rfl, .inl rfl⟩
  | describe => cases changes
  | info => cases changes

/-- Whether a call may set off other work. -/
def Call.IsNesting : Call → Prop
  | .advance _ | .runDue | .runNext | .runUntilIdle | .shielded _ => True
  | _ => False

namespace Desk

/-! ## Notes -/

/-- What is written down leaves the bench as it is. -/
@[simp] theorem note_toBench (d : Desk) (event : Event) : (d.note event).toBench = d.toBench := rfl

/-- What is written down leaves the sink as it is. -/
@[simp] theorem note_sink (d : Desk) (event : Event) : (d.note event).sink = d.sink := rfl

/-- What is written down is the latest moment of the journal. -/
@[simp] theorem note_journal (d : Desk) (event : Event) :
    (d.note event).journal = ⟨event, d.toBench⟩ :: d.journal := rfl

/-! ## Attempts -/

/-- Changing an attempt changes that one. -/
theorem modify_getElem? (d : Desk) (i : Nat) (f : Attempt → Attempt) (k : Nat) :
    (d.modify i f).attempts[k]? = if i = k then d.attempts[k]?.map f else d.attempts[k]? := by
  show (d.attempts.modify i f)[k]? = _
  rw [Array.getElem?_modify]

/-- What holds of every attempt still does when one of them changes and keeps it. -/
theorem forall_attempts_modify {Q : Attempt → Prop} {b b' : Bench} {i : Nat}
    {change : Attempt → Attempt}
    (attempts : ∀ k, b'.attempts[k]? = if i = k then b.attempts[k]?.map change else b.attempts[k]?)
    (all : ∀ (k : Nat) (a : Attempt), b.attempts[k]? = some a → Q a)
    (kept : ∀ a, Q a → Q (change a)) (k : Nat) (a : Attempt) (found : b'.attempts[k]? = some a) :
    Q a := by
  rw [attempts] at found
  split at found
  · obtain ⟨a', known, rfl⟩ := Option.map_eq_some_iff.mp found
    exact kept a' (all k a' known)
  · exact all k a found

/-- What holds of every attempt still does when one is added of which it holds. -/
theorem forall_attempts_openExercise {Q : Attempt → Prop} {d : Desk}
    (all : ∀ (k : Nat) (a : Attempt), d.attempts[k]? = some a → Q a) {exercise : Exercise}
    (new : Q (Attempt.ofExercise exercise d.shared)) (k : Nat) (a : Attempt)
    (found : (d.openExercise exercise).2.attempts[k]? = some a) : Q a := by
  simp only [openExercise, Array.getElem?_push] at found
  split at found
  · cases found
    exact new
  · exact all k a found

/-! ## Requests -/

/-- A call without a target is aimed at the latest attempt. -/
theorem aim_eq_ok {d : Desk} {target : Option Nat} {operation : String} {i : Nat}
    (aimed : d.aim target operation = .ok i) : target.getD (d.attempts.size - 1) = i := by
  unfold aim at aimed
  cases target with
  | some j =>
    simp only at aimed
    split at aimed
    · cases aimed
      rfl
    · cases aimed
  | none =>
    simp only at aimed
    split at aimed
    · cases aimed
    · cases aimed
      rfl

/-- A call is aimed at an attempt that has been opened. -/
theorem lt_of_aim {d : Desk} {target : Option Nat} {operation : String} {i : Nat}
    (aimed : d.aim target operation = .ok i) : i < d.attempts.size := by
  cases target with
  | some j =>
    simp only [aim] at aimed
    split at aimed <;> cases aimed
    assumption
  | none =>
    simp only [aim] at aimed
    split at aimed <;> cases aimed
    omega

/-- A busy attempt refuses every request to change it. -/
theorem grant_of_busy (d : Desk) (i : Nat) {a : Attempt} (busy : a.isIdle = false)
    {request : Request} (asked : request = .run ∨ request.change?.isSome) :
    d.grant i a request = (.granted false, d) := by
  cases request <;> simp_all [grant, Request.change?, change, launch]

/-- A request that is granted to an idle attempt changes it. -/
theorem grant_of_change (d : Desk) (i : Nat) {a : Attempt} (idle : a.isIdle = true)
    {request : Request} {f : Attempt → Attempt} (changes : request.change? = some f) :
    d.grant i a request = (.granted true, d.modify i f) := by
  simp [grant, changes, change, idle]

/-- A run that is granted to an idle attempt is launched. -/
theorem grant_run (d : Desk) (i : Nat) {a : Attempt} (idle : a.isIdle = true) :
    d.grant i a .run = (.granted true, (d.launch i a).2) := by
  simp [grant, Request.change?, launch, idle]

/-- A request that is no request to change an attempt leaves the desk as it was. -/
theorem grant_of_question (d : Desk) (i : Nat) (a : Attempt) {request : Request}
    (asked : request ≠ .run) (unchanged : request.change? = none) :
    (d.grant i a request).2 = d ∧ (d.grant i a request).1 ≠ .granted true := by
  cases request <;> simp_all [grant, Request.change?]

/-- A run is started: what the latest one yielded is cleared away, and a task is put down that lets
the run take place. -/
theorem launch_snd (d : Desk) (i : Nat) {a : Attempt} (idle : a.isIdle = true) :
    (d.launch i a).2 =
      ((d.modify i Attempt.start).put a.language.compileDelay (taskName a.exercise "compile")
        (.compile i)).2.note (.launched i d.agenda.issued) := by
  simp only [launch, idle, if_true]
  rfl

/-! ## Runs -/

/-- Two changes of an attempt are one. -/
theorem modify_modify (d : Desk) (i : Nat) (f g : Attempt → Attempt) :
    (d.modify i f).modify i g = d.modify i fun a => g (f a) := by
  have twice : (d.attempts.modify i f).modify i g = d.attempts.modify i fun a => g (f a) := by
    ext k hk hk'
    · simp
    · simp only [Array.getElem_modify]
      split <;> simp
  simp only [modify, twice]

/-- A run takes place: it yields the grade of the source text and may be announced later. -/
theorem finish_snd (d : Desk) (i run : Nat) (a : Attempt) :
    (d.finish i run a).2 =
      ((d.modify i Attempt.finish).promise i run a).note (.finished i run a.outcome) := by
  simp only [finish, modify_modify]
  rfl

/-- A completion is put down if the run passed and somebody wants to know. -/
theorem promise_eq (d : Desk) (i run : Nat) (a : Attempt) :
    d.promise i run a =
      if a.outcome.verdict = .success ∧ d.sink.isSome then
        (d.put Settings.completionDelay (taskName a.exercise "complete") (.complete i run)).2
      else d := by
  simp only [promise, Bool.and_eq_true, decide_eq_true_eq]

/-- A run that finishes is written down with what it yielded. -/
theorem finish_journal (d : Desk) (i run : Nat) (a : Attempt) :
    (d.finish i run a).2.journal =
      ⟨.finished i run a.outcome, (d.finish i run a).2.toBench⟩ :: d.journal := by
  rw [finish_snd, promise_eq]
  split <;> rfl

/-- Finishing a run changes that attempt. -/
theorem finish_getElem? (d : Desk) (i run : Nat) (a : Attempt) (k : Nat) :
    (d.finish i run a).2.attempts[k]? =
      if i = k then d.attempts[k]?.map Attempt.finish else d.attempts[k]? := by
  rw [finish_snd, promise_eq]
  split <;> exact modify_getElem? ..

/-- A run that takes place puts down no task but that of its announcement. -/
theorem finish_tasks (d : Desk) (i run : Nat) (a : Attempt) :
    d.agenda.issued ≤ (d.finish i run a).2.agenda.issued ∧
      ∀ task ∈ (d.finish i run a).2.agenda.tasks,
        task ∈ d.agenda.tasks ∨ task.action = .complete i run := by
  rw [finish_snd, promise_eq]
  split
  · refine ⟨Nat.le_succ _, fun task member => ?_⟩
    rcases Agenda.mem_put.mp member with rfl | old
    · exact .inr rfl
    · exact .inl old
  · exact ⟨Nat.le_refl _, fun _ member => .inl member⟩

/-- Telling an observer writes it down and leaves the bench as it was. -/
theorem tell_snd (d : Desk) (i run observer : Nat) (report : Report) :
    (d.tell i run observer report).2.toBench = d.toBench ∧
      (d.tell i run observer report).2.journal =
        ⟨.reported i run observer report, d.toBench⟩ :: d.journal := by
  simp only [tell]
  split <;> exact ⟨rfl, rfl⟩

/-- An observer who is told leaves the sink as it is. -/
@[simp] theorem tell_sink (d : Desk) (i run observer : Nat) (report : Report) :
    (d.tell i run observer report).2.sink = d.sink := by
  simp only [tell]
  split <;> rfl

/-! ## Tasks -/

/-- The task that is taken is the first one and due; nothing else changes. -/
theorem takeDue?_eq_some {d rest : Desk} {reading : Float} {task : Task Action}
    (taken : d.takeDue? reading = some (task, rest)) :
    task.due ≤ reading ∧
      Heap.pop? Task.before d.agenda.tasks = some (task, rest.agenda.tasks) ∧
      rest = { d with agenda := { d.agenda with tasks := rest.agenda.tasks } } := by
  simp only [takeDue?, Option.map_eq_some_iff] at taken
  obtain ⟨⟨first, agenda⟩, taken, result⟩ := taken
  obtain ⟨rfl, rfl⟩ := Prod.mk.inj result
  obtain ⟨due, popped, others⟩ := Agenda.takeDue?_eq_some taken
  exact ⟨due, popped, by rw [← others]⟩

/-- A drive takes a task: it leaves the agenda, and the clock is not behind it any more. -/
theorem moveTo_of_takeDue? {d rest : Desk} {reading : Float} {task : Task Action}
    (taken : d.takeDue? reading = some (task, rest)) :
    d.agenda.tasks.toList.Perm (task :: (rest.moveTo task.due).agenda.tasks.toList) ∧
      rest.moveTo task.due = { d with agenda :=
        { d.agenda with
          tasks := (rest.moveTo task.due).agenda.tasks
          clock := d.agenda.clock.moveTo task.due } } := by
  obtain ⟨-, popped, others⟩ := takeDue?_eq_some taken
  refine ⟨(Heap.pop?_perm popped).2, ?_⟩
  rw [others]
  rfl

/-- The tasks that were waiting are the one that is taken and those that are left. -/
theorem mem_of_takeDue? {d rest : Desk} {reading : Float} {task : Task Action}
    (taken : d.takeDue? reading = some (task, rest)) :
    task ∈ d.agenda.tasks ∧ ∀ other ∈ rest.agenda.tasks, other ∈ d.agenda.tasks := by
  have tasks := (Heap.pop?_perm (takeDue?_eq_some taken).2.1).2
  simp only [← Array.mem_toList_iff, tasks.mem_iff]
  exact ⟨List.mem_cons_self, fun _ => List.mem_cons_of_mem task⟩

/-- What the beginning of a task can be: the calls of a script are made, a run of an attempt takes
place, the sink is told that an attempt was accepted. A task that concerns nobody does nothing. -/
inductive Begins (d : Desk) (task : Task Action) : Sequel × Desk → Prop where
  | script {calls} (action : task.action = .script calls) :
      Begins d task (.script calls, d.note (.began task))
  | stray (action : (∃ i, task.action = .compile i ∧ d.attempts[i]? = none) ∨
        ∃ i run, task.action = .complete i run ∧ (d.attempts[i]? = none ∨ d.sink = none)) :
      Begins d task (.script [], d.note (.began task))
  | run {i a} (action : task.action = .compile i) (known : d.attempts[i]? = some a) :
      Begins d task (.deliver i task.sequence a.report,
        ((d.note (.began task)).finish i task.sequence a).2)
  | announcement {i run a sink} (action : task.action = .complete i run)
      (known : d.attempts[i]? = some a) (held : d.sink = some sink) :
      Begins d task (.script (sink.conduct sink.calls),
        { (d.note (.began task)).note (.announced i a.exercise) with
          sink := some { sink with calls := sink.calls + 1 } })

/-- Every task begins in one of these ways. -/
theorem begins (d : Desk) (task : Task Action) : d.Begins task (d.begin task) := by
  unfold begin
  cases action : task.action with
  | script calls => exact .script action
  | compile i =>
    cases known : d.attempts[i]? with
    | none =>
      simp only [note_toBench, known]
      exact .stray (.inl ⟨i, action, known⟩)
    | some a =>
      simp only [note_toBench, known]
      exact .run action known
  | complete i run =>
    cases known : d.attempts[i]? with
    | none =>
      simp only [note_toBench, known]
      exact .stray (.inr ⟨i, run, action, .inl known⟩)
    | some a =>
      cases held : d.sink with
      | none =>
        simp only [note_toBench, known, announce, note_sink, held]
        exact .stray (.inr ⟨i, run, action, .inr held⟩)
      | some sink =>
        simp only [note_toBench, known, announce, note_sink, held]
        exact .announcement action known held

end Desk

end DryRun
