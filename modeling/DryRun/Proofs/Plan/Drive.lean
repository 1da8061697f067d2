import DryRun.Proofs.Desk.Ending
import DryRun.Proofs.Plan.Agenda

/-!
# Plans at a desk

A desk that takes plans from its agenda does to the agenda what `Agenda.Takes` says, writes down the
tasks in the order in which they begin, with the readings at which they do, and comes to an end
(`exists_takes`).

`Becomes` says what has become of a desk and what was written down on the way. It also keeps account
of those who slept: whoever slept did so for some time and with no task due.
-/

set_option autoImplicit false

namespace DryRun

/-- The task that begins at a moment, and the reading then. -/
def Moment.beginning? (m : Moment) : Option Beginning :=
  match m.event with
  | .began task => some (task, m.bench.agenda.now)
  | _ => none

/-- The tasks that begin at some moments, and the readings then. -/
def beginnings (moments : List Moment) : List Beginning := moments.filterMap Moment.beginning?

/-- Whoever sleeps at a moment does so for some time, with no task due and for want of a clock that
jumps. -/
def Moment.Rested (m : Moment) : Prop :=
  ∀ seconds, m.event = .slept seconds →
    m.bench.agenda.clock.kind ≠ .virtual ∧ 0 < seconds ∧
      ∀ task ∈ m.bench.agenda.tasks, ¬ task.due ≤ m.bench.agenda.now

namespace Desk

variable {d d₁ d' : Desk} {begun begun' : List Beginning} {a a' : Agenda Action}
  {allowed : Float → Prop} {calls : List Call} {task : Task Action} {limit : Option Float}
  {outcome : Outcome Unit}

/-- Some tasks have begun since, at certain readings, and the agenda has become another one. -/
structure Becomes (d : Desk) (begun : List Beginning) (a : Agenda Action) (d' : Desk) : Prop where
  agenda : d'.agenda = a
  sleeper : d'.sleeper = d.sleeper
  journal : ∃ recent, d'.journal = recent ++ d.journal ∧ beginnings recent.reverse = begun ∧
    ∀ m ∈ recent, m.Rested

/-- What becomes of a desk in two stretches. -/
theorem Becomes.trans (first : d.Becomes begun a d₁) (second : d₁.Becomes begun' a' d') :
    d.Becomes (begun ++ begun') a' d' := by
  obtain ⟨recent, entries, begins, rested⟩ := first.journal
  obtain ⟨recent', entries', begins', rested'⟩ := second.journal
  refine ⟨second.agenda, second.sleeper.trans first.sleeper, recent' ++ recent, ?_, ?_, ?_⟩
  · rw [entries', entries, List.append_assoc]
  · rw [List.reverse_append, beginnings, List.filterMap_append, ← begins, ← begins']
    rfl
  · exact List.forall_mem_append.mpr ⟨rested', rested⟩

/-- Nothing was written down. -/
theorem becomes_silent (sleeper : d'.sleeper = d.sleeper) (journal : d'.journal = d.journal) :
    d.Becomes [] d'.agenda d' :=
  ⟨rfl, sleeper, [], journal, rfl, by simp⟩

/-- What is written down may be the beginning of a task. -/
theorem becomes_note (d : Desk) (event : Event) (rested : (⟨event, d.toBench⟩ : Moment).Rested) :
    d.Becomes ((Moment.beginning? ⟨event, d.toBench⟩).toList) d.agenda (d.note event) := by
  refine ⟨rfl, rfl, [⟨event, d.toBench⟩], rfl, ?_, by simpa using rested⟩
  simp only [beginnings, List.reverse_singleton, List.filterMap_cons, List.filterMap_nil]
  cases Moment.beginning? ⟨event, d.toBench⟩ <;> rfl

/-- The journal tells which tasks have begun, and that nobody slept without need. -/
theorem Becomes.beginnings (becomes : d.Becomes begun a d') :
    beginnings (d'.eventsSince d.journal.length) = begun ∧
      ∀ m ∈ d'.eventsSince d.journal.length, m.Rested := by
  obtain ⟨recent, entries, begins, rested⟩ := becomes.journal
  have since : d'.eventsSince d.journal.length = recent.reverse := by
    rw [eventsSince, entries, List.length_append, Nat.add_sub_cancel, List.take_left]
  rw [since]
  exact ⟨begins, by simpa using rested⟩

/-- A task is put down. -/
theorem does_schedule (d : Desk) {delay : Float} (nonneg : ¬ delay < 0) (name : Text)
    (body : List Call) :
    d.Does (.call (.schedule delay name body))
      (.returned (.task (d.agenda.now + delay) d.agenda.issued name))
      (d.put delay name (.script body)).2 := by
  refine .of_answer (by simp) (.of_forall fun depth => ?_)
  rw [Work.answer, Agenda.schedule, if_neg nonneg]
  rfl

/-- The calls of a plan are made: its tasks are put down, up to the first one that is refused. -/
theorem exists_carry (plans : ∀ c ∈ calls, c.Plans allowed) (d : Desk) :
    ∃ d', d.Does (.script calls) (d.agenda.carry calls).1 d' ∧
      d.Becomes [] (d.agenda.carry calls).2 d' := by
  induction calls generalizing d with
  | nil => exact ⟨d, d.does_script_nil, becomes_silent rfl rfl⟩
  | cons c others ih =>
    cases plans c List.mem_cons_self with
    | @schedule delay name body =>
      rw [Agenda.carry]
      by_cases negative : delay < 0
      · rw [if_pos negative]
        refine ⟨d, Does.script_failed (.of_answer (by simp) (.of_forall fun depth => ?_)),
          becomes_silent rfl rfl⟩
        rw [Work.answer, Agenda.schedule, if_pos negative]
      · rw [if_neg negative]
        let placed := (d.put delay name (.script body)).2
        let reply := Reply.task (d.agenda.now + delay) d.agenda.issued name
        have put : d.Becomes [] placed.agenda placed := becomes_silent rfl rfl
        have noted := becomes_note placed (.answered (.schedule delay name body) reply)
          (fun _ slept => by cases slept)
        obtain ⟨d', onward, becomes⟩ := ih (fun c member => plans c (.tail _ member))
          (placed.note (.answered (.schedule delay name body) reply))
        exact ⟨d', (does_schedule d negative name body).script_cons onward,
          (put.trans noted).trans becomes⟩

/-- A plan that is taken begins and is carried out. -/
theorem exists_started {rest : Agenda Action} {reading : Float} (plans : d.agenda.Plans allowed)
    (taken : d.agenda.takeDue? reading = some (task, rest)) :
    ∃ onward d', d.takeDue? reading = some (task, onward) ∧
      (onward.moveTo task.due).Starts task
        ((rest.moveTo task.due).carry task.action.calls).1 d' ∧
      d.Becomes [(task, (rest.moveTo task.due).now)]
        ((rest.moveTo task.due).carry task.action.calls).2 d' := by
  obtain ⟨action, allows, -⟩ := plans.take taken
  let onward : Desk := { d with agenda := rest }
  have begins : (onward.moveTo task.due).begin task =
      (.script task.action.calls, (onward.moveTo task.due).note (.began task)) := by
    rw [begin, action]
    rfl
  have left : d.Becomes [] (onward.moveTo task.due).agenda (onward.moveTo task.due) :=
    becomes_silent rfl rfl
  have noted := becomes_note (onward.moveTo task.due) (.began task) (fun _ slept => nomatch slept)
  obtain ⟨d', does, becomes⟩ := exists_carry allows ((onward.moveTo task.due).note (.began task))
  refine ⟨onward, d', ?_, .of_script begins does, (left.trans noted).trans becomes⟩
  rw [takeDue?, taken]
  rfl

/-- A desk takes plans as its agenda says. -/
theorem exists_takes (takes : a.Takes limit begun outcome a') (plans : a.Plans allowed)
    (same : d.agenda = a) :
    ∃ d', d.Takes limit (begun.map Prod.fst) outcome d' ∧ d.Becomes begun a' d' := by
  induction takes generalizing d with
  | stop undue =>
    subst same
    refine ⟨_, .stop (by rw [takeDue?, undue]; rfl), ?_⟩
    cases limit with
    | none => exact becomes_silent rfl rfl
    | some reading =>
      have moved : d.Becomes [] (d.moveTo reading).agenda (d.moveTo reading) :=
        becomes_silent rfl rfl
      exact moved
  | @next a task rest a₁ begun outcome a' taken carried _ ih =>
    subst same
    obtain ⟨-, -, left⟩ := plans.take taken
    obtain ⟨onward, d₁, first, starts, becomes⟩ := exists_started plans taken
    rw [carried] at starts becomes left
    obtain ⟨d', others, becomes'⟩ := ih left becomes.agenda
    exact ⟨d', .next first starts others, becomes.trans becomes'⟩
  | fail taken carried =>
    subst same
    obtain ⟨onward, d', first, starts, becomes⟩ := exists_started plans taken
    rw [carried] at starts becomes
    exact ⟨d', .fail first starts, becomes⟩

end Desk

end DryRun
