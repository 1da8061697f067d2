import DryRun.Proofs.Desk.View

/-!
# Tasks and drives at a calm desk

At a calm desk every task that begins comes to an end (`Calm.goes`), and so does every drive
(`Underway.exists_takes`). What the tasks of an attempt do is what they do to the view of it; the
tasks of other attempts leave the view alone.

A drive moves the clock to the time of each task that it takes. In the course of a drive the clock
of the desk may therefore be ahead of that of the view, because of tasks of other attempts. The next
task of the attempt brings them together again, and so does the end of the drive (`Leads.moveTo`):
the attempt has no way to notice.
-/

set_option autoImplicit false

namespace DryRun.Desk

open Reading Filter

variable {d d' rest : Desk} {n i : Nat} {v : View} {a : Attempt} {task : Task Action}

/-! ## Tasks of attempts -/

/-- A run that finishes puts down its completion or nothing. -/
theorem finish_agenda (d : Desk) (i run : Nat) (a : Attempt) :
    (d.finish i run a).2.agenda = d.agenda ∨
      (d.finish i run a).2.agenda = (d.agenda.put Settings.completionDelay
        (taskName a.exercise "complete") (.complete i run)).2 := by
  rw [finish_snd, promise_eq]
  split
  · exact .inr rfl
  · exact .inl rfl

/-- A run takes place. -/
theorem Calm.finish (calm : d.Calm) (i run : Nat) (a : Attempt) : (d.finish i run a).2.Calm := by
  have finished := calm.modify i Attempt.inner_finish
  rw [finish_snd, promise_eq]
  refine (rests_note _ fun _ => rfl).calm ?_
  split
  · exact finished.put completionDelay_span _ rfl
  · exact finished

/-- A completion that is put down shows in the view of its attempt. -/
theorem Shows.promise (shown : d.Shows i v) (calm : d.Calm) (same : d.agenda.clock = v.clock)
    (run : Nat) (a : Attempt) : (d.promise i run a).Shows i (v.promise a.byPlace) := by
  have outcome : a.byPlace.outcome = a.outcome := rfl
  rw [promise_eq, View.promise, outcome, shown.held]
  split
  · exact shown.put calm same _ _ rfl
  · exact shown

/-- A run that finishes shows in the view of its attempt. -/
theorem Shows.finish (shown : d.Shows i v) (calm : d.Calm) (same : d.agenda.clock = v.clock)
    (run : Nat) (known : v.attempt = some a.byPlace) :
    (d.finish i run a).2.Shows i
      ({ v with attempt := some a.byPlace.finish }.promise a.byPlace) := by
  have finished := shown.modify Attempt.inner_finish
  rw [known] at finished
  rw [finish_snd]
  exact Rests.shows (rests_note _ fun _ => rfl)
    (finished.promise (calm.modify i Attempt.inner_finish) same run a)

/-- The end of another attempt's run does not show. -/
theorem Shows.finish_other (shown : d.Shows n v) (other : i ≠ n) (run : Nat) (a : Attempt) :
    (d.finish i run a).2.Shows n v := by
  have finished := shown.modify_other other Attempt.finish
  rw [finish_snd, promise_eq]
  refine Rests.shows (rests_note _ fun _ => rfl) ?_
  split
  · exact finished.put_other _ _ (by simpa [Action.attempt?] using other)
  · exact finished

/-- The sink is told that an attempt was accepted. -/
theorem onlyDelivers_announced (d : Desk) (i : Nat) (exercise : Exercise) {sink : Observer}
    (held : d.sink = some sink) :
    d.OnlyDelivers (fun n => if n = i then [.completion exercise d.agenda.now] else [])
      { d.note (.announced i exercise) with
        sink := some { sink with calls := sink.calls + 1 } } := by
  refine ⟨rfl, rfl, by rw [held]; rfl, rfl, fun n => ?_⟩
  show DryRun.deliveries n (⟨.announced i exercise, d.toBench⟩ :: d.journal) = _
  rw [DryRun.deliveries, List.filterMap_cons]
  by_cases own : n = i
  · subst own
    simp only [Moment.delivery?, if_true]
    rfl
  · simp only [Moment.delivery?, if_neg (Ne.symm own), if_neg own]
    rfl

/-- What becomes of a calm desk at which a task of an attempt begins. -/
structure Goes (d : Desk) (task : Task Action) (i : Nat) (d' : Desk) : Prop where
  starts : d.Starts task (.returned ()) d'
  calm : d'.Calm
  agenda : d'.agenda = d.agenda ∨ task.action.isAnnouncement = false ∧ ∃ name run,
    d'.agenda = (d.agenda.put Settings.completionDelay name (.complete i run)).2
  own : ∀ {v}, d.Shows i v → d.agenda.clock = v.clock →
    d'.Shows i (v.begin task.action.isAnnouncement)
  other : ∀ {n v}, i ≠ n → d.Shows n v → d'.Shows n v

/-- A task changes nothing in the view if there is nobody for it to concern. -/
theorem Shows.begin_stray (shown : d.Shows i v) (about : task.action.attempt? = some i)
    (stray : (∃ j, task.action = .compile j ∧ d.attempts[j]? = none) ∨
      ∃ j run, task.action = .complete j run ∧ (d.attempts[j]? = none ∨ d.sink = none)) :
    v.begin task.action.isAnnouncement = v := by
  rcases stray with ⟨j, action, absent⟩ | ⟨j, run, action, absent | unheld⟩
  · obtain rfl : j = i := by simpa [action, Action.attempt?] using about
    exact View.begin_of_none (shown.absent absent) _
  · obtain rfl : j = i := by simpa [action, Action.attempt?] using about
    exact View.begin_of_none (shown.absent absent) _
  · have held : v.held = false := by
      rw [← shown.held, unheld]
      rfl
    cases attempt : v.attempt with
    | none => exact View.begin_of_none attempt _
    | some a =>
      rw [action, Action.isAnnouncement, View.begin_announcement attempt, held]
      rfl

/-- A run of an attempt takes place, and all observers are told. -/
theorem Calm.goes_run (calm : d.Calm) (action : task.action = .compile i)
    (known : d.attempts[i]? = some a)
    (begun : d.begin task = (.deliver i task.sequence a.report,
      ((d.note (.began task)).finish i task.sequence a).2)) : ∃ d', d.Goes task i d' := by
  have rests : d.Rests (d.note (.began task)) := d.rests_note fun _ => rfl
  have calm₁ := (rests.calm calm).finish i task.sequence a
  have known₁ : ((d.note (.began task)).finish i task.sequence a).2.attempts[i]? =
      some a.finish := by
    rw [finish_getElem?, if_pos rfl]
    exact congrArg (Option.map Attempt.finish) known
  have agenda := (d.note (.began task)).finish_agenda i task.sequence a
  have now : ((d.note (.began task)).finish i task.sequence a).2.agenda.now = d.agenda.now := by
    rcases agenda with same | put
    · rw [same]
      rfl
    · rw [put]
      rfl
  obtain ⟨d', delivers, only⟩ := exists_deliver calm₁.observers known₁
    (calm₁.attempts _ (Array.mem_of_getElem? known₁)).2.1 task.sequence a.report 0
  refine ⟨d', .of_deliver begun delivers, only.calm calm₁, ?_, fun {v} shown same => ?_,
    fun {n v} other shown => ?_⟩
  · rw [only.bench]
    exact agenda.imp_right fun put => ⟨by rw [action]; rfl, _, _, put⟩
  · have attempt := shown.known known
    have finished := (rests.shows shown).finish (rests.calm calm) same task.sequence attempt
    have told := only.shows finished
    rw [now, Agenda.now, same, if_pos rfl, Nat.sub_zero, ← List.range_eq_range'] at told
    rw [action, Action.isAnnouncement, View.begin_run attempt]
    exact told
  · have told := only.shows ((rests.shows shown).finish_other other task.sequence a)
    rw [if_neg (Ne.symm other)] at told
    exact told

/-- The sink is told that an attempt was accepted, and does what it does. -/
theorem Calm.goes_announcement (calm : d.Calm) {run : Nat} {sink : Observer}
    (action : task.action = .complete i run) (known : d.attempts[i]? = some a)
    (held : d.sink = some sink)
    (begun : d.begin task = (.script (sink.conduct sink.calls),
      { (d.note (.began task)).note (.announced i a.exercise) with
        sink := some { sink with calls := sink.calls + 1 } })) : ∃ d', d.Goes task i d' := by
  have rests : d.Rests (d.note (.began task)) := d.rests_note fun _ => rfl
  have announced := rests.trans ((d.note (.began task)).onlyDelivers_announced i a.exercise held)
  obtain ⟨d', does, rests'⟩ := exists_tame (calm.sink sink held sink.calls) _
  have only := announced.rest rests'
  refine ⟨d', .of_script begun does, rests'.calm (announced.calm calm), .inl ?_,
    fun {v} shown same => ?_, fun {n v} other shown => ?_⟩
  · rw [only.bench]
  · have told := only.shows shown
    have held' : v.held = true := by
      rw [← shown.held, held]
      rfl
    rw [if_pos rfl] at told
    rw [action, Action.isAnnouncement, View.begin_announcement (shown.known known), if_pos held',
      ← same]
    exact told
  · have told := only.shows shown
    rw [if_neg (Ne.symm other)] at told
    exact told

/-- Every task of an attempt comes to an end at a calm desk. -/
theorem Calm.goes (calm : d.Calm) (about : task.action.attempt? = some i) :
    ∃ d', d.Goes task i d' := by
  have begun := d.begins task
  generalize result : d.begin task = begins at begun
  cases begun with
  | script action => simp [action, Action.attempt?] at about
  | stray action =>
    have rests : d.Rests (d.note (.began task)) := d.rests_note fun _ => rfl
    refine ⟨_, .of_script result (does_script_nil _), rests.calm calm, .inl rfl,
      fun {v} shown _ => ?_, fun _ => rests.shows⟩
    rw [shown.begin_stray about action]
    exact rests.shows shown
  | @run j a action known =>
    obtain rfl : j = i := by simpa [action, Action.attempt?] using about
    exact calm.goes_run action known result
  | @announcement j run a sink action known held =>
    obtain rfl : j = i := by simpa [action, Action.attempt?] using about
    exact calm.goes_announcement action known held result

/-! ## Drives -/

/-- A view is shown whatever the clock shows. -/
theorem Shows.setClock (shown : d.Shows n v) (clock clock' : Clock) :
    ({ d with agenda := { d.agenda with clock } } : Desk).Shows n { v with clock := clock' } := by
  obtain ⟨line, lines, marks⟩ := shown.line
  exact ⟨shown.opened, shown.shared, shown.held, shown.attempt,
    ⟨line, ⟨lines.tasks, lines.order⟩, marks⟩, shown.deliveries⟩

/-- A desk stays calm when the clock is set to another number. -/
theorem Calm.setClock (calm : d.Calm) {clock : Clock}
    (same : clock.reading.isNaN = d.agenda.now.isNaN) :
    ({ d with agenda := { d.agenda with clock } } : Desk).Calm :=
  ⟨calm.regular.setClock same, calm.tasks, calm.observers, calm.sink, calm.shared, calm.attempts⟩

/-- Taking a task is a matter of the agenda. -/
theorem takeDue?_agenda {reading : Float} (taken : d.takeDue? reading = some (task, rest)) :
    d.agenda.takeDue? reading = some (task, rest.agenda) ∧
      rest = { d with agenda := rest.agenda } := by
  obtain ⟨⟨task', agenda⟩, first, result⟩ := Option.map_eq_some_iff.mp taken
  cases result
  exact ⟨first, rfl⟩

/-- Taking a task keeps a desk calm. -/
theorem Calm.take (calm : d.Calm) {reading : Float}
    (taken : d.takeDue? reading = some (task, rest)) : rest.Calm := by
  obtain ⟨agenda, others⟩ := takeDue?_agenda taken
  have left := (mem_of_takeDue? taken).2
  rw [others]
  exact ⟨(calm.regular.take agenda).2, fun task member => calm.tasks task (left task member),
    calm.observers, calm.sink, calm.shared, calm.attempts⟩

/-- A task of the attempt is taken: it was the first one in line. -/
theorem Shows.take (shown : d.Shows n v) (calm : d.Calm) {reading : Float}
    (taken : d.takeDue? reading = some (task, rest)) (own : task.action.attempt? = some n) :
    ∃ behind, v.line = task.mark :: behind ∧ rest.Shows n { v with line := behind } := by
  obtain ⟨agenda, others⟩ := takeDue?_agenda taken
  obtain ⟨line, lines, marks⟩ := shown.line
  obtain ⟨behind, rfl, left⟩ :=
    lines.take (calm.regular.take agenda).1 agenda (by simp [Task.concerns, own])
  refine ⟨behind.map Task.mark, marks.symm, ?_⟩
  rw [others]
  exact ⟨shown.opened, shown.shared, shown.held, shown.attempt, ⟨behind, left, rfl⟩,
    shown.deliveries⟩

/-- Taking a task of another attempt does not show. -/
theorem Shows.take_other (shown : d.Shows n v) {reading : Float}
    (taken : d.takeDue? reading = some (task, rest)) (other : task.action.attempt? ≠ some n) :
    rest.Shows n v := by
  obtain ⟨agenda, others⟩ := takeDue?_agenda taken
  obtain ⟨line, lines, marks⟩ := shown.line
  rw [others]
  exact ⟨shown.opened, shown.shared, shown.held, shown.attempt,
    ⟨line, lines.take_other agenda (by simpa [Task.concerns] using other), marks⟩,
    shown.deliveries⟩

/-- On the way to a reading the clock of a desk may be ahead of that of a view, because of tasks of
other attempts, but not of any task that is left. -/
def Leads (d : Desk) (v : View) (target : Float) : Prop :=
  d.agenda.clock = v.clock ∨ ∃ reading, d.agenda.clock = v.clock.moveTo reading ∧
    reading ≤ target ∧ reading ≠ -0 ∧ ∀ task ∈ d.agenda.tasks, reading ≤ task.due

/-- The clocks are together again where the next task of the attempt is due, and at the target. -/
theorem Leads.moveTo {target reading : Float} (leads : d.Leads v target)
    (onWay : (∃ task ∈ d.agenda.tasks, task.due = reading) ∨ target = reading)
    (late : reading = -0 → ¬ v.clock.reading < reading) :
    d.agenda.clock.moveTo reading = v.clock.moveTo reading := by
  rcases leads with same | ⟨passed, moved, le, proper, waiting⟩
  · rw [same]
  · rw [moved]
    refine Clock.moveTo_moveTo ?_ proper late
    rcases onWay with ⟨task, member, rfl⟩ | rfl
    · exact waiting task member
    · exact le

def weight (d : Desk) : Nat := (d.agenda.tasks.toList.map fun task => markWeight task.mark).sum

/-- A task that goes leaves less to do than there was with it. -/
theorem weight_goes {d₁ : Desk} {reading : Float} (taken : d.takeDue? reading = some (task, rest))
    (goes : (rest.moveTo task.due).Goes task i d₁) : d₁.weight < d.weight := by
  have tasks := (moveTo_of_takeDue? taken).1.map fun task => markWeight task.mark
  have before : d.weight = markWeight task.mark + (rest.moveTo task.due).weight := by
    rw [weight, tasks.sum_eq, List.map_cons, List.sum_cons]
    rfl
  rcases goes.agenda with same | ⟨run, name, number, put⟩
  · rw [before, weight, same]
    refine Nat.lt_add_of_pos_left ?_
    unfold markWeight
    split <;> decide
  · have added := ((rest.moveTo task.due).agenda.tasks_put Settings.completionDelay name
      (.complete i number)).map fun task => markWeight task.mark
    have heavy : markWeight task.mark = 2 := by
      rw [markWeight, Task.mark, run]
      rfl
    rw [before, heavy, weight, put, added.sum_eq, List.map_cons, List.sum_cons]
    exact Nat.add_lt_add_right (Nat.lt_succ_self 1) _

/-- A desk in the course of a drive until a reading. -/
structure Underway (d : Desk) (n : Nat) (v : View) (target : Float) : Prop where
  calm : d.Calm
  shown : d.Shows n v
  leads : d.Leads v target
  proper : target = -0 → ¬ v.clock.reading < target

variable {target : Float}

/-- Where no task is due any more, the drive of the view ends, too. -/
theorem Underway.stop (underway : d.Underway n v target) (taken : d.takeDue? target = none) :
    (d.moveTo target).Calm ∧ (d.moveTo target).Shows n (v.drive target) ∧
      (d.moveTo target).agenda.clock = (v.drive target).clock := by
  have undue := underway.calm.regular.undue (Option.map_eq_none_iff.mp taken)
  have undue' : ∀ mark ∈ v.line, ¬ mark.1 ≤ target := by
    obtain ⟨line, lines, marks⟩ := underway.shown.line
    intro mark member
    rw [← marks] at member
    obtain ⟨task, waits, rfl⟩ := List.mem_map.mp member
    exact undue task (lines.mem_iff.mp waits).1
  rw [View.drive_of_undue undue']
  exact ⟨underway.calm.setClock (Clock.isNaN_moveTo target), underway.shown.setClock _ _,
    underway.leads.moveTo (.inr rfl) underway.proper⟩

/-- The desk at the time of a task that is taken. -/
theorem Underway.take (underway : d.Underway n v target)
    (taken : d.takeDue? target = some (task, rest)) :
    (rest.moveTo task.due).Calm ∧ task.due ≠ -0 ∧ task.due ≤ (rest.moveTo task.due).agenda.now ∧
      (rest.moveTo task.due).agenda.clock = v.clock.moveTo task.due := by
  have member := (mem_of_takeDue? taken).1
  have nonzero := underway.calm.regular.proper task member
  have number := (number_of_le (takeDue?_eq_some taken).1).1
  have moved : (rest.moveTo task.due).agenda.clock = d.agenda.clock.moveTo task.due := by
    rw [(moveTo_of_takeDue? taken).2]
  refine ⟨(underway.calm.take taken).setClock (Clock.isNaN_moveTo task.due), nonzero, ?_, ?_⟩
  · rw [Agenda.now, moved]
    refine Clock.le_moveTo number ?_
    rw [Clock.isNaN_moveTo]
    exact (underway.calm.regular.readable task member).symm.trans number
  · rw [moved]
    exact underway.leads.moveTo (.inl ⟨task, member, rfl⟩) fun zero => absurd zero nonzero

/-- No task is due before the one that has begun. -/
theorem Underway.waiting {d₁ : Desk} (underway : d.Underway n v target)
    (taken : d.takeDue? target = some (task, rest)) (goes : (rest.moveTo task.due).Goes task i d₁) :
    ∀ other ∈ d₁.agenda.tasks, task.due ≤ other.due := by
  intro other waits
  obtain ⟨calm, -, past, -⟩ := underway.take taken
  have left {other : Task Action} (old : other ∈ rest.agenda.tasks) : task.due ≤ other.due :=
    underway.calm.regular.first (takeDue?_agenda taken).1 other old
  rcases goes.agenda with same | ⟨-, name, run, put⟩
  · rw [same] at waits
    exact left waits
  · rw [put] at waits
    rcases Agenda.mem_put.mp waits with rfl | old
    · exact Reading.le_trans past (completionDelay_span.le_add (number_of_le past).2)
    · exact left old

/-- A task is taken and begins. If it is one of the attempt, the view goes on, too; otherwise it
stays as it is. -/
theorem Underway.next (underway : d.Underway n v target)
    (taken : d.takeDue? target = some (task, rest)) :
    ∃ d₁ v₁, (rest.moveTo task.due).Starts task (.returned ()) d₁ ∧ d₁.weight < d.weight ∧
      d₁.agenda.clock = d.agenda.clock.moveTo task.due ∧ d₁.Underway n v₁ target ∧
      v₁.drive target = v.drive target := by
  have due := (takeDue?_eq_some taken).1
  have member := (mem_of_takeDue? taken).1
  obtain ⟨calm, nonzero, -, clock⟩ := underway.take taken
  obtain ⟨i, about⟩ := Option.isSome_iff_exists.mp (underway.calm.tasks task member)
  obtain ⟨d₁, goes⟩ := calm.goes about
  have still : d₁.agenda.clock = (rest.moveTo task.due).agenda.clock := by
    rcases goes.agenda with same | ⟨-, name, run, put⟩
    · rw [same]
    · rw [put]
      rfl
  have moved : d₁.agenda.clock = d.agenda.clock.moveTo task.due := by
    rw [still, (moveTo_of_takeDue? taken).2]
  have less := weight_goes taken goes
  -- The view takes a step of its own just if the task is one of the attempt.
  by_cases own : i = n
  · subst own
    obtain ⟨behind, waits, shown⟩ := underway.shown.take underway.calm taken about
    have began := goes.own (shown.setClock _ (v.clock.moveTo task.due)) clock
    have onward := View.drive_of_due waits due
    generalize line : ({ v with clock := v.clock.moveTo task.due, line := behind } : View) = v₁
      at began onward
    have same : (v₁.begin task.action.isAnnouncement).clock = v.clock.moveTo task.due := by
      rw [View.begin_clock, ← line]
    refine ⟨d₁, _, goes.starts, less, moved, ⟨goes.calm, began, .inl ?_, ?_⟩, onward.symm⟩
    · rw [same, still, clock]
    · intro zero
      have late : ¬ v.clock.reading < task.due :=
        fun early => underway.proper zero (Reading.lt_of_lt_of_le early due)
      rw [same, Clock.moveTo_of_not_lt late]
      exact underway.proper zero
  · have shown := underway.shown.take_other taken (by simpa [about] using own)
    have kept := goes.other own (shown.setClock _ v.clock)
    have ahead := underway.waiting taken goes
    exact ⟨d₁, v, goes.starts, less, moved, ⟨goes.calm, kept,
      .inr ⟨task.due, still.trans clock, due, nonzero, ahead⟩, underway.proper⟩, rfl⟩

/-- A drive of a calm desk comes to an end, and does to the view of an attempt what a drive of that
view does. -/
theorem Underway.exists_takes (underway : d.Underway n v target) {limit : Option Float}
    (toTarget : limit.getD d.agenda.now = target) :
    ∃ tasks d', d.Takes limit tasks (.returned ()) d' ∧ d'.Calm ∧ d'.Shows n (v.drive target) ∧
      d'.agenda.clock = (v.drive target).clock := by
  -- By induction on the weight of the desk, which each task that begins makes less.
  generalize size : d.weight = weight
  induction weight using Nat.strong_induction_on generalizing d v with
  | _ weight ih =>
    cases taken : d.takeDue? (limit.getD d.agenda.now) with
    | none =>
      have stop : limit.elim d d.moveTo = d.moveTo target := by
        cases limit with
        | none =>
          obtain rfl : d.agenda.now = target := toTarget
          rw [Desk.moveTo, Agenda.moveTo, Agenda.now, Clock.moveTo_self]
          rfl
        | some reading =>
          obtain rfl : reading = target := toTarget
          rfl
      have ends := Takes.stop taken
      rw [stop] at ends
      rw [toTarget] at taken
      exact ⟨[], _, ends, underway.stop taken⟩
    | some result =>
      obtain ⟨task, rest⟩ := result
      have due := toTarget ▸ (takeDue?_eq_some taken).1
      obtain ⟨d₁, v₁, starts, less, moved, underway₁, onward⟩ := underway.next (toTarget ▸ taken)
      -- Where no reading is given, the target is the present one, and the clock stands still.
      have toTarget₁ : limit.getD d₁.agenda.now = target := by
        cases limit with
        | none =>
          obtain rfl : d.agenda.now = target := toTarget
          rw [Option.getD_none, Agenda.now, moved, Clock.moveTo_of_not_lt (not_lt_of_le due)]
          rfl
        | some reading => exact toTarget
      obtain ⟨tasks, d', takes, others⟩ := ih _ (size ▸ less) underway₁ toTarget₁ rfl
      exact ⟨task :: tasks, d', .next taken starts takes, onward ▸ others⟩

end DryRun.Desk
