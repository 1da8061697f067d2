import DryRun.Proofs.Plan.Drive
import DryRun.Proofs.Reading.Difference

/-!
# Jumping to the next task and sleeping until it

A virtual clock jumps to the time at which the next task is due; on another clock somebody sleeps
until then. Where a clock that is slept on by the time that is left to a task shows exactly the time
at which the task is due, the two do the same to plans (`Desk.pace_indifferent`): the same tasks
begin in the same order at the same readings, the same agenda is left, and nobody sleeps but for a
positive amount of time and while no task is due.

Which readings and due times arise is a matter of the agenda with the virtual clock alone.
`Agenda.next` is one move of that agenda, so that what is asked of the times can be asked of all of
its moves (`Agenda.Paced`). A drive until no task waits consists of rounds, each of which waits once
(`Agenda.Empties`); a desk with either clock does a round as the agenda says (`Desk.exists_round`).
-/

set_option autoImplicit false

namespace DryRun

open Reading

namespace Agenda

/-- The agenda with a clock of another kind that shows the same reading. -/
def onClock {α : Type} (kind : ClockKind) (a : Agenda α) : Agenda α :=
  { a with clock := { a.clock with kind } }

/-- No reading is NaN, and the time that is left until the next task is due can be added to the time
that it is now without loss. -/
structure Exact {α : Type} (a : Agenda α) : Prop where
  shown : a.now.isNaN = false
  due : ∀ task ∈ a.tasks, task.due.isNaN = false
  reached : ∀ due ∈ a.nextDue?, 0 < due - a.now → a.now + (due - a.now) = due

instance {α : Type} (a : Agenda α) : Decidable a.Exact :=
  decidable_of_iff (a.now.isNaN = false ∧ (∀ task ∈ a.tasks, task.due.isNaN = false) ∧
      ∀ due ∈ a.nextDue?, 0 < due - a.now → a.now + (due - a.now) = due)
    ⟨fun ⟨shown, due, reached⟩ => ⟨shown, due, reached⟩,
      fun ⟨shown, due, reached⟩ => ⟨shown, due, reached⟩⟩

/-- The agenda after a task that is due has been taken and carried out or, if none is due, after the
clock has jumped to the next one. A task that fails is not taken. -/
def next (a : Agenda Action) : Agenda Action :=
  match a.takeDue? a.now with
  | none => a.await
  | some (task, rest) =>
    match rest.carry task.action.calls with
    | (.returned _, a) => a
    | _ => a

/-- All readings and due times that arise are exact. -/
def Paced (a : Agenda Action) : Prop := ∀ n, (next^[n] a).Exact

/-- The tasks that are run in rounds until no task waits. Each round waits for the next task and
takes all that are due then. -/
inductive Empties : Agenda Action → List Beginning → Outcome Unit → Agenda Action → Prop where
  | stop {a : Agenda Action} (idle : a.pending = 0) : Empties a [] (.returned ()) a
  | next {a : Agenda Action} {begun a₁ begun' outcome a'} (busy : a.pending ≠ 0)
      (round : a.await.Takes none begun (.returned ()) a₁)
      (others : Empties a₁ begun' outcome a') : Empties a (begun ++ begun') outcome a'
  | fail {a : Agenda Action} {begun failure a'} (busy : a.pending ≠ 0)
      (round : a.await.Takes none begun (.failed failure) a') :
      Empties a begun (.failed failure) a'

variable {a a' rest : Agenda Action} {task : Task Action} {begun : List Beginning}
  {outcome : Outcome Unit} {calls : List Call} {reading : Float} {kind : ClockKind}
  {limit : Option Float} {allowed : Float → Prop}

/-! ## The kind of a clock -/

/-- A clock of the same kind changes nothing. -/
theorem onClock_self (movable : a.clock.kind = kind) : a.onClock kind = a := by
  rw [onClock, ← movable]

/-- The same task is due on a clock of another kind. -/
theorem takeDue?_onClock (taken : a.takeDue? reading = some (task, rest)) :
    (a.onClock kind).takeDue? reading = some (task, rest.onClock kind) := by
  obtain ⟨-, -, kept⟩ := takeDue?_eq_some taken
  rw [onClock, takeDue?_withClock, taken, onClock, kept]
  rfl

/-- A clock may be exchanged before or after it is moved. -/
theorem moveTo_onClock (a : Agenda Action) (kind : ClockKind) (reading : Float) :
    (a.onClock kind).moveTo reading = (a.moveTo reading).onClock kind := by
  by_cases later : a.clock.reading < reading <;> simp [onClock, moveTo, Clock.moveTo, later]

/-- A clock may be exchanged before or after tasks are put down. -/
theorem carry_onClock (a : Agenda Action) (kind : ClockKind) (calls : List Call) :
    (a.onClock kind).carry calls = ((a.carry calls).1, (a.carry calls).2.onClock kind) := by
  fun_induction carry calls a with
  | case1 => rfl
  | case2 _ _ _ _ _ negative => rw [carry, if_pos negative]
  | case3 _ _ _ _ _ nonneg ih => rw [carry, if_neg nonneg, ← ih]; rfl
  | case4 c others a other ih =>
    rw [← ih]
    cases c with
    | schedule => exact absurd rfl (other _ _ _)
    | _ => rfl

/-- A drive takes the same tasks whatever the kind of the clock. -/
theorem Takes.onClock (takes : a.Takes limit begun outcome a') (kind : ClockKind) :
    (a.onClock kind).Takes limit begun outcome (a'.onClock kind) := by
  have carries {rest a₁ : Agenda Action} {task : Task Action} {ending : Outcome Unit}
      (carried : (rest.moveTo task.due).carry task.action.calls = (ending, a₁)) :
      ((rest.onClock kind).moveTo task.due).carry task.action.calls =
        (ending, a₁.onClock kind) := by
    rw [moveTo_onClock, carry_onClock, carried]
  have now (rest : Agenda Action) (task : Task Action) :
      (rest.moveTo task.due).now = ((rest.onClock kind).moveTo task.due).now := by
    rw [moveTo_onClock]
    rfl
  induction takes with
  | @stop a undue =>
    have undue' : (a.onClock kind).takeDue? (limit.getD (a.onClock kind).now) = none := by
      rw [Agenda.onClock, takeDue?_withClock]
      exact Option.map_eq_none_iff.mpr undue
    cases limit with
    | none => exact .stop undue'
    | some target =>
      have stops : (a.onClock kind).Takes (some target) [] (.returned ())
          ((a.onClock kind).moveTo target) := .stop undue'
      rw [Option.elim, ← moveTo_onClock]
      exact stops
  | next taken carried _ ih =>
    rw [now]
    exact .next (takeDue?_onClock taken) (carries carried) ih
  | fail taken carried =>
    rw [now]
    exact .fail (takeDue?_onClock taken) (carries carried)

/-! ## Moves -/

/-- A task that is due at the present reading is not ahead of the clock. -/
theorem moveTo_of_due (taken : a.takeDue? a.now = some (task, rest)) :
    rest.moveTo task.due = rest := by
  obtain ⟨due, -, kept⟩ := takeDue?_eq_some taken
  have reached : ¬ rest.clock.reading < task.due := by
    rw [kept]
    exact not_lt_of_le due
  rw [moveTo, Clock.moveTo_of_not_lt reached]

/-- Where a task is due the next agenda is the one after it. -/
theorem next_of_taken {a₁ : Agenda Action} (taken : a.takeDue? a.now = some (task, rest))
    (carried : (rest.moveTo task.due).carry task.action.calls = (.returned (), a₁)) :
    a.next = a₁ := by
  rw [moveTo_of_due taken] at carried
  simp only [next, taken, carried]

/-- What is paced stays so. -/
theorem Paced.next (paced : a.Paced) : a.next.Paced :=
  fun n => paced (n + 1)

/-- What is paced is exact now. -/
theorem Paced.exact (paced : a.Paced) : a.Exact := paced 0

/-- Once no task waits, nothing new arises. -/
theorem paced_of_idle {n : Nat} (idle : (next^[n] a).pending = 0)
    (exact : ∀ k ≤ n, (next^[k] a).Exact) : a.Paced := by
  have fixed : Function.IsFixedPt next (next^[n] a) := by
    have none : (next^[n] a).first? = none := Array.getElem?_eq_none idle.le
    have stays : (next^[n] a).await = next^[n] a := by
      rw [await, nextDue?, none]
      split <;> simp_all
    rw [Function.IsFixedPt, next, takeDue?, none, stays]
  intro k
  rcases Nat.le_total k n with le | le
  · exact exact k le
  · obtain ⟨more, rfl⟩ := Nat.exists_eq_add_of_le' le
    rw [Function.iterate_add_apply, Function.iterate_fixed fixed]
    exact exact n le_rfl

/-- A task that waits does so when others are put down. -/
theorem mem_carry (member : task ∈ a.tasks) (calls : List Call) :
    task ∈ (a.carry calls).2.tasks :=
  carry_induct (p := fun b => task ∈ b.tasks) (fun _ _ old => mem_put.mpr (.inr old)) member

/-- Moving the clock leaves the queue. -/
theorem Queued.moveTo (queued : a.Queued) (reading : Float) : (a.moveTo reading).Queued :=
  ⟨queued.due, queued.ordered⟩

/-- The tasks that are put down do not disturb the heap if they are due at numbers. -/
theorem Queued.carry (queued : a.Queued) (calls : List Call)
    (due : ∀ task ∈ (a.carry calls).2.tasks, task.due.isNaN = false) :
    (a.carry calls).2.Queued := by
  fun_induction Agenda.carry calls a with
  | case1 => exact queued
  | case2 => exact queued
  | case3 delay name body others a _ ih =>
    let task : Task Action := ⟨a.now + delay, a.issued, name, .script body⟩
    have placed : task ∈ (a.put delay name (.script body)).2.tasks := mem_put.mpr (.inl rfl)
    exact ih (queued.put (due task (mem_carry placed others)) name (.script body)) due
  | case4 _ _ _ _ ih => exact ih queued due

/-- A drive that takes what is due at present consists of moves. -/
theorem Takes.paced (takes : a.Takes none begun (.returned ()) a') (paced : a.Paced)
    (queued : a.Queued) : a'.Paced ∧ a'.Queued := by
  generalize ends : Outcome.returned () = ending at takes
  generalize present : (none : Option Float) = limit at takes
  induction takes with
  | stop =>
    subst present
    exact ⟨paced, queued⟩
  | @next a task rest a₁ _ _ _ taken carried _ ih =>
    subst present
    have move := next_of_taken taken carried
    have paced₁ : a₁.Paced := move ▸ paced.next
    have left := (queued.pop (takeDue?_eq_some taken).2.1).1
    have carries := (left.moveTo task.due).carry task.action.calls
    rw [carried] at carries
    exact ih paced₁ (carries paced₁.exact.due) ends
  | fail => cases ends

/-- Each task that is taken leaves fewer to come. -/
theorem Takes.weight (takes : a.Takes limit begun outcome a') :
    a'.weight + begun.length ≤ a.weight := by
  have lighter {a rest a₁ : Agenda Action} {task : Task Action} {reading : Float}
      {ending : Outcome Unit} (taken : a.takeDue? reading = some (task, rest))
      (carried : (rest.moveTo task.due).carry task.action.calls = (ending, a₁)) :
      a₁.weight + 1 ≤ a.weight := by
    have weight := (rest.moveTo task.due).weight_carry task.action.calls
    rw [carried] at weight
    change a₁.weight ≤ rest.weight + Call.yields task.action.calls at weight
    rw [weight_take taken]
    omega
  induction takes with
  | stop => cases limit <;> rfl
  | next taken carried _ ih =>
    have less := lighter taken carried
    rw [List.length_cons]
    omega
  | fail taken carried => exact lighter taken carried

/-! ## Waiting -/

/-- A virtual clock jumps to the next task. -/
theorem await_of_virtual (movable : a.clock.kind = .virtual) :
    a.await = a.nextDue?.elim a fun due => if 0 < due - a.now then a.moveTo due else a := by
  rw [await, movable]
  cases a.nextDue? <;> rfl

/-- Other clocks do not jump. -/
theorem await_of_real (real : a.clock.kind ≠ .virtual) : a.await = a := by
  rw [await]
  split
  case h_1 => exact absurd ‹a.clock.kind = .virtual› real
  case h_2 => rfl

/-- Nobody sleeps by a virtual clock. -/
theorem sleepTime?_of_virtual (movable : a.clock.kind = .virtual) : a.sleepTime? = none := by
  rw [sleepTime?, movable]

/-- By other clocks one sleeps until the next task is due. -/
theorem sleepTime?_of_real (real : a.clock.kind ≠ .virtual) :
    a.sleepTime? = a.nextDue?.bind fun due =>
      if 0 < due - a.now then some (due - a.now) else none := by
  rw [sleepTime?]
  split
  case h_1 => exact absurd ‹a.clock.kind = .virtual› real
  all_goals
    rw [‹a.nextDue? = _›]
    rfl

/-- How a clock comes to the next task: where a virtual clock jumps, somebody sleeps on another one,
and where a task is due, neither is called for. -/
inductive Awaits (a : Agenda Action) (kind : ClockKind) : Prop where
  | stay (here : a.await = a) (awake : (a.onClock kind).sleepTime? = none)
      (due : ∀ head, a.first? = some head → head.due ≤ a.now)
  | jump {head} (first : a.first? = some head) (early : a.now < head.due)
      (there : a.await = a.moveTo head.due)
      (asleep : (a.onClock kind).sleepTime? = some (head.due - a.now))

/-- A clock comes to the next task in one way or another. -/
theorem awaits (movable : a.clock.kind = .virtual) (shown : a.now.isNaN = false)
    (number : ∀ head, a.first? = some head → head.due.isNaN = false) (real : kind ≠ .virtual) :
    a.Awaits kind := by
  have jumps := await_of_virtual movable
  have sleeps : (a.onClock kind).sleepTime? = a.nextDue?.bind fun due =>
      if 0 < due - a.now then some (due - a.now) else none := sleepTime?_of_real real
  rw [nextDue?] at jumps sleeps
  cases first : a.first? with
  | none =>
    rw [first] at jumps sleeps
    exact .stay jumps sleeps (by simp [first])
  | some head =>
    rw [first] at jumps sleeps
    simp only [Option.map_some, Option.elim_some, Option.bind_some] at jumps sleeps
    have number := number head first
    by_cases early : 0 < head.due - a.now
    · rw [if_pos early] at jumps sleeps
      exact .jump first ((sub_pos_iff shown number).mp early) jumps sleeps
    · rw [if_neg early] at jumps sleeps
      refine .stay jumps sleeps fun head' same => ?_
      obtain rfl := Option.some.inj (first.symm.trans same)
      exact le_of_not_lt number shown (mt (sub_pos_iff shown number).mpr early)

/-- The first task of an exact agenda is due at a number. -/
theorem Exact.first (exact : a.Exact) (head : Task Action) (first : a.first? = some head) :
    head.due.isNaN = false :=
  exact.due head (Array.mem_of_getElem? first)

/-- After waiting there is a task to be taken, unless the first one is due at NaN. -/
theorem takeDue?_await (movable : a.clock.kind = .virtual) (shown : a.now.isNaN = false)
    (number : ∀ head, a.first? = some head → head.due.isNaN = false) (busy : a.pending ≠ 0) :
    a.await.takeDue? a.await.now ≠ none := by
  have taken {b : Agenda Action} {head : Task Action} (first : b.first? = some head)
      (due : head.due ≤ b.now) : b.takeDue? b.now ≠ none := by
    obtain ⟨_, _, -, -, taken, -⟩ | ⟨-, undue⟩ := b.takeDue?_first b.now
    · simp [taken]
    · exact absurd due (undue head first)
  obtain ⟨head, first⟩ : ∃ head, a.first? = some head :=
    ⟨_, Array.getElem?_eq_getElem (Nat.pos_of_ne_zero busy)⟩
  have real : ClockKind.manual ≠ .virtual := by decide
  cases awaits movable shown number real with
  | stay here _ due =>
    rw [here]
    exact taken first (due head first)
  | jump first early there =>
    rw [there]
    refine taken first ?_
    have moved : (a.moveTo _).now = _ := congrArg Clock.reading (if_pos early)
    rw [moved]
    exact le_of_not_lt (number_of_le (Reading.le_of_lt early)).2
      (number_of_le (Reading.le_of_lt early)).2
      (not_lt_self (number_of_le (Reading.le_of_lt early)).2)

/-- Coming to the next task does not take it. -/
@[simp] theorem await_tasks (a : Agenda Action) : a.await.tasks = a.tasks := by
  unfold await
  repeat' split
  all_goals rfl

/-- Coming to the next task leaves the kind of the clock. -/
@[simp] theorem await_kind (a : Agenda Action) : a.await.clock.kind = a.clock.kind := by
  unfold await
  repeat' split
  all_goals first | rfl | exact Clock.moveTo_kind _

/-- Coming to the next task leaves the queue. -/
theorem Queued.await (queued : a.Queued) : a.await.Queued :=
  ⟨a.await_tasks.symm ▸ queued.due, a.await_tasks.symm ▸ queued.ordered⟩

/-- Where the first task is not due none is taken. -/
theorem takeDue?_of_undue {head : Task Action} (first : a.first? = some head)
    (late : ¬ head.due ≤ reading) : a.takeDue? reading = none := by
  simp only [takeDue?, first, if_neg late]

/-- What is paced stays so when its clock comes to the next task. -/
theorem Paced.await (paced : a.Paced) (movable : a.clock.kind = .virtual) : a.await.Paced := by
  have real : ClockKind.manual ≠ .virtual := by decide
  cases awaits movable paced.exact.shown paced.exact.first real with
  | stay here => exact here.symm ▸ paced
  | jump first early =>
    have undue := Agenda.takeDue?_of_undue first fun due => not_lt_of_le due early
    have jumps : a.next = a.await := by
      rw [Agenda.next, undue]
    exact jumps ▸ paced.next

/-! ## Rounds -/

/-- A heap of tasks with a virtual clock, all of whose times are exact. -/
structure Steady (a : Agenda Action) : Prop where
  movable : a.clock.kind = .virtual
  queued : a.Queued
  paced : a.Paced

/-- A round that returns leaves the times of the next one exact. -/
theorem Steady.round {a₁ : Agenda Action} (steady : a.Steady)
    (round : a.await.Takes none begun (.returned ()) a₁) : a₁.Steady := by
  obtain ⟨paced, queued⟩ := round.paced (steady.paced.await steady.movable) steady.queued.await
  refine ⟨?_, queued, paced⟩
  exact round.clock (p := fun clock => clock.kind = .virtual)
    (fun reading same => (Clock.moveTo_kind reading).trans same)
    (a.await_kind.trans steady.movable)

/-- As long as tasks wait at exact times, one is taken in each round. -/
theorem Steady.progress (steady : a.Steady) (busy : a.pending ≠ 0) :
    a.await.takeDue? a.await.now ≠ none :=
  takeDue?_await steady.movable steady.paced.exact.shown steady.paced.exact.first busy

/-- All rounds come to an end if a task is taken in each of them: it leaves fewer tasks to come. -/
theorem exists_empties {p : Agenda Action → Prop}
    (progress : ∀ {a}, p a → a.pending ≠ 0 → a.await.takeDue? a.await.now ≠ none)
    (kept : ∀ {a begun a₁}, p a → a.await.Takes none begun (.returned ()) a₁ → p a₁)
    (holds : p a) : ∃ begun outcome a', a.Empties begun outcome a' := by
  generalize left : a.weight = n
  induction n using Nat.strong_induction_on generalizing a with
  | _ n ih =>
    by_cases idle : a.pending = 0
    · exact ⟨_, _, _, .stop idle⟩
    obtain ⟨begun, outcome, a₁, round⟩ := exists_takes none a.await
    cases outcome with
    | failed failure => exact ⟨_, _, _, .fail idle round⟩
    | unfinished => exact absurd rfl round.finished
    | returned =>
      have some : begun ≠ [] := by
        cases round with
        | stop undue => exact absurd undue (progress holds idle)
        | next => simp
      have lighter : a₁.weight < n := by
        have bound := round.weight
        have whole : a.await.weight = a.weight := by simp only [Agenda.weight, await_tasks]
        have positive := List.length_pos_iff.mpr some
        omega
      obtain ⟨begun', outcome, a', others⟩ := ih a₁.weight lighter (kept holds round) rfl
      exact ⟨_, _, _, .next idle round others⟩

/-- Coming to the next task leaves plans only. -/
theorem Plans.await (plans : a.Plans allowed) : a.await.Plans allowed := by
  intro task member
  exact plans task (a.await_tasks ▸ member)

/-- Rounds in which plans are taken return unless a negative delay is allowed. -/
theorem Empties.returned (empties : a.Empties begun outcome a') (plans : a.Plans allowed)
    (nonneg : ∀ delay, allowed delay → ¬ delay < 0) : outcome = .returned () := by
  induction empties with
  | stop => rfl
  | next _ round _ ih => exact ih (round.plans plans.await).1
  | fail _ round => exact (round.plans plans.await).2 nonneg

end Agenda

/-! ## Desks -/

namespace Desk

variable {d d' e e' : Desk} {a a' : Agenda Action} {begun : List Beginning}
  {outcome : Outcome Unit} {kind : ClockKind} {allowed : Float → Prop}

/-- Whoever sleeps on a clock that is no virtual one moves it by the time slept. -/
theorem exists_slept {seconds : Float} (real : d.agenda.clock.kind ≠ .virtual)
    (sleeper : d.sleeper = Sleeper.exact) (busy : d.agenda.pending ≠ 0)
    (early : d.agenda.sleepTime? = some seconds)
    (undue : ∀ task ∈ d.agenda.tasks, ¬ task.due ≤ d.agenda.now) :
    ∃ d₁, d.Becomes []
        { d.agenda with clock := ⟨d.agenda.clock.kind, d.agenda.now + seconds⟩ } d₁ ∧
      ∀ outcome d', d₁.Does (.drainDue 0) outcome d' → d.Does .drainNext outcome d' := by
  have rested : (⟨.slept seconds, d.toBench⟩ : Moment).Rested := by
    rintro _ ⟨⟩
    exact ⟨real, Agenda.sleepTime?_pos early, undue⟩
  have nothing : (d.sleep seconds).1 = [] := by
    simp only [sleep, sleeper, Sleeper.exact]
  have woken : (d.sleep seconds).2.agenda =
      { d.agenda with clock := ⟨d.agenda.clock.kind, d.agenda.now + seconds⟩ } := by
    simp only [sleep, sleeper, Sleeper.exact, elapse, Clock.elapse, note_toBench]
    rfl
  have slept : (d.sleep seconds).2.Does (.script (d.sleep seconds).1) (.returned ())
      (d.sleep seconds).2 := by
    rw [nothing]
    exact does_script_nil _
  have onward : (d.note (.slept seconds)).Becomes [] (d.sleep seconds).2.agenda
      (d.sleep seconds).2 := becomes_silent rfl rfl
  exact ⟨(d.sleep seconds).2, woken ▸ (becomes_note d (.slept seconds) rested).trans onward,
    fun _ _ => .drainNext_after busy early slept⟩

/-- A desk comes to the next task as its agenda with a virtual clock does. -/
theorem exists_woken (movable : a.clock.kind = .virtual) (exact : a.Exact) (queued : a.Queued)
    (busy : a.pending ≠ 0) (same : d.agenda = a.onClock kind)
    (sleeper : kind ≠ .virtual → d.sleeper = Sleeper.exact) :
    ∃ d₁, d.Becomes [] (a.await.onClock kind) d₁ ∧
      ∀ outcome d', d₁.Does (.drainDue 0) outcome d' → d.Does .drainNext outcome d' := by
  have waits : d.agenda.pending ≠ 0 := same ▸ busy
  have stays (awake : d.agenda.sleepTime? = none) (there : d.agenda.await = a.await.onClock kind) :
      ∃ d₁, d.Becomes [] (a.await.onClock kind) d₁ ∧
        ∀ outcome d', d₁.Does (.drainDue 0) outcome d' → d.Does .drainNext outcome d' := by
    have awaited : d.Becomes [] d.await.agenda d.await := becomes_silent rfl rfl
    exact ⟨d.await, there ▸ awaited, fun _ _ => .drainNext waits awake⟩
  -- A virtual clock jumps to the next due time. Any other one shows that it has come, or sleeps
  -- until it has.
  by_cases real : kind = .virtual
  · have own : d.agenda = a := same.trans (Agenda.onClock_self (movable.trans real.symm))
    have back : a.await.onClock kind = a.await :=
      Agenda.onClock_self (a.await_kind.trans (movable.trans real.symm))
    exact stays (own ▸ Agenda.sleepTime?_of_virtual movable) (by rw [own, back])
  cases Agenda.awaits movable exact.shown exact.first real with
  | stay here awake =>
    refine stays (same ▸ awake) ?_
    rw [same, here]
    exact Agenda.await_of_real real
  | @jump head first early there asleep =>
    have undue := Agenda.takeDue?_of_undue first fun due => not_lt_of_le due early
    have waiting : ∀ task ∈ d.agenda.tasks, ¬ task.due ≤ d.agenda.now := by
      rw [same]
      exact fun task => Agenda.takeDue?_eq_none queued undue task
    obtain ⟨d₁, becomes, onward⟩ := exists_slept (same ▸ real) (sleeper real) waits (same ▸ asleep)
      waiting
    refine ⟨d₁, ?_, onward⟩
    have next : head.due ∈ a.nextDue? := by
      rw [Agenda.nextDue?, first]
      rfl
    have reached := exact.reached head.due next (Agenda.sleepTime?_pos asleep)
    have jumped : a.moveTo head.due = { a with clock := { a.clock with reading := head.due } } := by
      rw [Agenda.moveTo, Clock.moveTo_of_lt early]
    rw [there, jumped]
    rw [same] at becomes
    show d.Becomes [] { a with clock := ⟨kind, head.due⟩ } d₁
    rw [← reached]
    exact becomes

/-- A desk does a round as its agenda with a virtual clock does. -/
theorem exists_round (movable : a.clock.kind = .virtual) (exact : a.Exact) (queued : a.Queued)
    (plans : a.Plans allowed) (busy : a.pending ≠ 0)
    (round : a.await.Takes none begun outcome a') (same : d.agenda = a.onClock kind)
    (sleeper : kind ≠ .virtual → d.sleeper = Sleeper.exact) :
    ∃ d', d.Does .drainNext (outcome.map fun _ => begun.length) d' ∧
      d.Becomes begun (a'.onClock kind) d' := by
  obtain ⟨d₁, waited, onward⟩ := exists_woken movable exact queued busy same sleeper
  obtain ⟨d', takes, becomes⟩ := exists_takes (round.onClock kind) plans.await waited.agenda
  have drained := takes.drainDue 0
  rw [List.length_map, Nat.zero_add] at drained
  exact ⟨d', onward _ _ drained, waited.trans becomes⟩

/-- A desk that does each round as its agenda with a virtual clock does them all. -/
theorem exists_drainAll {p : Agenda Action → Prop}
    (rounds : ∀ {a a' : Agenda Action} {begun : List Beginning} {outcome : Outcome Unit} {d : Desk},
      p a → a.pending ≠ 0 → a.await.Takes none begun outcome a' → d.agenda = a.onClock kind →
        (kind ≠ .virtual → d.sleeper = Sleeper.exact) →
        ∃ d', d.Does .drainNext (outcome.map fun _ => begun.length) d' ∧
          d.Becomes begun (a'.onClock kind) d')
    (kept : ∀ {a a' begun}, p a → a.await.Takes none begun (.returned ()) a' → p a')
    (empties : a.Empties begun outcome a') (holds : p a) (same : d.agenda = a.onClock kind)
    (sleeper : kind ≠ .virtual → d.sleeper = Sleeper.exact) (ran : Nat) :
    ∃ d', d.Does (.drainAll ran) (outcome.map fun _ => ran + begun.length) d' ∧
      d.Becomes begun (a'.onClock kind) d' := by
  induction empties generalizing d ran with
  | stop idle =>
    have done : d.agenda.pending = 0 := same ▸ idle
    exact ⟨d, does_drainAll_idle done ran, same ▸ becomes_silent rfl rfl⟩
  | @next a begun a₁ begun' outcome a' busy round _ ih =>
    obtain ⟨d₁, does, becomes⟩ := rounds holds busy round same sleeper
    obtain ⟨d', does', becomes'⟩ := ih (kept holds round) becomes.agenda
      (fun real => becomes.sleeper.trans (sleeper real)) (ran + begun.length)
    have whole := Does.drainAll (same ▸ busy) does does'
    rw [Nat.add_assoc, ← List.length_append] at whole
    exact ⟨d', whole, becomes.trans becomes'⟩
  | fail busy round =>
    obtain ⟨d', does, becomes⟩ := rounds holds busy round same sleeper
    exact ⟨d', .drainAll_failed (same ▸ busy) does, becomes⟩

/-- A drive of all tasks takes them in rounds, on a clock of any kind. -/
theorem exists_drainAll_of_steady (empties : a.Empties begun outcome a') (steady : a.Steady)
    (plans : a.Plans allowed) (same : d.agenda = a.onClock kind)
    (sleeper : kind ≠ .virtual → d.sleeper = Sleeper.exact) (ran : Nat) :
    ∃ d', d.Does (.drainAll ran) (outcome.map fun _ => ran + begun.length) d' ∧
      d.Becomes begun (a'.onClock kind) d' := by
  refine exists_drainAll (p := fun a => a.Steady ∧ a.Plans allowed) ?_ ?_ empties ⟨steady, plans⟩
    same sleeper ran
  · rintro a a' begun outcome d ⟨steady, plans⟩ busy round
    exact exists_round steady.movable steady.paced.exact steady.queued plans busy round
  · rintro a a' begun ⟨steady, plans⟩ round
    exact ⟨steady.round round, (round.plans plans.await).1⟩

/-- The tasks that are waited for and run once, if any waits. -/
theorem exists_drainNext (movable : a.clock.kind = .virtual) (exact : a.Exact) (queued : a.Queued)
    (plans : a.Plans allowed) :
    ∃ (begun : List Beginning) (outcome : Outcome Unit) (a' : Agenda Action),
      ((∀ delay, allowed delay → ¬ delay < 0) → outcome = .returned ()) ∧
      ∀ {d : Desk} {kind : ClockKind}, d.agenda = a.onClock kind →
        (kind ≠ .virtual → d.sleeper = Sleeper.exact) →
        ∃ d', d.Does .drainNext (outcome.map fun _ => begun.length) d' ∧
          d.Becomes begun (a'.onClock kind) d' := by
  by_cases idle : a.pending = 0
  · refine ⟨[], .returned (), a, fun _ => rfl, fun {d kind} same _ => ?_⟩
    exact ⟨d, does_drainNext_idle (same ▸ idle), same ▸ becomes_silent rfl rfl⟩
  · obtain ⟨begun, outcome, a', round⟩ := Agenda.exists_takes none a.await
    exact ⟨begun, outcome, a', (round.plans plans.await).2,
      fun same sleeper => exists_round movable exact queued plans idle round same sleeper⟩

/-! ## Two desks -/

/-- A drive has come to the same end at two desks: the same outcome, which is the number of tasks
where none was refused, the same tasks at the same readings, and the same agenda but for the kind of
the clock. Nobody has slept without need. -/
structure Alike (allowed : Float → Prop) (c : Call) (d e : Desk) (outcome : Outcome Reply)
    (d' e' : Desk) : Prop where
  fast : d.Does (.call c) outcome d'
  slow : e.Does (.call c) outcome e'
  counted : (∀ delay, allowed delay → ¬ delay < 0) →
    outcome = .returned (.ran (beginnings (d'.eventsSince d.journal.length)).length)
  begun : beginnings (e'.eventsSince e.journal.length) =
    beginnings (d'.eventsSince d.journal.length)
  agenda : e'.agenda = d'.agenda.onClock e.agenda.clock.kind
  rested : ∀ m ∈ d'.eventsSince d.journal.length ++ e'.eventsSince e.journal.length, m.Rested

/-- Drives that have become the same are alike. -/
theorem Alike.of_becomes {c : Call}
    (fast : d.Does (.call c) (outcome.map fun _ => .ran begun.length) d')
    (slow : e.Does (.call c) (outcome.map fun _ => .ran begun.length) e')
    (returned : (∀ delay, allowed delay → ¬ delay < 0) → outcome = .returned ())
    (becomes : d.Becomes begun (a'.onClock .virtual) d')
    (becomes' : e.Becomes begun (a'.onClock e.agenda.clock.kind) e') :
    Alike allowed c d e (outcome.map fun _ => .ran begun.length) d' e' where
  fast := fast
  slow := slow
  counted nonneg := by
    rw [returned nonneg, becomes.beginnings.1]
    rfl
  begun := becomes'.beginnings.1.trans becomes.beginnings.1.symm
  agenda := by
    rw [becomes.agenda, becomes'.agenda]
    rfl
  rested := List.forall_mem_append.mpr ⟨becomes.beginnings.2, becomes'.beginnings.2⟩

/-- Of two desks with the same plans and the same time one has a virtual clock, and at the other
somebody sleeps until the next task is due. Waiting for the next task and running what is due then
does the same at both, if that time can be reached exactly, and running until no task waits does so,
if all the times that arise can be. -/
theorem pace_indifferent (movable : d.agenda.clock.kind = .virtual)
    (same : e.agenda = d.agenda.onClock e.agenda.clock.kind) (sleeper : e.sleeper = Sleeper.exact)
    (ordered : Heap.Ordered Task.before d.agenda.tasks) (plans : d.agenda.Plans allowed) :
    (d.agenda.Exact → ∃ outcome d' e', Alike allowed .runNext d e outcome d' e') ∧
      (d.agenda.Paced → ∃ outcome d' e', Alike allowed .runUntilIdle d e outcome d' e') := by
  have own : d.agenda = d.agenda.onClock .virtual := (Agenda.onClock_self movable).symm
  constructor
  · intro exact
    obtain ⟨begun, outcome, a', returned, round⟩ :=
      exists_drainNext movable exact ⟨exact.due, ordered⟩ plans
    obtain ⟨d', fast, becomes⟩ := round own fun real => absurd rfl real
    obtain ⟨e', slow, becomes'⟩ := round same fun _ => sleeper
    have fast := fast.runNext
    have slow := slow.runNext
    rw [Outcome.map_map] at fast slow
    exact ⟨_, d', e', .of_becomes fast slow returned becomes becomes'⟩
  · intro paced
    have steady : d.agenda.Steady := ⟨movable, ⟨paced.exact.due, ordered⟩, paced⟩
    obtain ⟨begun, outcome, a', empties⟩ :=
      Agenda.exists_empties (p := Agenda.Steady) Agenda.Steady.progress Agenda.Steady.round steady
    have returned := empties.returned plans
    obtain ⟨d', fast, becomes⟩ :=
      exists_drainAll_of_steady empties steady plans own (fun real => absurd rfl real) 0
    obtain ⟨e', slow, becomes'⟩ :=
      exists_drainAll_of_steady empties steady plans same (fun _ => sleeper) 0
    have fast := fast.runUntilIdle
    have slow := slow.runUntilIdle
    rw [Outcome.map_map, Nat.zero_add] at fast slow
    exact ⟨_, d', e', .of_becomes fast slow returned becomes becomes'⟩

/-- A desk with a task that is due at 1. It puts down two for the same time half a second later, of
the first of which another one comes, and one for the same time. -/
def pacedDesk (kind : ClockKind) : Desk where
  agenda :=
    { clock := ⟨kind, 0⟩
      tasks := #[⟨1, 0, [], .script [.schedule 0.5 [] [.schedule 0.25 [] []], .schedule 0.5 [] [],
        .schedule 0 [] []]⟩]
      issued := 1 }

/-- A chain of tasks by a virtual clock and by one that is waited for. -/
theorem pace_indifferent_chained :
    (∃ count d' e', Alike (fun delay => ¬ delay < 0) .runNext (pacedDesk .virtual)
        (pacedDesk .monotonic) (.returned (.ran count)) d' e') ∧
      ∃ count d' e', Alike (fun delay => ¬ delay < 0) .runUntilIdle (pacedDesk .virtual)
        (pacedDesk .monotonic) (.returned (.ran count)) d' e' := by
  have leaf {delay : Float} (nonneg : ¬ delay < 0) :
      (Call.schedule delay [] []).Plans fun delay => ¬ delay < 0 :=
    .schedule nonneg (by simp)
  have chain : (Call.schedule 0.5 [] [.schedule 0.25 [] []]).Plans fun delay => ¬ delay < 0 :=
    .schedule (by decide) (by simpa using leaf (by decide))
  have plans : (pacedDesk .virtual).agenda.Plans fun delay => ¬ delay < 0 := by
    intro task member
    simp only [pacedDesk, List.mem_toArray, List.mem_singleton] at member
    refine ⟨_, congrArg Task.action member, ?_⟩
    simp only [List.forall_mem_cons]
    exact ⟨chain, leaf (by decide), leaf (by decide), by simp⟩
  have ordered : Heap.Ordered Task.before (pacedDesk .virtual).agenda.tasks := by
    intro i inner x y _ child
    have inside : i < 1 := (Array.getElem?_eq_some_iff.mp child).1
    omega
  have paced : (pacedDesk .virtual).agenda.Paced :=
    Agenda.paced_of_idle (n := 8) (by decide +kernel) (by decide +kernel)
  have both := pace_indifferent (d := pacedDesk .virtual) (e := pacedDesk .monotonic) rfl rfl rfl
    ordered plans
  obtain ⟨outcome, d', e', next⟩ := both.1 paced.exact
  obtain ⟨outcome', d'', e'', all⟩ := both.2 paced
  obtain rfl := next.counted fun _ nonneg => nonneg
  obtain rfl := all.counted fun _ nonneg => nonneg
  exact ⟨⟨_, d', e', next⟩, _, d'', e'', all⟩

end Desk

end DryRun
