import DryRun.Desk.Perform
import DryRun.Proofs.Agenda.Clock
import DryRun.Proofs.Agenda.Line

/-!
# Plans

A plan is a task that does nothing but put down further tasks, which are plans in their turn. What
a drive makes of plans is a matter of the agenda alone: `Agenda.carry` is what becomes of an agenda
in which the calls of a task are made, and `Agenda.Takes` says which tasks are taken, at which
readings, and what is left. However the calls of a plan are nested, they come to so many tasks and
no more, so a drive that takes plans comes to an end (`Agenda.exists_takes`).

A task that is to be put down with a negative delay is refused. The drive in which that happens
ends with this failure, and with the agenda as it is then.
-/

set_option autoImplicit false

namespace DryRun

/-- A call that puts down a task with such a delay as is allowed, and so do the calls of that
task. -/
inductive Call.Plans (allowed : Float → Prop) : Call → Prop where
  | schedule {delay : Float} {name : Text} {body : List Call} (delays : allowed delay)
      (inner : ∀ c ∈ body, Plans allowed c) : Plans allowed (.schedule delay name body)

mutual

/-- How many tasks come of a call, those included that come of their calls. -/
def Call.yield : Call → Nat
  | .schedule _ _ body => Call.yields body + 1
  | _ => 0

/-- How many tasks come of some calls. -/
def Call.yields : List Call → Nat
  | [] => 0
  | c :: rest => c.yield + Call.yields rest

end

/-- The calls that a task carries. -/
def Action.calls : Action → List Call
  | .script calls => calls
  | _ => []

/-- A task that begins, and the reading at which it does. -/
abbrev Beginning := Task Action × Float

namespace Agenda

/-- The agenda after the tasks of some calls were put down, up to the first one that is refused.
Calls for anything else are passed over. -/
def carry : List Call → Agenda Action → Outcome Unit × Agenda Action
  | [], agenda => (.returned (), agenda)
  | .schedule delay name body :: rest, agenda =>
    if delay < 0 then (.failed (.agenda (.negativeDelay delay)), agenda)
    else carry rest (agenda.put delay name (.script body)).2
  | _ :: rest, agenda => carry rest agenda

/-- The tasks that are taken one after the other, in this order, while the next one is due at a
given reading or, where none is given, at the present one. A task that fails is the last one; if
none does, the clock is set to the given reading in the end. -/
inductive Takes (limit : Option Float) :
    Agenda Action → List Beginning → Outcome Unit → Agenda Action → Prop where
  | stop {a} (undue : a.takeDue? (limit.getD a.now) = none) :
      Takes limit a [] (.returned ()) (limit.elim a a.moveTo)
  | next {a task rest a₁ begun outcome a'}
      (taken : a.takeDue? (limit.getD a.now) = some (task, rest))
      (carried : (rest.moveTo task.due).carry task.action.calls = (.returned (), a₁))
      (others : Takes limit a₁ begun outcome a') :
      Takes limit a ((task, (rest.moveTo task.due).now) :: begun) outcome a'
  | fail {a task rest failure a'}
      (taken : a.takeDue? (limit.getD a.now) = some (task, rest))
      (carried : (rest.moveTo task.due).carry task.action.calls = (.failed failure, a')) :
      Takes limit a [(task, (rest.moveTo task.due).now)] (.failed failure) a'

/-- An agenda on which there are plans only. -/
def Plans (allowed : Float → Prop) (agenda : Agenda Action) : Prop :=
  ∀ task ∈ agenda.tasks, ∃ calls, task.action = .script calls ∧ ∀ c ∈ calls, c.Plans allowed

/-- How many tasks come of the tasks of an agenda, themselves included. -/
def weight (agenda : Agenda Action) : Nat :=
  (agenda.tasks.toList.map fun task => Call.yields task.action.calls + 1).sum

variable {a a' rest : Agenda Action} {task : Task Action} {reading : Float} {limit : Option Float}
  {calls : List Call} {allowed : Float → Prop} {begun : List Beginning} {outcome : Outcome Unit}

/-! ## Tasks that are put down -/

/-- Whatever putting down a task leaves as it should be, the calls of a task leave as it should
be. -/
theorem carry_induct {p : Agenda Action → Prop}
    (put : ∀ {a delay name body}, .schedule delay name body ∈ calls → ¬ delay < 0 → p a →
      p (a.put delay name (.script body)).2) (first : p a) : p (a.carry calls).2 := by
  induction calls generalizing a with
  | nil => exact first
  | cons c others ih =>
    have onward {a : Agenda Action} (holds : p a) : p (a.carry others).2 :=
      ih (fun member => put (.tail c member)) holds
    cases c with
    | schedule delay name body =>
      rw [carry]
      split
      case isTrue => exact first
      case isFalse nonneg => exact onward (put List.mem_cons_self nonneg first)
    | _ => exact onward first

/-- Putting tasks down does not turn the clock. -/
@[simp] theorem carry_clock (a : Agenda Action) (calls : List Call) :
    (a.carry calls).2.clock = a.clock :=
  carry_induct (p := fun b => b.clock = a.clock) (fun _ _ same => same) rfl

/-- Putting tasks down comes to an end. -/
theorem carry_finished (a : Agenda Action) (calls : List Call) :
    (a.carry calls).1 ≠ .unfinished := by
  fun_induction carry calls a <;> simp_all

/-- Plans of which no task has a negative delay are carried out in full. -/
theorem carry_returned (plans : ∀ c ∈ calls, c.Plans allowed)
    (nonneg : ∀ delay, allowed delay → ¬ delay < 0) (a : Agenda Action) :
    (a.carry calls).1 = .returned () := by
  induction calls generalizing a with
  | nil => rfl
  | cons c others ih =>
    cases plans c List.mem_cons_self with
    | schedule delays =>
      rw [carry, if_neg (nonneg _ delays)]
      exact ih (fun c member => plans c (.tail _ member)) _

/-- The plans that are put down leave plans only. -/
theorem Plans.carry (plans : a.Plans allowed) (allows : ∀ c ∈ calls, c.Plans allowed) :
    (a.carry calls).2.Plans allowed := by
  refine carry_induct (fun {a delay name body} member _ plans task held => ?_) plans
  rcases mem_put.mp held with rfl | old
  · cases allows _ member with
    | schedule _ inner => exact ⟨body, rfl, inner⟩
  · exact plans task old

/-- A task that is put down adds itself and the tasks that come of it. -/
theorem weight_put (a : Agenda Action) (delay : Float) (name : Text) (action : Action) :
    (a.put delay name action).2.weight = a.weight + (Call.yields action.calls + 1) := by
  rw [weight, ((tasks_put a delay name action).map _).sum_eq, List.map_cons, List.sum_cons,
    Nat.add_comm]
  rfl

/-- Putting down tasks adds no more than comes of the calls. -/
theorem weight_carry (a : Agenda Action) (calls : List Call) :
    (a.carry calls).2.weight ≤ a.weight + Call.yields calls := by
  fun_induction carry calls a with
  | case1 => exact Nat.le_add_right _ _
  | case2 => exact Nat.le_add_right _ _
  | case3 delay name body others a _ ih =>
    rw [weight_put] at ih
    simp only [Call.yields, Call.yield, Action.calls] at ih ⊢
    omega
  | case4 c others a _ ih =>
    rw [Call.yields]
    omega

/-! ## Tasks that are taken -/

/-- A task is taken if it is the first one and due. -/
theorem takeDue?_eq_some_iff {α : Type} {a rest : Agenda α} {task : Task α} {reading : Float} :
    a.takeDue? reading = some (task, rest) ↔
      task.due ≤ reading ∧ a.take? = some (task, rest) := by
  constructor
  · intro taken
    obtain ⟨due, popped, others⟩ := takeDue?_eq_some taken
    refine ⟨due, ?_⟩
    rw [take?, popped, others]
    rfl
  · rintro ⟨due, taken⟩
    have first : a.first? = some task := by
      obtain ⟨⟨head, tasks⟩, popped, result⟩ := Option.map_eq_some_iff.mp taken
      obtain ⟨rfl, -⟩ := Prod.mk.inj result
      exact (Heap.pop?_perm popped).1
    simp only [takeDue?, first, if_pos due, taken]

/-- Nothing is due if the first task is not. -/
theorem takeDue?_eq_none_iff {α : Type} {a : Agenda α} {reading : Float} :
    a.takeDue? reading = none ↔
      ∀ task rest, a.take? = some (task, rest) → ¬ task.due ≤ reading := by
  simp only [Option.eq_none_iff_forall_ne_some, Prod.forall, ne_eq, takeDue?_eq_some_iff, not_and']

/-- Which task is taken is not a matter of the clock. -/
theorem takeDue?_withClock {α : Type} (a : Agenda α) (clock : Clock) (reading : Float) :
    { a with clock }.takeDue? reading =
      (a.takeDue? reading).map fun (task, rest) => (task, { rest with clock }) := by
  have first : { a with clock }.first? = a.first? := rfl
  have take : { a with clock }.take? =
      a.take?.map fun (task, rest) => (task, { rest with clock }) := by
    rw [take?, take?, Option.map_map]
    rfl
  rw [takeDue?, takeDue?, first, take]
  cases a.first? with
  | none => rfl
  | some head =>
    simp only
    split <;> rfl

/-- What is taken of plans is a plan, and its calls leave plans. -/
theorem Plans.take (plans : a.Plans allowed) (taken : a.takeDue? reading = some (task, rest)) :
    task.action = .script task.action.calls ∧ (∀ c ∈ task.action.calls, c.Plans allowed) ∧
      ((rest.moveTo task.due).carry task.action.calls).2.Plans allowed := by
  have elements := (Heap.pop?_perm (takeDue?_eq_some taken).2.1).2
  have old {other : Task Action} (member : other ∈ task :: rest.tasks.toList) :
      other ∈ a.tasks := by
    rwa [← Array.mem_toList_iff, elements.mem_iff]
  have left : (rest.moveTo task.due).Plans allowed := fun other member =>
    plans other (old (.tail task (Array.mem_toList_iff.mpr member)))
  obtain ⟨calls, action, allows⟩ := plans task (old List.mem_cons_self)
  rw [action]
  exact ⟨rfl, allows, left.carry allows⟩

/-- The clock after the calls of a task that was taken. -/
theorem clock_of_carried {ending : Outcome Unit} (taken : a.takeDue? reading = some (task, rest))
    (carried : (rest.moveTo task.due).carry task.action.calls = (ending, a')) :
    a'.clock = a.clock.moveTo task.due := by
  have kept := (rest.moveTo task.due).carry_clock task.action.calls
  rw [carried] at kept
  obtain ⟨-, -, others⟩ := takeDue?_eq_some taken
  rw [others] at kept
  exact kept

/-- Taking a task leaves that task and those that come of it to be accounted for. -/
theorem weight_take (taken : a.takeDue? reading = some (task, rest)) :
    a.weight = rest.weight + (Call.yields task.action.calls + 1) := by
  have elements := (Heap.pop?_perm (takeDue?_eq_some taken).2.1).2
  rw [weight, (elements.map _).sum_eq, List.map_cons, List.sum_cons, Nat.add_comm]
  rfl

/-! ## Drives -/

/-- A drive comes to an end: each task that is taken leaves fewer to come. -/
theorem exists_takes (limit : Option Float) (a : Agenda Action) :
    ∃ begun outcome a', a.Takes limit begun outcome a' := by
  generalize left : a.weight = n
  induction n using Nat.strong_induction_on generalizing a with
  | _ n ih =>
    cases taken : a.takeDue? (limit.getD a.now) with
    | none => exact ⟨_, _, _, .stop taken⟩
    | some result =>
      obtain ⟨task, rest⟩ := result
      cases carried : (rest.moveTo task.due).carry task.action.calls with
      | mk ending a₁ =>
        have lighter : a₁.weight < n := by
          have weight := (rest.moveTo task.due).weight_carry task.action.calls
          rw [carried] at weight
          have whole := weight_take taken
          change a₁.weight ≤ rest.weight + Call.yields task.action.calls at weight
          omega
        cases ending with
        | returned =>
          obtain ⟨begun, outcome, a', takes⟩ := ih a₁.weight lighter a₁ rfl
          exact ⟨_, _, _, .next taken carried takes⟩
        | failed => exact ⟨_, _, _, .fail taken carried⟩
        | unfinished =>
          have finished := (rest.moveTo task.due).carry_finished task.action.calls
          exact absurd (congrArg Prod.fst carried) finished

/-- Tasks that were taken have come to an end. -/
theorem Takes.finished (takes : a.Takes limit begun outcome a') : outcome ≠ .unfinished := by
  induction takes <;> simp_all

/-- What moving a clock to some reading leaves as it should be, a drive leaves as it should be. -/
theorem Takes.clock {p : Clock → Prop} (takes : a.Takes limit begun outcome a')
    (moved : ∀ {clock : Clock} (reading : Float), p clock → p (clock.moveTo reading))
    (holds : p a.clock) : p a'.clock := by
  induction takes with
  | stop =>
    cases limit with
    | none => exact holds
    | some target => exact moved target holds
  | next taken carried _ ih => exact ih (clock_of_carried taken carried ▸ moved _ holds)
  | fail taken carried => exact clock_of_carried taken carried ▸ moved _ holds

/-- A drive of plans leaves plans. It returns unless a negative delay is allowed. -/
theorem Takes.plans (takes : a.Takes limit begun outcome a') (plans : a.Plans allowed) :
    a'.Plans allowed ∧
      ((∀ delay, allowed delay → ¬ delay < 0) → outcome = .returned ()) := by
  induction takes with
  | stop =>
    cases limit with
    | none => exact ⟨plans, fun _ => rfl⟩
    | some reading => exact ⟨plans, fun _ => rfl⟩
  | next taken carried _ ih =>
    obtain ⟨-, -, left⟩ := plans.take taken
    rw [carried] at left
    exact ih left
  | @fail _ task rest _ _ taken carried =>
    obtain ⟨-, allows, left⟩ := plans.take taken
    rw [carried] at left
    refine ⟨left, fun nonneg => ?_⟩
    have full := carry_returned allows nonneg (rest.moveTo task.due)
    rw [carried] at full
    cases full

end Agenda

end DryRun
