import DryRun.Proofs.Plan.Pace

/-!
# Plans with delays that are accepted

A delay that is not less than zero is accepted. NaN is not less than zero, and what is put down with
it is due at NaN, which no reading comes up to. Plans in which that does not occur, however deep
inside, are sound (`Agenda.Sound`).

Sound plans stay sound when tasks are put down and taken, and plans that are not stay as they are
too, since a task that is due at NaN is not taken. In rounds a task is taken each time as long as
the first one is due at a number. At the end of all rounds nothing waits, and that is sound; so
plans are emptied by rounds exactly if they are sound (`Agenda.Laden.empties_iff`).

`Agenda.Spends` is what a drive makes of plans, one task at a time (`Agenda.Laden.take`) and over
all (`Agenda.Takes.spends`, `Agenda.Empties.spends`).
-/

set_option autoImplicit false

namespace DryRun

open Reading

/-! ## What comes of a plan -/

/-- A plan with such delays is one with more kinds of delays. -/
theorem Call.Plans.mono {allowed allowed' : Float → Prop} (weaker : ∀ x, allowed x → allowed' x)
    {c : Call} (plans : c.Plans allowed) : c.Plans allowed' := by
  induction plans with
  | schedule delays _ ih => exact .schedule (weaker _ delays) ih

/-- What a task is there for: its name and the calls that it carries. -/
abbrev Purpose := Text × List Call

def Task.purpose (task : Task Action) : Purpose := (task.name, task.action.calls)

mutual

/-- The tasks that come of a call, those included that come of their calls. -/
def Call.planned : Call → List Purpose
  | .schedule _ name body => (name, body) :: Call.allPlanned body
  | _ => []

/-- The tasks that come of some calls. -/
def Call.allPlanned : List Call → List Purpose
  | [] => []
  | c :: rest => c.planned ++ Call.allPlanned rest

end

/-- A delay that is accepted: it is not less than zero, though it may be NaN. -/
def IsNonneg (delay : Float) : Prop := ¬ delay < 0

instance (delay : Float) : Decidable (IsNonneg delay) := inferInstanceAs (Decidable (¬ delay < 0))

namespace Agenda

variable {a a' rest : Agenda Action} {task : Task Action} {begun : List Beginning}
  {calls : List Call} {reading : Float} {limit : Option Float} {outcome : Outcome Unit}

/-- The tasks that come of the tasks of an agenda, themselves included. -/
def planned (a : Agenda Action) : List Purpose :=
  a.tasks.toList.flatMap fun task => task.purpose :: Call.allPlanned task.action.calls

/-- Plans, and a virtual clock that shows a time. -/
structure Laden (a : Agenda Action) : Prop where
  movable : a.clock.kind = .virtual
  time : IsTime a.now
  plans : a.Plans IsNonneg

/-- No task is due at NaN or carries a plan with NaN for a delay. -/
def Sound (a : Agenda Action) : Prop :=
  ∀ task ∈ a.tasks, task.due.isNaN = false ∧ ∀ c ∈ task.action.calls, c.Plans IsDelay

/-- Tasks have begun, and plans are left that are as sound as they were. Those tasks and the ones
that come of the plans that are left are all that were to come. -/
structure Spends (a : Agenda Action) (begun : List Beginning) (a' : Agenda Action) : Prop where
  laden : a'.Laden
  sound : a'.Sound ↔ a.Sound
  planned : a.planned.Perm ((begun.map fun b => b.1.purpose) ++ a'.planned)

/-- What two stretches spend is spent one after the other. -/
theorem Spends.trans {a₁ : Agenda Action} {begun' : List Beginning} (first : a.Spends begun a₁)
    (second : a₁.Spends begun' a') : a.Spends (begun ++ begun') a' := by
  refine ⟨second.laden, second.sound.trans first.sound, ?_⟩
  rw [List.map_append, List.append_assoc]
  exact first.planned.trans (second.planned.append_left _)

/-! ## What is still to come -/

/-- A task that is put down adds itself and those that come of it to what is to come. -/
theorem planned_put (a : Agenda Action) (delay : Float) (name : Text) (action : Action) :
    (a.put delay name action).2.planned.Perm
      ((name, action.calls) :: Call.allPlanned action.calls ++ a.planned) :=
  (tasks_put a delay name action).flatMap_right _

/-- A task that is taken is one of those to come, and so are those that come of it. -/
theorem planned_take (taken : a.takeDue? reading = some (task, rest)) :
    a.planned.Perm (task.purpose :: Call.allPlanned task.action.calls ++ rest.planned) :=
  (Heap.pop?_perm (takeDue?_eq_some taken).2.1).2.flatMap_right _

/-- What comes of the calls of a task is still to come when they have been made. -/
theorem planned_carry (plans : ∀ c ∈ calls, c.Plans IsNonneg) (a : Agenda Action) :
    (a.carry calls).2.planned.Perm (Call.allPlanned calls ++ a.planned) := by
  induction calls generalizing a with
  | nil => exact .rfl
  | cons c others ih =>
    cases plans c List.mem_cons_self with
    | @schedule delay name body nonneg =>
      rw [Agenda.carry, if_neg nonneg]
      have onward := ih (fun c member => plans c (.tail _ member))
        (a.put delay name (.script body)).2
      refine (onward.trans ((planned_put a delay name (.script body)).append_left _)).trans ?_
      -- The new task was put down before the others, but nothing is said about the order.
      rw [← List.append_assoc]
      exact List.perm_append_comm.append_right _

/-! ## Delays that are NaN -/

/-- A plan that is put down leaves the agenda sound exactly if it is sound itself. -/
theorem sound_put_iff (time : IsTime a.now) {delay : Float} (nonneg : IsNonneg delay) (name : Text)
    (body : List Call) :
    (a.put delay name (.script body)).2.Sound ↔
      a.Sound ∧ (Call.schedule delay name body).Plans IsDelay := by
  have due : (a.now + delay).isNaN = delay.isNaN := time.isNaN_add nonneg
  constructor
  · intro sound
    refine ⟨fun task member => sound task (mem_put.mpr (.inr member)), ?_⟩
    obtain ⟨number, inner⟩ := sound _ (mem_put.mpr (.inl rfl))
    exact .schedule ⟨due.symm.trans number, nonneg⟩ inner
  · rintro ⟨sound, plan⟩ task member
    obtain @⟨_, _, _, delays, inner⟩ := plan
    rcases mem_put.mp member with rfl | old
    · exact ⟨due.trans delays.1, inner⟩
    · exact sound task old

/-- Once the tasks of some calls have been put down, it shows whether a delay was NaN. -/
theorem sound_carry_iff (time : IsTime a.now) (plans : ∀ c ∈ calls, c.Plans IsNonneg) :
    (a.carry calls).2.Sound ↔ a.Sound ∧ ∀ c ∈ calls, c.Plans IsDelay := by
  induction calls generalizing a with
  | nil => simp [Agenda.carry]
  | cons c others ih =>
    cases plans c List.mem_cons_self with
    | @schedule delay name body nonneg =>
      have onward := ih (a := (a.put delay name (.script body)).2) time
        fun c member => plans c (.tail _ member)
      rw [Agenda.carry, if_neg nonneg, onward, sound_put_iff time nonneg, List.forall_mem_cons,
        and_assoc]

/-- A task that is taken is due at a number. -/
theorem sound_take_iff (taken : a.takeDue? reading = some (task, rest)) :
    a.Sound ↔ rest.Sound ∧ ∀ c ∈ task.action.calls, c.Plans IsDelay := by
  obtain ⟨due, popped, -⟩ := takeDue?_eq_some taken
  have same (other : Task Action) : other ∈ a.tasks ↔ other = task ∨ other ∈ rest.tasks := by
    rw [← Array.mem_toList_iff, (Heap.pop?_perm popped).2.mem_iff, List.mem_cons,
      Array.mem_toList_iff]
  simp only [Sound, same, forall_eq_or_imp, (number_of_le due).1, true_and]
  exact and_comm

/-! ## Drives -/

/-- The clock is moved to another reading. -/
theorem Laden.moveTo (laden : a.Laden) (reading : Float) : a.Spends [] (a.moveTo reading) :=
  ⟨⟨(Clock.moveTo_kind reading).trans laden.movable,
    laden.time.of_le (Clock.forward_moveTo laden.time reading), laden.plans⟩, Iff.rfl, .rfl⟩

/-- Where nothing begins nothing is spent. -/
theorem Laden.stay (laden : a.Laden) : a.Spends [] a := ⟨laden, Iff.rfl, .rfl⟩

/-- Coming to the next task spends nothing. -/
theorem Laden.await (laden : a.Laden) : a.Spends [] a.await := by
  rw [await_of_virtual laden.movable]
  cases a.nextDue? with
  | none => exact laden.stay
  | some due =>
    rw [Option.elim_some]
    split
    · exact laden.moveTo due
    · exact laden.stay

/-- A task is taken and its calls are made. -/
theorem Laden.take {a₁ : Agenda Action} {ending : Outcome Unit} (laden : a.Laden)
    (taken : a.takeDue? reading = some (task, rest))
    (carried : (rest.moveTo task.due).carry task.action.calls = (ending, a₁)) :
    a.Spends [(task, (rest.moveTo task.due).now)] a₁ := by
  obtain ⟨-, allows, plans⟩ := laden.plans.take taken
  have clock := clock_of_carried taken carried
  have moved := laden.moveTo task.due
  have time : IsTime (rest.moveTo task.due).now := by
    have kept := (rest.moveTo task.due).carry_clock task.action.calls
    rw [carried, clock] at kept
    rw [Agenda.now, ← kept]
    exact moved.laden.time
  have sound := sound_carry_iff time allows
  have planned := planned_carry allows (rest.moveTo task.due)
  rw [carried] at plans sound planned
  refine ⟨⟨?_, ?_, plans⟩, sound.trans (sound_take_iff taken).symm, ?_⟩
  · rw [clock]
    exact moved.laden.movable
  · rw [Agenda.now, clock]
    exact moved.laden.time
  · exact (planned_take taken).trans (planned.symm.cons _)

/-- Tasks that are taken are spent. -/
theorem Takes.spends (takes : a.Takes limit begun outcome a') (laden : a.Laden) :
    a.Spends begun a' := by
  induction takes with
  | stop =>
    cases limit with
    | none => exact laden.stay
    | some target => exact laden.moveTo target
  | next taken carried _ ih =>
    have first := laden.take taken carried
    exact first.trans (ih first.laden)
  | fail taken carried => exact laden.take taken carried

/-- A round spends the tasks that it takes. -/
theorem Laden.round (laden : a.Laden) (round : a.await.Takes none begun outcome a') :
    a.Spends begun a' :=
  laden.await.trans (round.spends laden.await.laden)

/-- A round begins a task exactly if the first one is due at a number. -/
theorem Laden.round_iff {head : Task Action} (laden : a.Laden) (first : a.first? = some head)
    (round : a.await.Takes none begun outcome a') : begun ≠ [] ↔ head.due.isNaN = false := by
  have busy : a.pending ≠ 0 := by
    have inside := (Array.getElem?_eq_some_iff.mp first).1
    exact Nat.ne_of_gt inside
  constructor
  · intro some
    cases round with
    | stop => exact absurd rfl some
    | next taken | fail taken =>
      obtain ⟨due, popped, -⟩ := takeDue?_eq_some taken
      have root := (Heap.pop?_perm popped).1
      rw [await_tasks, show a.tasks[0]? = Option.some head from first] at root
      obtain rfl := Option.some.inj root
      exact (number_of_le due).1
  · rintro number rfl
    cases round with
    | stop undue =>
      refine takeDue?_await laden.movable laden.time.1 (fun head' same => ?_) busy undue
      obtain rfl := Option.some.inj (first.symm.trans same)
      exact number

/-- On a sound agenda the first task is due at a number. -/
theorem Sound.first {head : Task Action} (sound : a.Sound) (first : a.first? = some head) :
    head.due.isNaN = false :=
  (sound head (Array.mem_of_getElem? first)).1

/-! ## All rounds -/

/-- Rounds that return have emptied the agenda. -/
theorem Empties.emptied (empties : a.Empties begun outcome a') (ends : outcome = .returned ()) :
    a'.pending = 0 := by
  induction empties with
  | stop idle => exact idle
  | next _ _ _ ih => exact ih ends
  | fail => cases ends

/-- Rounds spend the tasks that they take. -/
theorem Empties.spends (empties : a.Empties begun outcome a') (laden : a.Laden) :
    a.Spends begun a' := by
  induction empties with
  | stop => exact laden.stay
  | next _ round _ ih =>
    have first := laden.round round
    exact first.trans (ih first.laden)
  | fail _ round => exact laden.round round

/-- An agenda on which no task waits is sound. -/
theorem sound_of_idle (idle : a.pending = 0) : a.Sound := by
  intro task member
  rw [Array.eq_empty_of_size_eq_zero idle] at member
  simp at member

/-- Where no task waits nothing is to come. -/
theorem planned_of_idle (idle : a.pending = 0) : a.planned = [] := by
  rw [planned, Array.eq_empty_of_size_eq_zero idle]
  rfl

/-- Plans are emptied by rounds exactly if they are sound. -/
theorem Laden.empties_iff (laden : a.Laden) :
    (∃ begun a', a.Empties begun (.returned ()) a') ↔ a.Sound := by
  constructor
  · rintro ⟨begun, a', empties⟩
    exact (empties.spends laden).sound.mp (sound_of_idle (empties.emptied rfl))
  · intro sound
    obtain ⟨begun, outcome, a', empties⟩ := exists_empties (p := fun a => a.Laden ∧ a.Sound)
      (fun ⟨laden, sound⟩ busy =>
        takeDue?_await laden.movable laden.time.1 (fun _ first => sound.first first) busy)
      (fun ⟨laden, sound⟩ round => ⟨(laden.round round).laden, (laden.round round).sound.mpr sound⟩)
      ⟨laden, sound⟩
    obtain rfl := empties.returned laden.plans fun _ nonneg => nonneg
    exact ⟨begun, a', empties⟩

end Agenda

end DryRun
