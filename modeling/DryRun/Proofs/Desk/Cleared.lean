import DryRun.Proofs.Agenda.Line
import DryRun.Proofs.Desk.Conservation
import DryRun.Proofs.Desk.Dated
import DryRun.Proofs.Desk.Noted

/-!
# Drives leave nothing due behind

A drive looks at the first task only, while the tasks that it runs put down further ones, drive
the desk themselves and move the clock. `drives_leave_nothing_due` says that nothing is missed all
the same. When a drive until a target returns (`Clears`), every task that is left is due later, it
has taken no task that is, and its clock shows the target unless something that happened meanwhile
moved it further. The other drives leave nothing that is due at the reading then, or nothing at all.

A drive stops at a desk at which the first task is not due (`Takes.stopped`), and then none is,
since the tasks are still a queue (`Desk.Dated`). That a clock past the target shows a reading that
was written down meanwhile is what `Desk.Noted` is for.
-/

set_option autoImplicit false

namespace DryRun

open Reading

namespace Call

/-- A call carries other calls: the task that it puts down makes them, or the observer that it adds,
or it makes them itself. -/
def Carries : Call → Call → Prop
  | .schedule _ _ body, c | .shielded body, c => c ∈ body
  | .addObserver _ conduct, c => ∃ n, c ∈ conduct n
  | _, _ => False

/-- A call has a property, and so has every call that it carries, however deep inside. -/
inductive Throughout (p : Call → Prop) : Call → Prop where
  | intro {c : Call} (own : p c) (inner : ∀ c', c.Carries c' → Throughout p c') : Throughout p c

/-- A property of calls and all that they carry is one of what they carry. -/
theorem throughout_hereditary (p : Call → Prop) : Call.Hereditary (Throughout p) := by
  constructor
  · intro delay name body
    rintro ⟨-, inner⟩
    exact inner
  · intro body
    rintro ⟨-, inner⟩
    exact inner
  · intro target conduct
    rintro ⟨-, inner⟩ n c member
    exact inner c ⟨n, member⟩

/-- A call hands no NaN to the agenda, as a delay or as an amount of time, and a clock that shows
a time shows one after it, though perhaps an earlier one. -/
def Measures : Call → Prop
  | .schedule delay _ _ => delay.isNaN = false
  | .moveClock seconds => seconds.isNaN = false
  | .elapse turn => ∀ reading, IsTime reading → IsTime (turn reading)
  | _ => True

abbrev Measured : Call → Prop := Throughout Measures

/-- Measured calls keep time, on a steady clock if it is a virtual one. -/
theorem measured_keepTime (kind : ClockKind) : KeepTime kind (kind = .virtual) Measured := by
  constructor
  · rintro delay name body ⟨number, -⟩
    exact number
  · rintro c clock later ⟨measures, -⟩ same time turned
    cases c with
    | moveClock => exact Clock.proceeds_move time measures (Option.some.inj turned)
    | setClock => exact Clock.proceeds_set time (Option.some.inj turned)
    | elapse turn =>
      cases turned
      refine Clock.proceeds_elapse time (measures _ time) fun real isVirtual => ?_
      exact absurd (same.trans isVirtual) real
    | _ => cases turned

end Call

namespace Desk

variable {kind : ClockKind} {steady : Prop} {d d' : Desk} {tasks : List (Task Action)}

/-! ## Where a drive stops -/

/-- If nothing is due at a reading, every task that waits is due later. -/
theorem lt_due (queued : d.agenda.Queued) {reading : Float} (number : reading.isNaN = false)
    (undue : d.takeDue? reading = none) : ∀ task ∈ d.agenda.tasks, reading < task.due := by
  intro task member
  have none : d.agenda.takeDue? reading = none := Option.map_eq_none_iff.mp undue
  have late := Agenda.takeDue?_eq_none queued none task member
  exact lt_of_not_le number (queued.due task member) late

/-- A drive that returns stops at a desk at which nothing is due any more. It has just been left by
a task, unless no task was taken. -/
theorem Takes.stopped {limit : Option Float} (takes : d.Takes limit tasks (.returned ()) d') :
    ∃ d₁ : Desk, d₁.takeDue? (limit.getD d₁.agenda.now) = none ∧
      d' = limit.elim d₁ d₁.moveTo ∧ (d₁ = d ∨ d₁.Noted) := by
  generalize ends : Outcome.returned () = outcome at takes
  induction takes with
  | @stop d undue => exact ⟨d, undue, rfl, .inl rfl⟩
  | @next d task rest d₁ tasks outcome d' taken started others ih =>
    obtain ⟨d₂, undue, final, left⟩ := ih ends
    refine ⟨d₂, undue, final, .inr ?_⟩
    rcases left with rfl | noted
    · exact started.noted
    · exact noted
  | fail => cases ends

/-- Tasks that are taken up to a time are due by then. -/
theorem Takes.due {target : Float} {outcome : Outcome Unit}
    (takes : d.Takes (some target) tasks outcome d') : ∀ task ∈ tasks, task.due ≤ target := by
  induction takes with
  | stop => simp
  | next taken _ _ ih => exact List.forall_mem_cons.mpr ⟨(takeDue?_eq_some taken).1, ih⟩
  | fail taken => exact List.forall_mem_singleton.mpr (takeDue?_eq_some taken).1

/-- A drive at the present reading leaves nothing that is due at the reading then. -/
theorem Takes.undue (takes : d.Takes none tasks (.returned ()) d') :
    d'.takeDue? d'.agenda.now = none := by
  obtain ⟨d₁, undue, rfl, -⟩ := takes.stopped
  exact undue

/-- After a drive of what is due now nothing is due now. -/
theorem Drives.undue {c : Call} (call : c = .runDue ∨ c = .runNext)
    (drives : d.Drives c tasks (.returned ()) d') : d'.takeDue? d'.agenda.now = none := by
  generalize ends : Outcome.returned () = outcome at drives
  cases drives with
  | runDue takes | runNext _ _ takes | runNextAfter _ _ _ takes =>
    subst ends
    exact takes.undue
  | runNextIdle idle =>
    have first : d.agenda.first? = none := Array.getElem?_eq_none (by
      rw [show d.agenda.tasks.size = 0 from idle])
    rw [takeDue?, Agenda.takeDue?, first, Option.map_none]
  | runNextFail | advanceRefuse | runUntilIdleFail => cases ends
  | _ => simp at call

/-! ## A drive until a target -/

/-- How a drive until a target ends. No task is left that is due by then, and none was taken that is
not. The clock shows the target, unless something that happened meanwhile moved it further; then
it shows the latest reading that there was. -/
structure Clears (target : Float) (tasks : List (Task Action)) (recent : List Moment) (d' : Desk) :
    Prop where
  left : ∀ task ∈ d'.agenda.tasks, target < task.due
  taken : ∀ task ∈ tasks, task.due ≤ target
  latest : ∀ m ∈ recent, m.bench.agenda.now ≤ d'.agenda.now
  reached : (d'.agenda.now == target) = true ∨
    target < d'.agenda.now ∧ ∃ m ∈ recent, m.bench.agenda.now = d'.agenda.now

/-- A clock that is moved to a target shows it or has been past it already. -/
theorem moveTo_reached {target : Float} (number : target.isNaN = false)
    (shown : d.agenda.now.isNaN = false) :
    ((d.moveTo target).agenda.now == target) = true ∨
      target < d.agenda.now ∧ d.moveTo target = d := by
  by_cases early : d.agenda.now < target
  · left
    have moved : (d.moveTo target).agenda.now = target :=
      congrArg Clock.reading (Clock.moveTo_of_lt early)
    rw [moved, beq_iff number number]
  · have still : d.moveTo target = d := by
      rw [Desk.moveTo, Agenda.moveTo, Clock.moveTo_of_not_lt early]
    rw [still]
    by_cases past : d.agenda.now ≤ target
    · left
      rw [lt_iff shown number, not_lt] at early
      rw [le_iff shown number] at past
      exact (beq_iff shown number).mpr (le_antisymm past early)
    · exact .inr ⟨lt_of_not_le number shown past, rfl⟩

/-- A reading that has been written down is a recent one if it is later than all the others. -/
theorem Noted.since {target : Float} {recent : List Moment} (noted : d'.Noted)
    (isVirtual : d'.agenda.clock.kind = .virtual) (entries : d'.journal = recent ++ d.journal)
    (old : ∀ m ∈ d.journal, m.bench.agenda.now ≤ target) (past : target < d'.agenda.now) :
    ∃ m ∈ recent, m.bench.agenda.now = d'.agenda.now := by
  obtain ⟨m, latest, same⟩ := noted isVirtual
  have member : m ∈ recent ++ d.journal := entries ▸ List.mem_of_mem_head? latest
  rcases List.mem_append.mp member with recently | earlier
  · exact ⟨m, recently, same⟩
  · have above := old m earlier
    rw [same] at above
    exact absurd past (not_lt_of_le above)

/-- A drive that began at or before its target clears everything up to it. -/
theorem Takes.clears {target : Float} {recent : List Moment}
    (takes : d.Takes (some target) tasks (.returned ()) d')
    (isVirtual : d.agenda.clock.kind = .virtual) (dated : d.Dated kind (kind = .virtual))
    (dated' : d'.Dated kind (kind = .virtual)) (ahead : d.agenda.now ≤ target)
    (entries : d'.journal = recent ++ d.journal) : Clears target tasks recent d' := by
  have number := (number_of_le ahead).2
  have steady : kind = .virtual := dated.kind.symm.trans isVirtual
  have due := takes.due
  obtain ⟨d₁, undue, rfl, left⟩ := takes.stopped
  have queued : d₁.agenda.Queued := ⟨dated'.queued.due, dated'.queued.ordered⟩
  have shown : d₁.agenda.now.isNaN = false :=
    (Clock.isNaN_moveTo target).symm.trans dated'.time.1
  refine ⟨lt_due queued number undue, due, fun m member => ?_, ?_⟩
  · exact dated'.past steady m (entries ▸ List.mem_append_left _ member)
  rcases moveTo_reached number shown with reached | ⟨past, still⟩
  · exact .inl reached
  · right
    simp only [Option.elim_some, still] at entries dated' ⊢
    refine ⟨past, ?_⟩
    rcases left with rfl | noted
    · exact absurd past (not_lt_of_le ahead)
    · refine noted.since (dated'.kind.trans steady) entries (fun m earlier => ?_) past
      exact Reading.le_trans (dated.past steady m earlier) ahead

/-! ## The drives -/

/-- After a call that returns, a desk is still one whose clock shows a time. -/
theorem Dated.of_returned {depth : Nat} {c : Call} {reply : Reply}
    (dated : d.Dated kind (kind = .virtual)) (employs : d.Employs Call.Measured)
    (measured : c.Measured)
    (returned : perform depth (.call c) d = (.returned reply, d')) :
    d'.Dated kind (kind = .virtual) := by
  have hereditary := Call.throughout_hereditary Call.Measures
  have made := perform_made hereditary depth (.call c) d employs measured
  rw [returned] at made
  exact (Run.dated (Call.measured_keepTime kind) hereditary made employs dated).of_note

/-- At a desk whose clock shows a time at first and to which no call hands NaN, however tasks put
down others, drive the desk and move the clock: a drive until a target that returns has cleared
everything up to it, and the tasks that it took itself, in this order, are those it counts. The
other drives that return leave nothing that is due, or no task. -/
theorem drives_leave_nothing_due {clock : Clock} {sink : Option Conduct} {observers : List Conduct}
    {sleeper : Sleeper} {depth : Nat} {reply : Reply} (time : IsTime clock.reading)
    (outside : (fresh clock sink observers sleeper).Employs Call.Measured)
    (reached : (fresh clock sink observers sleeper).Run Call.Measured d) :
    (∀ seconds, 0 ≤ seconds → perform depth (.call (.advance seconds)) d = (.returned reply, d') →
      ∃ tasks recent, d.Drives (.advance seconds) tasks (.returned ()) d' ∧
        reply = .ran tasks.length ∧ d'.journal = recent ++ d.journal ∧
        tasks.reverse.Sublist (begunTasks recent) ∧
        Clears (d.agenda.now + seconds) tasks recent d') ∧
      (∀ c, c = .runDue ∨ c = .runNext → perform depth (.call c) d = (.returned reply, d') →
        ∀ task ∈ d'.agenda.tasks, d'.agenda.now < task.due) ∧
      (perform depth (.call .runUntilIdle) d = (.returned reply, d') → d'.agenda.pending = 0) := by
  have hereditary := Call.throughout_hereditary Call.Measures
  have employs := reached.employs hereditary outside
  have dated := Run.dated (Call.measured_keepTime clock.kind) hereditary reached outside
    (dated_fresh time sink observers sleeper)
  have drives {c : Call} (drive : c.IsDrive)
      (returned : perform depth (.call c) d = (.returned reply, d')) :
      ∃ tasks, d.Drives c tasks (.returned ()) d' ∧ reply = .ran tasks.length := by
    have answers := drives_of_perform drive depth d
    rwa [returned] at answers
  refine ⟨?_, ?_, ?_⟩
  · intro seconds nonneg returned
    have measured : (Call.advance seconds).Measured := ⟨trivial, nofun⟩
    have dated' := dated.of_returned employs measured returned
    have drive : (Call.advance seconds).IsDrive := trivial
    obtain ⟨tasks, drove, count⟩ := drives drive returned
    obtain ⟨recent, entries, began⟩ := drove.begun
    have ahead := dated.time.le_add ⟨(number_of_le nonneg).2, not_lt_of_le nonneg⟩
    refine ⟨tasks, recent, drove, count, entries, began, ?_⟩
    cases drove with
    | advance isVirtual takes => exact takes.clears isVirtual dated dated' ahead entries
  · intro c call returned
    have drive : c.IsDrive := by rcases call with rfl | rfl <;> trivial
    have measured : c.Measured := by rcases call with rfl | rfl <;> exact ⟨trivial, nofun⟩
    have dated' := dated.of_returned employs measured returned
    obtain ⟨tasks, drove, -⟩ := drives drive returned
    exact lt_due dated'.queued dated'.time.1 (drove.undue call)
  · intro returned
    have drive : Call.runUntilIdle.IsDrive := trivial
    obtain ⟨tasks, drove, -⟩ := drives drive returned
    exact drove.emptied

/-- The first task puts down another one, moves the clock to 5, runs what is due by then and puts
down a third one. The host drives the desk until 3. -/
def overtakenTarget : List Call :=
  [.schedule 2 [] [],
    .schedule 1 [] [.schedule 0 [] [], .moveClock 4, .runDue, .schedule 0 [] []],
    .schedule 9 [] []]

/-- A drive whose first task moves the clock beyond the target. -/
theorem drives_leave_nothing_due_overtaken :
    let d := history 12 overtakenTarget (fresh ⟨.virtual, 0⟩ none [])
    ∃ d' tasks recent, perform 12 (.call (.advance 3)) d = (.returned (.ran tasks.length), d') ∧
      (d'.agenda.now == 5) = true ∧ d'.agenda.pending = 2 ∧
      Clears (d.agenda.now + 3) tasks recent d' := by
  intro d
  have time : IsTime (Clock.mk .virtual 0).reading := ⟨rfl, WithBot.coe_ne_bot⟩
  have outside : (fresh ⟨.virtual, 0⟩ none []).Employs Call.Measured := by
    refine ⟨?_, ?_, ?_, fun n seconds asked => ⟨⟨fun reading time => ?_, nofun⟩, ?_⟩⟩
    · rintro task ⟨⟨⟩⟩
    · rintro o ⟨⟨⟩⟩
    · rintro o ⟨⟩
    · have le := Reading.le_of_lt asked
      exact time.of_le (time.le_add ⟨(number_of_le le).2, not_lt_of_le le⟩)
    · rintro c ⟨⟩
  have host : ∀ c ∈ overtakenTarget, c.Measured := by
    have idle (delay : Float) (number : delay.isNaN = false) :
        (Call.schedule delay [] []).Measured := ⟨number, nofun⟩
    have moves : (4 : Float).isNaN = false := rfl
    have waits : (1 : Float).isNaN = false := rfl
    have body : ∀ c ∈ [Call.schedule 0 [] [], .moveClock 4, .runDue, .schedule 0 [] []],
        c.Measured := by
      simp only [List.forall_mem_cons]
      exact ⟨idle 0 rfl, ⟨moves, nofun⟩, ⟨trivial, nofun⟩, idle 0 rfl, by simp⟩
    simp only [overtakenTarget, List.forall_mem_cons]
    exact ⟨idle 2 rfl, ⟨waits, body⟩, idle 9 rfl, by simp⟩
  have reached : (fresh ⟨.virtual, 0⟩ none []).Run Call.Measured d :=
    history_run (Call.throughout_hereditary Call.Measures) 12 outside host
  have shown : ((perform 12 (.call (.advance 3)) d).2.agenda.now == 5) = true ∧
      (perform 12 (.call (.advance 3)) d).2.agenda.pending = 2 := by
    decide +kernel
  have returns : (match (perform 12 (.call (.advance 3)) d).1 with
      | .returned _ => true
      | _ => false) = true := by
    decide +kernel
  -- What the desk is made of does not matter any more.
  clear_value d
  cases result : perform 12 (.call (.advance 3)) d with
  | mk outcome d' =>
    rw [result] at shown returns
    cases outcome with
    | returned reply =>
      have cleared := (drives_leave_nothing_due time outside reached).1 3 (by decide) result
      obtain ⟨tasks, recent, -, rfl, -, -, clears⟩ := cleared
      exact ⟨d', tasks, recent, rfl, shown.1, shown.2, clears⟩
    | failed => cases returns
    | unfinished => cases returns

end Desk

end DryRun
