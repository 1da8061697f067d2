import DryRun.Proofs.Desk.Drive

/-!
# How work comes to an end

Work comes to an end if the work that it sets off does. There is a lemma for each way in which a
piece of work can end, and from them one that goes back from the tasks that a drive takes to the
drive (`Takes.drainDue`, `Takes.drainUntil`) and to the call for it (`Takes.runDue`,
`Takes.advance`).

`Desk.Lives` is a history of which every call comes to an end. Under a bound that is great enough,
`Desk.history` is that history (`Lives.eventually`).
-/

set_option autoImplicit false

namespace DryRun

/-- Work whose answer is put in another form has come to an end if it had. -/
theorem Outcome.map_ne_unfinished {α β : Type} {f : α → β} {outcome : Outcome α}
    (finished : outcome ≠ .unfinished) : outcome.map f ≠ .unfinished := by
  cases outcome <;> simp_all [Outcome.map]

/-- An answer may be put in another form twice or at once. -/
theorem Outcome.map_map {α β γ : Type} (f : α → β) (g : β → γ) (outcome : Outcome α) :
    (outcome.map f).map g = outcome.map fun a => g (f a) := by
  cases outcome <;> rfl

namespace Desk

open Filter

variable {d d' d₁ : Desk}

/-- Work ends as its step does when enough depth is left for the work that it sets off. -/
theorem Does.of_step {w : Work} {outcome : Outcome w.Answer} (finished : outcome ≠ .unfinished)
    (step : ∀ᶠ depth in atTop, Work.step (perform depth) w d = (outcome, d')) :
    d.Does w outcome d' := by
  obtain ⟨depth, done⟩ := step.exists
  exact ⟨finished, depth + 1, done⟩

/-- A call ends as the answer to it does. -/
theorem Does.of_answer {c : Call} {outcome : Outcome Reply} (finished : outcome ≠ .unfinished)
    (answer : ∀ᶠ depth in atTop, Work.answer (perform depth) d c = (outcome, d')) :
    d.Does (.call c) outcome d' :=
  .of_step finished answer

/-! ## Calls -/

/-- A script without calls returns. -/
theorem does_script_nil (d : Desk) : d.Does (.script []) (.returned ()) d :=
  .of_step (by simp) (.of_forall fun _ => rfl)

/-- A script goes on after a call that returned. -/
theorem Does.script_cons {c : Call} {rest : List Call} {reply : Reply} {outcome : Outcome Unit}
    (first : d.Does (.call c) (.returned reply) d₁)
    (others : (d₁.note (.answered c reply)).Does (.script rest) outcome d') :
    d.Does (.script (c :: rest)) outcome d' := by
  refine .of_step others.1 ?_
  filter_upwards [first.eventually, others.eventually] with depth done onward
  rw [Work.step_script_cons, done]
  exact onward

/-- A script fails with its first call. -/
theorem Does.script_failed {c : Call} {rest : List Call} {failure : Failure}
    (first : d.Does (.call c) (.failed failure) d') :
    d.Does (.script (c :: rest)) (.failed failure) d' := by
  refine .of_step (by simp) ?_
  filter_upwards [first.eventually] with depth done
  rw [Work.step_script_cons, done]
  rfl

/-- Calls that are made under a shield end without a failure. -/
theorem Does.shielded {body : List Call} {outcome : Outcome Unit}
    (inner : d.Does (.script body) outcome d') :
    d.Does (.call (.shielded body)) (.returned .nothing) d' := by
  refine .of_answer (by simp) ?_
  filter_upwards [inner.eventually] with depth done
  rw [Work.answer_shielded, done]
  obtain ⟨finished, -⟩ := inner
  cases outcome with
  | returned => rfl
  | failed => rfl
  | unfinished => exact absurd rfl finished

/-! ## Reports -/

/-- Handing a report out ends where there are no more observers. -/
theorem does_deliver_stop {i run place : Nat} {report : Report}
    (none : d.listener? i place = none) : d.Does (.deliver i run report place) (.returned ()) d := by
  refine .of_step (by simp) (.of_forall fun depth => ?_)
  rw [Work.step_deliver, none]

/-- Whatever an observer does about a report, the next one is told. -/
theorem Does.deliver {i run place observer : Nat} {report : Report} {answer : Outcome Unit}
    (listens : d.listener? i place = some observer)
    (told : (d.tell i run observer report).2.Does (.script (d.tell i run observer report).1)
      answer d₁)
    (others : d₁.Does (.deliver i run report (place + 1)) (.returned ()) d') :
    d.Does (.deliver i run report place) (.returned ()) d' := by
  refine .of_step (by simp) ?_
  filter_upwards [told.eventually, others.eventually] with depth done onward
  rw [Work.step_deliver, listens]
  simp only [done]
  obtain ⟨finished, -⟩ := told
  cases answer with
  | returned => exact onward
  | failed => exact onward
  | unfinished => exact absurd rfl finished

/-! ## Tasks -/

/-- A task that sets off calls ends as they do. -/
theorem Starts.of_script {task : Task Action} {calls : List Call} {outcome : Outcome Unit}
    (begun : d.begin task = (.script calls, d₁)) (does : d₁.Does (.script calls) outcome d') :
    d.Starts task outcome d' := by
  obtain ⟨finished, depth, done⟩ := does
  refine ⟨finished, depth, ?_⟩
  rw [Work.start, begun]
  exact done

/-- A task that sets off a report ends as its delivery does. -/
theorem Starts.of_deliver {task : Task Action} {i run : Nat} {report : Report}
    {outcome : Outcome Unit} (begun : d.begin task = (.deliver i run report, d₁))
    (does : d₁.Does (.deliver i run report 0) outcome d') : d.Starts task outcome d' := by
  obtain ⟨finished, depth, done⟩ := does
  refine ⟨finished, depth, ?_⟩
  rw [Work.start, begun]
  exact done

/-! ## Drives -/

/-- A loop that takes tasks while the next one is due ends when there is none or when a task that it
takes fails. -/
theorem Takes.eventually {limit : Option Float} {tasks : List (Task Action)}
    {outcome : Outcome Unit} (takes : d.Takes limit tasks outcome d')
    (loop : Nat → Nat → Desk → Outcome Nat × Desk)
    (goesOn : ∀ depth ran d, loop (depth + 1) ran d =
      match d.takeDue? (limit.getD d.agenda.now) with
      | none => (.returned ran, limit.elim d d.moveTo)
      | some (task, rest) =>
        Work.proceed (Work.start (perform depth) (rest.moveTo task.due) task) fun _ d =>
          loop depth (ran + 1) d)
    (ran : Nat) :
    ∀ᶠ depth in atTop, loop depth ran d = (outcome.map fun _ => ran + tasks.length, d') := by
  have later {p : Nat → Prop} (step : ∀ᶠ depth in atTop, p (depth + 1)) :
      ∀ᶠ depth in atTop, p depth :=
    (map_add_atTop_eq_nat 1).symm ▸ eventually_map.mpr step
  induction takes generalizing ran with
  | stop undue =>
    refine later (.of_forall fun depth => ?_)
    rw [goesOn, undue]
    rfl
  | @next d task rest d₁ tasks outcome d' taken started _ ih =>
    refine later ?_
    filter_upwards [started.eventually, ih (ran + 1)] with depth done onward
    rw [goesOn, taken]
    simp only [done]
    rw [Work.proceed, onward, List.length_cons, Nat.add_right_comm, Nat.add_assoc]
  | fail taken started =>
    refine later ?_
    filter_upwards [started.eventually] with depth done
    rw [goesOn, taken]
    simp only [done]
    rfl

/-- Tasks that were taken have come to an end. -/
theorem Takes.finished {limit : Option Float} {tasks : List (Task Action)} {outcome : Outcome Unit}
    (takes : d.Takes limit tasks outcome d') : outcome ≠ .unfinished := by
  induction takes <;> simp_all

/-- A drive of what is due ends as the tasks that it takes. -/
theorem Takes.drainDue {tasks : List (Task Action)} {outcome : Outcome Unit}
    (takes : d.Takes none tasks outcome d') (ran : Nat) :
    d.Does (.drainDue ran) (outcome.map fun _ => ran + tasks.length) d' := by
  refine ⟨Outcome.map_ne_unfinished takes.finished,
    (takes.eventually (fun depth ran d => perform depth (.drainDue ran) d) ?_ ran).exists⟩
  intro depth ran d
  rw [perform, Work.step_drainDue]
  cases taken : d.takeDue? d.agenda.now with
  | none => simp [taken]
  | some result =>
    simp only [Option.getD_none, taken]
    rw [Work.moveTo_of_due taken]

/-- A drive up to a time ends as the tasks that it takes. -/
theorem Takes.drainUntil {reading : Float} {tasks : List (Task Action)} {outcome : Outcome Unit}
    (takes : d.Takes (some reading) tasks outcome d') (ran : Nat) :
    d.Does (.drainUntil reading ran) (outcome.map fun _ => ran + tasks.length) d' := by
  refine ⟨Outcome.map_ne_unfinished takes.finished,
    (takes.eventually (fun depth ran d => perform depth (.drainUntil reading ran) d) ?_ ran).exists⟩
  intro depth ran d
  rw [perform, Work.step_drainUntil]
  rfl

/-- A call for what is due is answered with the number of tasks. -/
theorem Takes.runDue {tasks : List (Task Action)} {outcome : Outcome Unit}
    (takes : d.Takes none tasks outcome d') :
    d.Does (.call .runDue) (outcome.map fun _ => .ran tasks.length) d' := by
  refine .of_answer (Outcome.map_ne_unfinished takes.finished) ?_
  filter_upwards [(takes.drainDue 0).eventually] with depth done
  rw [Work.answer, done, Nat.zero_add]
  cases outcome <;> rfl

/-- A call for an advance is answered with the number of tasks. -/
theorem Takes.advance (movable : d.agenda.clock.kind = .virtual) {seconds : Float}
    {tasks : List (Task Action)} {outcome : Outcome Unit}
    (takes : d.Takes (some (d.agenda.now + seconds)) tasks outcome d') :
    d.Does (.call (.advance seconds)) (outcome.map fun _ => .ran tasks.length) d' := by
  refine .of_answer (Outcome.map_ne_unfinished takes.finished) ?_
  filter_upwards [(takes.drainUntil 0).eventually] with depth done
  simp only [Work.answer, movable]
  rw [done, Nat.zero_add]
  cases outcome <;> rfl

/-! ## Waiting for tasks -/

/-- Nobody waits when there is no task. -/
theorem does_drainNext_idle (idle : d.agenda.pending = 0) : d.Does .drainNext (.returned 0) d := by
  refine .of_step (by simp) (.of_forall fun depth => ?_)
  rw [Work.step_drainNext, if_pos idle]

/-- Where nobody sleeps, the tasks are run at the time at which the next one is due. -/
theorem Does.drainNext {outcome : Outcome Nat} (busy : d.agenda.pending ≠ 0)
    (awake : d.agenda.sleepTime? = none) (onward : d.await.Does (.drainDue 0) outcome d') :
    d.Does .drainNext outcome d' := by
  refine .of_step onward.1 ?_
  filter_upwards [onward.eventually] with depth done
  rw [Work.step_drainNext, if_neg busy, awake]
  exact done

/-- After a sleep what is due is driven. -/
theorem Does.drainNext_after {seconds : Float} {outcome : Outcome Nat}
    (busy : d.agenda.pending ≠ 0) (early : d.agenda.sleepTime? = some seconds)
    (slept : (d.sleep seconds).2.Does (.script (d.sleep seconds).1) (.returned ()) d₁)
    (onward : d₁.Does (.drainDue 0) outcome d') : d.Does .drainNext outcome d' := by
  refine .of_step onward.1 ?_
  filter_upwards [slept.eventually, onward.eventually] with depth done done'
  rw [Work.step_drainNext, if_neg busy, early]
  simp only [done]
  exact done'

/-- A drive of all tasks ends when there are none. -/
theorem does_drainAll_idle (idle : d.agenda.pending = 0) (ran : Nat) :
    d.Does (.drainAll ran) (.returned ran) d := by
  refine .of_step (by simp) (.of_forall fun depth => ?_)
  rw [Work.step_drainAll, if_pos idle]

/-- A drive of all tasks waits for the next one and goes on. -/
theorem Does.drainAll {ran count : Nat} {outcome : Outcome Nat} (busy : d.agenda.pending ≠ 0)
    (first : d.Does .drainNext (.returned count) d₁)
    (others : d₁.Does (.drainAll (ran + count)) outcome d') :
    d.Does (.drainAll ran) outcome d' := by
  refine .of_step others.1 ?_
  filter_upwards [first.eventually, others.eventually] with depth done onward
  rw [Work.step_drainAll, if_neg busy, done]
  exact onward

/-- A drive of all tasks fails with a wait. -/
theorem Does.drainAll_failed {ran : Nat} {failure : Failure} (busy : d.agenda.pending ≠ 0)
    (first : d.Does .drainNext (.failed failure) d') :
    d.Does (.drainAll ran) (.failed failure) d' := by
  refine .of_step (by simp) ?_
  filter_upwards [first.eventually] with depth done
  rw [Work.step_drainAll, if_neg busy, done]
  rfl

/-- The call for the next task ends as the wait for it. -/
theorem Does.runNext {outcome : Outcome Nat} (inner : d.Does .drainNext outcome d') :
    d.Does (.call .runNext) (outcome.map .ran) d' := by
  refine .of_answer (Outcome.map_ne_unfinished inner.1) ?_
  filter_upwards [inner.eventually] with depth done
  rw [Work.answer, done]
  rfl

/-- The call for all tasks ends as the drive of them. -/
theorem Does.runUntilIdle {outcome : Outcome Nat} (inner : d.Does (.drainAll 0) outcome d') :
    d.Does (.call .runUntilIdle) (outcome.map .ran) d' := by
  refine .of_answer (Outcome.map_ne_unfinished inner.1) ?_
  filter_upwards [inner.eventually] with depth done
  rw [Work.answer, done]
  rfl

/-! ## Histories -/

/-- A history of which every call comes to an end. -/
inductive Lives : Desk → List Call → Desk → Prop where
  | nil {d : Desk} : Lives d [] d
  | cons {d : Desk} {c rest outcome d₁ d'} (does : d.Does (.call c) outcome d₁)
      (onward : Lives (Work.settle c (outcome, d₁)) rest d') : Lives d (c :: rest) d'

/-- Under a bound that is great enough a history that comes to an end is the history. -/
theorem Lives.eventually {calls : List Call} (lives : d.Lives calls d') :
    ∀ᶠ depth in atTop, history depth calls d = d' := by
  induction lives with
  | nil => exact .of_forall fun _ => rfl
  | @cons d c rest outcome d₁ d' does _ ih =>
    filter_upwards [does.eventually, ih] with depth done onward
    rw [history, done]
    obtain ⟨finished, -⟩ := does
    cases outcome with
    | returned => exact onward
    | failed => exact onward
    | unfinished => exact absurd rfl finished

end Desk

end DryRun
