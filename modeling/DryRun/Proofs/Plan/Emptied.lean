import DryRun.Proofs.Plan.Sound

/-!
# Running until no task waits

A host puts down plans at a desk with a virtual clock, with any delays that are accepted, and drives
the desk now and then. Whether a drive until no task waits comes to an end is a matter of the delays
alone: it does exactly if none of them is NaN, however deep inside of a plan
(`Desk.runUntilIdle_ends_iff`). If it ends, every task that was to come has begun once.

That it ends if the rounds of the agenda do goes by the rounds (`Desk.exists_runUntilIdle`). The
converse goes by the depth to which work is nested (`Desk.empties_of_drainAll`): a drive that does
not come to an end is left unfinished at every depth.
-/

set_option autoImplicit false

namespace DryRun

open Reading

/-- A call that a host makes: one for a plan or one for a drive. -/
inductive Call.Hosts (allowed : Float → Prop) : Call → Prop where
  | plan {c : Call} (plans : c.Plans allowed) : Hosts allowed c
  | drive {c : Call} (drives : c.IsDrive) : Hosts allowed c

namespace Desk

variable {d d' d₁ : Desk} {a a' : Agenda Action} {begun : List Beginning} {outcome : Outcome Unit}
  {calls : List Call} {head : Task Action}

/-- A desk with a virtual clock does a round as its agenda does. -/
theorem exists_round_of_virtual (movable : d.agenda.clock.kind = .virtual)
    (plans : d.agenda.Plans IsNonneg) (busy : d.agenda.pending ≠ 0)
    (round : d.agenda.await.Takes none begun outcome a') :
    ∃ d', d.Does .drainNext (outcome.map fun _ => begun.length) d' ∧ d.Becomes begun a' d' := by
  have awaited : d.Becomes [] d.await.agenda d.await := becomes_silent rfl rfl
  obtain ⟨d', takes, becomes⟩ := exists_takes (d := d.await) round plans.await rfl
  have drained := takes.drainDue 0
  rw [List.length_map, Nat.zero_add] at drained
  exact ⟨d', .drainNext busy (Agenda.sleepTime?_of_virtual movable) drained,
    awaited.trans becomes⟩

/-- A drive that waits for the next task begins as many as it says, and none exactly if the first
one is due at NaN. -/
theorem exists_runNext (laden : d.agenda.Laden) (first : d.agenda.first? = some head) :
    ∃ begun a' d', d.agenda.await.Takes none begun (.returned ()) a' ∧
      d.Does .drainNext (.returned begun.length) d' ∧ d.Becomes begun a' d' ∧
      (begun.length ≠ 0 ↔ head.due.isNaN = false) := by
  have busy : d.agenda.pending ≠ 0 :=
    Nat.ne_of_gt (Array.getElem?_eq_some_iff.mp first).1
  obtain ⟨begun, outcome, a', round⟩ := Agenda.exists_takes none d.agenda.await
  obtain rfl := (round.plans laden.plans.await).2 fun _ nonneg => nonneg
  obtain ⟨d', does, becomes⟩ := exists_round_of_virtual laden.movable laden.plans busy round
  refine ⟨begun, a', d', round, does, becomes, ?_⟩
  rw [← laden.round_iff first round, ne_eq, List.length_eq_zero_iff]

/-- A desk does rounds of plans as its agenda does. -/
theorem exists_runUntilIdle (laden : d.agenda.Laden)
    (empties : d.agenda.Empties begun (.returned ()) a') :
    ∃ d', d.Does (.call .runUntilIdle) (.returned (.ran begun.length)) d' ∧
      d.Becomes begun a' d' := by
  have own {a : Agenda Action} (laden : a.Laden) : a.onClock .virtual = a :=
    Agenda.onClock_self laden.movable
  have rounds {a a' : Agenda Action} {begun : List Beginning} {outcome : Outcome Unit} {d : Desk}
      (laden : a.Laden) (busy : a.pending ≠ 0) (round : a.await.Takes none begun outcome a')
      (same : d.agenda = a.onClock .virtual) :
      ∃ d', d.Does .drainNext (outcome.map fun _ => begun.length) d' ∧
        d.Becomes begun (a'.onClock .virtual) d' := by
    rw [own laden] at same
    rw [own (laden.round round).laden]
    subst same
    exact exists_round_of_virtual laden.movable laden.plans busy round
  obtain ⟨d', does, becomes⟩ := exists_drainAll (p := Agenda.Laden)
    (fun laden busy round same _ => rounds laden busy round same)
    (fun laden round => (laden.round round).laden) empties laden (own laden).symm
    (fun real => absurd rfl real) 0
  have returned := does.runUntilIdle
  rw [Outcome.map_map, Nat.zero_add] at returned
  rw [own (empties.spends laden).laden] at becomes
  exact ⟨d', returned, becomes⟩

/-- If a drive until no task waits comes to an end, so do the rounds of the agenda. -/
theorem empties_of_drainAll {depth ran : Nat} (laden : d.agenda.Laden)
    (finished : (perform depth (.drainAll ran) d).1 ≠ .unfinished) :
    ∃ begun a', d.agenda.Empties begun (.returned ()) a' := by
  induction depth generalizing d ran with
  | zero => exact absurd rfl finished
  | succ depth ih =>
    by_cases idle : d.agenda.pending = 0
    · exact ⟨[], d.agenda, .stop idle⟩
    obtain ⟨head, first⟩ : ∃ head, d.agenda.first? = some head :=
      ⟨_, Array.getElem?_eq_getElem (Nat.pos_of_ne_zero idle)⟩
    obtain ⟨begun, a₁, d₁, round, does, becomes, -⟩ := exists_runNext laden first
    rw [perform, Work.step_drainAll, if_neg idle] at finished
    cases done : perform depth .drainNext d with
    | mk ending d₂ =>
      rw [done] at finished
      by_cases ends : ending = .unfinished
      · subst ends
        exact absurd rfl finished
      · obtain ⟨rfl, rfl⟩ := Does.unique ⟨ends, depth, done⟩ does
        have left : d₂.agenda.Laden := becomes.agenda ▸ (laden.round round).laden
        obtain ⟨begun', a', others⟩ := ih left finished
        rw [becomes.agenda] at others
        exact ⟨_, a', .next idle round others⟩

/-- A drive until no task waits comes to an end exactly if the plans are sound. -/
theorem ends_iff_sound (laden : d.agenda.Laden) :
    (∃ outcome d', d.Does (.call .runUntilIdle) outcome d') ↔ d.agenda.Sound := by
  rw [← laden.empties_iff]
  constructor
  · rintro ⟨outcome, d', finished, depth, done⟩
    cases depth with
    | zero =>
      cases done
      exact absurd rfl finished
    | succ depth =>
      have drained : Work.reportCount (perform depth (.drainAll 0) d) = (outcome, d') := done
      have inner : (perform depth (.drainAll 0) d).1 ≠ .unfinished := by
        intro unfinished
        rw [Work.reportCount, unfinished] at drained
        exact finished (congrArg Prod.fst drained).symm
      exact empties_of_drainAll laden inner
  · rintro ⟨begun, a', empties⟩
    obtain ⟨d', does, -⟩ := exists_runUntilIdle laden empties
    exact ⟨_, d', does⟩

/-! ## Hosts -/

/-- A host puts down plans. -/
theorem hosts_schedule_iff {allowed : Float → Prop} {delay : Float} {name : Text}
    {body : List Call} :
    (Call.schedule delay name body).Hosts allowed ↔
      (Call.schedule delay name body).Plans allowed := by
  constructor
  · rintro (plans | ⟨⟨⟩⟩)
    exact plans
  · exact .plan

/-- What the tasks that have begun at a desk were there for, the earliest first. -/
def purposes (d : Desk) : List Purpose :=
  (DryRun.beginnings d.journal.reverse).map fun b => b.1.purpose

/-- What a host has made of plans by some calls: plans are left that are sound if there were sound
ones and no call has carried NaN, and the tasks that came of the calls have begun or are still to
come, as those before them. -/
structure Hosted (d : Desk) (calls : List Call) (d' : Desk) : Prop where
  laden : d'.agenda.Laden
  sound : d'.agenda.Sound ↔ d.agenda.Sound ∧ ∀ c ∈ calls, c.Hosts IsDelay
  planned : (d'.purposes ++ d'.agenda.planned).Perm
    (Call.allPlanned calls ++ (d.purposes ++ d.agenda.planned))

/-- The tasks that come of two lists of calls. -/
theorem allPlanned_append (calls others : List Call) :
    Call.allPlanned (calls ++ others) = Call.allPlanned calls ++ Call.allPlanned others := by
  induction calls with
  | nil => rfl
  | cons c rest ih =>
    rw [List.cons_append, Call.allPlanned, ih, Call.allPlanned, List.append_assoc]

/-- What a host has made of plans in two stretches. -/
theorem Hosted.trans {others : List Call} (first : d.Hosted calls d₁)
    (second : d₁.Hosted others d') : d.Hosted (calls ++ others) d' := by
  refine ⟨second.laden, ?_, ?_⟩
  · rw [second.sound, first.sound, and_assoc, List.forall_mem_append]
  · rw [allPlanned_append, List.append_assoc]
    exact (second.planned.trans (first.planned.append_left _)).trans
      (List.perm_append_comm_assoc ..)

/-- The tasks that have begun were there for what they were put down for. -/
theorem Becomes.purposes (becomes : d.Becomes begun a d') :
    d'.purposes = d.purposes ++ begun.map fun b => b.1.purpose := by
  obtain ⟨recent, entries, begins, -⟩ := becomes.journal
  rw [Desk.purposes, entries, List.reverse_append, DryRun.beginnings, List.filterMap_append,
    List.map_append, ← begins]
  rfl

/-- A drive of plans. -/
theorem Becomes.hosted {c : Call} (becomes : d.Becomes begun a d')
    (spends : d.agenda.Spends begun a) (drives : c.IsDrive) : d.Hosted [c] d' := by
  obtain rfl := becomes.agenda
  have nothing : Call.allPlanned [c] = [] := by
    cases c with
    | schedule => exact drives.elim
    | _ => rfl
  refine ⟨spends.laden, ?_, ?_⟩
  · rw [spends.sound, List.forall_mem_singleton, and_iff_left (.drive drives)]
  · rw [becomes.purposes, nothing, List.nil_append, List.append_assoc]
    exact spends.planned.symm.append_left _

/-- A drive leaves what is still to come. -/
theorem Does.driven {c : Call} {outcome : Outcome Reply} (does : d.Does (.call c) outcome d')
    (laden : d.agenda.Laden) (drives : c.IsDrive) : d.Hosted [c] d' := by
  have takes (limit : Option Float) :
      ∃ tasks ending d₁, d.Takes limit tasks ending d₁ ∧ d.Hosted [c] d₁ := by
    obtain ⟨begun, ending, a', taken⟩ := Agenda.exists_takes limit d.agenda
    obtain ⟨d₁, takes, becomes⟩ := exists_takes taken laden.plans rfl
    exact ⟨_, ending, d₁, takes, becomes.hosted (taken.spends laden) drives⟩
  cases c with
  | advance seconds =>
    obtain ⟨tasks, ending, d₁, takes, hosted⟩ := takes (some (d.agenda.now + seconds))
    obtain ⟨-, rfl⟩ := does.unique (takes.advance laden.movable)
    exact hosted
  | runDue =>
    obtain ⟨tasks, ending, d₁, takes, hosted⟩ := takes none
    obtain ⟨-, rfl⟩ := does.unique takes.runDue
    exact hosted
  | runNext =>
    by_cases idle : d.agenda.pending = 0
    · obtain ⟨-, rfl⟩ := does.unique (does_drainNext_idle idle).runNext
      exact (becomes_silent rfl rfl).hosted laden.stay drives
    · obtain ⟨begun, a₁, d₁, round, done, becomes, -⟩ :=
        exists_runNext laden (Array.getElem?_eq_getElem (Nat.pos_of_ne_zero idle))
      obtain ⟨-, rfl⟩ := does.unique done.runNext
      exact becomes.hosted (laden.round round) drives
  | runUntilIdle =>
    have sound := (ends_iff_sound laden).mp ⟨outcome, d', does⟩
    obtain ⟨begun, a', empties⟩ := laden.empties_iff.mpr sound
    obtain ⟨d₁, done, becomes⟩ := exists_runUntilIdle laden empties
    obtain ⟨-, rfl⟩ := does.unique done
    exact becomes.hosted (empties.spends laden) drives
  | _ => exact drives.elim

/-- A call of a host leaves what is still to come. -/
theorem Does.hosted {c : Call} {outcome : Outcome Reply} (does : d.Does (.call c) outcome d')
    (laden : d.agenda.Laden) (host : c.Hosts IsNonneg) : d.Hosted [c] d' := by
  cases host with
  | plan plans =>
    cases plans with
    | @schedule delay name body nonneg inner =>
      obtain ⟨-, rfl⟩ := does.unique (does_schedule d nonneg name body)
      refine ⟨⟨laden.movable, laden.time, fun task member => ?_⟩, ?_, ?_⟩
      · rcases Agenda.mem_put.mp member with rfl | old
        · exact ⟨body, rfl, inner⟩
        · exact laden.plans task old
      · rw [List.forall_mem_singleton, hosts_schedule_iff]
        exact Agenda.sound_put_iff laden.time nonneg name body
      · have planned := d.agenda.planned_put delay name (.script body)
        rw [Call.allPlanned, Call.allPlanned, List.append_nil]
        exact (planned.append_left _).trans (List.perm_append_comm_assoc ..)
  | drive drives => exact does.driven laden drives

/-- The answer to a call is no beginning of a task. -/
theorem Hosted.settle (hosted : d.Hosted calls d') (c : Call) (outcome : Outcome Reply) :
    d.Hosted calls (Work.settle c (outcome, d')) := by
  cases outcome with
  | returned reply =>
    have same : (d'.note (.answered c reply)).purposes = d'.purposes := by
      rw [Desk.purposes, note_journal, List.reverse_cons, DryRun.beginnings, List.filterMap_append,
        List.map_append]
      exact List.append_nil _
    refine ⟨hosted.laden, hosted.sound, ?_⟩
    rw [Work.settle, same]
    exact hosted.planned
  | failed => exact hosted
  | unfinished => exact hosted

/-- A history of a host leaves what is still to come. -/
theorem Lives.hosted (lives : d.Lives calls d') (laden : d.agenda.Laden)
    (host : ∀ c ∈ calls, c.Hosts IsNonneg) : d.Hosted calls d' := by
  induction lives with
  | nil => exact ⟨laden, by simp, .rfl⟩
  | @cons d c rest outcome d₁ d' does _ ih =>
    obtain ⟨first, others⟩ := List.forall_mem_cons.mp host
    have answered := (does.hosted laden first).settle c outcome
    exact answered.trans (ih answered.laden others)

/-- Plans are put down whatever the delays, if they are accepted. -/
theorem exists_lives (plans : ∀ c ∈ calls, c.Plans IsNonneg) (d : Desk) :
    ∃ d', d.Lives calls d' ∧ d'.agenda = (d.agenda.carry calls).2 := by
  induction calls generalizing d with
  | nil => exact ⟨d, .nil, rfl⟩
  | cons c others ih =>
    obtain ⟨first, rest⟩ := List.forall_mem_cons.mp plans
    cases first with
    | @schedule delay name body nonneg =>
      obtain ⟨d', lives, agenda⟩ := ih rest (Work.settle (.schedule delay name body)
        (.returned (.task (d.agenda.now + delay) d.agenda.issued name),
          (d.put delay name (.script body)).2))
      refine ⟨d', .cons (does_schedule d nonneg name body) lives, ?_⟩
      rw [agenda, Agenda.carry, if_neg nonneg]
      rfl

/-- Two histories are one. -/
theorem Lives.append {others : List Call} (lives : d.Lives calls d₁)
    (onward : d₁.Lives others d') : d.Lives (calls ++ others) d' := by
  induction lives with
  | nil => exact onward
  | cons does _ ih => exact .cons does (ih onward)

/-- There are no tasks at a fresh desk. -/
theorem laden_fresh {start : Float} (time : IsTime start) (sink : Option Conduct)
    (observers : List Conduct) (sleeper : Sleeper) :
    (fresh ⟨.virtual, start⟩ sink observers sleeper).agenda.Laden := by
  refine ⟨rfl, time, ?_⟩
  rintro task ⟨⟨⟩⟩

/-- A host puts down plans with any delays that are accepted, at a virtual clock that shows a time
at first, and drives the desk now and then. A drive until no task waits comes to an end exactly if
no delay is NaN, whether the host puts down the task or another task does. If so, it returns the
number of tasks that have begun, none is left, and each task that came of the calls has begun once.
A drive that waits for the next task comes to an end in any case. It begins a task exactly if the
first one is due at a number. -/
theorem runUntilIdle_ends_iff {start : Float} {sink : Option Conduct} {observers : List Conduct}
    {sleeper : Sleeper} (time : IsTime start) (host : ∀ c ∈ calls, c.Hosts IsNonneg)
    (lives : (fresh ⟨.virtual, start⟩ sink observers sleeper).Lives calls d) :
    ((∃ outcome d', d.Does (.call .runUntilIdle) outcome d') ↔ ∀ c ∈ calls, c.Hosts IsDelay) ∧
      ((∀ c ∈ calls, c.Hosts IsDelay) → ∃ count d',
        d.Does (.call .runUntilIdle) (.returned (.ran count)) d' ∧
          (beginnings (d'.eventsSince d.journal.length)).length = count ∧
          d'.agenda.pending = 0 ∧ d'.purposes.Perm (Call.allPlanned calls)) ∧
      ∀ head, d.agenda.first? = some head → ∃ count d',
        d.Does (.call .runNext) (.returned (.ran count)) d' ∧
          (beginnings (d'.eventsSince d.journal.length)).length = count ∧
          (count ≠ 0 ↔ head.due.isNaN = false) := by
  have none : (fresh ⟨.virtual, start⟩ sink observers sleeper).agenda.Sound :=
    Agenda.sound_of_idle rfl
  have hosted := lives.hosted (laden_fresh time sink observers sleeper) host
  have sound := hosted.sound
  rw [and_iff_right none] at sound
  refine ⟨(ends_iff_sound hosted.laden).trans sound, fun numbers => ?_, fun head first => ?_⟩
  · obtain ⟨begun, a', empties⟩ := hosted.laden.empties_iff.mpr (sound.mpr numbers)
    obtain ⟨d', does, becomes⟩ := exists_runUntilIdle hosted.laden empties
    have idle : d'.agenda.pending = 0 := becomes.agenda ▸ empties.emptied rfl
    have whole := hosted.trans
      (becomes.hosted (c := .runUntilIdle) (empties.spends hosted.laden) trivial)
    refine ⟨begun.length, d', does, ?_, idle, ?_⟩
    · rw [becomes.beginnings.1]
    · have planned := whole.planned
      rw [Agenda.planned_of_idle idle, List.append_nil, allPlanned_append] at planned
      simpa [Call.allPlanned, Call.planned, purposes, fresh, Agenda.planned, DryRun.beginnings]
        using planned
  · obtain ⟨begun, a', d', -, does, becomes, some⟩ := exists_runNext hosted.laden first
    refine ⟨begun.length, d', does.runNext, ?_, some⟩
    rw [becomes.beginnings.1]

/-- A task that is due when all time has passed and puts down another one then, and two tasks that
are put down one after the other. -/
def endlessPlan : List Call :=
  [.schedule (1 / 0) "late".toList [.schedule 0 "later".toList []],
    .schedule 1 "soon".toList [.schedule 0.5 "sooner".toList []]]

/-- A drive of tasks one of which is due at infinity comes to an end. -/
theorem runUntilIdle_ends_iff_endless :
    ∃ d count d', (fresh ⟨.virtual, 0⟩ none []).Lives (endlessPlan ++ [.runNext]) d ∧
      d.Does (.call .runUntilIdle) (.returned (.ran count)) d' ∧ d'.agenda.pending = 0 ∧
      d'.purposes.length = 4 := by
  have leaf {delay : Float} (delays : IsDelay delay) (name : Text) :
      ∀ c ∈ [Call.schedule delay name []], c.Plans IsDelay := by
    simpa using Call.Plans.schedule delays (by simp)
  have plans : ∀ c ∈ endlessPlan, c.Plans IsDelay := by
    simp only [endlessPlan, List.forall_mem_cons]
    exact ⟨.schedule ⟨by decide, by decide⟩ (leaf ⟨by decide, by decide⟩ _),
      .schedule ⟨by decide, by decide⟩ (leaf ⟨by decide, by decide⟩ _), by simp⟩
  have accepted : ∀ c ∈ endlessPlan, c.Plans IsNonneg :=
    fun c member => (plans c member).mono fun _ delays => delays.2
  have time : IsTime (Clock.mk .virtual 0).reading := ⟨rfl, WithBot.coe_ne_bot⟩
  obtain ⟨d₁, lives, agenda⟩ := exists_lives accepted (fresh ⟨.virtual, 0⟩ none [])
  have hosted := lives.hosted (laden_fresh time none [] Sleeper.exact)
    fun c member => .plan (accepted c member)
  have waiting : d₁.agenda.first?.isSome = true := by
    rw [agenda]
    decide +kernel
  obtain ⟨head, first⟩ := Option.isSome_iff_exists.mp waiting
  obtain ⟨begun, -, d₂, -, does, -, -⟩ := exists_runNext hosted.laden first
  have whole := lives.append (.cons does.runNext .nil)
  have numbers : ∀ c ∈ endlessPlan ++ [.runNext], c.Hosts IsDelay :=
    List.forall_mem_append.mpr ⟨fun c member => .plan (plans c member),
      List.forall_mem_singleton.mpr (.drive trivial)⟩
  have host : ∀ c ∈ endlessPlan ++ [.runNext], c.Hosts IsNonneg :=
    List.forall_mem_append.mpr ⟨fun c member => .plan (accepted c member),
      List.forall_mem_singleton.mpr (.drive trivial)⟩
  obtain ⟨count, d', ends, -, idle, planned⟩ := (runUntilIdle_ends_iff time host whole).2.1 numbers
  exact ⟨_, count, d', whole, ends, idle, planned.length_eq⟩

/-- A task with NaN for a delay, and one that would be due at 1. -/
def stuckPlan : List Call := [.schedule (0 / 0) "bad".toList [], .schedule 1 "good".toList []]

/-- The first task is never due, and the other one waits behind it. -/
theorem runUntilIdle_stuck :
    ∃ d, (∀ c ∈ stuckPlan, c.Hosts IsNonneg) ∧ (fresh ⟨.virtual, 0⟩ none []).Lives stuckPlan d ∧
      d.agenda.pending = 2 ∧ (¬ ∃ outcome d', d.Does (.call .runUntilIdle) outcome d') ∧
      ∃ d', d.Does (.call .runNext) (.returned (.ran 0)) d' := by
  have plans : ∀ c ∈ stuckPlan, c.Plans IsNonneg := by
    simp only [stuckPlan, List.forall_mem_cons]
    exact ⟨.schedule (by decide) (by simp), .schedule (by decide) (by simp), by simp⟩
  have host : ∀ c ∈ stuckPlan, c.Hosts IsNonneg := fun c member => .plan (plans c member)
  obtain ⟨d, lives, agenda⟩ := exists_lives plans (fresh ⟨.virtual, 0⟩ none [])
  have time : IsTime (Clock.mk .virtual 0).reading := ⟨rfl, WithBot.coe_ne_bot⟩
  obtain ⟨laden, sound, -⟩ := lives.hosted (laden_fresh time none [] Sleeper.exact) host
  have waiting : d.agenda.pending = 2 ∧
      d.agenda.first?.map (fun task => task.due.isNaN) = some true := by
    rw [agenda]
    decide +kernel
  refine ⟨d, host, lives, waiting.1, ?_, ?_⟩
  · rw [ends_iff_sound laden, sound]
    rintro ⟨-, numbers⟩
    have number := hosts_schedule_iff.mp (numbers _ List.mem_cons_self)
    cases number with
    | schedule delays => exact absurd delays.1 (by decide)
  · obtain ⟨head, first, due⟩ := Option.map_eq_some_iff.mp waiting.2
    obtain ⟨begun, -, d', -, does, -, some⟩ := exists_runNext laden first
    have none : begun.length = 0 := by
      by_contra more
      rw [some.mp more] at due
      cases due
    have returned := does.runNext
    rw [none] at returned
    exact ⟨d', returned⟩

end Desk

end DryRun
