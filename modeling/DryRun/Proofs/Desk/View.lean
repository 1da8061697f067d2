import DryRun.Proofs.Agenda.Line
import DryRun.Proofs.Desk.Audience
import DryRun.Proofs.Desk.Idle
import DryRun.Proofs.Language.Catalogue

/-!
# An attempt by itself

A `View` is what there is to an attempt when nobody else is at the desk: the clock, the attempt, its
own tasks in the order in which they will be taken, and what has been delivered on its behalf. A
view goes on by itself: tasks of the attempt begin (`View.begin`) and drives take them
(`View.drive`). Other attempts have no part in that.

`Desk.Shows` relates a desk to a view of one of its attempts, whatever else goes on there, and this
file shows that each operation of the desk does to the view what it does to the attempt, or nothing.
It needs a desk that is calm (`Desk.Calm`): outside code asks for nothing, and there are no tasks
but those of the attempts.
-/

set_option autoImplicit false

namespace DryRun

open Reading

/-- The attempt that a task is about, unless it is a script. -/
def Action.attempt? : Action → Option Nat
  | .script _ => none
  | .compile i | .complete i _ => some i

def Action.isAnnouncement : Action → Bool
  | .complete .. => true
  | .script _ | .compile _ => false

/-- Whether a task is about an attempt. -/
def Task.concerns (n : Nat) (task : Task Action) : Bool := task.action.attempt? == some n

/-- When a task is due and whether it is an announcement; there is nothing else to a task of an
attempt. -/
def Task.mark (task : Task Action) : Float × Bool := (task.due, task.action.isAnnouncement)

/-- How many tasks will begin because of one. -/
def markWeight (mark : Float × Bool) : Nat := if mark.2 then 1 else 2

/-- The attempt with its observers numbered by their places. -/
def Attempt.byPlace (a : Attempt) : Attempt :=
  { a with observers := List.range a.observers.length }

/-- The completion comes some time after the run. -/
theorem completionDelay_span : IsSpan Settings.completionDelay := ⟨by decide, by decide⟩

/-! ## Views -/

/-- What there is to an attempt when nobody else is at the desk. -/
structure View where
  clock : Clock
  /-- How many attempts have been opened. -/
  opened : Nat
  /-- How many observers every attempt has from the start. -/
  shared : Nat
  /-- Whether there is a completion sink. -/
  held : Bool
  /-- The attempt, with its observers by place, once it has been opened. -/
  attempt : Option Attempt
  /-- The tasks of the attempt, the one first that will be taken first. -/
  line : List (Float × Bool)
  /-- What has been delivered on behalf of the attempt, the latest first. -/
  deliveries : List Delivery

namespace View

noncomputable def put (v : View) (delay : Float) (announcement : Bool) : View :=
  { v with line := enqueue Prod.fst (v.clock.reading + delay, announcement) v.line }

def tell (v : View) (told : List Delivery) : View := { v with deliveries := told ++ v.deliveries }

/-- What the observers of an attempt are told, the last one first. -/
def reports (a : Attempt) (reading : Float) : List Delivery :=
  (a.observers.map fun place => .report place a.report reading).reverse

/-- The run of the attempt takes place and, if it is accepted, will be announced. -/
noncomputable def promise (v : View) (a : Attempt) : View :=
  if a.outcome.verdict = .success ∧ v.held then v.put Settings.completionDelay true else v

/-- The view after the beginning of a task of the attempt. -/
noncomputable def begin (v : View) (announcement : Bool) : View :=
  match v.attempt, announcement with
  | none, _ => v
  | some a, false =>
    ({ v with attempt := some a.finish }.promise a).tell (reports a v.clock.reading)
  | some a, true =>
    if v.held then v.tell [.completion a.exercise v.clock.reading] else v

section

variable {v : View} {a : Attempt}

/-- Where there is no attempt no task of it begins. -/
theorem begin_of_none (none : v.attempt = none) (announcement : Bool) :
    v.begin announcement = v := by
  simp only [begin, none]

/-- The task of a run finishes it, tells the observers and puts down the completion if it passed. -/
theorem begin_run (known : v.attempt = some a) :
    v.begin false =
      ({ v with attempt := some a.finish }.promise a).tell (reports a v.clock.reading) := by
  simp only [begin, known]

/-- The task of a completion tells the sink, if there is one. -/
theorem begin_announcement (known : v.attempt = some a) :
    v.begin true = if v.held then v.tell [.completion a.exercise v.clock.reading] else v := by
  simp only [begin, known]

/-- Beginning a task does not turn the clock. -/
theorem begin_clock (v : View) (announcement : Bool) : (v.begin announcement).clock = v.clock := by
  unfold begin
  split
  · rfl
  · show (promise _ _).clock = _
    unfold promise
    split <;> rfl
  · split <;> rfl

end

def weight (v : View) : Nat := (v.line.map markWeight).sum

/-- A completion that is put down is one more task to begin. -/
theorem weight_put (v : View) (delay : Float) :
    (v.put delay true).weight = v.weight + 1 := by
  have line := enqueue_perm Prod.fst (v.clock.reading + delay, true) v.line
  have marks := (line.map markWeight).sum_eq
  rw [weight, put, marks, List.map_cons, List.sum_cons, Nat.add_comm]
  rfl

/-- A task that begins leaves less to do than there was with it. -/
theorem weight_begin (v : View) (announcement : Bool) :
    (v.begin announcement).weight < v.weight + markWeight (0, announcement) := by
  unfold begin
  split
  · refine Nat.lt_add_of_pos_right ?_
    unfold markWeight
    split <;> decide
  · show (promise _ _).weight < _
    unfold promise
    split
    · rw [weight_put]
      exact Nat.lt_succ_self _
    · exact Nat.lt_add_of_pos_right (by simp [markWeight])
  · split <;> exact Nat.lt_succ_self _

/-- The view after a drive until a reading. -/
noncomputable def drive (target : Float) (v : View) : View :=
  match _waiting : v.line with
  | [] => { v with clock := v.clock.moveTo target }
  | (due, announcement) :: behind =>
    if due ≤ target then
      drive target ({ v with clock := v.clock.moveTo due, line := behind }.begin announcement)
    else { v with clock := v.clock.moveTo target }
  termination_by v.weight
  decreasing_by
    refine (weight_begin _ announcement).trans_eq ?_
    rw [weight, weight, _waiting, List.map_cons, List.sum_cons, Nat.add_comm]
    rfl

/-- A drive with nothing due turns the clock only. -/
theorem drive_of_undue {v : View} {target : Float} (undue : ∀ mark ∈ v.line, ¬ mark.1 ≤ target) :
    v.drive target = { v with clock := v.clock.moveTo target } := by
  rw [drive]
  split
  · rfl
  case h_2 waiting =>
    rw [waiting] at undue
    exact if_neg (undue _ List.mem_cons_self)

/-- A drive begins the first task that is due and goes on. -/
theorem drive_of_due {v : View} {target due : Float} {announcement : Bool}
    {behind : List (Float × Bool)} (waits : v.line = (due, announcement) :: behind)
    (early : due ≤ target) : v.drive target =
      ({ v with clock := v.clock.moveTo due, line := behind }.begin announcement).drive target := by
  rw [drive]
  split
  case h_1 none =>
    rw [none] at waits
    cases waits
  case h_2 waiting =>
    rw [waiting] at waits
    cases waits
    exact if_pos early

end View

/-! ## Calm desks -/

/-- A change of an attempt that has nothing to do with its language and its observers. -/
structure Attempt.Inner (change : Attempt → Attempt) : Prop where
  language : ∀ a, (change a).language = a.language
  observers : ∀ a, (change a).observers = a.observers
  byPlace : ∀ a : Attempt, change a.byPlace = (change a).byPlace

/-- Starting a run leaves the language and the observers alone. -/
theorem Attempt.inner_start : Attempt.Inner Attempt.start := by constructor <;> exact fun _ => rfl

/-- Finishing a run leaves the language and the observers alone. -/
theorem Attempt.inner_finish : Attempt.Inner Attempt.finish := by constructor <;> exact fun _ => rfl

/-- A request leaves the language and the observers alone. -/
theorem Request.inner_change {request : Request} {change : Attempt → Attempt}
    (changes : request.change? = some change) : Attempt.Inner change := by
  cases request <;> cases changes <;> constructor <;> exact fun _ => rfl

namespace Desk

variable {d d' : Desk} {n i : Nat} {v : View} {task : Task Action}

/-- A desk at which outside code asks for nothing and all tasks are those of attempts. -/
structure Calm (d : Desk) : Prop where
  regular : d.agenda.Regular
  tasks : ∀ task ∈ d.agenda.tasks, task.action.attempt?.isSome
  observers : ∀ o ∈ d.observers, o.conduct.Idle
  sink : ∀ o ∈ d.sink, o.conduct.Tame
  shared : d.Knows d.shared
  attempts : ∀ a ∈ d.attempts, a.language.IsListed ∧ d.Knows a.observers

/-- A desk shows a view of an attempt, apart from the clock. -/
structure Shows (d : Desk) (n : Nat) (v : View) : Prop where
  opened : d.attempts.size = v.opened
  shared : d.shared.length = v.shared
  held : d.sink.isSome = v.held
  attempt : d.attempts[n]?.map Attempt.byPlace = v.attempt
  line : ∃ line, d.agenda.Lines (Task.concerns n) line ∧ line.map Task.mark = v.line
  deliveries : DryRun.deliveries n d.journal = v.deliveries

/-- The attempt of a view is the one at the desk. -/
theorem Shows.known (shown : d.Shows n v) {a : Attempt} (known : d.attempts[n]? = some a) :
    v.attempt = some a.byPlace := by
  rw [← shown.attempt, known]
  rfl

/-- A view has no attempt where the desk has none. -/
theorem Shows.absent (shown : d.Shows n v) (absent : d.attempts[n]? = none) : v.attempt = none := by
  rw [← shown.attempt, absent]
  rfl

/-! ### Deliveries -/

/-- Deliveries remove no observer. -/
theorem OnlyDelivers.knows {told : Nat → List Delivery} (delivers : d.OnlyDelivers told d')
    {numbers : List Nat} (knows : d.Knows numbers) : d'.Knows numbers := by
  have size := congrArg Array.size delivers.observers
  rw [Array.size_map, Array.size_map] at size
  rw [Knows, size]
  exact knows

/-- Deliveries keep a desk calm. -/
theorem OnlyDelivers.calm {told : Nat → List Delivery} (delivers : d.OnlyDelivers told d')
    (calm : d.Calm) : d'.Calm := by
  have bench := delivers.bench
  refine ⟨bench ▸ calm.regular, bench ▸ calm.tasks, delivers.idle calm.observers, ?_,
    delivers.shared ▸ delivers.knows calm.shared, ?_⟩
  · intro o held
    have kept : o.conduct ∈ d.sink.map Observer.conduct := by
      rw [← delivers.sink]
      exact Option.mem_map_of_mem _ held
    obtain ⟨o', held', same⟩ := Option.mem_map.mp kept
    exact same ▸ calm.sink o' held'
  · rw [bench]
    exact fun a member => ⟨(calm.attempts a member).1, delivers.knows (calm.attempts a member).2⟩

/-- Deliveries on behalf of an attempt show in its view. -/
theorem OnlyDelivers.shows {told : Nat → List Delivery} (delivers : d.OnlyDelivers told d')
    (shown : d.Shows n v) : d'.Shows n (v.tell (told n)) := by
  have bench := delivers.bench
  refine ⟨bench ▸ shown.opened, ?_, ?_, bench ▸ shown.attempt, bench ▸ shown.line, ?_⟩
  · rw [delivers.shared]
    exact shown.shared
  · rw [← Option.isSome_map, delivers.sink, Option.isSome_map]
    exact shown.held
  · rw [delivers.deliveries, shown.deliveries]
    rfl

/-- While a desk rests it shows the same view. -/
theorem Rests.shows (rests : d.Rests d') (shown : d.Shows n v) : d'.Shows n v :=
  OnlyDelivers.shows rests shown

/-! ### Attempts -/

/-- An attempt is changed. -/
theorem Calm.modify (calm : d.Calm) (i : Nat) {change : Attempt → Attempt}
    (inner : Attempt.Inner change) : (d.modify i change).Calm := by
  refine ⟨calm.regular, calm.tasks, calm.observers, calm.sink, calm.shared, fun a member => ?_⟩
  obtain ⟨k, found⟩ := Array.getElem?_of_mem member
  rw [modify_getElem?] at found
  split at found
  · obtain ⟨a', held, rfl⟩ := Option.map_eq_some_iff.mp found
    rw [inner.language, inner.observers]
    exact calm.attempts a' (Array.mem_of_getElem? held)
  · exact calm.attempts a (Array.mem_of_getElem? found)

/-- An inner change of an attempt shows in its view. -/
theorem Shows.modify (shown : d.Shows n v) {change : Attempt → Attempt}
    (inner : Attempt.Inner change) :
    (d.modify n change).Shows n { v with attempt := v.attempt.map change } := by
  refine ⟨by simp [Desk.modify, shown.opened], shown.shared, shown.held, ?_, shown.line,
    shown.deliveries⟩
  rw [modify_getElem?, if_pos rfl, ← shown.attempt, Option.map_map, Option.map_map]
  exact congrArg (Option.map · _) (funext fun a => (inner.byPlace a).symm)

/-- A change of another attempt does not show. -/
theorem Shows.modify_other (shown : d.Shows n v) (other : i ≠ n) (change : Attempt → Attempt) :
    (d.modify i change).Shows n v := by
  refine ⟨by simp [Desk.modify, shown.opened], shown.shared, shown.held, ?_, shown.line,
    shown.deliveries⟩
  rw [modify_getElem?, if_neg other]
  exact shown.attempt

/-- Opening an exercise keeps a desk calm. -/
theorem Calm.openExercise (calm : d.Calm) (exercise : Exercise) :
    (d.openExercise exercise).2.Calm := by
  refine ⟨calm.regular, calm.tasks, calm.observers, calm.sink, calm.shared, fun a member => ?_⟩
  rcases Array.mem_push.mp member with old | rfl
  · exact calm.attempts a old
  · exact ⟨Language.ofTag_listed _, calm.shared⟩

/-- Opening an exercise shows as one more that is open, and as the attempt if it is the one. -/
theorem Shows.openExercise (shown : d.Shows n v) (exercise : Exercise) :
    (d.openExercise exercise).2.Shows n { v with
      opened := v.opened + 1
      attempt := if v.opened = n then some (.ofExercise exercise (List.range v.shared))
        else v.attempt } := by
  refine ⟨by simp [Desk.openExercise, shown.opened], shown.shared, shown.held, ?_, shown.line,
    shown.deliveries⟩
  show ((d.attempts.push (.ofExercise exercise d.shared))[n]?).map Attempt.byPlace = _
  rw [Array.getElem?_push, shown.opened, ← shown.shared]
  split_ifs with new old old
  · rfl
  · exact absurd new.symm old
  · exact absurd old.symm new
  · exact shown.attempt

/-- Someone else is told about the runs of an attempt. -/
theorem Calm.addObserver (calm : d.Calm) (i : Nat) {conduct : Conduct} (idle : conduct.Idle) :
    (d.addObserver i conduct).Calm := by
  have size : (d.addObserver i conduct).observers.size = d.observers.size + 1 := Array.size_push _
  have more : d.observers.size ≤ (d.addObserver i conduct).observers.size := by omega
  refine ⟨calm.regular, calm.tasks, fun o member => ?_, calm.sink, calm.shared.mono more,
    fun a member => ?_⟩
  · rcases Array.mem_push.mp member with old | rfl
    · exact calm.observers o old
    · exact idle
  · obtain ⟨k, found⟩ := Array.getElem?_of_mem member
    rw [Desk.addObserver, modify_getElem?] at found
    split at found
    · obtain ⟨a', held, rfl⟩ := Option.map_eq_some_iff.mp found
      obtain ⟨listed, knows⟩ := calm.attempts a' (Array.mem_of_getElem? held)
      exact ⟨listed, knows.snoc size⟩
    · obtain ⟨listed, knows⟩ := calm.attempts a (Array.mem_of_getElem? found)
      exact ⟨listed, knows.mono more⟩

/-- An observer of the attempt shows in its view. -/
theorem Shows.addObserver (shown : d.Shows n v) (conduct : Conduct) :
    (d.addObserver n conduct).Shows n { v with attempt := v.attempt.map fun a =>
      { a with observers := a.observers ++ [a.observers.length] } } := by
  refine ⟨by simp [Desk.addObserver, Desk.modify, shown.opened], shown.shared, shown.held, ?_,
    shown.line, shown.deliveries⟩
  rw [Desk.addObserver, modify_getElem?, if_pos rfl, ← shown.attempt, Option.map_map,
    Option.map_map]
  refine congrArg (Option.map · _) (funext fun a => ?_)
  simp [Attempt.byPlace, List.range_succ]

/-- An observer of another attempt does not show. -/
theorem Shows.addObserver_other (shown : d.Shows n v) (other : i ≠ n) (conduct : Conduct) :
    (d.addObserver i conduct).Shows n v := by
  have heard : ({ d with observers := d.observers.push { conduct } } : Desk).Shows n v :=
    ⟨shown.opened, shown.shared, shown.held, shown.attempt, shown.line, shown.deliveries⟩
  exact heard.modify_other other _

/-! ### Tasks -/

/-- A task of an attempt is put down. -/
theorem Calm.put (calm : d.Calm) {delay : Float} (span : IsSpan delay) (name : Text)
    {action : Action} (own : action.attempt?.isSome) : (d.put delay name action).2.Calm := by
  refine ⟨calm.regular.put span name action, fun task member => ?_, calm.observers, calm.sink,
    calm.shared, calm.attempts⟩
  rcases Agenda.mem_put.mp member with rfl | old
  · exact own
  · exact calm.tasks task old

/-- A task of the attempt shows in its view. -/
theorem Shows.put (shown : d.Shows n v) (calm : d.Calm) (same : d.agenda.clock = v.clock)
    (delay : Float) (name : Text) {action : Action} (own : action.attempt? = some n) :
    (d.put delay name action).2.Shows n (v.put delay action.isAnnouncement) := by
  obtain ⟨line, lines, marks⟩ := shown.line
  have dues (task : Task Action) : task.mark.1 = task.due := rfl
  refine ⟨shown.opened, shown.shared, shown.held, shown.attempt,
    ⟨_, lines.put calm.regular.numbered (by simp [Task.concerns, own]), ?_⟩, shown.deliveries⟩
  rw [map_enqueue dues, marks, View.put, ← same]
  rfl

/-- A task of another attempt does not show. -/
theorem Shows.put_other (shown : d.Shows n v) (delay : Float) (name : Text) {action : Action}
    (other : action.attempt? ≠ some n) : (d.put delay name action).2.Shows n v := by
  obtain ⟨line, lines, marks⟩ := shown.line
  exact ⟨shown.opened, shown.shared, shown.held, shown.attempt,
    ⟨line, lines.put_other (by simpa [Task.concerns] using other), marks⟩, shown.deliveries⟩

end Desk

end DryRun
