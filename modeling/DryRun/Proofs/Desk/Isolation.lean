import DryRun.Proofs.Desk.CalmDrive
import DryRun.Proofs.Desk.Sources

/-!
# Attempts do not notice each other

All attempts at a desk share one clock and one agenda, so that the tasks of one are carried out in
the middle of those of another. Still an attempt takes the same course as if nothing had been asked
of the others: it shows the same, and the same is delivered on its behalf at the same readings of
the clock. `attempts_isolated` says so of every attempt, for a history in which outside code asks
for nothing in its turn.

Every call has its counterpart for the view of an attempt (`View.after`), and a call that is aimed
elsewhere has none. Both histories, the one with and the one without those calls, therefore lead to
the same view.
-/

set_option autoImplicit false

namespace DryRun

/-- A call of a host whose observers ask for nothing: an exercise is opened, something is asked of
an attempt, the agenda is driven, or the clock changes by itself, always between readings that are
numbers or between readings that are not. -/
inductive Call.Plain : Call → Prop where
  | openExercise (exercise : Exercise) : Plain (.openExercise exercise)
  | ask (target : Option Nat) (request : Request) : Plain (.ask target request)
  | addObserver (target : Option Nat) {conduct : Conduct} (idle : conduct.Idle) :
    Plain (.addObserver target conduct)
  | advance (seconds : Float) : Plain (.advance seconds)
  | runDue : Plain .runDue
  | turn {c : Call} (turns : ∀ clock, (c.turn? clock).isSome)
    (steady : ∀ clock later, c.turn? clock = some (.ok later) →
      later.reading.isNaN = clock.reading.isNaN) : Plain c
  | idle {c : Call} (idle : c.Idle) : Plain c

/-- The attempt with a given number or, without one, the one that was opened last. -/
def numberOf (opened : Nat) : Option Nat → Option Nat
  | some i => some i
  | none => if opened = 0 then none else some (opened - 1)

/-- The attempt that a call is aimed at, given how many have been opened. -/
def Call.aim? (opened : Nat) : Call → Option Nat
  | .ask target _ => numberOf opened target
  | .addObserver target _ => numberOf opened target
  | _ => none

/-- How many attempts a call opens. -/
def Call.opens : Call → Nat
  | .openExercise _ => 1
  | _ => 0

/-- The calls without those that are aimed at other attempts than the given one; some attempts have
been opened before. -/
def keepOnly (n : Nat) : Nat → List Call → List Call
  | _, [] => []
  | opened, c :: rest =>
    if (c.aim? opened).all (· == n) then c :: keepOnly n (opened + c.opens) rest
    else keepOnly n (opened + c.opens) rest

/-- What an attempt shows. -/
structure Aspect where
  phase : Phase
  source : Text
  log : List Text
  verdict : Option Verdict
  predicted : Option Text

def Attempt.aspect (a : Attempt) : Aspect := ⟨a.phase, a.source, a.log, a.verdict, a.predicted⟩

/-! ## Views and calls -/

namespace View

/-- The view after a request about the attempt. -/
noncomputable def grant (v : View) (a : Attempt) (request : Request) : View :=
  if a.isIdle then
    match request.change?, request with
    | some change, _ => { v with attempt := some (change a) }
    | none, .run => { v with attempt := some a.start }.put a.language.compileDelay false
    | none, _ => v
  else v

section

variable {v : View} {a : Attempt} {request : Request}

/-- While a run is under way no request changes a view. -/
theorem grant_of_busy (busy : a.isIdle = false) : v.grant a request = v := by
  simp [grant, busy]

/-- A request that is granted changes the attempt of a view. -/
theorem grant_of_change (idle : a.isIdle = true) {change : Attempt → Attempt}
    (changes : request.change? = some change) :
    v.grant a request = { v with attempt := some (change a) } := by
  simp [grant, idle, changes]

/-- A run that is granted starts the attempt and puts down a task. -/
theorem grant_run (idle : a.isIdle = true) :
    v.grant a .run = { v with attempt := some a.start }.put a.language.compileDelay false := by
  simp [grant, idle, Request.change?]

/-- A question changes nothing in a view. -/
theorem grant_of_question (asked : request ≠ .run) (unchanged : request.change? = none) :
    v.grant a request = v := by
  cases request <;> simp_all [grant, Request.change?]

end

noncomputable def ask (v : View) (request : Request) : View :=
  match v.attempt with
  | none => v
  | some a => v.grant a request

/-- The clock changes by itself. -/
def turn (v : View) (c : Call) : View :=
  match c.turn? v.clock with
  | some (.ok clock) => { v with clock }
  | _ => v

/-- The view of an attempt after a call. -/
noncomputable def after (n : Nat) (v : View) : Call → View
  | .openExercise exercise => { v with
      opened := v.opened + 1
      attempt := if v.opened = n then some (.ofExercise exercise (List.range v.shared))
        else v.attempt }
  | .ask target request => if target.getD (v.opened - 1) = n then v.ask request else v
  | .addObserver target _ =>
    if target.getD (v.opened - 1) = n then
      { v with attempt := v.attempt.map fun a =>
        { a with observers := a.observers ++ [a.observers.length] } }
    else v
  | .advance seconds =>
    if v.clock.kind = .virtual then v.drive (v.clock.reading + seconds) else v
  | .runDue => v.drive v.clock.reading
  | c => v.turn c

/-- Beginning a task opens no exercise. -/
theorem begin_opened (v : View) (announcement : Bool) :
    (v.begin announcement).opened = v.opened := by
  unfold begin
  split
  · rfl
  · show (promise _ _).opened = _
    unfold promise
    split <;> rfl
  · split <;> rfl

/-- A drive opens no exercise. -/
theorem drive_opened (v : View) (target : Float) : (v.drive target).opened = v.opened := by
  fun_induction drive target v with
  | case1 => rfl
  | case2 v due announcement behind waits early ih => exact ih.trans (begin_opened _ _)
  | case3 => rfl

/-- A request opens no exercise. -/
theorem ask_opened (v : View) (request : Request) : (v.ask request).opened = v.opened := by
  unfold ask
  split
  · rfl
  · unfold grant
    split
    · split <;> rfl
    · rfl

/-- Turning the clock opens no exercise. -/
theorem turn_opened (v : View) (c : Call) : (v.turn c).opened = v.opened := by
  unfold turn
  split <;> rfl

/-- A view counts the exercises that calls open. -/
theorem after_opened (n : Nat) (v : View) (c : Call) :
    (v.after n c).opened = v.opened + c.opens := by
  cases c with
  | openExercise => rfl
  | ask target request =>
    rw [after]
    split
    · exact ask_opened v request
    · rfl
  | addObserver =>
    rw [after]
    split <;> rfl
  | advance seconds =>
    rw [after]
    split
    · exact drive_opened v _
    · rfl
  | runDue => exact drive_opened v _
  | _ => exact turn_opened v _

/-- A call that is aimed elsewhere leaves the view as it is. -/
theorem after_elsewhere {n : Nat} {v : View} {c : Call}
    (elsewhere : ¬ (c.aim? v.opened).all (· == n)) : v.after n c = v := by
  have away {target : Option Nat} (other : ¬ (numberOf v.opened target).all (· == n)) :
      target.getD (v.opened - 1) ≠ n := by
    rintro rfl
    unfold numberOf at other
    split at other
    · simp at other
    · split at other <;> simp at other
  cases c with
  | ask target request => exact if_neg (away elsewhere)
  | addObserver target conduct => exact if_neg (away elsewhere)
  | _ => simp [Call.aim?] at elsewhere

/-- A view goes the same way when the calls to other attempts are left out. -/
theorem foldl_keepOnly (n : Nat) (calls : List Call) (v : View) :
    (keepOnly n v.opened calls).foldl (after n) v = calls.foldl (after n) v := by
  induction calls generalizing v with
  | nil => rfl
  | cons c rest ih =>
    have onward := ih (v.after n c)
    rw [after_opened] at onward
    rw [keepOnly, List.foldl_cons]
    split
    case isTrue => exact onward
    case isFalse elsewhere =>
      rw [after_elsewhere elsewhere] at onward ⊢
      exact onward

end View

/-! ## Calls and views -/

namespace Desk

open Reading Filter

variable {d d' : Desk} {n i : Nat} {v : View} {a : Attempt} {c : Call}

/-- A calm desk shows a view of an attempt, up to the clock. -/
structure Presents (d : Desk) (n : Nat) (v : View) : Prop where
  calm : d.Calm
  shown : d.Shows n v
  clock : d.agenda.clock = v.clock

/-- While a desk rests it presents the same view. -/
theorem Rests.presents (rests : d.Rests d') (presents : d.Presents n v) : d'.Presents n v :=
  ⟨rests.calm presents.calm, rests.shows presents.shown, by rw [rests.bench]; exact presents.clock⟩

/-- What a call leads to is presented, whether it is written down or not. -/
theorem Presents.settle (presents : d.Presents n v) (c : Call) (outcome : Outcome Reply) :
    (Work.settle c (outcome, d)).Presents n v := by
  cases outcome with
  | returned reply => exact (d.rests_note fun _ => rfl).presents presents
  | failed => exact presents
  | unfinished => exact presents

/-- What a request can make of a desk and of a view of the attempt: nothing, a change of the
attempt, or a run that is started. -/
inductive Grants (d : Desk) (i : Nat) (a : Attempt) (v : View) : Desk → View → Prop where
  | nothing : Grants d i a v d v
  | edit {change} (inner : Attempt.Inner change) :
    Grants d i a v (d.modify i change) { v with attempt := some (change a.byPlace) }
  | launch (idle : a.isIdle = true) : Grants d i a v (d.launch i a).2
    ({ v with attempt := some a.byPlace.start }.put a.language.compileDelay false)

/-- What a request does at a desk it does to the view of the attempt. -/
theorem grants (d : Desk) (i : Nat) (a : Attempt) (v : View) (request : Request) :
    d.Grants i a v (d.grant i a request).2 (v.grant a.byPlace request) := by
  by_cases asked : request = .run ∨ request.change?.isSome
  · cases idle : a.isIdle with
    | false =>
      rw [grant_of_busy d i idle asked, View.grant_of_busy (a := a.byPlace) idle]
      exact .nothing
    | true =>
      rcases asked with rfl | changes
      · rw [grant_run d i idle, View.grant_run (a := a.byPlace) idle]
        exact .launch idle
      · obtain ⟨change, changes⟩ := Option.isSome_iff_exists.mp changes
        rw [grant_of_change d i idle changes, View.grant_of_change (a := a.byPlace) idle changes]
        exact .edit (Request.inner_change changes)
  · obtain ⟨asked, unchanged⟩ := not_or.mp asked
    have unchanged : request.change? = none := by simpa using unchanged
    rw [(grant_of_question d i a asked unchanged).1, View.grant_of_question asked unchanged]
    exact .nothing

/-- Starting a run keeps a desk calm. -/
theorem Calm.launch (calm : d.Calm) (i : Nat) (idle : a.isIdle = true)
    (listed : a.language.IsListed) : (d.launch i a).2.Calm := by
  rw [launch_snd d i idle]
  exact (rests_note _ fun _ => rfl).calm
    ((calm.modify i Attempt.inner_start).put listed.span _ rfl)

/-- Starting a run at a desk starts it in the view of the attempt. -/
theorem Shows.launch (shown : d.Shows n v) (calm : d.Calm) (same : d.agenda.clock = v.clock)
    (known : v.attempt = some a.byPlace) (idle : a.isIdle = true) :
    (d.launch n a).2.Shows n
      ({ v with attempt := some a.byPlace.start }.put a.language.compileDelay false) := by
  have started := shown.modify Attempt.inner_start
  rw [known] at started
  rw [launch_snd d n idle]
  exact Rests.shows (rests_note _ fun _ => rfl)
    (started.put (calm.modify n Attempt.inner_start) same _ _ rfl)

/-- The run of another attempt does not show. -/
theorem Shows.launch_other (shown : d.Shows n v) (other : i ≠ n) (idle : a.isIdle = true) :
    (d.launch i a).2.Shows n v := by
  rw [launch_snd d i idle]
  have started := shown.modify_other other Attempt.start
  exact Rests.shows (rests_note _ fun _ => rfl)
    (started.put_other _ _ (by simpa [Action.attempt?] using other))

/-- A request is granted or refused. -/
theorem Presents.grant (presents : d.Presents n v) (known : d.attempts[i]? = some a)
    (request : Request) :
    (d.grant i a request).2.Presents n (if i = n then v.ask request else v) := by
  obtain ⟨calm, shown, clock⟩ := presents
  have listed := (calm.attempts a (Array.mem_of_getElem? known)).1
  have granted := d.grants i a v request
  by_cases own : i = n
  · subst own
    have attempt := shown.known known
    have asked : v.ask request = v.grant a.byPlace request := by
      rw [View.ask, attempt]
    rw [if_pos rfl, asked]
    generalize (d.grant i a request).2 = d', v.grant a.byPlace request = v' at granted ⊢
    cases granted with
    | nothing => exact ⟨calm, shown, clock⟩
    | edit inner =>
      have changed := shown.modify inner
      rw [attempt] at changed
      exact ⟨calm.modify i inner, changed, clock⟩
    | launch idle =>
      refine ⟨calm.launch i idle listed, shown.launch calm clock attempt idle, ?_⟩
      rw [launch_snd d i idle]
      exact clock
  · rw [if_neg own]
    generalize (d.grant i a request).2 = d', v.grant a.byPlace request = v' at granted ⊢
    cases granted with
    | nothing => exact ⟨calm, shown, clock⟩
    | edit inner => exact ⟨calm.modify i inner, shown.modify_other own _, clock⟩
    | launch idle =>
      refine ⟨calm.launch i idle listed, shown.launch_other own idle, ?_⟩
      rw [launch_snd d i idle]
      exact clock

/-! ### Aims -/

/-- A call that is aimed at nothing has no attempt. -/
theorem aim_eq_error {target : Option Nat} {operation : String} {failure : Failure}
    (aimed : d.aim target operation = .error failure) :
    d.attempts[target.getD (d.attempts.size - 1)]? = none := by
  rw [Array.getElem?_eq_none_iff]
  cases target with
  | some j =>
    simp only [aim] at aimed
    split at aimed
    · cases aimed
    · exact not_lt.mp ‹_›
  | none =>
    simp only [aim] at aimed
    split at aimed
    · show d.attempts.size ≤ d.attempts.size - 1
      omega
    · cases aimed

/-- Nothing can be asked of an attempt that has not been opened. -/
theorem Presents.absent (presents : d.Presents n v) {target : Option Nat}
    {operation : String} {failure : Failure} (aimed : d.aim target operation = .error failure)
    (own : target.getD (v.opened - 1) = n) : v.attempt = none := by
  have absent := aim_eq_error aimed
  rw [presents.shown.opened, own] at absent
  exact presents.shown.absent absent

/-- A request that is declined has come to an end. -/
theorem decline_finished (request : Request) (failure : Failure) :
    Work.decline request failure ≠ .unfinished := by
  unfold Work.decline
  split <;> simp

/-- After a request the desk presents the view after it. -/
theorem Presents.ask (presents : d.Presents n v) (target : Option Nat) (request : Request) :
    ∃ outcome d', d.Does (.call (.ask target request)) outcome d' ∧
      d'.Presents n (v.after n (.ask target request)) := by
  have opened := presents.shown.opened
  cases aimed : d.aim target request.operation with
  | error failure =>
    refine ⟨_, d, .of_answer (decline_finished request failure) (.of_forall fun depth => ?_), ?_⟩
    · rw [Work.answer, aimed]
    · have nothing : v.after n (.ask target request) = v := by
        rw [View.after]
        split
        case isTrue own => rw [View.ask, presents.absent aimed own]
        case isFalse => rfl
      exact nothing.symm ▸ presents
  | ok i =>
    have number := aim_eq_ok aimed
    rw [opened] at number
    obtain ⟨a, known⟩ : ∃ a, d.attempts[i]? = some a :=
      ⟨_, Array.getElem?_eq_getElem (lt_of_aim aimed)⟩
    refine ⟨.returned (d.grant i a request).1, (d.grant i a request).2,
      .of_answer (by simp) (.of_forall fun depth => ?_), ?_⟩
    · rw [Work.answer, aimed]
      simp only [known]
    · rw [View.after, number]
      exact presents.grant known request

/-- After an observer is added the desk presents the view after it. -/
theorem Presents.addObserver (presents : d.Presents n v) (target : Option Nat) {conduct : Conduct}
    (idle : conduct.Idle) :
    ∃ outcome d', d.Does (.call (.addObserver target conduct)) outcome d' ∧
      d'.Presents n (v.after n (.addObserver target conduct)) := by
  have opened := presents.shown.opened
  cases aimed : d.aim target "add_observer" with
  | error failure =>
    refine ⟨.failed failure, d, .of_answer (by simp) (.of_forall fun depth => ?_), ?_⟩
    · rw [Work.answer, aimed]
    · have nothing : v.after n (.addObserver target conduct) = v := by
        rw [View.after]
        split
        case isTrue own =>
          have absent := presents.absent aimed own
          rw [absent, Option.map_none, ← absent]
        case isFalse => rfl
      exact nothing.symm ▸ presents
  | ok i =>
    have number := aim_eq_ok aimed
    rw [opened] at number
    refine ⟨.returned .nothing, d.addObserver i conduct,
      .of_answer (by simp) (.of_forall fun depth => ?_), ?_⟩
    · rw [Work.answer, aimed]
    · rw [View.after, number]
      split
      case isTrue own =>
        subst own
        exact ⟨presents.calm.addObserver i idle, presents.shown.addObserver conduct, presents.clock⟩
      case isFalse other =>
        exact ⟨presents.calm.addObserver i idle, presents.shown.addObserver_other other conduct,
          presents.clock⟩

/-! ### Drives and clocks -/

/-- A drive until a reading, by whatever call. -/
theorem Presents.exists_takes (presents : d.Presents n v) {limit : Option Float} {target : Float}
    (toTarget : limit.getD d.agenda.now = target)
    (proper : target = -0 → ¬ v.clock.reading < target) :
    ∃ tasks d', d.Takes limit tasks (.returned ()) d' ∧ d'.Presents n (v.drive target) := by
  have underway : d.Underway n v target :=
    ⟨presents.calm, presents.shown, .inl presents.clock, proper⟩
  obtain ⟨tasks, d', takes, calm, shown, clock⟩ := underway.exists_takes toTarget
  exact ⟨tasks, d', takes, calm, shown, clock⟩

/-- After a drive of what is due the desk presents the view after it. -/
theorem Presents.runDue (presents : d.Presents n v) :
    ∃ outcome d', d.Does (.call .runDue) outcome d' ∧ d'.Presents n (v.after n .runDue) := by
  have now : (none : Option Float).getD d.agenda.now = v.clock.reading := by
    rw [← presents.clock]
    rfl
  have still : v.clock.reading = -0 → ¬ v.clock.reading < v.clock.reading := fun _ less =>
    not_lt_of_le (Reading.le_of_lt less) less
  obtain ⟨tasks, d', takes, presented⟩ := presents.exists_takes now still
  exact ⟨.returned (.ran tasks.length), d', takes.runDue, presented⟩

/-- After an advance the desk presents the view after it. -/
theorem Presents.advance (presents : d.Presents n v) (seconds : Float) :
    ∃ outcome d', d.Does (.call (.advance seconds)) outcome d' ∧
      d'.Presents n (v.after n (.advance seconds)) := by
  have clock := presents.clock
  rw [View.after]
  split
  case isTrue movable =>
    have now : (some (d.agenda.now + seconds)).getD d.agenda.now = v.clock.reading + seconds := by
      rw [Option.getD_some, Agenda.now, clock]
    -- The sum is the negative zero only if the clock shows it already.
    have proper : v.clock.reading + seconds = -0 →
        ¬ v.clock.reading < v.clock.reading + seconds := by
      intro zero
      rw [zero, (Reading.add_eq_negZero zero).1]
      decide
    obtain ⟨tasks, d', takes, presented⟩ := presents.exists_takes now proper
    rw [← clock] at movable
    exact ⟨.returned (.ran tasks.length), d', takes.advance movable, presented⟩
  case isFalse immovable =>
    refine ⟨.failed (.agenda .needsVirtualClock), d, .of_answer (by simp)
      (.of_forall fun depth => ?_), presents⟩
    rw [← clock] at immovable
    rw [Work.answer]
    split
    · contradiction
    · rfl

/-- The clock changes by itself. -/
theorem Presents.turn (presents : d.Presents n v) (turns : ∀ clock, (c.turn? clock).isSome)
    (steady : ∀ clock later, c.turn? clock = some (.ok later) →
      later.reading.isNaN = clock.reading.isNaN) :
    ∃ outcome d', d.Does (.call c) outcome d' ∧ d'.Presents n (v.turn c) := by
  obtain ⟨turned, turn⟩ := Option.isSome_iff_exists.mp (turns d.agenda.clock)
  have answer (next : Performer) : Work.answer next d c = Work.setClock d turned := by
    cases c <;> cases turn <;> rfl
  have view : c.turn? v.clock = some turned := presents.clock ▸ turn
  cases turned with
  | error error =>
    refine ⟨.failed (.agenda error), d, .of_answer (by simp) (.of_forall fun _ => answer _), ?_⟩
    rw [View.turn, view]
    exact presents
  | ok clock =>
    refine ⟨.returned .nothing, _, .of_answer (by simp) (.of_forall fun _ => answer _), ?_⟩
    rw [View.turn, view]
    exact ⟨presents.calm.setClock (steady _ _ turn), presents.shown.setClock clock clock, rfl⟩

/-- Every call of a host comes to an end at a calm desk, and does to the view of an attempt what its
counterpart does. -/
theorem Presents.call (presents : d.Presents n v) (plain : c.Plain) :
    ∃ outcome d', d.Does (.call c) outcome d' ∧ d'.Presents n (v.after n c) := by
  cases plain with
  | openExercise exercise =>
    refine ⟨_, _, .of_answer (by simp) (.of_forall fun _ => rfl), ?_⟩
    exact ⟨presents.calm.openExercise exercise, presents.shown.openExercise exercise,
      presents.clock⟩
  | ask target request => exact presents.ask target request
  | addObserver target idle => exact presents.addObserver target idle
  | advance seconds => exact presents.advance seconds
  | runDue => exact presents.runDue
  | turn turns steady =>
    obtain ⟨outcome, d', does, presented⟩ := presents.turn turns steady
    have same : v.after n c = v.turn c := by
      cases c <;> first | rfl | cases turns v.clock
    exact ⟨outcome, d', does, same.symm ▸ presented⟩
  | idle idle =>
    obtain ⟨outcome, d', does, rests⟩ := exists_idle idle d
    have same : v.after n c = v := by cases idle <;> rfl
    exact ⟨outcome, d', does, same.symm ▸ rests.presents presents⟩

/-! ## Histories and views -/

/-- Plain calls come to an end, and the desk presents the view after them. -/
theorem Presents.exists_lives {calls : List Call} (presents : d.Presents n v)
    (plain : ∀ c ∈ calls, c.Plain) :
    ∃ d', d.Lives calls d' ∧ d'.Presents n (calls.foldl (View.after n) v) := by
  induction calls generalizing d v with
  | nil => exact ⟨d, .nil, presents⟩
  | cons c rest ih =>
    obtain ⟨outcome, d₁, does, presented⟩ := presents.call (plain c List.mem_cons_self)
    obtain ⟨d', onward, presented⟩ :=
      ih (presented.settle c outcome) fun c' member => plain c' (.tail c member)
    exact ⟨d', .cons does onward, presented⟩

/-- Leaving calls out brings in none. -/
theorem keepOnly_subset (n opened : Nat) (calls : List Call) : keepOnly n opened calls ⊆ calls := by
  induction calls generalizing opened with
  | nil => exact List.Subset.refl _
  | cons c rest ih =>
    rw [keepOnly]
    split
    · exact List.cons_subset_cons c (ih _)
    · exact List.subset_cons_of_subset c (ih _)

/-- A desk at which nothing has happened yet. -/
theorem presents_fresh (n : Nat) (clock : Clock) {sink : Option Conduct}
    (tame : ∀ conduct ∈ sink, conduct.Tame) {observers : List Conduct}
    (idle : ∀ conduct ∈ observers, conduct.Idle) (sleeper : Sleeper) :
    (fresh clock sink observers sleeper).Presents n
      { clock, opened := 0, shared := observers.length, held := sink.isSome, attempt := none,
        line := [], deliveries := [] } := by
  refine ⟨⟨?_, by simp [fresh], ?_, ?_, ?_, by simp [fresh]⟩, ⟨rfl, ?_, ?_, rfl, ?_, rfl⟩, rfl⟩
  · constructor <;> simp [fresh, Heap.Ordered, Heap.Follows]
  · intro o member
    obtain ⟨conduct, listed, rfl⟩ := List.mem_map.mp (List.mem_toArray.mp member)
    exact idle conduct listed
  · intro o held
    obtain ⟨conduct, given, rfl⟩ := Option.mem_map.mp held
    exact tame conduct given
  · refine ⟨List.nodup_range, fun number member => ?_⟩
    simpa [fresh] using member
  · exact List.length_range
  · exact Option.isSome_map
  · exact ⟨[], ⟨.nil, .nil⟩, rfl⟩

/-! ## Isolation -/

/-- What an attempt shows, once it has been opened. -/
def aspect? (d : Desk) (n : Nat) : Option Aspect := d.attempts[n]?.map Attempt.aspect

/-- The view of an attempt has the aspect that the desk gives it. -/
theorem Presents.aspect (presents : d.Presents n v) :
    d.aspect? n = v.attempt.map Attempt.aspect := by
  rw [← presents.shown.attempt, Option.map_map]
  rfl

/-- The attempt shows the same at two desks, and the same has been delivered on its behalf, in the
same order and at the same readings of the clock. -/
structure AlikeFor (n : Nat) (d d' : Desk) : Prop where
  aspect : d.aspect? n = d'.aspect? n
  deliveries : DryRun.deliveries n d.journal = DryRun.deliveries n d'.journal

/-- Nothing has become different for an attempt: neither it nor the agenda and the journal. -/
structure SameFor (n : Nat) (d d' : Desk) : Prop where
  attempt : d'.attempts[n]? = d.attempts[n]?
  agenda : d'.agenda = d.agenda
  journal : d'.journal = d.journal

/-- Desks that present the same view are alike for the attempt. -/
theorem Presents.alike (presents : d.Presents n v) (presents' : d'.Presents n v) :
    d.AlikeFor n d' :=
  ⟨presents.aspect.trans presents'.aspect.symm,
    presents.shown.deliveries.trans presents'.shown.deliveries.symm⟩

/-- At a desk whose observers ask for nothing and whose sink, moreover, does not fail, an attempt
takes the same course as without the calls that are aimed at other attempts: after each part of a
history the desk is alike for it. In particular an exercise that is opened changes nothing for the
attempts that there are, and an observer changes nothing for those that it does not observe. -/
theorem attempts_isolated (n : Nat) {calls : List Call} (plain : ∀ c ∈ calls, c.Plain)
    (clock : Clock) {sink : Option Conduct} (tame : ∀ conduct ∈ sink, conduct.Tame)
    {observers : List Conduct} (idle : ∀ conduct ∈ observers, conduct.Idle) (sleeper : Sleeper) :
    (∃ bound, ∀ depth ≥ bound, ∀ done, done <+: calls →
      let start := fresh clock sink observers sleeper
      let d := history depth done start
      let d' := history depth (keepOnly n 0 done) start
      start.Lives done d ∧ start.Lives (keepOnly n 0 done) d' ∧ d.AlikeFor n d') ∧
    (∀ (d : Desk) (exercise : Exercise), n < d.attempts.size →
      d.SameFor n (d.openExercise exercise).2) ∧
    ∀ (d : Desk) (i : Nat) (conduct : Conduct), i ≠ n → d.SameFor n (d.addObserver i conduct) := by
  refine ⟨eventually_atTop.mp ?_, fun d exercise inside => ⟨?_, rfl, rfl⟩,
    fun d i conduct other => ⟨?_, rfl, rfl⟩⟩
  · have parts : {done | done <+: calls}.Finite :=
      (List.finite_toSet calls.inits).subset fun done part => (List.mem_inits done calls).mpr part
    refine (eventually_all_finite parts).mpr fun done part => ?_
    have presents := presents_fresh n clock tame idle sleeper
    have plain' : ∀ c ∈ done, c.Plain := fun c member => plain c (part.subset member)
    obtain ⟨d, lives, all⟩ := presents.exists_lives plain'
    obtain ⟨d', lives', own⟩ :=
      presents.exists_lives fun c member => plain' c (keepOnly_subset n 0 done member)
    -- The calls that are left out have no counterpart for the view.
    rw [View.foldl_keepOnly n done { opened := 0, .. }] at own
    filter_upwards [lives.eventually, lives'.eventually] with depth ends ends'
    dsimp only
    rw [ends, ends']
    exact ⟨lives, lives', all.alike own⟩
  · rw [Desk.openExercise, Array.getElem?_push_lt inside, Array.getElem?_eq_getElem inside]
  · rw [Desk.addObserver, modify_getElem?, if_neg other]

/-- Two runs overlap; while the second one is under way, the first one is announced. -/
def overlappingRuns : List Call :=
  let exercise : Exercise :=
    ⟨['a'], some "python".toList, some "print(1)".toList, some ['1']⟩
  [.openExercise exercise, .openExercise exercise, .ask (some 0) .run, .advance 0.5,
    .ask none .run, .advance 5]

/-- Two attempts whose runs overlap, one of them taken alone. -/
theorem attempts_isolated_overlapping :
    let sink : Option Conduct := some fun _ => [.look]
    let observers : List Conduct := [fun _ => [.look, .fail []]]
    let start := fresh ⟨.virtual, 0⟩ sink observers
    (deliveries 0 (history 40 overlappingRuns start).journal).length = 2 ∧
    ∃ bound, ∀ depth ≥ bound, ∀ done, done <+: overlappingRuns →
      (history depth done start).AlikeFor 0 (history depth (keepOnly 0 0 done) start) := by
  have plain : ∀ c ∈ overlappingRuns, c.Plain := by
    simp only [overlappingRuns, List.forall_mem_cons]
    exact ⟨.openExercise _, .openExercise _, .ask _ _, .advance _, .ask _ _, .advance _, by simp⟩
  have tame : ∀ conduct ∈ some (fun _ => [Call.look]), Conduct.Tame conduct := by
    rintro _ ⟨⟩ k c member
    rw [List.mem_singleton.mp member]
    exact .look
  have idle : ∀ conduct ∈ [fun _ => [Call.look, .fail []]], Conduct.Idle conduct := by
    intro conduct member k
    rw [List.mem_singleton.mp member]
    simp only [List.forall_mem_cons]
    exact ⟨.look, .fail [], by simp⟩
  obtain ⟨bound, isolated⟩ :=
    (attempts_isolated 0 plain ⟨.virtual, 0⟩ tame idle Sleeper.exact).1
  exact ⟨by decide +kernel, bound, fun depth le done part => (isolated depth le done part).2.2⟩

end Desk

end DryRun
