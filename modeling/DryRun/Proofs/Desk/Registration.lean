import DryRun.Proofs.Desk.Audience

/-!
# Who was registered, and with which attempt

Observers come to a desk in two ways: some are given when it is set up, and are shared by all
attempts, and others are registered with one attempt by a call. The journal says who was registered,
in which order and with which attempt (`registrations`), since every call that was answered is
written down. `Desk.Registered` says that this is all there is to the audiences: an attempt has the
shared observers first and then those who were registered with it, in the order of the calls, and
each number belongs to the one who was given or registered under it.

A step either leaves the registrations and the audiences alone, or opens an attempt, with which
nobody can have been registered before, or registers one observer more (`Step.registered`).
-/

set_option autoImplicit false

namespace DryRun

/-- The attempt with which somebody was registered by a call that was answered at a moment, and how
they behave. -/
def Moment.registration? (m : Moment) : Option (Nat × Conduct) :=
  match m.event with
  | .answered (.addObserver target conduct) .nothing =>
    some (target.getD (m.bench.attempts.size - 1), conduct)
  | _ => none

/-- Everybody who was registered, the first one first. -/
def registrations (journal : List Moment) : List (Nat × Conduct) :=
  (journal.filterMap Moment.registration?).reverse

/-- The numbers of those who were registered with an attempt, in order, where the first one who was
registered with any attempt has the given number. -/
def registered (first : Nat) (journal : List Moment) (i : Nat) : List Nat :=
  ((registrations journal).zipIdx first).filterMap fun (registration, number) =>
    if registration.1 = i then some number else none

/-- A moment at which nobody was registered adds nobody. -/
theorem registrations_cons_of_none {m : Moment} (none : m.registration? = none)
    (journal : List Moment) : registrations (m :: journal) = registrations journal := by
  rw [registrations, List.filterMap_cons_none none, registrations]

/-- Somebody who was registered comes last. -/
theorem registrations_cons_of_some {m : Moment} {registration : Nat × Conduct}
    (some : m.registration? = some registration) (journal : List Moment) :
    registrations (m :: journal) = registrations journal ++ [registration] := by
  rw [registrations, List.filterMap_cons_some some, List.reverse_cons, registrations]

/-- The number of somebody who was registered last follows on all others. -/
theorem registered_of_append {first : Nat} {journal longer : List Moment} {i : Nat}
    {conduct : Conduct}
    (more : registrations longer = registrations journal ++ [(i, conduct)]) (k : Nat) :
    registered first longer k =
      if i = k then registered first journal k ++ [first + (registrations journal).length]
      else registered first journal k := by
  rw [registered, more, List.zipIdx_append, List.filterMap_append, ← registered,
    List.zipIdx_singleton]
  split
  case isTrue same => simp [same]
  case isFalse other => simp [other]

/-- Nobody is registered with an attempt that no registration is about. -/
theorem registered_of_forall_ne {first : Nat} {journal : List Moment} {i : Nat}
    (others : ∀ registration ∈ registrations journal, registration.1 ≠ i) :
    registered first journal i = [] := by
  refine List.filterMap_eq_nil_iff.mpr fun (registration, number) member => ?_
  exact if_neg (others registration (List.fst_mem_of_mem_zipIdx member))

namespace Desk

variable {P : Call → Prop} {d d' : Desk} {observers : List Conduct}

/-- How those who are told about runs behave, by number. -/
def conducts (d : Desk) : List Conduct := d.observers.toList.map Observer.conduct

/-- Those who are told about the runs of an attempt are the ones whom the desk was given, and then
the ones who were registered with the attempt, in the order in which they were. -/
structure Registered (observers : List Conduct) (d : Desk) : Prop where
  conducts : d.conducts = observers ++ (registrations d.journal).map Prod.snd
  shared : d.shared = List.range observers.length
  audience : ∀ i < d.attempts.size,
    d.audience i = List.range observers.length ++ registered observers.length d.journal i
  known : ∀ registration ∈ registrations d.journal, registration.1 < d.attempts.size

namespace Registered

/-- Nobody is registered, and no attempt is opened. -/
theorem quiet (known : d.Registered observers)
    (journal : registrations d'.journal = registrations d.journal)
    (conducts : d'.conducts = d.conducts) (shared : d'.shared = d.shared)
    (opened : d'.attempts.size = d.attempts.size) (audience : ∀ i, d'.audience i = d.audience i) :
    d'.Registered observers := by
  constructor
  · rw [conducts, known.conducts, journal]
  · rw [shared, known.shared]
  · intro i below
    rw [audience, registered, journal, ← registered]
    exact known.audience i (opened ▸ below)
  · rw [journal, opened]
    exact known.known

/-- An attempt is opened. It has the shared observers, and nobody was registered with it before. -/
theorem openExercise (known : d.Registered observers) (exercise : Exercise) (reply : Reply) :
    ((d.openExercise exercise).2.note (.answered (.openExercise exercise) reply)).Registered
      observers := by
  have size : (d.attempts.push (Attempt.ofExercise exercise d.shared)).size =
      d.attempts.size + 1 := Array.size_push _
  have journal : registrations (⟨.answered (.openExercise exercise) reply,
      (d.openExercise exercise).2.toBench⟩ :: d.journal) = registrations d.journal :=
    registrations_cons_of_none rfl _
  constructor
  · exact (journal ▸ known.conducts :)
  · exact known.shared
  · intro i below
    show ((d.attempts.push (.ofExercise exercise d.shared))[i]?.map Attempt.observers).getD [] =
      _ ++ registered _ (_ :: d.journal) i
    rw [registered, journal, ← registered, Array.getElem?_push]
    split
    case isTrue last =>
      have nobody : registered observers.length d.journal i = [] :=
        registered_of_forall_ne fun registration member same =>
          Nat.lt_irrefl _ ((same.trans last) ▸ known.known registration member)
      rw [nobody, List.append_nil, ← known.shared]
      rfl
    case isFalse other =>
      have below : i < d.attempts.size + 1 := size ▸ below
      exact known.audience i (by omega)
  · intro registration member
    have old := known.known registration (journal ▸ member)
    exact size ▸ Nat.lt_succ_of_lt old

/-- Somebody is registered with an attempt. -/
theorem addObserver (known : d.Registered observers) {target : Option Nat} {operation : String}
    {i : Nat} (aimed : d.aim target operation = .ok i) (conduct : Conduct) :
    ((d.addObserver i conduct).note (.answered (.addObserver target conduct) .nothing)).Registered
      observers := by
  have size : (d.addObserver i conduct).attempts.size = d.attempts.size := Array.size_modify
  have latest : target.getD (d.attempts.size - 1) = i := aim_eq_ok aimed
  have journal : registrations (⟨.answered (.addObserver target conduct) .nothing,
      (d.addObserver i conduct).toBench⟩ :: d.journal) =
        registrations d.journal ++ [(i, conduct)] := by
    refine registrations_cons_of_some ?_ _
    show some (target.getD ((d.addObserver i conduct).attempts.size - 1), conduct) = _
    rw [size, latest]
  -- The new observer is numbered by how many were given at the opening and registered since.
  have count : d.observers.size = observers.length + (registrations d.journal).length := by
    have same := congrArg List.length known.conducts
    simpa [Desk.conducts] using same
  constructor
  · show (d.observers.push { conduct }).toList.map Observer.conduct = _ ++
      (registrations (_ :: d.journal)).map Prod.snd
    rw [journal, Array.toList_push, List.map_append, List.map_append, ← List.append_assoc,
      ← known.conducts]
    rfl
  · exact known.shared
  · intro k below
    have old := known.audience k (size ▸ below)
    show (d.addObserver i conduct).audience k = _ ++ registered _ (_ :: d.journal) k
    rw [registered_of_append journal, audience_addObserver (lt_of_aim aimed), old, count]
    split <;> simp
  · intro registration member
    show registration.1 < (d.addObserver i conduct).attempts.size
    rw [size]
    rcases List.mem_append.mp (journal ▸ member) with old | new
    · exact known.known registration old
    · rw [List.mem_singleton.mp new]
      exact lt_of_aim aimed

end Registered

/-- The beginning of a task registers nobody. -/
theorem registrations_begin (d : Desk) (task : Task Action) :
    registrations (d.begin task).2.journal = registrations d.journal ∧
      (d.begin task).2.attempts.size = d.attempts.size := by
  have began : registrations (d.note (.began task)).journal = registrations d.journal :=
    registrations_cons_of_none rfl _
  have begun := d.begins task
  generalize d.begin task = result at begun ⊢
  cases begun with
  | script => exact ⟨began, rfl⟩
  | stray => exact ⟨began, rfl⟩
  | run =>
    refine ⟨?_, ?_⟩
    · rw [finish_journal]
      exact (registrations_cons_of_none rfl _).trans began
    · rw [finish_snd, promise_eq]
      split <;> exact Array.size_modify
  | announcement => exact ⟨(registrations_cons_of_none rfl _).trans began, rfl⟩

/-- Telling an observer about a run changes how often they have been told, not how they behave. -/
theorem conducts_tell (d : Desk) (i run observer : Nat) (report : Report) :
    (d.tell i run observer report).2.conducts = d.conducts := by
  simp only [tell]
  split
  · rfl
  · refine List.ext_getElem? fun k => ?_
    simp only [conducts, List.getElem?_map, Array.getElem?_toList, Array.getElem?_modify]
    split
    · rw [Option.map_map]
      rfl
    · rfl

/-- A step registers those whom its journal says it does. -/
theorem Step.registered (step : d.Step P d') (known : d.Registered observers) :
    d'.Registered observers := by
  -- Only an exercise that is opened and an answered registration change an audience. Each other
  -- step leaves the registrations and the audiences, so it is quiet.
  cases step with
  | schedule => exact known.quiet (registrations_cons_of_none rfl _) rfl rfl rfl fun _ => rfl
  | @turn c _ _ turned =>
    refine known.quiet (registrations_cons_of_none ?_ _) rfl rfl rfl fun _ => rfl
    cases c with
    | addObserver => cases turned
    | _ => rfl
  | openExercise => exact known.openExercise _ _
  | @launch target i a _ _ idle =>
    rw [launch_snd d i idle]
    refine known.quiet ?_ rfl rfl Array.size_modify fun k =>
      audience_modify d i (f := Attempt.start) (fun _ => rfl) k
    exact (registrations_cons_of_none rfl _).trans (registrations_cons_of_none rfl _)
  | @edit _ _ change i _ changes =>
    refine known.quiet (registrations_cons_of_none rfl _) rfl rfl Array.size_modify fun k =>
      audience_modify d i (f := change) (fun a => ?_) k
    obtain ⟨source, grade, same, -⟩ := Request.change?_eq_some changes a
    rw [same]
  | addObserver _ aimed => exact known.addObserver aimed _
  | @answer c reply quiet =>
    refine known.quiet (registrations_cons_of_none ?_ _) rfl rfl rfl fun _ => rfl
    cases c with
    | addObserver => exact quiet.elim
    | _ => rfl
  | @begin reading task rest taken =>
    have taking := (moveTo_of_takeDue? taken).2
    obtain ⟨audience, same, shared⟩ := (rest.moveTo task.due).audience_begin task
    obtain ⟨journal, opened⟩ := (rest.moveTo task.due).registrations_begin task
    have began : (rest.moveTo task.due).Registered observers := by
      rw [taking]
      exact known.quiet rfl rfl rfl rfl fun _ => rfl
    exact began.quiet journal (by rw [conducts, same]; rfl) shared opened audience
  | @tell i run _ observer report =>
    obtain ⟨audience, -, shared⟩ := d.audience_tell i run observer report
    obtain ⟨bench, entry⟩ := d.tell_snd i run observer report
    refine known.quiet ?_ (d.conducts_tell i run observer report) shared (by rw [bench]) audience
    rw [entry]
    exact registrations_cons_of_none rfl _
  | doze => exact known.quiet (registrations_cons_of_none rfl _) rfl rfl rfl fun _ => rfl
  | wake => exact known.quiet rfl rfl rfl rfl fun _ => rfl
  | move => exact known.quiet rfl rfl rfl rfl fun _ => rfl

/-- At a fresh desk the observers that it was opened with are registered. -/
theorem registered_fresh (clock : Clock) (sink : Option Conduct) (observers : List Conduct)
    (sleeper : Sleeper) : (fresh clock sink observers sleeper).Registered observers := by
  refine ⟨?_, rfl, fun i below => absurd below (Nat.not_lt_zero i), by simp [fresh, registrations]⟩
  simp [conducts, fresh, registrations, Function.comp_def]

/-- At a desk that was given some observers, everybody who is told about the runs of an attempt is
one of these or was registered with it. -/
theorem Run.registered {clock : Clock} {sink : Option Conduct} {sleeper : Sleeper}
    (run : (fresh clock sink observers sleeper).Run P d) : d.Registered observers :=
  run.keeps (registered_fresh clock sink observers sleeper) fun step => step.registered

end Desk

end DryRun
