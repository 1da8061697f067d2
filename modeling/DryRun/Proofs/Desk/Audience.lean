import DryRun.Proofs.Desk.Journal

/-!
# The audience of an attempt

Those who are told about the finished runs of an attempt are its audience, named by their numbers
and in the order in which they were registered. A step leaves every audience as it is but for two
kinds of step (`Step.enrols`): an exercise is opened, whose attempt begins with the shared
observers, or someone new is put at the end of an audience.

So an audience only ever grows, and at its end (`Run.audience_prefix`), and it is made of different
observers that there are (`Run.enrolled`).
-/

set_option autoImplicit false

namespace DryRun

/-- The numbers of those who are told about the runs of an attempt, in order. -/
def Bench.audience (b : Bench) (i : Nat) : List Nat :=
  (b.attempts[i]?.map Attempt.observers).getD []

namespace Desk

variable {P : Call → Prop} {d d' : Desk}

/-- Numbers of different observers that there are. -/
def Knows (d : Desk) (numbers : List Nat) : Prop :=
  numbers.Nodup ∧ ∀ number ∈ numbers, number < d.observers.size

/-- Every audience is made of different observers that there are. -/
structure Enrolled (d : Desk) : Prop where
  shared : d.Knows d.shared
  audience : ∀ i, d.Knows (d.audience i)

/-- What a step does to the audiences. -/
inductive Enrols (d d' : Desk) : Prop where
  | same (audience : ∀ i, d'.audience i = d.audience i)
      (observers : d'.observers.size = d.observers.size) (shared : d'.shared = d.shared)
  | opened (audience : ∀ i, d'.audience i =
        if i = d.attempts.size then d.shared else d.audience i)
      (observers : d'.observers.size = d.observers.size) (shared : d'.shared = d.shared)
  | added {i} (audience : ∀ k, d'.audience k =
        if i = k then d.audience k ++ [d.observers.size] else d.audience k)
      (observers : d'.observers.size = d.observers.size + 1) (shared : d'.shared = d.shared)

/-- The observer at a place is the one at that place of the audience. -/
theorem listener?_eq (d : Desk) (i place : Nat) : d.listener? i place = (d.audience i)[place]? := by
  rw [listener?, Bench.audience]
  cases d.attempts[i]? <;> rfl

/-- Where there is no attempt there is no audience. -/
theorem audience_of_size_le {i : Nat} (le : d.attempts.size ≤ i) : d.audience i = [] := by
  rw [Bench.audience, Array.getElem?_eq_none le]
  rfl

/-- A change of an attempt that leaves its observers leaves every audience. -/
theorem audience_modify (d : Desk) (i : Nat) {f : Attempt → Attempt}
    (keeps : ∀ a, (f a).observers = a.observers) (k : Nat) :
    (d.modify i f).audience k = d.audience k := by
  rw [Bench.audience, modify_getElem?, Bench.audience]
  split
  · rw [Option.map_map]
    cases d.attempts[k]? with
    | none => rfl
    | some a => exact keeps a
  · rfl

/-- Somebody who is registered with an attempt comes last in its audience. -/
theorem audience_addObserver {i : Nat} (opened : i < d.attempts.size) (conduct : Conduct)
    (k : Nat) : (d.addObserver i conduct).audience k =
      if i = k then d.audience k ++ [d.observers.size] else d.audience k := by
  rw [Bench.audience, Desk.addObserver, modify_getElem?]
  split
  case isTrue same =>
    subst same
    obtain ⟨a, found⟩ : ∃ a, d.attempts[i]? = some a := ⟨_, Array.getElem?_eq_getElem opened⟩
    simp only [Bench.audience, found, Option.map_some, Option.getD_some]
  case isFalse => rfl

/-- Finishing a run leaves every audience. -/
theorem audience_finish (d : Desk) (i run : Nat) (a : Attempt) (k : Nat) :
    (d.finish i run a).2.audience k = d.audience k := by
  have finished := audience_modify d i (f := Attempt.finish) (fun _ => rfl) k
  rw [finish_snd, promise_eq]
  split <;> exact finished

/-- A task that begins leaves every audience and all observers. -/
theorem audience_begin (d : Desk) (task : Task Action) :
    (∀ k, (d.begin task).2.audience k = d.audience k) ∧
      (d.begin task).2.observers = d.observers ∧ (d.begin task).2.shared = d.shared := by
  have begun := d.begins task
  generalize d.begin task = result at begun ⊢
  cases begun with
  | script => exact ⟨fun _ => rfl, rfl, rfl⟩
  | stray => exact ⟨fun _ => rfl, rfl, rfl⟩
  | run =>
    refine ⟨fun k => audience_finish _ _ _ _ k, ?_⟩
    rw [finish_snd, promise_eq]
    split <;> exact ⟨rfl, rfl⟩
  | announcement => exact ⟨fun _ => rfl, rfl, rfl⟩

/-- An observer who is told leaves every audience and all numbers. -/
theorem audience_tell (d : Desk) (i run observer : Nat) (report : Report) :
    (∀ k, (d.tell i run observer report).2.audience k = d.audience k) ∧
      (d.tell i run observer report).2.observers.size = d.observers.size ∧
      (d.tell i run observer report).2.shared = d.shared := by
  refine ⟨fun k => by rw [(d.tell_snd i run observer report).1], ?_⟩
  simp only [tell]
  split
  · exact ⟨rfl, rfl⟩
  · exact ⟨Array.size_modify, rfl⟩

/-- Only the opening of an exercise and the registration of someone new concern the audiences. -/
theorem Step.enrols (step : d.Step P d') : d.Enrols d' := by
  cases step with
  | schedule => exact .same (fun _ => rfl) rfl rfl
  | turn => exact .same (fun _ => rfl) rfl rfl
  | @openExercise exercise =>
    refine .opened (fun k => ?_) rfl rfl
    show ((d.attempts.push (.ofExercise exercise d.shared))[k]?.map Attempt.observers).getD [] = _
    rw [Array.getElem?_push]
    split <;> rfl
  | @launch _ i a _ _ idle =>
    rw [launch_snd d i idle]
    exact .same (fun k => audience_modify d i (f := Attempt.start) (fun _ => rfl) k) rfl rfl
  | @edit _ _ change i _ changes =>
    refine .same (fun k => audience_modify d i (f := change) (fun a => ?_) k) rfl rfl
    obtain ⟨source, grade, same, -⟩ := Request.change?_eq_some changes a
    rw [same]
  | @addObserver target conduct i _ aimed =>
    exact .added (audience_addObserver (lt_of_aim aimed) conduct) (Array.size_push _) rfl
  | answer => exact .same (fun _ => rfl) rfl rfl
  | @begin reading task rest taken =>
    obtain ⟨audience, observers, shared⟩ := (rest.moveTo task.due).audience_begin task
    have kept : (rest.moveTo task.due).attempts = d.attempts ∧
        (rest.moveTo task.due).observers = d.observers ∧
        (rest.moveTo task.due).shared = d.shared := by
      rw [(moveTo_of_takeDue? taken).2]
      exact ⟨rfl, rfl, rfl⟩
    refine .same (fun k => (audience k).trans ?_) (congrArg Array.size (observers.trans kept.2.1))
      (shared.trans kept.2.2)
    rw [Bench.audience, kept.1, Bench.audience]
  | @tell i run place observer report =>
    obtain ⟨audience, observers, shared⟩ := d.audience_tell i run observer report
    exact .same audience observers shared
  | doze => exact .same (fun _ => rfl) rfl rfl
  | wake => exact .same (fun _ => rfl) rfl rfl
  | move => exact .same (fun _ => rfl) rfl rfl

/-- An audience only grows, and at its end. -/
theorem Run.audience_prefix (run : d.Run P d') (i : Nat) : d.audience i <+: d'.audience i := by
  induction run with
  | refl => exact List.prefix_rfl
  | @tail d₁ d₂ _ step ih =>
    refine ih.trans ?_
    cases step.enrols with
    | same audience => exact audience i ▸ List.prefix_rfl
    | opened audience =>
      rw [audience]
      split
      case isTrue new => exact audience_of_size_le new.ge ▸ List.nil_prefix
      case isFalse => exact List.prefix_rfl
    | added audience =>
      rw [audience]
      split
      · exact List.prefix_append _ _
      · exact List.prefix_rfl

/-- Observers that are known stay known as there come more. -/
theorem Knows.mono {numbers : List Nat} (knows : d.Knows numbers)
    (observers : d.observers.size ≤ d'.observers.size) : d'.Knows numbers :=
  ⟨knows.1, fun number member => (knows.2 number member).trans_le observers⟩

/-- Someone new is not among those who are known already. -/
theorem Knows.snoc {numbers : List Nat} (knows : d.Knows numbers)
    (observers : d'.observers.size = d.observers.size + 1) :
    d'.Knows (numbers ++ [d.observers.size]) := by
  have fresh : d.observers.size ∉ numbers := fun old => Nat.lt_irrefl _ (knows.2 _ old)
  refine ⟨knows.1.append (List.nodup_singleton _) (List.disjoint_singleton.mpr fresh), ?_⟩
  intro number member
  rcases List.mem_append.mp member with old | new
  · have known : d'.Knows numbers := knows.mono (by omega)
    exact known.2 number old
  · rw [List.mem_singleton.mp new, observers]
    exact Nat.lt_succ_self _

/-- Whoever is told about the runs of some attempt is known. -/
theorem Run.enrolled (run : d.Run P d') (enrolled : d.Enrolled) : d'.Enrolled := by
  refine run.keeps enrolled fun {d d'} step enrolled => ?_
  cases step.enrols with
  | same audience observers shared =>
    refine ⟨shared ▸ enrolled.shared.mono observers.ge, fun i => ?_⟩
    exact audience i ▸ (enrolled.audience i).mono observers.ge
  | opened audience observers shared =>
    refine ⟨shared ▸ enrolled.shared.mono observers.ge, fun i => ?_⟩
    rw [audience]
    split
    · exact enrolled.shared.mono observers.ge
    · exact (enrolled.audience i).mono observers.ge
  | added audience observers shared =>
    have more : d.observers.size ≤ d'.observers.size := by omega
    refine ⟨shared ▸ enrolled.shared.mono more, fun k => ?_⟩
    rw [audience]
    split
    · exact (enrolled.audience k).snoc observers
    · exact (enrolled.audience k).mono more

/-- At a fresh desk everybody in an audience is enrolled. -/
theorem enrolled_fresh (clock : Clock) (sink : Option Conduct) (observers : List Conduct)
    (sleeper : Sleeper) : (fresh clock sink observers sleeper).Enrolled := by
  constructor
  · refine ⟨List.nodup_range, fun number member => ?_⟩
    simpa [fresh] using member
  · intro i
    rw [audience_of_size_le (Nat.zero_le i)]
    exact ⟨.nil, by simp⟩

end Desk

end DryRun
