import DryRun.Proofs.Desk.Effects
import DryRun.Proofs.Desk.Step

/-!
# The journal of a run

Outside code does not see a desk between two of its own operations only: it is called while a task
runs, while observers are told, while the sink is told and while somebody sleeps. At each of these
points there is an entry in the journal (`Event.IsOutside`). `Run.boundaries` says that such a point
is the end of a step, with nothing half done: what holds of a desk after every run holds of the
bench that outside code finds there, and of the journal up to that entry.

Entries that are written while the desk itself is at work, as when a run is taken from the agenda
and has not yet yielded its grade, are no such points.
-/

set_option autoImplicit false

namespace DryRun

/-- Whether outside code may be at work when something has happened. -/
def Event.IsOutside : Event → Prop
  | .began task => ∃ calls, task.action = .script calls
  | .launched .. => False
  | .slept _ | .finished .. | .reported .. | .announced .. | .answered .. => True

/-- Every moment of a journal has a property in view of the moments before it. -/
def Throughout (Q : Moment → List Moment → Prop) : List Moment → Prop
  | [] => True
  | m :: earlier => Q m earlier ∧ Throughout Q earlier

/-- What holds throughout a journal does so in a weaker form. -/
theorem Throughout.mono {Q R : Moment → List Moment → Prop} {journal : List Moment}
    (holds : Throughout Q journal) (weaker : ∀ m earlier, Q m earlier → R m earlier) :
    Throughout R journal := by
  induction journal with
  | nil => trivial
  | cons m earlier ih => exact ⟨weaker m earlier holds.1, ih holds.2⟩

/-- Two properties hold throughout a journal if each does. -/
theorem Throughout.and {Q R : Moment → List Moment → Prop} {journal : List Moment}
    (first : Throughout Q journal) (second : Throughout R journal) :
    Throughout (fun m earlier => Q m earlier ∧ R m earlier) journal := by
  induction journal with
  | nil => trivial
  | cons m earlier ih => exact ⟨⟨first.1, second.1⟩, ih first.2 second.2⟩

/-- What holds throughout a journal has held throughout all earlier ones. -/
theorem Throughout.of_append {Q : Moment → List Moment → Prop} {recent journal : List Moment}
    (holds : Throughout Q (recent ++ journal)) : Throughout Q journal := by
  induction recent with
  | nil => exact holds
  | cons m recent ih => exact ih holds.2

/-- What holds of every moment in view of those before it holds throughout. -/
theorem Throughout.of_suffix {Q : Moment → List Moment → Prop} {journal : List Moment}
    (holds : ∀ m earlier, m :: earlier <:+ journal → Q m earlier) : Throughout Q journal := by
  induction journal with
  | nil => trivial
  | cons m earlier ih =>
    exact ⟨holds m earlier (List.suffix_refl _),
      ih fun k rest suffix => holds k rest (suffix.trans (List.suffix_cons _ _))⟩

/-- A moment of a journal has what every moment has, in view of some of the earlier ones. -/
theorem Throughout.mem {Q : Moment → List Moment → Prop} {journal : List Moment}
    (holds : Throughout Q journal) {m : Moment} (member : m ∈ journal) :
    ∃ earlier, m :: earlier <:+ journal ∧ Q m earlier := by
  induction journal with
  | nil => cases member
  | cons k rest ih =>
    rcases List.mem_cons.mp member with rfl | old
    · exact ⟨rest, List.suffix_refl _, holds.1⟩
    · obtain ⟨earlier, suffix, property⟩ := ih holds.2 old
      exact ⟨earlier, suffix.trans (List.suffix_cons _ _), property⟩

namespace Desk

variable {P : Call → Prop} {d d' : Desk}

/-- What has been written into a journal, if anything: a moment at the end, with the bench as it is
then, after others at which outside code is not at work. -/
def Entered (d d' : Desk) : Prop :=
  d'.journal = d.journal ∨ ∃ m inner, d'.journal = m :: (inner ++ d.journal) ∧
    m.bench = d'.toBench ∧ ∀ k ∈ inner, ¬ k.event.IsOutside

/-- A task that begins is entered into the journal. -/
theorem entered_begin (d : Desk) (task : Task Action) : d.Entered (d.begin task).2 := by
  have begun := d.begins task
  generalize d.begin task = result at begun ⊢
  have inner {m : Moment} (event : m.event = .began task)
      (inside : ∀ calls, task.action ≠ .script calls) :
      ∀ k ∈ [m], ¬ k.event.IsOutside := by
    intro k member
    rw [List.mem_singleton.mp member, event]
    rintro ⟨calls, action⟩
    exact inside calls action
  cases begun with
  | script => exact .inr ⟨_, [], rfl, rfl, by simp⟩
  | stray => exact .inr ⟨_, [], rfl, rfl, by simp⟩
  | @run i a action =>
    exact .inr ⟨_, [⟨.began task, d.toBench⟩], finish_journal _ _ _ _, rfl,
      inner rfl (by simp [action])⟩
  | announcement action =>
    exact .inr ⟨_, [⟨.began task, d.toBench⟩], rfl, rfl, inner rfl (by simp [action])⟩

/-- What one step writes into the journal. -/
theorem Step.entered (step : d.Step P d') : d.Entered d' := by
  have single {d d' : Desk} {m : Moment} (entry : d'.journal = m :: d.journal)
      (bench : m.bench = d'.toBench) : d.Entered d' :=
    .inr ⟨m, [], entry, bench, by simp⟩
  cases step with
  | schedule => exact single rfl rfl
  | turn => exact single rfl rfl
  | openExercise => exact single rfl rfl
  | @launch target i a aimed found idle =>
    rw [launch_snd d _ idle]
    refine .inr ⟨_, [_], rfl, rfl, ?_⟩
    intro k member
    rw [List.mem_singleton.mp member]
    exact id
  | edit => exact single rfl rfl
  | addObserver => exact single rfl rfl
  | answer => exact single rfl rfl
  | @begin reading task rest taken =>
    have same : (rest.moveTo task.due).journal = d.journal := by
      rw [(moveTo_of_takeDue? taken).2]
    have entered := (rest.moveTo task.due).entered_begin task
    rwa [Entered, same] at entered
  | @tell i run place observer report =>
    obtain ⟨bench, entry⟩ := d.tell_snd i run observer report
    exact single entry bench.symm
  | doze => exact single rfl rfl
  | wake => exact .inl rfl
  | move => exact .inl rfl

/-- What is entered is put in front of the journal. -/
theorem Entered.journal (entered : d.Entered d') : d.journal <:+ d'.journal := by
  rcases entered with same | ⟨m, inner, entry, -⟩
  · exact same ▸ List.suffix_refl _
  · rw [entry]
    exact (List.suffix_append _ _).trans (List.suffix_cons _ _)

/-- A step only adds to the journal. -/
theorem Step.journal (step : d.Step P d') : d.journal <:+ d'.journal := step.entered.journal

/-- What every step keeps holds after every run. -/
theorem Run.keeps {I : Desk → Prop} (run : d.Run P d') (initially : I d)
    (kept : ∀ {d d' : Desk}, d.Step P d' → I d → I d') : I d' := by
  induction run with
  | refl => exact initially
  | tail _ step ih => exact kept step ih

/-- A run of steps only adds to the journal. -/
theorem Run.journal (run : d.Run P d') : d.journal <:+ d'.journal :=
  run.keeps (I := fun d' => d.journal <:+ d'.journal) (List.suffix_refl _)
    fun step old => old.trans step.journal

/-- Whenever outside code is at work, the desk is at the end of a run. -/
theorem Run.boundaries (run : d.Run P d') (fresh : d.journal = []) :
    Throughout (fun m earlier => m.event.IsOutside →
      ∃ d₁ : Desk, d.Run P d₁ ∧ d₁.toBench = m.bench ∧ d₁.journal = m :: earlier) d'.journal := by
  induction run with
  | refl =>
    rw [fresh]
    trivial
  | @tail d₀ d₁ run step ih =>
    rcases step.entered with same | ⟨m, inner, entry, bench, inside⟩
    · rwa [same]
    · rw [entry]
      refine ⟨fun _ => ⟨d₁, run.tail step, bench.symm, entry⟩, ?_⟩
      clear entry
      induction inner with
      | nil => exact ih
      | cons k inner ih' =>
        exact ⟨fun outside => absurd outside (inside k List.mem_cons_self),
          ih' fun k member => inside k (List.mem_cons_of_mem _ member)⟩

end Desk

end DryRun
