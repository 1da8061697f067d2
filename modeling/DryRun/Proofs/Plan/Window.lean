import DryRun.Proofs.Plan.Drive

/-!
# A window that is split

Moving the clock forward by an amount of time and then by another one does to plans what moving it
forward once by both does (`Desk.advance_split`): the same tasks begin in the same order at the same
readings, and the same agenda is left.

At the agenda it comes down to two facts. What is due in the first part of the window is due in the
whole of it. And once nothing more is due in the first part, the clock may be moved to its end: a
task that is still to be taken is due after that, and the clock is moved on to it in any case. No
matter when the tasks of the second part were put down, nothing has to be known about their order.

The two readings at which the second part ends need only stand at the same place, since a clock that
goes forward does not come upon the negative zero (`Clock.Targets`).
-/

set_option autoImplicit false

namespace DryRun

open Reading

/-! ## Where a clock can be moved -/

namespace Clock

variable {clock : Clock} {target target' first second : Float}

/-- A reading that a clock can be moved to, unless it is past it: if it is the negative zero, the
clock is. -/
def Targets (clock : Clock) (target : Float) : Prop :=
  target.isNaN = false ∧ (target = -0 → ¬ clock.reading < target)

/-- A time after the one that a clock shows. -/
theorem Targets.after {seconds : Float}
    (sum : (clock.reading + seconds).isNaN = false) : clock.Targets (clock.reading + seconds) := by
  refine ⟨sum, fun zero => ?_⟩
  rw [zero, (add_eq_negZero zero).1]
  decide

/-- A target stays one when the clock is moved. -/
theorem Targets.moveTo (targets : clock.Targets target) (reading : Float) :
    (clock.moveTo reading).Targets target := by
  refine ⟨targets.1, fun zero => ?_⟩
  unfold Clock.moveTo
  split
  case isTrue later =>
    exact fun less => targets.2 zero (Reading.lt_of_lt_of_le later (Reading.le_of_lt less))
  case isFalse => exact targets.2 zero

/-- Moving a clock to readings at the same place is the same. -/
theorem moveTo_congr (targets : clock.Targets target) (targets' : clock.Targets target')
    (le : target ≤ target') (ge : target' ≤ target) :
    clock.moveTo target = clock.moveTo target' := by
  unfold moveTo
  by_cases later : clock.reading < target
  · have later' := Reading.lt_of_lt_of_le later le
    have same : place target = place target' :=
      le_antisymm ((le_iff targets.1 targets'.1).mp le) ((le_iff targets'.1 targets.1).mp ge)
    rw [if_pos later, if_pos later', eq_of_place targets.1 targets'.1 same
      (fun zero => targets.2 zero later) (fun zero => targets'.2 zero later')]
  · rw [if_neg later, if_neg fun later' => later (Reading.lt_of_lt_of_le later' ge)]

/-- An earlier reading on the way to another one can be left out. -/
theorem moveTo_moveTo_of_lt (less : first < second) :
    (clock.moveTo first).moveTo second = clock.moveTo second := by
  by_cases later : clock.reading < first
  · have moved : clock.moveTo first = { clock with reading := first } := if_pos later
    rw [moved, moveTo, moveTo, if_pos less,
      if_pos (Reading.lt_of_lt_of_le later (Reading.le_of_lt less))]
  · rw [moveTo_of_not_lt later]

/-- A clock that is moved twice has been moved to the later target. -/
theorem moveTo_moveTo_of_targets (targets : clock.Targets first) (targets' : clock.Targets second)
    (le : first ≤ second) : (clock.moveTo first).moveTo second = clock.moveTo second := by
  by_cases later : clock.reading < first
  · exact moveTo_moveTo le (fun zero => targets.2 zero later) targets'.2
  · rw [moveTo_of_not_lt later]

/-- A clock that is moved to where it has not yet been stands there. -/
theorem place_moveTo (number : clock.reading.isNaN = false) (le : clock.reading ≤ target) :
    place (clock.moveTo target).reading = place target := by
  have number' := (number_of_le le).2
  unfold moveTo
  split
  case isTrue => rfl
  case isFalse early =>
    exact le_antisymm ((le_iff number number').mp le)
      (not_lt.mp (mt (lt_iff number number').mpr early))

end Clock

/-! ## Drives that end at a reading -/

namespace Agenda

variable {a a₁ a' rest : Agenda Action} {task : Task Action} {begun begun' : List Beginning}
  {outcome : Outcome Unit} {first second target target' : Float}

/-- What is due at a reading is due later. -/
theorem takeDue?_of_le (taken : a.takeDue? first = some (task, rest)) (le : first ≤ second) :
    a.takeDue? second = some (task, rest) := by
  obtain ⟨due, taken⟩ := takeDue?_eq_some_iff.mp taken
  exact takeDue?_eq_some_iff.mpr ⟨Reading.le_trans due le, taken⟩

/-- What is not due at a reading is not due earlier. -/
theorem takeDue?_none_of_le (undue : a.takeDue? second = none) (le : first ≤ second) :
    a.takeDue? first = none := by
  refine takeDue?_eq_none_iff.mpr fun task rest taken due => ?_
  exact takeDue?_eq_none_iff.mp undue task rest taken (Reading.le_trans due le)

/-- Readings at the same place are as good as each other. -/
theorem Takes.congr (takes : a.Takes (some target) begun outcome a')
    (targets : a.clock.Targets target) (targets' : a.clock.Targets target') (le : target ≤ target')
    (ge : target' ≤ target) : a.Takes (some target') begun outcome a' := by
  induction takes with
  | @stop a undue =>
    have ends : a.moveTo target = a.moveTo target' := by
      rw [moveTo, moveTo, Clock.moveTo_congr targets targets' le ge]
    have stops : a.Takes (some target') [] (.returned ()) (a.moveTo target') :=
      .stop (takeDue?_none_of_le undue ge)
    rw [Option.elim, ends]
    exact stops
  | next taken carried _ ih =>
    have clock := clock_of_carried taken carried
    refine .next (takeDue?_of_le taken le) carried (ih ?_ ?_)
    · exact clock ▸ targets.moveTo _
    · exact clock ▸ targets'.moveTo _
  | fail taken carried => exact .fail (takeDue?_of_le taken le) carried

/-- A task that fails in the first part of a window fails in the whole of it. -/
theorem Takes.widen {failure : Failure}
    (takes : a.Takes (some first) begun (.failed failure) a') (le : first ≤ target) :
    a.Takes (some target) begun (.failed failure) a' := by
  generalize ends : Outcome.failed failure = ending at takes ⊢
  induction takes with
  | stop => cases ends
  | next taken carried _ ih => exact .next (takeDue?_of_le taken le) carried (ih ends)
  | fail taken carried => exact .fail (takeDue?_of_le taken le) carried

/-- Where nothing is due in the first part of a window, the clock may be moved to its end. -/
theorem Takes.skip (undue : a.takeDue? first = none) (targets : a.clock.Targets first)
    (targets' : a.clock.Targets target) (le : first ≤ target)
    (takes : (a.moveTo first).Takes (some target) begun outcome a') :
    a.Takes (some target) begun outcome a' := by
  -- A task that is taken is due after the first part, and so the clock is moved on to it.
  have onward {task : Task Action} {rest : Agenda Action}
      (taken : (a.moveTo first).takeDue? target = some (task, rest)) :
      ∃ rest', a.takeDue? target = some (task, rest') ∧
        rest'.moveTo task.due = rest.moveTo task.due := by
    rw [moveTo, takeDue?_withClock, Option.map_eq_some_iff] at taken
    obtain ⟨⟨head, rest'⟩, taken, same⟩ := taken
    obtain ⟨rfl, rfl⟩ := Prod.mk.inj same
    refine ⟨rest', taken, ?_⟩
    obtain ⟨due, -, kept⟩ := takeDue?_eq_some taken
    have late : first < head.due := lt_of_not_le targets.1 (number_of_le due).1
      (takeDue?_eq_none_iff.mp undue _ _ (takeDue?_eq_some_iff.mp taken).2)
    rw [moveTo, moveTo, Clock.moveTo_moveTo_of_lt late, kept]
  cases takes with
  | stop undue' =>
    rw [moveTo, takeDue?_withClock, Option.map_eq_none_iff] at undue'
    have ends : (a.moveTo first).moveTo target = a.moveTo target := by
      simp only [moveTo, Clock.moveTo_moveTo_of_targets targets targets' le]
    have stops : a.Takes (some target) [] (.returned ()) (a.moveTo target) := .stop undue'
    rw [Option.elim, ends]
    exact stops
  | next taken carried others =>
    obtain ⟨rest', taken', same⟩ := onward taken
    rw [← same] at carried ⊢
    exact .next taken' carried others
  | fail taken carried =>
    obtain ⟨rest', taken', same⟩ := onward taken
    rw [← same] at carried ⊢
    exact .fail taken' carried

/-- Two parts of a window are taken as the whole of it. -/
theorem Takes.join (early : a.Takes (some first) begun (.returned ()) a₁)
    (targets : a.clock.Targets first) (targets' : a.clock.Targets target) (le : first ≤ target)
    (late : a₁.Takes (some target) begun' outcome a') :
    a.Takes (some target) (begun ++ begun') outcome a' := by
  generalize ends : Outcome.returned () = ending at early
  induction early with
  | stop undue => exact late.skip undue targets targets' le
  | next taken carried _ ih =>
    have clock := clock_of_carried taken carried
    refine .next (takeDue?_of_le taken le) carried (ih ?_ ?_ late ends)
    · exact clock ▸ targets.moveTo _
    · exact clock ▸ targets'.moveTo _
  | fail => cases ends

/-- A drive that returns leaves the clock at the end of the window, if it began before that. -/
theorem Takes.place_now (takes : a.Takes (some target) begun (.returned ()) a')
    (number : a.now.isNaN = false) (le : a.now ≤ target) : place a'.now = place target := by
  generalize ends : Outcome.returned () = ending at takes
  induction takes with
  | stop => exact Clock.place_moveTo number le
  | @next a task rest a₁ _ _ _ taken carried _ ih =>
    have clock := clock_of_carried taken carried
    have due := (takeDue?_eq_some taken).1
    refine ih ?_ ?_ ends
    · rw [now, clock, Clock.isNaN_moveTo]
      exact number
    · rw [now, clock, Clock.moveTo]
      split
      · exact due
      · exact le
  | fail => cases ends

/-- A window is taken in two parts, of which the second one is left out if a task of the first one
fails. -/
theorem exists_split (time : IsTime a.now) (nonneg : 0 ≤ first) (nonneg' : 0 ≤ second)
    {whole : Float} (sum : (a.now + whole == a.now + first + second) = true) :
    ∃ begun outcome a', a.Takes (some (a.now + whole)) begun outcome a' ∧
      ((∃ failure, outcome = .failed failure ∧ a.Takes (some (a.now + first)) begun outcome a') ∨
        ∃ early late a₁, begun = early ++ late ∧
          a.Takes (some (a.now + first)) early (.returned ()) a₁ ∧
          a₁.Takes (some (a₁.now + second)) late outcome a') := by
  have delay {seconds : Float} (nonneg : 0 ≤ seconds) : IsDelay seconds :=
    ⟨(number_of_le nonneg).2, not_lt_of_le nonneg⟩
  have half : a.now ≤ a.now + first := time.le_add (delay nonneg)
  have full : a.now + first ≤ a.now + first + second := (time.of_le half).le_add (delay nonneg')
  obtain ⟨number, number'⟩ := number_of_le (le_of_beq sum)
  have same := (beq_iff number number').mp sum
  have le : a.now + first ≤ a.now + whole := by
    refine Reading.le_trans full ?_
    exact (le_iff number' number).mpr same.ge
  have targets : a.clock.Targets (a.now + whole) := .after number
  obtain ⟨early, ending, a₁, takes⟩ := exists_takes (some (a.now + first)) a
  cases ending with
  | failed failure =>
    exact ⟨early, _, a₁, takes.widen le, .inl ⟨failure, rfl, takes⟩⟩
  | unfinished => exact absurd rfl takes.finished
  | returned =>
    obtain ⟨late, outcome, a', takes'⟩ := exists_takes (some (a₁.now + second)) a₁
    have shown : a₁.now.isNaN = false :=
      takes.clock (p := fun clock => clock.reading.isNaN = false)
        (fun reading shown => (Clock.isNaN_moveTo reading).trans shown) time.1
    have stands := takes.place_now time.1 half
    have time₁ : IsTime a₁.now := ⟨shown, stands ▸ (time.of_le half).2⟩
    have number₁ := (number_of_le (time₁.le_add (delay nonneg'))).2
    -- The sums are floats that are equal but may differ in the sign of zero, so they are compared
    -- by their places.
    have places : place (a₁.now + second) = place (a.now + whole) := by
      rw [place_add_congr shown (number_of_le half).2 (delay nonneg').1 stands, same]
    have targets₁ : a₁.clock.Targets (a.now + whole) :=
      takes.clock (p := fun clock => clock.Targets (a.now + whole))
        (fun reading targets => targets.moveTo reading) targets
    have onward := takes'.congr (.after number₁) targets₁ ((le_iff number₁ number).mpr places.le)
      ((le_iff number number₁).mpr places.ge)
    exact ⟨early ++ late, outcome, a',
      takes.join (.after (number_of_le half).2) targets le onward,
      .inr ⟨early, late, a₁, rfl, takes, takes'⟩⟩

end Agenda

/-! ## Desks -/

namespace Desk

variable {d d₁ d' : Desk} {allowed : Float → Prop} {begun : List Beginning}
  {a' : Agenda Action} {outcome : Outcome Unit}

/-- The clock is moved forward by some amounts of time, one after the other, and the tasks that come
due are run. The numbers of tasks are added up; what fails is the last. -/
inductive Advances : Desk → List Float → Outcome Nat → Desk → Prop where
  | stop {d : Desk} : Advances d [] (.returned 0) d
  | next {d : Desk} {seconds ran d₁ rest outcome d'}
      (first : d.Does (.call (.advance seconds)) (.returned (.ran ran)) d₁)
      (others : Advances d₁ rest outcome d') :
      Advances d (seconds :: rest) (outcome.map (ran + ·)) d'
  | fail {d : Desk} {seconds rest failure d'}
      (first : d.Does (.call (.advance seconds)) (.failed failure) d') :
      Advances d (seconds :: rest) (.failed failure) d'

/-- One advance is a list of advances. -/
theorem Advances.last {seconds : Float} {ran : Nat}
    (does : d.Does (.call (.advance seconds)) (outcome.map fun _ => .ran ran) d') :
    d.Advances [seconds] (outcome.map fun _ => ran) d' := by
  cases outcome with
  | returned => exact .next does .stop
  | failed => exact .fail does
  | unfinished => exact absurd rfl does.1

/-- A desk takes the plans of a window as its agenda says. -/
theorem exists_advance {seconds : Float} (movable : d.agenda.clock.kind = .virtual)
    (plans : d.agenda.Plans allowed)
    (takes : d.agenda.Takes (some (d.agenda.now + seconds)) begun outcome a') :
    ∃ d', d.Does (.call (.advance seconds)) (outcome.map fun _ => .ran begun.length) d' ∧
      d.Becomes begun a' d' := by
  obtain ⟨d', taken, becomes⟩ := exists_takes takes plans rfl
  have does := taken.advance movable
  rw [List.length_map] at does
  exact ⟨d', does, becomes⟩

/-- At a desk with a virtual clock that shows a time and with plans only, moving the clock forward
by two amounts of time does what moving it forward by both at once does. -/
theorem advance_split (movable : d.agenda.clock.kind = .virtual) (time : IsTime d.agenda.now)
    (plans : d.agenda.Plans allowed) {first second whole : Float} (nonneg : 0 ≤ first)
    (nonneg' : 0 ≤ second)
    (sum : (d.agenda.now + whole == d.agenda.now + first + second) = true) :
    ∃ outcome once twice, d.Advances [whole] outcome once ∧
      d.Advances [first, second] outcome twice ∧ twice.agenda = once.agenda ∧
      beginnings (twice.eventsSince d.journal.length) =
        beginnings (once.eventsSince d.journal.length) ∧
      ((∀ delay, allowed delay → ¬ delay < 0) →
        outcome = .returned (beginnings (once.eventsSince d.journal.length)).length) := by
  obtain ⟨begun, outcome, a', takes, split⟩ := Agenda.exists_split time nonneg nonneg' sum
  obtain ⟨once, does, becomes⟩ := exists_advance movable plans takes
  have counted : (∀ delay, allowed delay → ¬ delay < 0) → (outcome.map fun _ => begun.length) =
      .returned (beginnings (once.eventsSince d.journal.length)).length := by
    intro nonneg
    rw [(takes.plans plans).2 nonneg, becomes.beginnings.1]
    rfl
  -- Either a task of the first window fails and nothing more is driven, or both windows are.
  obtain ⟨failure, rfl, failed⟩ | ⟨early, late, a₁, rfl, first, second⟩ := split
  · obtain ⟨twice, does', becomes'⟩ := exists_advance movable plans failed
    exact ⟨_, once, twice, .last does, .fail does', becomes'.agenda.trans becomes.agenda.symm,
      becomes'.beginnings.1.trans becomes.beginnings.1.symm, counted⟩
  · obtain ⟨d₁, does₁, becomes₁⟩ := exists_advance movable plans first
    have movable₁ : d₁.agenda.clock.kind = .virtual := by
      rw [becomes₁.agenda]
      exact first.clock (p := fun clock => clock.kind = .virtual)
        (fun reading same => (Clock.moveTo_kind reading).trans same) movable
    have plans₁ : d₁.agenda.Plans allowed := becomes₁.agenda ▸ (first.plans plans).1
    obtain ⟨twice, does₂, becomes₂⟩ := exists_advance movable₁ plans₁ (becomes₁.agenda ▸ second)
    have becomes' := becomes₁.trans becomes₂
    refine ⟨_, once, twice, .last does, ?_, becomes'.agenda.trans becomes.agenda.symm,
      becomes'.beginnings.1.trans becomes.beginnings.1.symm, counted⟩
    have both := Advances.next does₁ (.last does₂)
    cases outcome with
    | returned => simpa [Outcome.map] using both
    | failed => exact both
    | unfinished => exact absurd rfl takes.finished

/-- A desk with a task that is due at 1. It puts down one for the same time, one for 2, of which
another one comes, and one for 6. -/
def chainedDesk : Desk where
  agenda :=
    { clock := ⟨.virtual, 0⟩
      tasks := #[⟨1, 0, [], .script
        [.schedule 0 [] [], .schedule 1 [] [.schedule 1 [] []], .schedule 5 [] []]⟩]
      issued := 1 }

/-- Three seconds at once, and one second before two. -/
theorem advance_split_chained :
    ∃ count once twice, chainedDesk.Advances [3] (.returned count) once ∧
      chainedDesk.Advances [1, 2] (.returned count) twice ∧ twice.agenda = once.agenda ∧
      beginnings (twice.eventsSince 0) = beginnings (once.eventsSince 0) := by
  have time : IsTime (0 : Float) := ⟨rfl, WithBot.coe_ne_bot⟩
  have leaf {delay : Float} (nonneg : ¬ delay < 0) :
      (Call.schedule delay [] []).Plans fun delay => ¬ delay < 0 :=
    .schedule nonneg (by simp)
  have chain : (Call.schedule 1 [] [.schedule 1 [] []]).Plans fun delay => ¬ delay < 0 :=
    .schedule (by decide) (by simpa using leaf (by decide))
  have plans : chainedDesk.agenda.Plans fun delay => ¬ delay < 0 := by
    intro task member
    simp only [chainedDesk, List.mem_toArray, List.mem_singleton] at member
    refine ⟨_, congrArg Task.action member, ?_⟩
    simp only [List.forall_mem_cons]
    exact ⟨leaf (by decide), chain, leaf (by decide), by simp⟩
  obtain ⟨outcome, once, twice, single, double, agenda, begun, counted⟩ :=
    advance_split (d := chainedDesk) rfl time plans (show (0 : Float) ≤ 1 by decide)
      (show (0 : Float) ≤ 2 by decide)
      (show (chainedDesk.agenda.now + 3 == chainedDesk.agenda.now + 1 + 2) = true by decide)
  rw [counted fun _ nonneg => nonneg] at single double
  exact ⟨_, once, twice, single, double, agenda, begun⟩

end Desk

end DryRun
