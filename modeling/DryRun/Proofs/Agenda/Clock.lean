import DryRun.Agenda.Clock
import DryRun.Proofs.Reading.Zero

/-!
# Clocks that go forward

A clock that is moved to a reading shows that reading or a later one (`le_moveTo`), and it does not
matter which readings it was moved to on the way (`moveTo_moveTo`). However it is
moved, a clock that shows a time does not go back, as long as nothing is added to its reading that
is not a number and outside code does not turn it back.
-/

set_option autoImplicit false

namespace DryRun.Clock

open Reading

variable {clock later : Clock}

/-- A clock that is moved to a reading shows that one at least. -/
theorem le_moveTo {reading : Float} (number : reading.isNaN = false)
    (shown : (clock.moveTo reading).reading.isNaN = false) :
    reading ≤ (clock.moveTo reading).reading := by
  unfold moveTo at shown ⊢
  split
  · exact le_of_not_lt number number (not_lt_self number)
  case isFalse later =>
    rw [if_neg later] at shown
    exact le_of_not_lt number shown later

/-- A clock that is moved stays of its kind. -/
@[simp] theorem moveTo_kind (reading : Float) : (clock.moveTo reading).kind = clock.kind := by
  unfold moveTo
  split <;> rfl

/-- A clock on which time passes stays of its kind. -/
@[simp] theorem elapse_kind (turn : Float → Float) : (clock.elapse turn).kind = clock.kind := by
  unfold elapse
  split <;> rfl

/-- A clock is moved to a later reading. -/
theorem moveTo_of_lt {reading : Float} (later : clock.reading < reading) :
    clock.moveTo reading = { clock with reading } :=
  if_pos later

/-- A clock is not moved back. -/
theorem moveTo_of_not_lt {reading : Float} (early : ¬ clock.reading < reading) :
    clock.moveTo reading = clock :=
  if_neg early

/-- A clock that is moved to its reading stays as it is. -/
theorem moveTo_self : clock.moveTo clock.reading = clock := by
  refine moveTo_of_not_lt fun less => ?_
  exact not_lt_self (number_of_le (Reading.le_of_lt less)).1 less

/-- Moving a clock neither brings in NaN nor removes it. -/
theorem isNaN_moveTo (reading : Float) :
    (clock.moveTo reading).reading.isNaN = clock.reading.isNaN := by
  unfold moveTo
  split
  case isTrue later =>
    obtain ⟨number, number'⟩ := number_of_le (Reading.le_of_lt later)
    rw [number, number']
  case isFalse => rfl

/-- Of a clock that is moved twice only the later reading counts, unless the two readings are
different zeros. -/
theorem moveTo_moveTo {first second : Float} (le : first ≤ second) (proper : first ≠ -0)
    (late : second = -0 → ¬ clock.reading < second) :
    (clock.moveTo first).moveTo second = clock.moveTo second := by
  obtain ⟨number, number'⟩ := number_of_le le
  by_cases less : clock.reading < first
  · have later := Reading.lt_of_lt_of_le less le
    have moved : clock.moveTo first = { clock with reading := first } := if_pos less
    rw [moved]
    unfold moveTo
    rw [if_pos later]
    split
    case isTrue => rfl
    case isFalse above =>
      have same : place first = place second :=
        le_antisymm ((le_iff number number').mp le)
          (not_lt.mp (mt (lt_iff number number').mpr above))
      rw [eq_of_place number number' same proper fun zero => late zero later]
  · rw [moveTo_of_not_lt less]

variable (time : IsTime clock.reading)

include time

/-- A clock that is moved to a reading does not go back. -/
theorem forward_moveTo (reading : Float) : clock.reading ≤ (clock.moveTo reading).reading := by
  unfold moveTo
  split
  case isTrue later => exact Reading.le_of_lt later
  case isFalse => exact time.le_self

/-- A clock that is moved by an amount of time does not go back. -/
theorem forward_move {seconds : Float} (number : seconds.isNaN = false)
    (moved : clock.move seconds = .ok later) : clock.reading ≤ later.reading := by
  unfold move at moved
  split at moved
  · split at moved
    case isTrue => cases moved
    case isFalse nonneg =>
      cases moved
      exact time.le_add ⟨number, nonneg⟩
  · cases moved

/-- A clock that is set does not go back. -/
theorem forward_set {reading : Float} (set : clock.set reading = .ok later) :
    clock.reading ≤ later.reading := by
  unfold Clock.set at set
  split at set
  · cases set
    exact forward_moveTo time reading
  · cases set

end DryRun.Clock
