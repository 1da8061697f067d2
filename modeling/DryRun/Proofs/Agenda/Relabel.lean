import DryRun.Agenda.Basic
import DryRun.Proofs.Agenda.Heap

/-!
# Agendas do not look at what tasks do

What an agenda does with its tasks depends on when they are due and on their numbers, not on what
they do. So every operation commutes with a change of what all tasks do (`Agenda.map`); the reason
is that a heap looks at its elements by `before` only (`Heap.push_map`, `Heap.pop?_map`).
-/

set_option autoImplicit false

namespace DryRun

namespace Heap

variable {α β : Type} {before : α → α → Bool} {before' : β → β → Bool} {f : α → β}

/-- Elements may be relabelled before or after they are swapped. -/
theorem swap_map (heap : Array α) {i j : Nat} (hi : i < heap.size) (hj : j < heap.size) :
    (heap.map f).swap i j (by simpa using hi) (by simpa using hj) = (heap.swap i j).map f := by
  simp only [Array.swap_def, Array.getElem_map, Array.map_set]

section

variable (alike : ∀ x y, before' (f x) (f y) = before x y)

include alike

/-- Elements may be relabelled before or after one is moved toward the root. -/
theorem siftUp_map (heap : Array α) (i : Nat) (inside : i < heap.size) :
    siftUp before' (heap.map f) i (by simpa using inside) =
      (siftUp before heap i inside).map f := by
  induction i using Nat.strongRecOn generalizing heap with
  | ind i ih =>
    rw [siftUp, siftUp]
    by_cases root : i = 0
    · rw [dif_pos root, dif_pos root]
    · rw [dif_neg root, dif_neg root]
      have up : (i - 1) / 2 < heap.size := by omega
      simp only [Array.getElem_map, alike]
      split
      · simp only [swap_map heap inside up]
        exact ih _ (by omega) _ (by simpa using up)
      · rfl

/-- The leading child is the same under other labels. -/
theorem leadingChild_map (heap : Array α) (i : Nat) (inside : 2 * i + 1 < heap.size) :
    (leadingChild before' (heap.map f) i (by simpa using inside)).1 =
      (leadingChild before heap i inside).1 := by
  simp only [leadingChild, Array.size_map, Array.getElem_map, alike]
  split
  · split <;> rfl
  · rfl

/-- Elements may be relabelled before or after one is moved down. -/
theorem sink_map (heap : Array α) (i : Nat) (inside : i < heap.size) :
    sink before' (heap.map f) i (by simpa using inside) = (sink before heap i inside).map f := by
  induction hk : heap.size - i using Nat.strongRecOn generalizing heap i with
  | ind k ih =>
    rw [sink, sink]
    by_cases leaf : 2 * i + 1 < heap.size
    · have same := leadingChild_map alike heap i leaf
      rw [dif_pos leaf, dif_pos (by simpa using leaf)]
      generalize leadingChild before' (heap.map f) i _ = found' at same ⊢
      generalize leadingChild before heap i leaf = found at same ⊢
      obtain ⟨child, below, childInside⟩ := found
      obtain ⟨_, _, _⟩ := found'
      obtain rfl := same
      simp only [swap_map heap inside childInside]
      exact ih _ (by simp only [Array.size_swap]; omega) _ _ (by simpa using childInside) rfl
    · rw [dif_neg leaf, dif_neg (by simpa using leaf)]
      exact siftUp_map alike heap i inside

/-- Elements may be relabelled before or after one is added. -/
theorem push_map (heap : Array α) (x : α) :
    push before' (heap.map f) (f x) = (push before heap x).map f := by
  simp only [push, ← Array.map_push, Array.size_map]
  exact siftUp_map alike _ _ _

/-- Elements may be relabelled before or after the first one is taken out. -/
theorem pop?_map (heap : Array α) :
    pop? before' (heap.map f) = (pop? before heap).map fun (x, rest) => (f x, rest.map f) := by
  rcases eq_empty_or_push heap with rfl | ⟨init, last, rfl⟩
  · simp [pop?]
  rw [Array.map_push, pop?_push, pop?_push]
  by_cases more : 0 < init.size
  · rw [dif_pos more, dif_pos (by simpa using more)]
    have sunk := sink_map alike (init.set 0 last) 0 (by simpa using more)
    simp only [Array.map_set] at sunk
    simp only [sunk, Array.getElem_map, Option.map_some]
  · rw [dif_neg more, dif_neg (by simpa using more)]
    rfl

end

end Heap

variable {α β : Type}

/-- The task with something else to do. -/
def Task.map (f : α → β) (task : Task α) : Task β := { task with action := f task.action }

/-- The action of a task does not matter to the order. -/
theorem Task.before_map (f : α → β) (a b : Task α) : (a.map f).before (b.map f) = a.before b := rfl

/-- The agenda with something else to do in every task. -/
def Agenda.map (f : α → β) (agenda : Agenda α) : Agenda β :=
  { agenda with tasks := agenda.tasks.map (Task.map f) }

namespace Agenda

variable (f : α → β) (agenda : Agenda α)

/-- Actions may be relabelled before or after a task is put down. -/
theorem put_map (delay : Float) (name : Text) (action : α) :
    (agenda.map f).put delay name (f action) =
      ((agenda.put delay name action).1.map f, (agenda.put delay name action).2.map f) := by
  have pushed := Heap.push_map (Task.before_map f) agenda.tasks
    ⟨agenda.now + delay, agenda.issued, name, action⟩
  simp only [put, map, ← pushed]
  rfl

/-- Actions may be relabelled before or after a task is scheduled. -/
theorem schedule_map (delay : Float) (name : Text) (action : α) :
    (agenda.map f).schedule delay name (f action) =
      (agenda.schedule delay name action).map fun (task, agenda) =>
        (task.map f, agenda.map f) := by
  simp only [schedule, put_map]
  split <;> rfl

/-- The first task is the same under other labels. -/
theorem first?_map : (agenda.map f).first? = agenda.first?.map (Task.map f) :=
  Array.getElem?_map

/-- Actions may be relabelled before or after a task is taken. -/
theorem take?_map :
    (agenda.map f).take? = agenda.take?.map fun (task, rest) => (task.map f, rest.map f) := by
  have popped := Heap.pop?_map (Task.before_map f) agenda.tasks
  simp only [take?, map, popped, Option.map_map]
  rfl

/-- Actions may be relabelled before or after a task is taken that is due. -/
theorem takeDue?_map (reading : Float) :
    (agenda.map f).takeDue? reading =
      (agenda.takeDue? reading).map fun (task, rest) => (task.map f, rest.map f) := by
  simp only [takeDue?, first?_map, take?_map]
  cases agenda.first? with
  | none => rfl
  | some task =>
    simp only [Option.map_some, Task.map]
    split <;> rfl

/-- Labels do not matter to when the next task is due. -/
theorem nextDue?_map : (agenda.map f).nextDue? = agenda.nextDue? := by
  rw [nextDue?, first?_map, Option.map_map]
  rfl

/-- Labels do not matter to how long is slept. -/
theorem sleepTime?_map : (agenda.map f).sleepTime? = agenda.sleepTime? := by
  simp only [sleepTime?, nextDue?_map]
  rfl

/-- Actions may be relabelled before or after the clock is moved to the next task. -/
theorem await_map : (agenda.map f).await = agenda.await.map f := by
  have clock : (agenda.map f).clock = agenda.clock := rfl
  have now : (agenda.map f).now = agenda.now := rfl
  simp only [await, nextDue?_map, clock, now]
  cases agenda.clock.kind with
  | virtual =>
    cases agenda.nextDue? with
    | none => rfl
    | some due =>
      simp only
      split <;> rfl
  | _ => rfl

/-- Labels do not matter to the number of tasks. -/
theorem pending_map : (agenda.map f).pending = agenda.pending := Array.size_map

end Agenda

end DryRun
