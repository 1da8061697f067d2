import DryRun.Proofs.Agenda.Clock
import DryRun.Proofs.Agenda.Tasks

/-!
# Tasks in line

The tasks of an agenda that satisfy a condition stand in line, the one first that is taken first
(`Agenda.Lines`). The heap in which they are kept does not show the line, but its operations can be
told from it: a task that is put down stands behind those that are due as early (`Lines.put`), and a
task that is taken is the first one in line (`Lines.take`). Tasks that do not satisfy the condition
come and go without the line changing. All of this holds at a regular agenda (`Agenda.Regular`), at
which tasks are put down for later only.
-/

set_option autoImplicit false

namespace DryRun

variable {α : Type}

open Reading

/-- The line with a new task behind those that are due as early. -/
noncomputable def enqueue {β : Type} (due : β → Float) (task : β) : List β → List β
  | [] => [task]
  | first :: rest =>
    if place (due first) ≤ place (due task) then first :: enqueue due task rest
    else task :: first :: rest

/-- A line has the new task and those that it had. -/
theorem enqueue_perm {β : Type} (due : β → Float) (task : β) (line : List β) :
    (enqueue due task line).Perm (task :: line) := by
  induction line with
  | nil => exact .rfl
  | cons first rest ih =>
    unfold enqueue
    split
    · exact (ih.cons first).trans (.swap task first rest)
    · exact .rfl

/-- Where a task stands in line is a matter of when it is due. -/
theorem map_enqueue {β γ : Type} {due : β → Float} {due' : γ → Float} {f : β → γ}
    (same : ∀ task, due' (f task) = due task) (task : β) (line : List β) :
    (enqueue due task line).map f = enqueue due' (f task) (line.map f) := by
  induction line with
  | nil => rfl
  | cons first rest ih =>
    simp only [enqueue, List.map_cons, same]
    split
    · rw [List.map_cons, ih]
    · rfl

/-- A task with a greater number than those in line keeps the line in order. -/
theorem enqueue_order {task : Task α} {line : List (Task α)}
    (order : line.Pairwise fun a b => a.rank < b.rank)
    (last : ∀ other ∈ line, other.sequence < task.sequence) :
    (enqueue Task.due task line).Pairwise fun a b => a.rank < b.rank := by
  induction line with
  | nil => exact List.pairwise_singleton ..
  | cons first rest ih =>
    obtain ⟨ahead, order⟩ := List.pairwise_cons.mp order
    have sorted := ih order fun other member => last other (List.mem_cons_of_mem first member)
    unfold enqueue
    split
    case isTrue early =>
      refine List.pairwise_cons.mpr ⟨fun other member => ?_, sorted⟩
      rcases List.mem_cons.mp ((enqueue_perm Task.due task rest).mem_iff.mp member) with rfl | old
      · rw [Task.rank, Task.rank, Prod.Lex.toLex_lt_toLex]
        exact (lt_or_eq_of_le early).imp_right fun same => ⟨same, last first List.mem_cons_self⟩
      · exact ahead other old
    case isFalse late =>
      have overtakes : task.rank < first.rank := by
        rw [Task.rank, Task.rank, Prod.Lex.toLex_lt_toLex]
        exact .inl (not_le.mp late)
      refine List.pairwise_cons.mpr ⟨fun other member => ?_, List.pairwise_cons.mpr ⟨ahead, order⟩⟩
      rcases List.mem_cons.mp member with rfl | old
      · exact overtakes
      · exact overtakes.trans (ahead other old)

namespace Agenda

variable {agenda rest : Agenda α} {p : Task α → Bool} {line : List (Task α)} {task : Task α}
  {reading : Float}

/-- The tasks that satisfy a condition stand in line. -/
structure Lines (agenda : Agenda α) (p : Task α → Bool) (line : List (Task α)) : Prop where
  tasks : (agenda.tasks.toList.filter p).Perm line
  order : line.Pairwise fun a b => a.rank < b.rank

/-- The tasks in line are those of the agenda that satisfy the condition. -/
theorem Lines.mem_iff (lines : agenda.Lines p line) :
    task ∈ line ↔ task ∈ agenda.tasks ∧ p task = true := by
  rw [← lines.tasks.mem_iff, List.mem_filter, Array.mem_toList_iff]

/-- A task that does not satisfy the condition is put down. -/
theorem Lines.put_other (lines : agenda.Lines p line) {delay : Float} {name : Text} {action : α}
    (other : p ⟨agenda.now + delay, agenda.issued, name, action⟩ = false) :
    (agenda.put delay name action).2.Lines p line := by
  refine ⟨((tasks_put agenda delay name action).filter p).trans ?_, lines.order⟩
  rw [List.filter_cons_of_neg (by simp [other])]
  exact lines.tasks

/-- A task that satisfies the condition is put down under a number of its own. -/
theorem Lines.put (lines : agenda.Lines p line)
    (issued : ∀ task ∈ agenda.tasks, task.sequence < agenda.issued) {delay : Float} {name : Text}
    {action : α} (one : p ⟨agenda.now + delay, agenda.issued, name, action⟩ = true) :
    (agenda.put delay name action).2.Lines p
      (enqueue Task.due ⟨agenda.now + delay, agenda.issued, name, action⟩ line) := by
  constructor
  · refine ((tasks_put agenda delay name action).filter p).trans ?_
    rw [List.filter_cons_of_pos one]
    exact (lines.tasks.cons _).trans (enqueue_perm ..).symm
  · exact enqueue_order lines.order fun other member => issued other (lines.mem_iff.mp member).1

/-- A task that does not satisfy the condition is taken. -/
theorem Lines.take_other (lines : agenda.Lines p line)
    (taken : agenda.takeDue? reading = some (task, rest)) (other : p task = false) :
    rest.Lines p line := by
  have tasks := ((Heap.pop?_perm (takeDue?_eq_some taken).2.1).2.filter p).symm
  rw [List.filter_cons_of_neg (by simp [other])] at tasks
  exact ⟨tasks.trans lines.tasks, lines.order⟩

/-- A task that satisfies the condition and is taken is the first one in line. -/
theorem Lines.take (lines : agenda.Lines p line) (queued : agenda.Queued)
    (taken : agenda.takeDue? reading = some (task, rest)) (one : p task = true) :
    ∃ behind, line = task :: behind ∧ rest.Lines p behind := by
  obtain ⟨-, popped, -⟩ := takeDue?_eq_some taken
  obtain ⟨left, number, first⟩ := queued.pop popped
  have tasks := ((Heap.pop?_perm popped).2.filter p).symm.trans lines.tasks
  rw [List.filter_cons_of_pos one] at tasks
  have member : task ∈ line := tasks.mem_iff.mp List.mem_cons_self
  cases line with
  | nil => simp at member
  | cons head behind =>
    obtain ⟨ahead, order⟩ := List.pairwise_cons.mp lines.order
    have same : head = task := by
      by_contra apart
      have waits : head ∈ rest.tasks := by
        have other := tasks.mem_iff.mpr (List.mem_cons_self (a := head) (l := behind))
        have inner := (List.mem_cons.mp other).resolve_left apart
        exact Array.mem_toList_iff.mp (List.mem_filter.mp inner).1
      have behindIt := (List.mem_cons.mp member).resolve_left fun same => apart same.symm
      have notBefore :=
        (Task.before_eq_false_iff (left.due head waits) number).mp (first head waits)
      exact absurd (ahead task behindIt) (not_lt.mpr notBefore)
    subst same
    exact ⟨behind, rfl, tasks.cons_inv, order⟩

/-- No task is taken only if none is due. -/
theorem takeDue?_eq_none (queued : agenda.Queued) (none : agenda.takeDue? reading = none) :
    ∀ task ∈ agenda.tasks, ¬ task.due ≤ reading := by
  intro task member due
  obtain ⟨i, inside, rfl⟩ := Array.mem_iff_getElem.mp member
  have first : agenda.first? = some agenda.tasks[0] := Array.getElem?_eq_getElem (by omega)
  have root : agenda.tasks[0].due ≤ reading := by
    by_cases inner : i = 0
    · subst inner
      exact due
    · have follows := queued.ordered.follows_root Task.orders queued.due i (by omega) inside _ _
        first (Array.getElem?_eq_getElem inside)
      have numbers (k : Nat) (inside : k < agenda.tasks.size) :=
        queued.due agenda.tasks[k] (Array.getElem_mem inside)
      have ranks := (Task.before_eq_false_iff (numbers i inside) (numbers 0 (by omega))).mp follows
      have places := Prod.Lex.monotone_fst _ _ ranks
      exact Reading.le_trans ((le_iff (numbers 0 (by omega)) (numbers i inside)).mpr places) due
  obtain ⟨head, rest, -, -, taken, -⟩ | ⟨-, undue⟩ := agenda.takeDue?_first reading
  · rw [none] at taken
    cases taken
  · exact undue _ first root

/-! ## Regular agendas -/

/-- An agenda whose tasks were put down with spans as delays. None of them is ever due at a reading
that is not a number, unless that is what the clock shows. -/
structure Regular (agenda : Agenda α) : Prop where
  numbered : ∀ task ∈ agenda.tasks, task.sequence < agenda.issued
  readable : ∀ task ∈ agenda.tasks, task.due.isNaN = agenda.now.isNaN
  proper : ∀ task ∈ agenda.tasks, task.due ≠ -0
  ordered : agenda.now.isNaN = false → Heap.Ordered Task.before agenda.tasks

namespace Regular

/-- Tasks that were put down with spans are queued at numbers while the clock shows one. -/
theorem queued (regular : agenda.Regular) (number : agenda.now.isNaN = false) : agenda.Queued :=
  ⟨fun task member => (regular.readable task member).trans number, regular.ordered number⟩

/-- A task that is put down with a span leaves the agenda regular. -/
theorem put (regular : agenda.Regular) {delay : Float} (span : IsSpan delay) (name : Text)
    (action : α) : (agenda.put delay name action).2.Regular := by
  have readable := isNaN_add_span (x := agenda.now) span
  constructor
  · intro task member
    rcases mem_put.mp member with rfl | old
    · exact Nat.lt_succ_self _
    · exact Nat.lt_succ_of_lt (regular.numbered task old)
  · intro task member
    rcases mem_put.mp member with rfl | old
    · exact readable
    · exact regular.readable task old
  · intro task member
    rcases mem_put.mp member with rfl | old
    · exact span.add_ne_negZero
    · exact regular.proper task old
  · exact fun number => ((regular.queued number).put (readable.trans number) name action).ordered

/-- The clock is set to another reading that is a number if this one is. -/
theorem setClock (regular : agenda.Regular) {clock : Clock}
    (same : clock.reading.isNaN = agenda.now.isNaN) : { agenda with clock }.Regular :=
  ⟨regular.numbered, fun task member => (regular.readable task member).trans same.symm,
    regular.proper, fun number => regular.ordered (same.symm.trans number)⟩

/-- A task is taken only from an agenda that is a queue. -/
theorem take (regular : agenda.Regular) (taken : agenda.takeDue? reading = some (task, rest)) :
    agenda.Queued ∧ rest.Regular := by
  obtain ⟨due, popped, others⟩ := takeDue?_eq_some taken
  have elements := (Heap.pop?_perm popped).2
  have old {other : Task α} (member : other ∈ task :: rest.tasks.toList) :
      other ∈ agenda.tasks := by
    rwa [← Array.mem_toList_iff, elements.mem_iff]
  have left {other : Task α} (member : other ∈ rest.tasks) : other ∈ agenda.tasks :=
    old (List.mem_cons_of_mem task (Array.mem_toList_iff.mpr member))
  have now : rest.now = agenda.now := by rw [others]; rfl
  have issued : rest.issued = agenda.issued := by rw [others]
  have number : agenda.now.isNaN = false := by
    rw [← regular.readable task (old List.mem_cons_self)]
    exact (number_of_le due).1
  have queued := regular.queued number
  refine ⟨queued, ?_, ?_, fun other member => regular.proper other (left member), fun _ => ?_⟩
  · exact fun other member => issued ▸ regular.numbered other (left member)
  · exact fun other member => now ▸ regular.readable other (left member)
  · exact (queued.pop popped).1.ordered

/-- No task is left that is due before the one that is taken. -/
theorem first (regular : agenda.Regular) (taken : agenda.takeDue? reading = some (task, rest)) :
    ∀ other ∈ rest.tasks, task.due ≤ other.due := by
  intro other member
  obtain ⟨left, number, first⟩ := (regular.take taken).1.pop (takeDue?_eq_some taken).2.1
  have ranks := (Task.before_eq_false_iff (left.due other member) number).mp (first other member)
  exact (le_iff number (left.due other member)).mpr (Prod.Lex.monotone_fst _ _ ranks)

/-- Nothing is due if nothing is taken. -/
theorem undue (regular : agenda.Regular) (none : agenda.takeDue? reading = none) :
    ∀ task ∈ agenda.tasks, ¬ task.due ≤ reading := by
  intro task member due
  have number := (number_of_le due).1
  rw [regular.readable task member] at number
  exact takeDue?_eq_none (regular.queued number) none task member due

end Regular

end Agenda

end DryRun
