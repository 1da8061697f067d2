import DryRun.Agenda.Basic
import DryRun.Proofs.Agenda.Heap
import DryRun.Proofs.Reading.Place

/-!
# The tasks of an agenda

What the operations of an agenda do to its tasks. Seen as a collection without an order: a task is
put down under the next number, and a task that is taken is the first one and due. Seen as a queue:
as long as no task is due at NaN, the tasks are ordered by the place of the reading at which they
are due and by their number (`Task.before_iff`), and no task that is left is before the one that
is taken (`Queued.pop`).
-/

set_option autoImplicit false

namespace DryRun

namespace Task

variable {α : Type}

/-- What decides which task is taken first. -/
def rank (task : Task α) : WithBot (WithTop ℤ) ×ₗ ℕ := toLex (Reading.place task.due, task.sequence)

/-- One task comes before another if it is due earlier, or as early and was put down first. -/
theorem before_iff {a b : Task α} (ha : a.due.isNaN = false) (hb : b.due.isNaN = false) :
    a.before b = true ↔ a.rank < b.rank := by
  rw [rank, rank, Prod.Lex.toLex_lt_toLex, before]
  by_cases same : (a.due == b.due) = true
  · have places := (Reading.beq_iff ha hb).mp same
    simp [same, places]
  · have places := mt (Reading.beq_iff ha hb).mpr same
    simp [same, places, Reading.lt_iff ha hb]

/-- A task does not come before another exactly if the rank of the other is at most its own. -/
theorem before_eq_false_iff {a b : Task α} (ha : a.due.isNaN = false) (hb : b.due.isNaN = false) :
    a.before b = false ↔ b.rank ≤ a.rank := by
  rw [← not_lt, ← before_iff ha hb, Bool.not_eq_true]

/-- Where no task is due at NaN the tasks are ordered. -/
theorem orders : Heap.Orders before fun task : Task α => task.due.isNaN = false := by
  constructor
  · intro a b ha hb first
    rw [before_eq_false_iff hb ha]
    exact ((before_iff ha hb).mp first).le
  · intro a b c ha hb hc first second
    rw [before_eq_false_iff hb ha] at first
    rw [before_eq_false_iff hc hb] at second
    rw [before_eq_false_iff hc ha]
    exact first.trans second

/-- Of two tasks with different numbers one is before the other. -/
theorem before_of_not_before {a b : Task α} (ha : a.due.isNaN = false) (hb : b.due.isNaN = false)
    (numbers : a.sequence ≠ b.sequence) (last : b.before a = false) : a.before b = true := by
  rw [before_eq_false_iff hb ha] at last
  rw [before_iff ha hb]
  refine lt_of_le_of_ne last fun same => numbers ?_
  exact congrArg (fun rank => (ofLex rank).2) same

end Task

namespace Agenda

variable {α : Type}

/-- A task that is put down is one more, and the others stay. -/
theorem tasks_put (agenda : Agenda α) (delay : Float) (name : Text) (action : α) :
    (agenda.put delay name action).2.tasks.toList.Perm
      (⟨agenda.now + delay, agenda.issued, name, action⟩ :: agenda.tasks.toList) :=
  Heap.push_perm _ _

/-- The tasks after one was put down are that one and the others. -/
theorem mem_put {agenda : Agenda α} {delay : Float} {name : Text} {action : α} {task : Task α} :
    task ∈ (agenda.put delay name action).2.tasks ↔
      task = ⟨agenda.now + delay, agenda.issued, name, action⟩ ∨ task ∈ agenda.tasks := by
  rw [← Array.mem_toList_iff, (tasks_put agenda delay name action).mem_iff, List.mem_cons,
    Array.mem_toList_iff]

/-- A task is put down in full or refused for its delay. -/
theorem schedule_eq_ok_iff {agenda : Agenda α} {delay : Float} {name : Text} {action : α}
    {placed : Task α × Agenda α} :
    agenda.schedule delay name action = .ok placed ↔
      ¬ delay < 0 ∧ agenda.put delay name action = placed := by
  unfold schedule
  split <;> simp_all

/-- The task that is taken is the first one and due; the others are left. -/
theorem takeDue?_eq_some {agenda rest : Agenda α} {reading : Float} {task : Task α}
    (taken : agenda.takeDue? reading = some (task, rest)) :
    task.due ≤ reading ∧ Heap.pop? Task.before agenda.tasks = some (task, rest.tasks) ∧
      rest = { agenda with tasks := rest.tasks } := by
  unfold takeDue? at taken
  cases first : agenda.first? with
  | none => simp [first] at taken
  | some head =>
    simp only [first] at taken
    by_cases due : head.due ≤ reading
    · simp only [due, if_true, take?, Option.map_eq_some_iff] at taken
      obtain ⟨⟨popped, tasks⟩, popping, result⟩ := taken
      obtain ⟨rfl, rfl⟩ := Prod.mk.inj result
      have root := (Heap.pop?_perm popping).1
      rw [show agenda.tasks[0]? = some head from first] at root
      obtain rfl := Option.some.inj root
      exact ⟨due, popping, rfl⟩
    · simp [due] at taken

/-- The first task is taken if it is due, and nothing is taken otherwise. -/
theorem takeDue?_first (agenda : Agenda α) (reading : Float) :
    (∃ task rest, agenda.first? = some task ∧ task.due ≤ reading ∧
      agenda.takeDue? reading = some (task, rest) ∧
      agenda.tasks.toList.Perm (task :: rest.tasks.toList)) ∨
    agenda.takeDue? reading = none ∧ ∀ task ∈ agenda.first?, ¬ task.due ≤ reading := by
  cases taken : agenda.takeDue? reading with
  | some pair =>
    obtain ⟨task, rest⟩ := pair
    obtain ⟨due, popped, -⟩ := takeDue?_eq_some taken
    obtain ⟨first, others⟩ := Heap.pop?_perm popped
    exact .inl ⟨task, rest, first, due, rfl, others⟩
  | none =>
    refine .inr ⟨rfl, fun task first due => ?_⟩
    have some : 0 < agenda.tasks.size := (Array.getElem?_eq_some_iff.mp first).1
    simp only [takeDue?, Option.mem_def.mp first, if_pos due, take?, Option.map_eq_none_iff] at taken
    exact absurd taken (Heap.pop?_ne_none some)

/-- Nobody sleeps for no time. -/
theorem sleepTime?_pos {agenda : Agenda α} {seconds : Float}
    (early : agenda.sleepTime? = some seconds) : 0 < seconds := by
  unfold sleepTime? at early
  split at early
  · cases early
  · cases early
  · split at early
    case isTrue later =>
      cases early
      exact later
    case isFalse => cases early

/-- The tasks of an agenda are a heap, and none of them is due at NaN. -/
structure Queued (agenda : Agenda α) : Prop where
  due : ∀ task ∈ agenda.tasks, task.due.isNaN = false
  ordered : Heap.Ordered Task.before agenda.tasks

/-- A task that is put down with a number is queued. -/
theorem Queued.put {agenda : Agenda α} (queued : agenda.Queued) {delay : Float}
    (due : (agenda.now + delay).isNaN = false) (name : Text) (action : α) :
    (agenda.put delay name action).2.Queued := by
  constructor
  · intro task member
    rcases mem_put.mp member with rfl | old
    · exact due
    · exact queued.due task old
  · refine Heap.push_ordered Task.orders (fun task member => ?_) queued.ordered
    rcases Array.mem_push.mp member with old | rfl
    · exact queued.due task old
    · exact due

/-- The task that is taken is not after any of those that are left. -/
theorem Queued.pop {agenda rest : Agenda α} (queued : agenda.Queued) {task : Task α}
    (popped : Heap.pop? Task.before agenda.tasks = some (task, rest.tasks)) :
    rest.Queued ∧ task.due.isNaN = false ∧ ∀ other ∈ rest.tasks, other.before task = false := by
  have elements := (Heap.pop?_perm popped).2
  have old {other : Task α} (member : other ∈ task :: rest.tasks.toList) :
      other ∈ agenda.tasks := by
    rwa [← Array.mem_toList_iff, elements.mem_iff]
  refine ⟨⟨fun other member => queued.due other ?_, ?_⟩, ?_, fun other member => ?_⟩
  · exact old (List.mem_cons_of_mem task (Array.mem_toList_iff.mpr member))
  · exact Heap.pop?_ordered Task.orders queued.due queued.ordered popped
  · exact queued.due task (old List.mem_cons_self)
  · exact Heap.pop?_first Task.orders queued.due queued.ordered popped member

end Agenda

end DryRun
