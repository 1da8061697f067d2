/-!
# Sorting with a fallible order

The order may fail on a pair, so it matters which pairs are compared and in which sequence. The
sort takes the longest ascending or strictly descending run from the front, turns a descending one
around, and inserts the other elements one after the other at the place that a bisection finds: an
element goes behind the elements that are not after it. Equal elements keep their order.

This is how fewer than 64 elements are sorted. More of them would be cut into several runs, sorted
this way one by one and then merged. The outcome is the same where the order is total, as it is
among cells of one kind; among cells of several kinds another pair may then be the one that fails.
-/

set_option autoImplicit false

namespace DryRun.Sorting

variable {α ε : Type}

/-- The first index from `low` on, at most `high`, at which a bisection puts an element. -/
def bisect (before : α → α → Except ε Bool) (sorted : Array α) (x : α) (low high : Nat)
    (bound : high ≤ sorted.size) : Except ε Nat :=
  if h : low < high then
    let middle := low + (high - low) / 2
    have : middle < high := by omega
    match before x sorted[middle] with
    | .error e => .error e
    | .ok true => bisect before sorted x low middle (by omega)
    | .ok false => bisect before sorted x (middle + 1) high bound
  else .ok low
  termination_by high - low

def insert (before : α → α → Except ε Bool) (sorted : Array α) (x : α) :
    Except ε (Array α) := do
  let place ← bisect before sorted x 0 sorted.size (Nat.le_refl _)
  pure (sorted.take place ++ #[x] ++ sorted.extract place sorted.size)

/-- Put some elements into a sorted array one after the other. -/
def insertAll (before : α → α → Except ε Bool) (sorted : Array α) :
    List α → Except ε (Array α)
  | [] => .ok sorted
  | x :: rest => do
    let sorted ← insert before sorted x
    insertAll before sorted rest

/-- Extend a run, given last element first, as long as `goesOn` allows the next element after the
last one; what is left comes second. -/
def extendRun (goesOn : α → α → Except ε Bool) (last : α) (run : List α) :
    List α → Except ε (List α × List α)
  | [] => .ok (last :: run, [])
  | x :: rest => do
    if ← goesOn x last then extendRun goesOn x (last :: run) rest
    else pure (last :: run, x :: rest)

/-- The longest run at the front of a list, in ascending order, and the elements after it. -/
def firstRun (before : α → α → Except ε Bool) : List α → Except ε (List α × List α)
  | [] => .ok ([], [])
  | [x] => .ok ([x], [])
  | x :: y :: rest => do
    -- A descending run is strict, so reversing it swaps no equal elements.
    if ← before y x then extendRun before y [x] rest
    else
      let (run, others) ← extendRun (fun a b => return !(← before a b)) y [x] rest
      pure (run.reverse, others)

def sort (before : α → α → Except ε Bool) (xs : List α) : Except ε (List α) := do
  let (run, others) ← firstRun before xs
  let sorted ← insertAll before run.toArray others
  pure sorted.toList

/-- The elements in the opposite order, equal ones still as they came. -/
def sortDescending (before : α → α → Except ε Bool) (xs : List α) : Except ε (List α) := do
  let sorted ← sort before xs.reverse
  pure sorted.reverse

end DryRun.Sorting
