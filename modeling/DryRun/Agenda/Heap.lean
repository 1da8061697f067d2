/-!
# Binary heaps

An array holds a binary tree: the children of position `i` are at `2 * i + 1` and `2 * i + 2`. Where
`before` is an order, no element is after its children, so the first element is a least one. The
operations do not need `before` to be an order; their result is determined for any relation.
-/

set_option autoImplicit false

namespace DryRun.Heap

variable {α : Type}

/-- Move an element toward the root past all elements that it comes before. -/
def siftUp (before : α → α → Bool) (heap : Array α) (i : Nat) (inside : i < heap.size) :
    Array α :=
  if root : i = 0 then heap
  else
    have parentInside : (i - 1) / 2 < heap.size := by omega
    if before heap[i] heap[(i - 1) / 2] then
      siftUp before (heap.swap i ((i - 1) / 2)) ((i - 1) / 2) (by simpa using parentInside)
    else heap
  termination_by i
  decreasing_by omega

/-- The child of a position that has one: the right child unless the left one comes before it. -/
def leadingChild (before : α → α → Bool) (heap : Array α) (i : Nat)
    (inside : 2 * i + 1 < heap.size) : { c : Nat // i < c ∧ c < heap.size } :=
  if right : 2 * i + 2 < heap.size then
    if before heap[2 * i + 1] heap[2 * i + 2] then ⟨2 * i + 1, by omega, by omega⟩
    else ⟨2 * i + 2, by omega, by omega⟩
  else ⟨2 * i + 1, by omega, by omega⟩

/-- Move an element down to a leaf along the leading children, and from there up to its place. -/
def sink (before : α → α → Bool) (heap : Array α) (i : Nat) (inside : i < heap.size) : Array α :=
  if leaf : 2 * i + 1 < heap.size then
    match leadingChild before heap i leaf with
    | ⟨child, below, childInside⟩ =>
      sink before (heap.swap i child) child (by simpa using childInside)
  else siftUp before heap i inside
  termination_by heap.size - i
  decreasing_by simp only [Array.size_swap]; omega

def push (before : α → α → Bool) (heap : Array α) (x : α) : Array α :=
  siftUp before (heap.push x) heap.size (by simp)

/-- Take the first element out: the last one takes its place and sinks. -/
def pop? (before : α → α → Bool) (heap : Array α) : Option (α × Array α) :=
  if nonempty : 0 < heap.size then
    let last := heap[heap.size - 1]
    let rest := heap.pop
    if more : 0 < rest.size then
      some (rest[0], sink before (rest.set 0 last) 0 (by simpa using more))
    else some (last, rest)
  else none

end DryRun.Heap
