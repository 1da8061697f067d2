import DryRun.Agenda.Heap
import Mathlib.Data.List.Perm.Basic

/-!
# Binary heaps keep their elements and their order

Adding an element and taking the first one out only swap elements around, whatever `before` is
(`push_perm`, `pop?_perm`). Where `before` orders the elements, a heap stays a heap (`push_ordered`,
`pop?_ordered`), and no element is before the one that is taken out (`pop?_first`).

A heap is in order but for one position while an element moves. On the way to the root the position
may be out of order with its parent only (`UpOrdered`), on the way to a leaf with its parent and its
children (`DownOrdered`). In both cases its children are not before its parent, so the order is
restored wherever the element comes to rest.
-/

set_option autoImplicit false

namespace DryRun.Heap

variable {α : Type} {before : α → α → Bool}

/-! ## The elements -/

/-- Moving an element toward the root keeps all elements. -/
theorem siftUp_perm (before : α → α → Bool) (heap : Array α) (i : Nat) (inside : i < heap.size) :
    (siftUp before heap i inside).Perm heap := by
  induction i using Nat.strongRecOn generalizing heap with
  | ind i ih =>
    rw [siftUp]
    by_cases root : i = 0
    · rw [dif_pos root]
    · rw [dif_neg root]
      have up : (i - 1) / 2 < heap.size := by omega
      by_cases rises : before heap[i] heap[(i - 1) / 2] = true
      · simp only [rises, ite_true]
        exact (ih _ (by omega) _ (by simpa using up)).trans (Array.swap_perm inside up)
      · simp only [rises, Bool.false_eq_true, ite_false]
        exact .refl _

/-- Moving an element down keeps all elements. -/
theorem sink_perm (before : α → α → Bool) (heap : Array α) (i : Nat) (inside : i < heap.size) :
    (sink before heap i inside).Perm heap := by
  induction hk : heap.size - i using Nat.strongRecOn generalizing heap i with
  | ind k ih =>
    rw [sink]
    by_cases leaf : 2 * i + 1 < heap.size
    · rw [dif_pos leaf]
      obtain ⟨child, below, childInside⟩ := leadingChild before heap i leaf
      refine (ih _ ?_ _ _ (by simpa using childInside) rfl).trans
        (Array.swap_perm inside childInside)
      simp only [Array.size_swap]
      omega
    · rw [dif_neg leaf]
      exact siftUp_perm before heap i inside

/-- A heap has the new element and those that it had. -/
theorem push_perm (heap : Array α) (x : α) :
    (push before heap x).toList.Perm (x :: heap.toList) := by
  have moved := Array.perm_iff_toList_perm.mp
    (siftUp_perm before (heap.push x) heap.size (by simp))
  rw [Array.toList_push] at moved
  exact moved.trans (List.perm_append_singleton x heap.toList)

/-- Of a heap that ends in an element, that element takes the place of the first one. -/
theorem pop?_push (rest : Array α) (last : α) :
    pop? before (rest.push last) =
      if more : 0 < rest.size then
        some (rest[0], sink before (rest.set 0 last) 0 (by simpa using more))
      else some (last, rest) := by
  simp [pop?]

/-- A heap is empty or ends in an element. -/
theorem eq_empty_or_push (heap : Array α) :
    heap = #[] ∨ ∃ (rest : Array α) (last : α), heap = rest.push last := by
  by_cases size : heap.size = 0
  · exact .inl (Array.eq_empty_of_size_eq_zero size)
  · exact .inr (Array.eq_push_of_size_ne_zero size)

/-- There is an element to take out of a heap that is not empty. -/
theorem pop?_ne_none {heap : Array α} (some : 0 < heap.size) : pop? before heap ≠ none := by
  unfold pop?
  rw [dif_pos some]
  dsimp only
  split <;> exact Option.some_ne_none _

/-- Taking an element out takes just that one, which is the first. -/
theorem pop?_perm {heap rest : Array α} {x : α} (taken : pop? before heap = some (x, rest)) :
    heap[0]? = some x ∧ heap.toList.Perm (x :: rest.toList) := by
  rcases eq_empty_or_push heap with rfl | ⟨init, last, rfl⟩
  · cases taken
  rw [pop?_push] at taken
  by_cases more : 0 < init.size
  · rw [dif_pos more] at taken
    obtain ⟨rfl, rfl⟩ := Prod.mk.inj (Option.some.inj taken)
    have split : init.toList = init[0] :: init.toList.tail := by
      have nonempty : init.toList ≠ [] := List.length_pos_iff.mp more
      rw [← Array.getElem_toList, ← List.head_eq_getElem nonempty, List.cons_head_tail]
    have moved := Array.perm_iff_toList_perm.mp
      (sink_perm before (init.set 0 last) 0 (by simpa using more))
    rw [Array.toList_set, split, List.set_cons_zero] at moved
    refine ⟨by rw [Array.getElem?_push_lt more], ?_⟩
    rw [Array.toList_push, split]
    exact (((List.perm_append_singleton last _).trans moved.symm).cons init[0])
  · rw [dif_neg more] at taken
    obtain ⟨rfl, rfl⟩ := Prod.mk.inj (Option.some.inj taken)
    have empty : init = #[] := Array.eq_empty_of_size_eq_zero (by omega)
    subst empty
    exact ⟨rfl, .refl _⟩

/-! ## The order -/

/-- On the elements with a certain property, `before` is an order: it is not mutual, and not being
before is transitive. -/
structure Orders (before : α → α → Bool) (S : α → Prop) : Prop where
  asymm : ∀ {x y}, S x → S y → before x y = true → before y x = false
  trans : ∀ {x y z}, S x → S y → S z → before y x = false → before z y = false → before z x = false

/-- The element at one position is not before the one at another, if both are in the heap. -/
def Follows (before : α → α → Bool) (heap : Array α) (i j : Nat) : Prop :=
  ∀ x y, heap[i]? = some x → heap[j]? = some y → before y x = false

/-- No element of a heap is before its parent. -/
def Ordered (before : α → α → Bool) (heap : Array α) : Prop :=
  ∀ i, 0 < i → Follows before heap ((i - 1) / 2) i

/-- A heap is in order but for the place of one element, which may belong higher up. -/
structure UpOrdered (before : α → α → Bool) (heap : Array α) (hole : Nat) : Prop where
  edge : ∀ i, 0 < i → i ≠ hole → Follows before heap ((i - 1) / 2) i
  grand : 0 < hole → ∀ i, 0 < i → (i - 1) / 2 = hole → Follows before heap ((hole - 1) / 2) i

/-- A heap is in order but for the place of one element, which may belong higher up or lower
down. -/
structure DownOrdered (before : α → α → Bool) (heap : Array α) (hole : Nat) : Prop where
  edge : ∀ i, 0 < i → i ≠ hole → (i - 1) / 2 ≠ hole → Follows before heap ((i - 1) / 2) i
  grand : 0 < hole → ∀ i, 0 < i → (i - 1) / 2 = hole → Follows before heap ((hole - 1) / 2) i

section

variable {S : α → Prop} (orders : Orders before S) {heap : Array α} (sound : ∀ x ∈ heap, S x)

include orders sound

/-- An element follows one that comes before it. -/
theorem follows_of_before {i j : Nat} {x y : α} (hx : heap[i]? = some x) (hy : heap[j]? = some y)
    (first : before x y = true) : Follows before heap i j := by
  intro x' y' hx' hy'
  rw [hx] at hx'
  rw [hy] at hy'
  cases hx'
  cases hy'
  exact orders.asymm (sound _ (Array.mem_of_getElem? hx)) (sound _ (Array.mem_of_getElem? hy)) first

/-- What follows an element follows those before it. -/
theorem Follows.trans {i j k : Nat} (inside : j < heap.size) (first : Follows before heap i j)
    (second : Follows before heap j k) : Follows before heap i k := by
  intro x z hx hz
  have hy : heap[j]? = some heap[j] := Array.getElem?_eq_getElem inside
  exact orders.trans (sound _ (Array.mem_of_getElem? hx)) (sound _ (Array.getElem_mem inside))
    (sound _ (Array.mem_of_getElem? hz)) (first _ _ hx hy) (second _ _ hy hz)

/-- In a heap every position but the root follows the root. -/
theorem Ordered.follows_root (ordered : Ordered before heap) (i : Nat) (inner : 0 < i)
    (inside : i < heap.size) : Follows before heap 0 i := by
  induction i using Nat.strongRecOn with
  | ind i ih =>
    have up := ordered i inner
    by_cases child : (i - 1) / 2 = 0
    · rwa [child] at up
    · exact (ih ((i - 1) / 2) (by omega) (by omega) (by omega)).trans orders sound (by omega) up

end

/-- Where a position of a swapped array comes from. -/
def origin (i j k : Nat) : Nat := if k = i then j else if k = j then i else k

/-- After a swap a position follows another if their origins did. -/
theorem follows_swap {heap : Array α} {i j : Nat} (hi : i < heap.size) (hj : j < heap.size)
    {p c : Nat} (before_swap : Follows before heap (origin i j p) (origin i j c)) :
    Follows before (heap.swap i j) p c := by
  have same : ∀ k, (heap.swap i j)[k]? = heap[origin i j k]? := by
    intro k
    rw [Array.getElem?_swap, origin]
    by_cases second : k = j
    · subst second
      by_cases first : k = i
      · subst first
        simp
      · simp [first]
    · by_cases first : k = i
      · subst first
        simp [Ne.symm second]
      · simp [first, second, Ne.symm first, Ne.symm second]
  intro x y hx hy
  exact before_swap x y (by rw [← same, hx]) (by rw [← same, hy])

/-- The leading child is a child. -/
theorem leadingChild_parent (before : α → α → Bool) (heap : Array α) (i : Nat)
    (leaf : 2 * i + 1 < heap.size) :
    ((leadingChild before heap i leaf).1 - 1) / 2 = i := by
  unfold leadingChild
  split_ifs <;> simp only <;> omega

/-- An element changes places with its leading child. -/
theorem DownOrdered.swap {heap : Array α} {hole : Nat} (inside : hole < heap.size)
    (ordered : DownOrdered before heap hole) {child : Nat} (below : hole < child)
    (childInside : child < heap.size) (parent : (child - 1) / 2 = hole)
    (leads : ∀ k, 0 < k → (k - 1) / 2 = hole → k = child ∨ Follows before heap child k) :
    DownOrdered before (heap.swap hole child) child := by
  constructor
  · intro i positive other apart
    apply follows_swap
    by_cases moved : i = hole
    · have grand := ordered.grand (by omega) child (by omega) parent
      have higher : (hole - 1) / 2 ≠ hole ∧ (hole - 1) / 2 ≠ child := by omega
      simpa [origin, moved, higher] using grand
    · by_cases sibling : (i - 1) / 2 = hole
      · have next := (leads i positive sibling).resolve_left other
        simpa [origin, moved, other, sibling] using next
      · have edge := ordered.edge i positive moved sibling
        simpa [origin, moved, other, sibling, apart] using edge
  · intro _ i positive grandchild
    apply follows_swap
    have edge := ordered.edge i positive (by omega) (by omega)
    rw [grandchild] at edge
    have other : i ≠ hole ∧ i ≠ child := by omega
    simpa [origin, parent, other] using edge

section

variable {S : α → Prop} (orders : Orders before S)

include orders

/-- An element that is before its parent changes places with it. -/
theorem UpOrdered.swap {heap : Array α} (sound : ∀ x ∈ heap, S x) {hole : Nat}
    (inside : hole < heap.size) (inner : 0 < hole) (ordered : UpOrdered before heap hole)
    (up : (hole - 1) / 2 < heap.size) (rises : before heap[hole] heap[(hole - 1) / 2] = true) :
    UpOrdered before (heap.swap hole ((hole - 1) / 2)) ((hole - 1) / 2) := by
  have apart : (hole - 1) / 2 ≠ hole := by omega
  have risen : Follows before heap hole ((hole - 1) / 2) :=
    follows_of_before orders sound (Array.getElem?_eq_getElem inside)
      (Array.getElem?_eq_getElem up) rises
  constructor
  · intro i positive other
    apply follows_swap
    by_cases moved : i = hole
    · simpa [origin, moved, apart] using risen
    · have edge := ordered.edge i positive moved
      by_cases child : (i - 1) / 2 = hole
      · have grand := ordered.grand inner i positive child
        simpa [origin, moved, other, child] using grand
      · by_cases sibling : (i - 1) / 2 = (hole - 1) / 2
        · rw [sibling] at edge
          have below := risen.trans orders sound up edge
          simpa [origin, moved, other, sibling, apart] using below
        · simpa [origin, moved, other, sibling, child] using edge
  · intro higher i positive child
    have edge := ordered.edge ((hole - 1) / 2) higher (by omega)
    have above : ((hole - 1) / 2 - 1) / 2 ≠ hole ∧ ((hole - 1) / 2 - 1) / 2 ≠ (hole - 1) / 2 := by
      omega
    apply follows_swap
    by_cases moved : i = hole
    · simpa [origin, above, moved] using edge
    · have lower := ordered.edge i positive moved
      rw [child] at lower
      have other : i ≠ (hole - 1) / 2 := by omega
      simpa [origin, above, moved, other] using edge.trans orders sound up lower

/-- If only one element may come before its parent, moving it toward the root restores the order. -/
theorem siftUp_ordered {heap : Array α} (sound : ∀ x ∈ heap, S x) (i : Nat)
    (inside : i < heap.size) (ordered : UpOrdered before heap i) :
    Ordered before (siftUp before heap i inside) := by
  induction i using Nat.strongRecOn generalizing heap with
  | ind i ih =>
    rw [siftUp]
    by_cases root : i = 0
    · rw [dif_pos root]
      exact fun k positive => ordered.edge k positive (by omega)
    · rw [dif_neg root]
      have up : (i - 1) / 2 < heap.size := by omega
      by_cases rises : before heap[i] heap[(i - 1) / 2] = true
      · simp only [rises, ite_true]
        have kept : ∀ x ∈ heap.swap i ((i - 1) / 2), S x := fun x hx =>
          sound x ((Array.swap_perm inside up).mem_iff.mp hx)
        exact ih _ (by omega) kept (by simpa using up)
          (ordered.swap orders sound inside (by omega) up rises)
      · simp only [rises, Bool.false_eq_true, ite_false]
        intro k positive
        by_cases moved : k = i
        · subst moved
          intro x y hx hy
          rw [Array.getElem?_eq_getElem up] at hx
          rw [Array.getElem?_eq_getElem inside] at hy
          cases hx
          cases hy
          simpa using rises
        · exact ordered.edge k positive moved

/-- The leading child comes before the other one or is level with it. -/
theorem follows_leadingChild {heap : Array α} (sound : ∀ x ∈ heap, S x) (i : Nat)
    (leaf : 2 * i + 1 < heap.size) (k : Nat) (positive : 0 < k) (child : (k - 1) / 2 = i) :
    k = (leadingChild before heap i leaf).1 ∨
      Follows before heap (leadingChild before heap i leaf).1 k := by
  have children : k = 2 * i + 1 ∨ k = 2 * i + 2 := by omega
  unfold leadingChild
  by_cases right : 2 * i + 2 < heap.size
  · rw [dif_pos right]
    by_cases leads : before heap[2 * i + 1] heap[2 * i + 2] = true
    · rw [if_pos leads]
      rcases children with rfl | rfl
      · exact .inl rfl
      · exact .inr (follows_of_before orders sound (Array.getElem?_eq_getElem leaf)
          (Array.getElem?_eq_getElem right) leads)
    · rw [if_neg leads]
      rcases children with rfl | rfl
      · right
        intro x y hx hy
        rw [Array.getElem?_eq_getElem right] at hx
        rw [Array.getElem?_eq_getElem leaf] at hy
        cases hx
        cases hy
        simpa using leads
      · exact .inl rfl
  · rw [dif_neg right]
    rcases children with rfl | rfl
    · exact .inl rfl
    · right
      intro x y _ hy
      rw [Array.getElem?_eq_none (by omega)] at hy
      cases hy

/-- Moving an element to a leaf and back up restores the order. -/
theorem sink_ordered {heap : Array α} (sound : ∀ x ∈ heap, S x) (i : Nat) (inside : i < heap.size)
    (ordered : DownOrdered before heap i) : Ordered before (sink before heap i inside) := by
  induction hk : heap.size - i using Nat.strongRecOn generalizing heap i with
  | ind k ih =>
    rw [sink]
    by_cases leaf : 2 * i + 1 < heap.size
    · rw [dif_pos leaf]
      have leads := follows_leadingChild orders sound i leaf
      have parent := leadingChild_parent before heap i leaf
      generalize leadingChild before heap i leaf = leading at leads parent
      obtain ⟨child, below, childInside⟩ := leading
      have kept : ∀ x ∈ heap.swap i child, S x := fun x hx =>
        sound x ((Array.swap_perm inside childInside).mem_iff.mp hx)
      exact ih _ (by simp only [Array.size_swap]; omega) kept _ _
        (ordered.swap inside below childInside parent leads) rfl
    · rw [dif_neg leaf]
      apply siftUp_ordered orders sound
      constructor
      · intro k positive other
        by_cases child : (k - 1) / 2 = i
        · intro x y _ hy
          rw [Array.getElem?_eq_none (by omega)] at hy
          cases hy
        · exact ordered.edge k positive other child
      · exact ordered.grand

/-- Adding an element keeps a heap in order. -/
theorem push_ordered {heap : Array α} {x : α} (sound : ∀ y ∈ heap.push x, S y)
    (ordered : Ordered before heap) : Ordered before (push before heap x) := by
  apply siftUp_ordered orders sound
  constructor
  · intro i positive other y z hy hz
    have inside := (Array.getElem?_eq_some_iff.mp hz).1
    simp only [Array.size_push] at inside
    rw [Array.getElem?_push_lt (by omega)] at hy hz
    apply ordered i positive y z
    · rw [← hy, Array.getElem?_eq_getElem (by omega)]
    · rw [← hz, Array.getElem?_eq_getElem (by omega)]
  · intro _ i positive child y z _ hz
    rw [Array.getElem?_eq_none (by simp only [Array.size_push]; omega)] at hz
    cases hz

/-- Taking the first element out keeps a heap in order. -/
theorem pop?_ordered {heap rest : Array α} {x : α} (sound : ∀ y ∈ heap, S y)
    (ordered : Ordered before heap) (taken : pop? before heap = some (x, rest)) :
    Ordered before rest := by
  rcases eq_empty_or_push heap with rfl | ⟨init, last, rfl⟩
  · cases taken
  rw [pop?_push] at taken
  by_cases more : 0 < init.size
  · rw [dif_pos more] at taken
    obtain ⟨rfl, rfl⟩ := Prod.mk.inj (Option.some.inj taken)
    have kept : ∀ y ∈ init.set 0 last, S y := by
      intro y hy
      rcases Array.mem_or_eq_of_mem_set hy with old | rfl
      · exact sound y (Array.mem_push_of_mem _ old)
      · exact sound y Array.mem_push_self
    apply sink_ordered orders kept
    constructor
    · intro i positive other apart y z hy hz
      have inside := (Array.getElem?_eq_some_iff.mp hz).1
      simp only [Array.size_set] at inside
      rw [Array.getElem?_set_ne (by omega) (by omega)] at hy hz
      apply ordered i positive y z
      · rw [Array.getElem?_push_lt (by omega), ← hy, Array.getElem?_eq_getElem (by omega)]
      · rw [Array.getElem?_push_lt (by omega), ← hz, Array.getElem?_eq_getElem (by omega)]
    · omega
  · rw [dif_neg more] at taken
    obtain ⟨rfl, rfl⟩ := Prod.mk.inj (Option.some.inj taken)
    intro i positive y z _ hz
    rw [Array.getElem?_eq_none (by omega)] at hz
    cases hz

/-- No element that stays in a heap is before the one that is taken out. -/
theorem pop?_first {heap rest : Array α} {x : α} (sound : ∀ y ∈ heap, S y)
    (ordered : Ordered before heap) (taken : pop? before heap = some (x, rest)) {y : α}
    (stays : y ∈ rest) : before y x = false := by
  obtain ⟨root, elements⟩ := pop?_perm taken
  have old : y ∈ heap := by
    rw [← Array.mem_toList_iff, elements.mem_iff]
    exact List.mem_cons_of_mem x (Array.mem_toList_iff.mpr stays)
  obtain ⟨i, inside, rfl⟩ := Array.mem_iff_getElem.mp old
  by_cases inner : i = 0
  · subst inner
    rw [Array.getElem?_eq_getElem inside] at root
    obtain rfl := Option.some.inj root
    have irrefl := orders.asymm (sound _ old) (sound _ old)
    cases h : before heap[0] heap[0]
    · rfl
    · exact absurd (irrefl h) (by simp [h])
  · exact ordered.follows_root orders sound i (by omega) inside _ _ root
      (Array.getElem?_eq_getElem inside)

end

end DryRun.Heap
