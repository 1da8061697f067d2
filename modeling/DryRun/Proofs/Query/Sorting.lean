import DryRun.Query.Sorting
import Mathlib.Data.List.Sort

/-!
# The order in which elements are sorted

If the comparisons that are made succeed and compare keys, sorting is sorting by insertion: the
result is ascending, and elements with the same key keep their order (`sort_eq`). In the opposite
order the elements descend, and those with the same key still keep their order
(`sortDescending_eq`).

The sort inserts an element behind those with the same key, from the front of the list to its end;
sorting by insertion proceeds from the end and inserts an element in front of them. Both come to the
same because insertions from the two ends commute (`orderedInsert_comm`).
-/

set_option autoImplicit false

namespace DryRun.Sorting

variable {α ε κ : Type} [LinearOrder κ] {key : α → κ}

/-! ## Insertion -/

/-- An element is inserted between those that it is not to stand in front of and the others. -/
theorem orderedInsert_append {r : α → α → Prop} [DecidableRel r] {x : α} {front back : List α}
    (passed : ∀ a ∈ front, ¬ r x a) (stop : ∀ b ∈ back.head?, r x b) :
    (front ++ back).orderedInsert r x = front ++ x :: back := by
  induction front with
  | nil =>
    cases back with
    | nil => rfl
    | cons b back => exact List.orderedInsert_cons_of_le r back (stop b rfl)
  | cons a front ih =>
    rw [List.cons_append, List.orderedInsert_of_not_le r _ (passed a List.mem_cons_self),
      ih fun b member => passed b (List.mem_cons_of_mem a member)]
    rfl

/-- In an ascending list the elements with greater keys than a given one come last. -/
theorem exists_split {l : List α} (ascending : l.Pairwise fun a b => key a ≤ key b) (x : α) :
    ∃ front back, l = front ++ back ∧ (∀ a ∈ front, key a ≤ key x) ∧ ∀ b ∈ back, key x < key b := by
  induction l with
  | nil => exact ⟨[], [], rfl, by simp, by simp⟩
  | cons a l ih =>
    obtain ⟨least, ascending⟩ := List.pairwise_cons.mp ascending
    by_cases le : key a ≤ key x
    · obtain ⟨front, back, rfl, below, above⟩ := ih ascending
      exact ⟨a :: front, back, rfl, List.forall_mem_cons.mpr ⟨le, below⟩, above⟩
    · have less := not_le.mp le
      refine ⟨[], a :: l, rfl, by simp, List.forall_mem_cons.mpr ⟨less, fun b member => ?_⟩⟩
      exact less.trans_le (least b member)

/-- The list with an element behind those whose keys are not greater. -/
abbrev insertBehind (key : α → κ) (l : List α) (x : α) : List α :=
  l.orderedInsert (fun a b => key a < key b) x

/-- An element is put behind those that it does not precede. -/
theorem insertBehind_append {x : α} {front back : List α} (below : ∀ a ∈ front, key a ≤ key x)
    (above : ∀ b ∈ back, key x < key b) :
    insertBehind key (front ++ back) x = front ++ x :: back :=
  orderedInsert_append (fun a member => not_lt.mpr (below a member))
    fun b head => above b (List.mem_of_mem_head? head)

/-- Inserting an element keeps a list ascending. -/
theorem pairwise_insertBehind {l : List α} (ascending : l.Pairwise fun a b => key a ≤ key b)
    (x : α) : (insertBehind key l x).Pairwise fun a b => key a ≤ key b := by
  obtain ⟨front, back, rfl, below, above⟩ := exists_split ascending x
  rw [insertBehind_append below above]
  rw [List.pairwise_append] at ascending ⊢
  obtain ⟨first, second, across⟩ := ascending
  refine ⟨first, List.pairwise_cons.mpr ⟨fun b member => (above b member).le, second⟩, ?_⟩
  intro a member b inside
  rcases List.mem_cons.mp inside with rfl | inside
  · exact below a member
  · exact across a member b inside

/-- Turned around, the element stands in front of those whose keys are not greater. -/
theorem reverse_insertBehind {l : List α} (ascending : l.Pairwise fun a b => key a ≤ key b)
    (x : α) : (insertBehind key l x).reverse =
      l.reverse.orderedInsert (fun a b => key b ≤ key a) x := by
  obtain ⟨front, back, rfl, below, above⟩ := exists_split ascending x
  rw [insertBehind_append below above, List.reverse_append, List.reverse_append, List.reverse_cons,
    List.append_assoc, List.singleton_append, orderedInsert_append]
  · exact fun b member => not_le.mpr (above b (List.mem_reverse.mp member))
  · exact fun a head => below a (List.mem_reverse.mp (List.mem_of_mem_head? head))

/-- An element is inserted in front of its equals and another one behind them, in either order. -/
theorem orderedInsert_comm (x y : α) (l : List α) :
    insertBehind key (l.orderedInsert (fun a b => key a ≤ key b) x) y =
      (insertBehind key l y).orderedInsert (fun a b => key a ≤ key b) x := by
  induction l with
  | nil =>
    simp only [insertBehind, List.orderedInsert_nil, List.orderedInsert_cons, ← not_le]
    split <;> simp_all
  | cons b l ih =>
    simp only [insertBehind, List.orderedInsert_cons] at ih ⊢
    by_cases first : key x ≤ key b <;> by_cases last : key y < key b
    · by_cases both : key x ≤ key y
      · simp [first, last, both, not_lt.mpr both]
      · simp [first, last, both, not_le.mp both]
    · have both : key x ≤ key y := first.trans (not_lt.mp last)
      simp [first, last, not_lt.mpr both]
    · have both : key y < key x := last.trans (not_le.mp first)
      simp [first, last, not_le.mpr both]
    · simp [first, last, ih]

/-- Elements that are inserted one after the other, each behind its equals, are sorted. -/
theorem foldl_insertBehind (xs : List α) :
    xs.foldl (insertBehind key) [] = xs.insertionSort fun a b => key a ≤ key b := by
  have comm (x : α) (xs l : List α) :
      xs.foldl (insertBehind key) (l.orderedInsert (fun a b => key a ≤ key b) x) =
        (xs.foldl (insertBehind key) l).orderedInsert (fun a b => key a ≤ key b) x := by
    induction xs generalizing l with
    | nil => rfl
    | cons y xs ih => rw [List.foldl_cons, List.foldl_cons, orderedInsert_comm, ih]
  induction xs with
  | nil => rfl
  | cons x xs ih => exact (comm x xs []).trans (by rw [ih, List.insertionSort_cons])

/-! ## Fallible comparisons -/

section

variable {S : α → Prop} {before : α → α → Except ε Bool}
  (compares : ∀ {a b}, S a → S b → before a b = .ok (decide (key a < key b)))

include compares

/-- A bisection finds where the elements with greater keys begin, if it begins below and ends above
that place. -/
theorem bisect_eq {sorted : Array α} {x : α} (sound : ∀ a ∈ sorted, S a) (soundX : S x)
    (ascending : sorted.toList.Pairwise fun a b => key a ≤ key b) (low high : Nat)
    (bound : high ≤ sorted.size)
    (below : ∀ i (inside : i < sorted.size), i < low → key sorted[i] ≤ key x)
    (above : ∀ i (inside : i < sorted.size), high ≤ i → key x < key sorted[i]) (le : low ≤ high) :
    ∃ place, bisect before sorted x low high bound = .ok place ∧ place ≤ sorted.size ∧
      (∀ i (inside : i < sorted.size), i < place → key sorted[i] ≤ key x) ∧
      ∀ i (inside : i < sorted.size), place ≤ i → key x < key sorted[i] := by
  have monotone (i j : Nat) (inside : j < sorted.size) (le : i ≤ j) :
      key sorted[i] ≤ key sorted[j] := by
    rcases le.lt_or_eq with less | rfl
    · exact List.pairwise_iff_getElem.mp ascending i j (by simp; omega) (by simpa) less
    · exact le_rfl
  fun_induction bisect before sorted x low high bound with
  | case1 low high bound less middle under e failed =>
    rw [compares soundX (sound _ (Array.getElem_mem _))] at failed
    cases failed
  | case2 low high bound less middle under first ih =>
    rw [compares soundX (sound _ (Array.getElem_mem _))] at first
    have first : key x < key sorted[middle] := by simpa using first
    exact ih below (fun i inside le => first.trans_le (monotone middle i inside le)) (by omega)
      monotone
  | case3 low high bound less middle under last ih =>
    rw [compares soundX (sound _ (Array.getElem_mem _))] at last
    have last : key sorted[middle] ≤ key x := by simpa using last
    refine ih (fun i inside le => ?_) above (by omega) monotone
    exact (monotone i middle _ (by omega)).trans last
  | case4 low high bound all =>
    exact ⟨low, rfl, by omega, below, fun i inside from_ => above i inside (by omega)⟩

/-- By halving, the place of an element is found behind those that it does not precede. -/
theorem insert_eq {sorted : Array α} {x : α} (sound : ∀ a ∈ sorted, S a) (soundX : S x)
    (ascending : sorted.toList.Pairwise fun a b => key a ≤ key b) :
    insert before sorted x = .ok (insertBehind key sorted.toList x).toArray := by
  obtain ⟨place, found, within, below, above⟩ :=
    bisect_eq compares sound soundX ascending 0 sorted.size le_rfl (by omega) (by omega) (by omega)
  have below' : ∀ a ∈ sorted.toList.take place, key a ≤ key x := by
    intro a member
    obtain ⟨i, inside, rfl⟩ := List.mem_take_iff_getElem.mp member
    rw [Array.length_toList] at inside
    exact below i (by omega) (by omega)
  have above' : ∀ b ∈ sorted.toList.drop place, key x < key b := by
    intro b member
    obtain ⟨i, inside, rfl⟩ := List.mem_drop_iff_getElem.mp member
    rw [Array.length_toList] at inside
    exact above (place + i) (by omega) (by omega)
  have split := insertBehind_append below' above'
  rw [List.take_append_drop] at split
  have whole : (sorted.toList.drop place).take (sorted.size - place) = sorted.toList.drop place :=
    List.take_of_length_le (by simp)
  rw [insert, found, split]
  simp [bind, Except.bind, pure, Except.pure, ← Array.toList_inj, whole]

/-- Inserting elements one by one by halving is inserting each behind those that it does not
precede. -/
theorem insertAll_eq {xs : List α} {sorted : Array α} (sound : ∀ a ∈ sorted, S a)
    (soundXs : ∀ x ∈ xs, S x) (ascending : sorted.toList.Pairwise fun a b => key a ≤ key b) :
    insertAll before sorted xs = .ok (xs.foldl (insertBehind key) sorted.toList).toArray := by
  induction xs generalizing sorted with
  | nil => rfl
  | cons x xs ih =>
    obtain ⟨soundX, soundXs⟩ := List.forall_mem_cons.mp soundXs
    have inserted := insert_eq compares sound soundX ascending
    have kept : ∀ a ∈ (insertBehind key sorted.toList x).toArray, S a := by
      intro a member
      rcases (List.mem_orderedInsert _).mp (List.mem_toArray.mp member) with rfl | old
      · exact soundX
      · exact sound a (Array.mem_toList_iff.mp old)
    rw [insertAll, inserted]
    exact ih kept soundXs (pairwise_insertBehind ascending x)

omit compares in
/-- A run goes on while each element is related to the one before it; nothing is lost. -/
theorem extendRun_eq {r : α → α → Prop} [DecidableRel r] {goesOn : α → α → Except ε Bool}
    (decides : ∀ {a b}, S a → S b → goesOn a b = .ok (decide (r a b)))
    (trans : ∀ {a b c}, r a b → r b c → r a c) (last : α) (run rest : List α) (soundLast : S last)
    (sound : ∀ x ∈ rest, S x) (related : (last :: run).Pairwise r) :
    ∃ longer others, extendRun goesOn last run rest = .ok (longer, others) ∧
      longer.reverse ++ others = (last :: run).reverse ++ rest ∧ longer.Pairwise r := by
  induction rest generalizing last run with
  | nil => exact ⟨last :: run, [], rfl, rfl, related⟩
  | cons x rest ih =>
    obtain ⟨soundX, sound⟩ := List.forall_mem_cons.mp sound
    rw [extendRun, decides soundX soundLast]
    by_cases on : r x last
    · have longer : (x :: last :: run).Pairwise r := by
        refine List.pairwise_cons.mpr ⟨List.forall_mem_cons.mpr ⟨on, fun b member => ?_⟩, related⟩
        exact trans on ((List.pairwise_cons.mp related).1 b member)
      obtain ⟨more, others, found, same, related⟩ := ih x (last :: run) soundX sound longer
      refine ⟨more, others, ?_, ?_, related⟩
      · simpa [bind, Except.bind, on] using found
      · simpa using same
    · refine ⟨last :: run, x :: rest, ?_, rfl, related⟩
      simp [bind, Except.bind, pure, Except.pure, on]

/-- The run at the front is as good as inserted. -/
theorem firstRun_eq {xs : List α} (sound : ∀ x ∈ xs, S x) :
    ∃ run others, firstRun before xs = .ok (run, others) ∧
      (∃ first, xs = first ++ others ∧ run = first.foldl (insertBehind key) []) := by
  match xs with
  | [] => exact ⟨[], [], rfl, [], rfl, rfl⟩
  | [x] => exact ⟨[x], [], rfl, [x], rfl, rfl⟩
  | x :: y :: rest =>
    obtain ⟨soundX, soundY, sound⟩ : S x ∧ S y ∧ ∀ z ∈ rest, S z := by simpa using sound
    rw [firstRun, compares soundY soundX]
    by_cases down : key y < key x
    · obtain ⟨run, others, found, same, descending⟩ := extendRun_eq (r := fun a b => key a < key b)
        compares lt_trans y [x] rest soundY sound (by simpa using down)
      refine ⟨run, others, by simpa [bind, Except.bind, down] using found, run.reverse,
        by simpa using same.symm, ?_⟩
      -- Each element of the run stands in front of all that come before it.
      clear same found
      rw [List.foldl_reverse]
      induction run with
      | nil => rfl
      | cons a run ih =>
        obtain ⟨least, descending⟩ := List.pairwise_cons.mp descending
        have inFront : insertBehind key ([] ++ run) a = [] ++ a :: run :=
          insertBehind_append (by simp) least
        rw [List.foldr_cons, ← ih descending]
        exact inFront.symm
    · have up : key x ≤ key y := not_lt.mp down
      have decides {a b : α} (soundA : S a) (soundB : S b) :
          (do return !(← before a b)) = (.ok (decide (key b ≤ key a)) : Except ε Bool) := by
        rw [compares soundA soundB]
        simp [bind, Except.bind, pure, Except.pure, ← not_lt]
      obtain ⟨run, others, found, same, ascending⟩ := extendRun_eq (r := fun a b => key b ≤ key a)
        decides (fun first second => second.trans first) y [x] rest soundY sound (by simpa using up)
      refine ⟨run.reverse, others, ?_, run.reverse, by simpa using same.symm, ?_⟩
      · simp [bind, Except.bind, pure, Except.pure, down] at found ⊢
        simp [found]
      · have sorted : run.reverse.Pairwise fun a b => key a ≤ key b :=
          List.pairwise_reverse.mpr ascending
        rw [foldl_insertBehind, sorted.insertionSort_eq]

/-- Sorting is sorting by insertion. -/
theorem sort_eq {xs : List α} (sound : ∀ x ∈ xs, S x) :
    sort before xs = .ok (xs.insertionSort fun a b => key a ≤ key b) := by
  obtain ⟨run, others, found, first, rfl, rfl⟩ := firstRun_eq compares sound
  have sorted : (first.foldl (insertBehind key) []).Pairwise fun a b => key a ≤ key b := by
    rw [foldl_insertBehind]
    exact List.pairwise_insertionSort _ first
  have kept : ∀ a ∈ (first.foldl (insertBehind key) []).toArray, S a := by
    intro a member
    rw [foldl_insertBehind, List.mem_toArray, List.mem_insertionSort] at member
    exact sound a (List.mem_append_left others member)
  have soundOthers : ∀ a ∈ others, S a :=
    fun a member => sound a (List.mem_append_right first member)
  rw [sort, found]
  simp only [bind, Except.bind, pure, Except.pure]
  rw [insertAll_eq compares kept soundOthers sorted, ← List.foldl_append, foldl_insertBehind]

/-- In the opposite order, equal elements still keep theirs. -/
theorem sortDescending_eq {xs : List α} (sound : ∀ x ∈ xs, S x) :
    sortDescending before xs = .ok (xs.insertionSort fun a b => key b ≤ key a) := by
  have reversed : (xs.reverse.insertionSort fun a b => key a ≤ key b).reverse =
      xs.insertionSort fun a b => key b ≤ key a := by
    rw [← foldl_insertBehind, List.foldl_reverse]
    induction xs with
    | nil => rfl
    | cons x xs ih =>
      have sorted : (xs.foldr (fun x l => insertBehind key l x) []).Pairwise
          fun a b => key a ≤ key b := by
        rw [← List.foldl_reverse, foldl_insertBehind]
        exact List.pairwise_insertionSort _ _
      rw [List.foldr_cons, reverse_insertBehind sorted,
        ih fun y member => sound y (List.mem_cons_of_mem x member)]
      rfl
  rw [sortDescending, sort_eq compares fun x member => sound x (List.mem_reverse.mp member)]
  simp only [bind, Except.bind, pure, Except.pure, reversed]

end

end DryRun.Sorting
