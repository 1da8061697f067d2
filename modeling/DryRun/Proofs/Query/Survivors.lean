import DryRun.Proofs.Query.Table

/-!
# Where the shown rows come from

Whatever the cells are and however they compare, a selection that succeeds shows rows of the table,
none more often than the table has it (`Table.exists_shown`). Filtering leaves some of the rows in
their order, sorting changes nothing but the order, and keeping the first rows drops the others.

That a sort only changes the order does not hang on the comparisons: a run that is taken from the
front and an element that is put somewhere into an array lose nothing (`Sorting.sort_perm`).
-/

set_option autoImplicit false

namespace DryRun

namespace Sorting

variable {α ε : Type} {before goesOn : α → α → Except ε Bool}

/-- Extending a run leaves the elements in order. -/
theorem extendRun_append {last : α} {run rest longer others : List α}
    (extended : extendRun goesOn last run rest = .ok (longer, others)) :
    longer.reverse ++ others = (last :: run).reverse ++ rest := by
  induction rest generalizing last run with
  | nil =>
    obtain ⟨rfl, rfl⟩ := Prod.mk.inj (Except.ok.inj extended)
    rfl
  | cons x rest ih =>
    rw [extendRun] at extended
    obtain ⟨on, -, extended⟩ := exists_of_bind_eq_ok extended
    cases on with
    | true => simpa using ih extended
    | false =>
      obtain ⟨rfl, rfl⟩ := Prod.mk.inj (Except.ok.inj extended)
      rfl

/-- The first run and the others are all elements. -/
theorem firstRun_perm {xs run others : List α} (taken : firstRun before xs = .ok (run, others)) :
    (run ++ others).Perm xs := by
  match xs with
  | [] | [x] =>
    obtain ⟨rfl, rfl⟩ := Prod.mk.inj (Except.ok.inj taken)
    exact .refl _
  | x :: y :: rest =>
    rw [firstRun] at taken
    obtain ⟨down, -, taken⟩ := exists_of_bind_eq_ok taken
    cases down with
    | true =>
      have whole : run.reverse ++ others = x :: y :: rest := extendRun_append taken
      rw [← whole]
      exact run.reverse_perm.symm.append_right others
    | false =>
      obtain ⟨⟨longer, left⟩, extended, same⟩ := exists_of_bind_eq_ok taken
      obtain ⟨rfl, rfl⟩ := Prod.mk.inj (Except.ok.inj same)
      exact .of_eq (extendRun_append extended)

/-- Inserting an element keeps all elements. -/
theorem insert_perm {sorted inserted : Array α} {x : α}
    (ok : insert before sorted x = .ok inserted) : inserted.toList.Perm (x :: sorted.toList) := by
  obtain ⟨place, -, same⟩ := exists_of_bind_eq_ok ok
  obtain rfl := Except.ok.inj same
  have parts : (sorted.take place ++ #[x] ++ sorted.extract place sorted.size).toList =
      sorted.toList.take place ++ x :: sorted.toList.drop place := by
    have whole : (sorted.toList.drop place).take (sorted.size - place) =
        sorted.toList.drop place := List.take_of_length_le (by simp)
    simp [whole]
  rw [parts]
  exact List.perm_middle.trans (.of_eq (by rw [List.take_append_drop]))

/-- Inserting elements keeps all of them. -/
theorem insertAll_perm {xs : List α} {sorted inserted : Array α}
    (ok : insertAll before sorted xs = .ok inserted) :
    inserted.toList.Perm (sorted.toList ++ xs) := by
  induction xs generalizing sorted with
  | nil =>
    obtain rfl := Except.ok.inj ok
    simp
  | cons x xs ih =>
    obtain ⟨next, first, rest⟩ := exists_of_bind_eq_ok ok
    have placed : (next.toList ++ xs).Perm (x :: sorted.toList ++ xs) :=
      (insert_perm first).append_right xs
    exact (ih rest).trans (placed.trans List.perm_middle.symm)

/-- A sort that succeeds only changes the order, whatever is compared. -/
theorem sort_perm {xs sorted : List α} (ok : sort before xs = .ok sorted) : sorted.Perm xs := by
  obtain ⟨⟨run, others⟩, taken, rest⟩ := exists_of_bind_eq_ok ok
  obtain ⟨inserted, all, same⟩ := exists_of_bind_eq_ok rest
  obtain rfl := Except.ok.inj same
  have whole : inserted.toList.Perm (run ++ others) := by simpa using insertAll_perm all
  exact whole.trans (firstRun_perm taken)

/-- Sorting keeps all elements. -/
theorem sortDescending_perm {xs sorted : List α} (ok : sortDescending before xs = .ok sorted) :
    sorted.Perm xs := by
  obtain ⟨ascending, turned, same⟩ := exists_of_bind_eq_ok ok
  obtain rfl := Except.ok.inj same
  exact ascending.reverse_perm.trans ((sort_perm turned).trans xs.reverse_perm)

end Sorting

/-- Where a computation succeeds on a list, it has a result for each element. -/
theorem forall₂_of_mapM_eq_ok {α β ε : Type} {f : α → Except ε β} {xs : List α} {ys : List β}
    (ok : xs.mapM f = .ok ys) : List.Forall₂ (fun x y => f x = .ok y) xs ys := by
  induction xs generalizing ys with
  | nil =>
    obtain rfl := Except.ok.inj ok
    exact .nil
  | cons x xs ih =>
    rw [List.mapM_cons] at ok
    obtain ⟨y, first, rest⟩ := exists_of_bind_eq_ok ok
    obtain ⟨others, mapped, same⟩ := exists_of_bind_eq_ok rest
    obtain rfl := Except.ok.inj same
    exact .cons first (ih mapped)

/-- A condition keeps some of the rows, in their order. -/
theorem Condition.filter_sublist {c : Condition} {rows met : List Row}
    (ok : c.filter rows = .ok met) : met.Sublist rows := by
  induction rows generalizing met with
  | nil =>
    obtain rfl := Except.ok.inj ok
    exact .slnil
  | cons row rows ih =>
    rw [filter] at ok
    obtain ⟨selected, -, rest⟩ := exists_of_bind_eq_ok ok
    obtain ⟨others, filtered, same⟩ := exists_of_bind_eq_ok rest
    obtain rfl := Except.ok.inj same
    cases selected with
    | true => exact (ih filtered).cons_cons row
    | false => exact (ih filtered).cons row

namespace Table

/-- Conditions keep some of the rows, in their order. -/
theorem filterRows_sublist {columns : List Text} {conditions : List Condition}
    {rows met : List Row} (ok : filterRows columns conditions rows = .ok met) :
    met.Sublist rows := by
  induction conditions generalizing rows with
  | nil =>
    obtain rfl := Except.ok.inj ok
    exact .refl _
  | cons c conditions ih =>
    rw [filterRows] at ok
    split at ok
    · obtain ⟨some, filtered, rest⟩ := exists_of_bind_eq_ok ok
      exact (ih rest).trans (Condition.filter_sublist filtered)
    · exact ih ok

/-- A row is sorted together with its key. -/
theorem sortKey_row {column : Text} {row : Row} {pair : Cell × Row}
    (ok : sortKey column row = .ok pair) : pair.2 = row := by
  unfold sortKey at ok
  split at ok
  · rw [← Except.ok.inj ok]
  · rw [← Except.ok.inj ok]
  · cases ok

/-- Sorting keeps all rows. -/
theorem sortRows_perm {columns : List Text} {order : Option SortOrder} {rows sorted : List Row}
    (ok : sortRows columns order rows = .ok sorted) : sorted.Perm rows := by
  cases order with
  | none =>
    obtain rfl := Except.ok.inj ok
    exact .refl _
  | some order =>
    rw [sortRows] at ok
    split at ok
    · obtain ⟨keyed, keys, rest⟩ := exists_of_bind_eq_ok ok
      have back : keyed.map Prod.snd = rows := by
        have each := (forall₂_of_mapM_eq_ok keys).imp fun _ _ found => (sortKey_row found).symm
        exact (List.forall₂_eq_eq_eq ▸ List.forall₂_map_right_iff.mpr each).symm
      have reordered : ∃ pairs : List (Cell × Row), pairs.Perm keyed ∧
          pairs.map Prod.snd = sorted := by
        dsimp only at rest
        split at rest
        · obtain ⟨pairs, turned, same⟩ := exists_of_bind_eq_ok rest
          exact ⟨pairs, Sorting.sortDescending_perm turned, Except.ok.inj same⟩
        · obtain ⟨pairs, turned, same⟩ := exists_of_bind_eq_ok rest
          exact ⟨pairs, Sorting.sort_perm turned, Except.ok.inj same⟩
      obtain ⟨pairs, perm, rfl⟩ := reordered
      rw [← back]
      exact perm.map Prod.snd
    · obtain rfl := Except.ok.inj ok
      exact .refl _

/-- A selection that succeeds shows some rows of the table. -/
theorem exists_shown {t : Table} {s : Selection} {lines : List Text}
    (ok : t.select s = .ok lines) :
    ∃ shown : List Row, shown.Subperm t.rows ∧
      Grid.answer (shownColumns t.columns s.columns) shown = .ok lines := by
  obtain ⟨met, filtered, rest⟩ := exists_of_bind_eq_ok ok
  obtain ⟨sorted, turned, rest⟩ := exists_of_bind_eq_ok rest
  obtain ⟨shown, limited, answered⟩ := exists_of_bind_eq_ok rest
  refine ⟨shown, ?_, answered⟩
  have front : shown <+: sorted := limitRows_prefix limited
  have kept : shown.Subperm sorted := front.sublist.subperm
  have selected : met.Subperm t.rows := (filterRows_sublist filtered).subperm
  exact kept.trans ((sortRows_perm turned).subperm.trans selected)

end Table

end DryRun
