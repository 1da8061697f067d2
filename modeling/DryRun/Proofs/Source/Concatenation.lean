import DryRun.Proofs.Source.Bindings
import Mathlib.Data.List.Induction

/-!
# Bindings of texts put together

A text that is cut at any line end binds what its two sides bind, the second one after the first one
(`Bindings.ofSource_append`). The cut may make an empty line or take one away, since a carriage
return and the line feed after it end one line; an empty line binds nothing, so this does not matter
(`Text.exists_lines_append`).

A name that is bound again keeps its place and takes the new value. So a table can be put together
from tables as well as from lines (`Record.update_set`), the order of its names is that in which
they are bound first (`names_ofSource`), and the value of a name is the one of the last line that
binds it (`get?_ofSource_iff`).
-/

set_option autoImplicit false

namespace DryRun

namespace Record

variable {α : Type} {record later : Record α} {name other : Text} {value old : α}

/-- A name that is set is put at the end unless it is there already. -/
theorem names_set (record : Record α) (name : Text) (value : α) :
    (record.set name value).names =
      if name ∈ record.names then record.names else record.names ++ [name] := by
  induction record with
  | nil => rfl
  | cons entry rest ih =>
    obtain ⟨first, old⟩ := entry
    by_cases same : first = name
    · simp [set, names, same]
    · simp only [names, List.map_cons, List.mem_cons] at ih ⊢
      rw [set, if_neg same, List.map_cons, ih]
      by_cases known : name ∈ rest.map Prod.fst
      · simp [known]
      · simp [known, Ne.symm same]

/-- Setting a name makes no name come twice. -/
theorem nodup_names_set (distinct : record.names.Nodup) : (record.set name value).names.Nodup := by
  rw [names_set]
  split
  case isTrue => exact distinct
  case isFalse new =>
    refine List.nodup_append.mpr ⟨distinct, by simp, ?_⟩
    rintro a known b only rfl
    exact new (List.mem_singleton.mp only ▸ known)

/-- The last value that a name is given counts. -/
theorem set_set (record : Record α) (name : Text) (old value : α) :
    (record.set name old).set name value = record.set name value := by
  induction record with
  | nil => simp [set]
  | cons entry rest ih =>
    obtain ⟨first, former⟩ := entry
    by_cases same : first = name
    · simp [set, same]
    · simp [set, same, ih]

/-- A name that has its place may be set before or after another one. -/
theorem set_comm {former : α} (known : name ∈ record.names) (apart : other ≠ name) :
    (record.set other former).set name value = (record.set name value).set other former := by
  induction record with
  | nil => simp [names] at known
  | cons entry rest ih =>
    obtain ⟨first, old⟩ := entry
    by_cases here : first = name
    · subst here
      simp [set, Ne.symm apart]
    · have inside : name ∈ names rest := by
        simpa [names, Ne.symm here] using known
      by_cases there : first = other
      · subst there
        simp [set, here]
      · simp [set, here, there, ih inside]

/-- A name that is known and that the later record does not set may be set before or after the
update. -/
theorem set_update (known : name ∈ record.names) (unset : name ∉ later.names) :
    (record.update later).set name value = (record.set name value).update later := by
  induction later generalizing record with
  | nil => rfl
  | cons entry rest ih =>
    obtain ⟨first, former⟩ := entry
    simp only [names, List.map_cons, List.mem_cons, not_or] at unset
    have kept : name ∈ (record.set first former).names := by
      rw [names_set]
      split
      · exact known
      · exact List.mem_append_left _ known
    show (Record.update (record.set first former) rest).set name value =
      ((record.set name value).set first former).update rest
    rw [ih kept unset.2, set_comm known (Ne.symm unset.1)]

/-- Setting one more name in a record and then updating another one with it is updating first and
setting the name then. -/
theorem update_set (distinct : later.names.Nodup) :
    record.update (later.set name value) = (record.update later).set name value := by
  induction later generalizing record with
  | nil => rfl
  | cons entry rest ih =>
    obtain ⟨first, old⟩ := entry
    obtain ⟨single, distinct⟩ := List.nodup_cons.mp distinct
    by_cases same : first = name
    · subst same
      have known : first ∈ (record.set first old).names := by
        rw [names_set]
        split <;> simp_all
      have last : ((record.set first old).update rest).set first value =
          ((record.set first old).set first value).update rest := set_update known single
      rw [set_set] at last
      rw [set, if_pos rfl]
      exact last.symm
    · rw [set, if_neg same]
      exact ih distinct

end Record

namespace Text

/-- Whether something stands on a line. -/
def isFull (line : Text) : Bool := !line.isEmpty

/-- A line end in front of a text ends an empty line, and with it perhaps the next one. -/
theorem exists_lines_cons {c : Char} (ends : isLineEnd c = true) (t : Text) :
    ∃ more, lines (c :: t) = [] :: more ∧ more.filter isFull = (lines t).filter isFull := by
  by_cases double : ∃ rest, c = '\r' ∧ t = '\n' :: rest
  · obtain ⟨rest, rfl, rfl⟩ := double
    refine ⟨lines rest, by rw [lines], ?_⟩
    rw [lines_cons_of_isLineEnd (by decide) (by simp)]
    rfl
  · have single (rest : Text) (carriage : c = '\r') : t ≠ '\n' :: rest := fun feed =>
      double ⟨rest, carriage, feed⟩
    exact ⟨lines t, lines_cons_of_isLineEnd ends single, rfl⟩

/-- A line end between two texts adds the lines of the second one to those of the first one, empty
lines apart. -/
theorem exists_lines_append {c : Char} (ends : isLineEnd c = true) (s t : Text) :
    ∃ more, lines (s ++ c :: t) = lines s ++ more ∧
      more.filter isFull = (lines t).filter isFull := by
  fun_induction lines s with
  | case1 =>
    obtain ⟨more, cut, same⟩ := exists_lines_cons ends t
    exact ⟨[] :: more, cut, same⟩
  | case2 rest ih =>
    obtain ⟨more, cut, same⟩ := ih
    exact ⟨more, by rw [List.cons_append, List.cons_append, lines, cut, List.cons_append], same⟩
  | case3 d rest single ends' ih =>
    cases rest with
    | nil =>
      -- The two line ends may be a carriage return and a line feed.
      by_cases double : d = '\r' ∧ c = '\n'
      · obtain ⟨rfl, rfl⟩ := double
        exact ⟨lines t, by simp [lines], rfl⟩
      · obtain ⟨more, cut, same⟩ := ih
        refine ⟨more, ?_, same⟩
        rw [List.singleton_append, lines_cons_of_isLineEnd ends' fun rest carriage feed =>
          double ⟨carriage, (List.cons.inj feed).1⟩]
        exact congrArg _ cut
    | cons e rest =>
      have apart (after : Text) (carriage : d = '\r') : e :: rest ++ c :: t ≠ '\n' :: after :=
        fun feed => single rest carriage (by simp_all)
      obtain ⟨more, cut, same⟩ := ih
      exact ⟨more, by rw [List.cons_append, lines_cons_of_isLineEnd ends' apart, cut]; rfl, same⟩
  | case4 d rest single inside ih =>
    have inside : isLineEnd d = false := by simpa using inside
    rw [List.cons_append, lines_cons inside]
    cases rest with
    | nil =>
      obtain ⟨more, cut, same⟩ := exists_lines_cons ends t
      exact ⟨more, by rw [List.nil_append, cut]; simp [lines, consPiece], same⟩
    | cons e rest =>
      obtain ⟨more, cut, same⟩ := ih
      exact ⟨more, by rw [cut, consPiece_append d (lines_ne_nil e rest)], same⟩

end Text

namespace Bindings

open Assignment

variable {table : Bindings} {name value : Text}

/-! ## Line by line -/

/-- A line sets what it assigns. -/
theorem readLine_eq (table : Bindings) (line : Text) :
    readLine table line = (ofLine? line).elim table fun assignment =>
      Record.set assignment.name assignment.value table := by
  unfold readLine
  cases ofLine? line <;> rfl

/-- Reading a line makes no name come twice. -/
theorem nodup_names_readLine (distinct : table.names.Nodup) (line : Text) :
    (readLine table line).names.Nodup := by
  rw [readLine_eq]
  cases ofLine? line with
  | none => exact distinct
  | some assignment => exact Record.nodup_names_set distinct

/-- Reading lines makes no name come twice. -/
theorem nodup_names_foldl (distinct : table.names.Nodup) (lines : List Text) :
    (lines.foldl readLine table).names.Nodup := by
  induction lines generalizing table with
  | nil => exact distinct
  | cons line lines ih => exact ih (nodup_names_readLine distinct line)

/-- Lines that are read after others update what these have bound. -/
theorem foldl_readLine_eq_update (table : Bindings) (lines : List Text) :
    lines.foldl readLine table = table.update (lines.foldl readLine []) := by
  induction lines using List.reverseRecOn with
  | nil => rfl
  | append_singleton lines line ih =>
    have none : (Record.names ([] : Bindings)).Nodup := List.nodup_nil
    have distinct := nodup_names_foldl none lines
    simp only [List.foldl_append, List.foldl_cons, List.foldl_nil, readLine_eq, ih]
    cases ofLine? line with
    | none => rfl
    | some assignment => exact (Record.update_set distinct).symm

/-- Empty lines bind nothing. -/
theorem foldl_readLine_filter (table : Bindings) (lines : List Text) :
    (lines.filter Text.isFull).foldl readLine table = lines.foldl readLine table := by
  induction lines generalizing table with
  | nil => rfl
  | cons line lines ih =>
    cases line with
    | nil => exact ih table
    | cons c line => exact ih _

/-- What is bound by a text cut at a line end. -/
theorem ofSource_append_cons {c : Char} (ends : Text.isLineEnd c = true) (s t : Text) :
    ofSource (s ++ c :: t) = (ofSource s).update (ofSource t) := by
  obtain ⟨more, cut, same⟩ := Text.exists_lines_append ends s t
  have later (table : Bindings) :
      more.foldl readLine table = (Text.lines t).foldl readLine table := by
    rw [← foldl_readLine_filter, same, foldl_readLine_filter]
  unfold ofSource
  rw [cut, List.foldl_append, later, foldl_readLine_eq_update]

/-- A name is bound to what the last line that binds it says. -/
theorem get?_foldl_readLine_iff {lines : List Text} :
    (lines.foldl readLine []).get? name = some value ↔
      ∃ front line back, lines = front ++ line :: back ∧ ofLine? line = some ⟨name, value⟩ ∧
        ∀ other ∈ back, ¬ Binds other name := by
  constructor
  · intro bound
    induction lines using List.reverseRecOn with
    | nil => cases bound
    | append_singleton lines line ih =>
      rw [List.foldl_append, List.foldl_cons, List.foldl_nil] at bound
      by_cases binds : Binds line name
      · obtain ⟨latest, assigned⟩ := binds
        rw [get?_readLine_self assigned] at bound
        cases bound
        exact ⟨lines, line, [], rfl, assigned, by simp⟩
      · rw [get?_readLine binds] at bound
        obtain ⟨front, last, back, rfl, assigned, unbound⟩ := ih bound
        refine ⟨front, last, back ++ [line], by simp, assigned, ?_⟩
        exact List.forall_mem_append.mpr ⟨unbound, List.forall_mem_singleton.mpr binds⟩
  · rintro ⟨front, line, back, rfl, assigned, unbound⟩
    rw [List.foldl_append, List.foldl_cons, get?_foldl_readLine unbound,
      get?_readLine_self assigned]

/-- The names that are bound, in the order in which they are bound first. -/
theorem names_foldl_readLine (lines : List Text) :
    (lines.foldl readLine []).names =
      ((lines.filterMap ofLine?).map Assignment.name).eraseDups := by
  induction lines using List.reverseRecOn with
  | nil => rfl
  | append_singleton lines line ih =>
    rw [List.foldl_append, List.foldl_cons, List.foldl_nil, readLine_eq, List.filterMap_append]
    cases assigned : ofLine? line with
    | none => simp [assigned, ih]
    | some assignment =>
      have one : [line].filterMap ofLine? = [assignment] := by simp [assigned]
      rw [Option.elim_some, Record.names_set, ih, one, List.map_append, List.map_singleton,
        List.eraseDups_append]
      split
      case isTrue known => simp [List.removeAll, List.mem_eraseDups.mp known]
      case isFalse new =>
        simp [List.removeAll, mt List.mem_eraseDups.mpr new, List.eraseDups_cons]

/-- A text whose lines bind nothing binds nothing. -/
theorem ofSource_of_idle {idle : Text} (none : ∀ line ∈ Text.lines idle, ofLine? line = .none) :
    ofSource idle = [] := by
  unfold ofSource
  generalize Text.lines idle = lines at none ⊢
  induction lines with
  | nil => rfl
  | cons line lines ih =>
    obtain ⟨first, others⟩ := List.forall_mem_cons.mp none
    rw [List.foldl_cons, readLine_eq, first]
    exact ih others

/-- **Concatenation.** The bindings of a text that is cut at a line end are those of its first side,
updated by those of its second side. So the names stand in the order in which they are bound first,
each with the value that the last line that binds it gives it, and a text whose lines bind nothing
can be put in or taken out between lines, in front of them or behind them. -/
theorem ofSource_append :
    (∀ c s t, Text.isLineEnd c = true →
      ofSource (s ++ c :: t) = (ofSource s).update (ofSource t)) ∧
    (∀ source, (ofSource source).names =
      (((Text.lines source).filterMap ofLine?).map Assignment.name).eraseDups) ∧
    (∀ source name value, (ofSource source).get? name = some value ↔
      ∃ front line back, Text.lines source = front ++ line :: back ∧
        ofLine? line = some ⟨name, value⟩ ∧ ∀ other ∈ back, ¬ Binds other name) ∧
    ∀ idle, (∀ line ∈ Text.lines idle, ofLine? line = none) →
      ∀ c d s t, Text.isLineEnd c = true → Text.isLineEnd d = true →
        ofSource (s ++ c :: (idle ++ d :: t)) = ofSource (s ++ c :: t) ∧
        ofSource (idle ++ d :: t) = ofSource t ∧ ofSource (s ++ c :: idle) = ofSource s := by
  refine ⟨fun c s t ends => ofSource_append_cons ends s t, fun source => names_foldl_readLine _,
    fun source name value => get?_foldl_readLine_iff, fun idle none c d s t ends ends' => ?_⟩
  have nothing := ofSource_of_idle none
  have front : ofSource (idle ++ d :: t) = ofSource t := by
    rw [ofSource_append_cons ends', nothing]
    exact (foldl_readLine_eq_update [] (Text.lines t)).symm
  refine ⟨?_, front, ?_⟩
  · rw [ofSource_append_cons ends, front, ofSource_append_cons ends]
  · rw [ofSource_append_cons ends, nothing]
    rfl

/-- The carriage return at the end of the first text and the line feed behind it end one line, the
bound name keeps its place, and the comment in between does not matter. -/
theorem ofSource_append_fused :
    (∀ line ∈ Text.lines "# x = 3\r".toList, ofLine? line = none) ∧
      ofSource ("x = 1\ny = 2\r".toList ++ '\n' :: ("# x = 3\r".toList ++ '\n' ::
        "z = 4\x0bx = 'a'".toList)) =
        [("x".toList, "a".toList), ("y".toList, "2".toList), ("z".toList, "4".toList)] := by
  have idle : ∀ line ∈ Text.lines "# x = 3\r".toList, ofLine? line = none := by decide
  have feed : Text.isLineEnd '\n' = true := by decide
  refine ⟨idle, ?_⟩
  rw [(ofSource_append.2.2.2 _ idle '\n' '\n' _ _ feed feed).1, ofSource_append.1 _ _ _ feed]
  decide

end Bindings

end DryRun
