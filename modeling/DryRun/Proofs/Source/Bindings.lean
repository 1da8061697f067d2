import DryRun.Proofs.Text.Pieces
import DryRun.Source.Assignment

/-!
# What the lines of a text bind

The bindings of lines that are put together with line feeds come from the lines one after the other
(`readText_join`), although an assignment sees other line ends than the line feed as well. A line
that does not bind a name leaves what it is bound to (`get?_readLine`), and a line without an equals
sign binds nothing. What is bound is a name (`Binds.isName`). `value?_quoted` reads a quoted text
back from a right-hand side, whatever characters stand between its marks.
-/

set_option autoImplicit false

namespace DryRun

/-- After a name is set it has its new value, and every other name the value that it had. -/
theorem Record.get?_set {α : Type} (record : Record α) (name other : Text) (value : α) :
    (record.set name value).get? other = if other = name then some value else record.get? other := by
  induction record with
  | nil =>
    by_cases same : other = name
    · simp [set, get?, same]
    · simp [set, get?, List.lookup_cons, same, beq_eq_false_iff_ne.2 same]
  | cons entry rest ih =>
    obtain ⟨first, old⟩ := entry
    simp only [set, get?] at ih ⊢
    split
    case isTrue same =>
      subst same
      by_cases here : other = first
      · simp [here]
      · simp [List.lookup_cons, here, beq_eq_false_iff_ne.2 here]
    case isFalse apart =>
      by_cases here : other = first
      · subst here
        simp [apart]
      · simp only [List.lookup_cons, beq_eq_false_iff_ne.2 here, ih]

namespace RightHandSide

/-- A text that does not end in a semicolon is left as it is. -/
theorem dropSemicolon_eq_self {s : Text} (bare : s.getLast? ≠ some ';') : dropSemicolon s = s := by
  simp [dropSemicolon, bare]

/-- A semicolon at the end is taken away with the blanks before it. -/
theorem dropSemicolon_concat (s : Text) : dropSemicolon (s ++ [';']) = Text.stripRight s := by
  simp [dropSemicolon]

/-- A quoted text is the value of a right-hand side, with or without a semicolon after it. -/
theorem value?_quoted {quote : Char} (mark : quote ∈ Text.quoteMarks) {v : Text}
    (whole : '\n' ∉ v) {closing : Text} (closes : closing = [] ∨ closing = [';']) :
    value? (' ' :: (quote :: v ++ [quote] ++ closing)) = some v := by
  have solid : Text.isBlank quote = false := Text.forall_mem_of_all (by decide) quote mark
  have notSemicolon : quote ≠ ';' := ne_of_mem_of_not_mem mark (by decide)
  have notFeed : '\n' ≠ quote := (ne_of_mem_of_not_mem mark (by decide)).symm
  have last : (quote :: v ++ [quote]).getLast? = some quote := List.getLast?_concat
  have bare : dropSemicolon (quote :: v ++ [quote]) = quote :: v ++ [quote] :=
    dropSemicolon_eq_self (by rw [last]; simpa using notSemicolon)
  have stripped : Text.strip (' ' :: (quote :: v ++ [quote] ++ closing)) =
      quote :: v ++ [quote] ++ closing := by
    rw [← List.singleton_append, Text.strip_blanks_append (Text.forall_mem_of_all (by decide))]
    refine Text.strip_eq_self (by simpa using solid) ?_
    rcases closes with rfl | rfl
    · rw [List.append_nil, last]
      simpa using solid
    · rw [List.getLast?_concat]
      simp [Text.isBlank]
  have value : dropSemicolon (quote :: v ++ [quote] ++ closing) = quote :: v ++ [quote] := by
    rcases closes with rfl | rfl
    · rw [List.append_nil, bare]
    · rw [dropSemicolon_concat]
      exact Text.stripRight_eq_self (by rw [last]; simpa using solid)
  have oneLine : (quote :: v ++ [quote]).contains '\n' = false := by
    simp [whole, notFeed]
  have inner : Text.stripQuotes (quote :: v ++ [quote]) = v := by
    rw [Text.stripQuotes, Text.between?_eq_some_iff.2 ⟨quote, mark, rfl⟩]
    rfl
  rw [value?, stripped, value, oneLine, bare, inner]
  rfl

end RightHandSide

namespace Head

/-- A colon with none behind it is the last one. -/
theorem splitLastColon?_append (before : Text) {after : Text} (once : ':' ∉ after) :
    splitLastColon? (before ++ ':' :: after) = some (before, after) := by
  have reversed : (before ++ ':' :: after).reverse = after.reverse ++ ':' :: before.reverse := by
    simp
  have apart : ∀ c ∈ after.reverse, (c != ':') = true := fun c member =>
    bne_iff_ne.2 fun same => once (same ▸ List.mem_reverse.1 member)
  simp [splitLastColon?, reversed, List.dropWhile_append_of_pos apart,
    List.takeWhile_append_of_pos apart]

/-- A text is cut at a colon that has none behind it. -/
theorem splitLastColon?_eq_some_iff {s before after : Text} :
    splitLastColon? s = some (before, after) ↔ s = before ++ ':' :: after ∧ ':' ∉ after := by
  constructor
  · intro split
    unfold splitLastColon? at split
    cases cut : s.reverse.dropWhile (· != ':') with
    | nil => simp [cut] at split
    | cons colon front =>
      have isColon : colon = ':' := by
        simpa [cut] using List.head?_dropWhile_not (· != ':') s.reverse
      simp only [cut, Option.some.injEq, Prod.mk.injEq] at split
      obtain ⟨rfl, rfl⟩ := split
      refine ⟨?_, fun member => ?_⟩
      · have whole := List.takeWhile_append_dropWhile (p := (· != ':')) (l := s.reverse)
        rw [cut, isColon] at whole
        simpa using (congrArg List.reverse whole).symm
      · have other := List.mem_takeWhile_imp (List.mem_reverse.mp member)
        simp at other
  · rintro ⟨rfl, once⟩
    exact splitLastColon?_append before once

/-- An identifier is a name. -/
theorem isName_of_isIdentifier {x : Text} (identifier : isIdentifier x = true) :
    isName x = true := by
  unfold isName
  split
  case h_1 => simp [isIdentifier, Text.isAsciiLetter] at identifier
  case h_2 => exact identifier

/-- The name that some words end in is a name. -/
theorem isName_of_lastName? {words : List Text} {name : Text}
    (found : lastName? words = some name) : isName name = true := by
  unfold lastName? markedName? at found
  grind

/-- What a head binds is a name. -/
theorem isName_of_name? {head name : Text} (found : name? head = some name) :
    isName name = true := by
  unfold name? at found
  rcases Option.or_eq_some_iff.1 found with typed | ⟨-, declared⟩
  · unfold typedName? at typed
    split at typed
    · simp only [Option.ite_none_right_eq_some, Bool.and_eq_true, Option.some.injEq] at typed
      obtain ⟨⟨⟨-, identifier⟩, -⟩, rfl⟩ := typed
      exact isName_of_isIdentifier identifier
    · cases typed
  · unfold declaredName? at declared
    split at declared
    case h_1 last => exact isName_of_lastName? (last.trans declared)
    case h_2 =>
      split at declared
      · rw [Option.ite_none_right_eq_some] at declared
        exact isName_of_lastName? declared.2
      · cases declared

end Head

namespace Assignment

/-- A line assigns something to a name. -/
def Binds (line name : Text) : Prop := ∃ value, ofLine? line = some ⟨name, value⟩

instance (line name : Text) : Decidable (Binds line name) :=
  decidable_of_iff ((ofLine? line).map Assignment.name = some name) <| by
    simp only [Option.map_eq_some_iff, Binds]
    constructor
    · rintro ⟨assignment, assigned, rfl⟩
      exact ⟨assignment.value, assigned⟩
    · rintro ⟨value, assigned⟩
      exact ⟨_, assigned, rfl⟩

/-- A stripped line without an equals sign assigns nothing. -/
theorem ofStripped?_of_no_sign {line : Text} (none : '=' ∉ line) : ofStripped? line = .none := by
  have dropped : line.dropWhile (· != '=') = [] :=
    List.dropWhile_eq_nil_iff.2 fun c member => bne_iff_ne.2 fun same => none (same ▸ member)
  unfold ofStripped?
  split
  · rfl
  · rw [dropped]

/-- A line without an equals sign assigns nothing. -/
theorem ofLine?_of_no_sign {line : Text} (none : '=' ∉ line) : ofLine? line = .none :=
  ofStripped?_of_no_sign fun member => none (Text.strip_subset line member)

/-- A line without an equals sign binds no name. -/
theorem not_binds_of_no_sign {line : Text} (none : '=' ∉ line) (name : Text) : ¬ Binds line name :=
  fun ⟨_, bound⟩ => by simp [ofLine?_of_no_sign none] at bound

section Sign

variable {head : Text} (bare : '=' ∉ head) (side : Text)
include bare

/-- From the first equals sign on there is the sign and the right-hand side. -/
theorem dropWhile_sign : (head ++ '=' :: side).dropWhile (· != '=') = '=' :: side := by
  have before : ∀ c ∈ head, (c != '=') = true := fun c member =>
    bne_iff_ne.2 fun same => bare (same ▸ member)
  rw [List.dropWhile_append_of_pos before]
  rfl

/-- Before the first equals sign there is the head. -/
theorem takeWhile_sign : (head ++ '=' :: side).takeWhile (· != '=') = head := by
  have before : ∀ c ∈ head, (c != '=') = true := fun c member =>
    bne_iff_ne.2 fun same => bare (same ▸ member)
  rw [List.takeWhile_append_of_pos before]
  simp

variable {side}

/-- A doubled equals sign makes no assignment. -/
theorem ofStripped?_append_doubled (rest : Text) :
    ofStripped? (head ++ '=' :: '=' :: rest) = none := by
  unfold ofStripped?
  split
  · rfl
  · simp [dropWhile_sign bare]

/-- A line is read at its first equals sign, unless that is a double one. -/
theorem ofStripped?_append_sign (single : side.head? ≠ some '=') :
    ofStripped? (head ++ '=' :: side) =
      if isComment (head ++ '=' :: side) then none
      else (Head.name? head).bind fun name =>
        (RightHandSide.value? side).map fun value => ⟨name, value⟩ := by
  unfold ofStripped?
  rw [dropWhile_sign bare, takeWhile_sign bare]
  split
  · rfl
  · cases side with
    | nil => cases Head.name? head <;> cases value : RightHandSide.value? [] <;> simp [value]
    | cons c side =>
      have once : c ≠ '=' := fun same => single (congrArg some same)
      cases Head.name? head <;> cases value : RightHandSide.value? (c :: side) <;>
        simp [once, value]

end Sign

/-- A head that binds a name and a right-hand side that has a value make an assignment. -/
theorem ofStripped?_eq_some {head side name value : Text}
    (plain : isComment (head ++ '=' :: side) = false) (bare : '=' ∉ head)
    (single : side.head? ≠ some '=') (named : Head.name? head = some name)
    (valued : RightHandSide.value? side = some value) :
    ofStripped? (head ++ '=' :: side) = some ⟨name, value⟩ := by
  rw [ofStripped?_append_sign bare single, plain, named, valued]
  rfl

/-- What a line binds is a name. -/
theorem Binds.isName {line name : Text} (bound : Binds line name) :
    Head.isName name = true := by
  obtain ⟨value, assigned⟩ := bound
  unfold ofLine? ofStripped? at assigned
  split at assigned
  · cases assigned
  · split at assigned
    · cases assigned
    · cases assigned
    · split at assigned
      case h_1 named _ =>
        cases assigned
        exact Head.isName_of_name? named
      case h_2 => cases assigned

end Assignment

namespace Bindings

open Assignment

variable {table : Bindings} {name : Text}

/-- A line that does not bind a name leaves its value alone. -/
theorem get?_readLine {line : Text} (unbound : ¬ Binds line name) :
    (readLine table line).get? name = table.get? name := by
  unfold readLine
  cases assigned : ofLine? line with
  | none => rfl
  | some assignment =>
    have apart : name ≠ assignment.name := fun same =>
      unbound ⟨assignment.value, by rw [assigned, same]⟩
    rw [Record.get?_set, if_neg apart]

/-- A line that binds a name gives it its value. -/
theorem get?_readLine_self {line value : Text} (bound : ofLine? line = some ⟨name, value⟩) :
    (readLine table line).get? name = some value := by
  simp [readLine, bound, Record.get?_set]

/-- The bindings after the lines of a text have been read as well. -/
def readText (table : Bindings) (s : Text) : Bindings := (Text.lines s).foldl readLine table

/-- The bindings of a source text are those of reading it with nothing bound before. -/
theorem ofSource_eq (source : Text) : ofSource source = readText [] source := rfl

/-- An empty line binds nothing. -/
theorem readLine_nil (table : Bindings) : readLine table [] = table := rfl

/-- The two sides of a line feed are read one after the other. -/
theorem readText_append_feed (table : Bindings) (s t : Text) :
    readText table (s ++ '\n' :: t) = readText (readText table s) t := by
  unfold readText
  rcases Text.lines_append_feed s t with split | split
  · rw [split, List.foldl_append]
  · rw [split, List.foldl_append, List.foldl_cons, readLine_nil]

/-- Reading lines joined by line feeds is reading one after the other. -/
theorem readText_join {lines : List Text} :
    readText table (Text.join ['\n'] lines) = lines.foldl readText table := by
  induction lines generalizing table with
  | nil => rfl
  | cons line rest ih =>
    cases rest with
    | nil => rfl
    | cons next rest =>
      rw [Text.join, List.append_assoc, List.singleton_append, readText_append_feed, ih]
      rfl

/-- Lines that do not bind a name leave its value alone. -/
theorem get?_foldl_readLine {lines : List Text} (unbound : ∀ line ∈ lines, ¬ Binds line name) :
    (lines.foldl readLine table).get? name = table.get? name := by
  induction lines generalizing table with
  | nil => rfl
  | cons line rest ih =>
    rw [List.foldl_cons, ih fun other member => unbound other (List.mem_cons_of_mem line member),
      get?_readLine (unbound line List.mem_cons_self)]

/-- Texts none of whose lines binds a name leave its value alone. -/
theorem get?_foldl_readText {texts : List Text}
    (unbound : ∀ text ∈ texts, ∀ line ∈ Text.lines text, ¬ Binds line name) :
    (texts.foldl readText table).get? name = table.get? name := by
  induction texts generalizing table with
  | nil => rfl
  | cons text rest ih =>
    rw [List.foldl_cons, ih fun other member => unbound other (List.mem_cons_of_mem text member)]
    exact get?_foldl_readLine (unbound text List.mem_cons_self)

/-- A text that is no name is bound to nothing. -/
theorem get?_ofSource_of_not_isName {x : Text} (other : Head.isName x = false)
    (source : Text) : (ofSource source).get? x = none := by
  have unread : (ofSource source).get? x = Record.get? [] x :=
    get?_foldl_readLine fun _ _ bound => by simp [bound.isName] at other
  exact unread

end Bindings

end DryRun
