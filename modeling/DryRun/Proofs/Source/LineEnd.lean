import DryRun.Proofs.Language.Catalogue
import DryRun.Proofs.Language.OutputForm
import DryRun.Proofs.Source.Bindings
import DryRun.Grade

/-!
# Line ends of a source text

A text whose lines end in a line feed is given a carriage return before each of these
(`Text.withReturns`). For the bindings the two together end a line once (`ofSource_withReturns`).
The search for an output statement cuts at line feeds only, so there the carriage return stays at
the end of the line. It is stripped from an argument like any blank, and all it can do is to make an
argument where there was none: a statement wants something after the gap behind its keyword, and
where that gap is one character long and ends the line, a carriage return is something
(`onLine?_return`, `onLine?_bare`).

A source is stranded when it has such a line before its last one, and nothing that is found first
(`Stranded`). Its prediction becomes the empty text, and no other prediction changes
(`ofSource_withReturns_iff`). Only a language with a statement among its forms has sources of this
kind (`not_stranded`).
-/

set_option autoImplicit false

namespace DryRun

namespace Text

/-- The text with a carriage return before every line feed. -/
def withReturns (s : Text) : Text := s.flatMap fun c => if c == '\n' then ['\r', '\n'] else [c]

/-- In an empty text there is no line feed to write a carriage return before. -/
@[simp]
theorem withReturns_nil : withReturns [] = [] := rfl

/-- A line feed gets a carriage return before it. -/
@[simp]
theorem withReturns_feed (s : Text) : withReturns ('\n' :: s) = '\r' :: '\n' :: withReturns s := rfl

/-- Any other character is left as it is. -/
theorem withReturns_cons {c : Char} (inside : c ≠ '\n') (s : Text) :
    withReturns (c :: s) = c :: withReturns s := by
  simp [withReturns, inside]

/-- A carriage return and the line feed after it end one line. -/
theorem lines_withReturns {s : Text} (bare : '\r' ∉ s) : lines (withReturns s) = lines s := by
  induction s with
  | nil => rfl
  | cons c s ih =>
    have rest := ih fun member => bare (List.mem_cons_of_mem c member)
    have noReturn : c ≠ '\r' := fun same => bare (same ▸ List.mem_cons_self)
    by_cases feed : c = '\n'
    · subst feed
      rw [withReturns_feed, lines, rest, lines_cons_of_isLineEnd (by decide) (by simp)]
    · rw [withReturns_cons feed]
      cases ends : isLineEnd c with
      | true =>
        rw [lines_cons_of_isLineEnd ends fun _ same => absurd same noReturn,
          lines_cons_of_isLineEnd ends fun _ same => absurd same noReturn, rest]
      | false => rw [lines_cons ends, lines_cons ends, rest]

/-- Every line but the last with a carriage return at its end. -/
def returned : List Text → List Text
  | [] => []
  | [line] => [line]
  | line :: next :: rest => (line ++ ['\r']) :: returned (next :: rest)

/-- A character in front of the first line does not matter to the carriage returns at the ends. -/
theorem returned_consPiece (c : Char) (pieces : List Text) :
    returned (consPiece c pieces) = consPiece c (returned pieces) := by
  cases pieces with
  | nil => rfl
  | cons piece rest =>
    cases rest with
    | nil => rfl
    | cons next rest => rfl

/-- A search that cuts at line feeds leaves the carriage returns at the ends of the lines. -/
theorem feedLines_withReturns (s : Text) : feedLines (withReturns s) = returned (feedLines s) := by
  unfold feedLines
  induction s with
  | nil => rfl
  | cons c s ih =>
    by_cases feed : c = '\n'
    · subst feed
      have some := pieces_ne_nil (· == '\n') s
      rw [withReturns_feed, pieces, pieces, pieces, ih]
      cases cut : pieces (· == '\n') s with
      | nil => exact absurd cut some
      | cons piece rest => rfl
    · have inside : (c == '\n') = false := beq_eq_false_iff_ne.2 feed
      rw [withReturns_cons feed, pieces, pieces, inside, ih]
      exact (returned_consPiece c _).symm

/-- A character that is not in the pattern can be put at the end after the text is cut. -/
theorem splitFirst?_concat {pattern : Text} {c : Char} (some : pattern ≠ [])
    (apart : c ∉ pattern) (s : Text) :
    splitFirst? pattern (s ++ [c]) =
      (splitFirst? pattern s).map fun parts => (parts.1, parts.2 ++ [c]) := by
  induction s with
  | nil =>
    have long : pattern.isPrefixOf [c] = false := by
      rw [← List.nil_append [c], isPrefixOf_append_cons apart]
      cases pattern with
      | nil => exact absurd rfl some
      | cons d pattern => rfl
    simp [splitFirst?, long, some]
  | cons d s ih =>
    have same := isPrefixOf_append_cons apart (d :: s) []
    rw [List.cons_append] at same
    rw [List.cons_append, splitFirst?, splitFirst?, same, ih]
    split
    case isTrue here =>
      have short : pattern.length ≤ (d :: s).length :=
        (List.isPrefixOf_iff_prefix.1 here).length_le
      rw [← List.cons_append, List.drop_append_of_le_length short]
      rfl
    case isFalse =>
      cases splitFirst? pattern s with
      | none => rfl
      | some parts => rfl

end Text

/-- Carriage returns before the line feeds change no binding. -/
theorem Bindings.ofSource_withReturns {source : Text} (bare : '\r' ∉ source) :
    ofSource (Text.withReturns source) = ofSource source := by
  unfold ofSource
  rw [Text.lines_withReturns bare]

namespace OutputForm

/-! ### A carriage return at the end of a line -/

/-- The form has a keyword that no carriage return can complete, and a statement stands first on its
line. -/
structure Regular (form : OutputForm) : Prop where
  worded : form.keyword.toList ≠ []
  unreturned : '\r' ∉ form.keyword.toList
  first : form.shape = .statement → form.place = .lineStart

instance (form : OutputForm) : Decidable form.Regular :=
  decidable_of_iff (form.keyword.toList ≠ [] ∧ '\r' ∉ form.keyword.toList ∧
      (form.shape = .statement → form.place = .lineStart))
    ⟨fun ⟨worded, unreturned, first⟩ => ⟨worded, unreturned, first⟩,
      fun regular => ⟨regular.worded, regular.unreturned, regular.first⟩⟩

/-- A carriage return is no gap. -/
theorem dropWhile_isGap_return (s : Text) :
    (s ++ ['\r']).dropWhile isGap = s.dropWhile isGap ++ ['\r'] := by
  rw [List.dropWhile_append]
  split
  case isTrue empty =>
    rw [List.isEmpty_iff.1 empty]
    rfl
  case isFalse => rfl

/-- A carriage return after a text is stripped from what stands before a semicolon. -/
theorem strip_takeWhile_return (s : Text) :
    Text.strip ((s ++ ['\r']).takeWhile (· != ';')) = Text.strip (s.takeWhile (· != ';')) := by
  have blank : ∀ c ∈ ['\r'], Text.isBlank c = true := Text.forall_mem_of_all (by decide)
  rw [List.takeWhile_append]
  split
  case isTrue whole =>
    have all : s.takeWhile (· != ';') = s := (List.takeWhile_prefix _).eq_of_length whole
    have last : ['\r'].takeWhile (· != ';') = ['\r'] := rfl
    rw [all, last, Text.strip_append_blanks blank]
  case isFalse => rfl

/-- A carriage return at the end is a part of what follows the keyword. -/
theorem afterKeyword?_return {keyword : Text} (unreturned : '\r' ∉ keyword) (s : Text) :
    afterKeyword? keyword (s ++ ['\r']) = (afterKeyword? keyword s).map (· ++ ['\r']) := by
  unfold afterKeyword?
  rw [Text.isPrefixOf_append_cons unreturned]
  split
  case isTrue here =>
    have short : keyword.length ≤ s.length := (List.isPrefixOf_iff_prefix.1 here).length_le
    rw [List.drop_append_of_le_length short]
    rfl
  case isFalse => rfl

/-- What is behind the last parenthesis does not matter. -/
theorem upToLastParen?_return (s : Text) : upToLastParen? (s ++ ['\r']) = upToLastParen? s := by
  simp [upToLastParen?]

/-- A call has its argument behind gaps and a parenthesis. -/
theorem callArgument?_eq (s : Text) :
    callArgument? s = (afterKeyword? ['('] (s.dropWhile isGap)).bind upToLastParen? := by
  unfold callArgument?
  cases s.dropWhile isGap with
  | nil => rfl
  | cons c body =>
    by_cases opening : c = '('
    · subst opening
      rfl
    · simp [afterKeyword?, List.isPrefixOf, opening, Ne.symm opening]

/-- A carriage return at the end of the line does not change the argument of a call. -/
theorem callArgument?_return (s : Text) : callArgument? (s ++ ['\r']) = callArgument? s := by
  rw [callArgument?_eq, callArgument?_eq, dropWhile_isGap_return,
    afterKeyword?_return (by decide), Option.bind_map]
  congr 1
  funext body
  exact upToLastParen?_return body

/-- A stream has its operand behind gaps and the operator. -/
theorem streamArgument?_eq (s : Text) :
    streamArgument? s = (afterKeyword? ['<', '<'] (s.dropWhile isGap)).map fun operands =>
      (Text.upTo ['<', '<'] operands).takeWhile (· != ';') := by
  unfold streamArgument?
  split
  case h_1 operands cut => rw [cut]; rfl
  case h_2 other =>
    have missing : ¬ ['<', '<'] <+: s.dropWhile isGap := by
      rintro ⟨operands, cut⟩
      exact other operands cut.symm
    simp [afterKeyword?, missing]

/-- A carriage return at the end is stripped off an operand. -/
theorem strip_operand_return (operands : Text) :
    Text.strip ((Text.upTo ['<', '<'] (operands ++ ['\r'])).takeWhile (· != ';')) =
      Text.strip ((Text.upTo ['<', '<'] operands).takeWhile (· != ';')) := by
  unfold Text.upTo
  rw [Text.splitFirst?_concat (by decide) (by decide)]
  cases Text.splitFirst? ['<', '<'] operands with
  | none => exact strip_takeWhile_return operands
  | some parts => rfl

/-- A carriage return at the end of the line does not change the argument of a stream. -/
theorem streamArgument?_return (s : Text) :
    (streamArgument? (s ++ ['\r'])).map Text.strip = (streamArgument? s).map Text.strip := by
  rw [streamArgument?_eq, streamArgument?_eq, dropWhile_isGap_return,
    afterKeyword?_return (by decide), Option.map_map, Option.map_map, Option.map_map]
  congr 1
  funext operands
  exact strip_operand_return operands

/-- Where a statement has nothing but one gap character behind its keyword, a carriage return is
the argument that is missing. -/
theorem statementArgument?_gap_return {gap : Char} (isGap_gap : isGap gap = true) :
    statementArgument? [gap] = none ∧ statementArgument? [gap, '\r'] = some ['\r'] := by
  rcases (by simpa [isGap] using isGap_gap : gap = ' ' ∨ gap = '\t') with rfl | rfl
  · decide
  · decide

/-- A carriage return at the end of the line changes the argument of a statement only behind a
single gap. -/
theorem statementArgument?_return {s : Text} (more : ∀ gap, isGap gap = true → s ≠ [gap]) :
    (statementArgument? (s ++ ['\r'])).map Text.strip = (statementArgument? s).map Text.strip := by
  have gaps : (s ++ ['\r']).takeWhile isGap = s.takeWhile isGap := by
    rw [List.takeWhile_append]
    split
    case isTrue whole =>
      rw [(List.takeWhile_prefix _).eq_of_length whole]
      exact List.append_nil s
    case isFalse => rfl
  unfold statementArgument?
  rw [dropWhile_isGap_return, gaps]
  cases rest : s.dropWhile isGap with
  | cons c argument =>
    have stripped := strip_takeWhile_return (c :: argument)
    rw [List.cons_append] at stripped ⊢
    by_cases empty : (s.takeWhile isGap).isEmpty = true
    · simp [empty]
    · simp [empty, stripped]
  | nil =>
    have isGap_all := List.dropWhile_eq_nil_iff.1 rest
    rw [List.takeWhile_eq_self_iff.2 isGap_all]
    match s with
    | [] => rfl
    | [gap] => exact absurd rfl (more gap (isGap_all gap List.mem_cons_self))
    | first :: second :: others => simp [Text.strip, Text.stripLeft, Text.isBlank]

/-- A line on which a carriage return makes an argument: nothing stands behind the keyword of a
statement but one gap character. -/
def Bare (form : OutputForm) (line : Text) : Prop :=
  form.shape = .statement ∧
    ∃ gap, isGap gap = true ∧ line.dropWhile isGap = form.keyword.toList ++ [gap]

variable {form : OutputForm}

/-- A carriage return at the end of the line changes no argument but that of a statement behind a
single gap. -/
theorem argumentAfter?_return {s : Text}
    (more : form.shape = .statement → ∀ gap, isGap gap = true → s ≠ [gap]) :
    (form.argumentAfter? (s ++ ['\r'])).map Text.strip =
      (form.argumentAfter? s).map Text.strip := by
  unfold argumentAfter?
  cases shape : form.shape with
  | call => exact congrArg _ (callArgument?_return s)
  | stream => exact streamArgument?_return s
  | statement => exact statementArgument?_return (more shape)

/-- A form is found here if it may start here and does, and else in the rest of the line. -/
theorem firstFrom?_cons (form : OutputForm) (mayStart : Option Char → Bool)
    (previous : Option Char) (c : Char) (s : Text) :
    form.firstFrom? mayStart previous (c :: s) =
      (if mayStart previous then form.here? (c :: s) else none).or
        (form.firstFrom? mayStart (some c) s) := by
  rw [firstFrom?]
  split
  case h_1 found => rw [found]; rfl
  case h_2 missing => rw [missing]; rfl

namespace Regular

/-- A carriage return at the end of the line does not change what a form finds at the front, unless
the line is bare. -/
theorem here?_return (regular : form.Regular) {s : Text}
    (more : form.shape = .statement → ∀ gap, isGap gap = true → s ≠ form.keyword.toList ++ [gap]) :
    (form.here? (s ++ ['\r'])).map Text.strip = (form.here? s).map Text.strip := by
  unfold here?
  rw [afterKeyword?_return regular.unreturned]
  cases found : afterKeyword? form.keyword.toList s with
  | none => rfl
  | some after =>
    have cut : s = form.keyword.toList ++ after := by
      unfold afterKeyword? at found
      rw [Option.ite_none_right_eq_some, List.isPrefixOf_iff_prefix] at found
      obtain ⟨⟨rest, rfl⟩, same⟩ := found
      simpa using same
    refine argumentAfter?_return fun shape gap isGap_gap same => ?_
    exact more shape gap isGap_gap (by rw [cut, same])

/-- A form that is no statement finds the same on a line with a carriage return at its end. -/
theorem firstFrom?_return (regular : form.Regular) (other : form.shape ≠ .statement)
    (mayStart : Option Char → Bool) (previous : Option Char) (s : Text) :
    (form.firstFrom? mayStart previous (s ++ ['\r'])).map Text.strip =
      (form.firstFrom? mayStart previous s).map Text.strip := by
  have same (s : Text) := regular.here?_return (s := s) fun shape => absurd shape other
  induction s generalizing previous with
  | nil =>
    have missing : form.here? ['\r'] = none := by
      have short : form.here? [] = none := by
        simp [here?, afterKeyword?, regular.worded]
      simpa [short] using same []
    simp [firstFrom?, missing]
  | cons c s ih =>
    have here := same (c :: s)
    rw [List.cons_append] at here ⊢
    rw [firstFrom?_cons, firstFrom?_cons, Option.map_or, Option.map_or, ih]
    split
    · rw [here]
    · rfl

/-- A form finds the same on a line with a carriage return at its end, unless the line is bare. -/
theorem rawArgument?_return (regular : form.Regular) {line : Text} (full : ¬ form.Bare line) :
    (form.rawArgument? (line ++ ['\r'])).map Text.strip =
      (form.rawArgument? line).map Text.strip := by
  unfold rawArgument?
  cases place : form.place with
  | lineStart =>
    simp only
    rw [dropWhile_isGap_return]
    exact regular.here?_return fun shape gap isGap_gap same => full ⟨shape, gap, isGap_gap, same⟩
  | wordStart =>
    have other : form.shape ≠ .statement := fun shape => by simp [regular.first shape] at place
    exact regular.firstFrom?_return other _ none line
  | anywhere =>
    have other : form.shape ≠ .statement := fun shape => by simp [regular.first shape] at place
    exact regular.firstFrom?_return other _ none line

/-- A carriage return at the end of a line leaves the argument as it is, unless the line is bare. -/
theorem onLine?_return (regular : form.Regular) {line : Text} (full : ¬ form.Bare line) :
    form.onLine? (line ++ ['\r']) = form.onLine? line :=
  regular.rawArgument?_return full

/-- On a bare line there is no argument, and with a carriage return there is an empty one. -/
theorem onLine?_bare (regular : form.Regular) {line : Text} (bare : form.Bare line) :
    form.onLine? line = none ∧ form.onLine? (line ++ ['\r']) = some [] := by
  obtain ⟨shape, gap, isGap_gap, cut⟩ := bare
  have place := regular.first shape
  obtain ⟨missing, found⟩ := statementArgument?_gap_return isGap_gap
  have before : form.rawArgument? line = none := by
    simp only [rawArgument?, place, cut]
    rw [here?_append, argumentAfter?, shape]
    exact missing
  have after : form.rawArgument? (line ++ ['\r']) = some ['\r'] := by
    simp only [rawArgument?, place, dropWhile_isGap_return, cut]
    rw [List.append_assoc, here?_append, argumentAfter?, shape]
    exact found
  constructor
  · rw [onLine?, before, Option.map_none]
  · rw [onLine?, after]
    rfl

end Regular

/-! ### The lines of a source -/

/-- A bare line that is not the last one stands before every line on which the form finds
anything. -/
def Stranded (form : OutputForm) (source : Text) : Prop :=
  ∃ before line after, Text.feedLines source = before ++ line :: after ∧ after ≠ [] ∧
    form.Bare line ∧ ∀ other ∈ before, form.onLine? other = none

namespace Regular

/-- With carriage returns the first bare line has an argument, and an empty one. -/
theorem findSome?_returned_of_stranded (regular : form.Regular) {before after : List Text}
    {line : Text} (more : after ≠ []) (bare : form.Bare line)
    (silent : ∀ other ∈ before, form.onLine? other = none) :
    (Text.returned (before ++ line :: after)).findSome? form.onLine? = some [] := by
  obtain ⟨next, rest, rfl⟩ := List.exists_cons_of_ne_nil more
  induction before with
  | nil =>
    rw [List.nil_append, Text.returned, List.findSome?_cons, (regular.onLine?_bare bare).2]
  | cons first before ih =>
    have later := ih fun other member => silent other (List.mem_cons_of_mem first member)
    have cut : Text.returned (first :: (before ++ line :: next :: rest)) =
        (first ++ ['\r']) :: Text.returned (before ++ line :: next :: rest) := by
      cases before with
      | nil => rfl
      | cons second before => rfl
    rw [List.cons_append, cut, List.findSome?_cons, later]
    -- An earlier bare line gives an empty argument as well.
    by_cases empty : form.Bare first
    · rw [(regular.onLine?_bare empty).2]
    · rw [regular.onLine?_return empty, silent first List.mem_cons_self]

/-- With carriage returns the same line counts as without, if no bare line comes before it. -/
theorem findSome?_returned (regular : form.Regular) {lines : List Text}
    (full : ∀ before line after, lines = before ++ line :: after → after ≠ [] → form.Bare line →
      ∃ other ∈ before, form.onLine? other ≠ none) :
    (Text.returned lines).findSome? form.onLine? = lines.findSome? form.onLine? := by
  induction lines with
  | nil => rfl
  | cons line rest ih =>
    cases rest with
    | nil => rfl
    | cons next rest =>
      have notBare : ¬ form.Bare line := fun bare => by
        simpa using full [] line (next :: rest) rfl (by simp) bare
      rw [Text.returned, List.findSome?_cons, List.findSome?_cons, regular.onLine?_return notBare]
      cases found : form.onLine? line with
      | some argument => rfl
      | none =>
        apply ih
        intro before other after cut more bare
        obtain ⟨first, member, printed⟩ :=
          full (line :: before) other after (by rw [cut, List.cons_append]) more bare
        rcases List.mem_cons.1 member with rfl | inside
        · exact absurd found printed
        · exact ⟨first, inside, printed⟩

/-- With carriage returns the argument of a stranded form is empty. -/
theorem argument?_withReturns_of_stranded (regular : form.Regular) {source : Text}
    (stranded : form.Stranded source) : form.argument? (Text.withReturns source) = some [] := by
  obtain ⟨before, line, after, cut, more, bare, silent⟩ := stranded
  rw [argument?, Text.feedLines_withReturns, cut]
  exact regular.findSome?_returned_of_stranded more bare silent

/-- Carriage returns do not change the argument of a form that is not stranded. -/
theorem argument?_withReturns (regular : form.Regular) {source : Text}
    (full : ¬ form.Stranded source) :
    form.argument? (Text.withReturns source) = form.argument? source := by
  unfold argument?
  rw [Text.feedLines_withReturns]
  apply regular.findSome?_returned
  intro before line after cut more bare
  by_contra silent
  apply full
  refine ⟨before, line, after, cut, more, bare, fun other member => ?_⟩
  by_contra printed
  exact silent ⟨other, member, printed⟩

end Regular

end OutputForm

/-! ### The prediction -/

namespace Language

/-- The forms of every language are regular. -/
theorem IsListed.regular {language : Language} (listed : language.IsListed) :
    ∀ form ∈ language.outputForms, form.Regular := by
  obtain ⟨listing, member, rfl⟩ := listed
  have all : ∀ listing ∈ catalogue, ∀ form ∈ listing.language.outputForms, form.Regular := by
    decide
  exact all listing member

/-- A form of the language is stranded in the source, and the forms that the language prefers to it
find nothing there. -/
def Stranded (language : Language) (source : Text) : Prop :=
  ∃ front form back, language.outputForms = front ++ form :: back ∧
    (∀ other ∈ front, other.argument? source = none) ∧ form.Stranded source

/-- A language without statements is never stranded. -/
theorem not_stranded {language : Language}
    (called : ∀ form ∈ language.outputForms, form.shape ≠ .statement) (source : Text) :
    ¬ language.Stranded source := by
  rintro ⟨front, form, back, cut, -, before, line, after, -, -, ⟨shape, -⟩, -⟩
  exact called form (by simp [cut]) shape

end Language

namespace Prediction

variable {language : Language} {source : Text}

/-- An empty argument stands for itself. -/
theorem resolve_nil (source : Text) : resolve (Bindings.ofSource source) [] = [] := by
  have unbound := Bindings.get?_ofSource_of_not_isName (x := []) rfl source
  have clean : RightHandSide.dropSemicolon (Text.strip []) = [] := rfl
  simp [resolve, clean, unbound, Text.between?]

/-- With carriage returns the argument of a stranded language is empty. -/
theorem argument?_withReturns_of_stranded (listed : language.IsListed)
    (stranded : language.Stranded source) :
    argument? language (Text.withReturns source) = some [] := by
  obtain ⟨front, form, back, cut, silent, stranded⟩ := stranded
  have regular := listed.regular
  rw [cut] at regular
  unfold argument?
  rw [cut, List.findSome?_append, List.findSome?_cons,
    (regular form (by simp)).argument?_withReturns_of_stranded stranded]
  -- A preferred form finds nothing, or is stranded as well.
  cases found : front.findSome? fun form => form.argument? (Text.withReturns source) with
  | none => rfl
  | some argument =>
    obtain ⟨other, member, printed⟩ := List.exists_of_findSome?_eq_some found
    by_cases another : other.Stranded source
    · rw [(regular other (by simp [member])).argument?_withReturns_of_stranded another] at printed
      rw [← printed]
      rfl
    · rw [(regular other (by simp [member])).argument?_withReturns another,
        silent other member] at printed
      cases printed

/-- Carriage returns do not change the argument if the language is not stranded. -/
theorem argument?_withReturns (listed : language.IsListed)
    (full : ¬ language.Stranded source) :
    argument? language (Text.withReturns source) = argument? language source := by
  have regular := listed.regular
  unfold argument?
  unfold Language.Stranded at full
  generalize language.outputForms = forms at regular full
  induction forms with
  | nil => rfl
  | cons form forms ih =>
    have notStranded : ¬ form.Stranded source := fun stranded =>
      full ⟨[], form, forms, rfl, by simp, stranded⟩
    rw [List.findSome?_cons, List.findSome?_cons,
      (regular form List.mem_cons_self).argument?_withReturns notStranded]
    cases found : form.argument? source with
    | some argument => rfl
    | none =>
      apply ih
      · exact fun other member => regular other (List.mem_cons_of_mem form member)
      · rintro ⟨front, other, back, rfl, silent, stranded⟩
        refine full ⟨form :: front, other, back, rfl, ?_, stranded⟩
        exact List.forall_mem_cons.2 ⟨found, silent⟩

/-- With carriage returns a stranded language predicts an empty output. -/
theorem ofSource?_withReturns_of_stranded (listed : language.IsListed) (bare : '\r' ∉ source)
    (stranded : language.Stranded source) :
    ofSource? language (Text.withReturns source) = some [] := by
  rw [ofSource?, output?, argument?_withReturns_of_stranded listed stranded,
    Bindings.ofSource_withReturns bare, Option.map_some, resolve_nil]

/-- Carriage returns do not change the prediction if the language is not stranded. -/
theorem ofSource?_withReturns (listed : language.IsListed) (bare : '\r' ∉ source)
    (full : ¬ language.Stranded source) :
    ofSource? language (Text.withReturns source) = ofSource? language source := by
  rw [ofSource?, ofSource?, output?, output?, argument?_withReturns listed full,
    Bindings.ofSource_withReturns bare]

/-- **Line ends.** A carriage return before every line feed leaves the bindings of a source as they
are, and its prediction exactly where the source is not stranded or is predicted to print the empty
text anyway. -/
theorem ofSource_withReturns_iff (listed : language.IsListed) (bare : '\r' ∉ source) :
    Bindings.ofSource (Text.withReturns source) = Bindings.ofSource source ∧
      (ofSource? language (Text.withReturns source) = ofSource? language source ↔
        (language.Stranded source → ofSource? language source = some [])) := by
  refine ⟨Bindings.ofSource_withReturns bare, ?_⟩
  by_cases stranded : language.Stranded source
  · rw [ofSource?_withReturns_of_stranded listed bare stranded]
    constructor
    · exact fun same _ => same.symm
    · exact fun empty => (empty stranded).symm
  · have same := ofSource?_withReturns listed bare stranded
    exact ⟨fun _ hopeless => absurd hopeless stranded, fun _ => same⟩

/-- A program with carriage returns whose output is predicted as without them. -/
theorem ofSource_withReturns_python :
    ofSource? Language.python (Text.withReturns "x = 'hi'\nprint(x)\n".toList) =
      some "hi".toList := by
  have listed : Language.python.IsListed :=
    ⟨⟨Language.python, ["python"], ["py"]⟩, by simp [Language.catalogue], rfl⟩
  have bare : '\r' ∉ "x = 'hi'\nprint(x)\n".toList := by decide
  have called : ∀ form ∈ Language.python.outputForms, form.shape ≠ .statement := by decide
  have same := (ofSource_withReturns_iff listed bare).2.2 fun stranded =>
    absurd stranded (Language.not_stranded called _)
  rw [same]
  decide

/-- A statement with nothing to print, and one on the next line: the carriage return is what the
first one prints. -/
theorem ofSource_withReturns_gap :
    ofSource? Language.ruby "puts \nputs 'hi'".toList = some "hi".toList ∧
      ofSource? Language.ruby (Text.withReturns "puts \nputs 'hi'".toList) = some [] := by
  decide

end Prediction

end DryRun
