import DryRun.Language.Catalogue
import DryRun.Proofs.Language.OutputForm
import DryRun.Proofs.Query.Search
import DryRun.Proofs.Source.Bindings
import DryRun.Grade

/-!
# Printing a quoted text

`printings` lists the usual one-line programs that print a quoted text, one for each heuristic
language. What is predicted for such a program depends on how its output form delimits the argument,
not on the language. A call keeps everything up to its last parenthesis, which stands behind the
text. A stream cuts the line at the first arrow and at the first semicolon, a statement at the first
semicolon, also where these stand between the quote marks (`argumentAfter?_quoted`). A text that is
cut has lost its second mark, so it is not resolved at all and keeps its first one (`resolve_cut`).

Hence a text without quote marks is predicted exactly if the shape of the form carries it
(`ofSource?_quoted_iff`).
-/

set_option autoImplicit false

namespace DryRun

namespace Text

/-- What stands before the pattern is at the front of the text. -/
theorem upTo_prefix (pattern s : Text) : upTo pattern s <+: s := by
  unfold upTo
  cases cut : splitFirst? pattern s with
  | none => exact List.prefix_rfl
  | some parts =>
    rw [splitFirst?_eq_some cut, List.append_assoc]
    exact List.prefix_append parts.1 (pattern ++ parts.2)

/-- What stands before the first occurrence of a pattern has none. -/
theorem not_infix_upTo {pattern : Text} (some : pattern ≠ []) (s : Text) :
    ¬ pattern <:+: upTo pattern s := by
  unfold upTo
  induction s with
  | nil => simp [splitFirst?, some]
  | cons c s ih =>
    by_cases here : pattern.isPrefixOf (c :: s) = true
    · simp [splitFirst?, here, some]
    · have absent : ¬ pattern <+: c :: s := fun front => here (List.isPrefixOf_iff_prefix.2 front)
      rw [splitFirst?, if_neg here]
      have front := upTo_prefix pattern s
      unfold upTo at front
      cases cut : splitFirst? pattern s with
      | none =>
        simp only [cut, Option.map_none, List.infix_cons_iff, not_or] at ih front ⊢
        exact ⟨absent, ih⟩
      | some parts =>
        simp only [cut, Option.map_some, List.infix_cons_iff, not_or] at ih front ⊢
        exact ⟨fun first => absent (first.trans (List.cons_prefix_cons.2 ⟨rfl, front⟩)), ih⟩

/-- A character that a pattern does not have completes none. -/
theorem not_infix_concat {pattern s : Text} {c : Char} (absent : ¬ pattern <:+: s)
    (apart : c ∉ pattern) : ¬ pattern <:+: s ++ [c] := by
  have some : pattern ≠ [] := by
    rintro rfl
    exact absent List.nil_infix
  simp [infix_append_cons_iff some apart, absent, some]

/-- A character at which the pattern does not stand is before it. -/
theorem upTo_cons {pattern : Text} {c : Char} {s : Text} (other : ¬ pattern <+: c :: s) :
    upTo pattern (c :: s) = c :: upTo pattern s := by
  have missing : pattern.isPrefixOf (c :: s) = false :=
    Bool.eq_false_iff.2 fun front => other (List.isPrefixOf_iff_prefix.1 front)
  rw [upTo, splitFirst?, missing, upTo]
  cases splitFirst? pattern s with
  | none => rfl
  | some parts => rfl

/-- A pair of equal characters is first found behind a text that neither contains it nor ends in its
character. -/
theorem upTo_pair {c : Char} {before : Text} (absent : ¬ [c, c] <:+: before)
    (last : before.getLast? ≠ some c) (after : Text) :
    upTo [c, c] (before ++ c :: c :: after) = before := by
  induction before with
  | nil => simp [upTo, splitFirst?]
  | cons d before ih =>
    rw [List.infix_cons_iff, not_or] at absent
    have other : ¬ [c, c] <+: d :: (before ++ c :: c :: after) := by
      cases before with
      | nil =>
        rintro ⟨rest, cut⟩
        exact last (by simp_all)
      | cons e before =>
        rintro ⟨rest, cut⟩
        obtain ⟨rfl, rfl, -⟩ : c = d ∧ c = e ∧ _ := by simpa using cut
        exact absent.1 ⟨before, rfl⟩
    have rest : before.getLast? ≠ some c := by
      cases before with
      | nil => simp
      | cons e before => simpa [List.getLast?_cons_cons] using last
    rw [List.cons_append, upTo_cons other, ih absent.2 rest]

/-- A part at the start of a text that does not reach behind the first quote mark has none. -/
theorem not_mem_of_cut {quote : Char} {w x rest : Text} (unmarked : quote ∉ x)
    (front : w <+: x ++ quote :: rest) (cut : ¬ x ++ [quote] <+: w) : quote ∉ w := by
  have whole : x ++ [quote] <+: x ++ quote :: rest := ⟨rest, by simp⟩
  rcases List.prefix_or_prefix_of_prefix front whole with short | long
  · rcases List.prefix_concat_iff.1 short with rfl | inside
    · exact absurd List.prefix_rfl cut
    · exact fun member => unmarked (inside.subset member)
  · exact absurd long cut

end Text

namespace OutputForm

variable {form : OutputForm}

instance (form : OutputForm) : Decidable form.HasKeyword :=
  decidable_of_iff (form.keyword.toList.head?.any (!isGap ·) = true) <| by
    rw [Option.any_eq_true]
    simp only [HasKeyword, Bool.not_eq_true']

/-- A form is not found where its keyword cannot begin. -/
theorem firstFrom?_append_of_apart {front : Text}
    (apart : ∀ c ∈ front, ∃ d, form.keyword.toList.head? = some d ∧ d ≠ c)
    (mayStart : Option Char → Bool) (previous : Option Char) (s : Text) :
    form.firstFrom? mayStart previous (front ++ s) =
      form.firstFrom? mayStart (front.getLast?.or previous) s := by
  induction front generalizing previous with
  | nil => rfl
  | cons c front ih =>
    have missing := here?_cons_of_ne (apart c List.mem_cons_self) (front ++ s)
    have later := ih (fun d member => apart d (List.mem_cons_of_mem c member)) (some c)
    rw [List.cons_append, firstFrom?, missing, ite_self, later]
    rw [Option.or_some, List.getLast?_cons, Option.some_or]

end OutputForm

/-- What stands between the keyword of a form and its argument. -/
def OutputShape.opening : OutputShape → Text
  | .call => ['(']
  | .stream => " << ".toList
  | .statement => [' ']

/-- The text may stand behind the argument of the only statement on a line. -/
def OutputShape.Closes (closing : Text) : OutputShape → Prop
  | .call => closing.head? = some ')' ∧ ')' ∉ closing.tail
  | .stream => " <<".toList <+: closing
  | .statement => closing = [] ∨ closing = [';']

/-- The text is not cut when a form of the shape prints it between quote marks. -/
def OutputShape.Carries (x : Text) : OutputShape → Prop
  | .call => True
  | .stream => ';' ∉ x ∧ Text.occursIn ['<', '<'] x = false
  | .statement => ';' ∉ x

instance (closing : Text) : (shape : OutputShape) → Decidable (shape.Closes closing)
  | .call => inferInstanceAs (Decidable (_ ∧ _))
  | .stream => inferInstanceAs (Decidable (_ <+: _))
  | .statement => inferInstanceAs (Decidable (_ ∨ _))

instance (x : Text) : (shape : OutputShape) → Decidable (shape.Carries x)
  | .call => inferInstanceAs (Decidable True)
  | .stream => inferInstanceAs (Decidable (_ ∧ _))
  | .statement => inferInstanceAs (Decidable (_ ∉ _))

/-! ### The argument of each shape -/

section Quoted

variable {quote : Char} (mark : quote ∈ Text.quoteMarks) {x : Text} (unmarked : quote ∉ x)

include mark

/-- A quote mark is not blank. -/
theorem isBlank_of_mark : Text.isBlank quote = false :=
  Text.forall_mem_of_all (by decide) quote mark

/-- There is nothing to strip from a quoted text. -/
theorem strip_quoted (x : Text) : Text.strip (quote :: x ++ [quote]) = quote :: x ++ [quote] := by
  have solid := isBlank_of_mark mark
  have last : Text.stripRight (x ++ [quote]) = x ++ [quote] :=
    Text.stripRight_eq_self (by simpa using solid)
  rw [List.cons_append, Text.strip_cons solid, last]

/-- What a form reads is the quoted text if its shape carries it. Else it is a part that begins with
the quote mark and has no other one. -/
def Reads (shape : OutputShape) (quote : Char) (x argument : Text) : Prop :=
  (shape.Carries x → Text.strip argument = quote :: x ++ [quote]) ∧
    (¬ shape.Carries x → ∃ w, quote ∉ w ∧ Text.strip argument = quote :: w)

/-- A call reads the quoted text. -/
theorem callArgument?_quoted (x : Text) {closing : Text}
    (closes : OutputShape.call.Closes closing) :
    ∃ argument, OutputForm.callArgument? ('(' :: (quote :: x ++ [quote]) ++ closing) =
      some argument ∧ Reads .call quote x argument := by
  obtain ⟨first, last⟩ := closes
  obtain ⟨tail, rfl⟩ := List.head?_eq_some_iff.1 first
  refine ⟨quote :: x ++ [quote], OutputForm.callArgument?_paren _ last, ?_, ?_⟩
  · exact fun _ => strip_quoted mark x
  · exact fun cut => absurd trivial cut

include unmarked

/-- The part that is left of a quoted text when it is cut. -/
theorem reads_of_cut {shape : OutputShape} {gap w rest : Text}
    (blanks : ∀ c ∈ gap, Text.isBlank c = true) (front : w <+: x ++ quote :: rest)
    (whole : x ++ [quote] <+: w → shape.Carries x)
    (carried : shape.Carries x →
      ∃ trail, (∀ c ∈ trail, Text.isBlank c = true) ∧ w = x ++ [quote] ++ trail) :
    Reads shape quote x (gap ++ quote :: w) := by
  constructor
  · intro carries
    obtain ⟨trail, trailing, rfl⟩ := carried carries
    rw [Text.strip_blanks_append blanks, ← List.cons_append, Text.strip_append_blanks trailing]
    exact strip_quoted mark x
  · intro lost
    have single := Text.not_mem_of_cut unmarked front fun long => lost (whole long)
    refine ⟨Text.stripRight w, fun member => single (Text.stripRight_subset w member), ?_⟩
    rw [Text.strip_blanks_append blanks, Text.strip_cons (isBlank_of_mark mark)]

/-- A stream reads the quoted text if it carries it. -/
theorem streamArgument?_quoted {closing : Text} (closes : OutputShape.stream.Closes closing) :
    ∃ argument, OutputForm.streamArgument? (" << ".toList ++ (quote :: x ++ [quote]) ++ closing) =
      some argument ∧ Reads .stream quote x argument := by
  obtain ⟨rest, rfl⟩ := closes
  have noArrow : quote ≠ '<' := ne_of_mem_of_not_mem mark (by decide)
  have noEnd : quote ≠ ';' := ne_of_mem_of_not_mem mark (by decide)
  let operands : Text := x ++ quote :: ' ' :: '<' :: '<' :: rest
  let operand : Text := Text.upTo ['<', '<'] operands
  have first : Text.upTo ['<', '<'] (' ' :: quote :: operands) = ' ' :: quote :: operand := by
    rw [Text.upTo_cons (by simp), Text.upTo_cons (by simp [noArrow.symm])]
  have kept : OutputForm.streamArgument?
      (" << ".toList ++ (quote :: x ++ [quote]) ++ (" <<".toList ++ rest)) =
        some ([' '] ++ quote :: operand.takeWhile (· != ';')) := by
    have same : " << ".toList ++ (quote :: x ++ [quote]) ++ (" <<".toList ++ rest) =
        " <<".toList ++ (' ' :: quote :: operands) := by simp [operands]
    rw [same]
    show some ((Text.upTo ['<', '<'] (' ' :: quote :: operands)).takeWhile (· != ';')) = _
    rw [first, List.takeWhile_cons_of_pos (by decide),
      List.takeWhile_cons_of_pos (by simpa using noEnd)]
    rfl
  -- The argument ends at the first semicolon or arrow behind the opening mark. It is the whole text
  -- just if neither stands in it.
  refine ⟨_, kept, reads_of_cut mark unmarked (Text.forall_mem_of_all (by decide))
    ((List.takeWhile_prefix _).trans (Text.upTo_prefix _ _)) ?_ ?_⟩
  · intro long
    have inside : x <:+: operand.takeWhile (· != ';') :=
      ((List.prefix_append x [quote]).trans long).isInfix
    constructor
    · intro member
      simpa using List.mem_takeWhile_imp (inside.subset member)
    · refine Bool.eq_false_iff.2 fun arrow => ?_
      have earlier := (Text.occursIn_iff.1 arrow).trans
        (inside.trans (List.takeWhile_prefix _).isInfix)
      exact Text.not_infix_upTo (by simp) operands earlier
  · rintro ⟨bare, single⟩
    have noPair : ¬ ['<', '<'] <:+: x := fun arrow => by
      simp [Text.occursIn_iff.2 arrow] at single
    have absent : ¬ ['<', '<'] <:+: x ++ [quote] ++ [' '] := by
      apply Text.not_infix_concat _ (by decide)
      exact Text.not_infix_concat noPair (by simpa using noArrow)
    have whole : operand = x ++ [quote] ++ [' '] := by
      have cut := Text.upTo_pair absent (by simp) rest
      simpa [operand, operands] using cut
    have before : ∀ c ∈ x ++ [quote] ++ [' '], (c != ';') = true := by
      intro c member
      have other : c ≠ ';' := by
        rintro rfl
        simp [bare, noEnd.symm] at member
      exact bne_iff_ne.2 other
    refine ⟨[' '], Text.forall_mem_of_all (by decide), ?_⟩
    rw [whole, List.takeWhile_eq_self_iff.2 before]

/-- A statement reads the quoted text if it carries it. -/
theorem statementArgument?_quoted {closing : Text} (closes : OutputShape.statement.Closes closing) :
    ∃ argument, OutputForm.statementArgument? (' ' :: (quote :: x ++ [quote]) ++ closing) =
      some argument ∧ Reads .statement quote x argument := by
  have noEnd : quote ≠ ';' := ne_of_mem_of_not_mem mark (by decide)
  have solid : OutputForm.isGap quote = false := Text.forall_mem_of_all (by decide) quote mark
  have kept : OutputForm.statementArgument? (' ' :: (quote :: x ++ [quote]) ++ closing) =
      some ([] ++ quote :: (x ++ quote :: closing).takeWhile (· != ';')) := by
    have read := OutputForm.statementArgument?_gap solid (x ++ quote :: closing)
    rw [List.takeWhile_cons_of_pos (by simpa using noEnd)] at read
    simpa using read
  refine ⟨_, kept, reads_of_cut mark unmarked (by simp) (List.takeWhile_prefix _) ?_ ?_⟩
  · intro long member
    have inside := long.subset (List.mem_append_left [quote] member)
    simpa using List.mem_takeWhile_imp inside
  · intro (bare : ';' ∉ x)
    refine ⟨[], by simp, ?_⟩
    have before : ∀ c ∈ x ++ [quote], (c != ';') = true := by
      intro c member
      have other : c ≠ ';' := by
        rintro rfl
        simp [bare, noEnd.symm] at member
      exact bne_iff_ne.2 other
    have same : x ++ quote :: closing = x ++ [quote] ++ closing := by simp
    rw [same, List.takeWhile_append_of_pos before]
    rcases closes with rfl | rfl
    · rfl
    · rfl

/-- Every form reads the quoted text if its shape carries it. -/
theorem argumentAfter?_quoted {form : OutputForm} {closing : Text}
    (closes : form.shape.Closes closing) :
    ∃ argument, form.argumentAfter? (form.shape.opening ++ (quote :: x ++ [quote]) ++ closing) =
      some argument ∧ Reads form.shape quote x argument := by
  unfold OutputForm.argumentAfter?
  cases shape : form.shape with
  | call => exact callArgument?_quoted mark x (shape ▸ closes)
  | stream => exact streamArgument?_quoted mark unmarked (shape ▸ closes)
  | statement => exact statementArgument?_quoted mark unmarked (shape ▸ closes)

/-! ### What the argument stands for -/

omit unmarked in
/-- What begins with a quote mark is no name. -/
theorem isName_of_mark (w : Text) : Head.isName (quote :: w) = false := by
  have off : (Text.isAsciiLetter quote || quote == '_') = false :=
    Text.forall_mem_of_all (p := fun c => Text.isAsciiLetter c || c == '_') (by decide) quote mark
  have sigil : quote ≠ '$' := ne_of_mem_of_not_mem mark (by decide)
  unfold Head.isName
  split
  case h_1 same => exact absurd (List.cons.inj same).1 sigil
  case h_2 => simp [Head.isIdentifier, off]

omit unmarked in
/-- A quoted text stands for what is between its marks. -/
theorem resolve_quoted (table : Bindings) (x : Text) :
    Prediction.resolve table (quote :: x ++ [quote]) = x := by
  have noEnd : quote ≠ ';' := ne_of_mem_of_not_mem mark (by decide)
  have bare : RightHandSide.dropSemicolon (quote :: x ++ [quote]) = quote :: x ++ [quote] :=
    RightHandSide.dropSemicolon_eq_self (by rw [List.getLast?_concat]; simpa using noEnd)
  have inner : Text.between? Text.quoteMarks (quote :: x ++ [quote]) = some x :=
    Text.between?_eq_some_iff.2 ⟨quote, mark, rfl⟩
  rw [Prediction.resolve, strip_quoted mark, bare, inner]

omit unmarked in
/-- A text with a quote mark at its start and no other one stays as it is, apart from its end. -/
theorem resolve_cut (source : Text) {w : Text} (single : quote ∉ w) :
    ∃ u, Prediction.resolve (Bindings.ofSource source) (quote :: w) = quote :: u := by
  have solid := isBlank_of_mark mark
  have noEnd : quote ≠ ';' := ne_of_mem_of_not_mem mark (by decide)
  -- Blanks and a semicolon are taken from the end, which is not the mark.
  have clean : ∃ u, quote ∉ u ∧
      RightHandSide.dropSemicolon (Text.strip (quote :: w)) = quote :: u := by
    rw [Text.strip_cons solid]
    have rest : quote ∉ Text.stripRight w := fun member => single (Text.stripRight_subset w member)
    unfold RightHandSide.dropSemicolon
    split
    case isTrue semicolon =>
      have more : Text.stripRight w ≠ [] := by
        intro empty
        simp [empty, noEnd] at semicolon
      rw [List.dropLast_cons_of_ne_nil more, Text.stripRight_cons solid]
      refine ⟨_, fun member => rest ?_, rfl⟩
      exact List.dropLast_subset _ (Text.stripRight_subset _ member)
    case isFalse => exact ⟨_, rest, rfl⟩
  obtain ⟨u, apart, clean⟩ := clean
  have unquoted : Text.between? Text.quoteMarks (quote :: u) = none := by
    have last : u.getLast? ≠ some quote := fun same => apart (List.mem_of_getLast? same)
    simp [Text.between?, last]
  have unbound := Bindings.get?_ofSource_of_not_isName (isName_of_mark mark u) source
  refine ⟨u, ?_⟩
  rw [Prediction.resolve, clean, unquoted, unbound]
  rfl

/-- What is read stands for the text exactly if the shape of the form carries the text. -/
theorem resolve_eq_iff {shape : OutputShape} {argument : Text}
    (reads : Reads shape quote x argument) (source : Text) :
    Prediction.resolve (Bindings.ofSource source) (Text.strip argument) = x ↔ shape.Carries x := by
  obtain ⟨kept, cut⟩ := reads
  by_cases carries : shape.Carries x
  · rw [kept carries, resolve_quoted mark]
    exact iff_of_true rfl carries
  · obtain ⟨w, single, stripped⟩ := cut carries
    obtain ⟨u, resolved⟩ := resolve_cut mark source single
    rw [stripped, resolved]
    refine iff_of_false ?_ carries
    rintro rfl
    exact unmarked List.mem_cons_self

end Quoted

/-- A usual way of printing a quoted text. -/
structure Printing where
  language : Language
  /-- What stands before the keyword of the form. -/
  qualifier : String := ""
  form : OutputForm
  /-- What stands behind the quoted text. -/
  closing : String

namespace Printing

/-- The statement that prints `x` between two quote marks, from its keyword on. -/
def statement (p : Printing) (quote : Char) (x : Text) : Text :=
  p.form.keyword.toList ++ (p.form.shape.opening ++ (quote :: x ++ [quote]) ++ p.closing.toList)

def source (p : Printing) (quote : Char) (x : Text) : Text :=
  p.qualifier.toList ++ p.statement quote x

/-- The form is the first one of the language, or a statement that comes after the call with the
same keyword. -/
def IsPreferred (p : Printing) : Prop :=
  p.language.outputForms.head? = some p.form ∨
    (p.form.shape = .statement ∧ p.form.place = .lineStart ∧ p.qualifier = "" ∧
      p.language.outputForms.take 2 = [{ p.form with shape := .call }, p.form])

/-- What stands before the keyword does not keep the form from beginning at it. -/
def IsQualified (p : Printing) : Prop :=
  p.qualifier = "" ∨
    (p.form.place = .wordStart ∧ p.qualifier.toList.getLast?.any Text.isWordChar = false ∧
      ∀ c ∈ p.qualifier.toList, p.form.keyword.toList.head? ≠ some c)

/-- What is fixed of the program lets the form begin at its keyword, closes the argument and keeps
to one line. -/
def WellFormed (p : Printing) : Prop :=
  p.form.HasKeyword ∧ p.form.shape.Closes p.closing.toList ∧ p.IsQualified ∧ p.IsPreferred ∧
    '\n' ∉ p.qualifier.toList ++ p.form.keyword.toList ++ p.closing.toList

instance (p : Printing) : Decidable p.IsPreferred := inferInstanceAs (Decidable (_ ∨ _))

instance (p : Printing) : Decidable p.IsQualified := inferInstanceAs (Decidable (_ ∨ _))

instance (p : Printing) : Decidable p.WellFormed := inferInstanceAs (Decidable (_ ∧ _))

variable {p : Printing} {quote : Char} (mark : quote ∈ Text.quoteMarks) {x : Text}

/-- The argument of the statement is the argument of the program. -/
theorem rawArgument?_source (worded : p.form.HasKeyword) (qualified : p.IsQualified)
    {argument : Text} (found : p.form.here? (p.statement quote x) = some argument) :
    p.form.rawArgument? (p.source quote x) = some argument := by
  unfold source
  rcases qualified with empty | ⟨place, ends, apart⟩
  · rw [empty]
    exact OutputForm.rawArgument?_indented worded (by simp) found
  · obtain ⟨first, starts, -⟩ := id worded
    have skipped : ∀ c ∈ p.qualifier.toList,
        ∃ d, p.form.keyword.toList.head? = some d ∧ d ≠ c := by
      intro c member
      refine ⟨first, starts, ?_⟩
      rintro rfl
      exact apart first member starts
    obtain ⟨c, s, cut, -⟩ := worded.cons_of_here? found
    unfold OutputForm.rawArgument?
    simp only [place]
    rw [OutputForm.firstFrom?_append_of_apart skipped, Option.or_none]
    rw [cut] at found ⊢
    rw [OutputForm.firstFrom?, if_pos (by simp [ends]), found]

include mark

/-- A statement with a quoted text is no call. -/
theorem onLine?_call (worded : p.form.HasKeyword) (shape : p.form.shape = .statement)
    (place : p.form.place = .lineStart) (unqualified : p.qualifier = "") :
    OutputForm.onLine? { p.form with shape := .call } (p.source quote x) = none := by
  have noParen : quote ≠ '(' := ne_of_mem_of_not_mem mark (by decide)
  have noGap : OutputForm.isGap quote = false := Text.forall_mem_of_all (by decide) quote mark
  have missing : OutputForm.here? { p.form with shape := .call } (p.statement quote x) = none := by
    unfold statement
    refine (OutputForm.here?_append { p.form with shape := .call } _).trans ?_
    simp [OutputForm.argumentAfter?, OutputForm.callArgument?, OutputShape.opening, shape, noParen,
      noGap, show OutputForm.isGap ' ' = true by rfl]
  have solid : ∀ c ∈ (p.statement quote x).head?, OutputForm.isGap c = false := by
    obtain ⟨first, starts, solid⟩ := worded
    intro c start
    rw [statement, List.head?_append, starts, Option.some_or, Option.mem_some] at start
    exact start ▸ solid
  have raw : OutputForm.rawArgument? { p.form with shape := .call } ([] ++ p.statement quote x) =
      none :=
    @OutputForm.rawArgument?_indented_none { p.form with shape := .call } place [] _ (by simp) solid
      missing
  unfold OutputForm.onLine? source
  rw [unqualified]
  exact congrArg _ raw

omit mark in
/-- A character that is neither in the text nor among what is fixed is not in the program. -/
theorem not_mem_source {c : Char} (fixed : c ∉ p.qualifier.toList ++ p.form.keyword.toList ++
    p.closing.toList) (other : c ∉ " (<".toList) (unquoted : c ≠ quote) (outside : c ∉ x) :
    c ∉ p.source quote x := by
  have opening : c ∉ p.form.shape.opening := by
    intro member
    apply other
    cases shape : p.form.shape <;> simp [shape, OutputShape.opening] at member ⊢ <;> grind
  unfold source statement
  simp only [List.mem_append, List.mem_cons, List.not_mem_nil, or_false, not_or] at fixed ⊢
  exact ⟨fixed.1.1, fixed.1.2, ⟨opening, ⟨unquoted, outside⟩, unquoted⟩, fixed.2⟩

/-- The language finds the quoted text where the form reads it. -/
theorem argument?_source (well : p.WellFormed) (unmarked : quote ∉ x) (whole : '\n' ∉ x) :
    ∃ argument, Prediction.argument? p.language (p.source quote x) = some (Text.strip argument) ∧
      Reads p.form.shape quote x argument := by
  obtain ⟨worded, closes, qualified, preferred, oneLine⟩ := well
  obtain ⟨argument, after, reads⟩ := argumentAfter?_quoted mark unmarked closes
  have found : p.form.onLine? (p.source quote x) = some (Text.strip argument) := by
    have here : p.form.here? (p.statement quote x) = some argument := by
      rw [statement, OutputForm.here?_append, after]
    rw [OutputForm.onLine?, rawArgument?_source worded qualified here, Option.map_some]
  have noFeed : '\n' ≠ quote := (ne_of_mem_of_not_mem mark (by decide)).symm
  have line := not_mem_source oneLine (by decide) noFeed whole
  have search : Prediction.argument? p.language (p.source quote x) =
      p.language.outputForms.findSome? fun form => form.onLine? (p.source quote x) :=
    @OutputForm.findSome?_argument?_join p.language.outputForms [] [] (p.source quote x)
      (by simpa using line) (by simp)
  refine ⟨argument, ?_, reads⟩
  rw [search]
  rcases preferred with first | ⟨shape, place, unqualified, second⟩
  · obtain ⟨others, forms⟩ := List.head?_eq_some_iff.1 first
    rw [forms, List.findSome?_cons, found]
  · rw [← List.take_append_drop 2 p.language.outputForms, second, List.findSome?_append,
      List.findSome?_cons, onLine?_call mark worded shape place unqualified, List.findSome?_cons,
      found]
    rfl

/-- A program that prints a quoted text is predicted to print it exactly if its form carries the
text. -/
theorem ofSource?_source (well : p.WellFormed) (unmarked : quote ∉ x) (whole : '\n' ∉ x) :
    Prediction.ofSource? p.language (p.source quote x) = some x ↔ p.form.shape.Carries x := by
  obtain ⟨argument, found, reads⟩ := argument?_source mark well unmarked whole
  rw [Prediction.ofSource?, Prediction.output?, found, Option.map_some, Option.some_inj]
  exact resolve_eq_iff mark unmarked reads _

end Printing

open DryRun.Language in
/-- The usual ways of printing a quoted text. -/
def printings : List Printing :=
  [{ language := python, form := ⟨.call, "print", .lineStart⟩, closing := ")" },
   { language := javascript, form := ⟨.call, "console.log", .lineStart⟩, closing := ");" },
   { language := typescript, form := ⟨.call, "console.log", .lineStart⟩, closing := ");" },
   { language := java, form := ⟨.call, "System.out.println", .anywhere⟩, closing := ");" },
   { language := kotlin, form := ⟨.call, "println", .lineStart⟩, closing := ")" },
   { language := scala, form := ⟨.call, "println", .lineStart⟩, closing := ")" },
   { language := csharp, form := ⟨.call, "Console.WriteLine", .anywhere⟩, closing := ");" },
   { language := cpp, qualifier := "std::", form := ⟨.stream, "cout", .wordStart⟩,
     closing := " << std::endl;" },
   { language := c, form := ⟨.call, "printf", .wordStart⟩, closing := ");" },
   { language := go, form := ⟨.call, "fmt.Println", .anywhere⟩, closing := ")" },
   { language := rust, form := ⟨.call, "println!", .wordStart⟩, closing := ");" },
   { language := swift, form := ⟨.call, "print", .lineStart⟩, closing := ")" },
   { language := ruby, form := ⟨.statement, "puts", .lineStart⟩, closing := "" },
   { language := php, form := ⟨.statement, "echo", .lineStart⟩, closing := ";" },
   { language := dart, form := ⟨.call, "print", .lineStart⟩, closing := ");" }]

example : printings.map (fun p => String.ofList (p.source '\x22' ['X'])) =
    ["print(\x22X\x22)", "console.log(\x22X\x22);", "console.log(\x22X\x22);",
     "System.out.println(\x22X\x22);", "println(\x22X\x22)", "println(\x22X\x22)",
     "Console.WriteLine(\x22X\x22);", "std::cout << \x22X\x22 << std::endl;",
     "printf(\x22X\x22);", "fmt.Println(\x22X\x22)", "println!(\x22X\x22);", "print(\x22X\x22)",
     "puts \x22X\x22", "echo \x22X\x22;", "print(\x22X\x22);"] := by decide

/-- The usual ways of printing a quoted text are well formed. -/
theorem wellFormed_of_mem_printings : ∀ p ∈ printings, p.WellFormed := by decide

/-- **Quoted texts.** A text without line feed and quote marks that is printed between two quote
marks is predicted exactly where the output form carries it: a call always does, a statement unless
the text has a semicolon, a stream unless it has a semicolon or an arrow. -/
theorem ofSource?_quoted_iff {p : Printing} (usual : p ∈ printings) {quote : Char}
    (mark : quote ∈ Text.quoteMarks) {x : Text} (whole : '\n' ∉ x)
    (unmarked : ∀ c ∈ x, c ∉ Text.quoteMarks) :
    Prediction.ofSource? p.language (p.source quote x) = some x ↔ p.form.shape.Carries x :=
  Printing.ofSource?_source mark (wellFormed_of_mem_printings p usual)
    (fun member => unmarked quote member mark) whole

/-- Signs of a comment, of a comparison and of a shift that is no arrow, in a stream. -/
theorem ofSource?_quoted_stream :
    Prediction.ofSource? Language.cpp
      "std::cout << \x22if (a <= b) // a >> 1\x22 << std::endl;".toList =
        some "if (a <= b) // a >> 1".toList := by
  let stream : Printing :=
    { language := Language.cpp, qualifier := "std::", form := ⟨.stream, "cout", .wordStart⟩,
      closing := " << std::endl;" }
  have usual : stream ∈ printings := by simp [stream, printings]
  have carried : stream.form.shape.Carries "if (a <= b) // a >> 1".toList := by decide
  have program : stream.source '\x22' "if (a <= b) // a >> 1".toList =
      "std::cout << \x22if (a <= b) // a >> 1\x22 << std::endl;".toList := by decide
  have mark : '\x22' ∈ Text.quoteMarks := by decide
  rw [← program]
  exact (ofSource?_quoted_iff usual mark (by decide) (by decide)).2 carried

/-- A statement is cut at a semicolon between the quote marks, a stream at an arrow. -/
theorem ofSource?_quoted_cut :
    Prediction.ofSource? Language.ruby "puts \x22a;b\x22".toList = some "\x22a".toList ∧
      Prediction.ofSource? Language.cpp "std::cout << \x22a<<b\x22 << std::endl;".toList =
        some "\x22a".toList := by
  decide

end DryRun
