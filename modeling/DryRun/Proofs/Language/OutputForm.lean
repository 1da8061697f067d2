import DryRun.Language.OutputForm
import DryRun.Proofs.Text.Pieces

/-!
# Where an output form finds its argument

A form that finds a statement finds it behind an indentation as well, wherever its keyword may stand
(`rawArgument?_indented`). What it finds depends on its shape, one lemma for each of them. The
argument of a program is that of its only line on which a form finds anything
(`findSome?_argument?_join`).
-/

set_option autoImplicit false

namespace DryRun.Text

/-- A pattern whose first character does not stand in front of it is found where it begins. -/
theorem splitFirst?_append {c : Char} {before : Text} (apart : c ∉ before) (pattern after : Text) :
    splitFirst? (c :: pattern) (before ++ (c :: pattern) ++ after) = some (before, after) := by
  induction before with
  | nil =>
    have here : (c :: pattern).isPrefixOf ((c :: pattern) ++ after) = true :=
      List.isPrefixOf_iff_prefix.2 ⟨after, rfl⟩
    simp only [List.nil_append, List.cons_append, splitFirst?] at here ⊢
    rw [if_pos here]
    simp
  | cons d before ih =>
    have other : c ≠ d := fun same => apart (same ▸ List.mem_cons_self)
    have rest := ih fun member => apart (List.mem_cons_of_mem d member)
    simp only [List.append_assoc, List.cons_append] at rest ⊢
    simp [splitFirst?, List.isPrefixOf, other, rest]

end DryRun.Text

namespace DryRun.OutputForm

variable {form : OutputForm}

/-- After a keyword comes what stands behind it. -/
theorem afterKeyword?_append (keyword s : Text) : afterKeyword? keyword (keyword ++ s) = some s := by
  have here : keyword.isPrefixOf (keyword ++ s) = true := List.isPrefixOf_iff_prefix.2 ⟨s, rfl⟩
  simp [afterKeyword?, here]

/-- Behind the keyword of a form comes its argument. -/
theorem here?_append (form : OutputForm) (s : Text) :
    form.here? (form.keyword.toList ++ s) = form.argumentAfter? s := by
  simp [here?, afterKeyword?_append]

/-- A form whose keyword begins with another character than a text is not found at its start. -/
theorem here?_cons_of_ne {c : Char} (apart : ∃ d, form.keyword.toList.head? = some d ∧ d ≠ c)
    (s : Text) : form.here? (c :: s) = none := by
  obtain ⟨d, first, apart⟩ := apart
  cases keyword : form.keyword.toList with
  | nil => simp [keyword] at first
  | cons e rest =>
    obtain rfl : e = d := by simpa [keyword] using first
    have off : (e :: rest).isPrefixOf (c :: s) = false := by simp [List.isPrefixOf, apart]
    simp [here?, keyword, afterKeyword?, off]

/-- The keyword of a form begins with a character that is no gap. -/
def HasKeyword (form : OutputForm) : Prop :=
  ∃ c, form.keyword.toList.head? = some c ∧ isGap c = false

/-- A form with a keyword is not found at a gap. -/
theorem HasKeyword.here?_gap (worded : form.HasKeyword) {c : Char} (gap : isGap c = true)
    (s : Text) : form.here? (c :: s) = none := by
  obtain ⟨d, first, solid⟩ := worded
  exact here?_cons_of_ne ⟨d, first, fun same => by simp [same, gap] at solid⟩ s

/-- What a form finds at the start of a text starts with its keyword, not with a gap. -/
theorem HasKeyword.cons_of_here? (worded : form.HasKeyword) {statement argument : Text}
    (found : form.here? statement = some argument) :
    ∃ c s, statement = c :: s ∧ isGap c = false := by
  cases statement with
  | nil =>
    obtain ⟨c, first, -⟩ := worded
    cases keyword : form.keyword.toList with
    | nil => simp [keyword] at first
    | cons d rest => simp [here?, keyword, afterKeyword?] at found
  | cons c s =>
    refine ⟨c, s, rfl, ?_⟩
    by_contra gap
    rw [worded.here?_gap (by simpa using gap)] at found
    cases found

/-- A form is found behind an indentation. -/
theorem firstFrom?_indented (worded : form.HasKeyword) {mayStart : Option Char → Bool}
    (afterGap : ∀ c, isGap c = true → mayStart (some c) = true) {indent statement argument : Text}
    (gaps : ∀ c ∈ indent, isGap c = true) (found : form.here? statement = some argument)
    {previous : Option Char} (start : mayStart previous = true) :
    form.firstFrom? mayStart previous (indent ++ statement) = some argument := by
  induction indent generalizing previous with
  | nil =>
    obtain ⟨c, s, rfl, -⟩ := worded.cons_of_here? found
    rw [List.nil_append, firstFrom?, if_pos start, found]
  | cons c indent ih =>
    have gap := gaps c List.mem_cons_self
    have later := ih (fun d member => gaps d (List.mem_cons_of_mem c member)) (afterGap c gap)
    simp only [List.cons_append, firstFrom?, worded.here?_gap gap, ite_self, later]

/-- A statement is found behind an indentation, wherever the keyword of the form may stand. -/
theorem rawArgument?_indented (worded : form.HasKeyword) {indent statement argument : Text}
    (gaps : ∀ c ∈ indent, isGap c = true) (found : form.here? statement = some argument) :
    form.rawArgument? (indent ++ statement) = some argument := by
  unfold rawArgument?
  split
  case h_1 =>
    obtain ⟨c, s, rfl, solid⟩ := worded.cons_of_here? found
    rw [List.dropWhile_append_of_pos gaps, List.dropWhile_cons, if_neg (by simp [solid]), found]
  case h_2 =>
    refine firstFrom?_indented worded (fun c gap => ?_) gaps found rfl
    rcases (by simpa [isGap] using gap : c = ' ' ∨ c = '\t') with rfl | rfl
    · decide
    · decide
  case h_3 => exact firstFrom?_indented worded (fun _ _ => rfl) gaps found rfl

/-- A form that has to stand first finds nothing where its statement does not follow at once. -/
theorem rawArgument?_indented_none (first : form.place = .lineStart) {indent statement : Text}
    (gaps : ∀ c ∈ indent, isGap c = true) (solid : ∀ c ∈ statement.head?, isGap c = false)
    (missing : form.here? statement = none) : form.rawArgument? (indent ++ statement) = none := by
  have kept : statement.dropWhile isGap = statement := by
    cases statement with
    | nil => rfl
    | cons c statement => simp [solid c rfl]
  unfold rawArgument?
  rw [first]
  simp only [List.dropWhile_append_of_pos gaps, kept, missing]

/-! ### The argument of each shape -/

/-- The text before the last parenthesis. -/
theorem upToLastParen?_append (argument : Text) {tail : Text} (last : ')' ∉ tail) :
    upToLastParen? (argument ++ ')' :: tail) = some argument := by
  have reversed : (argument ++ ')' :: tail).reverse = tail.reverse ++ ')' :: argument.reverse := by
    simp
  have apart : ∀ c ∈ tail.reverse, (c != ')') = true := fun c member =>
    bne_iff_ne.2 fun same => last (same ▸ List.mem_reverse.1 member)
  simp [upToLastParen?, reversed, List.dropWhile_append_of_pos apart]

/-- The argument of a call goes up to the last parenthesis. -/
theorem callArgument?_paren (argument : Text) {tail : Text} (last : ')' ∉ tail) :
    callArgument? ('(' :: argument ++ ')' :: tail) = some argument := by
  simp only [List.cons_append, callArgument?, List.dropWhile_cons, isGap]
  exact upToLastParen?_append argument last

/-- The operand of a stream goes up to the next operator. -/
theorem streamArgument?_arrow {operand : Text} (single : '<' ∉ operand) (bare : ';' ∉ operand)
    (tail : Text) :
    streamArgument? (" <<".toList ++ (operand ++ ['<', '<'] ++ tail)) = some operand := by
  have cut : Text.upTo ['<', '<'] (operand ++ ['<', '<'] ++ tail) = operand := by
    rw [Text.upTo, Text.splitFirst?_append single]
  have whole : operand.takeWhile (· != ';') = operand :=
    List.takeWhile_eq_self_iff.2 fun c member => bne_iff_ne.2 fun same => bare (same ▸ member)
  show some ((Text.upTo ['<', '<'] (operand ++ ['<', '<'] ++ tail)).takeWhile (· != ';')) = _
  rw [cut, whole]

/-- The argument of a statement goes up to the semicolon. -/
theorem statementArgument?_gap {c : Char} (solid : isGap c = false) (s : Text) :
    statementArgument? (' ' :: c :: s) = some ((c :: s).takeWhile (· != ';')) := by
  have rest : (' ' :: c :: s).dropWhile isGap = c :: s := by
    simp [isGap] at solid ⊢
    simp [solid]
  simp [statementArgument?, rest, show isGap ' ' = true by rfl]

/-! ### Programs -/

/-- The argument that a program's only printing line gives. -/
theorem findSome?_argument?_join {forms : List OutputForm} {front back : List Text} {line : Text}
    (whole : ∀ other ∈ front ++ line :: back, '\n' ∉ other)
    (silent : ∀ other ∈ front ++ back, ∀ form ∈ forms, form.onLine? other = none) :
    forms.findSome? (fun form => form.argument? (Text.join ['\n'] (front ++ line :: back))) =
      forms.findSome? fun form => form.onLine? line := by
  have cut : Text.feedLines (Text.join ['\n'] (front ++ line :: back)) = front ++ line :: back :=
    Text.feedLines_join (by simp) whole
  induction forms with
  | nil => rfl
  | cons form forms ih =>
    have quiet : ∀ other ∈ front ++ back, form.onLine? other = none := fun other member =>
      silent other member form List.mem_cons_self
    have one : form.argument? (Text.join ['\n'] (front ++ line :: back)) = form.onLine? line := by
      have before : front.findSome? form.onLine? = none :=
        List.findSome?_eq_none_iff.2 fun other member => quiet other (List.mem_append_left _ member)
      have after : back.findSome? form.onLine? = none :=
        List.findSome?_eq_none_iff.2 fun other member => quiet other (List.mem_append_right _ member)
      rw [argument?, cut, List.findSome?_append, List.findSome?_cons, before, after]
      cases form.onLine? line <;> rfl
    rw [List.findSome?_cons, List.findSome?_cons, one,
      ih fun other member form inside => silent other member form (List.mem_cons_of_mem _ inside)]

end DryRun.OutputForm
