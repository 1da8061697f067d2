import DryRun.Proofs.Language.Catalogue
import DryRun.Proofs.Source.Literal
import DryRun.Proofs.Source.Sides

/-!
# What follows a call on its line

The argument of a call reaches to the last closing parenthesis of the line, not to the one that
closes the call (`OutputForm.argument?_call`). If there is none in the rest of the line, a quoted
text is read as it stands. If there is one, everything in front of it is taken for a part of the
argument: the second quote mark and a parenthesis behind it stand in whatever is made of the
argument, so it is not the text (`Prediction.resolve_overrun_ne`).

Hence the rest of the line is left alone exactly if no parenthesis closes in it
(`OutputForm.resolve_quotedCall_iff`). A comment with a remark in parentheses, or a second call, is
enough to change what is predicted.
-/

set_option autoImplicit false

namespace DryRun

/-! ## Calls on a line -/

namespace OutputForm

variable {form : OutputForm}

/-- Every way of printing has a keyword, which stands on one line. -/
theorem hasKeyword_of_listed {language : Language} (listed : language.IsListed)
    (known : form ∈ language.outputForms) : form.HasKeyword ∧ '\n' ∉ form.keyword.toList := by
  obtain ⟨listing, member, rfl⟩ := listed
  have all : ∀ listing ∈ Language.catalogue, ∀ form ∈ listing.language.outputForms,
      form.HasKeyword ∧ '\n' ∉ form.keyword.toList := by decide
  exact all listing member form known

/-- The argument of a call goes up to the last parenthesis. -/
theorem callArgument?_gap {gap : Text} (gaps : ∀ c ∈ gap, isGap c = true) (argument : Text)
    {tail : Text} (last : ')' ∉ tail) :
    callArgument? (gap ++ '(' :: argument ++ ')' :: tail) = some argument := by
  have closed := callArgument?_paren argument last
  unfold callArgument? at closed ⊢
  rw [List.append_assoc, List.dropWhile_append_of_pos gaps]
  exact closed

/-- A call, indented or not, with anything between its parentheses and behind them. -/
def call (form : OutputForm) (indent gap argument rest : Text) : Text :=
  indent ++ (form.keyword.toList ++ (gap ++ '(' :: argument ++ ')' :: rest))

/-- The argument of a call that a line begins with reaches to the last closing parenthesis. -/
theorem argument?_call (worded : form.HasKeyword) (shape : form.shape = .call)
    {indent gap argument tail : Text} (gaps : ∀ c ∈ indent ++ gap, isGap c = true)
    (last : ')' ∉ tail) (oneLine : '\n' ∉ form.call indent gap argument tail) :
    form.argument? (form.call indent gap argument tail) = some (Text.strip argument) := by
  obtain ⟨front, between⟩ := List.forall_mem_append.mp gaps
  have here : form.here? (form.keyword.toList ++ (gap ++ '(' :: argument ++ ')' :: tail)) =
      some argument := by
    rw [here?_append, argumentAfter?, shape]
    exact callArgument?_gap between argument last
  have found : form.onLine? (form.call indent gap argument tail) = some (Text.strip argument) := by
    rw [onLine?, call, rawArgument?_indented worded front here, Option.map_some]
  have cut : Text.feedLines (form.call indent gap argument tail) =
      [form.call indent gap argument tail] :=
    Text.feedLines_join (List.cons_ne_nil _ _) (List.forall_mem_singleton.mpr oneLine)
  rw [argument?, cut, List.findSome?_cons, found]

end OutputForm

/-! ## What is made of an argument -/

namespace RightHandSide

/-- A character that is no blank and no semicolon stays, and all in front of it. -/
theorem exists_dropSemicolon {c : Char} (solid : Text.isBlank c = false) (other : c ≠ ';')
    (s t : Text) : ∃ u, dropSemicolon (s ++ c :: t) = s ++ c :: u := by
  unfold dropSemicolon
  split
  case isTrue semicolon =>
    have some : t ≠ [] := by
      rintro rfl
      simp [other] at semicolon
    rw [List.dropLast_append_cons, List.dropLast_cons_of_ne_nil some,
      Text.stripRight_append_cons solid]
    exact ⟨_, rfl⟩
  case isFalse => exact ⟨t, rfl⟩

end RightHandSide

namespace Prediction

variable {quote : Char} (mark : quote ∈ Text.quoteMarks)

include mark

/-- An argument that goes on behind its second quote mark does not stand for the text between the
two marks. -/
theorem resolve_overrun_ne {x : Text} (unmarked : quote ∉ x) (front source : Text) :
    resolve (Bindings.ofSource source) (Text.strip (quote :: x ++ [quote] ++ ')' :: front)) ≠
      x := by
  have solid := isBlank_of_mark mark
  have paren : Text.isBlank ')' = false := by decide
  have stripped (t : Text) : Text.strip (quote :: x ++ [quote] ++ ')' :: t) =
      quote :: x ++ [quote] ++ ')' :: Text.stripRight t := by
    rw [Text.strip_append_cons paren, Text.stripLeft, List.cons_append, List.dropWhile_cons,
      if_neg (by simp [solid])]
  obtain ⟨u, clean⟩ := RightHandSide.exists_dropSemicolon paren (by decide)
    (quote :: x ++ [quote]) (Text.stripRight (Text.stripRight front))
  rw [resolve, stripped, stripped, clean]
  cases between : Text.between? Text.quoteMarks (quote :: x ++ [quote] ++ ')' :: u) with
  | some inner =>
    obtain ⟨second, -, whole⟩ := Text.between?_eq_some_iff.mp between
    -- The second quote mark is not the last character, so it stands between the two ends.
    have inside : quote ∈ inner := by
      have same : x ++ [quote] ++ ')' :: u = inner ++ [second] := (List.cons.inj whole).2
      have ends : x ++ [quote] <+: inner := by
        have begins : x ++ [quote] <+: inner ++ [second] := ⟨')' :: u, same⟩
        refine List.prefix_of_prefix_length_le begins (List.prefix_append inner [second]) ?_
        have lengths := congrArg List.length same
        simp only [List.length_append, List.length_cons, List.length_nil] at lengths ⊢
        omega
      exact ends.subset (List.mem_append_right x List.mem_cons_self)
    intro same
    have text : inner = x := same
    exact unmarked (text ▸ inside)
  | none =>
    have unbound := Bindings.get?_ofSource_of_not_isName
      (isName_of_mark mark (x ++ [quote] ++ ')' :: u)) source
    simp only [List.cons_append] at unbound ⊢
    rw [unbound]
    intro same
    have text : quote :: (x ++ [quote] ++ ')' :: u) = x := same
    exact unmarked (text ▸ List.mem_cons_self)

end Prediction

namespace OutputForm

/-- **The rest of the line of a call.** Let a line be a call of one of the known ways of printing,
with a text without quote marks between two of them as its argument and anything behind it. Whatever
names are bound, the argument read from the line stands for that text if no parenthesis closes in
the rest of the line; and with the bindings of no source text it does if one closes there. -/
theorem resolve_quotedCall_iff {language : Language} (listed : language.IsListed)
    {form : OutputForm} (known : form ∈ language.outputForms) (shape : form.shape = .call)
    {quote : Char} (mark : quote ∈ Text.quoteMarks) {indent gap x rest : Text}
    (gaps : ∀ c ∈ indent ++ gap, isGap c = true) (unmarked : quote ∉ x)
    (oneLine : '\n' ∉ x ++ rest) :
    let read? := form.argument? (form.call indent gap (quote :: x ++ [quote]) rest)
    ((∀ table, read?.map (Prediction.resolve table) = some x) ↔ ')' ∉ rest) ∧
      ∀ source, read?.map (Prediction.resolve (Bindings.ofSource source)) = some x ↔
        ')' ∉ rest := by
  intro read?
  obtain ⟨worded, oneWord⟩ := hasKeyword_of_listed listed known
  have whole : '\n' ∉ form.call indent gap (quote :: x ++ [quote]) rest := by
    obtain ⟨front, between⟩ := List.forall_mem_append.mp gaps
    have noGap : isGap '\n' = false := by decide
    have apart : quote ≠ '\n' := ne_of_mem_of_not_mem mark (by decide)
    have bareFront : '\n' ∉ indent := fun member => by simp [front _ member] at noGap
    have bareGap : '\n' ∉ gap := fun member => by simp [between _ member] at noGap
    have bareText : '\n' ∉ x ∧ '\n' ∉ rest := by simpa using oneLine
    simp [call, oneWord, bareFront, bareGap, bareText, apart.symm]
  have clear (bare : ')' ∉ rest) (table : Bindings) :
      read?.map (Prediction.resolve table) = some x := by
    have read : read? = some (quote :: x ++ [quote]) := by
      rw [← strip_quoted mark x]
      exact argument?_call worded shape gaps bare whole
    rw [read, Option.map_some, resolve_quoted mark]
  -- The last parenthesis of the rest closes the call, so the argument goes on behind the second
  -- mark.
  have closed (paren : ')' ∈ rest) (source : Text) :
      read?.map (Prediction.resolve (Bindings.ofSource source)) ≠ some x := by
    obtain ⟨tail, front, parts, last⟩ := List.eq_append_cons_of_mem (List.mem_reverse.mpr paren)
    have split : rest = front.reverse ++ ')' :: tail.reverse := by
      simpa using congrArg List.reverse parts
    have regroup : form.call indent gap (quote :: x ++ [quote]) rest =
        form.call indent gap (quote :: x ++ [quote] ++ ')' :: front.reverse) tail.reverse := by
      simp [call, split]
    have read : read? =
        some (Text.strip (quote :: x ++ [quote] ++ ')' :: front.reverse)) := by
      have final : ')' ∉ tail.reverse := fun member => last (List.mem_reverse.mp member)
      have first := argument?_call worded shape gaps final (regroup ▸ whole)
      rwa [← regroup] at first
    rw [read, Option.map_some, ne_eq, Option.some.injEq]
    exact Prediction.resolve_overrun_ne mark unmarked front.reverse source
  constructor
  · exact ⟨fun all paren => closed paren [] (all _), clear⟩
  · intro source
    exact ⟨fun same paren => closed paren source same, fun bare => clear bare _⟩

/-- Another statement, a closing brace and a comment may follow. -/
theorem resolve_quotedCall_braces :
    ((⟨.call, "System.out.println", .anywhere⟩ : OutputForm).argument?
        "  System.out.println(\x22hi\x22); done = 1; \x7d // greeting".toList).map
      (Prediction.resolve [("hi".toList, "ho".toList)]) = some "hi".toList := by
  have listed : Language.java.IsListed :=
    ⟨⟨Language.java, ["java"], []⟩, by simp [Language.catalogue], rfl⟩
  have read := @resolve_quotedCall_iff Language.java listed
    ⟨.call, "System.out.println", .anywhere⟩ (by decide) rfl '\x22' (by decide)
    "  ".toList [] "hi".toList "; done = 1; \x7d // greeting".toList (by decide) (by decide)
    (by decide)
  have line : call ⟨.call, "System.out.println", .anywhere⟩ "  ".toList []
      ('\x22' :: "hi".toList ++ ['\x22']) "; done = 1; \x7d // greeting".toList =
      "  System.out.println(\x22hi\x22); done = 1; \x7d // greeting".toList := by decide
  rw [line] at read
  exact read.1.mpr (by decide) _

/-- A comment with a remark in parentheses becomes a part of the argument. -/
theorem resolve_quotedCall_remark :
    ((⟨.call, "print", .lineStart⟩ : OutputForm).argument?
        "print(\x22hi\x22) # (greeting)".toList).map (Prediction.resolve []) =
      some "\x22hi\x22) # (greeting".toList := by
  decide

end OutputForm

end DryRun
