import DryRun.Proofs.Source.CallRest
import DryRun.Proofs.Source.LineEnd
import DryRun.Proofs.Source.RoundTrip
import DryRun.Proofs.Text.Pattern

/-!
# Output forms as patterns

What an output form looks for is a pattern (`OutputForm.pattern`), and the argument of a program is
what the first match in the whole program takes, cut to the operand that counts
(`OutputForm.argument?_eq_search?`). Each shape has one lemma that compares what its pieces take
behind the keyword with what the form reads there; where the keyword may stand decides at which
places the two look.

No piece of these patterns takes a line feed. So a form finds its argument line by line, on the
first line that has one, whatever stands on the other lines (`OutputForm.argument?_local`).
-/

set_option autoImplicit false

namespace DryRun

/-- Functions that agree on a list find the same there. -/
theorem findSome?_congr {α β : Type} {f g : α → Option β} {l : List α}
    (same : ∀ a ∈ l, f a = g a) : l.findSome? f = l.findSome? g := by
  induction l with
  | nil => rfl
  | cons a l ih =>
    rw [List.findSome?_cons, List.findSome?_cons, same a List.mem_cons_self,
      ih fun b member => same b (List.mem_cons_of_mem a member)]

namespace Pattern

variable {rest : Pattern} {previous : Option Char} {s argument : Text}

/-- A pattern that begins with a character does not match where another one stands. -/
theorem here?_char_of_ne {c d : Char} (other : d ≠ c) (s : Text) :
    here? (.char c :: rest) previous (d :: s) argument = none := by
  simp [here?, other]

/-- A run that what follows it cannot begin with takes all that it can. -/
theorem here?_run {isArgument : Bool} {kind : Char → Bool}
    (stops : ∀ c t previous argument, kind c = true → rest.here? previous (c :: t) argument = none) :
    here? (.run isArgument 0 kind :: rest) previous s argument =
      rest.here? ((s.takeWhile kind).getLast?.or previous) (s.dropWhile kind)
        (if isArgument then s.takeWhile kind else argument) := by
  have whole : s.takeWhile kind ++ s.dropWhile kind = s := List.takeWhile_append_dropWhile
  have all : ∀ c ∈ s.takeWhile kind, kind c = true := fun _ => List.mem_takeWhile_imp
  rw [here?]
  generalize s.takeWhile kind = taken at whole all ⊢
  generalize s.dropWhile kind = left at whole ⊢
  subst whole
  rw [longestFirst?_of_below, if_neg (Nat.not_lt_zero _), List.take_left, List.drop_left]
  intro k below
  rw [if_neg (Nat.not_lt_zero k), List.drop_append_of_le_length (Nat.le_of_lt below),
    List.drop_eq_getElem_cons below, List.cons_append]
  exact stops _ _ _ _ (all _ (List.getElem_mem below))

/-- Characters are matched one by one as a keyword is. -/
theorem here?_chars (keyword : Text) (previous : Option Char) {f : Text → Option Text}
    {cut : Text → Text}
    (after : ∀ previous t, '\n' ∉ t → (rest.here? previous t argument).map cut = f t)
    (whole : '\n' ∉ s) :
    (here? (keyword.map .char ++ rest) previous s argument).map cut =
      (OutputForm.afterKeyword? keyword s).bind f := by
  induction keyword generalizing previous s with
  | nil => exact after previous s whole
  | cons c keyword ih =>
    cases s with
    | nil => rfl
    | cons d s =>
      by_cases same : d = c
      · subst same
        have found := ih (some d) fun feed => whole (List.mem_cons_of_mem d feed)
        simp only [OutputForm.afterKeyword?] at found ⊢
        simp [here?, found, List.isPrefixOf]
      · rw [List.map_cons, List.cons_append, here?_char_of_ne same]
        simp [OutputForm.afterKeyword?, List.isPrefixOf, Ne.symm same]

/-- On one line everything is before the line feed. -/
theorem takeWhile_of_not_mem_feed (whole : '\n' ∉ s) : s.takeWhile (· != '\n') = s :=
  List.takeWhile_eq_self_iff.mpr fun _ member => bne_iff_ne.mpr fun feed => whole (feed ▸ member)

/-- An argument that nothing follows reaches to the end of the line. -/
theorem here?_toEnd {least : Nat} (whole : '\n' ∉ s) :
    here? [.run true least (· != '\n')] previous s argument =
      if s.length < least then none else some s := by
  rw [here?, takeWhile_of_not_mem_feed whole]
  by_cases short : s.length < least
  · rw [if_pos short]
    exact longestFirst?_eq_none fun k below => if_pos (Nat.lt_of_le_of_lt below short)
  · rw [if_neg short]
    refine longestFirst?_of_some (Nat.le_refl _) ?_ fun k above below =>
      absurd above (Nat.not_lt.mpr below)
    rw [if_neg short, here?, if_pos rfl, List.take_length]

/-- An argument that has to end in a character reaches to the last one. -/
theorem here?_upToLastParen (whole : '\n' ∉ s) :
    here? [.run true 0 (· != '\n'), .char ')'] previous s argument =
      OutputForm.upToLastParen? s := by
  rw [here?, takeWhile_of_not_mem_feed whole]
  by_cases closed : ')' ∈ s
  · obtain ⟨back, front, reversed, last⟩ :=
      List.eq_append_cons_of_mem (List.mem_reverse.mpr closed)
    obtain rfl : s = front.reverse ++ ')' :: back.reverse := by
      rw [← List.reverse_reverse s, reversed]
      simp
    have bare : ')' ∉ back.reverse := fun member => last (List.mem_reverse.mp member)
    rw [OutputForm.upToLastParen?_append _ bare]
    refine longestFirst?_of_some (m := front.reverse.length) (by simp) ?_ ?_
    · simp [here?]
    · intro k above _
      obtain ⟨j, rfl⟩ := Nat.exists_eq_add_of_lt above
      rw [if_neg (Nat.not_lt_zero _), Nat.add_assoc, List.drop_length_add_append, here?, if_neg]
      exact fun next => bare (List.mem_of_mem_drop (List.mem_of_head? next))
  · have unread : OutputForm.upToLastParen? s = none := by
      have unclosed : s.reverse.dropWhile (· != ')') = [] :=
        List.dropWhile_eq_nil_iff.mpr fun c member => bne_iff_ne.mpr fun same =>
          closed (same ▸ List.mem_reverse.mp member)
      rw [OutputForm.upToLastParen?, unclosed]
    rw [unread]
    refine longestFirst?_eq_none fun k _ => ?_
    rw [if_neg (Nat.not_lt_zero k), here?, if_neg]
    exact fun next => closed (List.mem_of_mem_drop (List.mem_of_head? next))

end Pattern

namespace OutputForm

variable {form : OutputForm}

/-- The places where the keyword may stand. -/
def placePattern : KeywordPlace → Pattern
  | .lineStart => [.lineStart, .run false 0 isGap]
  | .wordStart => [.wordEdge]
  | .anywhere => []

/-- What follows the keyword. -/
def shapePattern : OutputShape → Pattern
  | .call => [.run false 0 isGap, .char '(', .run true 0 (· != '\n'), .char ')']
  | .stream => [.run false 0 isGap, .char '<', .char '<', .run true 0 (· != '\n')]
  | .statement => [.run false 1 isGap, .run true 1 (· != '\n')]

/-- The pattern that a form looks for. -/
def pattern (form : OutputForm) : Pattern :=
  placePattern form.place ++ (form.keyword.toList.map .char ++ shapePattern form.shape)

/-- The part of what a match takes that counts. -/
def operand : OutputShape → Text → Text
  | .call, taken => Text.strip taken
  | .stream, taken => Text.strip ((Text.upTo ['<', '<'] taken).takeWhile (· != ';'))
  | .statement, taken => Text.strip (taken.takeWhile (· != ';'))

/-- A character that is not in a text is not in its rest. -/
theorem not_mem_dropWhile {p : Char → Bool} {c : Char} {s : Text} (apart : c ∉ s) :
    c ∉ s.dropWhile p :=
  fun member => apart ((List.dropWhile_suffix p).subset member)

/-- A gap differs from what is no gap. -/
theorem gap_ne {c d : Char} (gap : isGap c = true) (solid : isGap d = false) : c ≠ d := by
  rintro rfl
  rw [gap] at solid
  cases solid

section Shapes

variable {previous : Option Char} {s : Text} (whole : '\n' ∉ s)
include whole

/-- The pattern of a call takes the argument that is read directly. -/
theorem here?_call : ((shapePattern .call).here? previous s []).map (operand .call) =
    (callArgument? s).map Text.strip := by
  rw [shapePattern, Pattern.here?_run fun c t previous argument gap =>
    Pattern.here?_char_of_ne (gap_ne gap (by decide)) t]
  have after (previous : Option Char) (t : Text) (whole : '\n' ∉ t) :
      (Pattern.here? [.run true 0 (· != '\n'), .char ')'] previous t []).map (operand .call) =
        (upToLastParen? t).map Text.strip := by
    rw [Pattern.here?_upToLastParen whole]
    rfl
  have found := Pattern.here?_chars ['('] ((s.takeWhile isGap).getLast?.or previous) after
    (not_mem_dropWhile (p := isGap) whole)
  rw [callArgument?_eq, Option.map_bind]
  exact found

/-- The pattern of a stream takes the argument that is read directly. -/
theorem here?_stream : ((shapePattern .stream).here? previous s []).map (operand .stream) =
    (streamArgument? s).map Text.strip := by
  rw [shapePattern, Pattern.here?_run fun c t previous argument gap =>
    Pattern.here?_char_of_ne (gap_ne gap (by decide)) t]
  have after (previous : Option Char) (t : Text) (whole : '\n' ∉ t) :
      (Pattern.here? [.run true 0 (· != '\n')] previous t []).map (operand .stream) =
        some (operand .stream t) := by
    rw [Pattern.here?_toEnd whole]
    rfl
  have found := Pattern.here?_chars ['<', '<'] ((s.takeWhile isGap).getLast?.or previous) after
    (not_mem_dropWhile (p := isGap) whole)
  rw [streamArgument?_eq, Option.map_map]
  exact found.trans Option.map_eq_bind.symm

/-- The gap behind the keyword of a statement is as long as it can be with something left for the
argument. -/
theorem here?_gap :
    (shapePattern .statement).here? previous s [] =
      if min (s.takeWhile isGap).length (s.length - 1) < 1 then none
      else some (s.drop (min (s.takeWhile isGap).length (s.length - 1))) := by
  have tries (k : Nat) : (if k < 1 then none
      else Pattern.here? [.run true 1 (· != '\n')] ((s.take k).getLast?.or previous) (s.drop k) []) =
        if k < 1 ∨ s.length ≤ k then none else some (s.drop k) := by
    rw [Pattern.here?_toEnd fun feed => whole (List.mem_of_mem_drop feed), List.length_drop]
    split
    case isTrue none => rw [if_pos (.inl none)]
    case isFalse => exact if_congr (by omega) rfl rfl
  rw [shapePattern, Pattern.here?]
  simp only [Bool.false_eq_true, if_false, tries]
  generalize (s.takeWhile isGap).length = n
  split
  case isTrue short => exact longestFirst?_eq_none fun k below => if_pos (by omega)
  case isFalse long =>
    refine longestFirst?_of_some (Nat.min_le_left n _) (if_neg (by omega)) fun k above below => ?_
    exact if_pos (by omega)

/-- The pattern of a statement takes the argument that is read directly. -/
theorem here?_statement :
    ((shapePattern .statement).here? previous s []).map (operand .statement) =
      (statementArgument? s).map Text.strip := by
  rw [here?_gap whole, statementArgument?]
  have cut : s.takeWhile isGap ++ s.dropWhile isGap = s := List.takeWhile_append_dropWhile
  have gaps : ∀ c ∈ s.takeWhile isGap, isGap c = true := fun _ => List.mem_takeWhile_imp
  generalize s.takeWhile isGap = gap at cut gaps ⊢
  generalize s.dropWhile isGap = left at cut ⊢
  subst cut
  cases left with
  | nil =>
    simp only [List.append_nil] at whole ⊢
    rw [Nat.min_eq_right (Nat.sub_le _ 1)]
    by_cases long : 2 ≤ gap.length
    · have blanks : ∀ c ∈ (gap.drop (gap.length - 1)).takeWhile (· != ';'), Text.isBlank c = true :=
        fun c member => isBlank_of_isGap
          (gaps c (List.mem_of_mem_drop ((List.takeWhile_prefix _).subset member)))
      have stripped := Text.strip_append_blanks blanks []
      rw [List.nil_append] at stripped
      rw [if_neg (by omega), if_pos long, Option.map_some, operand, stripped]
      rfl
    · rw [if_pos (by omega), if_neg long]
      rfl
  | cons c left =>
    have length : min gap.length ((gap ++ c :: left).length - 1) = gap.length := by simp
    rw [length, List.drop_left]
    cases gap with
    | nil => rfl
    | cons d gap => rfl

end Shapes

/-- On one line the pattern of every shape takes the argument that is read directly. -/
theorem here?_shape (form : OutputForm) {previous : Option Char} {s : Text}
    (whole : '\n' ∉ s) :
    ((shapePattern form.shape).here? previous s []).map (operand form.shape) =
      (form.argumentAfter? s).map Text.strip := by
  unfold argumentAfter?
  cases form.shape with
  | call => exact here?_call whole
  | stream => exact here?_stream whole
  | statement => exact here?_statement whole

/-- What a form finds at the start of a text is what its keyword and its shape take there. -/
theorem here?_keyword (form : OutputForm) (previous : Option Char) {s : Text} (whole : '\n' ∉ s) :
    (Pattern.here? (form.keyword.toList.map .char ++ shapePattern form.shape) previous s []).map
        (operand form.shape) = (form.here? s).map Text.strip := by
  rw [here?, Option.map_bind]
  exact Pattern.here?_chars form.keyword.toList previous (fun _ _ whole => form.here?_shape whole)
    whole

/-- The keyword of a form stands on one line and begins with a character that is no gap; where it
has to begin a word, with a word character. -/
structure Legible (form : OutputForm) : Prop where
  worded : form.HasKeyword
  oneLine : '\n' ∉ form.keyword.toList
  edged : form.place = .wordStart → form.keyword.toList.head?.all Text.isWordChar = true

/-- Two searches that agree at every place agree. -/
theorem firstMatch?_eq {pattern : Pattern} {cut : Text → Text} {mayStart : Option Char → Bool}
    (here : ∀ previous c s, '\n' ∉ c :: s → (pattern.here? previous (c :: s) []).map cut =
      (if mayStart previous then form.here? (c :: s) else none).map Text.strip)
    (none : ∀ previous, pattern.here? previous [] [] = none) (previous : Option Char)
    {line : Text} (whole : '\n' ∉ line) :
    (pattern.firstMatch? previous line).map cut =
      (form.firstFrom? mayStart previous line).map Text.strip := by
  induction line generalizing previous with
  | nil => rw [Pattern.firstMatch?, none]; rfl
  | cons c line ih =>
    rw [Pattern.firstMatch?, firstFrom?_cons, Option.map_or, Option.map_or,
      here previous c line whole, ih _ fun feed => whole (List.mem_cons_of_mem c feed)]

/-- A pattern that has to stand first on a line is looked for nowhere else on it. -/
theorem search?_lineStart {rest : Pattern} {line : Text} (whole : '\n' ∉ line) :
    Pattern.search? (.lineStart :: rest) line = rest.here? none line [] := by
  have later (c : Char) (t : Text) (inside : '\n' ∉ c :: t) :
      Pattern.firstMatch? (.lineStart :: rest) (some c) t = none := by
    induction t generalizing c with
    | nil =>
      have other : c ≠ '\n' := fun feed => inside (feed ▸ List.mem_cons_self)
      simp [Pattern.firstMatch?, Pattern.here?, other]
    | cons d t ih =>
      have other : c ≠ '\n' := fun feed => inside (feed ▸ List.mem_cons_self)
      rw [Pattern.firstMatch?, ih d fun feed => inside (List.mem_cons_of_mem c feed)]
      simp [Pattern.here?, other]
  cases line with
  | nil => rfl
  | cons c line =>
    rw [Pattern.search?, Pattern.firstMatch?, later c line whole, Option.or_none]
    rfl

namespace Legible

/-- The pattern of a legible form takes nothing beyond a line. -/
theorem keepsToLine (legible : form.Legible) : form.pattern.KeepsToLine := by
  have places : (placePattern form.place).KeepsToLine := by
    cases form.place <;> simp [Pattern.KeepsToLine, placePattern, Piece.KeepsToLine, isGap]
  have shapes : (shapePattern form.shape).KeepsToLine := by
    cases form.shape <;> simp [Pattern.KeepsToLine, shapePattern, Piece.KeepsToLine, isGap]
  refine List.forall_mem_append.mpr ⟨places, List.forall_mem_append.mpr ⟨?_, shapes⟩⟩
  rintro piece member
  obtain ⟨c, inside, rfl⟩ := List.mem_map.mp member
  exact fun feed => legible.oneLine (feed ▸ inside)

/-- On one line, a form finds what its pattern takes. -/
theorem onLine?_eq_search? (legible : form.Legible) {line : Text} (whole : '\n' ∉ line) :
    form.onLine? line = (form.pattern.search? line).map (operand form.shape) := by
  obtain ⟨k, first, solid⟩ := legible.worded
  have edged := legible.edged
  have here (previous : Option Char) (s : Text) (inside : '\n' ∉ s) :=
    form.here?_keyword previous inside
  have away (c : Char) (other : k ≠ c) (s : Text) := here?_cons_of_ne ⟨k, first, other⟩ s
  obtain ⟨ks, keyword⟩ : ∃ ks, form.keyword.toList = k :: ks := List.head?_eq_some_iff.mp first
  rw [onLine?, rawArgument?, pattern]
  rw [keyword] at edged here ⊢
  cases place : form.place with
  | lineStart =>
    have stops (c : Char) (t : Text) (previous : Option Char) (argument : Text)
        (gap : isGap c = true) : Pattern.here? ((k :: ks).map .char ++ shapePattern form.shape)
          previous (c :: t) argument = none := Pattern.here?_char_of_ne (gap_ne gap solid) t
    rw [placePattern, List.cons_append, search?_lineStart whole, List.singleton_append,
      Pattern.here?_run stops]
    exact (here _ _ (not_mem_dropWhile whole)).symm
  | wordStart =>
    have word : Text.isWordChar k = true := edged place
    refine (firstMatch?_eq (fun previous c s inside => ?_) (fun previous => ?_) none whole).symm
    -- The keyword opens with a word character, so there is a boundary in front of it just if no
    -- word character comes before.
    · rw [placePattern, List.singleton_append, Pattern.here?]
      by_cases same : k = c
      · subst same
        simp only [List.head?_cons, Option.any_some, word, Bool.bne_true]
        split
        · exact here previous (k :: s) inside
        · rfl
      · rw [List.map_cons, List.cons_append, Pattern.here?_char_of_ne (Ne.symm same), away c same]
        simp
    · simp [placePattern, Pattern.here?]
  | anywhere =>
    refine (firstMatch?_eq (fun previous c s inside => ?_) (fun previous => ?_) none whole).symm
    · exact here previous (c :: s) inside
    · rfl

/-- The argument of a program is what the first match in the whole program takes, cut to what
counts. -/
theorem argument?_eq_search? (legible : form.Legible) (source : Text) :
    form.argument? source = (form.pattern.search? source).map (operand form.shape) := by
  rw [argument?, Pattern.search?_eq_findSome? legible.keepsToLine, List.map_findSome?]
  exact findSome?_congr fun line piece =>
    legible.onLine?_eq_search? (Text.not_mem_of_mem_feedLines piece)

end Legible

/-- Every way of printing is legible. -/
theorem legible_of_listed {language : Language} (listed : language.IsListed)
    (known : form ∈ language.outputForms) : form.Legible := by
  obtain ⟨worded, oneLine⟩ := hasKeyword_of_listed listed known
  refine ⟨worded, oneLine, ?_⟩
  obtain ⟨listing, member, rfl⟩ := listed
  have all : ∀ listing ∈ Language.catalogue, ∀ form ∈ listing.language.outputForms,
      form.place = .wordStart → form.keyword.toList.head?.all Text.isWordChar = true := by
    decide
  exact all listing member form known

/-- The operand is made of characters that were taken. -/
theorem operand_subset (shape : OutputShape) (taken : Text) : operand shape taken ⊆ taken := by
  cases shape with
  | call => exact Text.strip_subset taken
  | stream =>
    exact List.Subset.trans (Text.strip_subset _)
      ((List.takeWhile_prefix _).trans (Text.upTo_prefix _ taken)).subset
  | statement => exact List.Subset.trans (Text.strip_subset _) (List.takeWhile_prefix _).subset

/-- The argument of a form stands on one line. -/
theorem not_mem_argument (legible : form.Legible) {source argument : Text}
    (found : form.argument? source = some argument) : '\n' ∉ argument := by
  rw [legible.argument?_eq_search?, Option.map_eq_some_iff] at found
  obtain ⟨taken, found, rfl⟩ := found
  exact fun feed => Pattern.not_mem_of_search? legible.keepsToLine found
    (operand_subset form.shape taken feed)

/-- **Locality.** What a form finds in a program is the argument of the first match of its pattern
in the whole text. It finds it line by line: in two texts with a line feed between them it is that
of the first one, or else that of the second one. So it comes from the first line on which the form
finds anything, is what the form finds on this line alone, and has no line feed in it. -/
theorem argument?_local {language : Language} (listed : language.IsListed)
    (known : form ∈ language.outputForms) :
    (∀ source, form.argument? source =
      (form.pattern.search? source).map (operand form.shape)) ∧
    (∀ s t, form.argument? (s ++ '\n' :: t) = (form.argument? s).or (form.argument? t)) ∧
    ∀ source argument, form.argument? source = some argument ↔
      ∃ before line after, Text.feedLines source = before ++ line :: after ∧
        (∀ other ∈ before, form.argument? other = none) ∧
        form.argument? line = some argument ∧ '\n' ∉ argument := by
  have legible := legible_of_listed listed known
  have apart (s t : Text) :
      form.argument? (s ++ '\n' :: t) = (form.argument? s).or (form.argument? t) := by
    rw [legible.argument?_eq_search?, legible.argument?_eq_search?, legible.argument?_eq_search?,
      Pattern.search?_append_feed legible.keepsToLine, Option.map_or]
  refine ⟨legible.argument?_eq_search?, apart, fun source argument => ?_⟩
  rw [Text.eq_findSome?_feedLines apart, List.findSome?_eq_some_iff]
  constructor
  · rintro ⟨before, line, after, cut, found, silent⟩
    exact ⟨before, line, after, cut, silent, found, not_mem_argument legible found⟩
  · rintro ⟨before, line, after, cut, silent, found, -⟩
    exact ⟨before, line, after, cut, found, silent⟩

/-- A keyword at the end of a line has nothing to do with the parenthesis on the next one. -/
theorem argument?_local_split :
    let form : OutputForm := ⟨.call, "print", .lineStart⟩
    Language.python.IsListed ∧ form ∈ Language.python.outputForms ∧
      form.argument? ("x = 1\nprint".toList ++ '\n' :: "('x')\n\tprint( 'hi' ) # )".toList) =
        some "'hi' ) #".toList := by
  have listed : Language.python.IsListed :=
    ⟨⟨Language.python, ["python"], ["py"]⟩, by simp [Language.catalogue], rfl⟩
  have known : ⟨.call, "print", .lineStart⟩ ∈ Language.python.outputForms := by decide
  refine ⟨listed, known, ?_⟩
  rw [(argument?_local listed known).2.1]
  decide

end OutputForm

end DryRun
