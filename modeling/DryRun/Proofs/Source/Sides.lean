import DryRun.Proofs.Source.Bindings

/-!
# The two sides of an assignment

What a line binds is put together from two readings that know nothing of each other. The text before
the first equals sign decides whether a name is bound and which one, the text after it decides the
value (`ofLine?_append_sign`). The reading of a line strips its blanks before it looks for the sign,
takes up to two semicolons off in two places, and tells comments by how they begin; none of this
crosses the sign, because the sign is no blank, stands in no comment mark and is the first one
(`strip_append_cons`, `isComment_append_cons`, `ofStripped?_append_sign`).
-/

set_option autoImplicit false

namespace DryRun

namespace Text

variable {c : Char}

/-- Stripping the front does not reach beyond a character that is not blank. -/
theorem stripLeft_append_cons (solid : isBlank c = false) (s t : Text) :
    stripLeft (s ++ c :: t) = stripLeft s ++ c :: t := by
  unfold stripLeft
  rw [List.dropWhile_append]
  split
  case isTrue blanks => simp [List.isEmpty_iff.1 blanks, solid]
  case isFalse => rfl

/-- Stripping the end does not reach beyond a character that is not blank. -/
theorem stripRight_append_cons (solid : isBlank c = false) (s t : Text) :
    stripRight (s ++ c :: t) = s ++ c :: stripRight t := by
  unfold stripRight dropWhileEnd
  rw [List.reverse_append, List.reverse_cons, List.append_assoc, List.dropWhile_append]
  split
  case isTrue blanks => simp [List.isEmpty_iff.1 blanks, solid]
  case isFalse => simp

/-- Stripping a text does not cross a character that is no blank. -/
theorem strip_append_cons (solid : isBlank c = false) (s t : Text) :
    strip (s ++ c :: t) = stripLeft s ++ c :: stripRight t := by
  rw [strip, stripLeft_append_cons solid, stripRight_append_cons solid]

/-- A text is what is left of it and blanks at its end. -/
theorem exists_append_blanks (s : Text) :
    ∃ right, (∀ d ∈ right, isBlank d = true) ∧ stripRight s ++ right = s := by
  refine ⟨(s.reverse.takeWhile isBlank).reverse, ?_, ?_⟩
  · intro d member
    exact List.mem_takeWhile_imp (List.mem_reverse.1 member)
  · unfold stripRight dropWhileEnd
    rw [← List.reverse_append, List.takeWhile_append_dropWhile, List.reverse_reverse]

/-- Blanks at the end can be taken away first. -/
theorem strip_stripRight (s : Text) : strip (stripRight s) = strip s := by
  obtain ⟨right, blanks, whole⟩ := exists_append_blanks s
  calc strip (stripRight s) = strip (stripRight s ++ right) := (strip_append_blanks blanks _).symm
    _ = strip s := by rw [whole]

/-- Of blanks nothing is left. -/
theorem stripRight_of_blanks {s : Text} (blanks : ∀ d ∈ s, isBlank d = true) :
    stripRight s = [] :=
  stripRight_append_blanks blanks []

/-- A text neither begins nor ends with a blank. -/
structure IsStripped (s : Text) : Prop where
  first : ∀ d ∈ s.head?, isBlank d = false
  last : ∀ d ∈ s.getLast?, isBlank d = false

/-- A stripped text is stripped. -/
theorem isStripped_strip (s : Text) : IsStripped (strip s) := by
  constructor
  · intro d first
    obtain ⟨right, -, whole⟩ := exists_append_blanks (stripLeft s)
    have start := List.head?_dropWhile_not isBlank s
    rw [← stripLeft, ← whole, ← strip, List.head?_append, Option.mem_def.mp first] at start
    simpa using start
  · intro d last
    have stop := List.head?_dropWhile_not isBlank (stripLeft s).reverse
    rw [strip, stripRight, dropWhileEnd, List.getLast?_reverse] at last
    rw [Option.mem_def.mp last] at stop
    simpa using stop

/-- Any text is a stripped one with blanks on either side. -/
theorem exists_strip (s : Text) :
    ∃ left right, s = left ++ strip s ++ right ∧ (∀ d ∈ left, isBlank d = true) ∧
      ∀ d ∈ right, isBlank d = true := by
  obtain ⟨left, blanks, whole⟩ := exists_blanks_append s
  obtain ⟨right, blanks', whole'⟩ := exists_append_blanks (stripLeft s)
  exact ⟨left, right, by rw [strip, List.append_assoc, whole', whole], blanks, blanks'⟩

/-- Stripping does not reach into a stripped text. -/
theorem IsStripped.strip_append_append {s : Text} (stripped : IsStripped s) (some : s ≠ [])
    (left right : Text) : strip (left ++ s ++ right) = stripLeft left ++ s ++ stripRight right := by
  have front : stripLeft (left ++ s ++ right) = stripLeft left ++ s ++ right := by
    obtain ⟨d, u, rfl⟩ := List.exists_cons_of_ne_nil some
    simpa using stripLeft_append_cons (stripped.first d rfl) left (u ++ right)
  obtain ⟨u, d, rfl⟩ : ∃ u d, s = u ++ [d] := ⟨_, _, (List.dropLast_concat_getLast some).symm⟩
  have solid : isBlank d = false := stripped.last d (by simp)
  rw [strip, front]
  simpa using stripRight_append_cons solid (stripLeft left ++ u) right

/-- The first piece begins the text, the others stand inside of it. -/
theorem pieces_eq_cons {isSeparator : Char → Bool} {s first : Text} {others : List Text}
    (cut : pieces isSeparator s = first :: others) :
    first <+: s ∧ ∀ piece ∈ others, piece <:+: s := by
  induction s generalizing first others with
  | nil =>
    simp only [pieces, List.cons.injEq] at cut
    obtain ⟨rfl, rfl⟩ := cut
    simp
  | cons d s ih =>
    obtain ⟨next, later, rest⟩ := List.exists_cons_of_ne_nil (pieces_ne_nil isSeparator s)
    obtain ⟨begins, inside⟩ := ih rest
    have widen {piece : Text} (inside : piece <:+: s) : piece <:+: d :: s :=
      inside.trans (List.suffix_cons d s).isInfix
    rw [pieces, rest] at cut
    split at cut
    · simp only [List.cons.injEq] at cut
      obtain ⟨rfl, rfl⟩ := cut
      refine ⟨List.nil_prefix, List.forall_mem_cons.2 ⟨widen begins.isInfix, ?_⟩⟩
      intro piece member
      exact widen (inside piece member)
    · simp only [consPiece, List.cons.injEq] at cut
      obtain ⟨rfl, rfl⟩ := cut
      refine ⟨List.cons_prefix_cons.2 ⟨rfl, begins⟩, ?_⟩
      intro piece member
      exact widen (inside piece member)

/-- A word of a text stands in it. -/
theorem infix_of_mem_words {s word : Text} (member : word ∈ words s) : word <:+: s := by
  have piece : word ∈ pieces isBlank s := (List.mem_filter.1 member).1
  obtain ⟨first, others, cut⟩ := List.exists_cons_of_ne_nil (pieces_ne_nil isBlank s)
  obtain ⟨begins, inside⟩ := pieces_eq_cons cut
  rw [cut] at piece
  rcases List.mem_cons.1 piece with rfl | later
  · exact begins.isInfix
  · exact inside word later

end Text

namespace Head

/-- A name with pointer marks before it stands in its word. -/
theorem infix_of_markedName? {word name : Text} (marked : markedName? word = some name) :
    name <:+: word := by
  unfold markedName? at marked
  rw [Option.ite_none_right_eq_some, Option.some.injEq] at marked
  obtain ⟨-, rfl⟩ := marked
  exact (List.dropWhile_suffix _).isInfix

/-- The name that a text ends in stands in it. -/
theorem infix_of_lastName? {s name : Text} (last : lastName? (Text.words s) = some name) :
    name <:+: s := by
  unfold lastName? at last
  split at last
  case h_1 => cases last
  case h_2 word final =>
    rw [Option.ite_none_right_eq_some] at last
    have member : word ∈ Text.words s := List.mem_of_getLast? final
    exact (infix_of_markedName? last.2).trans (Text.infix_of_mem_words member)

/-- What stands before the last colon is at the front of the text. -/
theorem prefix_of_splitLastColon? {s before after : Text}
    (split : splitLastColon? s = some (before, after)) : before <+: s :=
  ⟨':' :: after, (splitLastColon?_eq_some_iff.mp split).1.symm⟩

/-- A head without its final colon is at the front of the head. -/
theorem prefix_dropFinalColon (s : Text) : dropFinalColon s <+: s := by
  unfold dropFinalColon
  split
  · exact List.dropLast_prefix s
  · exact List.prefix_rfl

/-- The name that a head binds stands in the head. -/
theorem infix_of_name? {head name : Text} (named : name? head = some name) : name <:+: head := by
  unfold name? at named
  rcases Option.or_eq_some_iff.1 named with typed | ⟨-, declared⟩
  · unfold typedName? at typed
    split at typed
    · next cut =>
      simp only [Option.ite_none_right_eq_some, Option.some.injEq] at typed
      obtain ⟨-, rfl⟩ := typed
      exact Text.infix_of_mem_words (by simp [cut])
    · cases typed
  · refine List.IsInfix.trans ?_ (prefix_dropFinalColon head).isInfix
    unfold declaredName? at declared
    split at declared
    · next last => exact infix_of_lastName? (last.trans declared)
    · split at declared
      · next cut =>
        rw [Option.ite_none_right_eq_some] at declared
        exact (infix_of_lastName? declared.2).trans (prefix_of_splitLastColon? cut).isInfix
      · cases declared

end Head

namespace RightHandSide

/-- Taking a semicolon away brings in no character. -/
theorem dropSemicolon_subset (s : Text) : dropSemicolon s ⊆ s := by
  unfold dropSemicolon
  split
  · exact List.Subset.trans (Text.stripRight_subset _) (List.dropLast_subset s)
  · exact List.Subset.refl s

/-- The value of a right-hand side that holds no line feed. -/
theorem value?_eq_some {side : Text} (whole : '\n' ∉ side) :
    value? side =
      some (Text.stripQuotes (dropSemicolon (dropSemicolon (Text.strip side)))) := by
  have inside : '\n' ∉ dropSemicolon (Text.strip side) := fun member =>
    whole (Text.strip_subset side (dropSemicolon_subset _ member))
  simp [value?, inside]

end RightHandSide

namespace Assignment

/-- Whether a line is a comment shows before the first character that no comment mark has. -/
theorem isComment_append_cons {c : Char} (absent : ∀ mark ∈ commentMarks, c ∉ mark.toList)
    (head side : Text) : isComment (head ++ c :: side) = isComment head := by
  unfold isComment
  rw [Bool.eq_iff_iff, List.any_eq_true, List.any_eq_true]
  refine exists_congr fun mark => and_congr_right fun member => ?_
  rw [Text.isPrefixOf_append_cons (absent mark member)]

/-- The name that the text before the first equals sign of a line binds: none in a comment. -/
def boundName? (head : Text) : Option Text :=
  if isComment (Text.stripLeft head) then none else Head.name? (Text.stripLeft head)

/-- A name that is bound stands in the head. -/
theorem infix_of_boundName? {head name : Text} (bound : boundName? head = some name) :
    name <:+: head := by
  unfold boundName? at bound
  rw [Option.ite_none_left_eq_some] at bound
  exact (Head.infix_of_name? bound.2).trans (List.dropWhile_suffix _).isInfix

/-- A line is read from its two sides. -/
theorem ofLine?_append_single {head side : Text} (bare : '=' ∉ head)
    (single : side.head? ≠ some '=') :
    ofLine? (head ++ '=' :: side) = (boundName? head).bind fun name =>
      (RightHandSide.value? side).map fun value => ⟨name, value⟩ := by
  have bareFront : '=' ∉ Text.stripLeft head := fun member =>
    bare ((List.dropWhile_sublist _).subset member)
  have singleFront : (Text.stripRight side).head? ≠ some '=' := by
    intro doubled
    obtain ⟨right, -, parts⟩ := Text.exists_append_blanks side
    apply single
    rw [← parts, List.head?_append, doubled]
    rfl
  have value : RightHandSide.value? (Text.stripRight side) = RightHandSide.value? side := by
    simp only [RightHandSide.value?, Text.strip_stripRight]
  have plain := isComment_append_cons (c := '=') (by decide) (Text.stripLeft head)
    (Text.stripRight side)
  rw [ofLine?, Text.strip_append_cons (by decide), ofStripped?_append_sign bareFront singleFront,
    plain, value, boundName?]
  split
  · rfl
  · rfl

/-- A line with a single equals sign binds the name of its head to its right-hand side without
blanks, semicolons and quote marks. -/
theorem ofLine?_append_sign {head side : Text} (bare : '=' ∉ head)
    (single : side.head? ≠ some '=') (whole : '\n' ∉ side) :
    ofLine? (head ++ '=' :: side) = (boundName? head).map fun name =>
      ⟨name, Text.stripQuotes
        (RightHandSide.dropSemicolon (RightHandSide.dropSemicolon (Text.strip side)))⟩ := by
  rw [ofLine?_append_single bare single, RightHandSide.value?_eq_some whole]
  cases boundName? head with
  | none => rfl
  | some name => rfl

/-- A doubled equals sign makes no assignment. -/
theorem ofLine?_append_doubled {head : Text} (bare : '=' ∉ head) (rest : Text) :
    ofLine? (head ++ '=' :: '=' :: rest) = none := by
  have bareFront : '=' ∉ Text.stripLeft head := fun member =>
    bare ((List.dropWhile_sublist _).subset member)
  have right : Text.stripRight ('=' :: rest) = '=' :: Text.stripRight rest :=
    Text.stripRight_cons (by decide) rest
  rw [ofLine?, Text.strip_append_cons (by decide), right]
  exact ofStripped?_append_doubled bareFront _

end Assignment

end DryRun
