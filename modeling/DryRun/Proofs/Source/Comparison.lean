import DryRun.Proofs.Source.Idiom
import DryRun.Proofs.Source.Sides

/-!
# Comparisons and assignments

A line whose equals signs all belong to comparison operators is not meant to assign anything. Its
first equals sign is then doubled, which makes no assignment, or it stands behind an exclamation
mark or an angle bracket (`Text.exists_comparison`). None of these three may stand in a name or in
a type of one word, so what is in front of the sign can only bind a name by a colon and a type
behind it. An angle bracket may stand in such a type, as in `List<int>`, an exclamation mark may not
(`Head.name?_operator`).

So a comparison is taken for an assignment exactly where an angle bracket closes what can be read as
a type behind a name and a colon (`ofLine?_comparison_iff`), as it does in `lambda x: x <= 5`.
-/

set_option autoImplicit false

namespace DryRun

/-! ## Comparison operators -/

namespace Text

/-- The comparison operators that are written with an equals sign. -/
def comparisons : List Text := ["==", "!=", "<=", ">="].map String.toList

/-- What is left of a text when the comparison operators are taken out of it, from the left. -/
def withoutComparisons : Text → Text
  | [] => []
  | [c] => [c]
  | c :: d :: rest =>
    if [c, d] ∈ comparisons then withoutComparisons rest
    else c :: withoutComparisons (d :: rest)

/-- The first equals sign of a text that has none but in comparisons ends an operator or is
doubled. -/
theorem exists_comparison {line : Text} (compares : '=' ∉ withoutComparisons line)
    (sign : '=' ∈ line) :
    ∃ head side, '=' ∉ head ∧ (line = head ++ '=' :: '=' :: side ∨
      ∃ operator ∈ ['!', '<', '>'], line = head ++ operator :: '=' :: side) := by
  fun_induction withoutComparisons line with
  | case1 => simp at sign
  | case2 c => exact absurd sign compares
  | case3 c d rest known ih =>
    refine ⟨[], rest, List.not_mem_nil, ?_⟩
    have cases : (c = '=' ∨ c = '!' ∨ c = '<' ∨ c = '>') ∧ d = '=' := by
      simpa [comparisons, ← or_and_right] using known
    obtain ⟨rfl | operator, rfl⟩ := cases
    · exact .inl rfl
    · exact .inr ⟨c, by simpa using operator, rfl⟩
  | case4 c d rest other ih =>
    obtain ⟨first, left⟩ : '=' ≠ c ∧ '=' ∉ withoutComparisons (d :: rest) := by
      simpa using compares
    have later : '=' ∈ d :: rest := (List.mem_cons.mp sign).resolve_left first
    obtain ⟨head, side, bare, shape⟩ := ih left later
    refine ⟨c :: head, side, ?_, ?_⟩
    · simpa [bare] using first
    · rcases shape with whole | ⟨operator, known, whole⟩
      · exact .inl (by rw [whole, List.cons_append])
      · exact .inr ⟨operator, known, by rw [whole, List.cons_append]⟩

/-- The last word of a text that does not end in a blank ends as the text does. -/
theorem exists_words_concat {c : Char} (solid : isBlank c = false) (s : Text) :
    ∃ front word, words (s ++ [c]) = front ++ [word ++ [c]] := by
  have last : ∀ d ∈ s.reverse.takeWhile (!isBlank ·), isBlank d = false := fun d member => by
    simpa using List.mem_takeWhile_imp member
  have whole : s = (s.reverse.dropWhile (!isBlank ·)).reverse ++
      (s.reverse.takeWhile (!isBlank ·)).reverse := by
    rw [← List.reverse_append, List.takeWhile_append_dropWhile, List.reverse_reverse]
  generalize wordEnd : (s.reverse.takeWhile (!isBlank ·)).reverse = word at whole
  have one : words (word ++ [c]) = [word ++ [c]] := by
    refine words_of_solid (by simp) fun d member => ?_
    rcases List.mem_append.mp member with inside | final
    · exact last d (List.mem_reverse.mp (wordEnd ▸ inside))
    · rw [List.mem_singleton.mp final, solid]
  cases before : s.reverse.dropWhile (!isBlank ·) with
  | nil =>
    rw [before, List.reverse_nil, List.nil_append] at whole
    exact ⟨[], word, by rw [whole, one, List.nil_append]⟩
  | cons blank rest =>
    have isBlank : isBlank blank = true := by
      simpa [before] using List.head?_dropWhile_not (!isBlank ·) s.reverse
    rw [before, List.reverse_cons, List.append_assoc, List.singleton_append] at whole
    refine ⟨words rest.reverse, word, ?_⟩
    rw [whole, List.append_assoc, List.cons_append, words_append_blank isBlank, one]

end Text

/-! ## Heads that end in an operator -/

namespace Head

/-- A word with a name in it has no characters but word characters and marks. -/
theorem isWordChar_or_mem_of_markedName? {word name : Text} (marked : markedName? word = some name)
    {c : Char} (member : c ∈ word) : Text.isWordChar c = true ∨ c ∈ ['&', '*', '$'] := by
  unfold markedName? at marked
  rw [Option.ite_none_right_eq_some, Option.some.injEq] at marked
  obtain ⟨isName, -⟩ := marked
  rw [← List.takeWhile_append_dropWhile (p := fun c => c == '&' || c == '*') (l := word)] at member
  rcases List.mem_append.mp member with mark | inside
  · have isMark := List.mem_takeWhile_imp mark
    simp only [Bool.or_eq_true, beq_iff_eq] at isMark
    exact .inr (by rcases isMark with rfl | rfl <;> decide)
  · rcases mem_of_isName isName inside with rfl | word
    · exact .inr (by decide)
    · exact .inl word

/-- A character that is no colon can be put at the end after the text is cut. -/
theorem splitLastColon?_concat {c : Char} (noColon : c ≠ ':') (s : Text) :
    splitLastColon? (s ++ [c]) = (splitLastColon? s).map fun (before, after) =>
      (before, after ++ [c]) := by
  have other : (c != ':') = true := bne_iff_ne.mpr noColon
  unfold splitLastColon?
  simp only [List.reverse_concat, List.dropWhile_cons, List.takeWhile_cons, other, if_true]
  cases s.reverse.dropWhile (· != ':') with
  | nil => rfl
  | cons colon before => simp

/-- A type has no other characters than blanks in front and those of types. -/
theorem not_mem_of_typed {type : Text} (typed : ∀ c ∈ Text.stripLeft type, isTypeChar c = true)
    {c : Char} (other : (Text.isBlank c || isTypeChar c) = false) : c ∉ type := by
  intro member
  rw [Bool.or_eq_false_iff] at other
  obtain ⟨left, blanks, whole⟩ := Text.exists_blanks_append type
  rw [← whole] at member
  rcases List.mem_append.mp member with blank | inside
  · simp [blanks c blank] at other
  · simp [typed c inside] at other

section Operator

variable {operator : Char} (known : operator ∈ ['!', '<', '>'])

include known

/-- The operator is not blank. -/
theorem isBlank_operator : Text.isBlank operator = false := by
  have all : ∀ c ∈ ['!', '<', '>'], Text.isBlank c = false := by decide
  exact all operator known

/-- A text is a type up to its final operator if this is an angle bracket. -/
theorem isAnnotation_concat (type : Text) :
    isAnnotation (type ++ [operator]) = true ↔
      (operator = '<' ∨ operator = '>') ∧ ∀ c ∈ Text.stripLeft type, isTypeChar c = true := by
  have stripped : Text.strip (type ++ [operator]) = Text.stripLeft type ++ [operator] :=
    Text.strip_append_cons (isBlank_operator known) type []
  have bracket : isTypeChar operator = true ↔ operator = '<' ∨ operator = '>' := by
    have all : ∀ c ∈ ['!', '<', '>'], isTypeChar c = true ↔ c = '<' ∨ c = '>' := by decide
    exact all operator known
  simp [ isAnnotation, stripped, bracket, and_comm]

/-- What ends in the operator declares no name with a type. -/
theorem typedName?_operator (s : Text) : typedName? (s ++ [operator]) = none := by
  obtain ⟨front, word, cut⟩ := Text.exists_words_concat (isBlank_operator known) s
  have noType : isPlainType (word ++ [operator]) = false := by
    have all : ∀ c ∈ ['!', '<', '>'],
        (Text.isWordChar c || "[]*.".toList.contains c) = false := by decide
    simp only [isPlainType, List.all_append, List.all_cons, all operator known, Bool.false_and,
      Bool.and_false]
  unfold typedName?
  rw [cut]
  split
  case h_1 keyword name type same =>
    have last : type = word ++ [operator] := by
      have same' : front ++ [word ++ [operator]] = [keyword, name] ++ [type] := same
      exact (List.cons.inj (List.append_inj' same' rfl).2).1.symm
    simp [last, noType]
  case h_2 => rfl

/-- What ends in the operator ends in no name. -/
theorem lastName?_operator (s : Text) : lastName? (Text.words (s ++ [operator])) = none := by
  obtain ⟨front, word, cut⟩ := Text.exists_words_concat (isBlank_operator known) s
  have noName : markedName? (word ++ [operator]) = none := by
    rw [Option.eq_none_iff_forall_ne_some]
    intro name marked
    have all : ∀ c ∈ ['!', '<', '>'], ¬ (Text.isWordChar c = true ∨ c ∈ ['&', '*', '$']) := by
      decide
    exact all operator known (isWordChar_or_mem_of_markedName? marked (by simp))
  simp [lastName?, cut, noName]

/-- A head that ends in an operator binds a name only by a type that the operator closes. -/
theorem name?_operator {s name : Text} :
    name? (s ++ [operator]) = some name ↔
      ∃ before type, s = before ++ ':' :: type ∧ lastName? (Text.words before) = some name ∧
        (operator = '<' ∨ operator = '>') ∧ ∀ c ∈ Text.stripLeft type, isTypeChar c = true := by
  have noColon : operator ≠ ':' := ne_of_mem_of_not_mem known (by decide)
  have kept : dropFinalColon (s ++ [operator]) = s ++ [operator] := by
    simp [dropFinalColon, noColon]
  have declared : name? (s ++ [operator]) = declaredName? (s ++ [operator]) := by
    rw [name?, typedName?_operator known, kept, Option.none_or]
  rw [declared, declaredName?, lastName?_operator known, splitLastColon?_concat noColon]
  simp only
  constructor
  · intro named
    cases split : splitLastColon? s with
    | none => simp [split] at named
    | some parts =>
      obtain ⟨before, type⟩ := parts
      simp only [split, Option.map_some, Option.ite_none_right_eq_some] at named
      obtain ⟨bracket, typed⟩ := (isAnnotation_concat known type).mp named.1
      have whole := (splitLastColon?_eq_some_iff.mp split).1
      exact ⟨before, type, whole, named.2, bracket, typed⟩
  · rintro ⟨before, type, rfl, named, bracket, typed⟩
    have split := splitLastColon?_append before (not_mem_of_typed typed (c := ':') (by decide))
    have annotation := (isAnnotation_concat known type).mpr ⟨bracket, typed⟩
    simp only [split, Option.map_some, annotation, if_true, named]

end Operator

end Head

/-! ## Lines -/

namespace Assignment

/-- What stands before an equals sign is read as a name and its type, the colon between them and an
angle bracket at the end of the type left out. -/
structure Annotates (before type : Text) (angle : Char) (name : Text) : Prop where
  plain : isComment (Text.stripLeft before) = false
  named : Head.lastName? (Text.words before) = some name
  bracket : angle = '<' ∨ angle = '>'
  typed : ∀ c ∈ Text.stripLeft type, Head.isTypeChar c = true

/-- The angle of an annotation is the first character of a comparison. -/
theorem Annotates.operator {before type name : Text} {angle : Char}
    (annotates : Annotates before type angle name) : angle ∈ ['!', '<', '>'] := by
  simp [annotates.bracket]

/-- An annotation brings no equals sign into the head. -/
theorem Annotates.not_mem_head {before type name : Text} {angle : Char}
    (annotates : Annotates before type angle name) (bare : '=' ∉ before) :
    '=' ∉ before ++ ':' :: type ++ [angle] := by
  have noSign : angle ≠ '=' := ne_of_mem_of_not_mem annotates.operator (by decide)
  have bareType : '=' ∉ type := Head.not_mem_of_typed annotates.typed (by decide)
  simp [bare, bareType, noSign.symm]

/-- A head that ends in the operator binds a name exactly if the operator ends an annotation. -/
theorem boundName?_operator {operator : Char} (known : operator ∈ ['!', '<', '>'])
    {head name : Text} :
    boundName? (head ++ [operator]) = some name ↔
      ∃ before type, head = before ++ ':' :: type ∧ Annotates before type operator name := by
  have atColon (before type : Text) :
      Text.stripLeft (before ++ ':' :: type) = Text.stripLeft before ++ ':' :: type :=
    Text.stripLeft_append_cons (by decide) before type
  have comment (before type : Text) :
      isComment (before ++ ':' :: type ++ [operator]) = isComment before := by
    rw [List.append_assoc, List.cons_append]
    exact isComment_append_cons (by decide) before _
  unfold boundName?
  rw [Text.stripLeft_append_cons (Head.isBlank_operator known), Option.ite_none_left_eq_some,
    Head.name?_operator known, Bool.not_eq_true]
  constructor
  · rintro ⟨plain, front, type, cut, named, bracket, typed⟩
    obtain ⟨left, -, whole⟩ := Text.exists_blanks_append head
    rw [cut, ← List.append_assoc] at whole
    have stripped : Text.stripLeft (left ++ front) = front := by
      rw [← whole, atColon] at cut
      exact List.append_cancel_right cut
    refine ⟨left ++ front, type, whole.symm, ?_, ?_, bracket, typed⟩
    · rwa [stripped, ← comment front type, ← cut]
    · rwa [← Text.words_stripLeft, stripped]
  · rintro ⟨before, type, rfl, annotates⟩
    rw [atColon, comment]
    refine ⟨annotates.plain, Text.stripLeft before, type, rfl, ?_, annotates.bracket,
      annotates.typed⟩
    rw [Text.words_stripLeft, annotates.named]

/-- A line is read as the declaration of a name with a type and a value, the type being closed by
the angle bracket right before the equals sign. -/
inductive DeclaresByAngle : Text → Assignment → Prop where
  | intro {before type side : Text} {angle : Char} {a : Assignment}
      (annotates : Annotates before type angle a.name) (bare : '=' ∉ before)
      (single : side.head? ≠ some '=') (valued : RightHandSide.value? side = some a.value) :
      DeclaresByAngle (before ++ ':' :: type ++ angle :: '=' :: side) a

/-- A line that declares by an angle is read as the assignment. -/
theorem ofLine?_of_declaresByAngle {line : Text} {a : Assignment}
    (declares : DeclaresByAngle line a) : ofLine? line = some a := by
  cases declares with
  | @intro before type side angle _ annotates bare single valued =>
    have bound := (boundName?_operator annotates.operator).mpr ⟨before, type, rfl, annotates⟩
    rw [List.append_cons, ofLine?_append_single (annotates.not_mem_head bare) single, bound,
      valued]
    rfl

/-- A line of comparisons that is read as an assignment declares by an angle. -/
theorem declaresByAngle_of_comparison {line : Text} {a : Assignment}
    (compares : '=' ∉ Text.withoutComparisons line) (assigned : ofLine? line = some a) :
    DeclaresByAngle line a := by
  have sign : '=' ∈ line := by
    by_contra none
    simp [ofLine?_of_no_sign none] at assigned
  obtain ⟨head, side, bare, rfl | ⟨operator, known, rfl⟩⟩ := Text.exists_comparison compares sign
  · simp [ofLine?_append_doubled bare] at assigned
  · have noSign : operator ≠ '=' := ne_of_mem_of_not_mem known (by decide)
    have bareHead : '=' ∉ head ++ [operator] := by simp [bare, noSign.symm]
    rw [List.append_cons] at assigned
    by_cases doubled : side.head? = some '='
    · obtain ⟨rest, rfl⟩ := List.head?_eq_some_iff.mp doubled
      rw [ofLine?_append_doubled bareHead] at assigned
      cases assigned
    · rw [ofLine?_append_single bareHead doubled] at assigned
      obtain ⟨name, bound, made⟩ := Option.bind_eq_some_iff.mp assigned
      obtain ⟨value, valued, rfl⟩ := Option.map_eq_some_iff.mp made
      obtain ⟨before, type, rfl, annotates⟩ := (boundName?_operator known).mp bound
      exact .intro annotates (fun member => bare (List.mem_append_left _ member)) doubled valued

/-- **Comparisons.** Let no equals sign be left in a line when the comparison operators are taken
out of it from the left. The line is an assignment exactly if an angle bracket right before its
first equals sign closes what is read as a type behind a name and a colon; and only then does it
ever change what is bound. -/
theorem ofLine?_comparison_iff {line : Text} (compares : '=' ∉ Text.withoutComparisons line) :
    (∀ a, ofLine? line = some a ↔ DeclaresByAngle line a) ∧
      ((∀ table, Bindings.readLine table line = table) ↔ ∀ a, ¬ DeclaresByAngle line a) := by
  have assigns (a : Assignment) : ofLine? line = some a ↔ DeclaresByAngle line a :=
    ⟨declaresByAngle_of_comparison compares, ofLine?_of_declaresByAngle⟩
  refine ⟨assigns, ?_⟩
  simp only [← assigns, ← ne_eq, ← Option.eq_none_iff_forall_ne_some]
  constructor
  · intro kept
    have first := kept []
    unfold Bindings.readLine at first
    split at first
    · cases first
    · assumption
  · intro none table
    simp [Bindings.readLine, none]

/-- A colon behind the comparison does no harm. -/
theorem ofLine?_comparison_condition :
    '=' ∉ Text.withoutComparisons "if total <= limit:".toList ∧
      ofLine? "if total <= limit:".toList = none ∧
      Bindings.readLine [("total".toList, "7".toList)] "if total <= limit:".toList =
        [("total".toList, "7".toList)] := by
  have compares : '=' ∉ Text.withoutComparisons "if total <= limit:".toList := by decide
  obtain ⟨assigns, keeps⟩ := ofLine?_comparison_iff compares
  have undeclared (a : Assignment) : ¬ DeclaresByAngle "if total <= limit:".toList a := by
    generalize text : "if total <= limit:".toList = line
    rintro ⟨annotates, bare, -, -⟩
    have head := congrArg (List.takeWhile (· != '=')) text
    rw [List.append_cons, takeWhile_sign (annotates.not_mem_head bare)] at head
    have noColon : ':' ∉ "if total <= limit:".toList.takeWhile (· != '=') := by decide
    rw [head] at noColon
    simp at noColon
  refine ⟨compares, ?_, keeps.mpr undeclared _⟩
  rw [Option.eq_none_iff_forall_ne_some]
  intro a assigned
  exact undeclared a ((assigns a).mp assigned)

/-- A parameter and a comparison with it look like a name and its type. -/
theorem ofLine?_comparison_lambda :
    '=' ∉ Text.withoutComparisons "lambda x: x <= 5".toList ∧
      ofLine? "lambda x: x <= 5".toList = some ⟨"x".toList, "5".toList⟩ := by
  decide +kernel

end Assignment

end DryRun
