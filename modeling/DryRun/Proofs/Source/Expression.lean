import DryRun.Proofs.Source.Literal
import DryRun.Proofs.Source.RoundTrip
import DryRun.Proofs.Source.Sides

/-!
# Expressions

An expression of several operands is neither a quoted text nor a name, so it should be passed on as
it is written, by the resolution of an argument as well as by an assignment. But both tell a quoted
text by its first and its last character only, and these may belong to two operands. The two ends of
an expression are those of its first and its last operand (`Expression.exists_ends`), so an
expression is kept exactly if these are not quoted with the same mark
(`Expression.kept_iff`). Otherwise each reading takes off the two outer marks.

Whatever else stands in the operands does not matter, but for a line feed, which no right-hand side
may have.
-/

set_option autoImplicit false

namespace DryRun

/-- The ten digits are word characters. -/
theorem Text.isWordChar_of_isAsciiDigit {c : Char} (digit : isAsciiDigit c = true) :
    isWordChar c = true := by
  have ascii : c.toNat < 128 := by
    simp only [isAsciiDigit, Bool.and_eq_true, decide_eq_true_eq, Char.le_def,
      UInt32.le_iff_toNat_le] at digit
    exact Nat.lt_of_le_of_lt digit.2 (by decide)
  simp [isWordChar, ascii, digit]

namespace Expression

/-- Whether a character may stand in a name: word characters of any script and dollar signs. -/
def isNameChar (c : Char) : Bool := Text.isWordChar c || c == '$'

/-- Whether a character may stand in a number. -/
def isNumberChar (c : Char) : Bool := Text.isWordChar c || ['.', '+', '-'].contains c

/-- Whether a text is a number: a digit, a point or a sign first, then characters of numbers, as in
`-2.5e+3` and `0xFF`. -/
def isNumber : Text → Bool
  | [] => false
  | c :: rest => (Text.isAsciiDigit c || ['.', '+', '-'].contains c) && rest.all isNumberChar

/-- A number, a name, or a text without quote marks between two of them. -/
inductive Operand where
  | number (s : Text) (isNumber : isNumber s = true)
  | name (s : Text) (nonempty : s ≠ []) (spelled : ∀ c ∈ s, isNameChar c = true)
  | quoted (mark : Char) (inner : Text) (known : mark ∈ Text.quoteMarks)
    (unmarked : ∀ c ∈ inner, c ∉ Text.quoteMarks)

namespace Operand

def text : Operand → Text
  | number s _ => s
  | name s _ _ => s
  | quoted mark inner _ _ => mark :: inner ++ [mark]

/-- The mark that an operand is quoted with. -/
def mark? : Operand → Option Char
  | quoted mark .. => some mark
  | _ => none

end Operand

/-- A comma or a plus sign with blanks around it. -/
structure Joint where
  before : Text
  sign : Char
  after : Text
  known : sign = ',' ∨ sign = '+'
  blanks : ∀ c ∈ before ++ after, Text.isBlank c = true

def Joint.text (joint : Joint) : Text := joint.before ++ joint.sign :: joint.after

end Expression

/-- Two or more operands that are joined by commas and plus signs. -/
structure Expression where
  first : Expression.Operand
  others : List (Expression.Joint × Expression.Operand)
  several : others ≠ []

namespace Expression

/-- An operand with what joins it to those before it. -/
def partText (part : Joint × Operand) : Text := part.1.text ++ part.2.text

/-- What stands behind the first operand. -/
def rest (e : Expression) : Text := e.others.flatMap partText

def text (e : Expression) : Text := e.first.text ++ e.rest

def last (e : Expression) : Operand := (e.others.getLast e.several).2

/-- The first and the last operand are quoted with the same mark. -/
def Enclosed (e : Expression) : Prop := e.first.mark?.isSome ∧ e.first.mark? = e.last.mark?

instance (e : Expression) : Decidable e.Enclosed := inferInstanceAs (Decidable (_ ∧ _))

/-- What is made of an expression: an enclosed one loses its two outer marks. -/
def read (e : Expression) : Text := if e.Enclosed then e.text.tail.dropLast else e.text

/-! ## The ends of an expression -/

/-- A character at an end of an operand: it is neither stripped off nor taken for an equals sign or
the end of a statement, and it is a quote mark only if the operand is quoted with it. -/
structure Operand.EndsWith (operand : Operand) (c : Char) : Prop where
  solid : Text.isBlank c = false
  noSign : c ≠ '='
  noSemicolon : c ≠ ';'
  marked : operand.mark? = if c ∈ Text.quoteMarks then some c else none

/-- The characters of numbers and names. -/
def isPlainChar (c : Char) : Bool := isNameChar c || isNumberChar c

/-- No blank is a character of a number or a name. -/
theorem isPlainChar_of_isBlank {c : Char} (blank : Text.isBlank c = true) :
    isPlainChar c = false :=
  Text.of_isBlank (p := (isPlainChar · = false)) (by decide +kernel) blank

/-- Numbers consist of plain characters. -/
theorem isPlainChar_of_mem_number {s : Text} (number : isNumber s = true) :
    ∀ c ∈ s, isPlainChar c = true := by
  cases s with
  | nil => cases number
  | cons c rest =>
    rw [isNumber, Bool.and_eq_true] at number
    obtain ⟨start, others⟩ := number
    have first : isNumberChar c = true := by
      rw [isNumberChar, Bool.or_eq_true]
      exact (Bool.or_eq_true_iff.mp start).imp_left Text.isWordChar_of_isAsciiDigit
    intro d member
    have inside : isNumberChar d = true := by
      rcases List.mem_cons.mp member with rfl | member
      · exact first
      · exact List.all_eq_true.mp others d member
    simp [isPlainChar, inside]

namespace Operand

/-- A plain character may stand at the end of an operand without quote marks. -/
theorem endsWith_of_plain {operand : Operand} (unquoted : operand.mark? = none) {c : Char}
    (plain : isPlainChar c = true) : operand.EndsWith c := by
  have apart (d : Char) (other : isPlainChar d = false) : c ≠ d := by
    rintro rfl
    simp [plain] at other
  refine ⟨?_, apart '=' (by decide), apart ';' (by decide), ?_⟩
  · rw [Bool.eq_false_iff]
    intro blank
    simp [isPlainChar_of_isBlank blank] at plain
  · have none : c ∉ Text.quoteMarks := fun member => by
      have off := Text.forall_mem_of_all (p := isPlainChar) (b := false) (by decide) c member
      simp [plain] at off
    rw [unquoted, if_neg none]

/-- A quoted operand ends with its mark. -/
theorem endsWith_of_quoted {mark : Char} (known : mark ∈ Text.quoteMarks) (inner : Text)
    (unmarked : ∀ c ∈ inner, c ∉ Text.quoteMarks) :
    (quoted mark inner known unmarked).EndsWith mark :=
  ⟨isBlank_of_mark known, ne_of_mem_of_not_mem known (by decide),
    ne_of_mem_of_not_mem known (by decide), (if_pos known).symm⟩

/-- No operand is empty. -/
theorem text_ne_nil (operand : Operand) : operand.text ≠ [] := by
  cases operand with
  | number s number =>
    rintro rfl
    cases number
  | name s nonempty spelled => exact nonempty
  | quoted mark inner known unmarked => exact List.cons_ne_nil mark _

/-- The first and the last character of an operand are such. -/
theorem endsWith_of_edge {operand : Operand} {c : Char}
    (edge : operand.text.head? = some c ∨ operand.text.getLast? = some c) :
    operand.EndsWith c := by
  have member : c ∈ operand.text := edge.elim List.mem_of_head? List.mem_of_getLast?
  cases operand with
  | number s number => exact endsWith_of_plain rfl (isPlainChar_of_mem_number number c member)
  | name s nonempty spelled =>
    exact endsWith_of_plain rfl (by simp [isPlainChar, spelled c member])
  | quoted mark inner known unmarked =>
    obtain rfl : c = mark := by
      rcases edge with first | last
      · exact (Option.some.inj first).symm
      · rw [text, List.getLast?_concat] at last
        exact (Option.some.inj last).symm
    exact endsWith_of_quoted known inner unmarked

end Operand

variable (e : Expression)

/-- The last operand ends an expression. -/
theorem getLast?_rest : e.rest.getLast? = e.last.text.getLast? := by
  have parts : e.rest = e.others.dropLast.flatMap partText ++
      (e.others.getLast e.several).1.text ++ e.last.text := by
    calc e.rest = (e.others.dropLast ++ [e.others.getLast e.several]).flatMap partText := by
          rw [List.dropLast_concat_getLast, rest]
      _ = _ := by simp [partText, last]
  rw [parts, List.getLast?_append, List.getLast?_eq_some_getLast e.last.text_ne_nil]
  rfl

/-- The ends of an expression are those of its first and its last operand. -/
theorem exists_ends :
    ∃ c d inner, e.text = c :: inner ++ [d] ∧ e.first.EndsWith c ∧ e.last.EndsWith d := by
  obtain ⟨c, u, start⟩ := List.exists_cons_of_ne_nil e.first.text_ne_nil
  obtain ⟨d, final⟩ : ∃ d, e.last.text.getLast? = some d :=
    ⟨_, List.getLast?_eq_some_getLast e.last.text_ne_nil⟩
  obtain ⟨v, behind⟩ := List.getLast?_eq_some_iff.mp (e.getLast?_rest.trans final)
  refine ⟨c, d, u ++ v, ?_, ?_, ?_⟩
  · simp [text, start, behind]
  · exact Operand.endsWith_of_edge (.inl (by rw [start]; rfl))
  · exact Operand.endsWith_of_edge (.inr final)

/-- An expression is taken for a quoted text if it is enclosed. -/
theorem between?_text :
    Text.between? Text.quoteMarks e.text =
      if e.Enclosed then some e.text.tail.dropLast else none := by
  obtain ⟨c, d, inner, whole, first, last⟩ := e.exists_ends
  have enclosed : e.Enclosed ↔ c ∈ Text.quoteMarks ∧ d = c := by
    unfold Enclosed
    rw [first.marked, last.marked]
    by_cases known : c ∈ Text.quoteMarks
    · by_cases same : d = c
      · simp [known, same]
      · by_cases other : d ∈ Text.quoteMarks
        · simp [known, same, other, Ne.symm same]
        · simp [known, same, other]
    · simp [known]
  rw [whole]
  by_cases same : e.Enclosed
  · obtain ⟨known, rfl⟩ := enclosed.mp same
    rw [if_pos same, Text.between?_eq_some_iff]
    exact ⟨d, known, by simp⟩
  · rw [if_neg same, Option.eq_none_iff_forall_ne_some]
    intro x found
    obtain ⟨mark, known, ends⟩ := Text.between?_eq_some_iff.mp found
    obtain ⟨rfl, behind⟩ := List.cons.inj ends
    refine same (enclosed.mpr ⟨known, ?_⟩)
    simpa using (List.append_inj' behind rfl).2

/-! ## Written expressions -/

/-- A text is written with blanks around it and perhaps a semicolon behind it. -/
inductive Writes (core : Text) : Text → Prop
  | bare {left right : Text} (blanks : ∀ c ∈ left ++ right, Text.isBlank c = true) :
    Writes core (left ++ core ++ right)
  | ended {left middle right : Text}
    (blanks : ∀ c ∈ left ++ middle ++ right, Text.isBlank c = true) :
    Writes core (left ++ core ++ (middle ++ ';' :: right))

variable {e} {written : Text} (writes : Writes e.text written)

include writes

/-- The blanks and the semicolon are taken off. -/
theorem dropSemicolon_strip_written :
    RightHandSide.dropSemicolon (Text.strip written) = e.text := by
  obtain ⟨c, d, inner, whole, first, last⟩ := e.exists_ends
  have nonempty : e.text ≠ [] := by simp [whole]
  have final : e.text.getLast? = some d := by rw [whole, List.getLast?_concat]
  have stripped : Text.IsStripped e.text :=
    ⟨by simpa [whole] using first.solid, by simpa [final] using last.solid⟩
  have nothing {left : Text} (blanks : ∀ x ∈ left, Text.isBlank x = true) :
      Text.stripLeft left = [] := List.dropWhile_eq_nil_iff.mpr blanks
  cases writes with
  | bare blanks =>
    obtain ⟨before, behind⟩ := List.forall_mem_append.mp blanks
    rw [stripped.strip_append_append nonempty, nothing before,
      Text.stripRight_of_blanks behind, List.nil_append, List.append_nil]
    exact RightHandSide.dropSemicolon_eq_self (by simpa [final] using last.noSemicolon)
  | @ended left middle right blanks =>
    obtain ⟨outer, behind⟩ := List.forall_mem_append.mp blanks
    obtain ⟨before, between⟩ := List.forall_mem_append.mp outer
    rw [stripped.strip_append_append nonempty, nothing before,
      Text.stripRight_append_cons (by decide), Text.stripRight_of_blanks behind, List.nil_append,
      ← List.append_assoc, RightHandSide.dropSemicolon_concat,
      Text.stripRight_append_blanks between, Text.stripRight_eq_self stripped.last]

omit writes in
/-- An expression loses its outer marks if it is enclosed, and nothing else. -/
theorem stripQuotes_text (e : Expression) : Text.stripQuotes e.text = e.read := by
  rw [Text.stripQuotes, between?_text, read]
  split
  · rfl
  · rfl

omit writes in
/-- The sign between two operands stands in no name. -/
theorem get?_text (e : Expression) {table : Bindings}
    (names : ∀ entry ∈ table, ∀ c ∈ entry.1, isNameChar c = true) :
    Record.get? table e.text = none := by
  obtain ⟨⟨joint, operand⟩, others, several⟩ := List.exists_cons_of_ne_nil e.several
  have inside : joint.sign ∈ e.text := by simp [text, rest, several, partText, Joint.text]
  have other : isNameChar joint.sign = false := by
    rcases joint.known with comma | plus
    · rw [comma]
      decide
    · rw [plus]
      decide
  refine List.lookup_eq_none_iff.mpr fun entry member => bne_iff_ne.mpr fun same => ?_
  simp [names entry member joint.sign (same ▸ inside)] at other

/-- As an argument an expression stands for what is made of it. -/
theorem resolve_written {table : Bindings}
    (names : ∀ entry ∈ table, ∀ c ∈ entry.1, isNameChar c = true) :
    Prediction.resolve table written = e.read := by
  rw [Prediction.resolve, dropSemicolon_strip_written writes, get?_text e names, ← stripQuotes_text]
  unfold Text.stripQuotes
  cases Text.between? Text.quoteMarks e.text with
  | none => rfl
  | some inner => rfl

/-- As a right-hand side on one line an expression has the value that is made of it. -/
theorem value?_written :
    RightHandSide.value? written = if '\n' ∈ e.text then none else some e.read := by
  obtain ⟨c, d, inner, whole, -, last⟩ := e.exists_ends
  have bare : RightHandSide.dropSemicolon e.text = e.text := by
    refine RightHandSide.dropSemicolon_eq_self ?_
    rw [whole, List.getLast?_concat]
    simpa using last.noSemicolon
  rw [RightHandSide.value?, dropSemicolon_strip_written writes, bare, stripQuotes_text]
  simp only [List.contains_iff_mem]

/-- A written expression does not begin with an equals sign. -/
theorem head?_written : written.head? ≠ some '=' := by
  obtain ⟨c, d, inner, whole, first, -⟩ := e.exists_ends
  have either {left right : Text} (blanks : ∀ x ∈ left, Text.isBlank x = true) :
      (left ++ e.text ++ right).head? ≠ some '=' := by
    cases left with
    | nil => simpa [whole] using first.noSign
    | cons x left =>
      rintro ⟨rfl⟩
      exact absurd (blanks '=' List.mem_cons_self) (by decide)
  cases writes with
  | bare blanks => exact either fun x member => blanks x (by simp [member])
  | ended blanks => exact either fun x member => blanks x (by simp [member])

end Expression

/-! ## Assignments to a name -/

namespace Head

/-- A name alone, with blanks behind it, is the name that is bound. -/
theorem name?_blanks {x gap : Text} (named : isName x = true)
    (blanks : ∀ c ∈ gap, Text.isBlank c = true) : name? (x ++ gap) = some x := by
  have single : Text.words x = [x] :=
    Text.words_of_solid (ne_nil_of_isName named) (solid_of_isName named)
  have cut : Text.words (x ++ gap) = [] ++ [x] := by
    cases gap with
    | nil => rw [List.append_nil, single, List.nil_append]
    | cons d gap =>
      obtain ⟨blank, others⟩ := List.forall_mem_cons.mp blanks
      rw [Text.words_append_blank blank, single, Text.words_of_blanks others]
      rfl
  have noColon : (x ++ gap).getLast? ≠ some ':' := by
    intro last
    rcases List.mem_append.mp (List.mem_of_getLast? last) with inside | blank
    · exact not_mem_of_isName named (by decide) (by decide) inside
    · exact absurd (blanks ':' blank) (by decide)
  have undropped : dropFinalColon (x ++ gap) = x ++ gap := if_neg (mt beq_iff_eq.mp noColon)
  have untyped : typedName? (x ++ gap) = none :=
    typedName?_of_length_ne (by simp [cut])
  rw [name?, untyped, undropped, Option.none_or]
  exact declaredName?_of_words cut (by rfl) (markedName?_of_isName named)

end Head

namespace Assignment

/-- A name between blanks is bound. -/
theorem boundName?_name {left x gap : Text} (named : Head.isName x = true)
    (blanks : ∀ c ∈ left ++ gap, Text.isBlank c = true) :
    boundName? (left ++ x ++ gap) = some x := by
  obtain ⟨before, behind⟩ := List.forall_mem_append.mp blanks
  obtain ⟨c, u, rfl⟩ := List.exists_cons_of_ne_nil (Head.ne_nil_of_isName named)
  have solid : Text.isBlank c = false := Head.solid_of_isName named c List.mem_cons_self
  have front : Text.stripLeft (left ++ (c :: u) ++ gap) = c :: u ++ gap := by
    have nothing : Text.stripLeft left = [] := List.dropWhile_eq_nil_iff.mpr before
    rw [List.append_assoc, List.cons_append, Text.stripLeft_append_cons solid, nothing]
    rfl
  have start : c = '$' ∨ Text.isWordChar c = true := Head.mem_of_isName named List.mem_cons_self
  have plain : isComment (c :: u ++ gap) = false := Idiom.isComment_of_head start (u ++ gap)
  rw [boundName?, front, plain, if_neg Bool.false_ne_true, Head.name?_blanks named behind]

end Assignment

/-! ## Two readings of an expression -/

namespace Expression

variable (e : Expression)

/-- An expression is kept as it is unless it is enclosed. -/
theorem read_eq_text_iff : e.read = e.text ↔ ¬e.Enclosed := by
  unfold read
  split
  next enclosed =>
    refine iff_of_false (fun same => ?_) (not_not_intro enclosed)
    obtain ⟨c, d, inner, whole, -⟩ := e.exists_ends
    have lengths := congrArg List.length same
    simp [whole] at lengths
    omega
  next apart => exact iff_of_true rfl apart

/-- A line that assigns an expression binds the name to what is made of the expression. -/
theorem ofLine?_written {x left gap written : Text} (named : Head.isName x = true)
    (blanks : ∀ c ∈ left ++ gap, Text.isBlank c = true) (writes : Writes e.text written) :
    Assignment.ofLine? (left ++ x ++ gap ++ '=' :: written) =
      if '\n' ∈ e.text then none else some ⟨x, e.read⟩ := by
  have bare : '=' ∉ left ++ x ++ gap := by
    intro member
    simp only [List.mem_append] at member blanks
    rcases member with (inside | inside) | inside
    · exact absurd (blanks '=' (.inl inside)) (by decide)
    · exact Head.not_mem_of_isName named (by decide) (by decide) inside
    · exact absurd (blanks '=' (.inr inside)) (by decide)
  rw [Assignment.ofLine?_append_single bare (head?_written writes),
    Assignment.boundName?_name named blanks, value?_written writes]
  split
  · rfl
  · rfl

/-- **Expressions.** An expression of several operands is kept as it is written, as an argument and
as the text that a name is bound to, exactly if its two outermost operands are not quoted with the
same mark, and it has no line feed where it is bound. The readings agree on the others: these lose
their first and their last character. -/
theorem kept_iff {table : Bindings} (names : ∀ entry ∈ table, ∀ c ∈ entry.1, isNameChar c = true)
    {x left gap : Text} (named : Head.isName x = true)
    (blanks : ∀ c ∈ left ++ gap, Text.isBlank c = true) {written : Text}
    (writes : Writes e.text written) :
    (Prediction.resolve table written = e.text ↔ ¬e.Enclosed) ∧
      (Assignment.ofLine? (left ++ x ++ gap ++ '=' :: written) = some ⟨x, e.text⟩ ↔
        ¬e.Enclosed ∧ '\n' ∉ e.text) ∧
      (e.Enclosed → Prediction.resolve table written = e.text.tail.dropLast ∧
        ('\n' ∉ e.text → Assignment.ofLine? (left ++ x ++ gap ++ '=' :: written) =
          some ⟨x, e.text.tail.dropLast⟩)) := by
  rw [resolve_written writes names, ofLine?_written e named blanks writes, ← read_eq_text_iff]
  refine ⟨Iff.rfl, ?_, fun enclosed => ?_⟩
  · by_cases feed : '\n' ∈ e.text
    · simp [feed]
    · simp [feed]
  · have inner : e.read = e.text.tail.dropLast := if_pos enclosed
    rw [inner]
    exact ⟨rfl, fun whole => if_neg whole⟩

/-- A number, a quoted text and a name. -/
def mixed : Expression where
  first := .number "-2.5".toList (by decide)
  others := [(⟨[], ',', [' '], .inl rfl, by decide⟩,
      .quoted '\x22' "a;b".toList (by decide) (by decide)),
    (⟨[' '], '+', [], .inr rfl, by decide⟩, .name "x".toList (by decide) (by decide))]
  several := List.cons_ne_nil _ _

/-- Neither the bound name in it nor its semicolon changes a mixed expression. -/
theorem kept_iff_mixed :
    Prediction.resolve [("x".toList, "1".toList)] " -2.5, \x22a;b\x22 +x ; ".toList =
        "-2.5, \x22a;b\x22 +x".toList ∧
      Assignment.ofLine? " total  = -2.5, \x22a;b\x22 +x ; ".toList =
        some ⟨"total".toList, "-2.5, \x22a;b\x22 +x".toList⟩ := by
  have whole : mixed.text = "-2.5, \x22a;b\x22 +x".toList := by decide
  have writes : Writes mixed.text " -2.5, \x22a;b\x22 +x ; ".toList :=
    whole ▸ @Writes.ended _ [' '] [' '] [' '] (by decide)
  obtain ⟨resolved, bound, -⟩ := @kept_iff mixed [("x".toList, "1".toList)] (by decide)
    "total".toList [' '] [' ', ' '] (by decide) (by decide) _ writes
  rw [whole] at resolved bound
  have apart : ¬mixed.Enclosed := by decide
  exact ⟨resolved.mpr apart, bound.mpr ⟨apart, by decide⟩⟩

/-- Texts between the same marks at both ends are taken for one. -/
theorem kept_concatenation :
    Prediction.resolve [] "\x22a\x22 + \x22b\x22".toList = "a\x22 + \x22b".toList ∧
      Assignment.ofLine? "s = \x22a\x22 + \x22b\x22".toList =
        some ⟨"s".toList, "a\x22 + \x22b".toList⟩ := by
  decide +kernel

end Expression

end DryRun
