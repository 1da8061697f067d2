import DryRun.Text.Word
import Mathlib.Data.List.TakeWhile

/-!
# Cutting and putting together

A text cut at a separator falls into the pieces of what stands before it and the pieces of what
stands after it (`pieces_append_separator`). The words and the lines of a text that is put together
from parts follow from this one equation; `feedLines_join` is the case of a program made of lines.
A pattern without the separator does not see it either: it stands in one of the two sides
(`infix_append_cons_iff`), and at the front of the text only if it ends before the separator
(`prefix_append_cons_iff`). Blanks at the ends of a text are no part of what is left when it is
stripped.
-/

set_option autoImplicit false

namespace DryRun.Text

/-- What a test says of the characters of a text, one by one. -/
theorem forall_mem_of_all {p : Char → Bool} {b : Bool} {s : Text}
    (all : s.all (p · == b) = true) : ∀ c ∈ s, p c = b := fun c member => by
  simpa using List.all_eq_true.1 all c member

/-- What is said of the characters of a text is decided for these, not for all characters. -/
instance (priority := high) decidableForallMem {p : Char → Prop} [DecidablePred p] {s : Text} :
    Decidable (∀ c ∈ s, p c) := List.decidableBAll p s

section Patterns

variable {pattern s t : Text} {c : Char}

/-- A pattern without a character stands at the front of a text exactly if it does so in what stands
before that character. -/
theorem prefix_append_cons_iff (absent : c ∉ pattern) (s t : Text) :
    pattern <+: s ++ c :: t ↔ pattern <+: s := by
  induction pattern generalizing s with
  | nil => simp
  | cons d pattern ih =>
    have other : d ≠ c := fun same => absurd List.mem_cons_self (same ▸ absent)
    have rest := ih fun member => absent (List.mem_cons_of_mem d member)
    cases s with
    | nil => simp [other]
    | cons e s => rw [List.cons_append, List.cons_prefix_cons, List.cons_prefix_cons, rest]

/-- A pattern without a character does not reach over it. -/
theorem isPrefixOf_append_cons (absent : c ∉ pattern) (s t : Text) :
    pattern.isPrefixOf (s ++ c :: t) = pattern.isPrefixOf s := by
  rw [Bool.eq_iff_iff, List.isPrefixOf_iff_prefix, List.isPrefixOf_iff_prefix,
    prefix_append_cons_iff absent]

/-- A pattern does not stand across a character that it has not got. -/
theorem infix_append_cons_iff (some : pattern ≠ []) (absent : c ∉ pattern) :
    pattern <:+: s ++ c :: t ↔ pattern <:+: s ∨ pattern <:+: t := by
  constructor
  · intro inside
    induction s with
    | nil =>
      rcases List.infix_cons_iff.mp inside with front | later
      · have empty : pattern <+: [] := (prefix_append_cons_iff absent [] t).mp front
        exact absurd (List.prefix_nil.mp empty) some
      · exact .inr later
    | cons d s ih =>
      rcases List.infix_cons_iff.mp inside with front | later
      · exact .inl ((prefix_append_cons_iff absent (d :: s) t).mp front).isInfix
      · exact (ih later).imp_left fun here => here.trans (List.suffix_cons d s).isInfix
  · rintro (left | right)
    · exact left.trans (List.prefix_append s (c :: t)).isInfix
    · exact right.trans ((List.suffix_cons c t).isInfix.trans (List.suffix_append s _).isInfix)

end Patterns

section Pieces

variable {isSeparator : Char → Bool}

/-- A character in front of the first piece is in front of all pieces. -/
theorem consPiece_append (c : Char) {first : List Text} (some : first ≠ []) (second : List Text) :
    consPiece c (first ++ second) = consPiece c first ++ second := by
  cases first with
  | nil => exact absurd rfl some
  | cons piece pieces => rfl

/-- A text with a separator falls into the pieces on either side of it. -/
theorem pieces_append_separator {c : Char} (separator : isSeparator c = true) (s t : Text) :
    pieces isSeparator (s ++ c :: t) = pieces isSeparator s ++ pieces isSeparator t := by
  induction s with
  | nil => simp [pieces, separator]
  | cons d s ih =>
    simp only [List.cons_append, pieces, ih]
    split
    · rfl
    · exact consPiece_append d (pieces_ne_nil isSeparator s) _

/-- A text without a separator is one piece. -/
theorem pieces_of_none {s : Text} (none : ∀ c ∈ s, isSeparator c = false) :
    pieces isSeparator s = [s] := by
  induction s with
  | nil => rfl
  | cons c s ih =>
    have first := none c List.mem_cons_self
    have others := ih fun d member => none d (List.mem_cons_of_mem c member)
    simp [pieces, first, others, consPiece]

/-- Lines put together with line feeds are the lines that the text is cut into at these. -/
theorem feedLines_join {lines : List Text} (some : lines ≠ [])
    (whole : ∀ line ∈ lines, '\n' ∉ line) : feedLines (join ['\n'] lines) = lines := by
  have one (line : Text) (member : line ∈ lines) : feedLines line = [line] :=
    pieces_of_none fun c inside => beq_eq_false_iff_ne.2 fun feed =>
      whole line member (feed ▸ inside)
  clear whole
  induction lines with
  | nil => exact absurd rfl some
  | cons line rest ih =>
    cases rest with
    | nil => exact one line List.mem_cons_self
    | cons next rest =>
      have after := ih (by simp) fun other member => one other (List.mem_cons_of_mem line member)
      have first := one line List.mem_cons_self
      unfold feedLines at first after ⊢
      rw [join, List.append_assoc, List.singleton_append,
        pieces_append_separator (by rfl), first, after]
      rfl

/-- The lines of a text, cut at line feeds, are put together with line feeds to the text. -/
theorem join_feedLines (s : Text) : join ['\n'] (feedLines s) = s := by
  unfold feedLines
  induction s with
  | nil => rfl
  | cons c s ih =>
    have some := pieces_ne_nil (· == '\n') s
    rw [pieces]
    cases cut : pieces (· == '\n') s with
    | nil => exact absurd cut some
    | cons piece rest =>
      rw [cut] at ih
      split
      case isTrue feed => rw [join, ih, beq_iff_eq.1 feed]; rfl
      case isFalse =>
        cases rest with
        | nil => exact congrArg (c :: ·) ih
        | cons next rest => exact congrArg (c :: ·) ih

/-- What is found in two texts with a line feed between them exactly if it is found in one of them,
the first one first, is found line by line. -/
theorem eq_findSome?_feedLines {α : Type} {f : Text → Option α}
    (apart : ∀ s t, f (s ++ '\n' :: t) = (f s).or (f t)) (s : Text) :
    f s = (feedLines s).findSome? f := by
  have joined (first : Text) (others : List Text) :
      f (join ['\n'] (first :: others)) = (first :: others).findSome? f := by
    induction others generalizing first with
    | nil => rw [join, List.findSome?_singleton]
    | cons next others ih =>
      rw [join, List.append_assoc, List.singleton_append, apart, ih,
        List.findSome?_cons (a := first)]
      cases f first <;> rfl
  cases cut : feedLines s with
  | nil => exact absurd cut (pieces_ne_nil _ s)
  | cons first others =>
    have whole := join_feedLines s
    rw [cut] at whole
    rw [← joined, whole]

end Pieces

section Words

/-- A text with a blank falls into the words on either side of it. -/
theorem words_append_blank {c : Char} (blank : isBlank c = true) (s t : Text) :
    words (s ++ c :: t) = words s ++ words t := by
  simp [words, pieces_append_separator blank]

/-- Blanks have no words. -/
theorem words_of_blanks {s : Text} (blanks : ∀ c ∈ s, isBlank c = true) : words s = [] := by
  induction s with
  | nil => rfl
  | cons c s ih =>
    have rest := words_append_blank (blanks c List.mem_cons_self) [] s
    rw [List.nil_append] at rest
    rw [rest, ih fun d member => blanks d (List.mem_cons_of_mem c member)]
    rfl

/-- Blanks in front bring in no word. -/
theorem words_blanks_append {gap : Text} (blanks : ∀ c ∈ gap, isBlank c = true) (s : Text) :
    words (gap ++ s) = words s := by
  induction gap with
  | nil => rfl
  | cons c gap ih =>
    have first := words_append_blank (blanks c List.mem_cons_self) [] (gap ++ s)
    rw [List.nil_append] at first
    rw [List.cons_append, first, ih fun d member => blanks d (List.mem_cons_of_mem c member)]
    rfl

/-- A text is blanks and what is left without them. -/
theorem exists_blanks_append (s : Text) :
    ∃ left, (∀ c ∈ left, isBlank c = true) ∧ left ++ stripLeft s = s :=
  ⟨s.takeWhile isBlank, fun _ => List.mem_takeWhile_imp, List.takeWhile_append_dropWhile⟩

/-- Blanks in front do not matter to the words. -/
theorem words_stripLeft (s : Text) : words (stripLeft s) = words s := by
  obtain ⟨left, blanks, whole⟩ := exists_blanks_append s
  rw [← words_blanks_append blanks, whole]

/-- A text that is not empty and has no blank is one word. -/
theorem words_of_solid {s : Text} (some : s ≠ []) (solid : ∀ c ∈ s, isBlank c = false) :
    words s = [s] := by
  simp [words, pieces_of_none solid, some]

/-- Blanks at the end of a text stand in no word. -/
theorem words_append_blanks {gap : Text} (blanks : ∀ c ∈ gap, isBlank c = true) (s : Text) :
    words (s ++ gap) = words s := by
  cases gap with
  | nil => rw [List.append_nil]
  | cons c gap =>
    have others : ∀ d ∈ gap, isBlank d = true :=
      fun d member => blanks d (List.mem_cons_of_mem c member)
    rw [words_append_blank (blanks c List.mem_cons_self), words_of_blanks others, List.append_nil]

/-- The first word goes from the first character that is no blank to the next blank, and the words
behind it are those of the rest. -/
theorem words_eq_cons {s : Text} (some : stripLeft s ≠ []) :
    ∃ word rest, stripLeft s = word ++ rest ∧ word ≠ [] ∧ (∀ c ∈ word, isBlank c = false) ∧
      rest.head?.all isBlank = true ∧ words s = word :: words rest := by
  obtain ⟨c, u, first⟩ := List.exists_cons_of_ne_nil some
  have start := List.head?_dropWhile_not isBlank s
  rw [← stripLeft, first] at start
  have solid : ∀ d ∈ c :: u.takeWhile (!isBlank ·), isBlank d = false := by
    refine List.forall_mem_cons.mpr ⟨start, fun d member => ?_⟩
    simpa using List.mem_takeWhile_imp member
  have whole : stripLeft s = (c :: u.takeWhile (!isBlank ·)) ++ u.dropWhile (!isBlank ·) := by
    rw [first, List.cons_append, List.takeWhile_append_dropWhile]
  have stop := List.head?_dropWhile_not (!isBlank ·) u
  refine ⟨_, _, whole, List.cons_ne_nil c _, solid, ?_, ?_⟩
  · cases behind : u.dropWhile (!isBlank ·) with
    | nil => rfl
    | cons blank rest => simpa [behind] using stop
  · rw [← words_stripLeft, whole]
    cases behind : u.dropWhile (!isBlank ·) with
    | nil =>
      rw [List.append_nil, words_of_solid (List.cons_ne_nil c _) solid]
      rfl
    | cons blank rest =>
      rw [behind] at stop
      have blank' : isBlank blank = true := by simpa using stop
      have later : words ([blank] ++ rest) = words rest := words_blanks_append (by simpa) rest
      rw [List.singleton_append] at later
      rw [words_append_blank blank', words_of_solid (List.cons_ne_nil c _) solid, later]
      rfl

/-- The blank characters one by one. -/
def blankCodes : List Nat :=
  [9, 10, 11, 12, 13, 28, 29, 30, 31, 32, 0x85, 0xa0, 0x1680, 0x2000, 0x2001, 0x2002, 0x2003,
   0x2004, 0x2005, 0x2006, 0x2007, 0x2008, 0x2009, 0x200a, 0x2028, 0x2029, 0x202f, 0x205f, 0x3000]

/-- The codes of the blanks are listed. -/
theorem mem_blankCodes {c : Char} (blank : isBlank c = true) : c.toNat ∈ blankCodes := by
  simp only [isBlank, Bool.or_eq_true, Bool.and_eq_true, decide_eq_true_eq, beq_iff_eq] at blank
  simp only [blankCodes, List.mem_cons, List.not_mem_nil, or_false]
  omega

/-- What holds of the blank characters one by one holds of every blank. -/
theorem of_isBlank {p : Char → Prop} (all : ∀ n ∈ blankCodes, p (Char.ofNat n)) {c : Char}
    (blank : isBlank c = true) : p c := by
  rw [← Char.ofNat_toNat c]
  exact all _ (mem_blankCodes blank)

/-- No blank may stand in a word. -/
theorem isWordChar_of_isBlank {c : Char} (blank : isBlank c = true) : isWordChar c = false :=
  of_isBlank (p := (isWordChar · = false)) (by decide +kernel) blank

end Words

section Strip

/-- Blanks in front of a text are stripped with the text's own. -/
theorem strip_blanks_append {left : Text} (blanks : ∀ c ∈ left, isBlank c = true) (s : Text) :
    strip (left ++ s) = strip s := by
  simp only [strip, stripLeft, List.dropWhile_append_of_pos blanks]

/-- Blanks at the end are taken away with those before them. -/
theorem stripRight_append_blanks {right : Text} (blanks : ∀ c ∈ right, isBlank c = true)
    (s : Text) : stripRight (s ++ right) = stripRight s := by
  have reversed : ∀ c ∈ right.reverse, isBlank c = true := fun c member =>
    blanks c (List.mem_reverse.1 member)
  simp only [stripRight, dropWhileEnd, List.reverse_append,
    List.dropWhile_append_of_pos reversed]

/-- Blanks at the end do not matter to the stripped text. -/
theorem strip_append_blanks {right : Text} (blanks : ∀ c ∈ right, isBlank c = true) (s : Text) :
    strip (s ++ right) = strip s := by
  by_cases all : ∀ c ∈ s, isBlank c = true
  · have both : ∀ c ∈ s ++ right, isBlank c = true := fun c member =>
      (List.mem_append.1 member).elim (all c) (blanks c)
    simp only [strip, stripLeft, List.dropWhile_eq_nil_iff.2 both,
      List.dropWhile_eq_nil_iff.2 all]
  · have left : stripLeft s ≠ [] := fun empty => all (List.dropWhile_eq_nil_iff.1 empty)
    have kept : stripLeft (s ++ right) = stripLeft s ++ right := by
      unfold stripLeft at left ⊢
      rw [List.dropWhile_append]
      simp [left]
    rw [strip, kept, stripRight_append_blanks blanks, strip]

/-- A text that does not end in a blank is left as it is. -/
theorem stripRight_eq_self {s : Text} (last : ∀ c ∈ s.getLast?, isBlank c = false) :
    stripRight s = s := by
  rcases List.eq_nil_or_concat s with rfl | ⟨front, c, rfl⟩
  · rfl
  · have solid : isBlank c = false := last c (by simp)
    simp [stripRight, dropWhileEnd, solid]

/-- A character that is not blank stays when the end is stripped. -/
theorem stripRight_cons {c : Char} (solid : isBlank c = false) (s : Text) :
    stripRight (c :: s) = c :: stripRight s := by
  unfold stripRight dropWhileEnd
  rw [List.reverse_cons, List.dropWhile_append]
  split
  case isTrue empty => simp [List.isEmpty_iff.1 empty, solid]
  case isFalse => simp

/-- A character that is not blank stays at the front. -/
theorem strip_cons {c : Char} (solid : isBlank c = false) (s : Text) :
    strip (c :: s) = c :: stripRight s := by
  rw [strip, stripLeft, List.dropWhile_cons, if_neg (by simp [solid]), stripRight_cons solid]

/-- Stripping the end brings in no character. -/
theorem stripRight_subset (s : Text) : stripRight s ⊆ s := by
  intro c member
  unfold stripRight dropWhileEnd at member
  exact List.mem_reverse.1 ((List.dropWhile_sublist _).subset (List.mem_reverse.1 member))

/-- Stripping brings in no character. -/
theorem strip_subset (s : Text) : strip s ⊆ s := fun _ member =>
  (List.dropWhile_sublist _).subset (stripRight_subset _ member)

/-- A text that does not begin with a blank has none to strip in front. -/
theorem stripLeft_eq_self {s : Text} (first : ∀ c ∈ s.head?, isBlank c = false) :
    stripLeft s = s := by
  cases s with
  | nil => rfl
  | cons c s => simp [stripLeft, first c rfl]

/-- A text is stripped already if it neither begins nor ends with a blank. -/
theorem strip_eq_self {s : Text} (first : ∀ c ∈ s.head?, isBlank c = false)
    (last : ∀ c ∈ s.getLast?, isBlank c = false) : strip s = s := by
  rw [strip, stripLeft_eq_self first, stripRight_eq_self last]

end Strip

section Lines

/-- The ends of lines are blank. -/
theorem isBlank_of_isLineEnd {c : Char} (ends : isLineEnd c = true) : isBlank c = true := by
  simp only [isLineEnd, isBlank, Bool.or_eq_true, Bool.and_eq_true, decide_eq_true_eq,
    beq_iff_eq] at ends ⊢
  omega

/-- A text that is not empty has a line. -/
theorem lines_ne_nil (c : Char) (s : Text) : lines (c :: s) ≠ [] := by
  unfold lines
  split
  · simp_all
  · simp
  · split
    · simp
    · cases lines _ <;> simp [consPiece]

/-- A line end at the front makes an empty line, unless it is half of a pair. -/
theorem lines_cons_of_isLineEnd {c : Char} {s : Text} (ends : isLineEnd c = true)
    (single : ∀ rest, c = '\r' → s ≠ '\n' :: rest) : lines (c :: s) = [] :: lines s := by
  rw [lines, if_pos ends]
  exact single

/-- Any other character at the front is in front of the first line. -/
theorem lines_cons {c : Char} (inside : isLineEnd c = false) (s : Text) :
    lines (c :: s) = consPiece c (lines s) := by
  rw [lines, if_neg (by simp [inside])]
  rintro rest rfl -
  exact absurd inside (by decide)

/-- A text without line ends stands in front of the first line of what follows it. -/
theorem lines_append_of_inside {s : Text} (some : s ≠ [])
    (inside : ∀ c ∈ s, isLineEnd c = false) (t : Text) :
    lines (s ++ t) = (s ++ (lines t).headD []) :: (lines t).tail := by
  induction s with
  | nil => exact absurd rfl some
  | cons c s ih =>
    rw [List.cons_append, lines_cons (inside c List.mem_cons_self)]
    by_cases last : s = []
    · subst last
      rw [List.nil_append]
      cases lines t <;> rfl
    · rw [ih last fun d member => inside d (List.mem_cons_of_mem c member)]
      rfl

/-- The characters of the pieces are the new one and the old ones. -/
theorem mem_of_mem_consPiece {c d : Char} {pieces : List Text} {line : Text}
    (piece : line ∈ consPiece c pieces) (member : d ∈ line) :
    d = c ∨ ∃ other ∈ pieces, d ∈ other := by
  cases pieces with
  | nil => simp_all [consPiece]
  | cons first pieces =>
    simp only [consPiece, List.mem_cons] at piece ⊢
    rcases piece with rfl | piece
    · rw [List.mem_cons] at member
      exact member.imp_right fun member => ⟨first, .inl rfl, member⟩
    · exact .inr ⟨line, .inr piece, member⟩

/-- No piece has a separator in it. -/
theorem solid_of_mem_pieces {isSeparator : Char → Bool} {s piece : Text}
    (known : piece ∈ pieces isSeparator s) : ∀ c ∈ piece, isSeparator c = false := by
  induction s generalizing piece with
  | nil => simp_all [pieces]
  | cons d s ih =>
    rw [pieces] at known
    split at known
    case isTrue =>
      rcases List.mem_cons.1 known with rfl | known
      · simp
      · exact ih known
    case isFalse inside =>
      intro c member
      rcases mem_of_mem_consPiece known member with rfl | ⟨other, known, member⟩
      · exact Bool.eq_false_iff.2 inside
      · exact ih known c member

/-- Lines that were cut at line feeds have none. -/
theorem not_mem_of_mem_feedLines {s line : Text} (piece : line ∈ feedLines s) : '\n' ∉ line :=
  fun feed => by simpa using solid_of_mem_pieces piece '\n' feed

/-- Cutting lines brings in no character. -/
theorem mem_of_mem_lines {s line : Text} (piece : line ∈ lines s) {c : Char} (member : c ∈ line) :
    c ∈ s := by
  fun_induction lines s generalizing line c with
  | case1 => simp at piece
  | case2 rest ih =>
    rcases List.mem_cons.1 piece with rfl | piece
    · simp at member
    · exact List.mem_cons_of_mem _ (List.mem_cons_of_mem _ (ih piece member))
  | case3 d rest single ends ih =>
    rcases List.mem_cons.1 piece with rfl | piece
    · simp at member
    · exact List.mem_cons_of_mem _ (ih piece member)
  | case4 d rest single inside ih =>
    rcases mem_of_mem_consPiece piece member with rfl | ⟨other, piece, member⟩
    · exact List.mem_cons_self
    · exact List.mem_cons_of_mem _ (ih piece member)

/-- A line feed between two texts ends a line of the first one, or an empty one. -/
theorem lines_append_feed (s t : Text) :
    lines (s ++ '\n' :: t) = lines s ++ lines t ∨
      lines (s ++ '\n' :: t) = lines s ++ [] :: lines t := by
  fun_induction lines s with
  | case1 => exact .inr (lines_cons_of_isLineEnd (by decide) (by simp))
  | case2 rest ih =>
    simp only [List.cons_append, lines]
    exact ih.imp (congrArg _) (congrArg _)
  | case3 c rest single ends ih =>
    cases rest with
    | nil =>
      -- A carriage return and the line feed after it end one line.
      by_cases carriage : c = '\r'
      · subst carriage
        exact .inl (by simp [lines])
      · rw [List.singleton_append, lines_cons_of_isLineEnd ends fun _ same => absurd same carriage]
        exact ih.imp (congrArg _) (congrArg _)
    | cons d rest =>
      have apart (after : Text) (same : c = '\r') : d :: rest ++ '\n' :: t ≠ '\n' :: after :=
        fun feed => single rest same (by simp_all)
      rw [List.cons_append, lines_cons_of_isLineEnd ends apart]
      exact ih.imp (congrArg _) (congrArg _)
  | case4 c rest single inside ih =>
    rw [List.cons_append, lines_cons (by simpa using inside)]
    cases rest with
    | nil => exact .inl (by simp [lines, isLineEnd, consPiece])
    | cons d rest =>
      have some : lines (d :: rest) ≠ [] := lines_ne_nil d rest
      exact ih.imp (fun split => by rw [split, consPiece_append c some])
        fun split => by rw [split, consPiece_append c some]

end Lines

end DryRun.Text
