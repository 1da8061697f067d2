import DryRun.Proofs.Query.Comparing

/-!
# A quoted text in a query

The parts of a query are searched for in its canonical form, with no regard to quote marks. For the
query that selects the users of a quoted name, `Statement.ofText_nameQuery` says where they come
from: the columns and the first condition from what stands in front of the name, everything else
from the canonical form of the name between its marks.

That form is again a text between marks (`Statement.canonical_quotation`). If no word in it counts,
it is the literal of the one condition (`Statement.conditions_of_wordless`). If one does, it is cut
in front of the word, and the mark that is left over is no quote mark any more but part of the text
(`Statement.conditions_of_not_wordless`).
-/

set_option autoImplicit false

namespace DryRun

namespace Text

/-- Parts in two lists can be joined list by list. -/
theorem join_append {separator : Text} {front back : List Text} (left : front ≠ [])
    (right : back ≠ []) :
    join separator (front ++ back) =
      join separator front ++ (separator ++ join separator back) := by
  induction front with
  | nil => exact absurd rfl left
  | cons w front ih =>
    cases front with
    | nil =>
      cases back with
      | nil => exact absurd rfl right
      | cons next back => simp [join]
    | cons next front =>
      have rest := ih (List.cons_ne_nil next front)
      rw [List.cons_append] at rest
      simp [join, rest]

/-- What ends the last piece ends the joined text. -/
theorem join_concat (separator : Text) (front : List Text) (last s : Text) :
    join separator (front ++ [last ++ s]) = join separator (front ++ [last]) ++ s := by
  cases front with
  | nil => rfl
  | cons w front =>
    rw [join_append (List.cons_ne_nil w front) (List.cons_ne_nil _ []),
      join_append (List.cons_ne_nil w front) (List.cons_ne_nil _ [])]
    simp [join]

/-- The characters of a joined text are those of the separator and of the parts. -/
theorem mem_join {separator : Text} {parts : List Text} {c : Char}
    (member : c ∈ join separator parts) : c ∈ separator ∨ ∃ part ∈ parts, c ∈ part := by
  induction parts with
  | nil => simp [join] at member
  | cons part parts ih =>
    cases parts with
    | nil => exact .inr ⟨part, List.mem_cons_self, member⟩
    | cons next parts =>
      rw [join, List.append_assoc, List.mem_append, List.mem_append] at member
      rcases member with here | between | rest
      · exact .inr ⟨part, List.mem_cons_self, here⟩
      · exact .inl between
      · rcases ih rest with between | ⟨other, known, inside⟩
        · exact .inl between
        · exact .inr ⟨other, List.mem_cons_of_mem part known, inside⟩

/-- Cutting a text brings in no character. -/
theorem mem_of_mem_pieces {isSeparator : Char → Bool} {s piece : Text}
    (known : piece ∈ pieces isSeparator s) {c : Char} (member : c ∈ piece) : c ∈ s := by
  induction s generalizing piece with
  | nil =>
    rw [pieces, List.mem_singleton] at known
    simp [known] at member
  | cons d s ih =>
    rw [pieces] at known
    split at known
    · rcases List.mem_cons.mp known with rfl | known
      · simp at member
      · exact List.mem_cons_of_mem d (ih known member)
    · rcases mem_of_mem_consPiece known member with rfl | ⟨other, known, member⟩
      · exact List.mem_cons_self
      · exact List.mem_cons_of_mem d (ih known member)

/-- A character that is no separator goes to the end of the last piece. -/
theorem pieces_concat {isSeparator : Char → Bool} {c : Char} (solid : isSeparator c = false)
    (s : Text) :
    ∃ front last, pieces isSeparator s = front ++ [last] ∧
      pieces isSeparator (s ++ [c]) = front ++ [last ++ [c]] := by
  induction s with
  | nil => exact ⟨[], [], rfl, by simp [pieces, solid, consPiece]⟩
  | cons d s ih =>
    obtain ⟨front, last, short, long⟩ := ih
    rw [List.cons_append, pieces, pieces, short, long]
    split
    · exact ⟨[] :: front, last, rfl, rfl⟩
    · cases front with
      | nil => exact ⟨[], d :: last, rfl, rfl⟩
      | cons first front => exact ⟨(d :: first) :: front, last, rfl, rfl⟩

end Text

namespace Keyword

open Text

variable {keywords : List Text} {keyword : Text}

/-- A text is cut at a keyword that stands in it. -/
theorem split?_eq_some (words : ∀ k ∈ keywords, IsWord k) {previous : Option Char}
    {s before after : Text} (found : split? keywords previous s = some (before, after)) :
    ∃ k ∈ keywords, s = before ++ (k ++ after) := by
  induction s generalizing previous before with
  | nil => cases found
  | cons c s ih =>
    rw [split?] at found
    split at found
    next rest here =>
      obtain ⟨rfl, rfl⟩ := by simpa using found
      obtain ⟨-, k, known, same, -⟩ := (after?_eq_some_iff words).mp here
      exact ⟨k, known, same⟩
    next =>
      obtain ⟨⟨front, back⟩, later, same⟩ := Option.map_eq_some_iff.mp found
      obtain ⟨rfl, rfl⟩ := by simpa using same
      obtain ⟨k, known, rfl⟩ := ih later
      exact ⟨k, known, rfl⟩

/-- What stands before a keyword is at the front of the text. -/
theorem upTo_prefix (words : ∀ k ∈ keywords, IsWord k) (s : Text) : upTo keywords s <+: s := by
  unfold upTo
  split
  next before after found =>
    obtain ⟨k, -, rfl⟩ := split?_eq_some words found
    exact List.prefix_append before _
  next => exact List.prefix_rfl

/-- Before a keyword that stands in a text, the end of the text is missing. -/
theorem upTo_concat (words : ∀ k ∈ keywords, IsWord k) {s : Text} {c : Char}
    (found : split? keywords none (s ++ [c]) ≠ none) : upTo keywords (s ++ [c]) <+: s := by
  unfold upTo
  split
  next before after cut =>
    obtain ⟨k, known, same⟩ := split?_eq_some words cut
    have front : before <+: s ++ [c] := ⟨k ++ after, same.symm⟩
    refine (List.prefix_concat_iff.mp front).resolve_left fun whole => ?_
    rw [whole, List.self_eq_append_right, List.append_eq_nil_iff] at same
    exact (words k known).some same.1
  next none => exact absurd none found

/-- A text in which no keyword is found is passed over if no word goes on behind it. -/
theorem upTo_append (words : ∀ k ∈ keywords, IsWord k) {a : Text}
    (missing : split? keywords none a = none) (ends : a.getLast?.any isWordChar = false)
    (s : Text) : upTo keywords (a ++ s) = a ++ upTo keywords s := by
  have apart : Apart (a.getLast?.or none) s.head? := .of_left (by simpa using ends) _
  have cut := split?_append words (.of_left ends s.head?) missing
  rw [split?_of_apart words apart] at cut
  unfold upTo
  rw [cut]
  cases split? keywords none s <;> rfl

/-- The first piece ends before the keyword. -/
theorem exists_pieces_eq_cons (keyword s : Text) :
    ∃ others, pieces keyword none s = upTo [keyword] s :: others := by
  have cut (previous : Option Char) : ∃ others, pieces keyword previous s =
      ((split? [keyword] previous s).elim s Prod.fst) :: others := by
    induction s generalizing previous with
    | nil => exact ⟨[], by rw [pieces]; rfl⟩
    | cons c s ih =>
      rw [pieces, split?]
      cases here : after? [keyword] previous (c :: s) with
      | some rest => exact ⟨_, rfl⟩
      | none =>
        obtain ⟨others, rest⟩ := ih (some c)
        rw [rest]
        refine ⟨others, ?_⟩
        cases split? [keyword] (some c) s <;> rfl
  obtain ⟨others, first⟩ := cut none
  refine ⟨others, first.trans (congrArg (· :: others) ?_)⟩
  unfold upTo
  cases split? [keyword] none s <;> rfl

end Keyword

namespace Numeral

/-- What begins with something else than a digit or an underscore is no numeral. -/
theorem groupedDigits?_cons {c : Char} (other : Text.digitValue? c = none) (solid : c ≠ '_')
    (s : Text) : groupedDigits? (c :: s) = none := by
  obtain ⟨first, others, cut⟩ : ∃ first others,
      Text.pieces (· == '_') (c :: s) = (c :: first) :: others := by
    rw [Text.pieces, if_neg (by simpa using solid)]
    cases Text.pieces (· == '_') s with
    | nil => exact ⟨[], [], rfl⟩
    | cons first others => exact ⟨first, others, rfl⟩
  rw [groupedDigits?, cut]
  split
  · rfl
  · simp [other]

/-- A quote mark does not open a number. -/
theorem int?_mark (s : Text) : int? ('\x27' :: s) = none := by
  have kept : splitSign ('\x27' :: Text.stripRight s) = (false, '\x27' :: Text.stripRight s) := rfl
  rw [int?, Text.strip_cons (by decide), kept]
  simp only [groupedDigits?_cons (show Text.digitValue? '\x27' = none by decide) (by decide)]

/-- What begins with an apostrophe is no float. -/
theorem float?_mark (s : Text) : float? ('\x27' :: s) = none := by
  have kept : splitSign ('\x27' :: Text.stripRight s) = (false, '\x27' :: Text.stripRight s) := rfl
  have nothing (t : Text) : unsignedFloat? ('\x27' :: t) = none := by
    have part (t : Text) : part? ('\x27' :: t) = none :=
      groupedDigits?_cons (by decide) (by decide) t
    simp [unsignedFloat?, part]
  rw [float?, Text.strip_cons (by decide), kept]
  simp [nothing, show '\x27'.toLower = '\x27' by decide]

end Numeral

namespace Literal

/-- What is written between single quote marks is a text, whatever it is. -/
theorem ofText_quotation (inner : Text) :
    ofText (' ' :: '\x27' :: (inner ++ ['\x27'])) = .text inner := by
  have solid : Text.isBlank '\x27' = false := by decide
  have ends : Text.strip ('\x27' :: (inner ++ ['\x27'])) = '\x27' :: (inner ++ ['\x27']) := by
    rw [Text.strip_cons solid, Text.stripRight_eq_self (by simp [solid])]
  have whole : Text.strip ([' '] ++ '\x27' :: (inner ++ ['\x27'])) = _ :=
    Text.strip_blanks_append (by decide) _
  rw [List.singleton_append, ends] at whole
  have read : Text.between? quoteMarks ('\x27' :: (inner ++ ['\x27'])) = some inner :=
    Text.between?_eq_some_iff.mpr ⟨'\x27', by decide, rfl⟩
  simp only [ofText, whole, read]

/-- Without the second mark the first one is part of the text. -/
theorem ofText_cut {inner : Text} (bare : '\x27' ∉ inner) :
    ofText (' ' :: '\x27' :: inner) = .text ('\x27' :: Text.stripRight inner) := by
  have whole : Text.strip ([' '] ++ '\x27' :: inner) = _ := Text.strip_blanks_append (by decide) _
  rw [List.singleton_append, Text.strip_cons (show Text.isBlank '\x27' = false by decide)] at whole
  have unread : Text.between? quoteMarks ('\x27' :: Text.stripRight inner) = none := by
    rw [Option.eq_none_iff_forall_ne_some]
    intro text found
    obtain ⟨mark, -, same⟩ := Text.between?_eq_some_iff.mp found
    obtain ⟨rfl, rest⟩ := List.cons.inj same
    exact bare (Text.stripRight_subset inner (by simp [rest]))
  simp only [ofText, whole, unread, Numeral.int?_mark, Numeral.float?_mark]

end Literal

namespace Condition

/-- A comparison with the column `name`, of which the literal is still to be read. -/
theorem ofText?_name (s : Text) :
    ofText? (" NAME = ".toList ++ s) = some ⟨"name".toList, .eq, Literal.ofText (' ' :: s)⟩ := by
  have isWord : Text.IsWord "NAME".toList := ⟨by decide, by decide⟩
  obtain ⟨column, beyond⟩ := Text.takeWhile_word (s := " = ".toList ++ s) isWord
    (.of_right _ (show Text.isWordChar ' ' = false by decide))
  have first : Text.stripLeft (" NAME = ".toList ++ s) = "NAME".toList ++ (" = ".toList ++ s) := rfl
  have second : Text.stripLeft (" = ".toList ++ s) = Query.Sign.equal.text ++ ' ' :: s := rfl
  have lowered : Text.lower "NAME".toList = "name".toList := by decide
  unfold ofText?
  simp only [first, column, beyond, second, Query.operator?_sign .equal (c := ' ') (by decide),
    lowered]
  rfl

/-- A text is compared in capitals. -/
theorem selects_text {column s x : Text} {row : Row} (found : row.get? column = some (.text s)) :
    (⟨column, .eq, .text x⟩ : Condition).selects row =
      .ok (decide (Text.upper s = Text.upper x)) := by
  have compares := Text.order_compares (Text.upper s) (Text.upper x)
  have holds : Comparison.eq.holds (some (Text.order (Text.upper s) (Text.upper x))) = _ :=
    Query.Sign.holds_comparison .equal compares
  simp only [selects, found, selectsCell, Literal.toText, holds, Query.Sign.holds]
  exact congrArg _ (decide_eq_decide.mpr .rfl)

end Condition

namespace Statement

open Text

/-- A text between single quote marks. -/
def quotation (v : Text) : Text := '\x27' :: (v ++ ['\x27'])

/-- What stands in front of the quoted text. -/
def nameClause : Text := "SELECT * FROM users WHERE name =".toList

/-- The selection of the users with a given name. -/
def nameQuery (v : Text) : Text := nameClause ++ ' ' :: quotation v

/-- What stands in front of the quoted text in canonical form. -/
def opening : Text := "SELECT * FROM USERS WHERE NAME =".toList

/-! ## The canonical form -/

/-- Texts with words in them are brought into the canonical form one by one. -/
theorem canonical_append_space {a s : Text} (left : words (a.filter (· != ';')) ≠ [])
    (right : words (s.filter (· != ';')) ≠ []) :
    canonical (a ++ ' ' :: s) = canonical a ++ ' ' :: canonical s := by
  have kept : (a ++ ' ' :: s).filter (· != ';') =
      a.filter (· != ';') ++ ' ' :: s.filter (· != ';') := by simp
  unfold canonical
  rw [kept, words_append_blank (by decide), join_append left right, upper_append, upper_append]
  rfl

/-- The canonical form is in capitals. -/
theorem upper_canonical (query : Text) : upper (canonical query) = canonical query :=
  upper_upper _

/-- In canonical form a quotation is still one, of a text without the mark. -/
theorem canonical_quotation {v : Text} (bare : '\x27' ∉ v) :
    ∃ inner, canonical (quotation v) = quotation inner ∧ '\x27' ∉ inner := by
  have isToken : IsToken ['\x27'] := ⟨by decide, by decide⟩
  have solid : isBlank '\x27' = false := by decide
  let s := v.filter (· != ';')
  have kept : (quotation v).filter (· != ';') = ['\x27'] ++ (s ++ ['\x27']) := by
    simp [quotation, s]
  obtain ⟨front, last, short, long⟩ := pieces_concat solid s
  let others := front.filter fun piece => !piece.isEmpty
  have ends : words (s ++ ['\x27']) = others ++ [last ++ ['\x27']] := by
    simp [words, long, others]
  let inner := (if (s ++ ['\x27']).head?.any isBlank then [' '] else []) ++
    upper (join [' '] (others ++ [last]))
  refine ⟨inner, ?_, ?_⟩
  · unfold canonical
    rw [kept, upper_join_words_append isToken, evened, ends, join_concat, upper_append]
    simp [inner, quotation, upper, show upperChar '\x27' = ['\x27'] by decide]
  · have inside : '\x27' ∉ join [' '] (others ++ [last]) := by
      intro member
      rcases mem_join member with space | ⟨part, known, member⟩
      · exact absurd space (by decide)
      · have piece : part ∈ pieces isBlank s := by
          rw [short]
          rcases List.mem_append.mp known with other | end_
          · exact List.mem_append_left _ (List.mem_of_mem_filter other)
          · exact List.mem_append_right _ end_
        exact bare (List.mem_of_mem_filter (mem_of_mem_pieces piece member))
    intro member
    rcases List.mem_append.mp member with gap | member
    · split at gap <;> simp at gap
    · exact not_mem_upper_quote inside member

/-- The canonical form of the query is its opening and that of the quotation. -/
theorem canonical_nameQuery (v : Text) :
    canonical (nameQuery v) = opening ++ ' ' :: canonical (quotation v) := by
  have first : canonical nameClause = opening := by decide +kernel
  have left : words (nameClause.filter (· != ';')) ≠ [] := by decide +kernel
  have right : words ((quotation v).filter (· != ';')) ≠ [] := by
    have kept : (quotation v).filter (· != ';') =
        '\x27' :: (v ++ ['\x27']).filter (· != ';') := rfl
    rw [kept]
    exact words_cons_ne_nil (by decide) _
  rw [nameQuery, canonical_append_space left right, first]

/-! ## What is read behind the opening -/

/-- The query asks for all columns. -/
theorem columns?_opening (s : Text) : columns? (opening ++ ' ' :: s) = none := by
  have isWord : IsWord "FROM".toList := ⟨by decide, by decide⟩
  have missing : ¬"FROM".toList <:+: "SELECT * ".toList := fun inside =>
    absurd (occursIn_iff.mpr inside) (by decide)
  have whole : opening = "SELECT * ".toList ++ ("FROM".toList ++ " USERS WHERE NAME =".toList) := by
    decide +kernel
  have cut : upTo "FROM".toList (opening ++ ' ' :: s) = "SELECT * ".toList := by
    rw [upTo, whole, List.append_assoc, List.append_assoc,
      splitFirst?_append_of_not_infix isWord (.of_left (by decide) _) missing,
      splitFirst?_self_append]
    rfl
  rw [columns?, cut]
  decide +kernel

/-- The words that close the conditions are words. -/
theorem isWord_closing : ∀ k ∈ closingWords, IsWord k :=
  fun _ known => Query.isWord_of_mem_reserved (Query.mem_reserved_of_closing known)

/-- The conditions are read from what stands between the opening and the first closing word. -/
theorem conditions_opening (s : Text) :
    conditions (opening ++ ' ' :: s) = (Keyword.pieces "AND".toList none
      (" NAME = ".toList ++ Keyword.upTo closingWords s)).filterMap Condition.ofText? := by
  have words : ∀ k ∈ ["WHERE".toList], IsWord k :=
    List.forall_mem_singleton.mpr ⟨by decide, by decide⟩
  have whole : opening ++ [' '] = "SELECT * FROM USERS ".toList ++
      ("WHERE".toList ++ " NAME = ".toList) := by decide +kernel
  have inside : " WHERE ".toList <:+: opening := occursIn_iff.mp (by decide +kernel)
  have present : occursIn " WHERE ".toList (opening ++ ' ' :: s) = true :=
    occursIn_iff.mpr (inside.trans (List.prefix_append opening _).isInfix)
  have found : Keyword.split? ["WHERE".toList] none (opening ++ ' ' :: s) =
      some ("SELECT * FROM USERS ".toList, " NAME = ".toList ++ s) := by
    rw [List.append_cons, whole, List.append_assoc, List.append_assoc]
    exact Keyword.split?_append_keyword words List.mem_cons_self (by decide +kernel) (by decide)
      (show isWordChar ' ' = false by decide)
  have passed : Keyword.upTo closingWords (" NAME = ".toList ++ s) =
      " NAME = ".toList ++ Keyword.upTo closingWords s :=
    Keyword.upTo_append isWord_closing (by decide +kernel) (by decide) s
  rw [conditions, if_pos present, found]
  simp only [passed]

/-- The first condition compares the name with what stands in front of the first keyword. -/
theorem exists_conditions_opening (s : Text) :
    ∃ others, conditions (opening ++ ' ' :: s) =
      ⟨"name".toList, .eq, Literal.ofText (' ' ::
        Keyword.upTo ["AND".toList] (Keyword.upTo closingWords s))⟩ :: others := by
  have first : Keyword.upTo ["AND".toList] (" NAME = ".toList ++ Keyword.upTo closingWords s) =
      " NAME = ".toList ++ Keyword.upTo ["AND".toList] (Keyword.upTo closingWords s) :=
    Keyword.upTo_append Query.isWord_and (by decide +kernel) (by decide) _
  obtain ⟨others, cut⟩ := Keyword.exists_pieces_eq_cons "AND".toList
    (" NAME = ".toList ++ Keyword.upTo closingWords s)
  rw [conditions_opening, cut, first, List.filterMap_cons, Condition.ofText?_name]
  exact ⟨_, rfl⟩

/-- A word that opens a part of a query does not stand in front of the quoted text. -/
theorem firstAt?_opening {α : Type} {f : Text → Option α} {word : Text} (isWord : IsWord word)
    (begins : ∀ s, (f s).isSome → word <+: s) (missing : occursIn word (opening ++ [' ']) = false)
    (s : Text) : firstAt? f (opening ++ ' ' :: s) = firstAt? f s := by
  rw [List.append_cons]
  exact firstAt?_append isWord begins (.of_left (by simp) _)
    fun inside => absurd (occursIn_iff.mpr inside) (by simp [missing])

/-! ## What is read of the quoted text -/

/-- No word of a text begins another condition, and none ends the conditions. -/
structure Wordless (s : Text) : Prop where
  single : Keyword.split? ["AND".toList] none s = none
  unclosed : Keyword.split? closingWords none s = none

/-- A quote mark is no part of a word. -/
theorem upTo_mark {keywords : List Text} (words : ∀ k ∈ keywords, IsWord k) (s : Text) :
    Keyword.upTo keywords ('\x27' :: s) = '\x27' :: Keyword.upTo keywords s := by
  have other : isWordChar '\x27' = false := by decide
  have missing : Keyword.split? keywords none ['\x27'] = none :=
    Keyword.split?_of_not_infix words fun k known => (words k known).not_infix_singleton other
  exact Keyword.upTo_append words missing (by simpa using other) s

/-- If no word counts, the quoted text is the literal of the only condition. -/
theorem conditions_of_wordless {inner : Text} (wordless : Wordless (quotation inner)) :
    conditions (opening ++ ' ' :: quotation inner) = [⟨"name".toList, .eq, .text inner⟩] := by
  have whole : Keyword.upTo closingWords (quotation inner) = quotation inner := by
    rw [Keyword.upTo, wordless.unclosed]
  have none : Keyword.split? ["AND".toList] none (" NAME = ".toList ++ quotation inner) = none := by
    rw [Keyword.split?_append Query.isWord_and (.of_left (by decide) _) (by decide +kernel),
      Keyword.split?_of_apart Query.isWord_and (.of_left (by decide) _), wordless.single]
    rfl
  rw [conditions_opening, whole, Keyword.pieces_of_none none, List.filterMap_cons,
    Condition.ofText?_name, quotation, Literal.ofText_quotation]
  rfl

/-- If a word counts, the literal of the first condition has lost the second quote mark and keeps
the first one. -/
theorem conditions_of_not_wordless {inner : Text} (bare : '\x27' ∉ inner)
    (worded : ¬Wordless (quotation inner)) :
    ∃ x others, conditions (opening ++ ' ' :: quotation inner) =
      ⟨"name".toList, .eq, .text ('\x27' :: x)⟩ :: others := by
  -- Whatever is cut off, the second mark goes with it.
  have lost {keywords : List Text} (words : ∀ k ∈ keywords, IsWord k)
      (found : Keyword.split? keywords none (quotation inner) ≠ none) :
      ∃ x, Keyword.upTo keywords (quotation inner) = '\x27' :: x ∧ x <+: inner := by
    have front : Keyword.upTo keywords ('\x27' :: inner ++ ['\x27']) <+: '\x27' :: inner :=
      Keyword.upTo_concat words found
    rw [List.cons_append, upTo_mark words, List.prefix_cons_inj] at front
    exact ⟨_, upTo_mark words _, front⟩
  obtain ⟨x, read, part⟩ : ∃ x, Keyword.upTo ["AND".toList]
      (Keyword.upTo closingWords (quotation inner)) = '\x27' :: x ∧ x <+: inner := by
    by_cases closing : Keyword.split? closingWords none (quotation inner) = none
    · have single := lost Query.isWord_and fun single => worded ⟨single, closing⟩
      have whole : Keyword.upTo closingWords (quotation inner) = quotation inner := by
        rw [Keyword.upTo, closing]
      rwa [whole]
    · obtain ⟨x, read, part⟩ := lost isWord_closing closing
      have shorter := Keyword.upTo_prefix Query.isWord_and x
      exact ⟨_, by rw [read, upTo_mark Query.isWord_and], shorter.trans part⟩
  obtain ⟨others, first⟩ := exists_conditions_opening (quotation inner)
  rw [read, Literal.ofText_cut fun member => bare (part.subset member)] at first
  exact ⟨_, others, first⟩

/-- The query is read as a selection of all columns, whose conditions, order and limit are those
found in the quotation. -/
theorem ofText_nameQuery (v : Text) :
    ofText (nameQuery v) = .select
      { columns := none
        conditions := conditions (opening ++ ' ' :: canonical (quotation v))
        order := firstAt? orderHere? (canonical (quotation v))
        limit := firstAt? limitHere? (canonical (quotation v)) } := by
  have front : "SELECT".toList <+: opening := List.isPrefixOf_iff_prefix.mp (by decide +kernel)
  have begins : "SELECT".toList.isPrefixOf (opening ++ ' ' :: canonical (quotation v)) = true :=
    List.isPrefixOf_iff_prefix.mpr (front.trans (List.prefix_append opening _))
  have order : firstAt? orderHere? (opening ++ ' ' :: canonical (quotation v)) =
      firstAt? orderHere? (canonical (quotation v)) :=
    firstAt?_opening (show IsWord "ORDER".toList from ⟨by decide, by decide⟩)
      (fun _ found => Query.begins_of_afterWord? found) (by decide +kernel) _
  have limit : firstAt? limitHere? (opening ++ ' ' :: canonical (quotation v)) =
      firstAt? limitHere? (canonical (quotation v)) :=
    firstAt?_opening (show IsWord "LIMIT".toList from ⟨by decide, by decide⟩)
      (fun _ found => Query.begins_of_afterWord? found) (by decide +kernel) _
  rw [ofText, canonical_nameQuery, ofCanonical, if_pos begins, selection, columns?_opening,
    order, limit]

end Statement

end DryRun
