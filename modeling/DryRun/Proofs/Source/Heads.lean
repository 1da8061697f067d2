import DryRun.Proofs.Source.Idiom
import DryRun.Proofs.Source.Sides
import DryRun.Proofs.Text.Regex

/-!
# The pieces of a head

The reading of a head goes by its words, by its last colon and by the words before that. Here it is
said which pieces a head consists of, one after the other: a keyword, a name and a type of one word
(`typedName?_eq_some_iff`), or words, pointer marks and a name, with a type behind a colon or
without (`declaredName?_eq_some_iff`, `declares_iff`).

The words before a name have their colons in pairs (`Paired`). So the colon of a type is told from
those in the words by its being single, and a head cannot both end in a name and have a type behind
another one.
-/

set_option autoImplicit false

namespace DryRun

namespace Text

/-- A text of characters of a kind has no other characters. -/
theorem not_mem_of_kind {kind : Char → Bool} {s : Text} (all : ∀ c ∈ s, kind c = true) {c : Char}
    (other : kind c = false) : c ∉ s := fun member => by
  have known := all c member
  rw [other] at known
  cases known

/-- A text does not end in a character that is not in its last part. -/
theorem getLast?_append_ne {c : Char} (s : Text) {t : Text} (some : t ≠ []) (apart : c ∉ t) :
    (s ++ t).getLast? ≠ .some c := by
  obtain rfl | ⟨front, d, rfl⟩ := List.eq_nil_or_concat t
  · exact absurd rfl some
  · rw [List.concat_eq_append, ← List.append_assoc, List.getLast?_concat]
    rintro ⟨rfl⟩
    exact apart (by simp)

/-- Blanks in front can be taken away first. -/
theorem strip_stripLeft (s : Text) : strip (stripLeft s) = strip s := by
  obtain ⟨left, blanks, whole⟩ := exists_blanks_append s
  rw [← strip_blanks_append blanks, whole]

/-- Stripping makes no text longer. -/
theorem length_strip_le (s : Text) : (strip s).length ≤ s.length := by
  obtain ⟨left, right, whole, -, -⟩ := exists_strip s
  have length := congrArg List.length whole
  simp only [List.length_append] at length
  omega

/-- A text begins as it does with another one behind it. -/
theorem first_of_append {p : Char → Bool} {s t : Text}
    (first : ∀ c ∈ (s ++ t).head?, p c = false) : ∀ c ∈ s.head?, p c = false := fun c starts =>
  first c (by rw [List.head?_append, Option.mem_def.mp starts]; rfl)

/-- A text is cut in one way only at the first place of a character. -/
theorem append_cons_inj {c : Char} {s s' t t' : Text} (apart : c ∉ s) (apart' : c ∉ s')
    (same : s ++ c :: t = s' ++ c :: t') : s = s' ∧ t = t' := by
  obtain ⟨between, rfl, rest⟩ | ⟨between, rfl, rest⟩ := List.append_eq_append_iff.mp same
  · cases between with
    | nil => simpa using rest
    | cons d between =>
      obtain ⟨rfl, -⟩ := List.cons.inj rest
      exact absurd (by simp) apart'
  · cases between with
    | nil => simpa [eq_comm] using rest
    | cons d between =>
      obtain ⟨rfl, -⟩ := List.cons.inj rest
      exact absurd (by simp) apart

/-- The words of a text that begins with a word and blanks. -/
theorem words_append_gap {word gap : Text} (some : word ≠ []) (solid : ∀ c ∈ word, isBlank c = false)
    (wide : gap ≠ []) (blanks : ∀ c ∈ gap, isBlank c = true) (s : Text) :
    words (word ++ (gap ++ s)) = word :: words s := by
  obtain ⟨c, gap, rfl⟩ := List.exists_cons_of_ne_nil wide
  obtain ⟨blank, others⟩ := List.forall_mem_cons.mp blanks
  rw [List.cons_append, words_append_blank blank, words_of_solid some solid,
    words_blanks_append others]
  rfl

/-- A text that does not begin with a blank begins with its first word, and after some blanks come
the other words. -/
theorem exists_of_words_eq_cons {s word : Text} {others : List Text}
    (first : ∀ c ∈ s.head?, isBlank c = false) (cut : words s = word :: others) :
    ∃ gap rest, s = word ++ (gap ++ rest) ∧ word ≠ [] ∧ (∀ c ∈ word, isBlank c = false) ∧
      (∀ c ∈ gap, isBlank c = true) ∧ (∀ c ∈ rest.head?, isBlank c = false) ∧
      words rest = others ∧ (others ≠ [] → gap ≠ []) := by
  have front : stripLeft s = s := stripLeft_eq_self first
  have some : stripLeft s ≠ [] := by
    rw [front]
    rintro rfl
    cases cut
  obtain ⟨head, rest, whole, wide, solid, stops, read⟩ := words_eq_cons some
  obtain ⟨rfl, rfl⟩ := List.cons.inj (read.symm.trans cut)
  refine ⟨rest.takeWhile isBlank, stripLeft rest, ?_, wide, solid,
    fun _ => List.mem_takeWhile_imp, ?_, words_stripLeft rest, ?_⟩
  · rw [stripLeft, List.takeWhile_append_dropWhile, ← whole, front]
  · intro c starts
    have start := List.head?_dropWhile_not isBlank rest
    rw [← stripLeft, Option.mem_def.mp starts] at start
    simpa using start
  · intro more none
    cases rest with
    | nil => exact more rfl
    | cons c rest =>
      have blank : isBlank c = true := by simpa using stops
      rw [List.takeWhile_cons_of_pos blank] at none
      cases none

/-- A text that does not begin with a blank and has no word is empty. -/
theorem eq_nil_of_words_eq_nil {s : Text} (first : ∀ c ∈ s.head?, isBlank c = false)
    (none : words s = []) : s = [] := by
  cases s with
  | nil => rfl
  | cons c s =>
    have some : stripLeft (c :: s) ≠ [] := by simp [stripLeft, first c rfl]
    obtain ⟨word, rest, -, -, -, -, read⟩ := words_eq_cons some
    rw [none] at read
    cases read

end Text

open Text (isBlank words)
open Regex (row Spells Repeats)

namespace Head

/-- Whether a character may stand in a type of one word. -/
def isPlainTypeChar (c : Char) : Bool := Text.isWordChar c || "[]*.".toList.contains c

/-- Whether a character is a pointer mark. -/
def isMark (c : Char) : Bool := c == '&' || c == '*'

/-! ## Heads with a type of one word -/

variable {s x : Text}

/-- A blank may not stand in a type of one word. -/
theorem isPlainTypeChar_of_isBlank {c : Char} (blank : isBlank c = true) :
    isPlainTypeChar c = false :=
  Text.of_isBlank (p := (isPlainTypeChar · = false)) (by decide +kernel) blank

/-- A head declares a name with a type of one word if it has three words of the right kinds. -/
theorem typedName?_eq_some_iff (first : ∀ c ∈ s.head?, isBlank c = false) :
    typedName? s = some x ↔ ∃ keyword gap gap' type end',
      s = keyword ++ (gap ++ (x ++ (gap' ++ (type ++ end')))) ∧
        (keyword = "var".toList ∨ keyword = "const".toList) ∧
        (gap ≠ [] ∧ ∀ c ∈ gap, isBlank c = true) ∧ isIdentifier x = true ∧
        (gap' ≠ [] ∧ ∀ c ∈ gap', isBlank c = true) ∧
        (type ≠ [] ∧ ∀ c ∈ type, isPlainTypeChar c = true) ∧ ∀ c ∈ end', isBlank c = true := by
  constructor
  · intro named
    unfold typedName? at named
    split at named
    case h_2 => cases named
    case h_1 keyword name type cut =>
      simp only [Option.ite_none_right_eq_some, Bool.and_eq_true, Bool.or_eq_true, beq_iff_eq,
        Option.some.injEq] at named
      obtain ⟨⟨⟨keyword, identifier⟩, plain⟩, rfl⟩ := named
      -- The head is taken apart word by word. The gap before a further word is not empty.
      obtain ⟨gap, rest, rfl, -, -, blanks, first, cut, wide⟩ :=
        Text.exists_of_words_eq_cons first cut
      obtain ⟨gap', rest, rfl, -, -, blanks', first, cut, wide'⟩ :=
        Text.exists_of_words_eq_cons first cut
      obtain ⟨end', rest, rfl, some, -, blanks'', first, cut, -⟩ :=
        Text.exists_of_words_eq_cons first cut
      obtain rfl := Text.eq_nil_of_words_eq_nil first cut
      refine ⟨_, gap, gap', type, end', by rw [List.append_nil], keyword,
        ⟨wide (by simp), blanks⟩, identifier, ⟨wide' (by simp), blanks'⟩, ⟨some, ?_⟩, blanks''⟩
      exact List.all_eq_true.mp plain
  · rintro ⟨keyword, gap, gap', type, end', rfl, known, ⟨wide, blanks⟩, identifier, ⟨wide', blanks'⟩,
      ⟨some, plain⟩, blanks''⟩
    have solid : keyword ≠ [] ∧ ∀ c ∈ keyword, isBlank c = false := by
      rcases known with rfl | rfl <;> exact ⟨by decide, by decide⟩
    have named : isName x = true := isName_of_isIdentifier identifier
    have solid' : ∀ c ∈ type, isBlank c = false := fun c member => by
      rw [Bool.eq_false_iff]
      intro blank
      have known := plain c member
      rw [isPlainTypeChar_of_isBlank blank] at known
      cases known
    have cut : words (keyword ++ (gap ++ (x ++ (gap' ++ (type ++ end'))))) = [keyword, x, type] := by
      rw [Text.words_append_gap solid.1 solid.2 wide blanks,
        Text.words_append_gap (ne_nil_of_isName named) (solid_of_isName named) wide' blanks',
        Text.words_append_blanks blanks'', Text.words_of_solid some solid']
    have plain' : isPlainType type = true := List.all_eq_true.mpr plain
    rw [typedName?, cut]
    simp only [plain', identifier, Bool.and_true, Bool.or_eq_true, beq_iff_eq, if_pos known]

/-! ## Heads that end in a name or in its type -/

/-- Words that may stand before a name, each with blanks behind it. -/
def IsLeads : Text → Prop :=
  Repeats fun t => ∃ word gap, t = word ++ gap ∧ (word ≠ [] ∧ isLead word = true) ∧
    gap ≠ [] ∧ ∀ c ∈ gap, isBlank c = true

/-- A head ends in a name, words and pointer marks being in front of it. -/
def EndsInName (s x : Text) : Prop :=
  ∃ leads marks gap, s = leads ++ (marks ++ (x ++ gap)) ∧ IsLeads leads ∧
    (∀ c ∈ marks, isMark c = true) ∧ isName x = true ∧ ∀ c ∈ gap, isBlank c = true

/-- A blank may not stand in a word before the name. -/
theorem isLeadChar_of_isBlank {c : Char} (blank : isBlank c = true) : isLeadChar c = false :=
  Text.of_isBlank (p := (isLeadChar · = false)) (by decide +kernel) blank

/-- What may stand before a name consists of the characters for it and of colons. -/
theorem kind_of_isLead {word : Text} (led : isLead word = true) :
    ∀ c ∈ word, (isLeadChar c || c == ':') = true := by
  fun_induction isLead word with
  | case1 => simp
  | case2 rest ih =>
    exact List.forall_mem_cons.mpr ⟨rfl, List.forall_mem_cons.mpr ⟨rfl, ih led⟩⟩
  | case3 c rest _ ih =>
    rw [Bool.and_eq_true] at led
    exact List.forall_mem_cons.mpr ⟨by rw [led.1, Bool.true_or], ih led.2⟩

/-- What may stand before a name has no blank in it. -/
theorem solid_of_isLead {word : Text} (led : isLead word = true) :
    ∀ c ∈ word, isBlank c = false := by
  intro c member
  rw [Bool.eq_false_iff]
  intro blank
  have known := kind_of_isLead led c member
  rw [isLeadChar_of_isBlank blank, Bool.false_or, beq_iff_eq] at known
  subst known
  exact absurd blank (by decide)

/-- What may stand before a name is put together from single characters and pairs of colons. -/
theorem isLead_iff {word : Text} : isLead word = true ↔
    Repeats (fun t => (∃ c, isLeadChar c = true ∧ t = [c]) ∨ t = "::".toList) word := by
  constructor
  · intro led
    fun_induction isLead word with
    | case1 => exact .none
    | case2 rest ih => exact .more (u := [':', ':']) (.inr rfl) (ih led)
    | case3 c rest _ ih =>
      rw [Bool.and_eq_true] at led
      exact .more (u := [c]) (.inl ⟨c, led.1, rfl⟩) (ih led.2)
  · intro repeats
    induction repeats with
    | none => rfl
    | more first _ ih =>
      rcases first with ⟨c, known, rfl⟩ | rfl
      · have other : c ≠ ':' := by
          rintro rfl
          exact absurd known (by decide)
        rw [List.singleton_append, isLead]
        · rw [known, ih]
          rfl
        · intro _ same
          exact absurd same other
      · exact ih

/-- A word has a name behind pointer marks. -/
theorem markedName?_eq_some_iff {word : Text} : markedName? word = some x ↔
    ∃ marks, word = marks ++ x ∧ (∀ c ∈ marks, isMark c = true) ∧ isName x = true := by
  constructor
  · intro marked
    unfold markedName? at marked
    rw [Option.ite_none_right_eq_some, Option.some.injEq] at marked
    obtain ⟨named, rfl⟩ := marked
    exact ⟨word.takeWhile isMark, (List.takeWhile_append_dropWhile (p := isMark)).symm,
      fun _ => List.mem_takeWhile_imp, named⟩
  · rintro ⟨marks, rfl, all, named⟩
    have bare := markedName?_of_isName named
    have skip : (marks ++ x).dropWhile isMark = x.dropWhile isMark :=
      List.dropWhile_append_of_pos all
    exact (congrArg (fun name => if isName name then some name else none) skip).trans bare

/-- The words of a text behind words that may stand before a name. -/
theorem words_append_of_isLeads {leads : Text} (known : IsLeads leads) (s : Text) :
    ∃ front, front.all isLead = true ∧ words (leads ++ s) = front ++ words s := by
  induction known with
  | none => exact ⟨[], rfl, rfl⟩
  | more first _ ih =>
    obtain ⟨word, gap, rfl, ⟨some, led⟩, wide, blanks⟩ := first
    obtain ⟨front, all, cut⟩ := ih
    refine ⟨word :: front, by rw [List.all_cons, led, all]; rfl, ?_⟩
    rw [List.append_assoc, List.append_assoc,
      Text.words_append_gap some (solid_of_isLead led) wide blanks, cut]
    rfl

/-- A text whose last word has a name, all words before it being fit to stand there, ends in this
name. -/
theorem endsInName_of_words {front : List Text} {word : Text}
    (first : ∀ c ∈ s.head?, isBlank c = false) (cut : words s = front ++ [word])
    (led : front.all isLead = true) (marked : markedName? word = some x) : EndsInName s x := by
  induction front generalizing s with
  | nil =>
    obtain ⟨gap, rest, rfl, -, -, blanks, first, none, -⟩ := Text.exists_of_words_eq_cons first cut
    obtain rfl := Text.eq_nil_of_words_eq_nil first none
    obtain ⟨marks, rfl, all, named⟩ := markedName?_eq_some_iff.mp marked
    exact ⟨[], marks, gap, by simp, .none, all, named, blanks⟩
  | cons lead front ih =>
    obtain ⟨gap, rest, rfl, some, -, blanks, first, cut, wide⟩ :=
      Text.exists_of_words_eq_cons first cut
    rw [List.all_cons, Bool.and_eq_true] at led
    obtain ⟨leads, marks, end', rfl, known, others⟩ := ih first cut led.2
    exact ⟨(lead ++ gap) ++ leads, marks, end', by simp,
      .more ⟨lead, gap, rfl, ⟨some, led.1⟩, wide (by simp), blanks⟩ known, others⟩

/-- The last word of a head has the name if the head ends in it. -/
theorem lastName?_eq_some_iff (first : ∀ c ∈ s.head?, isBlank c = false) :
    lastName? (words s) = some x ↔ EndsInName s x := by
  constructor
  · intro named
    unfold lastName? at named
    split at named
    case h_1 => cases named
    case h_2 word last =>
      obtain ⟨front, cut⟩ := List.getLast?_eq_some_iff.mp last
      rw [cut, List.dropLast_concat, Option.ite_none_right_eq_some] at named
      exact endsInName_of_words first cut named.1 named.2
  · rintro ⟨leads, marks, gap, rfl, known, all, named, blanks⟩
    have marked : markedName? (marks ++ x) = some x :=
      markedName?_eq_some_iff.mpr ⟨marks, rfl, all, named⟩
    have solid : ∀ c ∈ marks ++ x, isBlank c = false := by
      refine List.forall_mem_append.mpr ⟨fun c member => ?_, solid_of_isName named⟩
      have mark := all c member
      simp only [isMark, Bool.or_eq_true, beq_iff_eq] at mark
      rcases mark with rfl | rfl <;> decide
    have some : marks ++ x ≠ [] := by simp [ne_nil_of_isName named]
    obtain ⟨front, led, cut⟩ := words_append_of_isLeads known (marks ++ x ++ gap)
    rw [Text.words_append_blanks blanks, Text.words_of_solid some solid] at cut
    rw [lastName?, ← List.append_assoc marks, cut, List.getLast?_concat, List.dropLast_concat]
    exact (if_pos led).trans marked

/-- Every last colon of a text follows on another one. -/
def Paired (s : Text) : Prop :=
  ∀ before after, s = before ++ ':' :: after → ':' ∉ after → before.getLast? = some ':'

namespace Paired

/-- A text without colons. -/
theorem of_not_mem (none : ':' ∉ s) : Paired s := by
  rintro before after rfl -
  exact absurd (by simp) none

/-- A pair of colons. -/
theorem colons : Paired [':', ':'] := by
  intro before after whole apart
  rcases before with _ | ⟨c, _ | ⟨d, before⟩⟩
  · obtain ⟨-, rfl⟩ := List.cons.inj whole
    exact absurd List.mem_cons_self apart
  · obtain ⟨rfl, -⟩ := List.cons.inj whole
    rfl
  · cases before <;> cases whole

/-- A text after another one. -/
theorem append {t : Text} (left : Paired s) (right : Paired t) : Paired (s ++ t) := by
  intro before after whole apart
  obtain ⟨between, rfl, rest⟩ | ⟨between, rfl, rest⟩ := List.append_eq_append_iff.mp whole
  · rw [List.getLast?_append, right between after rest apart]
    rfl
  · cases between with
    | nil =>
      have last := right [] after (by simpa using rest.symm) apart
      cases last
    | cons colon between =>
      obtain ⟨rfl, rfl⟩ := List.cons.inj rest
      exact left before between rfl fun member => apart (List.mem_append_left _ member)

/-- What may stand before a name. -/
theorem of_isLead {word : Text} (led : isLead word = true) : Paired word := by
  fun_induction isLead word with
  | case1 => exact of_not_mem List.not_mem_nil
  | case2 rest ih => exact colons.append (ih led)
  | case3 c rest _ ih =>
    rw [Bool.and_eq_true] at led
    have single : ':' ∉ [c] := by
      rw [List.mem_singleton]
      rintro rfl
      exact absurd led.1 (by decide)
    exact (of_not_mem single).append (ih led.2)

end Paired

/-- The last colon of a head that ends in a name belongs to a pair in the words before the name. -/
theorem EndsInName.paired (ends : EndsInName s x) : Paired s := by
  obtain ⟨leads, marks, gap, rfl, known, all, named, blanks⟩ := ends
  have front : Paired leads := by
    induction known with
    | none => exact .of_not_mem List.not_mem_nil
    | more first _ ih =>
      obtain ⟨word, gap, rfl, ⟨-, led⟩, -, blanks⟩ := first
      exact ((Paired.of_isLead led).append
        (.of_not_mem (Text.not_mem_of_kind blanks (by decide)))).append ih
  have back : ':' ∉ marks ++ (x ++ gap) := by
    simp only [List.mem_append, not_or]
    exact ⟨Text.not_mem_of_kind all (by decide), not_mem_of_isName named (by decide) (by decide),
      Text.not_mem_of_kind blanks (by decide)⟩
  exact front.append (.of_not_mem back)

/-- A head that ends in a name does not end in a colon. -/
theorem EndsInName.getLast?_ne (ends : EndsInName s x) : s.getLast? ≠ some ':' := by
  obtain ⟨leads, marks, gap, rfl, -, -, named, blanks⟩ := ends
  have back : ':' ∉ x ++ gap := by
    rw [List.mem_append, not_or]
    exact ⟨not_mem_of_isName named (by decide) (by decide),
      Text.not_mem_of_kind blanks (by decide)⟩
  rw [← List.append_assoc]
  exact Text.getLast?_append_ne _ (by simp [ne_nil_of_isName named]) back

/-- The space is the only blank that may stand in a type behind a colon. -/
theorem eq_space_of_isTypeChar {c : Char} (blank : isBlank c = true)
    (typed : isTypeChar c = true) : c = ' ' :=
  Text.of_isBlank (p := fun c => isTypeChar c = true → c = ' ') (by decide +kernel) blank typed

/-- What stands behind a colon is a type if type characters stand there between blanks. -/
theorem isAnnotation_iff : isAnnotation s = true ↔ ∃ gap type end', s = gap ++ (type ++ end') ∧
    (∀ c ∈ gap, isBlank c = true) ∧ (type ≠ [] ∧ ∀ c ∈ type, isTypeChar c = true) ∧
    ∀ c ∈ end', isBlank c = true := by
  unfold isAnnotation
  constructor
  · obtain ⟨left, right, whole, blanks, blanks'⟩ := Text.exists_strip s
    intro typed
    dsimp only at typed
    split at typed
    -- A type of blanks alone is the space that the pattern lets stand as a type.
    case isTrue none =>
      rw [List.isEmpty_iff.mp none, List.append_nil] at whole
      obtain ⟨gap, end', parts⟩ := List.append_of_mem (List.contains_iff_mem.mp typed)
      have all : ∀ c ∈ s, isBlank c = true := by
        rw [whole]
        exact List.forall_mem_append.mpr ⟨blanks, blanks'⟩
      rw [parts, List.forall_mem_append, List.forall_mem_cons] at all
      exact ⟨gap, [' '], end', parts, all.1, ⟨by simp, by decide⟩, all.2.2⟩
    case isFalse some =>
      refine ⟨left, Text.strip s, right, by rwa [← List.append_assoc], blanks, ⟨?_, ?_⟩, blanks'⟩
      · exact fun none => some (List.isEmpty_iff.mpr none)
      · exact List.all_eq_true.mp typed
  · rintro ⟨gap, type, end', rfl, blanks, ⟨some, typed⟩, blanks'⟩
    rw [Text.strip_blanks_append blanks, Text.strip_append_blanks blanks']
    dsimp only
    split
    case isTrue none =>
      obtain ⟨left, right, whole, blanks, blanks'⟩ := Text.exists_strip type
      rw [List.isEmpty_iff.mp none, List.append_nil] at whole
      obtain ⟨c, member⟩ := List.exists_mem_of_ne_nil type some
      have blank : isBlank c = true := by
        rw [whole] at member
        exact List.forall_mem_append.mpr ⟨blanks, blanks'⟩ c member
      rw [eq_space_of_isTypeChar blank (typed c member)] at member
      simp [member]
    case isFalse =>
      exact List.all_eq_true.mpr fun c member => typed c (Text.strip_subset type member)

/-- A type has no character that may stand in none, blanks apart. -/
theorem not_mem_of_isAnnotation (annotates : isAnnotation s = true) {c : Char}
    (solid : isBlank c = false) (other : isTypeChar c = false) : c ∉ s := by
  obtain ⟨gap, type, end', rfl, blanks, ⟨-, typed⟩, blanks'⟩ := isAnnotation_iff.mp annotates
  simp only [List.mem_append, not_or]
  exact ⟨Text.not_mem_of_kind blanks solid, Text.not_mem_of_kind typed other,
    Text.not_mem_of_kind blanks' solid⟩

/-- A head ends in a name or in a colon and a type behind the name. -/
def Declares (s x : Text) : Prop :=
  EndsInName s x ∨
    ∃ front type, s = front ++ ':' :: type ∧ EndsInName front x ∧ isAnnotation type = true

/-- The declared name is the one that the head ends in, or that its type stands behind. The two do
not get into each other's way, as the colon of a type is not paired. -/
theorem declaredName?_eq_some_iff (first : ∀ c ∈ s.head?, isBlank c = false) :
    declaredName? s = some x ↔ Declares s x := by
  unfold declaredName?
  constructor
  · intro named
    split at named
    case h_1 name last =>
      exact .inl ((lastName?_eq_some_iff first).mp (last.trans named))
    case h_2 =>
      split at named
      case h_2 => cases named
      case h_1 before type split =>
        obtain ⟨rfl, -⟩ := splitLastColon?_eq_some_iff.mp split
        rw [Option.ite_none_right_eq_some] at named
        have ends := (lastName?_eq_some_iff (Text.first_of_append first)).mp named.2
        exact .inr ⟨before, type, rfl, ends, named.1⟩
  · rintro (ends | ⟨before, type, rfl, ends, annotates⟩)
    · rw [(lastName?_eq_some_iff first).mpr ends]
    · have once : ':' ∉ type := not_mem_of_isAnnotation annotates (by decide) (by decide)
      have unnamed : lastName? (words (before ++ ':' :: type)) = none := by
        cases found : lastName? (words (before ++ ':' :: type)) with
        | none => rfl
        | some y =>
          have paired := ((lastName?_eq_some_iff first).mp found).paired
          exact absurd (paired before type rfl once) ends.getLast?_ne
      rw [unnamed, splitLastColon?_append before once]
      exact (if_pos annotates).trans
        ((lastName?_eq_some_iff (Text.first_of_append first)).mpr ends)

/-- A head that declares a name does not end in a colon. -/
theorem Declares.getLast?_ne (declares : Declares s x) : s.getLast? ≠ some ':' := by
  rcases declares with ends | ⟨front, type, rfl, -, annotates⟩
  · exact ends.getLast?_ne
  · have some : type ≠ [] := by
      rintro rfl
      exact absurd annotates (by decide)
    have apart : ':' ∉ type := not_mem_of_isAnnotation annotates (by decide) (by decide)
    rw [← List.singleton_append, ← List.append_assoc]
    exact Text.getLast?_append_ne _ some apart

/-- The pieces of a head that declares a name. -/
theorem declares_iff : Declares s x ↔ ∃ leads marks gap type end',
    s = leads ++ (marks ++ (x ++ (gap ++ (type ++ end')))) ∧ (IsLeads leads ∧
      ∀ c ∈ marks, isMark c = true) ∧ isName x = true ∧ (∀ c ∈ gap, isBlank c = true) ∧
      ((∃ colon rest, type = colon ++ rest ∧ colon = ":".toList ∧ ∃ gap' core, rest = gap' ++ core ∧
        (∀ c ∈ gap', isBlank c = true) ∧ core ≠ [] ∧ ∀ c ∈ core, isTypeChar c = true) ∨
        type = []) ∧ ∀ c ∈ end', isBlank c = true := by
  constructor
  · rintro (⟨leads, marks, gap, rfl, known, all, named, blanks⟩ |
      ⟨_, type, rfl, ⟨leads, marks, gap, rfl, known, all, named, blanks⟩, annotates⟩)
    · exact ⟨leads, marks, gap, [], [], by simp, ⟨known, all⟩, named, blanks, .inr rfl, by simp⟩
    · obtain ⟨gap', core, end', rfl, blanks', typed, blanks''⟩ := isAnnotation_iff.mp annotates
      exact ⟨leads, marks, gap, ':' :: (gap' ++ core), end', by simp, ⟨known, all⟩, named, blanks,
        .inl ⟨[':'], _, rfl, rfl, gap', core, rfl, blanks', typed⟩, blanks''⟩
  · rintro ⟨leads, marks, gap, _, end', rfl, ⟨known, all⟩, named, blanks,
      ⟨_, _, rfl, rfl, gap', core, rfl, blanks', typed⟩ | rfl, blanks''⟩
    · exact .inr ⟨leads ++ (marks ++ (x ++ gap)), gap' ++ (core ++ end'), by simp,
        ⟨leads, marks, gap, rfl, known, all, named, blanks⟩,
        isAnnotation_iff.mpr ⟨gap', core, end', rfl, blanks', typed, blanks''⟩⟩
    · exact .inl ⟨leads, marks, gap ++ end', by simp, known, all, named,
        List.forall_mem_append.mpr ⟨blanks, blanks''⟩⟩

/-- An equals sign stands in no word before a name. -/
theorem IsLeads.bare {leads : Text} (known : IsLeads leads) : '=' ∉ leads := by
  induction known with
  | none => exact List.not_mem_nil
  | more first _ ih =>
    obtain ⟨word, gap, rfl, ⟨-, led⟩, -, blanks⟩ := first
    have bare : '=' ∉ word := Text.not_mem_of_kind (kind_of_isLead led) (by decide)
    simp only [List.mem_append, not_or]
    exact ⟨⟨bare, Text.not_mem_of_kind blanks (by decide)⟩, ih⟩

/-- A head that declares a name has no equals sign. -/
theorem Declares.bare (declares : Declares s x) : '=' ∉ s := by
  have named (front : Text) (ends : EndsInName front x) : '=' ∉ front := by
    obtain ⟨leads, marks, gap, rfl, known, all, named, blanks⟩ := ends
    simp only [List.mem_append, not_or]
    exact ⟨known.bare, Text.not_mem_of_kind all (by decide),
      not_mem_of_isName named (by decide) (by decide), Text.not_mem_of_kind blanks (by decide)⟩
  rcases declares with ends | ⟨front, type, rfl, ends, annotates⟩
  · exact named s ends
  · simp only [List.mem_append, List.mem_cons, not_or]
    exact ⟨named front ends, by decide, not_mem_of_isAnnotation annotates (by decide) (by decide)⟩

end Head

end DryRun
