import DryRun.Proofs.Text.Pieces
import DryRun.Query.Statement

/-!
# Searching for words

A query is not cut into tokens: each of its parts is searched for in the whole text. Where two texts
meet and no word goes on from the one into the other (`Apart`), a word stands either in the first
or in the second (`infix_append`). So each of the searches passes over a text in which it finds
nothing and goes on behind it (`splitFirst?_append`, `Keyword.split?_append`,
`Keyword.pieces_append`, `Statement.firstAt?_append`), whatever stands there.
-/

set_option autoImplicit false

namespace DryRun.Text

/-- No word goes on from the one character to the other. -/
def Apart (x y : Option Char) : Prop := ¬(x.any isWordChar = true ∧ y.any isWordChar = true)

instance (x y : Option Char) : Decidable (Apart x y) :=
  inferInstanceAs (Decidable ¬(x.any isWordChar = true ∧ y.any isWordChar = true))

/-- The front of a text keeps apart from anything. -/
theorem Apart.none_left (y : Option Char) : Apart none y := by simp [Apart]

/-- The end of a text keeps apart from anything. -/
theorem Apart.none_right (x : Option Char) : Apart x none := by simp [Apart]

/-- A character that is no word character keeps apart from what follows. -/
theorem Apart.of_left {x : Option Char} (ends : x.any isWordChar = false) (y : Option Char) :
    Apart x y := by simp [Apart, ends]

/-- A character that is no word character keeps apart from what precedes. -/
theorem Apart.of_right (x : Option Char) {y : Option Char} (starts : y.any isWordChar = false) :
    Apart x y := by simp [Apart, starts]

/-- What keeps apart from a word character that follows is no word character. -/
theorem Apart.left {x y : Option Char} (apart : Apart x y) (right : y.any isWordChar = true) :
    x.any isWordChar = false := by
  rw [Bool.eq_false_iff]
  exact fun left => apart ⟨left, right⟩

/-- What keeps apart from a word character that precedes is no word character. -/
theorem Apart.right {x y : Option Char} (apart : Apart x y) (left : x.any isWordChar = true) :
    y.any isWordChar = false := by
  rw [Bool.eq_false_iff]
  exact fun right => apart ⟨left, right⟩

/-- A text that keeps apart does so without its first character. -/
theorem Apart.tail {c : Char} {s : Text} {y : Option Char} (apart : Apart (c :: s).getLast? y) :
    Apart s.getLast? y := by
  cases s with
  | nil => exact .none_left y
  | cons d s => rwa [List.getLast?_cons_cons] at apart

/-- A text is a word: word characters only, one at least. -/
structure IsWord (s : Text) : Prop where
  some : s ≠ []
  solid : ∀ c ∈ s, isWordChar c = true

variable {word a b s : Text}

/-- A word begins with a word character. -/
theorem IsWord.head (isWord : IsWord word) : word.head?.any isWordChar = true := by
  obtain ⟨some, solid⟩ := isWord
  cases word with
  | nil => exact absurd rfl some
  | cons c word => exact solid c List.mem_cons_self

/-- A word ends with a word character. -/
theorem IsWord.last (isWord : IsWord word) : word.getLast?.any isWordChar = true := by
  rcases List.eq_nil_or_concat word with rfl | ⟨front, c, rfl⟩
  · exact absurd rfl isWord.some
  · simpa using isWord.solid c (by simp)

/-- A word does not stand in a single character that may not stand in words. -/
theorem IsWord.not_infix_singleton (isWord : IsWord word) {c : Char}
    (other : isWordChar c = false) : ¬word <:+: [c] := by
  intro inside
  have first := isWord.head
  cases word with
  | nil => exact isWord.some rfl
  | cons d word =>
    obtain rfl : d = c := List.mem_singleton.mp (inside.subset List.mem_cons_self)
    simp [other] at first

/-- A word at the front of two texts stands in the first one, unless that is empty. -/
theorem prefix_of_apart (isWord : IsWord word) (some : a ≠ []) (apart : Apart a.getLast? b.head?)
    (front : word <+: a ++ b) : word <+: a := by
  obtain ⟨rest, same⟩ := front
  obtain ⟨after, rfl, -⟩ | ⟨across, rfl, beyond⟩ := List.append_eq_append_iff.mp same
  · exact List.prefix_append word after
  · cases across with
    | nil => simp
    | cons c across =>
      have left : IsWord a := ⟨some, fun d member => isWord.solid d (List.mem_append_left _ member)⟩
      have right : isWordChar c = true := isWord.solid c (by simp)
      exact absurd ⟨left.last, by simpa [beyond] using right⟩ apart

/-- A word in two texts stands in one of them. -/
theorem infix_append (isWord : IsWord word) (apart : Apart a.getLast? b.head?)
    (inside : word <:+: a ++ b) : word <:+: a ∨ word <:+: b := by
  obtain ⟨before, after, same⟩ := inside
  rw [List.append_assoc] at same
  obtain ⟨left, rfl, front⟩ | ⟨right, rfl, rfl⟩ := List.append_eq_append_iff.mp same
  · by_cases some : left = []
    · subst some
      exact .inr (List.IsPrefix.isInfix ⟨after, front⟩)
    · have apart : Apart left.getLast? b.head? := by
        rwa [List.getLast?_append, Option.or_of_isSome (by simpa using some)] at apart
      have front := prefix_of_apart isWord some apart ⟨after, front⟩
      exact .inl (front.isInfix.trans (List.suffix_append before left).isInfix)
  · exact .inr ⟨right, after, by simp⟩

/-- A word that is not in a text does not begin there and end in what keeps apart from it. -/
theorem not_prefix_append {c : Char} (isWord : IsWord word)
    (apart : Apart (c :: a).getLast? b.head?) (missing : ¬word <:+: c :: a) :
    word.isPrefixOf (c :: a ++ b) = false := by
  rw [Bool.eq_false_iff]
  intro front
  exact missing (prefix_of_apart isWord (List.cons_ne_nil c a) apart
    (List.isPrefixOf_iff_prefix.mp front)).isInfix

/-- What is not in a text is not in its rest. -/
theorem not_infix_tail {c : Char} (missing : ¬word <:+: c :: a) : ¬word <:+: a :=
  fun inside => missing (inside.trans (List.suffix_cons c a).isInfix)

/-- A text without the word, and apart from what follows, is passed over when the word is looked
for. -/
theorem splitFirst?_append_of_not_infix (isWord : IsWord word) (apart : Apart a.getLast? b.head?)
    (missing : ¬word <:+: a) :
    splitFirst? word (a ++ b) =
      (splitFirst? word b).map fun parts => (a ++ parts.1, parts.2) := by
  induction a with
  | nil => simp
  | cons c a ih =>
    have here := not_prefix_append isWord apart missing
    rw [List.cons_append] at here ⊢
    rw [splitFirst?, here, ih apart.tail (not_infix_tail missing)]
    simp [Function.comp_def]

/-- A word at the front is found there. -/
theorem splitFirst?_self_append (word s : Text) : splitFirst? word (word ++ s) = some ([], s) := by
  cases word with
  | nil => cases s <;> simp [splitFirst?]
  | cons c word =>
    have here : (c :: word).isPrefixOf (c :: word ++ s) = true :=
      List.isPrefixOf_iff_prefix.mpr ⟨s, rfl⟩
    rw [List.cons_append] at here ⊢
    simp [splitFirst?, here]

/-- To occur in a text is to be an infix of it. -/
theorem occursIn_iff : occursIn word s = true ↔ word <:+: s := by
  induction s with
  | nil => simp [occursIn, List.infix_nil]
  | cons c s ih =>
    rw [occursIn, Bool.or_eq_true, List.isPrefixOf_iff_prefix, ih, List.infix_cons_iff]

end DryRun.Text

namespace DryRun.Keyword

open Text

variable {keywords : List Text} {keyword a b : Text} {previous : Option Char}

/-- A keyword that stands as a word is the longest word at that place, so it is the only one. -/
theorem eq_takeWhile (isWord : IsWord keyword) {s : Text} (front : keyword <+: s)
    (ends : (s.drop keyword.length).head?.any isWordChar = false) :
    keyword = s.takeWhile isWordChar := by
  obtain ⟨rest, rfl⟩ := front
  rw [List.drop_left] at ends
  rw [List.takeWhile_append_of_pos isWord.solid]
  cases rest with
  | nil => simp
  | cons c rest => simp_all

/-- A keyword counts exactly if it stands at the front with no word character on either side. -/
theorem after?_eq_some_iff (words : ∀ k ∈ keywords, IsWord k) {s rest : Text} :
    after? keywords previous s = some rest ↔
      previous.any isWordChar = false ∧
        ∃ k ∈ keywords, s = k ++ rest ∧ rest.head?.any isWordChar = false := by
  unfold after?
  by_cases starts : previous.any isWordChar = true
  · simp [starts]
  · simp only [starts, Bool.false_eq_true, if_false, true_and]
    constructor
    · intro found
      obtain ⟨k, known, found⟩ := List.exists_of_findSome?_eq_some found
      obtain ⟨⟨⟨rest', rfl⟩, ends⟩, rfl⟩ := by
        simpa [← List.head?_drop, -List.head?_drop] using found
      exact ⟨k, known, by simp, by simpa using ends⟩
    · rintro ⟨k, known, rfl, ends⟩
      induction keywords with
      | nil => exact absurd known (by simp)
      | cons first keywords ih =>
        have others := ih fun k member => words k (List.mem_cons_of_mem first member)
        rw [List.findSome?_cons]
        split
        next rest' found =>
          obtain ⟨⟨front, stops⟩, rfl⟩ := by simpa [-List.head?_drop] using found
          have same : first = k := by
            rw [eq_takeWhile (words first List.mem_cons_self) front stops,
              ← eq_takeWhile (words k known) (List.prefix_append k rest) (by simpa using ends)]
          simp [same]
        next missing =>
          rcases List.mem_cons.mp known with rfl | known
          · simp [ends, -List.head?_drop] at missing
          · exact others known

/-- A keyword with no word character on either side counts. -/
theorem after?_append_of_mem (words : ∀ k ∈ keywords, IsWord k) (known : keyword ∈ keywords)
    (starts : previous.any isWordChar = false) (ends : b.head?.any isWordChar = false) :
    after? keywords previous (keyword ++ b) = some b :=
  (after?_eq_some_iff words).mpr ⟨starts, keyword, known, rfl, ends⟩

/-- What follows a keyword at the front of a text is not changed by what comes behind the text. -/
theorem after?_append (words : ∀ k ∈ keywords, IsWord k) (some : a ≠ [])
    (apart : Apart a.getLast? b.head?) :
    after? keywords previous (a ++ b) = (after? keywords previous a).map (· ++ b) := by
  ext rest
  rw [Option.map_eq_some_iff, after?_eq_some_iff words]
  constructor
  · rintro ⟨starts, k, known, same, ends⟩
    have front := prefix_of_apart (words k known) some apart ⟨rest, same.symm⟩
    obtain ⟨tail, rfl⟩ := front
    obtain rfl : tail ++ b = rest := by simpa using same
    refine ⟨tail, (after?_eq_some_iff words).mpr ⟨starts, k, known, rfl, ?_⟩, rfl⟩
    cases tail with
    | nil => rfl
    | cons c tail => exact ends
  · rintro ⟨tail, found, rfl⟩
    obtain ⟨starts, k, known, rfl, ends⟩ := (after?_eq_some_iff words).mp found
    refine ⟨starts, k, known, List.append_assoc k tail b, ?_⟩
    cases tail with
    | nil => exact apart.right (by simpa using (words k known).last)
    | cons c tail => exact ends

/-- Where no keyword stands at the front none counts. -/
theorem after?_eq_none_of_not_prefix {s : Text} (words : ∀ k ∈ keywords, IsWord k)
    (missing : ∀ k ∈ keywords, ¬k <+: s) : after? keywords previous s = none := by
  rw [Option.eq_none_iff_forall_ne_some]
  intro rest found
  obtain ⟨-, k, known, rfl, -⟩ := (after?_eq_some_iff words).mp found
  exact missing k known (List.prefix_append k rest)

/-- The character before a text does not matter where no word could go on across the place. -/
theorem after?_of_apart (words : ∀ k ∈ keywords, IsWord k) {s : Text}
    (apart : Apart previous s.head?) : after? keywords previous s = after? keywords none s := by
  ext rest
  rw [after?_eq_some_iff words, after?_eq_some_iff words]
  refine ⟨fun ⟨_, found⟩ => ⟨rfl, found⟩, fun ⟨_, k, known, same, ends⟩ =>
    ⟨?_, k, known, same, ends⟩⟩
  refine apart.left ?_
  rw [same, List.head?_append, Option.or_of_isSome (by simpa using (words k known).some)]
  exact (words k known).head

/-- What precedes a text does not matter to the search if it keeps apart. -/
theorem split?_of_apart (words : ∀ k ∈ keywords, IsWord k) {s : Text}
    (apart : Apart previous s.head?) : split? keywords previous s = split? keywords none s := by
  cases s with
  | nil => rfl
  | cons c s => rw [split?, split?, after?_of_apart words apart]

/-- A text that has no keyword is not cut. -/
theorem split?_of_not_infix (words : ∀ k ∈ keywords, IsWord k)
    (missing : ∀ k ∈ keywords, ¬k <:+: a) :
    split? keywords previous a = none := by
  induction a generalizing previous with
  | nil => rfl
  | cons c a ih =>
    have here : ∀ k ∈ keywords, ¬k <+: c :: a := fun k known front =>
      missing k known front.isInfix
    rw [split?, after?_eq_none_of_not_prefix words here,
      ih fun k known => not_infix_tail (missing k known)]
    rfl

/-- In a word, or in no character at all, a keyword is only found if it is the whole text. -/
theorem split?_of_ne (isWord : IsWord keyword) {s : Text} (solid : ∀ c ∈ s, isWordChar c = true)
    (other : s ≠ keyword) : split? [keyword] none s = none := by
  have words : ∀ k ∈ [keyword], IsWord k := by simpa using isWord
  have inside (c : Char) (s : Text) (first : isWordChar c = true)
      (solid : ∀ d ∈ s, isWordChar d = true) : split? [keyword] (some c) s = none := by
    induction s generalizing c with
    | nil => rfl
    | cons d s ih =>
      obtain ⟨second, others⟩ := List.forall_mem_cons.mp solid
      rw [split?, after?, if_pos (by simpa using first), ih d second others]
      rfl
  cases s with
  | nil => rfl
  | cons c s =>
    obtain ⟨first, others⟩ := List.forall_mem_cons.mp solid
    have here : after? [keyword] none (c :: s) = none := by
      rw [Option.eq_none_iff_forall_ne_some]
      intro rest found
      obtain ⟨-, k, known, same, ends⟩ := (after?_eq_some_iff words).mp found
      obtain rfl := List.mem_singleton.mp known
      cases rest with
      | nil => exact other (by simpa using same)
      | cons d rest => simp [solid d (by simp [same])] at ends
    rw [split?, here, inside c s first others]
    rfl

/-- The last character before what follows a text. -/
theorem getLast?_cons_or {c : Char} {s : Text} {previous : Option Char} :
    (c :: s).getLast?.or previous = s.getLast?.or (some c) := by
  cases s with
  | nil => rfl
  | cons d s => simp [List.getLast?_cons]

/-- A text that is not cut, and apart from what follows, is passed over. -/
theorem split?_append (words : ∀ k ∈ keywords, IsWord k) (apart : Apart a.getLast? b.head?)
    (missing : split? keywords previous a = none) :
    split? keywords previous (a ++ b) =
      (split? keywords (a.getLast?.or previous) b).map fun parts => (a ++ parts.1, parts.2) := by
  induction a generalizing previous with
  | nil => simp
  | cons c a ih =>
    rw [split?] at missing
    split at missing
    case h_1 => cases missing
    case h_2 nothing =>
      have here : after? _ previous (c :: a ++ _) = _ :=
        after?_append words (List.cons_ne_nil c a) apart
      rw [nothing, Option.map_none] at here
      rw [List.cons_append] at here ⊢
      rw [split?, here, ih apart.tail (by simpa using missing), getLast?_cons_or]
      simp [Function.comp_def]

/-- A text in which no keyword is found is passed over up to a keyword behind it. -/
theorem split?_append_keyword (words : ∀ k ∈ keywords, IsWord k) (known : keyword ∈ keywords)
    (missing : split? keywords previous a = none)
    (starts : (a.getLast?.or previous).any isWordChar = false)
    (ends : b.head?.any isWordChar = false) :
    split? keywords previous (a ++ (keyword ++ b)) = some (a, b) := by
  have apart : Apart a.getLast? (keyword ++ b).head? := by
    rintro ⟨left, -⟩
    cases last : a.getLast? <;> simp_all
  have here := after?_append_of_mem words known starts ends
  rw [split?_append words apart missing]
  cases keyword with
  | nil => exact absurd rfl (words [] known).some
  | cons c keyword =>
    rw [List.cons_append] at here ⊢
    simp [split?, here]

section Pieces

variable (isWord : IsWord keyword)

include isWord

/-- If a keyword is a word, all keywords of the list with it alone are. -/
theorem forall_isWord_singleton : ∀ k ∈ [keyword], IsWord k := by simpa using isWord

omit isWord in
/-- A text that is not cut is one piece. -/
theorem pieces_of_none (missing : split? [keyword] previous a = none) :
    pieces keyword previous a = [a] := by
  induction a generalizing previous with
  | nil => rw [pieces]
  | cons c a ih =>
    rw [split?] at missing
    split at missing
    case h_1 => cases missing
    case h_2 nothing =>
      rw [pieces, nothing, ih (by simpa using missing)]
      rfl

/-- A text in which the keyword is not found is the piece before the keyword behind it. -/
theorem pieces_append (missing : split? [keyword] previous a = none)
    (starts : (a.getLast?.or previous).any isWordChar = false)
    (ends : b.head?.any isWordChar = false) :
    pieces keyword previous (a ++ (keyword ++ b)) = a :: pieces keyword keyword.getLast? b := by
  have words := forall_isWord_singleton isWord
  induction a generalizing previous with
  | nil =>
    have here : after? [keyword] previous (keyword ++ b) = some b :=
      after?_append_of_mem words List.mem_cons_self starts ends
    rw [List.nil_append]
    cases keyword with
    | nil => exact absurd rfl isWord.some
    | cons c keyword =>
      rw [List.cons_append] at here ⊢
      simp [pieces, here]
  | cons c a ih =>
    rw [split?] at missing
    split at missing
    case h_1 => cases missing
    case h_2 nothing =>
      have apart : Apart (c :: a).getLast? (keyword ++ b).head? := by
        rintro ⟨left, -⟩
        rw [List.getLast?_cons] at left starts
        simp_all
      have here : after? _ previous (c :: a ++ _) = _ :=
        after?_append words (List.cons_ne_nil c a) apart
      rw [nothing, Option.map_none] at here
      rw [getLast?_cons_or] at starts
      rw [List.cons_append] at here ⊢
      rw [pieces, here, ih (by simpa using missing) starts]
      rfl

end Pieces

end DryRun.Keyword

namespace DryRun.Statement

open Text

variable {α : Type} {f : Text → Option α} {word a b : Text}

/-- A part that begins with a word is not found in a text without that word, and is searched for
behind it. -/
theorem firstAt?_append (isWord : IsWord word) (begins : ∀ s, (f s).isSome → word <+: s)
    (apart : Apart a.getLast? b.head?) (missing : ¬word <:+: a) :
    firstAt? f (a ++ b) = firstAt? f b := by
  induction a with
  | nil => rfl
  | cons c a ih =>
    have here : f (c :: a ++ b) = none := by
      rw [← Option.not_isSome_iff_eq_none]
      intro found
      have front := begins _ found
      exact missing (prefix_of_apart isWord (List.cons_ne_nil c a) apart front).isInfix
    rw [List.cons_append] at here ⊢
    rw [firstAt?, here]
    exact ih apart.tail (not_infix_tail missing)

/-- What begins with a word is not found in a text without the word. -/
theorem firstAt?_of_not_infix (isWord : IsWord word) (begins : ∀ s, (f s).isSome → word <+: s)
    (missing : ¬word <:+: a) : firstAt? f a = none := by
  have whole := firstAt?_append (b := []) isWord begins (.none_right _) missing
  rw [List.append_nil] at whole
  rw [whole, firstAt?, ← Option.not_isSome_iff_eq_none]
  exact fun found => isWord.some (List.prefix_nil.mp (begins [] found))

/-- What is read at the front of a text is what is first found in it. -/
theorem firstAt?_of_some {result : α} {s : Text} (found : f s = some result) :
    firstAt? f s = some result := by
  cases s with
  | nil => exact found
  | cons c s => rw [firstAt?, found]

end DryRun.Statement
