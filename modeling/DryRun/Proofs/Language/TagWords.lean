import Mathlib.Data.List.Find
import DryRun.Language.Tag
import DryRun.Proofs.Query.Search
import DryRun.Proofs.Text.Context

/-!
# The words of a tag

A tag is read word by word. A fragment that stands in a tag stands in one of its words, since no
fragment has a space in it; punctuation around a word neither makes nor breaks a fragment, since all
of them begin and end with other characters (`Text.infix_join_iff`, `Text.infix_dressed_iff`). The
words of a tag in the narrow sense, between any characters that separate them, are those of its
words between spaces. Lowercase does not look across a space, and not at punctuation either
(`lower_dressed`).

A tag that is an alias as a whole is also one as a word, so the search for the whole tag adds
nothing to the two others (`ofNormalizedTag_eq`). What a tag names thus hangs on the set of its
words alone (`ofTag_tagOf`).
-/

set_option autoImplicit false

namespace DryRun

namespace Text

variable {pattern s t : Text} {c : Char}

/-! ## Where a pattern can stand -/

/-- A pattern without the separator is in a joined text exactly if it is in one of the parts. -/
theorem infix_join_iff (some : pattern ≠ []) (bare : c ∉ pattern) {parts : List Text} :
    pattern <:+: join [c] parts ↔ ∃ part ∈ parts, pattern <:+: part := by
  induction parts with
  | nil => simp [join, some]
  | cons first parts ih =>
    cases parts with
    | nil => simp [join]
    | cons next parts =>
      rw [join, List.append_assoc, List.singleton_append, infix_append_cons_iff some bare, ih]
      simp only [List.mem_cons, exists_eq_or_imp]

/-- What does not begin with a character of a kind does not begin in a run of that kind. -/
theorem infix_of_run_append {run : Text} (first : ∀ d ∈ pattern.head?, d ∉ run)
    (inside : pattern <:+: run ++ s) : pattern <:+: s := by
  induction run with
  | nil => exact inside
  | cons d run ih =>
    refine ih (fun e known member => first e known (List.mem_cons_of_mem d member)) ?_
    rcases List.infix_cons_iff.mp inside with front | later
    · cases pattern with
      | nil => exact List.nil_infix
      | cons e pattern =>
        obtain rfl : e = d := (List.cons_prefix_cons.mp front).1
        exact absurd List.mem_cons_self (first e rfl)
    · exact later

/-- A pattern that begins and ends with other characters stands in a text between two runs exactly
if it stands in the text. -/
theorem infix_between_iff {before after : Text} (first : ∀ d ∈ pattern.head?, d ∉ before)
    (last : ∀ d ∈ pattern.getLast?, d ∉ after) :
    pattern <:+: before ++ s ++ after ↔ pattern <:+: s := by
  constructor
  · intro inside
    rw [List.append_assoc] at inside
    have front := infix_of_run_append first inside
    rw [← List.reverse_infix, List.reverse_append] at front
    rw [← List.reverse_infix]
    refine infix_of_run_append (fun d known member => ?_) front
    rw [List.head?_reverse] at known
    exact last d known (List.mem_reverse.mp member)
  · intro inside
    exact inside.trans ⟨before, after, rfl⟩

/-! ## Pieces -/

variable {isSeparator : Char → Bool} {P : Text → Bool}

/-- Separators around a text add empty pieces only. -/
theorem any_pieces_between (empty : P [] = false) {before after : Text}
    (left : ∀ d ∈ before, isSeparator d = true) (right : ∀ d ∈ after, isSeparator d = true) :
    (pieces isSeparator (before ++ s ++ after)).any P = (pieces isSeparator s).any P := by
  have behind : (pieces isSeparator (s ++ after)).any P = (pieces isSeparator s).any P := by
    induction after generalizing s with
    | nil => rw [List.append_nil]
    | cons d after ih =>
      obtain ⟨separator, others⟩ := List.forall_mem_cons.mp right
      have rest := ih (s := []) others
      rw [List.nil_append] at rest
      rw [pieces_append_separator separator, List.any_append, rest]
      simp [pieces, empty]
  induction before with
  | nil => exact behind
  | cons d before ih =>
    obtain ⟨separator, others⟩ := List.forall_mem_cons.mp left
    rw [List.cons_append, List.cons_append, pieces, if_pos separator, List.any_cons, empty,
      Bool.false_or, ih others]

/-- A joined text has a piece of some kind exactly if one of the parts has. -/
theorem any_pieces_join (empty : P [] = false) (separator : isSeparator c = true)
    (parts : List Text) :
    (pieces isSeparator (join [c] parts)).any P =
      parts.any fun part => (pieces isSeparator part).any P := by
  induction parts with
  | nil => simp [join, pieces, empty]
  | cons first parts ih =>
    cases parts with
    | nil => simp [join]
    | cons next parts =>
      rw [join, List.append_assoc, List.singleton_append, pieces_append_separator separator,
        List.any_append, ih, List.any_cons (a := first)]

/-! ## Lowercase -/

/-- Words are lowered one by one. -/
theorem lower_join (parts : List Text) : lower (join [' '] parts) = join [' '] (parts.map lower) := by
  induction parts with
  | nil => rfl
  | cons first parts ih =>
    cases parts with
    | nil => rfl
    | cons next parts =>
      have barrier : IsBarrier ' ' := isBarrier_of_isBlank (by decide)
      rw [join, List.append_assoc, List.singleton_append, barrier.lower_append, ih]
      simp [join, show lowerChar ' ' = [' '] by decide]

/-- Every character has a small form. -/
theorem lowerChar_ne_nil (c : Char) : lowerChar c ≠ [] := by
  unfold lowerChar caseForm
  split
  · exact List.cons_ne_nil _ _
  · split
    case h_1 codes found =>
      have all : ∀ entry ∈ lowerExpansions, entry.2 ≠ [] := by decide
      obtain ⟨front, back, entries, -⟩ := List.lookup_eq_some_iff.mp found
      exact mt List.map_eq_nil_iff.mp (all (c.toNat, codes) (by simp [entries]))
    case h_2 => exact List.cons_ne_nil _ _

/-- A text that is not empty is not so in small letters. -/
theorem lower_ne_nil (some : s ≠ []) : lower s ≠ [] := by
  cases s with
  | nil => exact absurd rfl some
  | cons c s =>
    rw [lower, lowerFrom]
    refine List.append_ne_nil_of_left_ne_nil ?_ _
    split
    · exact List.cons_ne_nil _ _
    · exact lowerChar_ne_nil c

/-- A character has no other form in lower case and no case of its own. -/
structure IsCaseless (c : Char) : Prop where
  form : lowerForm true c = [c] ∧ lowerForm false c = [c]
  uncased : inRanges casedRanges c.toNat = false

section Caseless

variable (caseless : ∀ d ∈ s, IsCaseless d)
include caseless

/-- A text without letter case is lowered to itself. -/
theorem lowerBetween_of_caseless (before after : Text) : lowerBetween before after s = s := by
  induction s generalizing before with
  | nil => rfl
  | cons d s ih =>
    obtain ⟨first, others⟩ := List.forall_mem_cons.mp caseless
    have form (b : Bool) : lowerForm b d = [d] := by
      cases b
      · exact first.form.2
      · exact first.form.1
    rw [lowerBetween, form, ih others]
    rfl

/-- In a text without letter case no cased letter is met. -/
theorem meetsCased_of_caseless : meetsCased s = false := by
  unfold meetsCased
  split
  case h_1 d found => exact (caseless d (List.mem_of_find?_eq_some found)).uncased
  case h_2 => rfl

end Caseless

/-- Characters without case around a text stay, and do not change its lowercase. -/
theorem lower_between {before after : Text} (left : ∀ d ∈ before, IsCaseless d)
    (right : ∀ d ∈ after, IsCaseless d) (s : Text) :
    lower (before ++ s ++ after) = before ++ lower s ++ after := by
  have behind (front : Text) : lowerFrom front after = after := by
    have whole := lowerFrom_append_between front after []
    rwa [List.append_nil, lowerFrom, List.append_nil, lowerBetween_of_caseless right] at whole
  have turned : ∀ d ∈ before.reverse, IsCaseless d := fun d member =>
    left d (List.mem_reverse.mp member)
  rw [lower_append_append, lowerBetween_of_caseless left, behind,
    lowerBetween_eq_lower (fun _ => meetsCased_of_caseless turned)
      fun _ => meetsCased_of_caseless right]

end Text

namespace Language

/-- The marks that may be put around a word of a tag: the punctuation of ASCII but for `#`, `+` and
`_`, which belong to words. -/
def punctuation : List Char := "!\x22$%&\x27()*,-./:;<=>?@[\\]^\x60\x7b|\x7d~".toList

/-- A word of a tag with punctuation around it. -/
structure DressedWord where
  before : Text
  word : Text
  after : Text
  worded : word ≠ []
  solid : ∀ c ∈ word, Text.isBlank c = false
  opening : ∀ c ∈ before, c ∈ punctuation
  closing : ∀ c ∈ after, c ∈ punctuation

def DressedWord.text (w : DressedWord) : Text := w.before ++ w.word ++ w.after

/-- The tag that consists of the given words, with single spaces between them. -/
def tagOf (ws : List DressedWord) : Text := Text.join [' '] (ws.map DressedWord.text)

section Punctuation

variable {c : Char} (mark : c ∈ punctuation)
include mark

/-- A mark separates the words of a tag. -/
theorem separatesTagWords_of_mark : separatesTagWords c = true :=
  Text.forall_mem_of_all (by decide) c mark

/-- No mark is blank. -/
theorem isBlank_of_mark : Text.isBlank c = false := Text.forall_mem_of_all (by decide) c mark

/-- No mark has a letter case. -/
theorem isCaseless_of_mark : Text.IsCaseless c := by
  have all : ∀ c ∈ punctuation, (Text.lowerForm true c = [c] ∧ Text.lowerForm false c = [c]) ∧
      Text.inRanges Text.casedRanges c.toNat = false := by decide +kernel
  exact ⟨(all c mark).1, (all c mark).2⟩

end Punctuation

namespace DressedWord

/-- The marks around a word stay when it is lowered. -/
theorem lower_text (w : DressedWord) :
    Text.lower w.text = w.before ++ Text.lower w.word ++ w.after :=
  Text.lower_between (fun d member => isCaseless_of_mark (w.opening d member))
    (fun d member => isCaseless_of_mark (w.closing d member)) w.word

/-- A word with marks around it is not empty. -/
theorem text_ne_nil (w : DressedWord) : w.text ≠ [] := by
  simp [text, w.worded]

/-- The word of a dressed one, with nothing around it. -/
def bare (w : DressedWord) : DressedWord :=
  ⟨[], w.word, [], w.worded, w.solid, by simp, by simp⟩

/-- The tag of a bare word is the word. -/
theorem tagOf_bare (w : DressedWord) : tagOf [w.bare] = w.word := by
  simp [tagOf, Text.join, text, bare]

/-- There are no blanks in a word with marks around it. -/
theorem isBlank_text (w : DressedWord) : ∀ c ∈ w.text, Text.isBlank c = false := by
  intro c member
  rcases List.mem_append.mp member with front | closing
  · rcases List.mem_append.mp front with opening | inside
    · exact isBlank_of_mark (w.opening c opening)
    · exact w.solid c inside
  · exact isBlank_of_mark (w.closing c closing)

end DressedWord

/-- A tag begins with its first word. -/
theorem head?_tagOf (w : DressedWord) (ws : List DressedWord) :
    (tagOf (w :: ws)).head? = w.text.head? := by
  cases ws with
  | nil => rfl
  | cons next ws =>
    obtain ⟨c, rest, whole⟩ := List.exists_cons_of_ne_nil w.text_ne_nil
    simp [tagOf, Text.join, whole]

/-- A tag of some words is not empty. -/
theorem tagOf_ne_nil (w : DressedWord) (ws : List DressedWord) : tagOf (w :: ws) ≠ [] := by
  have first := head?_tagOf w ws
  rintro empty
  rw [empty, List.head?_nil, eq_comm, List.head?_eq_none_iff] at first
  exact w.text_ne_nil first

/-- A tag that is made of words has no blanks at its ends. -/
theorem isStripped_tagOf (ws : List DressedWord) : Text.IsStripped (tagOf ws) := by
  constructor
  · intro c known
    cases ws with
    | nil => cases known
    | cons w ws =>
      rw [head?_tagOf] at known
      exact w.isBlank_text c (List.mem_of_head? known)
  · intro c known
    induction ws with
    | nil => cases known
    | cons w ws ih =>
      cases ws with
      | nil => exact w.isBlank_text c (List.mem_of_getLast? known)
      | cons next ws =>
        refine ih ?_
        have more := tagOf_ne_nil next ws
        rw [tagOf, List.map_cons, List.map_cons, Text.join, ← List.map_cons, ← tagOf,
          List.getLast?_append, Option.or_of_isSome (by simpa using more)] at known
        exact known

/-- A tag is normalized word by word. -/
theorem normalizeTag_tagOf (ws : List DressedWord) :
    normalizeTag (tagOf ws) = Text.join [' '] (ws.map fun w => Text.lower w.text) := by
  obtain ⟨first, last⟩ := isStripped_tagOf ws
  rw [normalizeTag, Text.strip_eq_self first last, tagOf, Text.lower_join, List.map_map]
  rfl

namespace Listing

variable {listing : Listing}

/-- Whether a tag has one of the listing's fragments inside. -/
def hasFragment (listing : Listing) (tag : Text) : Bool :=
  listing.fragments.any fun fragment => Text.occursIn fragment.toList tag

/-- The fragments have no space inside and no punctuation at their ends, and no alias is empty. -/
structure WellNamed (listing : Listing) : Prop where
  some : ∀ fragment ∈ listing.fragments, fragment.toList ≠ []
  solid : ∀ fragment ∈ listing.fragments, ' ' ∉ fragment.toList
  first : ∀ fragment ∈ listing.fragments, fragment.toList.head?.all (· ∉ punctuation) = true
  last : ∀ fragment ∈ listing.fragments, fragment.toList.getLast?.all (· ∉ punctuation) = true
  named : listing.hasAlias [] = false

/-- Every listing is well named. -/
theorem wellNamed_of_mem (member : listing ∈ catalogue) : listing.WellNamed := by
  have all : ∀ listing ∈ catalogue,
      (∀ fragment ∈ listing.fragments, fragment.toList ≠ [] ∧ ' ' ∉ fragment.toList ∧
        fragment.toList.head?.all (· ∉ punctuation) = true ∧
        fragment.toList.getLast?.all (· ∉ punctuation) = true) ∧
      listing.hasAlias [] = false := by decide
  obtain ⟨fragments, named⟩ := all listing member
  exact ⟨fun f known => (fragments f known).1, fun f known => (fragments f known).2.1,
    fun f known => (fragments f known).2.2.1, fun f known => (fragments f known).2.2.2, named⟩

namespace WellNamed

variable (named : listing.WellNamed) (ws : List DressedWord)
include named

/-- A fragment stands in a tag exactly if it stands in one of its words. -/
theorem hasFragment_normalizeTag :
    listing.hasFragment (normalizeTag (tagOf ws)) =
      (ws.map DressedWord.word).any fun word => listing.hasFragment (Text.lower word) := by
  have inside {fragment : String} (known : fragment ∈ listing.fragments) :
      fragment.toList <:+: normalizeTag (tagOf ws) ↔
        ∃ w ∈ ws, fragment.toList <:+: Text.lower w.word := by
    have apart {marks : Text} (within : ∀ c ∈ marks, c ∈ punctuation) {end? : Option Char}
        (other : end?.all (· ∉ punctuation) = true) : ∀ d ∈ end?, d ∉ marks := by
      rintro d rfl mark
      exact of_decide_eq_true other (within d mark)
    rw [normalizeTag_tagOf, Text.infix_join_iff (named.some fragment known)
      (named.solid fragment known)]
    simp only [List.mem_map, exists_exists_and_eq_and]
    refine exists_congr fun w => and_congr_right fun _ => ?_
    rw [w.lower_text]
    exact Text.infix_between_iff (apart w.opening (named.first fragment known))
      (apart w.closing (named.last fragment known))
  rw [Bool.eq_iff_iff]
  simp only [hasFragment, List.any_map, List.any_eq_true, Text.occursIn_iff, Function.comp_apply]
  constructor
  · rintro ⟨fragment, known, stands⟩
    obtain ⟨w, member, stands⟩ := (inside known).mp stands
    exact ⟨w, member, fragment, known, stands⟩
  · rintro ⟨w, member, fragment, known, stands⟩
    exact ⟨fragment, known, (inside known).mpr ⟨w, member, stands⟩⟩

/-- A word of a tag is an alias exactly if a word of one of its words is. -/
theorem claimsWord_normalizeTag :
    listing.claimsWord (normalizeTag (tagOf ws)) =
      (ws.map DressedWord.word).any fun word => listing.claimsWord (Text.lower word) := by
  have words (w : DressedWord) : (Text.pieces separatesTagWords (Text.lower w.text)).any
      listing.hasAlias = listing.claimsWord (Text.lower w.word) := by
    rw [w.lower_text]
    exact Text.any_pieces_between named.named
      (fun d member => separatesTagWords_of_mark (w.opening d member))
      fun d member => separatesTagWords_of_mark (w.closing d member)
  rw [normalizeTag_tagOf, claimsWord, tagWords,
    Text.any_pieces_join named.named (by decide), List.any_map, List.any_map]
  exact List.any_congr rfl words

end WellNamed

end Listing

/-- What a tag names, as its words say: the first language of the catalogue that has a fragment in
one of them, or else the first one that has an alias among their own words. -/
def ofWords (words : List Text) : Language :=
  (((catalogue.find? fun listing => words.any fun word => listing.hasFragment (Text.lower word)).or
    (catalogue.find? fun listing => words.any fun word =>
      listing.claimsWord (Text.lower word))).map Listing.language).getD fallback

/-- What is one language's alias is so as a word as well, and has no fragment inside. -/
theorem hasAlias_of_alias {tag : Text} {listing : Listing} (member : listing ∈ catalogue)
    (alias_ : listing.hasAlias tag = true) :
    (∀ other ∈ catalogue, other.hasAlias tag = other.claimsWord tag) ∧
      ∀ other ∈ catalogue, other.hasFragment tag = false := by
  have all : ∀ name ∈ catalogue.flatMap Listing.aliases, ∀ other ∈ catalogue,
      other.hasAlias name.toList = other.claimsWord name.toList ∧
        other.hasFragment name.toList = false := by decide
  obtain ⟨name, known, same⟩ := List.any_eq_true.mp alias_
  obtain rfl : name.toList = tag := beq_iff_eq.mp same
  have words := all name (List.mem_flatMap.mpr ⟨listing, member, known⟩)
  exact ⟨fun other listed => (words other listed).1, fun other listed => (words other listed).2⟩

/-- No two languages share an alias. -/
theorem aliases_apart :
    catalogue.Pairwise fun listing later => ∀ name ∈ later.aliases,
      listing.hasAlias name.toList = false := by
  decide

/-- An alias finds the listing that has it. -/
theorem find?_hasAlias {tag : Text} {listing : Listing} (member : listing ∈ catalogue)
    (alias_ : listing.hasAlias tag = true) : catalogue.find? (·.hasAlias tag) = some listing := by
  obtain ⟨earlier, later, whole⟩ := List.append_of_mem member
  obtain ⟨name, known, same⟩ := List.any_eq_true.mp alias_
  obtain rfl : name.toList = tag := beq_iff_eq.mp same
  refine List.find?_eq_some_iff_append.mpr ⟨alias_, earlier, later, whole, fun other before => ?_⟩
  have apart := aliases_apart
  rw [whole, List.pairwise_append] at apart
  simp [apart.2.2 other before listing List.mem_cons_self name known]

/-- The search for a word of an alias finds the language whose alias it is. -/
theorem find?_claimsWord_of_alias {tag : Text} {listing : Listing} (member : listing ∈ catalogue)
    (alias_ : listing.hasAlias tag = true) :
    catalogue.find? (·.claimsWord tag) = some listing := by
  rw [← List.find?_congr (hasAlias_of_alias member alias_).1, find?_hasAlias member alias_]

/-- The search for a tag as a whole adds nothing to those for a fragment and for a word. -/
theorem ofNormalizedTag_eq {tag : Text} (some : tag ≠ []) :
    ofNormalizedTag tag =
      (((catalogue.find? (·.hasFragment tag)).or (catalogue.find? (·.claimsWord tag))).map
        Listing.language).getD fallback := by
  rw [ofNormalizedTag, if_neg (by simpa using some)]
  by_cases named : ∃ listing ∈ catalogue, listing.hasAlias tag = true
  · obtain ⟨listing, member, alias_⟩ := named
    obtain ⟨-, bare⟩ := hasAlias_of_alias member alias_
    have whole : catalogue.find? (·.claims tag) = catalogue.find? (·.hasAlias tag) :=
      List.find?_congr fun other listed => by
        rw [Listing.claims, ← Listing.hasFragment, bare other listed, Bool.or_false]
    have none : catalogue.find? (·.hasFragment tag) = none :=
      List.find?_eq_none.mpr fun other listed => by simp [bare other listed]
    rw [whole, none, find?_hasAlias member alias_, find?_claimsWord_of_alias member alias_]
    rfl
  · have same : catalogue.find? (·.claims tag) = catalogue.find? (·.hasFragment tag) := by
      refine List.find?_congr fun listing member => ?_
      have other : listing.hasAlias tag = false :=
        Bool.eq_false_iff.mpr fun alias_ => named ⟨listing, member, alias_⟩
      rw [Listing.claims, other, Bool.false_or, Listing.hasFragment]
    rw [same]
    cases catalogue.find? (·.hasFragment tag) with
    | some listing => rfl
    | none => cases catalogue.find? (·.claimsWord tag) <;> rfl

/-- The language of a tag is that of its words. -/
theorem ofTag_tagOf_eq {ws : List DressedWord} (some : ws ≠ []) :
    ofTag (.some (tagOf ws)) = ofWords (ws.map DressedWord.word) := by
  obtain ⟨w, rest, rfl⟩ := List.exists_cons_of_ne_nil some
  have nonempty := tagOf_ne_nil w rest
  obtain ⟨first, last⟩ := isStripped_tagOf (w :: rest)
  have normal : normalizeTag (tagOf (w :: rest)) ≠ [] := by
    rw [normalizeTag, Text.strip_eq_self first last]
    exact Text.lower_ne_nil nonempty
  have unfolded : ofTag (.some (tagOf (w :: rest))) =
      ofNormalizedTag (normalizeTag (tagOf (w :: rest))) := by
    unfold ofTag
    split
    case h_1 absent => cases absent
    case h_2 empty => exact absurd (Option.some.inj empty) nonempty
    case h_3 tag _ whole => rw [Option.some.inj whole]
  rw [unfolded, ofNormalizedTag_eq normal, ofWords,
    List.find?_congr fun _ member =>
      (Listing.wellNamed_of_mem member).hasFragment_normalizeTag (w :: rest),
    List.find?_congr fun _ member =>
      (Listing.wellNamed_of_mem member).claimsWord_normalizeTag (w :: rest)]

/-- A word says nothing if no language has a fragment in it or an alias among its own words. -/
def IsSilent (word : Text) : Prop :=
  ∀ listing ∈ catalogue, listing.hasFragment (Text.lower word) = false ∧
    listing.claimsWord (Text.lower word) = false

instance (word : Text) : Decidable (IsSilent word) :=
  inferInstanceAs (Decidable (∀ listing ∈ catalogue, _))

/-- The order and the number of the words do not matter. -/
theorem ofWords_congr {words others : List Text} (same : ∀ word, word ∈ words ↔ word ∈ others) :
    ofWords words = ofWords others := by
  have any (P : Text → Bool) : words.any P = others.any P := by
    rw [Bool.eq_iff_iff, List.any_eq_true, List.any_eq_true]
    exact exists_congr fun word => and_congr_left fun _ => same word
  simp only [ofWords, any]

/-- An alias among words that say nothing decides what they name. -/
theorem ofWords_of_alias {words : List Text} {word : Text} {listing : Listing} (known : word ∈ words)
    (member : listing ∈ catalogue) (alias_ : listing.hasAlias (Text.lower word) = true)
    (others : ∀ other ∈ words, other ≠ word → IsSilent other) : ofWords words = listing.language := by
  have bare : catalogue.find? (fun listing => words.any fun word =>
      listing.hasFragment (Text.lower word)) = none := by
    refine List.find?_eq_none.mpr fun claimant listed => ?_
    rw [Bool.not_eq_true, List.any_eq_false]
    intro other within
    rw [Bool.not_eq_true]
    by_cases itself : other = word
    · rw [itself]
      exact (hasAlias_of_alias member alias_).2 claimant listed
    · exact (others other within itself claimant listed).1
  have worded : catalogue.find? (fun listing => words.any fun word =>
      listing.claimsWord (Text.lower word)) =
      catalogue.find? (·.claimsWord (Text.lower word)) := by
    refine List.find?_congr fun claimant listed => ?_
    rw [Bool.eq_iff_iff, List.any_eq_true]
    constructor
    · rintro ⟨other, within, claimed⟩
      by_cases itself : other = word
      · rwa [itself] at claimed
      · rw [(others other within itself claimant listed).2] at claimed
        cases claimed
    · exact fun claimed => ⟨word, known, claimed⟩
  rw [ofWords, bare, worded, find?_claimsWord_of_alias member alias_]
  rfl

/-- **Sets of words.** What a tag of several words names hangs on the set of these words only, not
on their order, on how often each is there or on punctuation around them. The three searches agree
on an alias: as a tag of its own it names the language whose alias it is, no language has a fragment
in it, it is found as a word too, and among words that say nothing it names the same language. -/
theorem ofTag_tagOf {ws vs : List DressedWord} (some : ws ≠ [])
    (same : ∀ word, word ∈ ws.map DressedWord.word ↔ word ∈ vs.map DressedWord.word) :
    ofTag (.some (tagOf ws)) = ofTag (.some (tagOf vs)) ∧
      ∀ w ∈ ws, ∀ listing ∈ catalogue, listing.hasAlias (Text.lower w.word) = true →
        ofTag (.some w.word) = listing.language ∧
        catalogue.find? (·.hasFragment (Text.lower w.word)) = none ∧
        catalogue.find? (·.claimsWord (Text.lower w.word)) = .some listing ∧
        ((∀ v ∈ ws, v.word ≠ w.word → IsSilent v.word) →
          ofTag (.some (tagOf ws)) = listing.language) := by
  have others : vs ≠ [] := by
    rintro rfl
    obtain ⟨w, rest, rfl⟩ := List.exists_cons_of_ne_nil some
    exact absurd ((same w.word).mp List.mem_cons_self) List.not_mem_nil
  refine ⟨?_, fun w known listing member alias_ => ⟨?_, ?_, ?_, fun silent => ?_⟩⟩
  · rw [ofTag_tagOf_eq some, ofTag_tagOf_eq others, ofWords_congr same]
  · rw [← w.tagOf_bare, ofTag_tagOf_eq (List.cons_ne_nil _ _)]
    exact ofWords_of_alias List.mem_cons_self member alias_ fun other within different =>
      absurd (List.mem_singleton.mp within) different
  · exact List.find?_eq_none.mpr fun other listed => by
      simp [(hasAlias_of_alias member alias_).2 other listed]
  · exact find?_claimsWord_of_alias member alias_
  · rw [ofTag_tagOf_eq some]
    refine ofWords_of_alias (List.mem_map_of_mem known) member alias_ ?_
    simpa only [List.forall_mem_map] using silent

/-- The words of a tag in another order, with other marks and one of them twice. -/
theorem ofTag_tagOf_release :
    ofTag (some "(Go) 1.21".toList) = ofTag (some "1.21; Go 'Go'".toList) ∧
      ofTag (some "(Go) 1.21".toList) = go ∧ ofTag (some "Go".toList) = go := by
  let bare : DressedWord := ⟨[], "Go".toList, [], by decide, by decide, by decide, by decide⟩
  let bracketed : DressedWord :=
    ⟨['('], "Go".toList, [')'], by decide, by decide, by decide, by decide⟩
  let quoted : DressedWord :=
    ⟨['\x27'], "Go".toList, ['\x27'], by decide, by decide, by decide, by decide⟩
  let release : DressedWord := ⟨[], "1.21".toList, [], by decide, by decide, by decide, by decide⟩
  let listed : DressedWord :=
    ⟨[], "1.21".toList, [';'], by decide, by decide, by decide, by decide⟩
  have law := @ofTag_tagOf [bracketed, release] [listed, bare, quoted] (List.cons_ne_nil _ _)
    (by simp [bracketed, release, listed, bare, quoted, or_comm])
  obtain ⟨alone, -, -, among⟩ := law.2 bracketed (by simp)
    ⟨go, ["golang"], ["go"]⟩ (by simp [catalogue]) (by decide)
  refine ⟨law.1, among ?_, alone⟩
  decide

end Language

end DryRun
