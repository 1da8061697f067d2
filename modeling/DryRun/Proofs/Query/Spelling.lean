import DryRun.Proofs.Query.Search

/-!
# How a query may be written

A query is a row of tokens. One may write them in any letter case and with blanks between them, as
long as no two words run together (`Written`). In the canonical form of a query the tokens stand
as they are, with a space or nothing between neighbours (`Even`), whichever way the query was
written (`Statement.canonical_written`).

An even text is only looked at through its tokens: what stands in none of them does not stand in the
text (`Even.not_infix`), and it is cut where its tokens are cut (`Even.append`).
-/

set_option autoImplicit false

namespace DryRun.Text

/-- A part of a query: not empty, without blanks and semicolons. -/
structure IsToken (token : Text) : Prop where
  some : token ≠ []
  solid : ∀ c ∈ token, isBlank c = false ∧ c ≠ ';'

/-- Tokens in a row, each behind a gap, after a given character. The gap may be left out where no
word would go on across it. -/
inductive Spaced (gaps : Text → Prop) (spells : Text → Text → Prop) :
    Option Char → List Text → Text → Prop
  | nil (previous : Option Char) : Spaced gaps spells previous [] []
  | cons {previous : Option Char} {gap written token s : Text} {tokens : List Text}
      (isGap : gaps gap) (spelled : spells written token)
      (apart : gap = [] → Apart previous token.head?)
      (rest : Spaced gaps spells token.getLast? tokens s) :
      Spaced gaps spells previous (token :: tokens) (gap ++ (written ++ s))

/-- Tokens in any letter case, with any blanks between them. -/
abbrev Written : Option Char → List Text → Text → Prop :=
  Spaced (fun gap => ∀ c ∈ gap, isBlank c = true) fun written token => upper written = token

/-- Tokens as they are, with a space or nothing between them. -/
abbrev Even : Option Char → List Text → Text → Prop :=
  Spaced (fun gap => gap = [] ∨ gap = [' ']) fun written token => written = token ∧ IsToken token

/-! ## The canonical form -/

/-- Capitals are taken character by character. -/
theorem upper_append (s t : Text) : upper (s ++ t) = upper s ++ upper t := List.flatMap_append

/-- Blanks and semicolons have no case. -/
theorem upperChar_of_isBlank {c : Char} (blank : isBlank c = true) : upperChar c = [c] :=
  of_isBlank (p := fun c => upperChar c = [c]) (by decide +kernel) blank

/-- The capital forms of the characters of a text are in its capitals. -/
theorem mem_upper {c d : Char} {s : Text} (member : c ∈ s) (form : d ∈ upperChar c) :
    d ∈ upper s := List.mem_flatMap.mpr ⟨c, member, form⟩

/-- What is written for a token is itself free of blanks and semicolons. -/
theorem IsToken.of_upper {written : Text} (isToken : IsToken (upper written)) :
    IsToken written := by
  refine ⟨fun empty => isToken.some (by rw [empty]; rfl), fun c member => ⟨?_, ?_⟩⟩
  · rw [Bool.eq_false_iff]
    intro blank
    have inside := mem_upper (d := c) member (by simp [upperChar_of_isBlank blank])
    simp [(isToken.solid c inside).1] at blank
  · rintro rfl
    exact (isToken.solid ';' (mem_upper member (by decide))).2 rfl

/-- A text without blanks is part of the first word of what it stands in front of, if there is no
blank between them. -/
theorem words_append_solid {w s : Text} {c : Char} (some : w ≠ [])
    (solid : ∀ d ∈ w, isBlank d = false) (first : isBlank c = false) :
    ∃ word others, words (c :: s) = word :: others ∧
      words (w ++ c :: s) = (w ++ word) :: others := by
  have cut (s : Text) (w : Text) (solid : ∀ d ∈ w, isBlank d = false) :
      pieces isBlank (w ++ s) =
        (w ++ (pieces isBlank s).headD []) :: (pieces isBlank s).tail := by
    induction w with
    | nil => cases h : pieces isBlank s <;> simp_all [pieces_ne_nil]
    | cons d w ih =>
      have first := solid d List.mem_cons_self
      rw [List.cons_append, pieces, if_neg (by simp [first]),
        ih fun e member => solid e (List.mem_cons_of_mem d member)]
      rfl
  have whole := cut s [c] (by simpa using first)
  have longer := cut (c :: s) w solid
  rw [List.singleton_append] at whole
  rw [whole] at longer
  refine ⟨[c] ++ (pieces isBlank s).headD [],
    ((pieces isBlank s).tail).filter fun piece => !piece.isEmpty, ?_, ?_⟩
  · rw [words, whole]
    simp
  · rw [words, longer]
    simp [some]

/-- A text that does not begin with a blank has a word. -/
theorem words_cons_ne_nil {c : Char} (first : isBlank c = false) (s : Text) :
    words (c :: s) ≠ [] := by
  rw [words, pieces, if_neg (by simp [first])]
  cases pieces isBlank s <;> simp [consPiece]

/-- What stands before the first part stands before the joined text. -/
theorem join_append_cons (separator front first : Text) (others : List Text) :
    join separator ((front ++ first) :: others) =
      front ++ join separator (first :: others) := by
  cases others <;> simp [join]

/-- A text in capitals with its blanks evened out: a space in front if it had blanks there, none at
the end. -/
def evened (s : Text) : Text :=
  (if s.head?.any isBlank && !(words s).isEmpty then [' '] else []) ++
    upper (join [' '] (words s))

/-- A token at the front stays there, whatever is done to the blanks. -/
theorem upper_join_words_append {written : Text} (isToken : IsToken written) (s : Text) :
    upper (join [' '] (words (written ++ s))) = upper written ++ evened s := by
  have solid : ∀ c ∈ written, isBlank c = false := fun c member => (isToken.solid c member).1
  cases s with
  | nil =>
    rw [List.append_nil, words_of_solid isToken.some solid]
    simp [evened, words, pieces, join, upper]
  | cons c s =>
    cases first : isBlank c with
    | true =>
      have rest : words ([c] ++ s) = words s := words_blanks_append (by simpa using first) s
      rw [words_append_blank first, words_of_solid isToken.some solid]
      rw [List.singleton_append] at rest ⊢
      rw [evened, rest, List.head?_cons, Option.any_some, first]
      cases words s with
      | nil => simp [join, upper]
      | cons word words =>
        rw [join, List.append_assoc, upper_append, upper_append]
        rfl
    | false =>
      obtain ⟨word, others, short, long⟩ := words_append_solid (s := s) isToken.some solid first
      rw [long, join_append_cons, upper_append, evened, short]
      simp [first]

/-- Blanks before a token become one space. -/
theorem evened_append {gap : Text} (blanks : ∀ c ∈ gap, isBlank c = true) {written : Text}
    (isToken : IsToken written) (s : Text) :
    evened (gap ++ (written ++ s)) =
      (if gap = [] then [] else [' ']) ++ (upper written ++ evened s) := by
  rw [evened, words_blanks_append blanks, upper_join_words_append isToken]
  congr 1
  obtain ⟨some, solid⟩ := isToken
  cases gap with
  | nil =>
    cases written with
    | nil => exact absurd rfl some
    | cons c written => simp [(solid c List.mem_cons_self).1]
  | cons c gap =>
    have words_some : words (written ++ s) ≠ [] := by
      cases written with
      | nil => exact absurd rfl some
      | cons d written => exact words_cons_ne_nil (solid d List.mem_cons_self).1 _
    simp [blanks c List.mem_cons_self, words_some]

/-- A spelling of a query, evened out, has one space or none before each token. -/
theorem Written.even {previous : Option Char} {tokens : List Text} {s : Text}
    (written : Written previous tokens s) (isToken : ∀ token ∈ tokens, IsToken token) :
    Even previous tokens (evened s) := by
  induction written with
  | nil previous => exact .nil previous
  | @cons previous gap written token s tokens blanks spelled apart rest ih =>
    obtain ⟨first, others⟩ := List.forall_mem_cons.mp isToken
    subst spelled
    rw [evened_append blanks first.of_upper]
    refine .cons ?_ ⟨rfl, first⟩ ?_ (ih others)
    · split <;> simp
    · split <;> simp_all

/-- No spelling of a query has a semicolon in it. -/
theorem Written.ne_semicolon {previous : Option Char} {tokens : List Text} {s : Text}
    (written : Written previous tokens s) (isToken : ∀ token ∈ tokens, IsToken token) :
    ∀ c ∈ s, c ≠ ';' := by
  induction written with
  | nil => simp
  | cons blanks spelled _ _ ih =>
    obtain ⟨first, others⟩ := List.forall_mem_cons.mp isToken
    subst spelled
    intro c member
    rcases List.mem_append.mp member with inGap | member
    · rintro rfl
      exact absurd (blanks ';' inGap) (by decide)
    · rcases List.mem_append.mp member with inToken | member
      · exact (first.of_upper.solid c inToken).2
      · exact ih others c member

end DryRun.Text

namespace DryRun.Statement

open Text

/-- The canonical form of a query, however it is written. -/
theorem canonical_written {token body after : Text} {tokens : List Text}
    (written : Written none (token :: tokens) body)
    (isToken : ∀ t ∈ token :: tokens, IsToken t)
    (closing : ∀ c ∈ after, isBlank c = true ∨ c = ';') :
    ∃ rest, canonical (body ++ after) = token ++ rest ∧ Even token.getLast? tokens rest := by
  have whole : body.filter (· != ';') = body := List.filter_eq_self.mpr fun c member =>
    bne_iff_ne.mpr (written.ne_semicolon isToken c member)
  have blanks : ∀ c ∈ after.filter (· != ';'), isBlank c = true := by
    intro c member
    obtain ⟨inside, other⟩ := List.mem_filter.mp member
    exact (closing c inside).resolve_right (bne_iff_ne.mp other)
  rw [canonical, List.filter_append, whole, words_append_blanks blanks]
  cases written with
  | @cons _ gap written _ s _ isGap spelled _ rest =>
    obtain ⟨first, others⟩ := List.forall_mem_cons.mp isToken
    subst spelled
    rw [words_blanks_append isGap, upper_join_words_append first.of_upper]
    exact ⟨evened s, rfl, Written.even rest others⟩

end DryRun.Statement

namespace DryRun.Text

/-! ## Even texts -/

/-- A space is no word character. -/
@[simp] theorem isWordChar_space : isWordChar ' ' = false := by decide

/-- No word is found in a space. -/
theorem IsWord.not_infix_space {word : Text} (isWord : IsWord word) : ¬word <:+: [' '] :=
  isWord.not_infix_singleton isWordChar_space

/-- The last character of some tokens, the given one if there are none. -/
def ending (previous : Option Char) (tokens : List Text) : Option Char :=
  tokens.foldl (fun _ token => token.getLast?) previous

namespace Even

variable {previous : Option Char} {token s : Text} {tokens front back : List Text}

/-- The first token of an even text, the gap before it and the text after it. -/
theorem cons_inv (even : Even previous (token :: tokens) s) :
    ∃ gap rest, s = gap ++ (token ++ rest) ∧ (gap = [] ∨ gap = [' ']) ∧
      (gap = [] → Apart previous token.head?) ∧ IsToken token ∧
      Even token.getLast? tokens rest := by
  cases even with
  | @cons _ gap _ _ rest _ isGap spelled apart even =>
    obtain ⟨rfl, isToken⟩ := spelled
    exact ⟨gap, rest, rfl, isGap, apart, isToken, even⟩

/-- No tokens are written as nothing. -/
theorem nil_inv (even : Even previous [] s) : s = [] := by cases even; rfl

/-- Between two words there is a space. -/
theorem word_inv (even : Even previous (token :: tokens) s)
    (left : previous.any isWordChar = true) (right : token.head?.any isWordChar = true) :
    ∃ rest, s = ' ' :: (token ++ rest) ∧ Even token.getLast? tokens rest := by
  obtain ⟨gap, rest, rfl, rfl | rfl, apart, -, even⟩ := even.cons_inv
  · exact absurd ⟨left, right⟩ (apart rfl)
  · exact ⟨rest, rfl, even⟩

/-- No word goes on from what stands before an even text into it. -/
theorem apart (even : Even previous tokens s) : Apart previous s.head? := by
  cases even with
  | nil => exact .none_right _
  | @cons _ gap _ _ rest _ isGap spelled apart _ =>
    obtain ⟨rfl, some, -⟩ := spelled
    rcases isGap with rfl | rfl
    · rw [List.nil_append, List.head?_append, Option.or_of_isSome (by simpa using some)]
      exact apart rfl
    · exact .of_right _ (by simp)

/-- The last character is that of the last token, or of what precedes. -/
theorem last (even : Even previous tokens s) :
    s.getLast?.or previous = ending previous tokens := by
  induction even with
  | nil previous => rfl
  | @cons previous gap written token s tokens isGap spelled apart _ ih =>
    obtain ⟨rfl, some, -⟩ := spelled
    rw [ending, List.foldl_cons, ← ending, ← ih, List.getLast?_append, List.getLast?_append,
      List.getLast?_eq_some_getLast some]
    cases s.getLast? <;> rfl

/-- No even text ends with a blank. -/
theorem solid_last (even : Even previous tokens s) : ∀ c ∈ s.getLast?, isBlank c = false := by
  induction even with
  | nil => simp
  | @cons previous gap written token s tokens isGap spelled apart _ ih =>
    obtain ⟨rfl, some, solid⟩ := spelled
    intro c last
    rw [List.getLast?_append, List.getLast?_append, List.getLast?_eq_some_getLast some] at last
    cases behind : s.getLast? with
    | none =>
      obtain rfl : written.getLast some = c := by simpa [behind] using last
      exact (solid _ (List.getLast_mem some)).1
    | some d =>
      obtain rfl : d = c := by simpa [behind] using last
      exact ih d behind

/-- An even spelling can be cut between any two tokens. -/
theorem append (even : Even previous (front ++ back) s) :
    ∃ x y, s = x ++ y ∧ Even previous front x ∧ Even (ending previous front) back y := by
  induction front generalizing previous s with
  | nil => exact ⟨[], s, rfl, .nil previous, even⟩
  | cons token front ih =>
    obtain ⟨gap, rest, rfl, isGap, apart, isToken, even⟩ := even.cons_inv
    obtain ⟨x, y, rfl, first, second⟩ := ih even
    exact ⟨gap ++ (token ++ x), y, by simp, .cons isGap ⟨rfl, isToken⟩ apart first, second⟩

/-- Every character of an even spelling is a space or one of a token. -/
theorem mem (even : Even previous tokens s) {c : Char} (member : c ∈ s) :
    c = ' ' ∨ ∃ token ∈ tokens, c ∈ token := by
  induction even with
  | nil => simp at member
  | cons isGap spelled _ _ ih =>
    obtain ⟨rfl, -⟩ := spelled
    rcases List.mem_append.mp member with inGap | member
    · rcases isGap with rfl | rfl
      · simp at inGap
      · exact .inl (by simpa using inGap)
    · rcases List.mem_append.mp member with inToken | member
      · exact .inr ⟨_, List.mem_cons_self, inToken⟩
      · exact (ih member).imp_right fun ⟨token, known, inside⟩ =>
          ⟨token, List.mem_cons_of_mem _ known, inside⟩

/-- A word that stands in no token does not stand in the text. -/
theorem not_infix {word : Text} (isWord : IsWord word) (even : Even previous tokens s)
    (missing : ∀ token ∈ tokens, ¬word <:+: token) : ¬word <:+: s := by
  induction even with
  | nil => exact fun inside => isWord.some (List.infix_nil.mp inside)
  | @cons previous gap written token s tokens isGap spelled apart rest ih =>
    obtain ⟨rfl, isToken⟩ := spelled
    obtain ⟨first, others⟩ := List.forall_mem_cons.mp missing
    have beyond : ¬word <:+: written ++ s := fun inside =>
      (infix_append isWord (Even.apart rest) inside).elim first (ih others)
    rcases isGap with rfl | rfl
    · exact beyond
    · intro inside
      rcases infix_append isWord (.of_left (by simp) _) inside with inGap | inside
      · exact isWord.not_infix_space inGap
      · exact beyond inside

/-- What no search finds in a token it does not find in the text. -/
theorem split?_eq_none {keywords : List Text} (words : ∀ k ∈ keywords, IsWord k)
    (even : Even previous tokens s)
    (missing : ∀ token ∈ tokens, Keyword.split? keywords none token = none) :
    Keyword.split? keywords previous s = none := by
  induction even with
  | nil => rfl
  | @cons previous gap written token s tokens isGap spelled apart rest ih =>
    obtain ⟨rfl, some, -⟩ := spelled
    obtain ⟨first, others⟩ := List.forall_mem_cons.mp missing
    -- The space is no keyword, and the text behind it is searched as if nothing stood before.
    have beyond {before : Option Char} (apart : Apart before written.head?) :
        Keyword.split? keywords before (written ++ s) = none := by
      have none := first
      rw [← Keyword.split?_of_apart words apart] at none
      rw [Keyword.split?_append words (Even.apart rest) none,
        Option.or_of_isSome (by simpa using some), ih others]
      rfl
    rcases isGap with rfl | rfl
    · exact beyond (apart rfl)
    · have space : Keyword.split? keywords previous [' '] = none :=
        Keyword.split?_of_not_infix words fun k known => (words k known).not_infix_space
      rw [Keyword.split?_append words (.of_left (by simp) _) space, List.getLast?_singleton,
        Option.some_or, beyond (.of_left (by simp) _)]
      rfl

end Even

/-! ## In front of a token -/

/-- An even text and a gap behind it. -/
def Leading (previous : Option Char) (tokens : List Text) (s : Text) : Prop :=
  ∃ x gap, s = x ++ gap ∧ (gap = [] ∨ gap = [' ']) ∧ Even previous tokens x

section Leading

variable {previous : Option Char} {token s : Text} {tokens front back : List Text}

/-- An even spelling is one with blanks before its tokens. -/
theorem Even.leading (even : Even previous tokens s) : Leading previous tokens s :=
  ⟨s, [], by simp, .inl rfl, even⟩

/-- An even text is cut in front of a token. No word goes on there. -/
theorem Even.cut (even : Even previous (front ++ token :: back) s) :
    ∃ a rest, s = a ++ (token ++ rest) ∧ Leading previous front a ∧
      Apart (a.getLast?.or previous) token.head? ∧ Even token.getLast? back rest := by
  obtain ⟨x, y, rfl, first, second⟩ := even.append
  obtain ⟨gap, rest, rfl, isGap, apart, -, even⟩ := second.cons_inv
  refine ⟨x ++ gap, rest, by simp, ⟨x, gap, rfl, isGap, first⟩, ?_, even⟩
  rcases isGap with rfl | rfl
  · rw [List.append_nil, first.last]
    exact apart rfl
  · exact .of_left (by simp) _

namespace Leading

/-- A spelling can be cut before and after any token. -/
theorem cut (leading : Leading previous (front ++ token :: back) s) :
    ∃ a rest, s = a ++ (token ++ rest) ∧ Leading previous front a ∧
      Apart (a.getLast?.or previous) token.head? ∧ Leading token.getLast? back rest := by
  obtain ⟨x, gap, rfl, isGap, even⟩ := leading
  obtain ⟨a, rest, rfl, before, apart, after⟩ := even.cut
  exact ⟨a, rest ++ gap, by simp, before, apart, rest, gap, rfl, isGap, after⟩

/-- The first token keeps apart from what precedes it. -/
theorem apart (leading : Leading previous tokens s) : Apart previous s.head? := by
  obtain ⟨x, gap, rfl, rfl | rfl, even⟩ := leading
  · rw [List.append_nil]
    exact even.apart
  · cases x with
    | nil => exact .of_right _ (by simp)
    | cons c x => exact even.apart

/-- An even text is one as well where nothing stands before it. -/
theorem atFront (leading : Leading previous tokens s) : Leading none tokens s := by
  obtain ⟨x, gap, rfl, isGap, even⟩ := leading
  refine ⟨x, gap, rfl, isGap, ?_⟩
  cases even with
  | nil => exact .nil none
  | cons isGap spelled apart rest => exact .cons isGap spelled (fun _ => .none_left _) rest

/-- Between two words there is a space. -/
theorem space (leading : Leading previous tokens s) {next : Option Char}
    (apart : Apart (s.getLast?.or previous) next)
    (left : (ending previous tokens).any isWordChar = true)
    (right : next.any isWordChar = true) : ∃ x, s = x ++ [' '] := by
  obtain ⟨x, gap, rfl, rfl | rfl, even⟩ := leading
  · rw [List.append_nil, even.last] at apart
    exact absurd ⟨left, right⟩ apart
  · exact ⟨x, rfl⟩

/-- A word that is in no token is not in the spelling. -/
theorem not_infix {word : Text} (isWord : IsWord word) (leading : Leading previous tokens s)
    (missing : ∀ token ∈ tokens, ¬word <:+: token) : ¬word <:+: s := by
  obtain ⟨x, gap, rfl, isGap, even⟩ := leading
  have first := even.not_infix isWord missing
  rcases isGap with rfl | rfl
  · rwa [List.append_nil]
  · exact fun inside => (infix_append isWord (.of_right _ (by simp)) inside).elim first
      isWord.not_infix_space

/-- A spelling none of whose tokens is cut is not cut. -/
theorem split?_eq_none {keywords : List Text} (words : ∀ k ∈ keywords, IsWord k)
    (leading : Leading previous tokens s)
    (missing : ∀ token ∈ tokens, Keyword.split? keywords none token = none) :
    Keyword.split? keywords previous s = none := by
  obtain ⟨x, gap, rfl, isGap, even⟩ := leading
  have first := even.split?_eq_none words missing
  rcases isGap with rfl | rfl
  · rwa [List.append_nil]
  · rw [Keyword.split?_append words (.of_right _ (by simp)) first,
      Keyword.split?_of_not_infix words fun k known => (words k known).not_infix_space]
    rfl

end Leading

end Leading

end DryRun.Text
