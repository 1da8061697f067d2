import DryRun.Proofs.Text.Pieces

/-!
# Patterns

A pattern is a row of pieces: places, characters and runs of characters of one kind, of which one is
the argument. It is looked for in a whole text. The match that counts starts first, and of those
that start at one place it is the one whose runs are longest, an earlier run before a later one.

A pattern none of whose pieces takes a line feed is looked for line by line
(`search?_append_feed`, `search?_eq_findSome?`). A match ends before the line feed, and behind it a
place is what it is at the start of a text (`firstMatch?_feed`), so nothing that comes before
matters.
-/

set_option autoImplicit false

namespace DryRun

/-- The first result of a function on the numbers from `n` down to zero. -/
def longestFirst? {α : Type} (f : Nat → Option α) : Nat → Option α
  | 0 => f 0
  | n + 1 => (f (n + 1)).or (longestFirst? f n)

section LongestFirst

variable {α : Type} {f g : Nat → Option α} {n : Nat}

/-- Functions that agree up to a bound find the same. -/
theorem longestFirst?_congr (same : ∀ k ≤ n, f k = g k) :
    longestFirst? f n = longestFirst? g n := by
  induction n with
  | zero => exact same 0 (Nat.le_refl 0)
  | succ n ih =>
    rw [longestFirst?, longestFirst?, same (n + 1) (Nat.le_refl _),
      ih fun k below => same k (Nat.le_succ_of_le below)]

/-- Where no larger number has a result, that of a number counts. -/
theorem longestFirst?_of_above {m : Nat} (small : m ≤ n)
    (missing : ∀ k, m < k → k ≤ n → f k = none) : longestFirst? f n = longestFirst? f m := by
  induction n with
  | zero => rw [Nat.le_zero.mp small]
  | succ n ih =>
    rcases Nat.lt_or_eq_of_le small with less | rfl
    · rw [longestFirst?, missing (n + 1) less (Nat.le_refl _), Option.none_or]
      exact ih (Nat.le_of_lt_succ less) fun k above below =>
        missing k above (Nat.le_succ_of_le below)
    · rfl

/-- Where nothing is found up to the bound, nothing is found. -/
theorem longestFirst?_eq_none (missing : ∀ k ≤ n, f k = none) : longestFirst? f n = none := by
  rw [longestFirst?_of_above (Nat.zero_le n) fun k _ below => missing k below]
  exact missing 0 (Nat.zero_le n)

/-- If nothing is found below the bound, the bound decides. -/
theorem longestFirst?_of_below (missing : ∀ k < n, f k = none) : longestFirst? f n = f n := by
  cases n with
  | zero => rfl
  | succ n =>
    have others : longestFirst? f n = none :=
      longestFirst?_eq_none fun k below => missing k (Nat.lt_succ_of_le below)
    rw [longestFirst?, others, Option.or_none]

/-- What is found at a number, and at no larger one up to the bound, is found. -/
theorem longestFirst?_of_some {m : Nat} {a : α} (small : m ≤ n) (found : f m = some a)
    (missing : ∀ k, m < k → k ≤ n → f k = none) : longestFirst? f n = some a := by
  rw [longestFirst?_of_above small missing]
  cases m with
  | zero => exact found
  | succ m => rw [longestFirst?, found, Option.some_or]

/-- What is found is found at some number up to the bound. -/
theorem exists_of_longestFirst? {a : α} (found : longestFirst? f n = some a) :
    ∃ k ≤ n, f k = some a := by
  induction n with
  | zero => exact ⟨0, Nat.le_refl 0, found⟩
  | succ n ih =>
    rcases Option.or_eq_some_iff.mp found with last | ⟨-, before⟩
    · exact ⟨n + 1, Nat.le_refl _, last⟩
    · obtain ⟨k, below, result⟩ := ih before
      exact ⟨k, Nat.le_succ_of_le below, result⟩

end LongestFirst

/-- A piece of a pattern. -/
inductive Piece where
  /-- The start of the text or a place right behind a line feed. -/
  | lineStart
  /-- A place with a word character on one side only. -/
  | wordEdge
  | char (c : Char)
  /-- As many characters of a kind as possible, but not fewer than the number. They may be the
  argument. -/
  | run (isArgument : Bool) (least : Nat) (kind : Char → Bool)

/-- A row of pieces. -/
abbrev Pattern := List Piece

namespace Pattern

/-- The argument of the match that counts among those that start right here, given the character
before it and what has been taken for the argument so far. -/
def here? : Pattern → Option Char → Text → Text → Option Text
  | [], _, _, argument => some argument
  | .lineStart :: rest, previous, s, argument =>
    if previous.all (· == '\n') then here? rest previous s argument else none
  | .wordEdge :: rest, previous, s, argument =>
    if previous.any Text.isWordChar != s.head?.any Text.isWordChar then
      here? rest previous s argument
    else none
  | .char c :: rest, _, s, argument =>
    if s.head? = some c then here? rest (some c) s.tail argument else none
  | .run isArgument least kind :: rest, previous, s, argument =>
    longestFirst? (fun n =>
      if n < least then none
      else here? rest ((s.take n).getLast?.or previous) (s.drop n)
        (if isArgument then s.take n else argument)) (s.takeWhile kind).length

/-- The argument of the first match, given the character before the text. -/
def firstMatch? (pattern : Pattern) (previous : Option Char) : Text → Option Text
  | [] => pattern.here? previous [] []
  | c :: rest => (pattern.here? previous (c :: rest) []).or (firstMatch? pattern (some c) rest)

/-- The argument of the first match in a whole text. -/
def search? (pattern : Pattern) (s : Text) : Option Text := pattern.firstMatch? none s

end Pattern

/-- A piece does not take a line feed. -/
def Piece.KeepsToLine : Piece → Prop
  | .lineStart | .wordEdge => True
  | .char c => c ≠ '\n'
  | .run _ _ kind => kind '\n' = false

namespace Pattern

/-- No piece of a pattern takes a line feed. -/
def KeepsToLine (pattern : Pattern) : Prop := ∀ piece ∈ pattern, piece.KeepsToLine

variable {pattern rest : Pattern} {previous : Option Char} {s argument : Text}

/-! ## Line by line -/

/-- A kind of characters without line feeds is taken within the line. -/
theorem takeWhile_append_feed {kind : Char → Bool} (keeps : kind '\n' = false) (s t : Text) :
    (s ++ '\n' :: t).takeWhile kind = s.takeWhile kind := by
  rw [List.takeWhile_append]
  split
  case isTrue whole =>
    rw [List.takeWhile_cons_of_neg (by simp [keeps]), List.append_nil,
      (List.takeWhile_prefix _).eq_of_length whole]
  case isFalse => rfl

/-- A match does not see what comes behind a line feed. -/
theorem here?_append_feed (keeps : pattern.KeepsToLine) (previous : Option Char)
    (s t argument : Text) :
    pattern.here? previous (s ++ '\n' :: t) argument = pattern.here? previous s argument := by
  induction pattern generalizing previous s argument with
  | nil => rfl
  | cons piece rest ih =>
    obtain ⟨first, others⟩ := List.forall_mem_cons.mp keeps
    have ih := ih others
    cases piece with
    | lineStart => rw [here?, here?, ih]
    | wordEdge =>
      have next : (s ++ '\n' :: t).head?.any Text.isWordChar = s.head?.any Text.isWordChar := by
        cases s with
        | nil => rfl
        | cons c s => rfl
      rw [here?, here?, ih, next]
    | char c =>
      cases s with
      | nil =>
        have other : '\n' ≠ c := Ne.symm first
        simp [here?, other]
      | cons d s =>
        rw [List.cons_append, here?, here?, List.tail_cons, ih]
        rfl
    | run isArgument least kind =>
      rw [here?, here?, takeWhile_append_feed first]
      refine longestFirst?_congr fun n below => ?_
      have short : n ≤ s.length := below.trans (List.takeWhile_prefix kind).length_le
      rw [List.take_append_of_le_length short, List.drop_append_of_le_length short, ih]

/-- Behind a line feed a match is what it is at the start of a text. -/
theorem here?_feed (pattern : Pattern) (s argument : Text) :
    pattern.here? (some '\n') s argument = pattern.here? none s argument := by
  induction pattern generalizing s argument with
  | nil => rfl
  | cons piece rest ih =>
    cases piece with
    | lineStart => simp [here?, ih]
    | wordEdge =>
      have edge : (some '\n').any Text.isWordChar = (none : Option Char).any Text.isWordChar := by
        decide
      rw [here?, here?, ih, edge]
    | char c => rfl
    | run isArgument least kind =>
      rw [here?, here?]
      refine longestFirst?_congr fun n _ => ?_
      cases (s.take n).getLast? with
      | none => simp only [Option.none_or, ih]
      | some c => rfl

/-- Behind a line feed a search begins anew. -/
theorem firstMatch?_feed (pattern : Pattern) (s : Text) :
    pattern.firstMatch? (some '\n') s = pattern.search? s := by
  cases s with
  | nil => exact here?_feed pattern [] []
  | cons c s => rw [search?, firstMatch?, firstMatch?, here?_feed]

/-- A search looks on the first line and then on the others. -/
theorem firstMatch?_append_feed (keeps : pattern.KeepsToLine) (previous : Option Char)
    (s t : Text) :
    pattern.firstMatch? previous (s ++ '\n' :: t) =
      (pattern.firstMatch? previous s).or (pattern.search? t) := by
  induction s generalizing previous with
  | nil =>
    have here := here?_append_feed keeps previous [] t []
    rw [List.nil_append] at here ⊢
    rw [firstMatch?, firstMatch?, here, firstMatch?_feed]
  | cons c s ih =>
    have here := here?_append_feed keeps previous (c :: s) t []
    rw [List.cons_append] at here ⊢
    rw [firstMatch?, firstMatch?, here, ih, Option.or_assoc]

/-- What is found in two texts with a line feed between them is found in the first one, or else in
the second one. -/
theorem search?_append_feed (keeps : pattern.KeepsToLine) (s t : Text) :
    pattern.search? (s ++ '\n' :: t) = (pattern.search? s).or (pattern.search? t) :=
  firstMatch?_append_feed keeps none s t

/-- A search is a search line by line. -/
theorem search?_eq_findSome? (keeps : pattern.KeepsToLine) (s : Text) :
    pattern.search? s = (Text.feedLines s).findSome? pattern.search? :=
  Text.eq_findSome?_feedLines (search?_append_feed keeps) s

/-- The argument stands on one line. -/
theorem not_mem_of_here? (keeps : pattern.KeepsToLine) {found : Text}
    (inside : '\n' ∉ argument) (matched : pattern.here? previous s argument = some found) :
    '\n' ∉ found := by
  induction pattern generalizing previous s argument with
  | nil =>
    obtain rfl : argument = found := by simpa [here?] using matched
    exact inside
  | cons piece rest ih =>
    obtain ⟨first, others⟩ := List.forall_mem_cons.mp keeps
    cases piece with
    | lineStart =>
      rw [here?, Option.ite_none_right_eq_some] at matched
      exact ih others inside matched.2
    | wordEdge =>
      rw [here?, Option.ite_none_right_eq_some] at matched
      exact ih others inside matched.2
    | char c =>
      rw [here?, Option.ite_none_right_eq_some] at matched
      exact ih others inside matched.2
    | run isArgument least kind =>
      rw [here?] at matched
      obtain ⟨n, below, matched⟩ := exists_of_longestFirst? matched
      rw [Option.ite_none_left_eq_some] at matched
      refine ih others ?_ matched.2
      split
      · intro feed
        have taken : s.take n <+: s.takeWhile kind := by
          exact List.prefix_of_prefix_length_le (List.take_prefix n s) (List.takeWhile_prefix kind)
            ((List.length_take_le n s).trans below)
        have other := List.mem_takeWhile_imp (taken.subset feed)
        rw [first] at other
        cases other
      · exact inside

/-- No line feed is in what a search finds. -/
theorem not_mem_of_search? (keeps : pattern.KeepsToLine) {found : Text}
    (matched : pattern.search? s = some found) : '\n' ∉ found := by
  rw [search?] at matched
  generalize (none : Option Char) = previous at matched
  induction s generalizing previous with
  | nil => exact not_mem_of_here? keeps List.not_mem_nil matched
  | cons c s ih =>
    rcases Option.or_eq_some_iff.mp matched with here | ⟨-, later⟩
    · exact not_mem_of_here? keeps List.not_mem_nil here
    · exact ih (some c) later

end Pattern

end DryRun
