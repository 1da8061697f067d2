import DryRun.Proofs.Query.Form
import Mathlib.Data.List.Basic

/-!
# What is read of a query

However a selection is written, it is read as what it says (`Query.Written.ofText`). Each part is
found where it stands, for what opens it stands nowhere in front of it: the columns before the first
`FROM` (`columns?_eq`), the conditions behind `WHERE`, cut at `AND` (`conditions_eq`), the order
(`firstAt?_orderHere?`) and the row count (`firstAt?_limitHere?`).
-/

set_option autoImplicit false

namespace DryRun

open Text

namespace Query

/-! ## What tokens stand for -/

/-- The number that digits write, the most significant first. -/
def Digits.value (digits : Digits) : Nat := digits.values.foldl (fun n d => 10 * n + d.val) 0

/-- The number that an operand writes, if it is one. -/
def Operand.number? : Operand → Option Int
  | .numeral sign _ digits => some (if sign = ['-'] then -(digits.value : Int) else digits.value)
  | .quoted _ _ _ => none

def Operand.literal : Operand → Literal
  | .numeral sign _ digits => .int (if sign = ['-'] then -(digits.value : Int) else digits.value)
  | .quoted _ _ word => .text (upper word.chars)

def Sign.comparison : Sign → Comparison
  | .equal => .eq
  | .bangEqual | .angles => .ne
  | .greater => .gt
  | .less => .lt
  | .greaterEqual => .ge
  | .lessEqual => .le

def Clause.condition (clause : Clause) : Condition :=
  ⟨clause.column.chars, clause.sign.comparison, clause.operand.literal⟩

def Order.sortOrder (order : Order) : SortOrder :=
  ⟨order.column.chars, order.direction == some .descending⟩

/-- What a query asks for. -/
def selection (q : Query) : Selection where
  columns := if q.names.isEmpty then none else some (q.names.map fun name => name.chars)
  conditions := q.clauses.map Clause.condition
  order := q.order.map Order.sortOrder
  limit := q.limit.map fun digits => digits.values.map fun d : Fin 10 => d.val

end Query

/-! ## Tokens and the gaps around them -/

namespace Text

variable {gap token s : Text}

/-- What leads to no token is blank. -/
theorem isBlank_of_leading {previous : Option Char} (leading : Leading previous [] gap) :
    ∀ c ∈ gap, isBlank c = true := by
  obtain ⟨x, gap, rfl, isGap, even⟩ := leading
  rw [even.nil_inv, List.nil_append]
  rcases isGap with rfl | rfl <;> decide

/-- What stands in front of a token and behind it. -/
theorem Leading.first {previous : Option Char} {tokens : List Text}
    (leading : Leading previous (token :: tokens) s) :
    ∃ gap rest, s = gap ++ (token ++ rest) ∧ (∀ c ∈ gap, isBlank c = true) ∧
      Leading token.getLast? tokens rest := by
  have whole : Leading previous ([] ++ token :: tokens) s := leading
  obtain ⟨gap, rest, rfl, before, -, behind⟩ := whole.cut
  exact ⟨gap, rest, rfl, isBlank_of_leading before, behind⟩

/-- A text that a token begins does not begin with a blank. -/
theorem IsToken.head (isToken : IsToken token) (s : Text) :
    ∀ c ∈ (token ++ s).head?, isBlank c = false := by
  obtain ⟨some, solid⟩ := isToken
  cases token with
  | nil => exact absurd rfl some
  | cons d token =>
    intro c first
    obtain rfl : d = c := by simpa using first
    exact (solid d List.mem_cons_self).1

/-- Of the blanks before a token nothing is left. -/
theorem stripLeft_token (blanks : ∀ c ∈ gap, isBlank c = true) (isToken : IsToken token)
    (s : Text) : stripLeft (gap ++ (token ++ s)) = token ++ s := by
  have first := isToken.head s
  rw [stripLeft, List.dropWhile_append_of_pos blanks]
  cases whole : token ++ s with
  | nil => rfl
  | cons c rest => simp [first c (by simp [whole])]

/-- There is nothing to strip from a token. -/
theorem IsToken.strip_eq_self (isToken : IsToken token) : strip token = token := by
  refine Text.strip_eq_self (by simpa using isToken.head []) fun c last => ?_
  exact (isToken.solid c (List.mem_of_mem_getLast? last)).1

/-- A token between blanks is what is left when the text is stripped. -/
theorem strip_token {left right : Text} (first : ∀ c ∈ left, isBlank c = true)
    (last : ∀ c ∈ right, isBlank c = true) (isToken : IsToken token) :
    strip (left ++ (token ++ right)) = token := by
  rw [strip_blanks_append first, strip_append_blanks last, isToken.strip_eq_self]

/-- Stripped, an even text begins with its first token. -/
theorem Leading.strip {previous : Option Char} {tokens : List Text}
    (leading : Leading previous (token :: tokens) s) :
    ∃ rest, Text.strip s = token ++ rest ∧ Even token.getLast? tokens rest ∧
      Even none (token :: tokens) (Text.strip s) := by
  obtain ⟨x, gap, rfl, isGap, even⟩ := leading
  obtain ⟨gap', rest, rfl, isGap', -, isToken, behind⟩ := even.cons_inv
  have blank {gap : Text} (isGap : gap = [] ∨ gap = [' ']) : ∀ c ∈ gap, isBlank c = true := by
    rcases isGap with rfl | rfl <;> decide
  have whole : Even none (token :: tokens) ([] ++ (token ++ rest)) :=
    .cons (.inl rfl) ⟨rfl, isToken⟩ (fun _ => .none_left _) behind
  have stripped : Text.strip (gap' ++ (token ++ rest) ++ gap) = token ++ rest := by
    rw [strip_append_blanks (blank isGap), strip_blanks_append (blank isGap'),
      Text.strip_eq_self (isToken.head rest) whole.solid_last]
  rw [stripped]
  exact ⟨rest, rfl, behind, whole⟩

/-- A word is read to its end if what follows it keeps apart. -/
theorem takeWhile_word (isWord : IsWord token) (apart : Apart token.getLast? s.head?) :
    (token ++ s).takeWhile isWordChar = token ∧ (token ++ s).dropWhile isWordChar = s := by
  have ends := apart.right isWord.last
  rw [List.takeWhile_append_of_pos isWord.solid, List.dropWhile_append_of_pos isWord.solid]
  cases s with
  | nil => simp
  | cons c s => simp_all

end Text

namespace Query

/-! ## Literals -/

/-- Every digit of a numeral is read as its own value. -/
theorem mapM_digitValue? (digits : List (Fin 10)) :
    (digits.map fun d => Nat.digitChar d.val).mapM digitValue? =
      some (digits.map fun d : Fin 10 => d.val) := by
  induction digits with
  | nil => rfl
  | cons d digits ih =>
    rw [List.map_cons, List.mapM_cons, (digitChar_fin d).2.1, ih]
    rfl

/-- The value read off the digits is the value that they were written for. -/
theorem Digits.value_eq (digits : Digits) :
    Numeral.value (digits.values.map fun d : Fin 10 => d.val) = digits.value := by
  rw [Numeral.value, List.foldl_map, Digits.value]

/-- The digits of a query are read one by one. -/
theorem Digits.groupedDigits? (digits : Digits) :
    Numeral.groupedDigits? digits.text = some (digits.values.map fun d : Fin 10 => d.val) := by
  have whole : pieces (· == '_') digits.text = [digits.text] := pieces_of_none fun c member => by
    have each : ∀ c ∈ symbols, (c == '_') = false := by decide
    exact each c (digits.mem_symbols c member)
  have nonempty : digits.text.isEmpty = false := by simpa using digits.isWord.some
  have read : digits.text.mapM digitValue? = _ := mapM_digitValue? digits.values
  rw [Numeral.groupedDigits?, whole]
  simp [nonempty, read]

/-- Digits alone have no sign. -/
theorem Digits.splitSign (digits : Digits) :
    Numeral.splitSign digits.text = (false, digits.text) := by
  obtain ⟨some, solid⟩ := digits.isWord
  cases text : digits.text with
  | nil => exact absurd text some
  | cons c rest =>
    have word : isWordChar c = true := solid c (by simp [text])
    unfold Numeral.splitSign
    split
    · rename_i same
      simp_all [show isWordChar '+' = false by decide]
    · rename_i same
      simp_all [show isWordChar '-' = false by decide]
    · rfl

/-- A numeral with a sign is read as the number that it is. -/
theorem int?_numeral {sign : Text} (isSign : sign ∈ [[], ['+'], ['-']]) (digits : Digits) :
    Numeral.int? (sign ++ digits.text) =
      some (if sign = ['-'] then -(digits.value : Int) else digits.value) := by
  have isToken : IsToken (sign ++ digits.text) := (Operand.numeral sign isSign digits).isToken
  have short : ¬Numeral.digitLimit < (digits.values.map fun d : Fin 10 => d.val).length := by
    simpa using digits.short
  have split : Numeral.splitSign (sign ++ digits.text) = (decide (sign = ['-']), digits.text) := by
    simp only [List.mem_cons, List.not_mem_nil, or_false] at isSign
    rcases isSign with rfl | rfl | rfl
    · exact digits.splitSign
    · rfl
    · rfl
  rw [Numeral.int?, isToken.strip_eq_self, split]
  simp only [digits.groupedDigits?, if_neg short, digits.value_eq, decide_eq_true_eq]

/-- An operand with blanks around it is read as what it stands for. -/
theorem ofText_operand (operand : Operand) {left right : Text}
    (first : ∀ c ∈ left, isBlank c = true) (last : ∀ c ∈ right, isBlank c = true) :
    Literal.ofText (left ++ (operand.token ++ right)) = operand.literal := by
  rw [Literal.ofText, strip_token first last operand.isToken]
  cases operand with
  | numeral sign isSign digits =>
    have bare : between? Literal.quoteMarks (sign ++ digits.text) = none := by
      rw [Option.eq_none_iff_forall_ne_some]
      intro inner found
      obtain ⟨mark, isMark, same⟩ := between?_eq_some_iff.mp found
      have inside : mark ∈ sign ++ digits.text := by simp [same]
      have symbol : mark ∈ symbols := (List.mem_append.mp inside).elim
        (mem_symbols_of_isSign isSign mark) (digits.mem_symbols mark)
      have each : ∀ mark ∈ Literal.quoteMarks, mark ∉ symbols := by decide
      exact each mark isMark symbol
    simp only [Operand.token, bare, int?_numeral isSign]
    rfl
  | quoted mark isMark word =>
    have inner : between? Literal.quoteMarks (mark :: (upper word.chars ++ [mark])) =
        some (upper word.chars) := between?_eq_some_iff.mpr ⟨mark, isMark, rfl⟩
    simp only [Operand.token, inner]
    rfl

/-! ## Conditions -/

/-- A sign is read whole: nothing that may stand behind it could prolong it. -/
theorem operator?_sign (sign : Sign) {c : Char} (other : c ≠ '=' ∧ c ≠ '>') (s : Text) :
    Condition.operator? (sign.text ++ c :: s) = some (sign.comparison, c :: s) := by
  obtain ⟨noEqual, noGreater⟩ := other
  cases sign with
  | greater =>
    simp [Condition.operator?, Condition.signs, Sign.text, Sign.comparison,
      -List.isPrefixOf_iff_prefix, List.isPrefixOf, noEqual.symm, show ">".length = 1 by rfl]
  | less =>
    simp [Condition.operator?, Condition.signs, Sign.text, Sign.comparison,
      -List.isPrefixOf_iff_prefix, List.isPrefixOf, noEqual.symm, noGreater.symm,
      show "<".length = 1 by rfl]
  | _ => rfl

/-- An operand cannot be taken for the rest of a sign. -/
theorem Operand.head (operand : Operand) :
    ∃ c u, operand.token = c :: u ∧ c ≠ '=' ∧ c ≠ '>' := by
  cases operand with
  | numeral sign isSign digits =>
    simp only [List.mem_cons, List.not_mem_nil, or_false] at isSign
    rcases isSign with rfl | rfl | rfl
    · obtain ⟨nonempty, solid⟩ := digits.isWord
      cases text : digits.text with
      | nil => exact absurd text nonempty
      | cons c u =>
        have word : isWordChar c = true := solid c (by simp [text])
        refine ⟨c, u, by simp [Operand.token, text], ?_, ?_⟩
        · rintro rfl
          exact absurd word (by decide)
        · rintro rfl
          exact absurd word (by decide)
    · exact ⟨'+', digits.text, rfl, by decide⟩
    · exact ⟨'-', digits.text, rfl, by decide⟩
  | quoted mark isMark word =>
    refine ⟨mark, upper word.chars ++ [mark], rfl, ?_⟩
    simp only [List.mem_cons, List.not_mem_nil, or_false] at isMark
    rcases isMark with rfl | rfl <;> decide

/-- The text of a clause, with any gaps, is read as its condition. -/
theorem ofText?_clause {previous : Option Char} {clause : Clause} {s : Text}
    (leading : Leading previous clause.tokens s) :
    Condition.ofText? s = some clause.condition := by
  obtain ⟨gap, s, rfl, before, first⟩ := leading.first
  obtain ⟨gap', t, rfl, behind, second⟩ := first.first
  obtain ⟨gap'', rest, rfl, next, last⟩ := second.first
  have nameToken := isToken_of_isWord clause.column.isWord
  obtain ⟨name, beyond⟩ := takeWhile_word clause.column.isWord first.apart
  have signToken : IsToken clause.sign.text := clause.isToken _ (by simp [Clause.tokens])
  have opens : ∃ c u, gap'' ++ (clause.operand.token ++ rest) = c :: u ∧ c ≠ '=' ∧ c ≠ '>' := by
    obtain ⟨c, u, token, other⟩ := clause.operand.head
    cases gap'' with
    | nil => exact ⟨c, u ++ rest, by rw [token]; rfl, other⟩
    | cons d gap =>
      refine ⟨d, gap ++ (clause.operand.token ++ rest), rfl, ?_, ?_⟩
      · rintro rfl
        exact absurd (next '=' List.mem_cons_self) (by decide)
      · rintro rfl
        exact absurd (next '>' List.mem_cons_self) (by decide)
  have literal := ofText_operand clause.operand next (isBlank_of_leading last)
  obtain ⟨c, u, whole, other⟩ := opens
  unfold Condition.ofText?
  simp only [stripLeft_token before nameToken, name, beyond,
    stripLeft_token behind signToken]
  rw [whole] at literal ⊢
  rw [operator?_sign clause.sign other]
  simp [literal, clause.column.lower_token, Clause.condition, clause.column.isWord.some]

/-- The clauses between the words `AND` are read one after the other. -/
theorem filterMap_ofText? {clauses : List Clause} (nonempty : clauses ≠ [])
    {previous : Option Char} {s : Text} (leading : Leading previous (clauseTokens clauses) s) :
    (Keyword.pieces "AND".toList previous s).filterMap Condition.ofText? =
      clauses.map Clause.condition := by
  have isWord : IsWord "AND".toList := isWord_and _ List.mem_cons_self
  induction clauses generalizing previous s with
  | nil => exact absurd rfl nonempty
  | cons clause clauses ih =>
    cases clauses with
    | nil =>
      have none := leading.split?_eq_none isWord_and clause.split?_eq_none
      rw [Keyword.pieces_of_none none]
      simp [ofText?_clause leading]
    | cons next clauses =>
      have leading : Leading previous
          (clause.tokens ++ "AND".toList :: clauseTokens (next :: clauses)) s := leading
      obtain ⟨a, rest, rfl, before, apart, behind⟩ := leading.cut
      have none := before.split?_eq_none isWord_and clause.split?_eq_none
      rw [Keyword.pieces_append isWord none (apart.left isWord.head)
          (behind.apart.right isWord.last), List.filterMap_cons, ofText?_clause before,
        ih (List.cons_ne_nil next clauses) behind]
      rfl

/-! ## Where the conditions are -/

/-- The words that close the conditions are reserved. -/
theorem mem_reserved_of_closing {k : Text} (known : k ∈ Statement.closingWords) :
    k ∈ reserved := by
  have all : ∀ k ∈ Statement.closingWords, k ∈ reserved := by decide
  exact all k known

/-- After the conditions the query ends, or a closing word follows. -/
theorem closing_tokens (order : Option Order) (limit : Option Digits) :
    orderTokens order ++ limitTokens limit = [] ∨
      ∃ k ∈ Statement.closingWords, ∃ more, orderTokens order ++ limitTokens limit = k :: more := by
  cases order with
  | some order => exact .inr ⟨"ORDER".toList, by decide, _, rfl⟩
  | none =>
    cases limit with
    | some digits => exact .inr ⟨"LIMIT".toList, by decide, _, rfl⟩
    | none => exact .inl rfl

/-- The conditions end where the order, the row count or nothing follows. -/
theorem upTo_closingWords {q : Query} {previous : Option Char} {s : Text}
    (even : Even previous
      (clauseTokens q.clauses ++ (orderTokens q.order ++ limitTokens q.limit)) s) :
    Leading none (clauseTokens q.clauses) (Keyword.upTo Statement.closingWords s) := by
  have words : ∀ k ∈ Statement.closingWords, IsWord k :=
    fun k known => isWord_of_mem_reserved (mem_reserved_of_closing known)
  have missing {previous : Option Char} {a : Text}
      (leading : Leading previous (clauseTokens q.clauses) a) :
      Keyword.split? Statement.closingWords none a = none :=
    Keyword.split?_of_not_infix words fun k known => leading.not_infix (words k known)
      fun token member => free_clauseTokens token member k (mem_reserved_of_closing known)
  rcases closing_tokens q.order q.limit with none | ⟨k, known, more, some⟩
  · rw [none, List.append_nil] at even
    rw [Keyword.upTo, missing even.leading]
    exact even.leading.atFront
  · rw [some] at even
    obtain ⟨a, rest, rfl, before, apart, behind⟩ := even.cut
    have starts : (a.getLast?.or none).any isWordChar = false := by
      have ends := apart.left (words k known).head
      cases last : a.getLast? <;> simp_all
    rw [Keyword.upTo, Keyword.split?_append_keyword words known (missing before) starts
      (behind.apart.right (words k known).last)]
    exact before.atFront

/-- A list of conditions begins with the name of a column. -/
theorem clauseTokens_cons (clause : Clause) (clauses : List Clause) :
    ∃ more, clauseTokens (clause :: clauses) = clause.column.token :: more := by
  cases clauses with
  | nil => exact ⟨_, rfl⟩
  | cons next clauses => exact ⟨_, rfl⟩

/-- The tokens in front of the conditions. -/
def frontTokens (q : Query) : List Text :=
  "SELECT".toList :: (listTokens q.names ++ ["FROM".toList, q.table.token])

/-- A query is its front, its conditions, its order and its limit. -/
theorem tokens_eq_front (q : Query) :
    q.tokens = q.frontTokens ++
      (whereTokens q.clauses ++ (orderTokens q.order ++ limitTokens q.limit)) := by
  simp [tokens, frontTokens]

/-- In the front of a query no reserved word is found but the one before the table. -/
theorem not_infix_frontTokens {k : Text} (known : k ∈ reserved) (other : k ≠ "FROM".toList)
    (q : Query) : ∀ token ∈ q.frontTokens, ¬k <:+: token := by
  intro token member
  simp only [frontTokens, List.mem_cons, List.mem_append, List.not_mem_nil, or_false] at member
  rcases member with rfl | shown | rfl | rfl
  · exact free_keyword (by decide) (by decide) k known
  · exact free_listTokens token shown k known
  · exact not_infix_keyword known (by decide) other
  · exact q.table.free k known

/-- In the order of a query no reserved word is found but the one that opens it. -/
theorem not_infix_orderTokens {k : Text} (known : k ∈ reserved) (other : k ≠ "ORDER".toList)
    (order : Option Order) : ∀ token ∈ orderTokens order, ¬k <:+: token := by
  rcases order with _ | ⟨column, direction⟩
  · simp [orderTokens]
  · rintro token (_ | ⟨_, _ | ⟨_, _ | ⟨_, member⟩⟩⟩)
    · exact not_infix_keyword known (by decide) other
    · exact free_keyword (by decide) (by decide) k known
    · exact column.free k known
    · rcases direction with _ | _ | _
      · cases member
      · rw [List.mem_singleton.mp member]
        exact free_keyword (by decide) (by decide) k known
      · rw [List.mem_singleton.mp member]
        exact free_keyword (by decide) (by decide) k known

/-- In the limit of a query no reserved word is found but the one that opens it. -/
theorem not_infix_limitTokens {k : Text} (known : k ∈ reserved) (other : k ≠ "LIMIT".toList)
    (limit : Option Digits) : ∀ token ∈ limitTokens limit, ¬k <:+: token := by
  rcases limit with _ | digits
  · simp [limitTokens]
  · rintro token (_ | ⟨_, _ | ⟨_, member⟩⟩)
    · exact not_infix_keyword known (by decide) other
    · exact free_of_symbols digits.mem_symbols k known
    · cases member

/-- In the conditions of a query no reserved word is found but the one that opens them. -/
theorem not_infix_whereTokens {k : Text} (known : k ∈ reserved) (other : k ≠ "WHERE".toList)
    (clauses : List Clause) : ∀ token ∈ whereTokens clauses, ¬k <:+: token := by
  intro token member
  unfold whereTokens at member
  split at member
  · cases member
  · rcases List.mem_cons.mp member with rfl | member
    · exact not_infix_keyword known (by decide) other
    · exact free_clauseTokens token member k known

/-- The conditions are read as they were meant. -/
theorem conditions_eq {q : Query} {s : Text} (even : Even none q.tokens s) :
    Statement.conditions s = q.clauses.map Clause.condition := by
  have known : "WHERE".toList ∈ reserved := by decide
  have isWord := isWord_of_mem_reserved known
  have front := not_infix_frontTokens known (by decide) q
  rw [tokens_eq_front] at even
  cases clauses : q.clauses with
  | nil =>
    -- Without a clause no token holds the word, and the text between the tokens cannot make it up.
    have missing : ¬"WHERE".toList <:+: s := by
      refine even.not_infix isWord fun token member => ?_
      simp only [clauses, whereTokens, List.nil_append, List.mem_append] at member
      rcases member with inFront | inOrder | inLimit
      · exact front token inFront
      · exact not_infix_orderTokens known (by decide) q.order token inOrder
      · exact not_infix_limitTokens known (by decide) q.limit token inLimit
    have absent : occursIn " WHERE ".toList s = false := by
      rw [Bool.eq_false_iff, ne_eq, occursIn_iff]
      exact fun inside => missing (List.IsInfix.trans ⟨[' '], [' '], rfl⟩ inside)
    rw [Statement.conditions, absent]
    rfl
  | cons clause others =>
    have opens : whereTokens q.clauses = "WHERE".toList :: clauseTokens q.clauses := by
      rw [clauses, whereTokens]
      simp
    rw [opens, List.cons_append] at even
    -- The word stands between the front and the clauses with a space on both sides, and the front
    -- is free of it.
    obtain ⟨a, rest, rfl, before, apart, behind⟩ := even.cut
    have ends : (ending none q.frontTokens).any isWordChar = true := by
      simpa [ending, frontTokens] using q.table.isWord.last
    obtain ⟨x, rfl⟩ := before.space apart ends isWord.head
    have last := apart.left isWord.head
    obtain ⟨more, first⟩ := clauseTokens_cons clause others
    have next := behind
    rw [clauses, first, List.cons_append] at next
    obtain ⟨y, spaced, -⟩ := next.word_inv isWord.last clause.column.isWord.head
    have present : occursIn " WHERE ".toList (x ++ [' '] ++ ("WHERE".toList ++ rest)) = true := by
      rw [occursIn_iff]
      exact ⟨x, clause.column.token ++ y, by simp [spaced]⟩
    have found := Keyword.split?_append_keyword (List.forall_mem_singleton.mpr isWord)
      List.mem_cons_self (Keyword.split?_of_not_infix (List.forall_mem_singleton.mpr isWord)
        (List.forall_mem_singleton.mpr (before.not_infix isWord front))) last
      (behind.apart.right isWord.last)
    rw [Statement.conditions, if_pos present, found, ← clauses]
    exact filterMap_ofText? (by simp [clauses]) (upTo_closingWords behind)

/-! ## Columns -/

/-- The names between the commas are read one after the other. -/
theorem map_strip_pieces {names : List Name} (nonempty : names ≠ []) {previous : Option Char}
    {s : Text}
    (leading : Leading previous (separated [','] (names.map fun name => [name.token])) s) :
    (pieces (· == ',') s).map strip = names.map Name.token := by
  have one {previous : Option Char} {a : Text} {name : Name}
      (leading : Leading previous [name.token] a) :
      (pieces (· == ',') a).map strip = [name.token] := by
    obtain ⟨left, right, rfl, first, last⟩ := leading.first
    have noComma : ∀ c ∈ left ++ (name.token ++ right), (c == ',') = false := by
      have other {c : Char} (blank : isBlank c = true) : (c == ',') = false := by
        rw [beq_eq_false_iff_ne]
        rintro rfl
        exact absurd blank (by decide)
      intro c member
      simp only [List.mem_append] at member
      rcases member with inLeft | inName | inRight
      · exact other (first c inLeft)
      · rw [beq_eq_false_iff_ne]
        rintro rfl
        exact absurd (name.isWord.solid ',' inName) (by decide)
      · exact other (isBlank_of_leading last c inRight)
    rw [pieces_of_none noComma, List.map_singleton,
      strip_token first (isBlank_of_leading last)
        (isToken_of_isWord name.isWord)]
  induction names generalizing previous s with
  | nil => exact absurd rfl nonempty
  | cons name names ih =>
    cases names with
    | nil => exact one leading
    | cons next names =>
      have leading : Leading previous ([name.token] ++ [','] ::
          separated [','] ((next :: names).map fun name => [name.token])) s := leading
      obtain ⟨a, rest, rfl, before, -, behind⟩ := leading.cut
      rw [List.singleton_append, pieces_append_separator rfl, List.map_append, one before,
        ih (List.cons_ne_nil next names) behind]
      rfl

/-- What stands between the first two words of a query is the list of its columns. -/
theorem exists_columnText {q : Query} {rest : Text}
    (even : Even "SELECT".toList.getLast? q.tokens.tail rest) :
    ∃ a, upTo "FROM".toList ("SELECT".toList ++ rest) = "SELECT".toList ++ a ∧
      Leading "SELECT".toList.getLast? (listTokens q.names) a := by
  have known : "FROM".toList ∈ reserved := by decide
  have isWord := isWord_of_mem_reserved known
  have even : Even "SELECT".toList.getLast? (listTokens q.names ++ "FROM".toList ::
      q.table.token :: (whereTokens q.clauses ++ (orderTokens q.order ++ limitTokens q.limit)))
      rest := even
  obtain ⟨a, rest, rfl, before, apart, -⟩ := even.cut
  have missing : ¬"FROM".toList <:+: "SELECT".toList ++ a := fun inside =>
    (infix_append isWord before.apart inside).elim
      (free_keyword (by decide) (by decide) _ known)
      (before.not_infix isWord fun token shown => free_listTokens token shown _ known)
  have apart : Apart ("SELECT".toList ++ a).getLast? ("FROM".toList ++ rest).head? := by
    rw [List.getLast?_append]
    exact apart
  refine ⟨a, ?_, before⟩
  rw [upTo, ← List.append_assoc, splitFirst?_append_of_not_infix isWord apart missing,
    splitFirst?_self_append]
  simp

/-- There is no star in a list of names. -/
theorem not_mem_star {names : List Name} {previous : Option Char} {s : Text}
    (even : Even previous (separated [','] (names.map fun name => [name.token])) s) :
    '*' ∉ s := by
  intro star
  rcases even.mem star with space | ⟨token, known, inside⟩
  · exact absurd space (by decide)
  · rcases mem_separated known with rfl | ⟨part, known, member⟩
    · exact absurd inside (by decide)
    · obtain ⟨name, -, rfl⟩ := List.mem_map.mp known
      rw [List.mem_singleton.mp member] at inside
      exact absurd (name.isWord.solid '*' inside) (by decide)

/-- The columns are read as they were meant. -/
theorem columns?_eq {q : Query} {s rest : Text} (select : s = "SELECT".toList ++ rest)
    (even : Even "SELECT".toList.getLast? q.tokens.tail rest) :
    Statement.columns? s = q.selection.columns := by
  obtain ⟨a, cut, before⟩ := exists_columnText even
  have shown : eraseFirst "SELECT".toList ("SELECT".toList ++ a) = a := by
    rw [eraseFirst, splitFirst?_self_append]
    rfl
  rw [Statement.columns?, select, cut, shown]
  cases names : q.names with
  | nil =>
    rw [names] at before
    obtain ⟨rest, star, even, -⟩ := before.strip
    rw [even.nil_inv, List.append_nil] at star
    simp [star, selection, names]
  | cons name others =>
    rw [names] at before
    have nonempty : name :: others ≠ [] := List.cons_ne_nil name others
    obtain ⟨more, first⟩ : ∃ more, listTokens (name :: others) = name.token :: more := by
      cases others with
      | nil => exact ⟨_, rfl⟩
      | cons next others => exact ⟨_, rfl⟩
    -- The first name shows that the list is not blank, and no name has a star in it.
    have list := before
    rw [first] at list
    obtain ⟨rest, begins, -, even⟩ := list.strip
    rw [← first] at even
    have some : (strip a).isEmpty = false := by simp [begins, name.isWord.some]
    have noStar : (strip a).contains '*' = false := by
      rw [Bool.eq_false_iff, ne_eq, List.contains_iff_mem]
      exact not_mem_star even
    have read := map_strip_pieces nonempty even.leading
    have lowered : (pieces (· == ',') (strip a)).map (fun name => lower (strip name)) =
        (name :: others).map fun name => name.chars := by
      rw [← Function.comp_def lower strip, ← List.map_map, read, List.map_map]
      exact List.map_congr_left fun name _ => name.lower_token
    simp only [some, noStar, Bool.or_self, Bool.false_eq_true, if_false, lowered, selection, names]
    simp

/-! ## Order and row count -/

/-- What follows a word is what stands after it. -/
theorem afterWord?_append (word : String) (s : Text) :
    Statement.afterWord? word (word.toList ++ s) = some s := by
  have here : word.toList.isPrefixOf (word.toList ++ s) = true :=
    List.isPrefixOf_iff_prefix.mpr ⟨s, rfl⟩
  rw [Statement.afterWord?, if_pos here, ← String.length_toList, List.drop_left]

/-- After a blank a token is reached. -/
theorem afterBlanks?_space {token : Text} (isToken : IsToken token) (s : Text) :
    Statement.afterBlanks? (' ' :: (token ++ s)) = some (token ++ s) := by
  have blank : isBlank ' ' = true := by decide
  have stripped : stripLeft ([' '] ++ (token ++ s)) = token ++ s :=
    stripLeft_token (by simpa using blank) isToken s
  rw [Statement.afterBlanks?, List.head?_cons, Option.any_some, if_pos blank]
  exact congrArg some stripped

/-- What reads a word first finds something only where the word stands. -/
theorem begins_of_afterWord? {α : Type} {word : String} {f : Text → Option α} {s : Text}
    (found : ((Statement.afterWord? word s).bind f).isSome) : word.toList <+: s := by
  unfold Statement.afterWord? at found
  split at found
  next here => exact List.isPrefixOf_iff_prefix.mp here
  next => cases found

/-- After one blank it is the next token that says whether the order descends. -/
theorem descends_space {word : Text} (isToken : IsToken word) (rest : Text) :
    Statement.descends (' ' :: (word ++ rest)) = "DESC".toList.isPrefixOf (word ++ rest) := by
  rw [Statement.descends, afterBlanks?_space isToken]

/-- The direction of the order is read as it was meant. -/
theorem descends_eq {direction : Option Direction} {limit : Option Digits} {previous : Option Char}
    {s : Text} (word : previous.any isWordChar = true)
    (even : Even previous (directionTokens direction ++ limitTokens limit) s) :
    Statement.descends s = (direction == some .descending) := by
  rcases direction with _ | _ | _
  · cases limit with
    | none =>
      rw [even.nil_inv]
      rfl
    | some digits =>
      obtain ⟨rest, rfl, -⟩ := even.word_inv word (by decide)
      rw [descends_space (isToken_keyword (by decide))]
      rfl
  · obtain ⟨rest, rfl, -⟩ := even.word_inv word (by decide)
    rw [descends_space (isToken_keyword (by decide))]
    rfl
  · obtain ⟨rest, rfl, -⟩ := even.word_inv word (by decide)
    rw [descends_space (isToken_keyword (by decide))]
    exact List.isPrefixOf_iff_prefix.mpr ⟨rest, rfl⟩

/-- At its word the order is read as it was meant. -/
theorem orderHere?_append {order : Order} {limit : Option Digits} {rest : Text}
    (even : Even "ORDER".toList.getLast?
      ("BY".toList :: order.column.token :: (directionTokens order.direction ++ limitTokens limit))
      rest) :
    Statement.orderHere? ("ORDER".toList ++ rest) = some order.sortOrder := by
  have isWord := order.column.isWord
  obtain ⟨behind, rfl, evenBy⟩ := even.word_inv (by decide) (by decide)
  obtain ⟨tail, rfl, evenTail⟩ := evenBy.word_inv (by decide) isWord.head
  obtain ⟨column, beyond⟩ := takeWhile_word isWord evenTail.apart
  have nonempty : order.column.token.isEmpty = false := by simpa using isWord.some
  have isTokenBy : IsToken "BY".toList := isToken_keyword (by decide)
  simp only [Statement.orderHere?, afterWord?_append, Option.bind_eq_bind, Option.bind_some,
    afterBlanks?_space isTokenBy,
    afterBlanks?_space (isToken_of_isWord isWord), column, beyond, nonempty,
    descends_eq isWord.last evenTail, Name.lower_token]
  rfl

/-- A row count is read digit by digit, however many there are. -/
theorem limitHere?_numeral {values : List (Fin 10)} (nonempty : values ≠ []) :
    Statement.limitHere? ("LIMIT".toList ++ ' ' :: values.map fun d => Nat.digitChar d.val) =
      some (values.map fun d => d.val) := by
  have isToken := isToken_of_isWord (isWord_numeral nonempty)
  have whole : (values.map fun d => Nat.digitChar d.val).takeWhile
      (fun c => (digitValue? c).isSome) = values.map fun d => Nat.digitChar d.val := by
    rw [List.takeWhile_eq_self_iff]
    intro c member
    obtain ⟨d, -, rfl⟩ := List.mem_map.mp member
    rw [(digitChar_fin d).2.1]
    rfl
  have read : (values.map fun d => Nat.digitChar d.val).filterMap digitValue? =
      values.map fun d => d.val := by
    rw [List.filterMap_map, ← List.filterMap_eq_map]
    exact List.filterMap_congr fun d _ => (digitChar_fin d).2.1
  have some : (values.map fun d => d.val).isEmpty = false := by simpa using nonempty
  have blanks := afterBlanks?_space isToken []
  rw [List.append_nil] at blanks
  simp only [Statement.limitHere?, afterWord?_append, Option.bind_eq_bind, Option.bind_some,
    blanks, whole, read, some]
  rfl

/-- At its word the limit is read as it was meant. -/
theorem limitHere?_append {digits : Digits} {rest : Text}
    (even : Even "LIMIT".toList.getLast? [digits.text] rest) :
    Statement.limitHere? ("LIMIT".toList ++ rest) =
      some (digits.values.map fun d : Fin 10 => d.val) := by
  obtain ⟨tail, rfl, evenTail⟩ := even.word_inv (by decide) digits.isWord.head
  obtain rfl := evenTail.nil_inv
  rw [List.append_nil]
  exact limitHere?_numeral digits.nonempty

/-- In the whole query the order is found, and none where there is none. -/
theorem firstAt?_orderHere? {q : Query} {s : Text} (even : Even none q.tokens s) :
    Statement.firstAt? Statement.orderHere? s = q.order.map Order.sortOrder := by
  have known : "ORDER".toList ∈ reserved := by decide
  have isWord := isWord_of_mem_reserved known
  have begins (s : Text) (found : (Statement.orderHere? s).isSome) : "ORDER".toList <+: s :=
    begins_of_afterWord? found
  have front : ∀ token ∈ q.frontTokens ++ whereTokens q.clauses, ¬"ORDER".toList <:+: token := by
    intro token member
    rcases List.mem_append.mp member with inFront | inWhere
    · exact not_infix_frontTokens known (by decide) q token inFront
    · exact not_infix_whereTokens known (by decide) q.clauses token inWhere
  rw [tokens_eq_front, ← List.append_assoc] at even
  cases order : q.order with
  | none =>
    rw [order] at even
    refine Statement.firstAt?_of_not_infix isWord begins
      (even.not_infix isWord fun token member => ?_)
    rcases List.mem_append.mp member with inFront | inLimit
    · exact front token inFront
    · exact not_infix_limitTokens known (by decide) q.limit token inLimit
  | some order' =>
    rw [order] at even
    obtain ⟨a, rest, rfl, before, apart, behind⟩ := even.cut
    have apart : Apart a.getLast? ("ORDER".toList ++ rest).head? :=
      .of_left (by simpa using apart.left isWord.head) _
    rw [Statement.firstAt?_append isWord begins apart (before.not_infix isWord front)]
    exact Statement.firstAt?_of_some (orderHere?_append behind)

/-- In the whole query the limit is found, and none where there is none. -/
theorem firstAt?_limitHere? {q : Query} {s : Text} (even : Even none q.tokens s) :
    Statement.firstAt? Statement.limitHere? s =
      q.limit.map fun digits => digits.values.map fun d : Fin 10 => d.val := by
  have known : "LIMIT".toList ∈ reserved := by decide
  have isWord := isWord_of_mem_reserved known
  have begins (s : Text) (found : (Statement.limitHere? s).isSome) : "LIMIT".toList <+: s :=
    begins_of_afterWord? found
  have front : ∀ token ∈ q.frontTokens ++ (whereTokens q.clauses ++ orderTokens q.order),
      ¬"LIMIT".toList <:+: token := by
    intro token member
    simp only [List.mem_append] at member
    rcases member with inFront | inWhere | inOrder
    · exact not_infix_frontTokens known (by decide) q token inFront
    · exact not_infix_whereTokens known (by decide) q.clauses token inWhere
    · exact not_infix_orderTokens known (by decide) q.order token inOrder
  rw [tokens_eq_front, ← List.append_assoc (whereTokens _), ← List.append_assoc] at even
  cases limit : q.limit with
  | none =>
    rw [limit, limitTokens, List.append_nil] at even
    exact Statement.firstAt?_of_not_infix isWord begins (even.not_infix isWord front)
  | some digits =>
    rw [limit] at even
    obtain ⟨a, rest, rfl, before, apart, behind⟩ := even.cut
    have apart : Apart a.getLast? ("LIMIT".toList ++ rest).head? :=
      .of_left (by simpa using apart.left isWord.head) _
    rw [Statement.firstAt?_append isWord begins apart (before.not_infix isWord front)]
    exact Statement.firstAt?_of_some (limitHere?_append behind)

/-! ## The whole query -/

/-- However a selection is written, it is read as what it says. -/
theorem Written.ofText {q : Query} {text : Text} (written : q.Written text) :
    Statement.ofText text = .select q.selection := by
  obtain ⟨body, closing, rfl, spelled, blanks⟩ := written
  obtain ⟨rest, select, even⟩ :=
    Statement.canonical_written spelled (isToken_tokens q) blanks
  have whole : Even none q.tokens (Statement.canonical (body ++ closing)) := by
    rw [select]
    exact .cons (.inl rfl) ⟨rfl, isToken_keyword (by decide)⟩ (fun _ => .none_left _) even
  have begins : "SELECT".toList.isPrefixOf (Statement.canonical (body ++ closing)) = true :=
    List.isPrefixOf_iff_prefix.mpr ⟨rest, select.symm⟩
  rw [Statement.ofText, Statement.ofCanonical, if_pos begins, Statement.selection,
    columns?_eq select even, conditions_eq whole, firstAt?_orderHere? whole,
    firstAt?_limitHere? whole]
  rfl

end Query

end DryRun
