import DryRun.Number.Numeral
import DryRun.Proofs.Query.Spelling
import Mathlib.Data.Fin.Basic

/-!
# The selections that are understood

A selection names columns, or none for all of them, and a table. It may have conditions, an order
and a row count. Names and quoted texts are given in lower case, for it does not matter in which
case they are written (`Query.Written`).

The parts of a query are looked for wherever they stand, so none of the words that open a part may
stand in a name or a quoted text, not even as a part of it, and `AND`, which is looked for as a word
of its own, may not be one. These conditions are fields of the names and words (`Query.Word`): a
query that breaks them cannot be built.
-/

set_option autoImplicit false

namespace DryRun

open Text (IsWord IsToken)

namespace Query

/-- The characters of names and quoted texts, in lower case. -/
def plainChars : Text := "abcdefghijklmnopqrstuvwxyz0123456789_".toList

/-- The words that may stand in no name and in no quoted text. -/
def reserved : List Text :=
  ["FROM".toList, "WHERE".toList, "GROUP".toList, "ORDER".toList, "LIMIT".toList]

/-- A word in a query, perhaps empty. -/
structure Word where
  chars : Text
  plain : ∀ c ∈ chars, c ∈ plainChars
  free : ∀ k ∈ reserved, ¬k <:+: Text.upper chars
  single : Text.upper chars ≠ "AND".toList

/-- A name of a column or a table. -/
structure Name extends Word where
  nonempty : chars ≠ []

/-- A number without a sign, as its digits. -/
structure Digits where
  values : List (Fin 10)
  nonempty : values ≠ []
  short : values.length ≤ Numeral.digitLimit

/-- What a column is compared with. -/
inductive Operand where
  /-- An integer, with or without a sign. -/
  | numeral (sign : Text) (isSign : sign ∈ [[], ['+'], ['-']]) (digits : Digits)
  /-- A text between quote marks. -/
  | quoted (mark : Char) (isMark : mark ∈ ['\x27', '\x22']) (word : Word)

/-- The signs of the comparisons. -/
inductive Sign where
  | equal
  | bangEqual
  | angles
  | greater
  | less
  | greaterEqual
  | lessEqual

/-- A comparison of a column with an operand. -/
structure Clause where
  column : Name
  sign : Sign
  operand : Operand

inductive Direction where
  | ascending
  | descending
  deriving DecidableEq

/-- The column by which the rows are ordered, and which way if that is written. -/
structure Order where
  column : Name
  direction : Option Direction

end Query

/-- A selection. -/
structure Query where
  /-- The columns to show, none for all of them. -/
  names : List Query.Name
  table : Query.Name
  /-- The conditions that a row has to meet. -/
  clauses : List Query.Clause
  order : Option Query.Order
  /-- How many rows to show at most. -/
  limit : Option Query.Digits

namespace Query

/-! ## Tokens -/

def Name.token (name : Name) : Text := Text.upper name.chars

def Digits.text (digits : Digits) : Text := digits.values.map fun d => Nat.digitChar d.val

def Sign.text : Sign → Text
  | .equal => ['=']
  | .bangEqual => ['!', '=']
  | .angles => ['<', '>']
  | .greater => ['>']
  | .less => ['<']
  | .greaterEqual => ['>', '=']
  | .lessEqual => ['<', '=']

def Operand.token : Operand → Text
  | .numeral sign _ digits => sign ++ digits.text
  | .quoted mark _ word => mark :: (Text.upper word.chars ++ [mark])

def Clause.tokens (clause : Clause) : List Text :=
  [clause.column.token, clause.sign.text, clause.operand.token]

/-- The tokens of some parts, with a separator between neighbours. -/
def separated (separator : Text) : List (List Text) → List Text
  | [] => []
  | [tokens] => tokens
  | tokens :: next :: rest => tokens ++ separator :: separated separator (next :: rest)

def listTokens : List Name → List Text
  | [] => [['*']]
  | names => separated [','] (names.map fun name => [name.token])

def clauseTokens (clauses : List Clause) : List Text :=
  separated "AND".toList (clauses.map Clause.tokens)

def whereTokens : List Clause → List Text
  | [] => []
  | clauses => "WHERE".toList :: clauseTokens clauses

def directionTokens : Option Direction → List Text
  | none => []
  | some .ascending => ["ASC".toList]
  | some .descending => ["DESC".toList]

def orderTokens : Option Order → List Text
  | none => []
  | some order =>
    "ORDER".toList :: "BY".toList :: order.column.token :: directionTokens order.direction

def limitTokens : Option Digits → List Text
  | none => []
  | some digits => ["LIMIT".toList, digits.text]

/-- The tokens of a query, in capitals. -/
def tokens (q : Query) : List Text :=
  "SELECT".toList :: (listTokens q.names ++ "FROM".toList :: q.table.token ::
    (whereTokens q.clauses ++ (orderTokens q.order ++ limitTokens q.limit)))

/-- A text is a query: its tokens in any letter case with blanks between them, and perhaps a
semicolon at the end. -/
def Written (q : Query) (text : Text) : Prop :=
  ∃ body closing, text = body ++ closing ∧ Text.Written none q.tokens body ∧
    ∀ c ∈ closing, Text.isBlank c = true ∨ c = ';'

/-! ## Characters -/

/-- A capital of a plain character is a word character, and its small letter is the character. -/
theorem upperChar_plain {c : Char} (plain : c ∈ plainChars) :
    Text.upperChar c = [c.toUpper] ∧ Text.isWordChar c.toUpper = true ∧ c.toUpper ≠ 'Σ' ∧
      Text.lowerChar c.toUpper = [c] := by
  have all : plainChars.all (fun c => Text.upperChar c == [c.toUpper] &&
      Text.isWordChar c.toUpper && c.toUpper != 'Σ' && Text.lowerChar c.toUpper == [c]) = true := by
    decide
  simpa [and_assoc] using List.all_eq_true.mp all c plain

/-- On the characters that a name may have, capitals are the ASCII ones. -/
theorem upper_of_plain {s : Text} (plain : ∀ c ∈ s, c ∈ plainChars) :
    Text.upper s = s.map Char.toUpper := by
  induction s with
  | nil => rfl
  | cons c s ih =>
    obtain ⟨first, others⟩ := List.forall_mem_cons.mp plain
    rw [Text.upper, List.flatMap_cons, (upperChar_plain first).1, ← Text.upper, ih others]
    rfl

/-- A name comes back from its capitals. -/
theorem lower_upper_of_plain {s : Text} (plain : ∀ c ∈ s, c ∈ plainChars) :
    Text.lower (Text.upper s) = s := by
  have behind (before : Text) : Text.lowerFrom before (s.map Char.toUpper) = s := by
    induction s generalizing before with
    | nil => rfl
    | cons c s ih =>
      obtain ⟨first, others⟩ := List.forall_mem_cons.mp plain
      obtain ⟨-, -, noSigma, small⟩ := upperChar_plain first
      rw [List.map_cons, Text.lowerFrom, if_neg (by simpa using noSigma), small, ih others]
      rfl
  rw [upper_of_plain plain]
  exact behind []

/-- The capitals of a word are word characters. -/
theorem Word.isWordChar (word : Word) :
    ∀ c ∈ Text.upper word.chars, Text.isWordChar c = true := by
  rw [upper_of_plain word.plain]
  intro c member
  obtain ⟨d, inside, rfl⟩ := List.mem_map.mp member
  exact (upperChar_plain (word.plain d inside)).2.1

/-- In a query a name is a word. -/
theorem Name.isWord (name : Name) : IsWord name.token :=
  ⟨by simpa [Name.token, upper_of_plain name.plain] using name.nonempty, name.isWordChar⟩

/-- In small letters the token of a name is the name again. -/
theorem Name.lower_token (name : Name) : Text.lower name.token = name.chars :=
  lower_upper_of_plain name.plain

/-- The digits are word characters of their own value. -/
theorem digitChar_fin (d : Fin 10) :
    Text.isWordChar (Nat.digitChar d.val) = true ∧
      Text.digitValue? (Nat.digitChar d.val) = some d.val ∧
      Nat.digitChar d.val ∈ "0123456789".toList := by
  revert d
  decide

/-- A numeral is a word. -/
theorem isWord_numeral {values : List (Fin 10)} (nonempty : values ≠ []) :
    IsWord (values.map fun d => Nat.digitChar d.val) := by
  refine ⟨by simpa using nonempty, fun c member => ?_⟩
  obtain ⟨d, -, rfl⟩ := List.mem_map.mp member
  exact (digitChar_fin d).1

/-- The digits of a query are a word. -/
theorem Digits.isWord (digits : Digits) : IsWord digits.text := isWord_numeral digits.nonempty

/-! ## What stands in no token -/

/-- Reserved words are words. -/
theorem isWord_of_mem_reserved {k : Text} (known : k ∈ reserved) : IsWord k := by
  simp only [reserved, List.mem_cons, List.not_mem_nil, or_false] at known
  rcases known with rfl | rfl | rfl | rfl | rfl <;>
    exact ⟨by simp, Text.forall_mem_of_all (by decide)⟩

/-- The word between conditions is a word. -/
theorem isWord_and : ∀ k ∈ ["AND".toList], IsWord k := by
  simp only [List.mem_singleton, forall_eq]
  exact ⟨by simp, Text.forall_mem_of_all (by decide)⟩

/-- The characters of tokens without letters. -/
def symbols : Text := "+-0123456789=<>!,*".toList

/-- No keyword is hidden in a token that consists of symbols. -/
theorem not_infix_of_symbols {k token : Text} (known : k ∈ "AND".toList :: reserved)
    (all : ∀ c ∈ token, c ∈ symbols) : ¬k <:+: token := by
  intro inside
  have first : k.head?.all (symbols.contains ·) = false := by
    simp only [reserved, List.mem_cons, List.not_mem_nil, or_false] at known
    rcases known with rfl | rfl | rfl | rfl | rfl | rfl <;> decide
  cases k with
  | nil => simp at first
  | cons c k => simp [all c (inside.subset List.mem_cons_self)] at first

/-- The sign of a comparison consists of symbols. -/
theorem Sign.mem_symbols (sign : Sign) : ∀ c ∈ sign.text, c ∈ symbols := by
  cases sign <;> decide

/-- The digits of a query are among the symbols. -/
theorem Digits.mem_symbols (digits : Digits) : ∀ c ∈ digits.text, c ∈ symbols := by
  intro c member
  obtain ⟨d, -, rfl⟩ := List.mem_map.mp member
  have digit := (digitChar_fin d).2.2
  exact List.mem_append_left _ (List.mem_append_right ['+', '-'] digit)

/-- The sign of a number is a symbol. -/
theorem mem_symbols_of_isSign {sign : Text} (isSign : sign ∈ [[], ['+'], ['-']]) :
    ∀ c ∈ sign, c ∈ symbols := by
  simp only [List.mem_cons, List.not_mem_nil, or_false] at isSign
  rcases isSign with rfl | rfl | rfl <;> decide

/-- Quote marks are no word characters. -/
theorem isWordChar_of_isMark {mark : Char} (isMark : mark ∈ ['\x27', '\x22']) :
    Text.isWordChar mark = false := by
  simp only [List.mem_cons, List.not_mem_nil, or_false] at isMark
  rcases isMark with rfl | rfl <;> decide

/-- None of the reserved words stands in a token. -/
def Free (token : Text) : Prop := ∀ k ∈ reserved, ¬k <:+: token

/-- A token of symbols is free of keywords. -/
theorem free_of_symbols {token : Text} (all : ∀ c ∈ token, c ∈ symbols) : Free token :=
  fun _ known => not_infix_of_symbols (List.mem_cons_of_mem _ known) all

/-- The words that are written in a query. -/
def keywords : List Text :=
  ["SELECT".toList, "FROM".toList, "WHERE".toList, "AND".toList, "ORDER".toList, "BY".toList,
    "ASC".toList, "DESC".toList, "LIMIT".toList]

/-- No reserved word stands in another keyword. -/
theorem not_infix_keyword {k token : Text} (known : k ∈ reserved) (isKeyword : token ∈ keywords)
    (other : k ≠ token) : ¬k <:+: token := by
  have all : ∀ k ∈ reserved, ∀ token ∈ keywords, k ≠ token → Text.occursIn k token = false := by
    decide
  rw [← Text.occursIn_iff, all k known token isKeyword other]
  exact Bool.false_ne_true

/-- A keyword that is not reserved is free of the reserved ones. -/
theorem free_keyword {token : Text} (isKeyword : token ∈ keywords) (other : token ∉ reserved) :
    Free token :=
  fun _ known => not_infix_keyword known isKeyword fun same => other (same ▸ known)

/-- No reserved word is hidden in an operand. -/
theorem Operand.free (operand : Operand) : Free operand.token := by
  cases operand with
  | numeral sign isSign digits =>
    exact free_of_symbols fun c member =>
      (List.mem_append.mp member).elim (mem_symbols_of_isSign isSign c) (digits.mem_symbols c)
  | quoted mark isMark word =>
    intro k known inside
    have isWord := isWord_of_mem_reserved known
    have other := isWordChar_of_isMark isMark
    rcases Text.infix_append (a := [mark]) isWord (.of_left (by simpa) _) inside with front | inside
    · exact isWord.not_infix_singleton other front
    · exact (Text.infix_append isWord (.of_right _ (by simpa)) inside).elim (word.free k known)
        (isWord.not_infix_singleton other)

/-- An operand is not cut at the word between conditions. -/
theorem Operand.split?_eq_none (operand : Operand) :
    Keyword.split? ["AND".toList] none operand.token = none := by
  have isWord : IsWord "AND".toList := isWord_and _ List.mem_cons_self
  cases operand with
  | numeral sign isSign digits =>
    refine Keyword.split?_of_not_infix isWord_and (List.forall_mem_singleton.mpr ?_)
    refine not_infix_of_symbols List.mem_cons_self fun c member => ?_
    exact (List.mem_append.mp member).elim (mem_symbols_of_isSign isSign c) (digits.mem_symbols c)
  | quoted mark isMark word =>
    have other := isWordChar_of_isMark isMark
    have single (previous : Option Char) : Keyword.split? ["AND".toList] previous [mark] = none :=
      Keyword.split?_of_not_infix isWord_and
        (List.forall_mem_singleton.mpr (isWord.not_infix_singleton other))
    have inner : Keyword.split? ["AND".toList] (some mark) (Text.upper word.chars) = none := by
      rw [Keyword.split?_of_apart isWord_and (.of_left (by simpa) _)]
      exact Keyword.split?_of_ne isWord word.isWordChar word.single
    show Keyword.split? _ none ([mark] ++ (Text.upper word.chars ++ [mark])) = none
    rw [Keyword.split?_append isWord_and (.of_left (by simpa) _) (single none),
      List.getLast?_singleton, Option.some_or,
      Keyword.split?_append isWord_and (.of_right _ (by simpa)) inner, single]
    rfl

/-- No reserved word is hidden in the tokens of a condition. -/
theorem Clause.free (clause : Clause) : ∀ token ∈ clause.tokens, Free token := by
  simp only [Clause.tokens, List.mem_cons, List.not_mem_nil, or_false]
  rintro token (rfl | rfl | rfl)
  · exact clause.column.free
  · exact free_of_symbols clause.sign.mem_symbols
  · exact clause.operand.free

/-- No token of a condition is cut at the word between conditions. -/
theorem Clause.split?_eq_none (clause : Clause) :
    ∀ token ∈ clause.tokens, Keyword.split? ["AND".toList] none token = none := by
  simp only [Clause.tokens, List.mem_cons, List.not_mem_nil, or_false]
  rintro token (rfl | rfl | rfl)
  · exact Keyword.split?_of_ne (isWord_and _ List.mem_cons_self) clause.column.isWordChar
      clause.column.single
  · exact Keyword.split?_of_not_infix isWord_and (List.forall_mem_singleton.mpr
      (not_infix_of_symbols List.mem_cons_self clause.sign.mem_symbols))
  · exact clause.operand.split?_eq_none

/-- The tokens of a separated list are the separator and the tokens of the parts. -/
theorem mem_separated {separator token : Text} {parts : List (List Text)}
    (member : token ∈ separated separator parts) :
    token = separator ∨ ∃ part ∈ parts, token ∈ part := by
  fun_induction separated separator parts with
  | case1 => simp at member
  | case2 part => exact .inr ⟨part, List.mem_cons_self, member⟩
  | case3 part next rest ih =>
    rcases List.mem_append.mp member with inside | member
    · exact .inr ⟨part, List.mem_cons_self, inside⟩
    · rcases List.mem_cons.mp member with rfl | member
      · exact .inl rfl
      · exact (ih member).imp_right fun ⟨part, known, inside⟩ =>
          ⟨part, List.mem_cons_of_mem _ known, inside⟩

/-- The tokens of a column list are the star, commas and names. -/
theorem mem_listTokens {names : List Name} {token : Text} (member : token ∈ listTokens names) :
    token = ['*'] ∨ token = [','] ∨ ∃ name ∈ names, token = name.token := by
  unfold listTokens at member
  split at member
  · exact .inl (List.mem_singleton.mp member)
  · rcases mem_separated member with rfl | ⟨part, known, inside⟩
    · exact .inr (.inl rfl)
    · obtain ⟨name, named, rfl⟩ := List.mem_map.mp known
      exact .inr (.inr ⟨name, named, List.mem_singleton.mp inside⟩)

/-- No reserved word is hidden in a column list. -/
theorem free_listTokens {names : List Name} : ∀ token ∈ listTokens names, Free token := by
  intro token member
  obtain rfl | rfl | ⟨name, -, rfl⟩ := mem_listTokens member
  · exact free_of_symbols (by decide)
  · exact free_of_symbols (by decide)
  · exact name.free

/-- No reserved word is hidden in a list of conditions. -/
theorem free_clauseTokens {clauses : List Clause} :
    ∀ token ∈ clauseTokens clauses, Free token := by
  intro token member
  rcases mem_separated member with rfl | ⟨part, known, inside⟩
  · exact free_keyword (by decide) (by decide)
  · obtain ⟨clause, -, rfl⟩ := List.mem_map.mp known
    exact clause.free token inside

/-! ## All tokens are tokens -/

/-- A word is a token. -/
theorem isToken_of_isWord {token : Text} (isWord : IsWord token) : IsToken token := by
  refine ⟨isWord.some, fun c member => ⟨?_, ?_⟩⟩
  · rw [Bool.eq_false_iff]
    intro blank
    simpa [isWord.solid c member] using Text.isWordChar_of_isBlank blank
  · rintro rfl
    exact absurd (isWord.solid ';' member) (by decide)

/-- Some symbols are a token. -/
theorem isToken_of_symbols {token : Text} (some : token ≠ []) (all : ∀ c ∈ token, c ∈ symbols) :
    IsToken token := by
  have each : ∀ c ∈ symbols, Text.isBlank c = false ∧ c ≠ ';' := by decide
  exact ⟨some, fun c member => each c (all c member)⟩

/-- A keyword is a token. -/
theorem isToken_keyword {token : Text} (isKeyword : token ∈ keywords) : IsToken token := by
  simp only [keywords, List.mem_cons, List.not_mem_nil, or_false] at isKeyword
  rcases isKeyword with rfl | rfl | rfl | rfl | rfl | rfl | rfl | rfl | rfl <;>
    exact isToken_of_isWord ⟨by simp, Text.forall_mem_of_all (by decide)⟩

/-- An operand is a token. -/
theorem Operand.isToken (operand : Operand) : IsToken operand.token := by
  cases operand with
  | numeral sign isSign digits =>
    refine isToken_of_symbols (fun empty => digits.isWord.some ?_) fun c member => ?_
    · exact (List.append_eq_nil_iff.mp empty).2
    · exact (List.mem_append.mp member).elim (mem_symbols_of_isSign isSign c) (digits.mem_symbols c)
  | quoted mark isMark word =>
    have marks : Text.isBlank mark = false ∧ mark ≠ ';' := by
      simp only [List.mem_cons, List.not_mem_nil, or_false] at isMark
      rcases isMark with rfl | rfl <;> decide
    refine ⟨by simp [Operand.token], fun c member => ?_⟩
    rcases List.mem_cons.mp member with rfl | member
    · exact marks
    · rcases List.mem_append.mp member with inside | last
      · have isWord : IsWord (Text.upper word.chars) :=
          ⟨List.ne_nil_of_mem inside, word.isWordChar⟩
        exact (isToken_of_isWord isWord).solid c inside
      · rwa [List.mem_singleton.mp last]

/-- A condition is made of tokens. -/
theorem Clause.isToken (clause : Clause) : ∀ token ∈ clause.tokens, IsToken token := by
  simp only [Clause.tokens, List.mem_cons, List.not_mem_nil, or_false]
  rintro token (rfl | rfl | rfl)
  · exact isToken_of_isWord clause.column.isWord
  · exact isToken_of_symbols (by cases clause.sign <;> simp [Sign.text]) clause.sign.mem_symbols
  · exact clause.operand.isToken

/-- A column list is made of tokens. -/
theorem isToken_listTokens {names : List Name} : ∀ token ∈ listTokens names, IsToken token := by
  intro token member
  obtain rfl | rfl | ⟨name, -, rfl⟩ := mem_listTokens member
  · exact isToken_of_symbols (by simp) (by decide)
  · exact isToken_of_symbols (by simp) (by decide)
  · exact isToken_of_isWord name.isWord

/-- The part with the conditions is made of tokens. -/
theorem isToken_whereTokens {clauses : List Clause} :
    ∀ token ∈ whereTokens clauses, IsToken token := by
  intro token member
  unfold whereTokens at member
  split at member
  · simp at member
  · rcases List.mem_cons.mp member with rfl | member
    · exact isToken_keyword (by decide)
    · rcases mem_separated member with rfl | ⟨part, known, inside⟩
      · exact isToken_keyword (by decide)
      · obtain ⟨clause, -, rfl⟩ := List.mem_map.mp known
        exact clause.isToken token inside

/-- The part with the order is made of tokens. -/
theorem isToken_orderTokens {order : Option Order} :
    ∀ token ∈ orderTokens order, IsToken token := by
  rcases order with _ | ⟨column, direction⟩
  · simp [orderTokens]
  · rintro token (_ | ⟨_, _ | ⟨_, _ | ⟨_, member⟩⟩⟩)
    · exact isToken_keyword (by decide)
    · exact isToken_keyword (by decide)
    · exact isToken_of_isWord column.isWord
    · rcases direction with _ | _ | _
      · cases member
      · rw [List.mem_singleton.mp member]
        exact isToken_keyword (by decide)
      · rw [List.mem_singleton.mp member]
        exact isToken_keyword (by decide)

/-- The part with the limit is made of tokens. -/
theorem isToken_limitTokens {limit : Option Digits} :
    ∀ token ∈ limitTokens limit, IsToken token := by
  rcases limit with _ | digits
  · simp [limitTokens]
  · rintro token (_ | ⟨_, _ | ⟨_, member⟩⟩)
    · exact isToken_keyword (by decide)
    · exact isToken_of_isWord digits.isWord
    · cases member

/-- A query is made of tokens. -/
theorem isToken_tokens (q : Query) : ∀ token ∈ q.tokens, IsToken token := by
  intro token member
  simp only [tokens, List.mem_cons, List.mem_append] at member
  rcases member with rfl | shown | rfl | rfl | filtered | ordered | limited
  · exact isToken_keyword (by decide)
  · exact isToken_listTokens token shown
  · exact isToken_keyword (by decide)
  · exact isToken_of_isWord q.table.isWord
  · exact isToken_whereTokens token filtered
  · exact isToken_orderTokens token ordered
  · exact isToken_limitTokens token limited

end Query

end DryRun
