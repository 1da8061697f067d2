import DryRun.Proofs.Query.Table
import Mathlib

/-!
# How the comparison signs hang together

A condition is read of a column, one of the seven signs and a literal, whatever the literal looks
like (`ofText?_comparing`). Two texts have an order, and so do two numbers unless one of them is
"not a number" (`Number.exists_compare?`), for every other number has a place on one line. Where
there is an order, it decides all seven conditions at once, so that they cannot contradict each
other (`Cell.Comparable.exists_order`, `Sign.coherent_holds`).

Hence the three strict signs split the rows of a column whose cells are all comparable with the
literal, and the other four follow from them (`signs_coherent`).
-/

set_option autoImplicit false

namespace DryRun

open Text

/-! ## Numbers without an order -/

/-- A float is taken apart into nothing exactly if it is "not a number". -/
theorem FloatParts.ofFloat_eq_nan_iff (x : Float) :
    FloatParts.ofFloat x = .nan ↔ x.isNaN = true := by
  open Float.Model in
  let b : BitVec Format.binary64.numBits := x.toModel.toBits.toBitVec
  have exponent : (UnpackedFloat.unpackExponent b).toNat = b.toNat / 2 ^ 52 % 2048 := by
    show (BitVec.extractLsb _ _ _).toNat = _
    rw [BitVec.extractLsb_toNat, Nat.shiftRight_eq_div_pow]
    rfl
  have fraction : (UnpackedFloat.unpackMantissa b).toNat = b.toNat % 2 ^ 52 := by
    show (BitVec.extractLsb _ _ _).toNat = _
    rw [BitVec.extractLsb_toNat, Nat.shiftRight_zero]
    rfl
  have special : UnpackedFloat.unpackExponent b = -1#_ ↔ b.toNat / 2 ^ 52 % 2048 = 2047 := by
    rw [← exponent, ← BitVec.toNat_inj]
    rfl
  have zero : UnpackedFloat.unpackMantissa b = 0#_ ↔ b.toNat % 2 ^ 52 = 0 := by
    rw [← fraction, ← BitVec.toNat_inj]
    rfl
  have parts : FloatParts.ofFloat x =
      if b.toNat / 2 ^ 52 % 2048 = 2047 then
        if b.toNat % 2 ^ 52 = 0 then .infinite (2 ^ 63 ≤ b.toNat) else .nan
      else if b.toNat / 2 ^ 52 % 2048 = 0 then
        .finite (2 ^ 63 ≤ b.toNat) (b.toNat % 2 ^ 52) (-1074)
      else
        .finite (2 ^ 63 ≤ b.toNat) (b.toNat % 2 ^ 52 + 2 ^ 52)
          (((b.toNat / 2 ^ 52 % 2048 : Nat) : Int) - 1075) := rfl
  have unpacked : x.isNaN = (UnpackedFloat.unpack Format.binary64 b).isNaN := rfl
  rw [unpacked, parts, UnpackedFloat.unpack]
  simp only [special, zero]
  split_ifs <;> simp [UnpackedFloat.isNaN]

namespace Number

def isNaN : Number → Bool
  | .int _ => false
  | .float x => x.isNaN

/-- A number has a place. -/
theorem exists_place? {n : Number} (number : n.isNaN = false) : ∃ place, n.place? = some place := by
  cases n with
  | int i => exact ⟨_, rfl⟩
  | float x =>
    have proper : FloatParts.ofFloat x ≠ .nan := by
      intro same
      have none := (FloatParts.ofFloat_eq_nan_iff x).mp same
      exact Bool.false_ne_true (number.symm.trans none)
    rw [place?]
    cases parts : FloatParts.ofFloat x with
    | nan => exact absurd parts proper
    | infinite negative => exact ⟨_, rfl⟩
    | finite negative mantissa exponent => exact ⟨_, rfl⟩

/-- Numbers have an order, of whatever kind and size they are. -/
theorem exists_compare? {m n : Number} (left : m.isNaN = false) (right : n.isNaN = false) :
    ∃ order, m.compare? n = some order := by
  obtain ⟨p, first⟩ := exists_place? left
  obtain ⟨q, second⟩ := exists_place? right
  exact ⟨comparePlaces p q, by rw [compare?, first, second]⟩

end Number

/-- A cell and a literal have an order: a text and anything, or two numbers. -/
inductive Cell.Comparable : Cell → Literal → Prop where
  | text (s : Text) (literal : Literal) : Comparable (.text s) literal
  | numbers {cell : Cell} {literal : Literal} {m n : Number} (left : cell.number? = some m)
      (right : literal.number? = some n) (properLeft : m.isNaN = false)
      (properRight : n.isNaN = false) : Comparable cell literal

/-- Comparable, they have one order, by which every condition decides. -/
theorem Cell.Comparable.exists_order {cell : Cell} {literal : Literal}
    (comparable : cell.Comparable literal) (column : Text) :
    ∃ order : Ordering, ∀ op, Condition.selectsCell ⟨column, op, literal⟩ cell =
      .ok (op.holds (some order)) := by
  cases comparable with
  | text s =>
    refine ⟨Text.order (Text.upper s) (Text.upper literal.toText), fun op => ?_⟩
    unfold Condition.selectsCell
    rfl
  | @numbers _ _ m n left right properLeft properRight =>
    obtain ⟨order, compared⟩ := Number.exists_compare? properLeft properRight
    refine ⟨order, fun op => ?_⟩
    rw [← compared]
    cases cell with
    | null => cases left
    | text s => cases left
    | bool b => simp only [Condition.selectsCell, right, left]
    | int i => simp only [Condition.selectsCell, right, left]
    | float x => simp only [Condition.selectsCell, right, left]

/-- A text is not looked for among other cells. -/
theorem Condition.selectsCell_of_text {c : Condition} {cell : Cell} (other : ¬ cell.IsText)
    (text : c.literal.number? = none) : c.selectsCell cell = .ok false := by
  unfold selectsCell
  cases cell with
  | text s => exact absurd ⟨s, rfl⟩ other
  | null => simp only [text]
  | bool b => simp only [text]
  | int i => simp only [text]
  | float x => simp only [text]

namespace Query

/-! ## The seven signs -/

/-- What the signs say of two values, if just one of less, equal and greater holds and the other
signs are put together from these. -/
structure Sign.Coherent (holds : Sign → Bool) : Prop where
  exactlyOne : (holds .less).toNat + (holds .equal).toNat + (holds .greater).toNat = 1
  lessEqual : holds .lessEqual = (holds .less || holds .equal)
  greaterEqual : holds .greaterEqual = (holds .greater || holds .equal)
  bangEqual : holds .bangEqual = !holds .equal
  angles : holds .angles = !holds .equal

/-- An order makes the signs coherent. -/
theorem Sign.coherent_holds (order : Ordering) :
    Sign.Coherent fun sign => sign.comparison.holds (some order) := by
  cases order <;> exact ⟨rfl, rfl, rfl, rfl, rfl⟩

/-- The strict signs are what the other ones leave. -/
theorem Sign.Coherent.strict {holds : Sign → Bool} (coherent : Sign.Coherent holds) :
    holds .equal = (holds .equal && !holds .less) ∧
      holds .greater = (!holds .equal && !holds .less) := by
  have one := coherent.exactlyOne
  revert one
  generalize holds .less = less, holds .equal = equal, holds .greater = greater
  revert less equal greater
  decide

/-- The three strict signs split the rows. -/
theorem Sign.partition_perm {α : Type} {rows : List α} {holds : α → Sign → Bool}
    (coherent : ∀ row ∈ rows, Sign.Coherent (holds row)) :
    (rows.filter (holds · .less) ++ (rows.filter (holds · .equal) ++
      rows.filter (holds · .greater))).Perm rows := by
  have equal : rows.filter (holds · .equal) =
      (rows.filter fun row => !holds row .less).filter (holds · .equal) := by
    rw [List.filter_filter]
    exact List.filter_congr fun row member => (coherent row member).strict.1
  have greater : rows.filter (holds · .greater) =
      (rows.filter fun row => !holds row .less).filter fun row => !holds row .equal := by
    rw [List.filter_filter]
    exact List.filter_congr fun row member => (coherent row member).strict.2
  rw [equal, greater]
  exact ((List.filter_append_perm _ _).append_left _).trans (List.filter_append_perm _ _)

/-! ## Conditions -/

/-- A column, a sign and a literal with spaces between them. -/
def comparing (column : Text) (sign : Sign) (literal : Text) : Text :=
  column ++ ' ' :: (sign.text ++ ' ' :: literal)

/-- On the characters of names small letters stay as they are. -/
theorem lower_of_plain {s : Text} (plain : ∀ c ∈ s, c ∈ plainChars) : Text.lower s = s := by
  have all : ∀ c ∈ plainChars, c ≠ 'Σ' ∧ Text.lowerChar c = [c] := by decide
  have behind (before : Text) : Text.lowerFrom before s = s := by
    induction s generalizing before with
    | nil => rfl
    | cons c s ih =>
      obtain ⟨first, others⟩ := List.forall_mem_cons.mp plain
      obtain ⟨noSigma, small⟩ := all c first
      rw [Text.lowerFrom, if_neg (by simpa using noSigma), small, ih others]
      rfl
  exact behind []

section Comparing

variable {column : Text} (plain : ∀ c ∈ column, c ∈ plainChars) (nonempty : column ≠ [])

include plain nonempty

/-- The column and the sign are read whole; all that follows is the literal. -/
theorem ofText?_comparing (sign : Sign) (literal : Text) :
    Condition.ofText? (comparing column sign literal) =
      some ⟨column, sign.comparison, Literal.ofText literal⟩ := by
  have word : ∀ c ∈ plainChars, isWordChar c = true := by decide
  have isWord : IsWord column := ⟨nonempty, fun c member => word c (plain c member)⟩
  have apart : Apart column.getLast? (' ' :: (sign.text ++ ' ' :: literal)).head? :=
    .of_right _ isWordChar_space
  obtain ⟨name, behind⟩ := takeWhile_word isWord apart
  have space : ∀ c ∈ [' '], isBlank c = true := by decide
  have front : stripLeft (column ++ ' ' :: (sign.text ++ ' ' :: literal)) =
      column ++ ' ' :: (sign.text ++ ' ' :: literal) :=
    stripLeft_token (List.forall_mem_nil (isBlank · = true)) (isToken_of_isWord isWord) _
  have next : stripLeft (' ' :: (sign.text ++ ' ' :: literal)) = sign.text ++ ' ' :: literal := by
    have filled : sign.text ≠ [] := by cases sign <;> decide
    exact stripLeft_token space (isToken_of_symbols filled sign.mem_symbols) _
  have value : Literal.ofText (' ' :: literal) = Literal.ofText literal := by
    have stripped := strip_blanks_append space literal
    rw [List.singleton_append] at stripped
    rw [Literal.ofText, stripped, Literal.ofText]
  unfold Condition.ofText? comparing
  simp only [front, name, behind, next, operator?_sign sign (c := ' ') (by decide) literal]
  simp [nonempty, lower_of_plain plain, value]

/-- **Comparison signs.** Take a column of a table with a plain name, and any literal. Each sign
makes a condition. On a cell that is comparable with the literal, just one of less, equal and
greater holds, and the other four signs say what these three make them say; on a cell that is no
text, none holds if the literal is one. Where all cells of the column are comparable, every row of
the table is selected by just one of the three. -/
theorem signs_coherent (t : Table) (known : column ∈ t.columns) (literal : Text) :
    ∃ condition : Sign → Condition,
      (∀ sign, Condition.ofText? (comparing column sign literal) = some (condition sign)) ∧
      (∀ (row : Row) (cell : Cell), row.get? column = some cell →
        (cell.Comparable (.ofText literal) → ∃ holds, Sign.Coherent holds ∧
          ∀ sign, (condition sign).selects row = .ok (holds sign)) ∧
        (¬ cell.IsText → (∃ s, Literal.ofText literal = .text s) →
          ∀ sign, (condition sign).selects row = .ok false)) ∧
      ((∀ row ∈ t.rows, ∃ cell, row.get? column = some cell ∧
          cell.Comparable (.ofText literal)) →
        ∃ selected : Sign → List Row,
          (∀ sign, Table.filterRows t.columns [condition sign] t.rows = .ok (selected sign)) ∧
          (selected .less ++ (selected .equal ++ selected .greater)).Perm t.rows) := by
  let condition (sign : Sign) : Condition := ⟨column, sign.comparison, .ofText literal⟩
  have decided {row : Row} {cell : Cell} (found : row.get? column = some cell)
      (comparable : cell.Comparable (.ofText literal)) : ∃ holds, Sign.Coherent holds ∧
        ∀ sign, (condition sign).selects row = .ok (holds sign) := by
    obtain ⟨order, orders⟩ := comparable.exists_order column
    refine ⟨fun sign => sign.comparison.holds (some order), Sign.coherent_holds order, ?_⟩
    intro sign
    rw [Condition.selects, found]
    exact orders sign.comparison
  refine ⟨condition, fun sign => ofText?_comparing plain nonempty sign literal, ?_, ?_⟩
  · intro row cell found
    refine ⟨decided found, ?_⟩
    rintro other ⟨s, text⟩ sign
    rw [Condition.selects, found]
    refine Condition.selectsCell_of_text other ?_
    show (Literal.ofText literal).number? = none
    rw [text]
    rfl
  · intro comparable
    have each (row : Row) : ∃ holds, row ∈ t.rows → Sign.Coherent holds ∧
        ∀ sign, (condition sign).selects row = .ok (holds sign) := by
      by_cases member : row ∈ t.rows
      · obtain ⟨cell, found, comparable⟩ := comparable row member
        obtain ⟨holds, coherent, selects⟩ := decided found comparable
        exact ⟨holds, fun _ => ⟨coherent, selects⟩⟩
      · exact ⟨fun _ => false, fun inside => absurd inside member⟩
    -- What the signs say about a row is a function of the row, which the selections filter by.
    choose holds answers using each
    refine ⟨fun sign => t.rows.filter (holds · sign), fun sign => ?_, ?_⟩
    · have filtered := Condition.filter_eq (c := condition sign) (f := (holds · sign))
        fun row member => (answers row member).2 sign
      rw [Table.filterRows, if_pos (List.contains_iff_mem.mpr known), filtered]
      rfl
    · exact Sign.partition_perm fun row member => (answers row member).1

end Comparing

/-- An integer next to a float that it would be rounded to, that float, and a truth value. -/
def sizes : Table :=
  .ofRows [[("n".toList, .int 9007199254740993)], [("n".toList, .float 9007199254740992)],
    [("n".toList, .bool true)]]

/-- Numbers of three kinds are split by a float. -/
theorem signs_coherent_sizes :
    "n".toList ∈ sizes.columns ∧ (∀ c ∈ "n".toList, c ∈ plainChars) ∧ "n".toList ≠ [] ∧
      ∃ selected : Sign → List Row,
        (∀ sign, Table.filterRows sizes.columns
          [⟨"n".toList, sign.comparison, .ofText "9007199254740992.0".toList⟩] sizes.rows =
            .ok (selected sign)) ∧
        (selected .less ++ (selected .equal ++ selected .greater)).Perm sizes.rows := by
  have known : "n".toList ∈ sizes.columns := by decide
  have plain : ∀ c ∈ "n".toList, c ∈ plainChars := by decide
  have literal : (Literal.ofText "9007199254740992.0".toList).number? =
      some (.float 9007199254740992) := by decide +kernel
  have proper : (Number.float 9007199254740992).isNaN = false := by decide +kernel
  obtain ⟨condition, read, -, split⟩ :=
    signs_coherent plain (by decide) sizes known "9007199254740992.0".toList
  have same (sign : Sign) : condition sign =
      ⟨"n".toList, sign.comparison, .ofText "9007199254740992.0".toList⟩ :=
    Option.some.inj ((read sign).symm.trans (ofText?_comparing plain (by decide) sign _))
  simp only [same] at split
  refine ⟨known, plain, by decide, split ?_⟩
  intro row member
  have rows : row = [("n".toList, .int 9007199254740993)] ∨
      row = [("n".toList, .float 9007199254740992)] ∨ row = [("n".toList, .bool true)] := by
    simpa [sizes, Table.ofRows] using member
  rcases rows with rfl | rfl | rfl
  · exact ⟨_, rfl, .numbers rfl literal rfl proper⟩
  · exact ⟨_, rfl, .numbers rfl literal proper proper⟩
  · exact ⟨_, rfl, .numbers rfl literal rfl proper⟩

end Query

end DryRun
