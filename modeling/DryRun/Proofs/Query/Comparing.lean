import DryRun.Proofs.Query.Reading
import DryRun.Proofs.Text.Case
import Mathlib.Data.Char
import Mathlib.Data.List.Lex
import Mathlib.Data.Sum.Order
import Mathlib.Order.Compare

/-!
# What a condition means

A text is compared with the text of the operand, both in capitals, in lexicographic order. An
integer is compared with an integer by value, and no integer is related to a quoted text in any
way (`Clause.holds`). That is what the condition that is read of a clause selects
(`Clause.selectsCell_eq`).

Cells are ordered by their rank: integers by value, texts by their small letters
(`Cell.precedes_lowered`).
-/

set_option autoImplicit false

namespace DryRun

namespace Text

/-- Texts are ordered as lists of characters are. -/
theorem order_compares (s t : Text) : (Text.order s t).Compares s t := by
  induction s generalizing t with
  | nil =>
    cases t with
    | nil => rfl
    | cons b t => exact List.nil_lt_cons b t
  | cons a s ih =>
    cases t with
    | nil => exact List.nil_lt_cons a s
    | cons b t =>
      rw [Text.order]
      rcases lt_trichotomy a b with less | rfl | greater
      · rw [show compare a.toNat b.toNat = .lt from Nat.compare_eq_lt.mpr less]
        exact List.cons_lt_cons_iff.mpr (.inl less)
      · rw [show compare a.toNat a.toNat = .eq from Nat.compare_eq_eq.mpr rfl, Ordering.then]
        have rest := ih t
        cases same : Text.order s t with
        | lt => exact List.cons_lt_cons_iff.mpr (.inr ⟨rfl, by simpa [same] using rest⟩)
        | eq => exact congrArg (List.cons a) (by simpa [same] using rest)
        | gt => exact List.cons_lt_cons_iff.mpr (.inr ⟨rfl, by simpa [same] using rest⟩)
      · rw [show compare a.toNat b.toNat = .gt from Nat.compare_eq_gt.mpr greater]
        exact List.cons_lt_cons_iff.mpr (.inl greater)

end Text

/-- Integers are ordered by value. -/
theorem Number.compare?_int (i j : Int) :
    ∃ order : Ordering, (Number.int i).compare? (.int j) = some order ∧ order.Compares i j := by
  simp only [Number.compare?, Number.place?, Number.comparePlaces]
  generalize 1074 = e
  have unit : (0 : Int) < (Nat.pow 2 e : Nat) := Int.natCast_pos.mpr (Nat.pow_pos (by decide))
  generalize ((Nat.pow 2 e : Nat) : Int) = k at unit
  have finite : compare (0 : Int) 0 = .eq := Int.compare_eq_eq.mpr rfl
  refine ⟨_, rfl, ?_⟩
  rw [finite, Ordering.then]
  rcases lt_trichotomy i j with less | rfl | greater
  · rw [Int.compare_eq_lt.mpr ((Int.mul_lt_mul_right unit).mpr less)]
    exact less
  · rw [Int.compare_eq_eq.mpr rfl]
    rfl
  · rw [Int.compare_eq_gt.mpr ((Int.mul_lt_mul_right unit).mpr greater)]
    exact greater

namespace Query

/-- Whether a comparison holds between two values. -/
def Sign.holds {α : Type} [LinearOrder α] : Sign → α → α → Bool
  | .equal, a, b => decide (a = b)
  | .bangEqual, a, b | .angles, a, b => decide (a ≠ b)
  | .greater, a, b => decide (b < a)
  | .less, a, b => decide (a < b)
  | .greaterEqual, a, b => decide (b ≤ a)
  | .lessEqual, a, b => decide (a ≤ b)

/-- On a linear order a sign means what it says. -/
theorem Sign.holds_comparison {α : Type} [LinearOrder α] (sign : Sign) {order : Ordering}
    {a b : α} (compares : order.Compares a b) :
    sign.comparison.holds (some order) = sign.holds a b := by
  cases order with
  | lt =>
    have less : a < b := compares
    cases sign <;>
      simp [Sign.comparison, Comparison.holds, Sign.holds, less, less.ne, less.le, less.not_gt,
        less.not_ge]
  | eq =>
    obtain rfl : a = b := compares
    cases sign <;> simp [Sign.comparison, Comparison.holds, Sign.holds]
  | gt =>
    have greater : b < a := compares
    cases sign <;>
      simp [Sign.comparison, Comparison.holds, Sign.holds, greater, greater.ne', greater.le,
        greater.not_gt, greater.not_ge]

end Query

/-- An integer is compared with a text by its decimal form. -/
theorem Literal.toText_int (i : Int) : (Literal.int i).toText = (toString i).toList := by
  cases i with
  | ofNat n =>
    have natural : ¬(Int.ofNat n < 0) := by simp
    have digits : (toString (Int.ofNat n)).toList = Nat.toDigits 10 n := by
      show (Nat.repr n).toList = _
      rw [Nat.repr, String.toList_ofList]
    rw [Literal.toText, if_neg natural, digits]
    rfl
  | negSucc n =>
    have digits : (toString (Int.negSucc n)).toList = '-' :: Nat.toDigits 10 (n + 1) := by
      show ("-" ++ Nat.repr (n + 1)).toList = _
      simp only [String.toList_append, Nat.repr, String.toList_ofList]
      rfl
    rw [Literal.toText, if_pos (Int.negSucc_lt_zero n), digits]
    rfl

namespace Cell

/-- A cell is an integer or a text. -/
def IsInt (cell : Cell) : Prop := ∃ i, cell = .int i

def IsText (cell : Cell) : Prop := ∃ s, cell = .text s

/-- Where a cell stands in an order: integers by value, texts by their small letters. -/
def rank : Cell → ℤ ⊕ₗ List Char
  | .int i => Sum.inlₗ i
  | .text s => Sum.inrₗ (Text.lower s)
  | .null | .bool _ | .float _ => Sum.inlₗ 0

/-- The cell with small letters. -/
def lowered : Cell → Cell
  | .text s => .text (Text.lower s)
  | cell => cell

/-- Cells of one kind are ordered by rank. -/
theorem precedes_lowered {a b : Cell} (kind : a.IsInt ∧ b.IsInt ∨ a.IsText ∧ b.IsText) :
    a.lowered.precedes b.lowered = .ok (decide (a.rank < b.rank)) := by
  rcases kind with ⟨⟨i, rfl⟩, j, rfl⟩ | ⟨⟨s, rfl⟩, t, rfl⟩
  · obtain ⟨order, found, compares⟩ := Number.compare?_int i j
    have less : (Sum.inlₗ i : ℤ ⊕ₗ List Char) < Sum.inlₗ j ↔ i < j := Sum.Lex.inl_lt_inl_iff
    simp only [lowered, precedes, number?, found, rank, less]
    exact congrArg _ (Query.Sign.holds_comparison .less compares)
  · have compares := Text.order_compares (Text.lower s) (Text.lower t)
    have less : (Sum.inrₗ (Text.lower s) : ℤ ⊕ₗ List Char) < Sum.inrₗ (Text.lower t) ↔
        Text.lower s < Text.lower t := Sum.Lex.inr_lt_inr_iff
    have holds := Query.Sign.holds_comparison .less compares
    have same : (Text.order (Text.lower s) (Text.lower t) == .lt) = _ := holds
    rw [lowered, lowered, precedes, same]
    exact congrArg _ (decide_eq_decide.mpr less.symm)

end Cell

namespace Query

/-- What a text is compared with: the decimal form of an integer, or the quoted text. -/
def Operand.text : Operand → Text
  | .numeral sign _ digits =>
    (toString (if sign = ['-'] then -(digits.value : Int) else digits.value)).toList
  | .quoted _ _ word => word.chars

/-- Whether a cell meets a condition. -/
def Clause.holds (clause : Clause) : Cell → Bool
  | .text s => clause.sign.holds (Text.upper s) (Text.upper clause.operand.text)
  | .int i => clause.operand.number?.any (clause.sign.holds i)
  | .null | .bool _ | .float _ => false

/-- As a text an operand is what was written, in capitals. -/
theorem Operand.upper_toText (operand : Operand) :
    Text.upper operand.literal.toText = Text.upper operand.text := by
  cases operand with
  | numeral sign isSign digits => rw [Operand.literal, Literal.toText_int, Operand.text]
  | quoted mark isMark word => exact Text.upper_upper word.chars

/-- An operand is the number that it is written as, if it is one. -/
theorem Operand.number?_literal (operand : Operand) :
    operand.literal.number? = operand.number?.map Number.int := by
  cases operand <;> rfl

/-- What the condition of a clause selects. -/
theorem Clause.selectsCell_eq (clause : Clause) {cell : Cell}
    (kind : (∃ i, cell = .int i) ∨ ∃ s, cell = .text s) :
    clause.condition.selectsCell cell = .ok (clause.holds cell) := by
  rcases kind with ⟨i, rfl⟩ | ⟨s, rfl⟩
  · unfold Condition.selectsCell
    simp only [Clause.condition, Operand.number?_literal, Clause.holds]
    cases clause.operand.number? with
    | none => rfl
    | some n =>
      obtain ⟨order, found, compares⟩ := Number.compare?_int i n
      simp only [Option.map_some, Cell.number?, found, Option.any_some]
      rw [Sign.holds_comparison clause.sign compares]
  · have compares := Text.order_compares (Text.upper s) (Text.upper clause.operand.text)
    unfold Condition.selectsCell
    simp only [Clause.condition, Operand.upper_toText, Clause.holds]
    rw [Sign.holds_comparison clause.sign compares]

end Query

end DryRun
