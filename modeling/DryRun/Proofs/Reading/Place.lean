import Mathlib

/-!
# The place of a reading

A clock shows 64-bit floats. A finite one is a whole number of units of 2^-1074, so that readings
other than NaN have a place among the integers and two infinities. `lt_iff`, `le_iff` and `beq_iff`
reduce the comparisons of floats to their places, and with them to a linear order.

Floats are compared by exponent and then by mantissa. That this is the order of the places rests on
every float being in canonical form (`canonical_unpack`): its mantissa is as long as it can be
unless its exponent is the least one.
-/

set_option autoImplicit false

namespace DryRun.Reading

open Float.Model

/-- A mantissa and an exponent of a 64-bit float, the one no longer than necessary. -/
structure Canonical (m : ℕ) (e : ℤ) : Prop where
  short : m < 2 ^ 53
  bottom : -1074 ≤ e
  long : 2 ^ 52 ≤ m ∨ e = -1074

/-- How many units of 2^-1074 a mantissa with an exponent amounts to. -/
def units (m : ℕ) (e : ℤ) : ℕ := m * 2 ^ (e + 1074).toNat

/-- The place of a whole number of units. -/
def grid (k : ℤ) : WithBot (WithTop ℤ) := ((k : WithTop ℤ) : WithBot (WithTop ℤ))

/-- Where a float stands; NaN stands with zero. -/
def unpackedPlace : UnpackedFloat → WithBot (WithTop ℤ)
  | .infinity .negative => ⊥
  | .finite .negative m e _ => grid (-units m e)
  | .zero _ | .notANumber => grid 0
  | .finite .positive m e _ => grid (units m e)
  | .infinity .positive => ((⊤ : WithTop ℤ) : WithBot (WithTop ℤ))

/-- Of two canonical forms the one with the greater exponent amounts to more. -/
theorem units_lt_of_exponent {m n : ℕ} {e f : ℤ} (hm : Canonical m e) (hn : Canonical n f)
    (less : e < f) : units m e < units n f := by
  have long : 2 ^ 52 ≤ n := hn.long.resolve_right (by have := hm.bottom; omega)
  have exponents : (e + 1074).toNat + 1 ≤ (f + 1074).toNat := by have := hm.bottom; omega
  calc units m e < 2 ^ 53 * 2 ^ (e + 1074).toNat :=
        Nat.mul_lt_mul_of_pos_right hm.short (Nat.two_pow_pos _)
    _ = 2 ^ 52 * 2 ^ ((e + 1074).toNat + 1) := by ring
    _ ≤ 2 ^ 52 * 2 ^ (f + 1074).toNat :=
        Nat.mul_le_mul_left _ (Nat.pow_le_pow_right (by decide) exponents)
    _ ≤ units n f := Nat.mul_le_mul_right _ long

/-- Comparing canonical forms by exponent and then by mantissa is comparing what they amount to. -/
theorem compare_units {m n : ℕ} {e f : ℤ} (hm : Canonical m e) (hn : Canonical n f) :
    (compare e f).then (compare m n) = compare (units m e) (units n f) := by
  rcases lt_trichotomy e f with less | rfl | more
  · rw [compare_lt_iff_lt.mpr less, compare_lt_iff_lt.mpr (units_lt_of_exponent hm hn less)]
    rfl
  · rw [compare_eq_iff_eq.mpr rfl]
    show compare m n = compare (m * 2 ^ (e + 1074).toNat) (n * 2 ^ (e + 1074).toNat)
    have positive : 0 < 2 ^ (e + 1074).toNat := Nat.two_pow_pos _
    rcases lt_trichotomy m n with less | rfl | more
    · rw [compare_lt_iff_lt.mpr less,
        compare_lt_iff_lt.mpr (Nat.mul_lt_mul_of_pos_right less positive)]
    · rw [compare_eq_iff_eq.mpr rfl, compare_eq_iff_eq.mpr rfl]
    · rw [compare_gt_iff_gt.mpr more,
        compare_gt_iff_gt.mpr (Nat.mul_lt_mul_of_pos_right more positive)]
  · rw [compare_gt_iff_gt.mpr more, compare_gt_iff_gt.mpr (units_lt_of_exponent hn hm more)]
    rfl

/-- An unpacked float whose mantissa and exponent, if it has them, are in canonical form and not too
great for 64 bits. -/
def IsCanonical : UnpackedFloat → Prop
  | .finite _ m e _ => Canonical m e ∧ e ≤ 971
  | _ => True

/-- What is unpacked is canonical. -/
theorem canonical_unpack (b : BitVec Format.binary64.numBits) :
    IsCanonical (UnpackedFloat.unpack Format.binary64 b) := by
  have short : (UnpackedFloat.unpackMantissa b).toNat < 2 ^ 52 :=
    (UnpackedFloat.unpackMantissa b).isLt
  have least : (UnpackedFloat.unpackExponent b).toNat < 2048 :=
    (UnpackedFloat.unpackExponent b).isLt
  have bias : ((Format.binary64.exponentBias : ℤ) + Format.binary64.mantissaBitsWithoutImplicit) =
      1075 := rfl
  rw [UnpackedFloat.unpack]
  simp only [bias]
  split_ifs with special infinite tiny zero
  · trivial
  · trivial
  · trivial
  · have none : (UnpackedFloat.unpackExponent b).toNat = 0 := congrArg BitVec.toNat tiny
    rw [none]
    exact ⟨⟨by omega, by omega, .inr rfl⟩, by omega⟩
  · have positive : (UnpackedFloat.unpackExponent b).toNat ≠ 0 :=
      fun h => tiny (BitVec.eq_of_toNat_eq h)
    have ordinary : (UnpackedFloat.unpackExponent b).toNat ≠ 2047 :=
      fun h => special (BitVec.eq_of_toNat_eq h)
    have implicit : (1#1 ++ UnpackedFloat.unpackMantissa b).toNat =
        2 ^ 52 + (UnpackedFloat.unpackMantissa b).toNat := by
      rw [BitVec.toNat_append, ← Nat.shiftLeft_add_eq_or_of_lt short]
      rfl
    rw [IsCanonical, implicit]
    exact ⟨⟨by omega, by omega, .inl (by omega)⟩, by omega⟩

/-- The place of a whole number of units is an order embedding. -/
theorem grid_strictMono : StrictMono grid :=
  WithBot.coe_strictMono.comp WithTop.coe_strictMono

/-- Places on the grid are compared as their numbers. -/
theorem compare_grid (a b : ℤ) : compare (grid a) (grid b) = compare a b := by
  rw [← cmp_eq_compare, ← cmp_eq_compare, grid_strictMono.cmp_map_eq]

/-- A positive mantissa makes some units. -/
theorem units_pos {m : ℕ} (e : ℤ) (positive : 0 < m) : 0 < units m e :=
  Nat.mul_pos positive (Nat.two_pow_pos _)

/-- Minus infinity is below the grid. -/
theorem compare_bot (k : ℤ) : compare ⊥ (grid k) = .lt ∧ compare (grid k) ⊥ = .gt :=
  ⟨compare_lt_iff_lt.mpr (WithBot.bot_lt_coe _), compare_gt_iff_gt.mpr (WithBot.bot_lt_coe _)⟩

/-- Infinity is above the grid. -/
theorem compare_top (k : ℤ) : compare (grid k) ((⊤ : WithTop ℤ) : WithBot (WithTop ℤ)) = .lt ∧
    compare ((⊤ : WithTop ℤ) : WithBot (WithTop ℤ)) (grid k) = .gt :=
  have less := WithBot.coe_lt_coe.mpr (WithTop.coe_lt_top k)
  ⟨compare_lt_iff_lt.mpr less, compare_gt_iff_gt.mpr less⟩

/-- Comparing unpacked floats is comparing their places. -/
theorem compare_eq {u v : UnpackedFloat} (hu : IsCanonical u) (hv : IsCanonical v)
    (numberU : u.isNaN = false) (numberV : v.isNaN = false) :
    u.compare v = some (compare (unpackedPlace u) (unpackedPlace v)) := by
  rcases u with (_ | _) | _ | (_ | _) | ⟨_ | _, m, e, positiveM⟩ <;>
    rcases v with (_ | _) | _ | (_ | _) | ⟨_ | _, n, f, positiveN⟩
  case finite.negative.finite.negative =>
    have turned : StrictAnti fun k : ℕ => -(k : ℤ) :=
      fun _ _ less => neg_lt_neg (Int.ofNat_lt.mpr less)
    rw [UnpackedFloat.compare, compare_units hu.1 hv.1, unpackedPlace, unpackedPlace, compare_grid,
      ← cmp_eq_compare, cmp_swap, ← cmp_eq_compare, ← turned.cmp_map_eq]
  case finite.positive.finite.positive =>
    rw [UnpackedFloat.compare, compare_units hu.1 hv.1, unpackedPlace, unpackedPlace, compare_grid,
      ← cmp_eq_compare, ← cmp_eq_compare, Int.natCast_strictMono.cmp_map_eq]
  -- Elsewhere the signs or the infinities decide.
  all_goals simp only [UnpackedFloat.isNaN, reduceCtorEq] at numberU numberV
  all_goals simp only [UnpackedFloat.compare, unpackedPlace, compare_bot, compare_top, compare_grid]
  all_goals refine congrArg some (Eq.symm ?_)
  all_goals first | exact compare_eq_iff_eq.mpr rfl | skip
  case infinity.negative.infinity.positive => exact compare_lt_iff_lt.mpr (WithBot.bot_lt_coe _)
  case infinity.positive.infinity.negative => exact compare_gt_iff_gt.mpr (WithBot.bot_lt_coe _)
  all_goals simp only [compare_lt_iff_lt, compare_gt_iff_gt]
  all_goals grind [units_pos]

/-! ## Floats -/

/-- Where a reading stands; NaN stands with zero. -/
def place (x : Float) : WithBot (WithTop ℤ) := unpackedPlace x.toModel.unpack

variable {x y : Float}

/-- Numbers are compared by their places. -/
theorem compare_toModel (hx : x.isNaN = false) (hy : y.isNaN = false) :
    x.toModel.unpack.compare y.toModel.unpack = some (compare (place x) (place y)) :=
  compare_eq (canonical_unpack _) (canonical_unpack _) hx hy

/-- Being less is what the comparison says. -/
theorem lt_iff_compare : x < y ↔ x.toModel.unpack.compare y.toModel.unpack = some .lt := by
  have same : x < y ↔ (x.toModel.unpack.compare y.toModel.unpack == some .lt) = true :=
    decide_eq_true_iff
  rw [same, beq_iff_eq]

/-- Being at most is what the comparison says. -/
theorem le_iff_compare :
    x ≤ y ↔ (x.toModel.unpack.compare y.toModel.unpack).any (·.isLE) = true :=
  decide_eq_true_iff

/-- A number is less exactly if its place is. -/
theorem lt_iff (hx : x.isNaN = false) (hy : y.isNaN = false) : x < y ↔ place x < place y := by
  rw [lt_iff_compare, compare_toModel hx hy, Option.some.injEq, compare_lt_iff_lt]

/-- A number is at most another one exactly if its place is. -/
theorem le_iff (hx : x.isNaN = false) (hy : y.isNaN = false) : x ≤ y ↔ place x ≤ place y := by
  rw [le_iff_compare, compare_toModel hx hy, Option.any_some, Ordering.isLE_iff_ne_gt,
    ← compare_le_iff_le]

/-- Numbers are equal exactly if their places are. -/
theorem beq_iff (hx : x.isNaN = false) (hy : y.isNaN = false) :
    (x == y) = true ↔ place x = place y := by
  have same : (x == y) = (x.toModel.unpack.compare y.toModel.unpack == some .eq) := rfl
  rw [same, compare_toModel hx hy, beq_iff_eq, Option.some.injEq, compare_eq_iff_eq]

/-- Nothing is comparable to NaN. -/
theorem number_of_le (le : x ≤ y) : x.isNaN = false ∧ y.isNaN = false := by
  rw [le_iff_compare] at le
  show x.toModel.unpack.isNaN = false ∧ y.toModel.unpack.isNaN = false
  generalize x.toModel.unpack = u at le ⊢
  generalize y.toModel.unpack = v at le ⊢
  cases u <;> cases v <;> simp_all [UnpackedFloat.isNaN, UnpackedFloat.compare]

/-- Equal numbers are at most each other. -/
theorem le_of_beq (same : (x == y) = true) : x ≤ y := by
  have equal : x.toModel.unpack.compare y.toModel.unpack = some .eq := beq_iff_eq.mp same
  rw [le_iff_compare, equal]
  rfl

/-- Nothing is both less and at least as great. -/
theorem not_lt_of_le (le : x ≤ y) : ¬ y < x := by
  obtain ⟨hx, hy⟩ := number_of_le le
  rw [lt_iff hy hx, not_lt]
  exact (le_iff hx hy).mp le

protected theorem le_of_lt (less : x < y) : x ≤ y := by
  rw [le_iff_compare, lt_iff_compare.mp less]
  rfl

protected theorem le_trans {z : Float} (first : x ≤ y) (second : y ≤ z) : x ≤ z := by
  obtain ⟨hx, hy⟩ := number_of_le first
  have hz := (number_of_le second).2
  rw [le_iff hx hy] at first
  rw [le_iff hy hz] at second
  rw [le_iff hx hz]
  exact first.trans second

protected theorem lt_of_lt_of_le {z : Float} (first : x < y) (second : y ≤ z) : x < z := by
  obtain ⟨hy, hz⟩ := number_of_le second
  have hx := (number_of_le (Reading.le_of_lt first)).1
  rw [lt_iff hx hy] at first
  rw [le_iff hy hz] at second
  rw [lt_iff hx hz]
  exact first.trans_le second

/-- No number is less than itself. -/
theorem not_lt_self (hx : x.isNaN = false) : ¬ x < x := by
  rw [lt_iff hx hx]
  exact lt_irrefl _

/-- Of two numbers, one that is not above the other is at most the other. -/
theorem le_of_not_lt (hx : x.isNaN = false) (hy : y.isNaN = false) (above : ¬ y < x) : x ≤ y := by
  rw [lt_iff hy hx, not_lt] at above
  exact (le_iff hx hy).mpr above

/-- Of two numbers, one that is not at least the other is less. -/
theorem lt_of_not_le (hx : x.isNaN = false) (hy : y.isNaN = false) (above : ¬ y ≤ x) : x < y := by
  rw [le_iff hy hx, not_le] at above
  exact (lt_iff hx hy).mpr above

end DryRun.Reading
