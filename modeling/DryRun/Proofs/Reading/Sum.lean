import DryRun.Proofs.Reading.Rounding

/-!
# Later readings

A time is a reading other than NaN and minus infinity, a delay is one that is not negative. A time
after a delay is not earlier (`IsTime.le_add`), although the sum is rounded. Without the restriction
on times there would be an exception, the sum of the two infinities.

A sum of finite floats is computed exactly, as a mantissa with the lesser of the two exponents, and
then rounded. It is at least the first summand, which is a float, and rounding does not get past a
float (`grid_le_normalize`).
-/

set_option autoImplicit false

namespace DryRun.Reading

open Float.Model Float.Model.UnpackedFloat

/-! ## Sums of unpacked floats -/

/-- The place of a finite number is that of its units, with the sign. -/
theorem unpackedPlace_finite (s : Sign) (m : ℕ) (e : ℤ) (positive : 0 < m) :
    unpackedPlace (.finite s m e positive) = grid (s.apply (units m e)) := by
  cases s <;> rfl

/-- The exact amount is not lost when an exponent is decreased. -/
theorem units_shiftLeft (m : ℕ) {e t : ℤ} (bottom : -1074 ≤ t) (low : t ≤ e) :
    units (m <<< (e - t).toNat) t = units m e := by
  have exponent : t + (e - t).toNat = e := by omega
  rw [Nat.shiftLeft_eq, ← units_add _ _ bottom, exponent]

/-- The sign may be applied to the mantissa. -/
theorem apply_units (s : Sign) (m : ℕ) (e : ℤ) :
    s.apply (units m e) = s.apply m * 2 ^ (e + 1074).toNat := by
  cases s <;> simp [Sign.apply, units]

/-- Rounding does not take an exact result below a float that it is at least. -/
theorem grid_le_normalize {s : Sign} {m₀ : ℕ} {e₀ : ℤ} (canonical : Canonical m₀ e₀)
    (top : e₀ ≤ 971) {k e : ℤ} (bottom : -1074 ≤ e)
    (le : s.apply (units m₀ e₀) ≤ k * 2 ^ (e + 1074).toNat) :
    grid (s.apply (units m₀ e₀)) ≤
      unpackedPlace (repack (UnpackedFloat.normalize Format.binary64 k e .positive)) := by
  have scale : (0 : ℤ) < 2 ^ (e + 1074).toNat := by positivity
  have zero : Canonical 0 (-1074) := ⟨Nat.two_pow_pos 53, le_rfl, .inr rfl⟩
  rw [UnpackedFloat.normalize]
  -- A result other than zero is rounded as its amount is, with its sign put in front.
  rcases lt_trichotomy k 0 with below | rfl | above
  · rw [compare_lt_iff_lt.mpr below]
    have negated : (units (-k).toNat e : ℤ) = -(k * 2 ^ (e + 1074).toNat) := by
      rw [units]
      push_cast
      rw [Int.toNat_of_nonneg (by omega)]
      ring
    have negative : k * 2 ^ (e + 1074).toNat < 0 := mul_neg_of_neg_of_pos below scale
    cases s with
    | positive =>
      have : (0 : ℤ) ≤ units m₀ e₀ := Int.natCast_nonneg _
      simp only [Sign.apply] at le
      omega
    | negative =>
      simp only [Sign.apply] at le ⊢
      exact neg_le_place_round (by omega) bottom canonical top (by omega)
  · have none : repack (.zero .positive) = .zero .positive := repack_of_canonical trivial rfl
    rw [compare_eq_iff_eq.mpr rfl, none]
    rw [zero_mul] at le
    exact grid_strictMono.monotone le
  · rw [compare_gt_iff_gt.mpr above]
    have same : (units k.toNat e : ℤ) = k * 2 ^ (e + 1074).toNat := by
      rw [units]
      push_cast
      rw [Int.toNat_of_nonneg above.le]
    cases s with
    | positive =>
      simp only [Sign.apply] at le ⊢
      exact le_place_round (by omega) bottom canonical (by omega)
    | negative =>
      -- A negative float is below zero, and zero is not above a positive sum.
      have least := le_place_round (m := k.toNat) (by omega) bottom zero
        (by rw [units, Nat.zero_mul]; exact Nat.zero_le _)
      refine le_trans (grid_strictMono.monotone ?_) least
      simp only [Sign.apply, units, Nat.zero_mul]
      omega

/-- What is normalized is a number. -/
theorem isNaN_normalize (k : ℤ) {e : ℤ} (bottom : -1074 ≤ e) :
    (repack (UnpackedFloat.normalize Format.binary64 k e .positive)).isNaN = false := by
  rw [UnpackedFloat.normalize]
  rcases lt_trichotomy k 0 with below | rfl | above
  · rw [compare_lt_iff_lt.mpr below]
    exact isNaN_repack_round _ (by omega) bottom
  · have none : repack (.zero .positive) = .zero .positive := repack_of_canonical trivial rfl
    rw [compare_eq_iff_eq.mpr rfl, none]
    rfl
  · rw [compare_gt_iff_gt.mpr above]
    exact isNaN_repack_round _ (by omega) bottom

/-- A sum of finite floats the second of which is positive. -/
theorem finite_add {s : Sign} {m n : ℕ} {e f : ℤ} (canonical : Canonical m e) (top : e ≤ 971)
    (other : Canonical n f) (hm : 0 < m) (hn : 0 < n) :
    (repack (add Format.binary64 (.finite s m e hm) (.finite .positive n f hn))).isNaN = false ∧
      grid (s.apply (units m e)) ≤ unpackedPlace
        (repack (add Format.binary64 (.finite s m e hm) (.finite .positive n f hn))) := by
  have bottom : -1074 ≤ min e f := le_min canonical.bottom other.bottom
  refine ⟨isNaN_normalize _ bottom, grid_le_normalize canonical top bottom ?_⟩
  rw [add_mul, ← apply_units, ← apply_units]
  rw [units_shiftLeft m bottom (min_le_left e f), units_shiftLeft n bottom (min_le_right e f)]
  exact le_add_of_nonneg_right (Int.natCast_nonneg _)

/-- A sum the second summand of which is not negative is not less than the first. -/
theorem unpacked_le_add {u v : UnpackedFloat} (hu : IsCanonical u) (hv : IsCanonical v)
    (numberU : u.isNaN = false) (finite : unpackedPlace u ≠ ⊥) (numberV : v.isNaN = false)
    (nonneg : grid 0 ≤ unpackedPlace v) :
    (repack (add Format.binary64 u v)).isNaN = false ∧
      unpackedPlace u ≤ unpackedPlace (repack (add Format.binary64 u v)) := by
  -- All cases but that of two finite summands give a float that needs no rounding.
  have whole {w : UnpackedFloat} (sum : add Format.binary64 u v = w) (canonical : IsCanonical w)
      (number : w.isNaN = false) (le : unpackedPlace u ≤ unpackedPlace w) :
      (repack (add Format.binary64 u v)).isNaN = false ∧
        unpackedPlace u ≤ unpackedPlace (repack (add Format.binary64 u v)) := by
    rw [sum, repack_of_canonical canonical number]
    exact ⟨number, le⟩
  have top (p : WithBot (WithTop ℤ)) : p ≤ unpackedPlace (.infinity .positive) := le_top
  cases v with
  | notANumber => cases numberV
  | infinity s =>
    cases s with
    | negative => exact absurd (le_bot_iff.mp nonneg) (WithBot.coe_ne_bot)
    | positive =>
      cases u with
      | notANumber => cases numberU
      | infinity s =>
        cases s with
        | negative => exact absurd rfl finite
        | positive => exact whole rfl trivial rfl (top _)
      | zero => exact whole rfl trivial rfl (top _)
      | finite => exact whole rfl trivial rfl (top _)
  | zero s =>
    cases u with
    | notANumber => cases numberU
    | infinity => exact whole rfl trivial rfl le_rfl
    | zero s' =>
      cases s <;> cases s' <;> exact whole rfl trivial rfl le_rfl
    | finite => exact whole rfl hu rfl le_rfl
  | finite s n f hn =>
    cases s with
    | negative =>
      have above := units_pos f hn
      have below := grid_strictMono.le_iff_le.mp nonneg
      omega
    | positive =>
      cases u with
      | notANumber => cases numberU
      | infinity => exact whole rfl trivial rfl le_rfl
      | zero => exact whole rfl hv rfl nonneg
      | finite s m e hm =>
        rw [unpackedPlace_finite]
        -- Only here the sum is rounded.
        exact finite_add hu.1 hu.2 hv.1 hm hn

/-! ## Times -/

/-- A reading that a clock may show. -/
def IsTime (x : Float) : Prop := x.isNaN = false ∧ place x ≠ ⊥

variable {x y : Float}

/-- A time is at most itself. -/
theorem IsTime.le_self (time : IsTime x) : x ≤ x :=
  le_of_not_lt time.1 time.1 (not_lt_self time.1)

/-- What is at least a time is a time. -/
theorem IsTime.of_le (time : IsTime x) (le : x ≤ y) : IsTime y := by
  obtain ⟨hx, hy⟩ := number_of_le le
  refine ⟨hy, fun least => time.2 ?_⟩
  have below := (le_iff hx hy).mp le
  rw [least] at below
  exact le_bot_iff.mp below

/-- An amount of time that something may take. -/
def IsDelay (x : Float) : Prop := x.isNaN = false ∧ ¬ x < 0

/-- The place of a delay is not below zero. -/
theorem IsDelay.grid_le_place (delay : IsDelay y) : grid 0 ≤ place y :=
  (le_iff (x := 0) rfl delay.1).mp (le_of_not_lt rfl delay.1 delay.2)

/-- A time after a delay is not earlier. -/
theorem IsTime.le_add (time : IsTime x) (delay : IsDelay y) : x ≤ x + y := by
  have sum : (x + y).toModel.unpack =
      repack (add Format.binary64 x.toModel.unpack y.toModel.unpack) := rfl
  have later := unpacked_le_add (canonical_unpack x.toModel.toBits.toBitVec)
    (canonical_unpack y.toModel.toBits.toBitVec) time.1 time.2 delay.1 delay.grid_le_place
  have isNumber : (x + y).toModel.unpack.isNaN = false := by
    rw [sum]
    exact later.1
  have le : place x ≤ place (x + y) := by
    rw [place, place, sum]
    exact later.2
  exact (le_iff time.1 isNumber).mpr le

/-- A time after a delay is NaN only if the delay is. -/
theorem IsTime.isNaN_add (time : IsTime x) (nonneg : ¬ y < 0) : (x + y).isNaN = y.isNaN := by
  cases number : y.isNaN with
  | false => exact (number_of_le (time.le_add ⟨number, nonneg⟩)).2
  | true =>
    show (repack (add Format.binary64 x.toModel.unpack y.toModel.unpack)).isNaN = true
    change y.toModel.unpack.isNaN = true at number
    generalize y.toModel.unpack = v at number
    cases v with
    | notANumber =>
      have sum (u : UnpackedFloat) : add Format.binary64 u .notANumber = .notANumber := by
        cases u <;> rfl
      rw [sum, repack_notANumber]
      rfl
    | _ => cases number

end DryRun.Reading
