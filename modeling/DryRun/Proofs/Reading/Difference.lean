import DryRun.Proofs.Reading.Zero

/-!
# Differences

The difference of two readings is positive if the second one is earlier, and only then
(`sub_pos_iff`). It is computed exactly and then rounded, and rounding neither takes a positive
amount to zero nor makes one of anything else: there is a least positive float, and every exact
difference that is positive amounts to at least that.
-/

set_option autoImplicit false

namespace DryRun.Reading

open Float.Model Float.Model.UnpackedFloat

/-- Rounding a negative amount does not make a positive one of it. -/
theorem place_round_nonpos {m : ℕ} {e : ℤ} (positive : 0 < m) (bottom : -1074 ≤ e) :
    unpackedPlace (repack (UnpackedFloat.round Format.binary64 .negative m e)) ≤ grid 0 := by
  obtain ⟨m', e', rounded⟩ := roundsTo_round .negative positive bottom
  rw [rounded.result]
  by_cases top : e' ≤ 971
  · rw [repack, unpack_pack _ rounded.canonical top, (unpackedPlace_form m' e').2]
    exact grid_strictMono.monotone (neg_nonpos.mpr (Int.natCast_nonneg _))
  · rw [repack, unpack_pack_of_overflow _ rounded.canonical (by omega)]
    exact bot_le

/-- An exact result is rounded to a positive float if it is positive itself. -/
theorem pos_normalize_iff {k e : ℤ} (bottom : -1074 ≤ e) :
    grid 0 < unpackedPlace (repack (UnpackedFloat.normalize Format.binary64 k e .positive)) ↔
      0 < k := by
  rw [UnpackedFloat.normalize]
  rcases lt_trichotomy k 0 with below | rfl | above
  · rw [compare_lt_iff_lt.mpr below]
    exact iff_of_false (not_lt.mpr (place_round_nonpos (by omega) bottom)) (by omega)
  · have none : repack (.zero .positive) = .zero .positive := repack_of_canonical trivial rfl
    rw [compare_eq_iff_eq.mpr rfl, none]
    exact iff_of_false (lt_irrefl _) (lt_irrefl _)
  · rw [compare_gt_iff_gt.mpr above]
    have least : Canonical 1 (-1074) := ⟨by decide, le_rfl, .inr rfl⟩
    have one : units 1 (-1074) ≤ units k.toNat e := units_pos e (by omega)
    refine iff_of_true ?_ above
    exact (grid_strictMono (by decide)).trans_le (le_place_round (by omega) bottom least one)

/-- Of finite numbers a difference is positive exactly if the second is less. -/
theorem finite_sub_pos_iff {s t : Sign} {m n : ℕ} {e f : ℤ} (canonical : Canonical m e)
    (other : Canonical n f) (hm : 0 < m) (hn : 0 < n) :
    grid 0 <
        unpackedPlace (repack (sub Format.binary64 (.finite t n f hn) (.finite s m e hm))) ↔
      s.apply (units m e) < t.apply (units n f) := by
  have bottom : -1074 ≤ min f e := le_min other.bottom canonical.bottom
  have scale : (0 : ℤ) < 2 ^ (min f e + 1074).toNat := by positivity
  refine (pos_normalize_iff bottom).trans ?_
  rw [← mul_pos_iff_of_pos_right scale]
  rw [sub_mul, ← apply_units, ← apply_units, units_shiftLeft n bottom (min_le_left f e),
    units_shiftLeft m bottom (min_le_right f e)]
  exact sub_pos

/-- A result that is a float is not changed by rounding. -/
theorem pos_repack_iff {u w : UnpackedFloat} {p : Prop} (exact : u = w)
    (canonical : IsCanonical w) (number : w.isNaN = false)
    (sides : grid 0 < unpackedPlace w ↔ p) : grid 0 < unpackedPlace (repack u) ↔ p := by
  rwa [exact, repack_of_canonical canonical number]

/-- NaN is not positive. -/
theorem not_pos_repack_notANumber : ¬ grid 0 < unpackedPlace (repack .notANumber) := by
  rw [repack_notANumber]
  exact lt_irrefl _

/-- Every finite number is below infinity. -/
theorem grid_lt_infinity (k : ℤ) : grid k < unpackedPlace (.infinity .positive) :=
  WithBot.coe_lt_coe.mpr (WithTop.coe_lt_top k)

/-- No finite number is below minus infinity. -/
theorem not_grid_lt_infinity (k : ℤ) : ¬ grid k < unpackedPlace (.infinity .negative) :=
  not_lt_bot

/-- What is subtracted from an infinity leaves a positive difference exactly if it is less. -/
theorem infinity_sub_pos_iff {u : UnpackedFloat} (number : u.isNaN = false) (t : Sign) :
    grid 0 < unpackedPlace (repack (sub Format.binary64 (.infinity t) u)) ↔
      unpackedPlace u < unpackedPlace (.infinity t) := by
  cases u with
  | notANumber => cases number
  | infinity s =>
    cases s <;> cases t
    case negative.negative => exact iff_of_false not_pos_repack_notANumber (lt_irrefl _)
    case negative.positive =>
      exact pos_repack_iff rfl trivial rfl (iff_of_true (grid_lt_infinity 0) bot_lt_top)
    case positive.negative =>
      exact pos_repack_iff rfl trivial rfl (iff_of_false (not_grid_lt_infinity 0) not_lt_bot)
    case positive.positive => exact iff_of_false not_pos_repack_notANumber (lt_irrefl _)
  | zero => exact pos_repack_iff (w := .infinity t) rfl trivial rfl .rfl
  | finite s m e hm =>
    refine pos_repack_iff (w := .infinity t) rfl trivial rfl ?_
    rw [unpackedPlace_finite]
    cases t with
    | negative => exact iff_of_false (not_grid_lt_infinity 0) (not_grid_lt_infinity _)
    | positive => exact iff_of_true (grid_lt_infinity 0) (grid_lt_infinity _)

/-- Whatever is taken away from something finite, an infinity is left if it is one. -/
theorem sub_infinity_pos_iff {v : UnpackedFloat} {k : ℤ} (place : unpackedPlace v = grid k)
    {s : Sign} (rest : sub Format.binary64 v (.infinity s) = .infinity (-s)) :
    grid 0 < unpackedPlace (repack (sub Format.binary64 v (.infinity s))) ↔
      unpackedPlace (.infinity s) < unpackedPlace v := by
  rw [place]
  cases s with
  | negative =>
    exact pos_repack_iff rest trivial rfl (iff_of_true (grid_lt_infinity 0) (WithBot.bot_lt_coe _))
  | positive =>
    exact pos_repack_iff rest trivial rfl
      (iff_of_false (not_grid_lt_infinity 0) (not_lt.mpr le_top))

/-- What is subtracted from zero leaves a positive difference exactly if it is less. -/
theorem zero_sub_pos_iff {u : UnpackedFloat} (canonical : IsCanonical u) (number : u.isNaN = false)
    (t : Sign) :
    grid 0 < unpackedPlace (repack (sub Format.binary64 (.zero t) u)) ↔
      unpackedPlace u < unpackedPlace (.zero t) := by
  cases u with
  | notANumber => cases number
  | infinity s => exact sub_infinity_pos_iff (k := 0) rfl rfl
  | zero s => cases s <;> cases t <;> exact pos_repack_iff rfl trivial rfl .rfl
  | finite s m e hm =>
    refine pos_repack_iff (w := .finite (-s) m e hm) rfl canonical rfl ?_
    cases s <;> simp [unpackedPlace, grid_strictMono.lt_iff_lt]

/-- A difference of numbers is positive exactly if the second is less. -/
theorem unpacked_sub_pos_iff {u v : UnpackedFloat} (hu : IsCanonical u) (hv : IsCanonical v)
    (numberU : u.isNaN = false) (numberV : v.isNaN = false) :
    grid 0 < unpackedPlace (repack (sub Format.binary64 v u)) ↔
      unpackedPlace u < unpackedPlace v := by
  cases v with
  | notANumber => cases numberV
  | infinity t => exact infinity_sub_pos_iff numberU t
  | zero t => exact zero_sub_pos_iff hu numberU t
  | finite t n f hn =>
    cases u with
    | notANumber => cases numberU
    | infinity s => exact sub_infinity_pos_iff (unpackedPlace_finite t n f hn) rfl
    | zero s => exact pos_repack_iff rfl hv rfl .rfl
    | finite s m e hm =>
      rw [unpackedPlace_finite, unpackedPlace_finite, grid_strictMono.lt_iff_lt]
      exact finite_sub_pos_iff hu.1 hv.1 hm hn

variable {x y : Float}

/-- NaN is given the place of zero. -/
theorem place_of_isNaN (none : x.isNaN = true) : place x = grid 0 := by
  change x.toModel.unpack.isNaN = true at none
  rw [place]
  cases unpacked : x.toModel.unpack <;> simp_all [UnpackedFloat.isNaN, unpackedPlace]

/-- A reading is positive if it stands above zero, where NaN stands. -/
theorem pos_iff : 0 < x ↔ grid 0 < place x := by
  cases number : x.isNaN with
  | false => exact lt_iff rfl number
  | true =>
    refine iff_of_false (fun above => ?_) (place_of_isNaN number).not_gt
    exact Bool.false_ne_true ((number_of_le (Reading.le_of_lt above)).2.symm.trans number)

/-- It takes a positive amount of time from one reading to another if that is later. -/
theorem sub_pos_iff (hx : x.isNaN = false) (hy : y.isNaN = false) : 0 < y - x ↔ x < y := by
  rw [pos_iff, lt_iff hx hy]
  exact unpacked_sub_pos_iff (canonical_unpack x.toModel.toBits.toBitVec)
    (canonical_unpack y.toModel.toBits.toBitVec) hx hy

end DryRun.Reading
