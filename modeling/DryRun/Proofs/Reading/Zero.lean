import DryRun.Proofs.Reading.Sum

/-!
# Readings that are the same

Two readings that stand at the same place are the same float, with one exception: there are two
zeros (`eq_of_place`). A sum is the negative one of them only if both summands are
(`add_eq_negZero`), so that a reading at which time has passed is determined by its place. Which of
the zeros something is added to makes no difference to the place of the sum (`place_add_congr`).

A span is a positive and finite amount of time. The sum of a reading and a span is not a number only
if the reading is not (`isNaN_add_span`).
-/

set_option autoImplicit false

namespace DryRun.Reading

open Float.Model Float.Model.UnpackedFloat

variable {x y : Float}

/-- Floats are equal if they are the same unpacked. -/
theorem unpack_eq_iff : x.toModel.unpack = y.toModel.unpack ↔ x = y := by
  constructor
  · intro same
    have bits := (unpack_inj_of_valid x.toModel.valid y.toModel.valid (by decide)).mp same
    obtain ⟨⟨⟨bitsX⟩, validX⟩⟩ := x
    obtain ⟨⟨⟨bitsY⟩, validY⟩⟩ := y
    obtain rfl : bitsX = bitsY := bits
    rfl
  · rintro rfl
    rfl

/-- The negative zero unpacked. -/
theorem unpack_negZero : (-0 : Float).toModel.unpack = .zero .negative := by
  rfl

/-- A reading other than NaN is determined by its place if it is not the negative zero. -/
theorem eq_of_place (hx : x.isNaN = false) (hy : y.isNaN = false) (same : place x = place y)
    (posX : x ≠ -0) (posY : y ≠ -0) : x = y := by
  obtain ⟨-, -, same | ⟨-, zero⟩ | ⟨zero, -⟩⟩ :=
    Float.beq_iff_ne_nan_and_eq.mp ((beq_iff hx hy).mpr same)
  · exact same
  · exact absurd zero posY
  · exact absurd zero posX

/-! ## Sums that are zero -/

/-- Rounding does not make a zero of anything else. -/
theorem repack_round_ne_zero (s t : Sign) {m : ℕ} {e : ℤ} (positive : 0 < m) (bottom : -1074 ≤ e) :
    repack (UnpackedFloat.round Format.binary64 s m e) ≠ .zero t := by
  obtain ⟨m', e', rounded⟩ := roundsTo_round s positive bottom
  have one : Canonical 1 (-1074) := ⟨by decide, le_rfl, .inr rfl⟩
  have least : units 1 (-1074) ≤ units m' e' := (rounded.sides one).1 (units_pos e positive)
  have some : m' ≠ 0 := by
    rintro rfl
    simp [units] at least
  rw [rounded.result]
  by_cases top : e' ≤ 971
  · rw [repack, unpack_pack s rounded.canonical top, form, dif_neg some]
    simp
  · rw [repack, unpack_pack_of_overflow s rounded.canonical (by omega)]
    simp

/-- A sum of finite numbers is not normalized to the negative zero. -/
theorem repack_normalize_ne_negZero (k : ℤ) {e : ℤ} (bottom : -1074 ≤ e) :
    repack (UnpackedFloat.normalize Format.binary64 k e .positive) ≠ .zero .negative := by
  rw [UnpackedFloat.normalize]
  rcases lt_trichotomy k 0 with below | rfl | above
  · rw [compare_lt_iff_lt.mpr below]
    exact repack_round_ne_zero _ _ (by omega) bottom
  · have zero : repack (.zero .positive) = .zero .positive := repack_of_canonical trivial rfl
    rw [compare_eq_iff_eq.mpr rfl, zero]
    simp
  · rw [compare_gt_iff_gt.mpr above]
    exact repack_round_ne_zero _ _ (by omega) bottom

/-- A sum is the negative zero only if both parts are. -/
theorem unpacked_add_eq_negZero {u v : UnpackedFloat} (hu : IsCanonical u) (hv : IsCanonical v)
    (sum : repack (add Format.binary64 u v) = .zero .negative) :
    u = .zero .negative ∧ v = .zero .negative := by
  have kept {w : UnpackedFloat} (same : add Format.binary64 u v = w) (canonical : IsCanonical w)
      (number : w.isNaN = false) : w = .zero .negative := by
    rw [same, repack_of_canonical canonical number] at sum
    exact sum
  have none : repack .notANumber ≠ .zero .negative := by
    rw [repack_notANumber]
    simp
  -- A sum that needs no rounding is one of the summands or the positive zero. The other sums are
  -- not numbers, or are rounded, and no rounding gives the negative zero.
  cases u with
  | notANumber => exact absurd sum none
  | infinity s =>
    cases v with
    | notANumber => exact absurd sum none
    | infinity t =>
      cases s <;> cases t
      case negative.positive => exact absurd sum none
      case positive.negative => exact absurd sum none
      case negative.negative =>
        exact absurd (kept (w := .infinity .negative) rfl trivial rfl) (by simp)
      case positive.positive =>
        exact absurd (kept (w := .infinity .positive) rfl trivial rfl) (by simp)
    | zero => exact absurd (kept (w := .infinity s) rfl trivial rfl) (by simp)
    | finite => exact absurd (kept (w := .infinity s) rfl trivial rfl) (by simp)
  | zero s =>
    cases v with
    | notANumber => exact absurd sum none
    | infinity t => exact absurd (kept (w := .infinity t) rfl trivial rfl) (by simp)
    | zero t =>
      cases s <;> cases t
      case negative.negative => exact ⟨rfl, rfl⟩
      all_goals exact absurd (kept (w := .zero .positive) rfl trivial rfl) (by simp)
    | finite t n f hn => exact absurd (kept (w := .finite t n f hn) rfl hv rfl) (by simp)
  | finite s m e hm =>
    cases v with
    | notANumber => exact absurd sum none
    | infinity t => exact absurd (kept (w := .infinity t) rfl trivial rfl) (by simp)
    | zero t => exact absurd (kept (w := .finite s m e hm) rfl hu rfl) (by simp)
    | finite t n f hn =>
      exact absurd sum (repack_normalize_ne_negZero _ (le_min hu.1.bottom hv.1.bottom))

/-- A sum is the negative zero only if both summands are. -/
theorem add_eq_negZero (sum : x + y = -0) : x = -0 ∧ y = -0 := by
  have unpacked : repack (add Format.binary64 x.toModel.unpack y.toModel.unpack) =
      .zero .negative := by
    rw [← unpack_negZero, ← sum]
    rfl
  have both := unpacked_add_eq_negZero (canonical_unpack x.toModel.toBits.toBitVec)
    (canonical_unpack y.toModel.toBits.toBitVec) unpacked
  rw [← unpack_eq_iff, ← unpack_eq_iff, unpack_negZero]
  exact both

/-! ## Sums of a zero -/

/-- Adding to a zero is no change, whatever its sign. -/
theorem place_add_of_zero {t : Sign} (zero : x.toModel.unpack = .zero t) (number : y.isNaN = false) :
    place (x + y) = place y := by
  have canonical := canonical_unpack y.toModel.toBits.toBitVec
  change IsCanonical y.toModel.unpack at canonical
  change y.toModel.unpack.isNaN = false at number
  show unpackedPlace (repack (add Format.binary64 x.toModel.unpack y.toModel.unpack)) = _
  rw [zero, place]
  generalize y.toModel.unpack = v at canonical number
  have kept {w : UnpackedFloat} (sum : add Format.binary64 (.zero t) v = w)
      (canonical : IsCanonical w) (number : w.isNaN = false)
      (same : unpackedPlace w = unpackedPlace v) :
      unpackedPlace (repack (add Format.binary64 (.zero t) v)) = unpackedPlace v := by
    rw [sum, repack_of_canonical canonical number, same]
  cases v with
  | notANumber => cases number
  | infinity s => exact kept (w := .infinity s) rfl trivial rfl rfl
  | zero s => cases s <;> cases t <;> exact kept rfl trivial rfl rfl
  | finite s m e hm => exact kept rfl canonical rfl rfl

/-- Readings that stand at the same place stand at the same place some time later. -/
theorem place_add_congr {z : Float} (hx : x.isNaN = false) (hy : y.isNaN = false)
    (hz : z.isNaN = false) (same : place x = place y) : place (x + z) = place (y + z) := by
  obtain ⟨-, -, rfl | ⟨rfl, rfl⟩ | ⟨rfl, rfl⟩⟩ :=
    Float.beq_iff_ne_nan_and_eq.mp ((beq_iff hx hy).mpr same)
  · rfl
  · rw [place_add_of_zero (x := 0) (t := .positive) rfl hz, place_add_of_zero unpack_negZero hz]
  · rw [place_add_of_zero (x := 0) (t := .positive) rfl hz, place_add_of_zero unpack_negZero hz]

/-! ## Spans -/

/-- An amount of time that is positive and finite. -/
def IsSpan (x : Float) : Prop := 0 < x ∧ x < 1 / 0

/-- Zero has its place on the grid. -/
theorem place_zero : place 0 = grid 0 := rfl

/-- A span is positive and finite. -/
theorem IsSpan.unpacked (span : IsSpan y) :
    ∃ m e positive, y.toModel.unpack = .finite .positive m e positive := by
  have number : y.isNaN = false := (number_of_le (Reading.le_of_lt span.1)).2
  have above := (lt_iff rfl number).mp span.1
  have below := (lt_iff number (by decide)).mp span.2
  rw [place_zero, place] at above
  rw [place, show place (1 / 0) = unpackedPlace (.infinity .positive) from rfl] at below
  change y.toModel.unpack.isNaN = false at number
  generalize y.toModel.unpack = v at number above below ⊢
  cases v with
  | notANumber => cases number
  | infinity s =>
    cases s with
    | negative => exact absurd above not_lt_bot
    | positive => exact absurd below (lt_irrefl _)
  | zero s => exact absurd above (lt_irrefl _)
  | finite s m e positive =>
    cases s with
    | negative =>
      have less := grid_strictMono.lt_iff_lt.mp above
      have := units_pos e positive
      omega
    | positive => exact ⟨m, e, positive, rfl⟩

/-- Adding a span neither brings in NaN nor removes it. -/
theorem isNaN_add_span (span : IsSpan y) : (x + y).isNaN = x.isNaN := by
  obtain ⟨n, f, positive, unpacked⟩ := span.unpacked
  have canonicalX := canonical_unpack x.toModel.toBits.toBitVec
  have canonicalY := canonical_unpack y.toModel.toBits.toBitVec
  change IsCanonical x.toModel.unpack at canonicalX
  change IsCanonical y.toModel.unpack at canonicalY
  show (repack (add Format.binary64 x.toModel.unpack y.toModel.unpack)).isNaN =
    x.toModel.unpack.isNaN
  rw [unpacked] at canonicalY ⊢
  generalize x.toModel.unpack = u at canonicalX ⊢
  cases u with
  | notANumber => exact congrArg UnpackedFloat.isNaN repack_notANumber
  | infinity s =>
    have kept : repack (.infinity s) = .infinity s := repack_of_canonical trivial rfl
    exact congrArg UnpackedFloat.isNaN kept
  | zero s =>
    have kept := repack_of_canonical canonicalY rfl
    show (repack (.finite .positive n f positive)).isNaN = false
    rw [kept]
    rfl
  | finite s m e hm =>
    exact (finite_add canonicalX.1 canonicalX.2 canonicalY.1 hm positive).1

/-- A reading after a span is not the negative zero. -/
theorem IsSpan.add_ne_negZero (span : IsSpan y) : x + y ≠ -0 := by
  intro sum
  obtain ⟨m, e, positive, unpacked⟩ := span.unpacked
  rw [(add_eq_negZero sum).2, unpack_negZero] at unpacked
  cases unpacked

/-- A span is a delay. -/
theorem IsSpan.isDelay (span : IsSpan y) : IsDelay y := by
  have number : y.isNaN = false := (number_of_le (Reading.le_of_lt span.1)).2
  exact ⟨number, not_lt_of_le (Reading.le_of_lt span.1)⟩

/-- After a span it is not earlier. -/
theorem IsSpan.le_add (span : IsSpan y) (number : x.isNaN = false) : x ≤ x + y := by
  by_cases bottom : place x = ⊥
  · rw [le_iff number ((isNaN_add_span span).trans number), bottom]
    exact bot_le
  · exact IsTime.le_add ⟨number, bottom⟩ span.isDelay

end DryRun.Reading
