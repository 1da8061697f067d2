import DryRun.Proofs.Reading.Place

/-!
# Rounding keeps to the sides of a float

The exact result of an operation is a mantissa with an exponent, which is rounded to a canonical
form and packed. Whether the rounding goes up or down, the result does not get past a float: a float
that is at most the exact result is at most the rounded one, and one that is at least the exact
result is at least the rounded one (`roundsTo_round`). A result that is too great for a float is
packed as infinity, and no other one is changed by that (`unpack_pack`).
-/

set_option autoImplicit false

namespace DryRun.Reading

open Float.Model Float.Model.UnpackedFloat

/-! ## Shifting and rounding a mantissa -/

/-- Shifting a mantissa divides it by a power of two. -/
theorem mantissa_shift (em : ExtendedMantissa) (k : ℕ) :
    (em >>> k).mantissa = em.mantissa / 2 ^ k := by
  induction k with
  | zero => simp [HShiftRight.hShiftRight, Nat.repeat]
  | succ k ih =>
    show (em >>> k).shiftRightOne.mantissa = em.mantissa / 2 ^ (k + 1)
    rw [ExtendedMantissa.shiftRightOne, ih, Nat.div_div_eq_div_mul, Nat.pow_succ]

/-- Where the dropped bits are all zero, a shift is exact. -/
theorem shift_of_dvd {m k : ℕ} (exact : 2 ^ k ∣ m) :
    (⟨m, false, false⟩ : ExtendedMantissa) >>> k = ⟨m / 2 ^ k, false, false⟩ := by
  induction k with
  | zero => simp [HShiftRight.hShiftRight, Nat.repeat]
  | succ k ih =>
    have earlier : 2 ^ k ∣ m := (Nat.pow_dvd_pow 2 (Nat.le_succ k)).trans exact
    show ((⟨m, false, false⟩ : ExtendedMantissa) >>> k).shiftRightOne = _
    rw [ih earlier]
    have even : 2 ∣ m / 2 ^ k := by
      obtain ⟨n, rfl⟩ := exact
      exact ⟨n, by rw [Nat.pow_succ, Nat.mul_assoc, Nat.mul_div_cancel_left _ (Nat.two_pow_pos k)]⟩
    simp [ExtendedMantissa.shiftRightOne, Nat.mod_eq_zero_of_dvd even, Nat.div_div_eq_div_mul,
      Nat.pow_succ]

/-- Rounding goes up by one at most. -/
theorem roundedMantissa_bounds (em : ExtendedMantissa) :
    em.mantissa ≤ em.roundedMantissa ∧ em.roundedMantissa ≤ em.mantissa + 1 := by
  obtain ⟨m, round, sticky⟩ := em
  cases round <;> cases sticky <;>
    simp only [ExtendedMantissa.roundedMantissa, ExtendedMantissa.accuracy,
      Accuracy.roundToNearestEven] <;>
    omega

/-- What becomes of a mantissa that loses some bits and is rounded: it is rounded down or up, and if
the bits are zero it is neither. -/
structure Rounds (m k r : ℕ) : Prop where
  low : m / 2 ^ k ≤ r
  high : r ≤ m / 2 ^ k + 1
  exact : 2 ^ k ∣ m → r = m / 2 ^ k

/-- A mantissa that is shifted and rounded is a rounding of the quotient. -/
theorem rounds_shift (m k : ℕ) :
    Rounds m k ((⟨m, false, false⟩ : ExtendedMantissa) >>> k).roundedMantissa := by
  have bounds := roundedMantissa_bounds ((⟨m, false, false⟩ : ExtendedMantissa) >>> k)
  rw [mantissa_shift] at bounds
  refine ⟨bounds.1, bounds.2, fun exact => ?_⟩
  rw [shift_of_dvd exact]
  rfl

/-- A multiple of the dropped place that is at most the mantissa is at most the rounded one. -/
theorem Rounds.le {m k r x : ℕ} (rounds : Rounds m k r) (le : x * 2 ^ k ≤ m) : x ≤ r :=
  ((Nat.le_div_iff_mul_le (Nat.two_pow_pos k)).mpr le).trans rounds.low

/-- A multiple of the dropped place that is at least the mantissa is at least the rounded one. -/
theorem Rounds.ge {m k r x : ℕ} (rounds : Rounds m k r) (ge : m ≤ x * 2 ^ k) : r ≤ x := by
  have below : m / 2 ^ k ≤ x := Nat.div_le_of_le_mul (by rwa [Nat.mul_comm])
  rcases Nat.lt_or_eq_of_le below with less | same
  · exact rounds.high.trans less
  · have exact : m = x * 2 ^ k := by
      refine Nat.le_antisymm ge ?_
      rw [← same]
      exact Nat.div_mul_le_self m (2 ^ k)
    rw [rounds.exact ⟨x, by rw [exact, Nat.mul_comm]⟩, same]

/-! ## Rounding a mantissa with an exponent -/

/-- The exponent that a mantissa with an exponent is brought to. -/
theorem targetExponent_eq (m : ℕ) (e : ℤ) :
    Format.binary64.targetExponent (totalExponent m e) = max (m.log2 + e - 52) (-1074) := by
  have bits : ((Format.binary64.mantissaBits : ℕ) : ℤ) = 53 := rfl
  have least : Format.binary64.minExponent = -1074 := rfl
  rw [Format.targetExponent, totalExponent, bits, least]
  omega

/-- A mantissa that is shifted by `k` bits to the exponent `t` for which it is meant is then as
short and as long as a canonical one. -/
structure Target (m : ℕ) (e t : ℤ) (k : ℕ) : Prop where
  exponent : e + k = t
  bottom : -1074 ≤ e
  short : m / 2 ^ k < 2 ^ 53
  long : 2 ^ 52 ≤ m / 2 ^ k ∨ t = -1074

/-- The exponent that rounding aims for is a target. -/
theorem target {m : ℕ} {e t : ℤ} (positive : 0 < m) (bottom : -1074 ≤ e)
    (meant : t = max (m.log2 + e - 52) (-1074)) (low : e ≤ t) : Target m e t (t - e).toNat := by
  have above := Nat.lt_log2_self (n := m)
  have below := Nat.log2_self_le positive.ne'
  refine ⟨by omega, bottom, ?_, ?_⟩
  · rw [Nat.div_lt_iff_lt_mul (Nat.two_pow_pos _), ← Nat.pow_add]
    exact above.trans_le (Nat.pow_le_pow_right (by decide) (by omega))
  · by_cases least : t = -1074
    · exact .inr least
    · left
      rw [Nat.le_div_iff_mul_le (Nat.two_pow_pos _), ← Nat.pow_add]
      exact (Nat.pow_le_pow_right (by decide) (by omega)).trans below

/-- A greater exponent is a greater mantissa. -/
theorem units_add (m k : ℕ) {e : ℤ} (bottom : -1074 ≤ e) :
    units m (e + k) = units (m * 2 ^ k) e := by
  have exponent : (e + k + 1074).toNat = k + (e + 1074).toNat := by omega
  rw [units, units, exponent, Nat.pow_add, Nat.mul_assoc]

/-- Rounding at a target keeps to the sides of a canonical form. -/
theorem Target.sides {m : ℕ} {e t : ℤ} {k r : ℕ} (target : Target m e t k) (rounds : Rounds m k r)
    {m₀ : ℕ} {e₀ : ℤ} (canonical : Canonical m₀ e₀) :
    (units m₀ e₀ ≤ units m e → units m₀ e₀ ≤ units r t) ∧
      (units m e ≤ units m₀ e₀ → units r t ≤ units m₀ e₀) := by
  have place : 0 < 2 ^ (e + 1074).toNat := Nat.two_pow_pos _
  have exponent := target.exponent
  have bottom := target.bottom
  by_cases coarse : t ≤ e₀
  · -- The form is a multiple of the place to which the mantissa is rounded.
    obtain ⟨j, same⟩ : ∃ j : ℕ, e₀ = t + j := ⟨(e₀ - t).toNat, by omega⟩
    have shifted : units m₀ e₀ = units (m₀ * 2 ^ j) t := by
      rw [same, units_add _ _ (by omega)]
    have aligned : units (m₀ * 2 ^ j) t = units (m₀ * 2 ^ j * 2 ^ k) e := by
      rw [← exponent, units_add _ _ bottom]
    constructor
    · intro le
      rw [shifted, aligned] at le
      rw [shifted]
      exact Nat.mul_le_mul_right _ (rounds.le (Nat.le_of_mul_le_mul_right le place))
    · intro ge
      rw [shifted, aligned] at ge
      rw [shifted]
      exact Nat.mul_le_mul_right _ (rounds.ge (Nat.le_of_mul_le_mul_right ge place))
  · -- The form is finer, and so it amounts to less than a mantissa of full length does.
    have long := target.long.resolve_right (by have := canonical.bottom; omega)
    have less : units m₀ e₀ < units (m / 2 ^ k) t :=
      units_lt_of_exponent canonical ⟨target.short, by omega, .inl long⟩ (by omega)
    constructor
    · intro _
      exact less.le.trans (Nat.mul_le_mul_right _ rounds.low)
    · intro ge
      have floor : units (m / 2 ^ k) t ≤ units m e := by
        rw [← exponent, units_add _ _ bottom]
        exact Nat.mul_le_mul_right _ (Nat.div_mul_le_self m (2 ^ k))
      omega

/-- The float with a mantissa and an exponent. -/
def form (s : Sign) (m : ℕ) (e : ℤ) : UnpackedFloat :=
  if h : m = 0 then .zero s else .finite s m e (Nat.pos_of_ne_zero h)

/-- A finite number is its form. -/
theorem finite_eq_form (s : Sign) {m : ℕ} (e : ℤ) (positive : 0 < m) :
    .finite s m e positive = form s m e := by
  rw [form, dif_neg positive.ne']

/-- An exact result of `n` units is rounded to a float that lies on the same side of every canonical
form. -/
structure RoundsTo (n : ℕ) (s : Sign) (u : UnpackedFloat) (m : ℕ) (e : ℤ) : Prop where
  result : u = form s m e
  canonical : Canonical m e
  sides : ∀ {m₀ : ℕ} {e₀ : ℤ}, Canonical m₀ e₀ → (units m₀ e₀ ≤ n → units m₀ e₀ ≤ units m e) ∧
    (n ≤ units m₀ e₀ → units m e ≤ units m₀ e₀)

/-- A short mantissa is not shifted. -/
theorem shiftToTargetExponent_of_short {m : ℕ} {e : ℤ} (short : m < 2 ^ 53) (bottom : -1074 ≤ e) :
    shiftToTargetExponent Format.binary64 m e .exact = (⟨m, false, false⟩, e) := by
  have log : m.log2 ≤ 52 := by
    by_cases zero : m = 0
    · simp [zero]
    · exact Nat.le_of_lt_succ ((Nat.log2_lt zero).mpr short)
  have none : (Format.binary64.targetExponent (totalExponent m e) - e).toNat = 0 := by
    rw [targetExponent_eq]
    omega
  rw [shiftToTargetExponent, shiftToExponent, none]
  simp [ExtendedMantissa.ofMantissaAndAccuracy, HShiftRight.hShiftRight, Nat.repeat]

/-- A mantissa that has been rounded up to one bit too many is shifted by that bit. -/
theorem shiftToTargetExponent_of_overflow {e : ℤ} (bottom : -1074 ≤ e) :
    shiftToTargetExponent Format.binary64 (2 ^ 53) e .exact = (⟨2 ^ 52, false, false⟩, e + 1) := by
  have one : (Format.binary64.targetExponent (totalExponent (2 ^ 53) e) - e).toNat = 1 := by
    rw [targetExponent_eq, Nat.log2_two_pow]
    omega
  rw [shiftToTargetExponent, shiftToExponent, one]
  rfl

/-- A number that is shifted to a target and rounded there has been rounded. -/
theorem roundsTo_of_shift {m : ℕ} {e t : ℤ} {k r : ℕ} (target : Target m e t k)
    (rounds : Rounds m k r) (s : Sign) :
    ∃ m' e', RoundsTo (units m e) s
      (form s (shiftToTargetExponent Format.binary64 r t .exact).1.mantissa
        (shiftToTargetExponent Format.binary64 r t .exact).2) m' e' := by
  have bottom : -1074 ≤ t := by
    have := target.exponent
    have := target.bottom
    omega
  have long : 2 ^ 52 ≤ r ∨ t = -1074 := target.long.imp_left (·.trans rounds.low)
  have sides {m₀ : ℕ} {e₀ : ℤ} (canonical : Canonical m₀ e₀) := target.sides rounds canonical
  by_cases short : r < 2 ^ 53
  · rw [shiftToTargetExponent_of_short short bottom]
    exact ⟨r, t, rfl, ⟨short, bottom, long⟩, sides⟩
  · have full : r = 2 ^ 53 := by
      have := target.short
      have := rounds.high
      omega
    have same : units (2 ^ 52) (t + 1) = units r t := by
      rw [full, show t + 1 = t + (1 : ℕ) from rfl, units_add _ _ bottom]
      rfl
    rw [full, shiftToTargetExponent_of_overflow bottom]
    refine ⟨2 ^ 52, t + 1, rfl, ⟨by decide, by omega, .inl le_rfl⟩, ?_⟩
    rw [same]
    exact sides

/-- A power of two in a factor adds to the logarithm. -/
theorem log2_shift {m : ℕ} (positive : 0 < m) (k : ℕ) : (m * 2 ^ k).log2 = m.log2 + k := by
  have nonzero : m * 2 ^ k ≠ 0 := (Nat.mul_pos positive (Nat.two_pow_pos k)).ne'
  rw [Nat.log2_eq_iff nonzero]
  constructor
  · rw [Nat.pow_add]
    exact Nat.mul_le_mul_right _ (Nat.log2_self_le positive.ne')
  · rw [show m.log2 + k + 1 = m.log2 + 1 + k by omega, Nat.pow_add]
    exact Nat.mul_lt_mul_of_pos_right Nat.lt_log2_self (Nat.two_pow_pos k)

/-- Rounding what has at most the exponent that it is meant for. -/
theorem roundsTo_roundWithAccuracy (s : Sign) {m : ℕ} {e : ℤ} (positive : 0 < m)
    (bottom : -1074 ≤ e) (low : e ≤ max (m.log2 + e - 52) (-1074)) :
    ∃ m' e', RoundsTo (units m e) s (roundWithAccuracy Format.binary64 s m e .exact) m' e' := by
  have meant := target positive bottom rfl low
  have shifted : shiftToTargetExponent Format.binary64 m e .exact =
      ((⟨m, false, false⟩ : ExtendedMantissa) >>> (max (m.log2 + e - 52) (-1074) - e).toNat,
        max (m.log2 + e - 52) (-1074)) := by
    rw [shiftToTargetExponent, shiftToExponent, targetExponent_eq, meant.exponent]
    rfl
  rw [roundWithAccuracy, shifted]
  exact roundsTo_of_shift meant (rounds_shift m _) s

/-- Rounding keeps to the sides of every canonical form. -/
theorem roundsTo_round (s : Sign) {m : ℕ} {e : ℤ} (positive : 0 < m) (bottom : -1074 ≤ e) :
    ∃ m' e', RoundsTo (units m e) s (UnpackedFloat.round Format.binary64 s m e) m' e' := by
  rw [UnpackedFloat.round, decreaseExponent, targetExponent_eq, Nat.shiftLeft_eq]
  generalize hk : (e - max (m.log2 + e - 52) (-1074)).toNat = k
  have same : units m e = units (m * 2 ^ k) (e - k) := by
    rw [← units_add _ _ (by omega), Int.sub_add_cancel]
  rw [same]
  apply roundsTo_roundWithAccuracy s (Nat.mul_pos positive (Nat.two_pow_pos k)) (by omega)
  rw [log2_shift positive]
  omega

/-! ## Packing -/

/-- The sign that was packed is unpacked. -/
theorem unpackSign_packComponents {spec : Format} (s : Sign) (e : BitVec spec.exponentBits)
    (m : BitVec spec.mantissaBitsWithoutImplicit) :
    unpackSign (packComponents spec s e m) = s.toBitVec := by
  ext i inside
  obtain rfl : i = 0 := by omega
  simp [unpackSign, packComponents, BitVec.getLsbD_append, BitVec.getElem_append]

/-- A sign comes back from its bit. -/
theorem ofBitVec_toBitVec (s : Sign) : Sign.ofBitVec s.toBitVec = s := by
  cases s <;> rfl

/-- The number that a mantissa with its implicit bit stands for. -/
theorem toNat_implicit (m : BitVec Format.binary64.mantissaBitsWithoutImplicit) :
    (1#1 ++ m).toNat = 2 ^ 52 + m.toNat := by
  rw [BitVec.toNat_append, ← Nat.shiftLeft_add_eq_or_of_lt m.isLt]
  rfl

/-- What was packed is unpacked, by the exponent's extremes. -/
theorem unpack_packComponents (s : Sign) (e : BitVec Format.binary64.exponentBits)
    (m : BitVec Format.binary64.mantissaBitsWithoutImplicit) :
    UnpackedFloat.unpack Format.binary64 (packComponents Format.binary64 s e m) =
      if e = -1#_ then if m = 0#_ then .infinity s else .notANumber
      else if e = 0#_ then form s m.toNat (-1074)
      else form s (2 ^ 52 + m.toNat) ((e.toNat : ℤ) - 1075) := by
  have bias : ((Format.binary64.exponentBias : ℤ) + Format.binary64.mantissaBitsWithoutImplicit) =
      1075 := rfl
  simp only [UnpackedFloat.unpack, unpackMantissa_packComponents, unpackExponent_packComponents,
    unpackSign_packComponents, ofBitVec_toBitVec, bias]
  split
  · rfl
  · split
    case isTrue zero =>
      subst zero
      split
      case isTrue none =>
        subst none
        rfl
      case isFalse some =>
        rw [finite_eq_form]
        rfl
    case isFalse => rw [finite_eq_form, toNat_implicit]

/-- A canonical form that is not too great is packed as it is. -/
theorem unpack_pack {m : ℕ} {e : ℤ} (s : Sign) (canonical : Canonical m e) (top : e ≤ 971) :
    UnpackedFloat.unpack Format.binary64 (UnpackedFloat.pack Format.binary64 (form s m e)) =
      form s m e := by
  have bottom := canonical.bottom
  by_cases zero : m = 0
  · have least : e = -1074 := canonical.long.resolve_left (by omega)
    rw [zero, form, dif_pos rfl, UnpackedFloat.pack, packedZero, unpack_packComponents]
    rfl
  have biased : (e + (Format.binary64.exponentBias : ℕ) +
      (Format.binary64.mantissaBitsWithoutImplicit : ℕ)).toNat = (e + 1075).toNat :=
    congrArg Int.toNat (Int.add_assoc _ _ _)
  rw [form, dif_neg zero, UnpackedFloat.pack, biased]
  dsimp only
  rw [if_neg (by show ¬ 2 ^ 11 ≤ _; omega)]
  -- A normal mantissa leaves its leading bit out, a subnormal one is marked by the least exponent.
  by_cases normal : 2 ^ 52 ≤ m
  · have log : m.log2 = 52 := (Nat.log2_eq_iff zero).mpr ⟨normal, canonical.short⟩
    have exponent : (BitVec.ofNat 11 (e + 1075).toNat).toNat = (e + 1075).toNat :=
      Nat.mod_eq_of_lt (by omega)
    have mantissa : 2 ^ 52 + (BitVec.ofNat 52 m).toNat = m := by
      have short := canonical.short
      show 2 ^ 52 + m % 2 ^ 52 = m
      omega
    have ordinary : BitVec.ofNat 11 (e + 1075).toNat ≠ -1#11 := by
      intro special
      have := congrArg BitVec.toNat special
      rw [exponent] at this
      have : (e + 1075).toNat = 2047 := this
      omega
    have regular : BitVec.ofNat 11 (e + 1075).toNat ≠ 0#11 := by
      intro tiny
      have := congrArg BitVec.toNat tiny
      rw [exponent] at this
      have : (e + 1075).toNat = 0 := this
      omega
    rw [log, if_pos (show 52 + 1 = Format.binary64.mantissaBits from rfl), unpack_packComponents,
      if_neg ordinary, if_neg regular, mantissa, exponent, finite_eq_form]
    congr 1
    omega
  · have log : m.log2 + 1 ≠ Format.binary64.mantissaBits := by
      have less : m.log2 < 52 := (Nat.log2_lt zero).mpr (by omega)
      show m.log2 + 1 ≠ 53
      omega
    have least : e = -1074 := canonical.long.resolve_left normal
    have mantissa : (BitVec.ofNat 52 m).toNat = m := Nat.mod_eq_of_lt (by omega)
    rw [if_neg log, unpack_packComponents, if_neg (by decide), if_pos rfl, mantissa, finite_eq_form,
      least]

/-- A canonical form that is too great is packed as infinity. -/
theorem unpack_pack_of_overflow {m : ℕ} {e : ℤ} (s : Sign) (canonical : Canonical m e)
    (top : 971 < e) :
    UnpackedFloat.unpack Format.binary64 (UnpackedFloat.pack Format.binary64 (form s m e)) =
      .infinity s := by
  have positive : m ≠ 0 := by
    rcases canonical.long with long | least <;> omega
  have biased : (e + (Format.binary64.exponentBias : ℕ) +
      (Format.binary64.mantissaBitsWithoutImplicit : ℕ)).toNat = (e + 1075).toNat :=
    congrArg Int.toNat (Int.add_assoc _ _ _)
  rw [form, dif_neg positive, UnpackedFloat.pack, biased]
  dsimp only
  rw [if_pos (by show 2 ^ 11 ≤ _; omega), packedInfinity, unpack_packComponents, if_pos rfl]
  exact if_pos rfl

/-- The place of a form is that of its units, with the sign. -/
theorem unpackedPlace_form (m : ℕ) (e : ℤ) :
    unpackedPlace (form .positive m e) = grid (units m e) ∧
      unpackedPlace (form .negative m e) = grid (-units m e) := by
  by_cases zero : m = 0
  · subst zero
    rw [units, Nat.zero_mul]
    exact ⟨rfl, rfl⟩
  · rw [form, form, dif_neg zero, dif_neg zero]
    exact ⟨rfl, rfl⟩

/-- What comes of a float that is packed and unpacked. -/
def repack (u : UnpackedFloat) : UnpackedFloat :=
  UnpackedFloat.unpack Format.binary64 (UnpackedFloat.pack Format.binary64 u)

/-- A form is a number. -/
theorem isNaN_form (s : Sign) (m : ℕ) (e : ℤ) : (form s m e).isNaN = false := by
  rw [form]
  split <;> rfl

/-- NaN stays NaN. -/
theorem repack_notANumber : repack .notANumber = .notANumber := by
  rw [repack, UnpackedFloat.pack, unpack_packedNaN]

/-- Packing leaves a float as it is. -/
theorem repack_of_canonical {u : UnpackedFloat} (canonical : IsCanonical u)
    (number : u.isNaN = false) : repack u = u := by
  cases u with
  | infinity s =>
    rw [repack, UnpackedFloat.pack, packedInfinity, unpack_packComponents, if_pos rfl]
    exact if_pos rfl
  | notANumber => cases number
  | zero s =>
    have least : Canonical 0 (-1074) := ⟨Nat.two_pow_pos 53, le_rfl, .inr rfl⟩
    have same : form s 0 (-1074) = .zero s := dif_pos rfl
    rw [repack, ← same]
    exact unpack_pack s least (by omega)
  | finite s m e positive =>
    rw [finite_eq_form]
    exact unpack_pack s canonical.1 canonical.2

/-- What is rounded is a number. -/
theorem isNaN_repack_round (s : Sign) {m : ℕ} {e : ℤ} (positive : 0 < m) (bottom : -1074 ≤ e) :
    (repack (UnpackedFloat.round Format.binary64 s m e)).isNaN = false := by
  obtain ⟨m', e', rounded⟩ := roundsTo_round s positive bottom
  rw [rounded.result]
  by_cases top : e' ≤ 971
  · rw [repack, unpack_pack s rounded.canonical top]
    exact isNaN_form s m' e'
  · rw [repack, unpack_pack_of_overflow s rounded.canonical (by omega)]
    rfl

/-- A float that is at most a positive exact result is at most the rounded one. -/
theorem le_place_round {m m₀ : ℕ} {e e₀ : ℤ} (positive : 0 < m) (bottom : -1074 ≤ e)
    (canonical : Canonical m₀ e₀) (le : units m₀ e₀ ≤ units m e) :
    grid (units m₀ e₀) ≤
      unpackedPlace (repack (UnpackedFloat.round Format.binary64 .positive m e)) := by
  obtain ⟨m', e', rounded⟩ := roundsTo_round .positive positive bottom
  rw [rounded.result]
  by_cases top : e' ≤ 971
  · rw [repack, unpack_pack _ rounded.canonical top, (unpackedPlace_form m' e').1,
      grid_strictMono.le_iff_le]
    exact Int.ofNat_le.mpr ((rounded.sides canonical).1 le)
  · rw [repack, unpack_pack_of_overflow _ rounded.canonical (by omega)]
    exact WithBot.coe_le_coe.mpr le_top

/-- A float that is at most a negative exact result is at most the rounded one. -/
theorem neg_le_place_round {m m₀ : ℕ} {e e₀ : ℤ} (positive : 0 < m) (bottom : -1074 ≤ e)
    (canonical : Canonical m₀ e₀) (top₀ : e₀ ≤ 971) (ge : units m e ≤ units m₀ e₀) :
    grid (-units m₀ e₀) ≤
      unpackedPlace (repack (UnpackedFloat.round Format.binary64 .negative m e)) := by
  obtain ⟨m', e', rounded⟩ := roundsTo_round .negative positive bottom
  have below := (rounded.sides canonical).2 ge
  have top : e' ≤ 971 := by
    by_contra beyond
    have above := units_lt_of_exponent canonical rounded.canonical (by omega)
    omega
  rw [rounded.result, repack, unpack_pack _ rounded.canonical top, (unpackedPlace_form m' e').2,
    grid_strictMono.le_iff_le]
  exact neg_le_neg (Int.ofNat_le.mpr below)

end DryRun.Reading
