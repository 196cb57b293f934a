import DocQuery.Number.Double
import Mathlib

/-!
# Doubles of integers

A positive integer keeps 53 leading bits on its way to a double; the rest is rounded off, a tie to the even side:

    leading n = n * 2^52 / 2^(log2 n), rounded                        2^52 ≤ leading n ≤ 2^53
    place n   = 2^52 * (log2 n + 1022) + leading n                    the bits of the double      (position?_ofNat)

So a larger integer has a double that is no smaller, and different ones up to 2^53 have different doubles.  For
negative integers the sign is set:

    position? (ofInt n) = some (placeOf n)                                                        (position?_ofInt)
    m ≤ n → placeOf m ≤ placeOf n                                                                 (placeOf_mono)
    placeOf m = placeOf n ↔ ofInt m = ofInt n                                                     (placeOf_eq_iff)
    m, n between -2^53 and 2^53 → ofInt m = ofInt n → m = n                                       (ofInt_inj)

The conversion itself shifts a mantissa to the wanted exponent, with one bit for what comes next and one for all
that is behind it, rounds, and shifts once more where that has carried (`round_normal`).
-/

namespace DocQuery.Double

open Float.Model Float.Model.UnpackedFloat

/-! ## Rounding off bits -/

/-- `m / 2^k`, rounded to the nearest integer, and to the even one of two. -/
def rounded (m k : Nat) : Nat :=
  if 2 * (m % 2 ^ k) < 2 ^ k ∨ 2 * (m % 2 ^ k) = 2 ^ k ∧ m / 2 ^ k % 2 = 0 then m / 2 ^ k else m / 2 ^ k + 1

theorem rounded_bounds (m k : Nat) : m / 2 ^ k ≤ rounded m k ∧ rounded m k ≤ m / 2 ^ k + 1 := by
  rw [rounded]
  split <;> omega

theorem rounded_mono {m n : Nat} (h : m ≤ n) (k : Nat) : rounded m k ≤ rounded n k := by
  have hdiv : m / 2 ^ k ≤ n / 2 ^ k := Nat.div_le_div_right h
  obtain hlt | heq := Nat.lt_or_eq_of_le hdiv
  · calc rounded m k ≤ m / 2 ^ k + 1 := (rounded_bounds m k).2
      _ ≤ n / 2 ^ k := hlt
      _ ≤ rounded n k := (rounded_bounds n k).1
  · -- The quotients are the same, so the remainders are in the order of the numbers.
    have hm := Nat.mod_add_div m (2 ^ k)
    have hn := Nat.mod_add_div n (2 ^ k)
    rw [heq] at hm
    rw [rounded, rounded, heq]
    split <;> split <;> omega

theorem rounded_zero (m : Nat) : rounded m 0 = m := by
  rw [rounded]
  simp [Nat.mod_one]

/-- Zeros at the end can be taken off first. -/
theorem rounded_mul_pow (m j k : Nat) : rounded (m * 2 ^ j) (k + j) = rounded m k := by
  have hpos : 0 < 2 ^ j := Nat.two_pow_pos j
  rw [rounded, rounded, Nat.pow_add, Nat.mul_div_mul_right _ _ hpos, Nat.mul_mod_mul_right, ← Nat.mul_assoc]
  simp only [Nat.mul_lt_mul_right hpos, Nat.mul_left_inj hpos.ne']

theorem rounded_of_zeros (m : Nat) {j k : Nat} (h : k ≤ j) : rounded (m * 2 ^ j) k = m * 2 ^ (j - k) := by
  have hsplit : m * 2 ^ j = m * 2 ^ (j - k) * 2 ^ k := by rw [Nat.mul_assoc, ← Nat.pow_add, Nat.sub_add_cancel h]
  have hzeros := rounded_mul_pow (m * 2 ^ (j - k)) k 0
  rw [Nat.zero_add, rounded_zero] at hzeros
  rw [hsplit, hzeros]

theorem log2_mul_two_pow {n : Nat} (hn : n ≠ 0) (k : Nat) : (n * 2 ^ k).log2 = n.log2 + k := by
  obtain ⟨hle, hlt⟩ := (Nat.log2_eq_iff hn).1 rfl
  have hpos := Nat.two_pow_pos k
  refine (Nat.log2_eq_iff (by positivity)).2 ⟨?_, ?_⟩
  · rw [Nat.pow_add]
    exact Nat.mul_le_mul_right _ hle
  · rw [show n.log2 + k + 1 = n.log2 + 1 + k by omega, Nat.pow_add]
    exact Nat.mul_lt_mul_of_pos_right hlt hpos

/-- The quotient that leaves 53 bits of a number. -/
theorem div_two_pow_bounds {m k : Nat} (hm : m.log2 = 52 + k) : 2 ^ 52 ≤ m / 2 ^ k ∧ m / 2 ^ k < 2 ^ 53 := by
  have hne : m ≠ 0 := by
    rintro rfl
    rw [Nat.log2_zero] at hm
    omega
  obtain ⟨hle, hlt⟩ := (Nat.log2_eq_iff hne).1 hm
  rw [Nat.le_div_iff_mul_le (Nat.two_pow_pos k), Nat.div_lt_iff_lt_mul (Nat.two_pow_pos k), ← Nat.pow_add,
    ← Nat.pow_add, show 53 + k = 52 + k + 1 by omega]
  exact ⟨hle, hlt⟩

/-! ## Normal doubles -/

/-- `m * 2^e` is a normal double: a mantissa of 53 bits, and an exponent within the bounds. -/
structure Normal (m : Nat) (e : Int) : Prop where
  log2 : m.log2 = 52
  lower : -1074 ≤ e
  upper : e ≤ 971

/-- The 63 bits below the sign of a normal double. -/
def body (m : Nat) (e : Int) : Nat := (e + 1074).toNat * 2 ^ 52 + m

/-- A sign in its place. -/
def signBit : Sign → Nat
  | .negative => 2 ^ 63
  | .positive => 0

theorem packComponents_toNat (s : Sign) (a : BitVec 11) (b : BitVec 52) :
    (packComponents .binary64 s a b).toNat = signBit s + a.toNat * 2 ^ 52 + b.toNat := by
  show (s.toBitVec ++ a ++ b).toNat = _
  rw [BitVec.toNat_append, BitVec.toNat_append, ← Nat.shiftLeft_add_eq_or_of_lt b.isLt,
    ← Nat.shiftLeft_add_eq_or_of_lt a.isLt, Nat.shiftLeft_eq, Nat.shiftLeft_eq, Nat.add_mul]
  cases s <;> rfl

theorem unpackSign_packComponents (s : Sign) (a : BitVec 11) (b : BitVec 52) :
    @unpackSign .binary64 (packComponents .binary64 s a b) = s.toBitVec := by
  have ha := a.isLt
  have hb := b.isLt
  apply BitVec.eq_of_toNat_eq
  rw [unpackSign, BitVec.toNat_cast, BitVec.extractLsb_toNat, packComponents_toNat, Nat.shiftRight_eq_div_pow]
  cases s with
  | negative =>
    show (2 ^ 63 + a.toNat * 2 ^ 52 + b.toNat) / 2 ^ 63 % 2 = 1
    omega
  | positive =>
    show (0 + a.toNat * 2 ^ 52 + b.toNat) / 2 ^ 63 % 2 = 0
    omega

/-- A sign in front of what is no NaN. -/
theorem position?_of_toBits {x : Float} {s : Sign} {p : Nat} (hx : x.toBits.toNat = signBit s + p)
    (hp : p ≤ infinityMagnitude) : position? x = some (s.apply p) := by
  have hlt : p < 2 ^ 63 := Nat.lt_of_le_of_lt hp (by decide)
  have hmagnitude : magnitude x = p := by
    rw [magnitude, hx]
    cases s with
    | negative => exact (Nat.add_mod_left (2 ^ 63) p).trans (Nat.mod_eq_of_lt hlt)
    | positive => rw [signBit, Nat.zero_add]; exact Nat.mod_eq_of_lt hlt
  have hnan : isNaN x = false := by
    rw [isNaN, hmagnitude]
    exact decide_eq_false (Nat.not_lt.2 hp)
  have hnegative : isNegative x = (s == .negative) := by
    rw [isNegative, hx]
    cases s with
    | negative => exact decide_eq_true (Nat.le_add_right _ p)
    | positive => exact decide_eq_false (by rw [signBit, Nat.zero_add]; exact Nat.not_le.2 hlt)
  rw [position?, hnan, hnegative, hmagnitude]
  cases s <;> rfl

namespace Normal

variable {m n : Nat} {e f : Int}

theorem bounds (h : Normal m e) : 2 ^ 52 ≤ m ∧ m < 2 ^ 53 := by
  simpa using div_two_pow_bounds (k := 0) h.log2

theorem pos (h : Normal m e) : 0 < m := Nat.lt_of_lt_of_le (by decide) h.bounds.1

/-- The double of a sign, a mantissa and an exponent. -/
def toFloat (h : Normal m e) (s : Sign) : Float := .ofModel (.pack (.finite s m e h.pos))

theorem body_inj (hm : Normal m e) (hn : Normal n f) (h : body m e = body n f) : m = n ∧ e = f := by
  have hmb := hm.bounds
  have hnb := hn.bounds
  have hml := hm.lower
  have hnl := hn.lower
  rw [body, body] at h
  omega

theorem pack_eq (h : Normal m e) (s : Sign) : UnpackedFloat.pack .binary64 (.finite s m e h.pos) =
    packComponents .binary64 s (BitVec.ofNat 11 ((e + 1074).toNat + 1)) (BitVec.ofNat 52 m) := by
  have hlog := h.log2
  have hlower := h.lower
  have hupper := h.upper
  have hbias : (e + 1023 + 52).toNat = (e + 1074).toNat + 1 := by omega
  show (if 2 ^ 11 ≤ (e + 1023 + 52).toNat + 1 then _ else if m.log2 + 1 = 53 then _ else _) = _
  rw [if_neg (by omega), if_pos (by omega), ← hbias]
  rfl

theorem toBits_toFloat (h : Normal m e) (s : Sign) : (h.toFloat s).toBits.toNat = signBit s + body m e := by
  have hbounds := h.bounds
  have hupper := h.upper
  show (UnpackedFloat.pack .binary64 (.finite s m e h.pos)).toNat = _
  rw [h.pack_eq, packComponents_toNat, BitVec.toNat_ofNat, BitVec.toNat_ofNat, body]
  omega

theorem unpack_pack (h : Normal m e) (s : Sign) :
    (Float.Model.pack (.finite s m e h.pos)).unpack = .finite s m e h.pos := by
  have hbounds := h.bounds
  have hlower := h.lower
  have hupper := h.upper
  have hexponent : (BitVec.ofNat 11 ((e + 1074).toNat + 1)).toNat = (e + 1074).toNat + 1 := by
    rw [BitVec.toNat_ofNat]
    omega
  show UnpackedFloat.unpack .binary64 (UnpackedFloat.pack .binary64 (.finite s m e h.pos)) = _
  rw [h.pack_eq, UnpackedFloat.unpack]
  simp only [unpackExponent_packComponents, unpackMantissa_packComponents, unpackSign_packComponents]
  -- neither infinite, nor zero or subnormal
  rw [if_neg, if_neg]
  · rw [UnpackedFloat.finite.injEq]
    refine ⟨by cases s <;> rfl, ?_, ?_⟩
    · have hlow := (BitVec.ofNat 52 m).isLt
      rw [BitVec.toNat_append, ← Nat.shiftLeft_add_eq_or_of_lt hlow, BitVec.toNat_ofNat]
      show 2 ^ 52 + m % 2 ^ 52 = m
      omega
    · rw [hexponent]
      show (((e + 1074).toNat + 1 : Nat) : Int) - (1023 + 52) = e
      omega
  · intro hzero
    have h0 : (e + 1074).toNat + 1 = 0 := hexponent.symm.trans (congrArg BitVec.toNat hzero)
    omega
  · intro hones
    have h1 : (e + 1074).toNat + 1 = 2047 := hexponent.symm.trans (congrArg BitVec.toNat hones)
    omega

theorem neg_toFloat (h : Normal m e) : Float.neg (h.toFloat .positive) = h.toFloat .negative := by
  show Float.ofModel (.pack (Float.Model.pack (.finite .positive m e h.pos)).unpack.neg) = _
  rw [h.unpack_pack]
  rfl

theorem position?_toFloat (h : Normal m e) (s : Sign) : position? (h.toFloat s) = some (s.apply (body m e)) := by
  refine position?_of_toBits (h.toBits_toFloat s) ?_
  have hbounds := h.bounds
  have hupper := h.upper
  show body m e ≤ 2047 * 2 ^ 52
  rw [body]
  omega

end Normal

/-! ## Rounding a mantissa -/

/-- A shifted mantissa, the first bit behind it, and whether there is another one. -/
theorem shiftRight_succ (m k : Nat) : (⟨m, false, false⟩ : ExtendedMantissa) >>> (k + 1) =
    ⟨m / 2 ^ (k + 1), m / 2 ^ k % 2 != 0, m % 2 ^ k != 0⟩ := by
  induction k with
  | zero =>
    show ExtendedMantissa.shiftRightOne ⟨m, false, false⟩ = _
    simp [ExtendedMantissa.shiftRightOne, Nat.mod_one]
  | succ k ih =>
    show ExtendedMantissa.shiftRightOne ((⟨m, false, false⟩ : ExtendedMantissa) >>> (k + 1)) = _
    rw [ih, ExtendedMantissa.shiftRightOne]
    congr 1
    · show m / 2 ^ (k + 1) / 2 = m / 2 ^ (k + 1 + 1)
      rw [Nat.div_div_eq_div_mul, ← Nat.pow_succ]
    · show (m / 2 ^ k % 2 != 0 || m % 2 ^ k != 0) = (m % 2 ^ (k + 1) != 0)
      have hmod := Nat.mod_pow_succ (x := m) (b := 2) (k := k)
      have hpos : 0 < 2 ^ k := Nat.two_pow_pos k
      rw [Bool.eq_iff_iff]
      simp only [Bool.or_eq_true, bne_iff_ne, hmod]
      obtain hbit | hbit := Nat.mod_two_eq_zero_or_one (m / 2 ^ k) <;> rw [hbit] <;> omega

theorem roundedMantissa_shiftRight (m k : Nat) :
    ((⟨m, false, false⟩ : ExtendedMantissa) >>> k).roundedMantissa = rounded m k := by
  cases k with
  | zero => exact (rounded_zero m).symm
  | succ k =>
    have hlt : m % 2 ^ k < 2 ^ k := Nat.mod_lt m (Nat.two_pow_pos k)
    have hpow : 2 ^ (k + 1) = 2 * 2 ^ k := Nat.pow_succ'
    rw [shiftRight_succ, rounded, Nat.mod_pow_succ, hpow]
    obtain hbit | hbit := Nat.mod_two_eq_zero_or_one (m / 2 ^ k)
    · -- the first bit is clear: less than a half
      rw [if_pos (.inl (by rw [hbit]; omega)), hbit]
      cases m % 2 ^ k <;> rfl
    · by_cases hrest : m % 2 ^ k = 0
      · -- exactly a half
        rw [hbit, hrest]
        show m / (2 * 2 ^ k) + m / (2 * 2 ^ k) % 2 = _
        split <;> omega
      · -- more than a half
        rw [if_neg (by rw [hbit]; omega), hbit]
        obtain ⟨r, hr⟩ := Nat.exists_eq_succ_of_ne_zero hrest
        rw [hr]
        rfl

theorem shiftToTargetExponent_eq {m k : Nat} {e : Int} (hm : m.log2 = 52 + k) (he : -1074 ≤ e + k) :
    shiftToTargetExponent .binary64 m e .exact = ((⟨m, false, false⟩ : ExtendedMantissa) >>> k, e + k) := by
  have htarget : Format.binary64.targetExponent (totalExponent m e) = e + k := by
    show max ((m.log2 : Int) + 1 + e - 53) (-1074) = e + k
    omega
  have hshift : (e + (k : Int) - e).toNat = k := by omega
  rw [shiftToTargetExponent, htarget, shiftToExponent, hshift]
  rfl

/-- Rounding shifts, rounds, and shifts again. -/
theorem roundWithAccuracy_eq {s : Sign} {m : Nat} {e e₁ e₂ : Int} {first second : ExtendedMantissa}
    (hfirst : shiftToTargetExponent .binary64 m e .exact = (first, e₁))
    (hsecond : shiftToTargetExponent .binary64 first.roundedMantissa e₁ .exact = (second, e₂))
    (hpos : 0 < second.mantissa) :
    roundWithAccuracy .binary64 s m e .exact = .finite s second.mantissa e₂ hpos := by
  rw [roundWithAccuracy]
  simp only [hfirst, hsecond]
  rw [dif_neg hpos.ne']

/-- A mantissa of 53 bits or more is rounded to a normal double. -/
theorem round_normal (s : Sign) {m k : Nat} {e : Int} (hm : m.log2 = 52 + k) (hlo : -1074 ≤ e + k)
    (hhi : e + k ≤ 970) :
    ∃ m' e', ∃ h : Normal m' e', roundWithAccuracy .binary64 s m e .exact = .finite s m' e' h.pos ∧
      body m' e' = body (rounded m k) (e + k) := by
  have hbounds := rounded_bounds m k
  have hquot := div_two_pow_bounds hm
  have hfirst := shiftToTargetExponent_eq hm hlo
  obtain hlt | heq : rounded m k < 2 ^ 53 ∨ rounded m k = 2 ^ 53 := by omega
  · have hlog : (rounded m k).log2 = 52 := (Nat.log2_eq_iff (by omega)).2 ⟨by omega, hlt⟩
    have hnormal : Normal (rounded m k) (e + k) := ⟨hlog, hlo, by omega⟩
    have hsecond : shiftToTargetExponent .binary64 ((⟨m, false, false⟩ : ExtendedMantissa) >>> k).roundedMantissa
        (e + k) .exact = (⟨rounded m k, false, false⟩, e + k) := by
      rw [roundedMantissa_shiftRight, shiftToTargetExponent_eq (k := 0) hlog (by omega)]
      exact congrArg _ (Int.add_zero _)
    exact ⟨_, _, hnormal, roundWithAccuracy_eq hfirst hsecond hnormal.pos, rfl⟩
  · -- the mantissa has got a bit too many, and it is a power of two
    have hnormal : Normal (2 ^ 52) (e + k + 1) := ⟨Nat.log2_two_pow, by omega, by omega⟩
    have hsecond : shiftToTargetExponent .binary64 ((⟨m, false, false⟩ : ExtendedMantissa) >>> k).roundedMantissa
        (e + k) .exact = (⟨2 ^ 52, false, false⟩, e + k + 1) := by
      rw [roundedMantissa_shiftRight, heq]
      exact shiftToTargetExponent_eq (k := 1) Nat.log2_two_pow (by omega)
    refine ⟨_, _, hnormal, roundWithAccuracy_eq hfirst hsecond hnormal.pos, ?_⟩
    rw [body, body, heq]
    omega

/-! ## Positive integers -/

/-- The 53 leading bits of a number. -/
def leading (n : Nat) : Nat := rounded (n * 2 ^ 52) n.log2

/-- The bits of the double of a number. -/
def place (n : Nat) : Nat := if n = 0 then 0 else body (leading n) (n.log2 - 52)

theorem leading_bounds {n : Nat} (hn : n ≠ 0) : 2 ^ 52 ≤ leading n ∧ leading n ≤ 2 ^ 53 := by
  have hlog : (n * 2 ^ 52).log2 = 52 + n.log2 := by rw [log2_mul_two_pow hn, Nat.add_comm]
  have hquot := div_two_pow_bounds hlog
  have hbounds := rounded_bounds (n * 2 ^ 52) n.log2
  rw [leading]
  omega

theorem leading_of_lt {n : Nat} (hn : n.log2 ≤ 52) : leading n = n * 2 ^ (52 - n.log2) := rounded_of_zeros n hn

/-- A number of at most 53 bits becomes a double as it is. -/
theorem ofUInt64_of_lt {n : Nat} (hn : n ≠ 0) (hlt : n < 2 ^ 53) :
    ∃ h : Normal (leading n) (n.log2 - 52), n.toUInt64.toFloat = h.toFloat .positive := by
  have hlog : n.log2 < 53 := (Nat.log2_lt hn).2 hlt
  have hleading := leading_of_lt (Nat.lt_succ_iff.1 hlog)
  have hnormal : Normal (leading n) (n.log2 - 52) := by
    refine ⟨?_, by omega, by omega⟩
    rw [hleading, log2_mul_two_pow hn]
    omega
  have hto : n.toUInt64.toNat = n := Nat.mod_eq_of_lt (by omega)
  have hgt : compare (n : Int) 0 = .gt := by
    rw [compare_gt_iff_gt]
    omega
  have htarget : Format.binary64.targetExponent (totalExponent n 0) = n.log2 - 52 := by
    show max ((n.log2 : Int) + 1 + 0 - 53) (-1074) = _
    omega
  have hdecrease : decreaseExponent n 0 (n.log2 - 52) = (leading n, (n.log2 : Int) - 52) := by
    have hshift : (0 - ((n.log2 : Int) - 52)).toNat = 52 - n.log2 := by omega
    rw [decreaseExponent, hshift, Nat.shiftLeft_eq, hleading]
    congr 1
    omega
  obtain ⟨m, e, h, hround, hbody⟩ :=
    round_normal .positive (k := 0) hnormal.log2 (e := (n.log2 : Int) - 52) (by omega) (by omega)
  obtain ⟨rfl, rfl⟩ : m = leading n ∧ e = n.log2 - 52 := by
    refine h.body_inj hnormal ?_
    rw [hbody, rounded_zero]
    exact congrArg _ (Int.add_zero _)
  refine ⟨hnormal, ?_⟩
  show Float.ofModel (.pack (UnpackedFloat.normalize .binary64 (n.toUInt64.toNat : Int) 0 .positive)) = _
  rw [hto, UnpackedFloat.normalize, hgt]
  show Float.ofModel (.pack (UnpackedFloat.round .binary64 .positive n 0)) = _
  rw [UnpackedFloat.round, htarget, hdecrease]
  show Float.ofModel (.pack (roundWithAccuracy .binary64 .positive (leading n) (n.log2 - 52) .exact)) = _
  rw [hround]
  rfl

/-- The conversion rounds the number with 52 zeros or more behind it. -/
theorem ofNat_eq_round {n : Nat} (hn : n ≠ 0) : ∃ j : Nat, Float.ofNat n =
    .ofModel (.pack (roundWithAccuracy .binary64 .positive (n * 2 ^ 52 * 2 ^ j) (-52 - (j : Int)) .exact)) := by
  by_cases hlt : n < 2 ^ 53
  · -- a double, which is multiplied by one
    have hlog : n.log2 < 53 := (Nat.log2_lt hn).2 hlt
    obtain ⟨h, hinteger⟩ := ofUInt64_of_lt hn hlt
    have hone : (Float.ofBits 0x3FF0000000000000).toModel.unpack = .finite .positive (2 ^ 52) (-52) (by decide) := rfl
    refine ⟨52 - n.log2, ?_⟩
    show Float.ofScientific n false 0 = _
    rw [Float.ofScientific, dif_pos ⟨hlt, by decide⟩]
    show n.toUInt64.toFloat * Float.ofBits 0x3FF0000000000000 = _
    rw [hinteger]
    show Float.ofModel (.pack (UnpackedFloat.mul .binary64 (Float.Model.pack (.finite .positive _ _ h.pos)).unpack
      (Float.ofBits 0x3FF0000000000000).toModel.unpack)) = _
    rw [h.unpack_pack, hone]
    show Float.ofModel (.pack (roundWithAccuracy .binary64 .positive (leading n * 2 ^ 52) (n.log2 - 52 + -52)
      .exact)) = _
    have hexponent : ((n.log2 : Int) - 52 + -52) = -52 - ((52 - n.log2 : Nat) : Int) := by omega
    rw [leading_of_lt (Nat.lt_succ_iff.1 hlog), hexponent, Nat.mul_right_comm]
  · -- written with 53 more bits, and multiplied by one
    have hexponent : ¬ (0 : Int) < -(2 ^ 11 + (n.log2 : Int)) := by omega
    have hzeros : n * 2 ^ 52 * 2 ^ 1 = n <<< 53 * 1 := by
      rw [Nat.shiftLeft_eq]
      omega
    refine ⟨1, ?_⟩
    show Float.ofScientific n false 0 = _
    rw [Float.ofScientific, dif_neg (by omega)]
    show Float.ofModel (.pack (UnpackedFloat.ofScientific .binary64 n 0)) = _
    rw [UnpackedFloat.ofScientific, dif_neg hn, if_neg (by decide), if_neg hexponent, if_pos (by decide), hzeros]
    rfl

theorem ofNat_normal {n : Nat} (hn : n ≠ 0) (hbound : n < 2 ^ 64) :
    ∃ m e, ∃ h : Normal m e, Float.ofNat n = h.toFloat .positive ∧ body m e = place n := by
  have hlog : n.log2 < 64 := (Nat.log2_lt hn).2 hbound
  obtain ⟨j, hj⟩ := ofNat_eq_round hn
  have hwide : (n * 2 ^ 52 * 2 ^ j).log2 = 52 + (n.log2 + j) := by
    rw [Nat.mul_assoc, ← Nat.pow_add, log2_mul_two_pow hn]
    omega
  obtain ⟨m, e, h, hround, hbody⟩ := round_normal .positive hwide (e := -52 - (j : Int)) (by omega) (by omega)
  refine ⟨m, e, h, by rw [hj, hround]; rfl, ?_⟩
  have hexponent : (-52 - (j : Int) + ((n.log2 + j : Nat) : Int)) = n.log2 - 52 := by omega
  rw [hbody, rounded_mul_pow, hexponent, place, if_neg hn, leading]

theorem log2_mono {m n : Nat} (h : m ≤ n) (hm : m ≠ 0) : m.log2 ≤ n.log2 := by
  rw [Nat.le_log2 (by omega)]
  exact Nat.le_trans (Nat.log2_self_le hm) h

theorem place_mono {m n : Nat} (h : m ≤ n) : place m ≤ place n := by
  by_cases hm : m = 0
  · rw [place, if_pos hm]
    exact Nat.zero_le _
  · have hn : n ≠ 0 := by omega
    have hmb := leading_bounds hm
    have hnb := leading_bounds hn
    rw [place, place, if_neg hm, if_neg hn, body, body]
    obtain hlt | heq := Nat.lt_or_eq_of_le (log2_mono h hm)
    · -- at most the power of two that comes next
      omega
    · have hleading : leading m ≤ leading n := by
        rw [leading, leading, heq]
        exact rounded_mono (Nat.mul_le_mul_right _ h) _
      rw [heq]
      omega

theorem place_lt {m n : Nat} (h : m < n) (hn : n ≤ 2 ^ 53) : place m < place n := by
  have hn0 : n ≠ 0 := by omega
  have hnb := leading_bounds hn0
  by_cases hm : m = 0
  · rw [place, place, if_pos hm, if_neg hn0, body]
    omega
  · have hlog : m.log2 < 53 := (Nat.log2_lt hm).2 (by omega)
    have hmb := (ofUInt64_of_lt hm (by omega)).1.bounds
    rw [place, place, if_neg hm, if_neg hn0, body, body]
    obtain hlt | heq := Nat.lt_or_eq_of_le (log2_mono h.le hm)
    · omega
    · have hleading : leading m < leading n := by
        rw [leading_of_lt (by omega), leading_of_lt (by omega), heq]
        exact Nat.mul_lt_mul_of_pos_right h (Nat.two_pow_pos _)
      rw [heq]
      omega

theorem place_pos {n : Nat} (hn : n ≠ 0) : 0 < place n := by
  have hbounds := leading_bounds hn
  rw [place, if_neg hn, body]
  omega

theorem position?_ofNat {n : Nat} (h : n < 2 ^ 64) : position? (Float.ofNat n) = some (place n : Int) := by
  by_cases hn : n = 0
  · subst hn
    decide
  · obtain ⟨m, e, hnormal, hfloat, hbody⟩ := ofNat_normal hn h
    rw [hfloat, hnormal.position?_toFloat, hbody]
    rfl

theorem ofNat_congr {m n : Nat} (hm : m < 2 ^ 64) (hn : n < 2 ^ 64) (h : place m = place n) :
    Float.ofNat m = Float.ofNat n := by
  by_cases hm0 : m = 0
  · subst hm0
    by_cases hn0 : n = 0
    · rw [hn0]
    · exact absurd h (place_pos hn0).ne
  · by_cases hn0 : n = 0
    · subst hn0
      exact absurd h (place_pos hm0).ne'
    · obtain ⟨a, e, ha, hma, hmbody⟩ := ofNat_normal hm0 hm
      obtain ⟨b, f, hb, hnb, hnbody⟩ := ofNat_normal hn0 hn
      obtain ⟨rfl, rfl⟩ := ha.body_inj hb (by rw [hmbody, hnbody, h])
      rw [hma, hnb]

/-! ## Integers -/

/-- The position of the double of an integer. -/
def placeOf (n : Int) : Int := if n < 0 then -(place n.natAbs) else place n.natAbs

theorem placeOf_negSucc (n : Nat) : placeOf (Int.negSucc n) = -(place (n + 1)) := if_pos (Int.negSucc_lt_zero n)

theorem position?_ofInt {n : Int} (h : n.natAbs < 2 ^ 64) : position? (Float.ofInt n) = some (placeOf n) := by
  cases n with
  | ofNat n => exact position?_ofNat h
  | negSucc n =>
    obtain ⟨m, e, hnormal, hfloat, hbody⟩ := ofNat_normal (Nat.succ_ne_zero n) h
    show position? (Float.neg (Float.ofNat (n + 1))) = _
    rw [hfloat, hnormal.neg_toFloat, hnormal.position?_toFloat, hbody, placeOf_negSucc]
    rfl

theorem placeOf_mono {m n : Int} (h : m ≤ n) : placeOf m ≤ placeOf n := by
  rw [placeOf, placeOf]
  split <;> split
  · have hplace := place_mono (m := n.natAbs) (n := m.natAbs) (by omega)
    omega
  · omega
  · omega
  · have hplace := place_mono (m := m.natAbs) (n := n.natAbs) (by omega)
    omega

theorem placeOf_lt {m n : Int} (h : m < n) (hm : -(2 ^ 53) ≤ m) (hn : n ≤ 2 ^ 53) : placeOf m < placeOf n := by
  rw [placeOf, placeOf]
  split <;> split
  · have hplace := place_lt (m := n.natAbs) (n := m.natAbs) (by omega) (by omega)
    omega
  · have hpos := place_pos (n := m.natAbs) (by omega)
    omega
  · omega
  · have hplace := place_lt (m := m.natAbs) (n := n.natAbs) (by omega) (by omega)
    omega

/-- Integers at one position have one double. -/
theorem ofInt_congr {m n : Int} (hm : m.natAbs < 2 ^ 64) (hn : n.natAbs < 2 ^ 64) (h : placeOf m = placeOf n) :
    Float.ofInt m = Float.ofInt n := by
  cases m with
  | ofNat m =>
    cases n with
    | ofNat n => exact ofNat_congr hm hn (Int.ofNat_inj.1 h)
    | negSucc n =>
      have hpos : 0 < place (n + 1) := place_pos (Nat.succ_ne_zero n)
      have hsigns : (place m : Int) = _ := h.trans (placeOf_negSucc n)
      omega
  | negSucc m =>
    cases n with
    | ofNat n =>
      have hpos : 0 < place (m + 1) := place_pos (Nat.succ_ne_zero m)
      have hsigns : _ = (place n : Int) := (placeOf_negSucc m).symm.trans h
      omega
    | negSucc n =>
      rw [placeOf_negSucc, placeOf_negSucc, Int.neg_inj] at h
      exact congrArg Float.neg (ofNat_congr hm hn (Int.ofNat_inj.1 h))

theorem placeOf_eq_iff {m n : Int} (hm : m.natAbs < 2 ^ 64) (hn : n.natAbs < 2 ^ 64) :
    placeOf m = placeOf n ↔ Float.ofInt m = Float.ofInt n := by
  refine ⟨ofInt_congr hm hn, fun h => ?_⟩
  have hp := position?_ofInt hm
  rw [h, position?_ofInt hn] at hp
  exact (Option.some.inj hp).symm

/-- Integers from -2^53 to 2^53 keep apart. -/
theorem ofInt_inj {m n : Int} (hm : m.natAbs ≤ 2 ^ 53) (hn : n.natAbs ≤ 2 ^ 53) (h : Float.ofInt m = Float.ofInt n) :
    m = n := by
  have hplace := (placeOf_eq_iff (by omega) (by omega)).2 h
  obtain hlt | heq | hgt := Int.lt_trichotomy m n
  · exact absurd hplace (placeOf_lt hlt (by omega) (by omega)).ne
  · exact heq
  · exact absurd hplace (placeOf_lt hgt (by omega) (by omega)).ne'

end DocQuery.Double
