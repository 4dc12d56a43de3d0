import Mathlib.Algebra.Group.Nat.Defs
import SqlMapping.Number.Binary

/-! # Floating numbers as they are

A number that is converted to its own format stays what it is: it is rounded at its own scale,
where it is a whole number already. -/

namespace SqlMapping

variable {t : FloatType}

namespace FloatType

theorem fractionBits_lt_width (t : FloatType) : t.fractionBits < t.width := by
  cases t <;> decide

end FloatType

namespace Binary

variable {x : Binary t}

theorem ofMagnitude_magnitude (x : Binary t) : ofMagnitude t x.isNegative x.magnitude = x := by
  obtain ⟨bits⟩ := x
  have hlt : bits.toNat < 2 ^ (t.width - 1) * 2 := by
    have hwidth : t.width = t.width - 1 + 1 := by
      have := t.fractionBits_lt_width
      omega
    rw [← Nat.pow_succ, Nat.succ_eq_add_one, ← hwidth]
    exact bits.isLt
  have hsum : magnitude ⟨bits⟩ + (if isNegative ⟨bits⟩ then 2 ^ (t.width - 1) else 0) =
      bits.toNat := by
    simp only [magnitude, isNegative, Nat.pow_eq, decide_eq_true_eq]
    split
    · rename_i hle
      rw [Nat.mod_eq_sub_mod hle, Nat.mod_eq_of_lt (by omega)]
      omega
    · rename_i hlt
      rw [Nat.mod_eq_of_lt (by omega), Nat.add_zero]
  simp only [ofMagnitude, Nat.pow_eq, hsum, BitVec.ofNat_toNat, BitVec.setWidth_eq]

theorem magnitude_eq (x : Binary t) :
    x.magnitude = 2 ^ t.fractionBits * x.biased + x.fraction :=
  (Nat.div_add_mod _ _).symm

theorem fraction_lt (x : Binary t) : x.fraction < 2 ^ t.fractionBits :=
  Nat.mod_lt _ (Nat.two_pow_pos _)

/-- The pattern of a number, from its scale and its significand. -/
theorem magnitude_eq_significand (x : Binary t) :
    (x.scale - t.leastScale).toNat * 2 ^ t.fractionBits + x.significand = x.magnitude := by
  have hscale : (x.scale - t.leastScale).toNat = x.biased - 1 := by
    rw [scale]
    omega
  rw [hscale, magnitude_eq, significand]
  cases hb : x.biased with
  | zero => simp
  | succ e =>
      simp only [Nat.add_one_sub_one, Nat.succ_ne_zero, if_false, Nat.pow_eq]
      rw [Nat.mul_comm (2 ^ t.fractionBits), Nat.add_one_mul]
      omega

theorem significand_eq_zero_iff : x.significand = 0 ↔ x.magnitude = 0 := by
  have hpos := Nat.two_pow_pos t.fractionBits
  rw [magnitude_eq, significand, Nat.pow_eq]
  cases x.biased with
  | zero => simp
  | succ e =>
      simp only [Nat.succ_ne_zero, if_false]
      have : 0 < 2 ^ t.fractionBits * (e + 1) := Nat.mul_pos hpos (Nat.succ_pos e)
      omega

/-- A multiple of a power of two, divided by this power. -/
theorem divideAt_scale (m : Nat) (s : Int) :
    divideAt (m * 2 ^ s.toNat) (2 ^ (-s).toNat) s = (m, 0, 2 ^ (-s).toNat * 2 ^ s.toNat) := by
  have hpos : 0 < 2 ^ (-s).toNat * 2 ^ s.toNat :=
    Nat.mul_pos (Nat.two_pow_pos _) (Nat.two_pow_pos _)
  have hnum : m * 2 ^ s.toNat * 2 ^ (-s).toNat = m * (2 ^ (-s).toNat * 2 ^ s.toNat) := by
    rw [Nat.mul_assoc, Nat.mul_comm (2 ^ s.toNat)]
  simp only [divideAt, Nat.pow_eq, hnum, Nat.mul_div_cancel _ hpos, Nat.mul_mod_left]

theorem roundAt_scale (m : Nat) (s : Int) :
    roundAt (m * 2 ^ s.toNat) (2 ^ (-s).toNat) s = m := by
  have hpos : 0 < 2 ^ (-s).toNat * 2 ^ s.toNat :=
    Nat.mul_pos (Nat.two_pow_pos _) (Nat.two_pow_pos _)
  rw [roundAt, divideAt_scale]
  exact if_pos hpos

theorem log2_mul_two_pow {m : Nat} (h : m ≠ 0) (k : Nat) : (m * 2 ^ k).log2 = m.log2 + k := by
  have hne : m * 2 ^ k ≠ 0 := Nat.mul_ne_zero h (Nat.ne_of_gt (Nat.two_pow_pos k))
  rw [Nat.log2_eq_iff hne]
  constructor
  · rw [Nat.pow_add]
    exact Nat.mul_le_mul_right _ (Nat.log2_self_le h)
  · rw [Nat.add_right_comm, Nat.pow_add]
    exact Nat.mul_lt_mul_of_pos_right Nat.lt_log2_self (Nat.two_pow_pos k)

/-- The scale of a small number is the least one. -/
theorem scale_of_significand_lt (h : x.significand < 2 ^ t.fractionBits) :
    x.scale = t.leastScale := by
  have hbiased : x.biased = 0 := by
    by_cases hb : x.biased = 0
    · exact hb
    · rw [significand, if_neg hb, Nat.pow_eq] at h
      omega
  simp [scale, hbiased]

/-- The scale of any other number leaves a digit before the point. -/
theorem log2_significand (h : 2 ^ t.fractionBits ≤ x.significand) :
    x.significand.log2 = t.fractionBits := by
  have hlt := x.fraction_lt
  have hpos := Nat.two_pow_pos t.fractionBits
  have htop : x.significand < 2 ^ (t.fractionBits + 1) := by
    rw [Nat.pow_succ, significand, Nat.pow_eq]
    split <;> omega
  exact (Nat.log2_eq_iff (by omega)).mpr ⟨h, htop⟩

theorem ofRatio_scale (h : x.significand ≠ 0) (negative : Bool) :
    ofRatio t negative (x.significand * 2 ^ x.scale.toNat) (2 ^ (-x.scale).toNat) =
      ofMagnitude t negative (min x.magnitude t.infinityBits) := by
  have hne : x.significand * 2 ^ x.scale.toNat ≠ 0 :=
    Nat.mul_ne_zero h (Nat.ne_of_gt (Nat.two_pow_pos _))
  have hleast : t.leastScale ≤ x.scale := by
    rw [scale]
    omega
  have hguess : max t.leastScale (((x.significand * 2 ^ x.scale.toNat).log2 : Int) -
      (2 ^ (-x.scale).toNat).log2 - t.fractionBits) = x.scale := by
    rw [log2_mul_two_pow h, Nat.log2_two_pow]
    by_cases hsmall : x.significand < 2 ^ t.fractionBits
    case pos =>
        have hscale := scale_of_significand_lt hsmall
        have hlog := (Nat.log2_lt h).mpr hsmall
        omega
    case neg =>
        have hlog := log2_significand (Nat.not_lt.mp hsmall)
        omega
  have hstay : ¬ (x.significand < 2 ^ t.fractionBits ∧ t.leastScale < x.scale) := by
    rintro ⟨hsmall, hscale⟩
    exact absurd (scale_of_significand_lt hsmall) (Int.ne_of_gt hscale)
  rw [ofRatio, if_neg hne]
  simp only [hguess, divideAt_scale, roundAt_scale, Nat.pow_eq, if_neg hstay,
    magnitude_eq_significand]

/-- A number is the one of its own format that is nearest to it. -/
theorem convert_self (h : x.isNaN = false) : x.convert t = x := by
  have hle : x.magnitude ≤ t.infinityBits := by
    simpa [isNaN] using h
  rw [convert, if_neg (by simp [h])]
  by_cases hinfinite : x.isInfinite
  case pos =>
      have heq : x.magnitude = t.infinityBits := by simpa [isInfinite] using hinfinite
      rw [if_pos hinfinite, infinity, ← heq, ofMagnitude_magnitude]
  case neg =>
      rw [if_neg hinfinite, Nat.pow_eq, Nat.pow_eq]
      by_cases hzero : x.significand = 0
      case pos =>
          rw [hzero, Nat.zero_mul, ofRatio, if_pos rfl, ← significand_eq_zero_iff.mp hzero,
            ofMagnitude_magnitude]
      case neg => rw [ofRatio_scale hzero, Nat.min_eq_left hle, ofMagnitude_magnitude]

end Binary

end SqlMapping
