import Mathlib.Algebra.Order.Field.Power
import Mathlib.Algebra.Order.Field.Rat
import Mathlib.Tactic.FieldSimp
import Mathlib.Tactic.Linarith
import Mathlib.Tactic.NormNum
import Mathlib.Tactic.Positivity
import Mathlib.Tactic.Ring

/-! Rounding to single precision.

A positive number of single precision is `m` units in its last place `2 ^ e`: it has 24 places at
most, and no place below `2 ^ -149` (`Fits`). What arithmetic does to an exact result is to shift
places out of it, remembering the first one and whether anything followed, and to take the nearest
number that is left (`Represents`, `Represents.near`). So the result is a number that is nearest to
the exact one (`roundWithAccuracy_shows`, `ofNat_shows`).

Little is needed of that afterwards: whether a number lies above or below the middle between two
neighbours says on which side of them it is rounded (`RoundsTo.le_of_lt_middle`,
`RoundsTo.next_le_of_middle_lt`). Which of two nearest numbers is taken never matters. -/
open Float.Model Float.Model.UnpackedFloat
namespace FaultTolerance.Single

/-! ### Places that are shifted out -/

/-- The mantissa is a number without its fraction, and the two bits tell of the fraction. -/
def Represents (em : ExtendedMantissa) (x : ℚ) : Prop :=
  match em.roundBit, em.stickyBit with
  | false, false => x = em.mantissa
  | false, true => em.mantissa < x ∧ x < em.mantissa + 1 / 2
  | true, false => x = em.mantissa + 1 / 2
  | true, true => em.mantissa + 1 / 2 < x ∧ x < em.mantissa + 1

namespace Represents
variable {em : ExtendedMantissa} {x : ℚ}

theorem exact (m : Nat) : Represents (.ofMantissaAndAccuracy m .exact) m := rfl

theorem shiftRightOne (h : Represents em x) : Represents em.shiftRightOne (x / 2) := by
  obtain ⟨m, r, s⟩ := em
  have hm : (m : ℚ) = 2 * (m / 2 : Nat) + (m % 2 : Nat) := by
    exact_mod_cast (Nat.div_add_mod m 2).symm
  rcases Nat.mod_two_eq_zero_or_one m with hbit | hbit <;> rw [hbit] at hm <;>
    cases r <;> cases s <;>
    simp [Represents, ExtendedMantissa.shiftRightOne, hbit] at h hm ⊢ <;>
    first
    | linarith
    | constructor <;> linarith

theorem shiftRight (h : Represents em x) (k : Nat) : Represents (em >>> k) (x / 2 ^ k) := by
  change Represents (k.repeat ExtendedMantissa.shiftRightOne em) _
  induction k with
  | zero => simpa [Nat.repeat] using h
  | succ k ih =>
    rw [pow_succ, ← div_div]
    exact ih.shiftRightOne

/-- The rounded mantissa is half a unit off at most. -/
theorem near (h : Represents em x) : |(em.roundedMantissa : ℚ) - x| ≤ 1 / 2 := by
  obtain ⟨m, r, s⟩ := em
  rw [abs_le]
  cases r <;> cases s <;> simp only [Represents] at h <;>
    simp only [ExtendedMantissa.roundedMantissa, ExtendedMantissa.accuracy,
      Accuracy.roundToNearestEven]
  · constructor <;> linarith
  · constructor <;> linarith
  · rcases Nat.mod_two_eq_zero_or_one m with hbit | hbit <;> rw [hbit] <;> push_cast <;>
      constructor <;> linarith
  · push_cast
    constructor <;> linarith

end Represents

/-! ### Nearest numbers -/

theorem two_zpow_pos (e : Int) : (0 : ℚ) < 2 ^ e := by positivity

/-- A unit of a higher place is two of a lower one at least. -/
theorem double_le {e j : Int} (h : e < j) : 2 * (2 : ℚ) ^ e ≤ 2 ^ j := by
  have hle : (2 : ℚ) ^ (e + 1) ≤ 2 ^ j := zpow_le_zpow_right₀ one_le_two h
  rwa [zpow_add_one₀ two_ne_zero, mul_comm] at hle

/-- `m * 2 ^ e` is nearest to `x` among the multiples of the last place that `x` is rounded to. -/
structure Rounds (x : ℚ) (m : Nat) (e : Int) : Prop where
  near : |(m : ℚ) * 2 ^ e - x| ≤ 2 ^ e / 2
  lt : x < 2 ^ 24 * 2 ^ e
  least : -149 ≤ e
  le : e = -149 ∨ 2 ^ 23 * 2 ^ e ≤ x

namespace Rounds
variable {x : ℚ} {m k : Nat} {e j : Int}

theorem mantissa_le (h : Rounds x m e) (hx : x < (k + 1 / 2) * 2 ^ e) : m ≤ k := by
  have hnear := (abs_le.mp h.near).2
  have hlt : (m : ℚ) * 2 ^ e < (k + 1) * 2 ^ e := by linarith
  have hlt := lt_of_mul_lt_mul_right hlt (two_zpow_pos e).le
  exact Nat.lt_succ_iff.mp (by exact_mod_cast hlt)

theorem lt_mantissa (h : Rounds x m e) (hx : (k + 1 / 2) * 2 ^ e < x) : k < m := by
  have hnear := (abs_le.mp h.near).1
  have hlt : (k : ℚ) * 2 ^ e < m * 2 ^ e := by linarith
  exact_mod_cast lt_of_mul_lt_mul_right hlt (two_zpow_pos e).le

theorem le_mantissa (h : Rounds x m e) (hx : k * 2 ^ e ≤ x) : k ≤ m := by
  cases k with
  | zero => exact Nat.zero_le m
  | succ k =>
    have hunit := two_zpow_pos e
    push_cast at hx
    exact h.lt_mantissa (by linarith)

theorem mantissa_le_top (h : Rounds x m e) : m ≤ 2 ^ 24 := by
  have hunit := two_zpow_pos e
  have hlt := h.lt
  exact h.mantissa_le (by push_cast; linarith)

theorem le_mantissa_of_normal (h : Rounds x m e) (he : e ≠ -149) : 2 ^ 23 ≤ m :=
  h.le_mantissa (by exact_mod_cast h.le.resolve_left he)

/-- What has a lower last place lies below every number of the place that uses all its digits, and
stays there. -/
theorem of_lower (h : Rounds x m e) (hlt : e < j) (hlow : 2 ^ 23 ≤ k) :
    x < k * 2 ^ j ∧ (m : ℚ) * 2 ^ e ≤ k * 2 ^ j := by
  have hdouble := double_le hlt
  have hbelow := h.lt
  have hm : (m : ℚ) * 2 ^ e ≤ 2 ^ 24 * 2 ^ e :=
    mul_le_mul_of_nonneg_right (by exact_mod_cast h.mantissa_le_top) (two_zpow_pos e).le
  have hk : 2 ^ 23 * (2 : ℚ) ^ j ≤ k * 2 ^ j :=
    mul_le_mul_of_nonneg_right (by exact_mod_cast hlow) (two_zpow_pos j).le
  constructor <;> linarith

/-- What has a higher last place lies above every number of the place, and stays there. -/
theorem of_higher (h : Rounds x m e) (hj : -149 ≤ j) (hlt : j < e) (htop : k ≤ 2 ^ 24) :
    (k : ℚ) * 2 ^ j ≤ x ∧ (k : ℚ) * 2 ^ j ≤ m * 2 ^ e := by
  have hdouble := double_le hlt
  have habove := h.le.resolve_left (by omega)
  have hm : 2 ^ 23 * (2 : ℚ) ^ e ≤ m * 2 ^ e :=
    mul_le_mul_of_nonneg_right
      (by exact_mod_cast h.le_mantissa_of_normal (by omega)) (two_zpow_pos e).le
  have hk : (k : ℚ) * 2 ^ j ≤ 2 ^ 24 * 2 ^ j :=
    mul_le_mul_of_nonneg_right (by exact_mod_cast htop) (two_zpow_pos j).le
  constructor <;> linarith

end Rounds

/-- `y` is a number of single precision that is nearest to `x`. -/
def RoundsTo (x y : ℚ) : Prop := ∃ m e, Rounds x m e ∧ y = m * 2 ^ e

namespace RoundsTo
variable {x y : ℚ} {k : Nat} {j : Int}

/-- What lies below the middle between two neighbours is not rounded above the lower one. -/
theorem le_of_lt_middle (h : RoundsTo x y) (hlow : 2 ^ 23 ≤ k) (htop : k < 2 ^ 24) (hj : -149 ≤ j)
    (hx : x < (k + 1 / 2) * 2 ^ j) : y ≤ k * 2 ^ j := by
  obtain ⟨m, e, h, rfl⟩ := h
  rcases lt_trichotomy e j with hlt | rfl | hgt
  · exact (h.of_lower hlt hlow).2
  · exact mul_le_mul_of_nonneg_right (by exact_mod_cast h.mantissa_le hx) (two_zpow_pos e).le
  · have habove := (h.of_higher hj hgt htop).1
    have hplace := two_zpow_pos j
    push_cast at habove
    linarith

/-- What lies above the middle between two neighbours is rounded to the upper one at least. -/
theorem next_le_of_middle_lt (h : RoundsTo x y) (hlow : 2 ^ 23 ≤ k) (htop : k < 2 ^ 24)
    (hj : -149 ≤ j) (hx : (k + 1 / 2) * 2 ^ j < x) : ((k : ℚ) + 1) * 2 ^ j ≤ y := by
  obtain ⟨m, e, h, rfl⟩ := h
  rcases lt_trichotomy e j with hlt | rfl | hgt
  · have hbelow := (h.of_lower hlt hlow).1
    have hplace := two_zpow_pos j
    linarith
  · exact mul_le_mul_of_nonneg_right (by exact_mod_cast h.lt_mantissa hx) (two_zpow_pos e).le
  · exact_mod_cast (h.of_higher hj hgt htop).2

/-- What lies at a number or above it is not rounded below it. -/
theorem le_of_le (h : RoundsTo x y) (hlow : 2 ^ 23 ≤ k) (htop : k ≤ 2 ^ 24) (hj : -149 ≤ j)
    (hx : k * 2 ^ j ≤ x) : (k : ℚ) * 2 ^ j ≤ y := by
  obtain ⟨m, e, h, rfl⟩ := h
  rcases lt_trichotomy e j with hlt | rfl | hgt
  · exact absurd (h.of_lower hlt hlow).1 (not_lt.mpr hx)
  · exact mul_le_mul_of_nonneg_right (by exact_mod_cast h.le_mantissa hx) (two_zpow_pos e).le
  · exact (h.of_higher hj hgt htop).2

/-- A number of single precision is rounded to itself. -/
theorem eq_self (h : RoundsTo x y) (hlow : 2 ^ 23 ≤ k) (htop : k < 2 ^ 24) (hj : -149 ≤ j)
    (hx : x = k * 2 ^ j) : y = x := by
  have hplace := two_zpow_pos j
  have hle := h.le_of_lt_middle hlow htop hj (by linarith)
  have hge := h.le_of_le hlow (Nat.le_of_lt htop) hj hx.ge
  exact le_antisymm (hx ▸ hle) (hx ▸ hge)

/-- What a factor below one makes of a number is not rounded above the number before it, which has
a lower last place if the number is the least one of its place. -/
theorem le_before {v : ℚ} (h : RoundsTo (k * 2 ^ j * v) y) (hlow : 2 ^ 23 ≤ k) (htop : k ≤ 2 ^ 24)
    (hj : -149 < j) (hv : v ≤ 1 - 2 ^ (-24 : Int)) :
    ∃ (n : Nat) (i : Int), y ≤ n * 2 ^ i ∧ j - 1 ≤ i ∧
      (k = 2 ^ 23 ∧ (n : ℚ) * 2 ^ i = (2 ^ 23 - 1 / 2) * 2 ^ j ∨
        (n : ℚ) * 2 ^ i = (k - 1) * 2 ^ j) := by
  have hunit := two_zpow_pos j
  have hproduct : (k : ℚ) * 2 ^ j * v ≤ k * 2 ^ j * (1 - 2 ^ (-24 : Int)) :=
    mul_le_mul_of_nonneg_left hv (by positivity)
  rcases Nat.eq_or_lt_of_le hlow with rfl | hhigh
  · have hhalf : (2 : ℚ) ^ (j - 1) = 2 ^ j / 2 := zpow_sub_one₀ two_ne_zero j
    have hbefore : ((2 ^ 24 - 1 : Nat) : ℚ) * 2 ^ (j - 1) = (2 ^ 23 - 1 / 2) * 2 ^ j := by
      rw [hhalf]
      norm_num
      ring
    norm_num at hproduct
    refine ⟨2 ^ 24 - 1, j - 1, ?_, le_refl _, .inl ⟨rfl, hbefore⟩⟩
    refine h.le_of_lt_middle (by decide) (by decide) (by omega) ?_
    rw [add_mul, hbefore, hhalf]
    norm_num
    linarith
  · have hbefore : ((k - 1 : Nat) : ℚ) = k - 1 := by
      rw [Nat.cast_sub (by omega), Nat.cast_one]
    have hmore : (2 ^ 23 + 1 : ℚ) * 2 ^ j ≤ k * 2 ^ j :=
      mul_le_mul_of_nonneg_right (by exact_mod_cast hhigh) hunit.le
    norm_num at hproduct hmore
    refine ⟨k - 1, j, ?_, by omega, .inr (by rw [hbefore])⟩
    refine h.le_of_lt_middle (by omega) (by omega) (by omega) ?_
    rw [hbefore]
    linarith

/-- What is no less than the least unit is not rounded to nothing. -/
theorem pos (h : RoundsTo x y) (hx : 2 ^ (-149 : Int) ≤ x) : 0 < y := by
  obtain ⟨m, e, h, rfl⟩ := h
  have hm : 0 < m := by
    by_cases he : e = -149
    · subst he
      exact h.le_mantissa (k := 1) (by simpa using hx)
    · exact Nat.lt_of_lt_of_le (by decide) (h.le_mantissa_of_normal he)
  exact mul_pos (by exact_mod_cast hm) (two_zpow_pos e)

end RoundsTo

/-! ### Numbers -/

/-- `m * 2 ^ e` is a positive number with the places of single precision, however great. -/
structure Fits (m : Nat) (e : Int) : Prop where
  pos : 0 < m
  lt : m < 2 ^ 24
  least : -149 ≤ e
  normal : 2 ^ 23 ≤ m ∨ e = -149

namespace Fits
variable {m k : Nat} {e j : Int}

theorem value_pos (h : Fits m e) : (0 : ℚ) < m * 2 ^ e :=
  mul_pos (by exact_mod_cast h.pos) (two_zpow_pos e)

theorem rounds (h : Fits m e) : Rounds (m * 2 ^ e) m e where
  near := by
    rw [sub_self, abs_zero]
    exact (half_pos (two_zpow_pos e)).le
  lt := mul_lt_mul_of_pos_right (by exact_mod_cast h.lt) (two_zpow_pos e)
  least := h.least
  le := h.normal.symm.imp_right fun hlow =>
    mul_le_mul_of_nonneg_right (by exact_mod_cast hlow) (two_zpow_pos e).le

/-- No number lies between two neighbours. -/
theorem next_le (h : Fits m e) (hlow : 2 ^ 23 ≤ k) (htop : k < 2 ^ 24) (hj : -149 ≤ j)
    (hx : (k : ℚ) * 2 ^ j < m * 2 ^ e) : ((k : ℚ) + 1) * 2 ^ j ≤ m * 2 ^ e := by
  rcases lt_trichotomy e j with hlt | rfl | hgt
  · exact absurd (h.rounds.of_lower hlt hlow).1 (not_lt.mpr hx.le)
  · have hlt := lt_of_mul_lt_mul_right hx (two_zpow_pos e).le
    exact mul_le_mul_of_nonneg_right (by exact_mod_cast hlt) (two_zpow_pos e).le
  · exact_mod_cast (h.rounds.of_higher hj hgt htop).2

end Fits

/-- A number that is not negative, and its value. -/
inductive Shows : UnpackedFloat → ℚ → Prop
  | zero : Shows (.zero .positive) 0
  | finite {m : Nat} {e : Int} (h : Fits m e) : Shows (.finite .positive m e h.pos) (m * 2 ^ e)

/-- The last place that is kept of `m * 2 ^ e`. -/
def lastPlace (m : Nat) (e : Int) : Int := max (m.log2 + e - 23) (-149)

theorem targetExponent_eq (m : Nat) (e : Int) :
    Format.binary32.targetExponent (totalExponent m e) = lastPlace m e := by
  have hbits : ((Format.binary32.mantissaBits : Nat) : Int) = 24 := rfl
  have hleast : Format.binary32.minExponent = -149 := rfl
  unfold Format.targetExponent totalExponent lastPlace
  rw [hbits, hleast]
  omega

section Shifts
variable {m : Nat} {e : Int}

theorem shift_eq (he : e ≤ lastPlace m e) :
    shiftToTargetExponent .binary32 m e .exact =
      (ExtendedMantissa.ofMantissaAndAccuracy m .exact >>> (lastPlace m e - e).toNat,
        lastPlace m e) := by
  unfold shiftToTargetExponent shiftToExponent
  rw [targetExponent_eq]
  refine Prod.ext rfl ?_
  show e + ((lastPlace m e - e).toNat : Int) = lastPlace m e
  omega

/-- A mantissa that fits is not shifted any more. -/
theorem shift_of_lt (hm : m < 2 ^ 24) (he : -149 ≤ e) :
    shiftToTargetExponent .binary32 m e .exact = (⟨m, false, false⟩, e) := by
  have hbits : m.log2 ≤ 23 := by
    rcases Nat.eq_zero_or_pos m with rfl | hpos
    · decide
    · exact Nat.lt_succ_iff.mp ((Nat.log2_lt (Nat.ne_of_gt hpos)).mpr hm)
  have hplace : (lastPlace m e - e).toNat = 0 := by
    unfold lastPlace
    omega
  unfold shiftToTargetExponent shiftToExponent
  rw [targetExponent_eq]
  dsimp only
  rw [hplace]
  exact Prod.ext rfl (Int.add_zero e)

/-- A mantissa that is one place too long is shifted by it. -/
theorem shift_of_top (he : -149 ≤ e) :
    shiftToTargetExponent .binary32 (2 ^ 24) e .exact = (⟨2 ^ 23, false, false⟩, e + 1) := by
  have hplace : lastPlace (2 ^ 24) e = e + 1 := by
    unfold lastPlace
    rw [Nat.log2_two_pow]
    omega
  have hcount : (e + 1 - e).toNat = 1 := by omega
  rw [shift_eq (by omega), hplace, hcount]
  rfl

/-- What is left of a number once all but the places that are kept have been shifted out is nearest
to it. -/
theorem rounds_of_shift (hm : 0 < m) {k : Nat} (hk : e + k = lastPlace m e) :
    Rounds (m * 2 ^ e)
      (ExtendedMantissa.ofMantissaAndAccuracy m .exact >>> k).roundedMantissa (e + k) := by
  set em := ExtendedMantissa.ofMantissaAndAccuracy m .exact >>> k with hem
  have hnear : |(em.roundedMantissa : ℚ) - m / 2 ^ k| ≤ 1 / 2 :=
    ((Represents.exact m).shiftRight k).near
  have hunit := two_zpow_pos e
  have hplaces (n : Nat) : (2 : ℚ) ^ n * 2 ^ e = 2 ^ (n + e) := by
    rw [← zpow_natCast, ← zpow_add₀ two_ne_zero]
  unfold lastPlace at hk
  refine ⟨?_, ?_, by omega, ?_⟩
  · have herror : (em.roundedMantissa : ℚ) * 2 ^ (e + (k : Int)) - m * 2 ^ e =
        (em.roundedMantissa - m / 2 ^ k) * 2 ^ (e + (k : Int)) := by
      rw [zpow_add₀ two_ne_zero, zpow_natCast]
      field_simp
    rw [herror, abs_mul, abs_of_pos (two_zpow_pos _)]
    have hle := mul_le_mul_of_nonneg_right hnear (two_zpow_pos (e + k)).le
    linarith
  · have hlt : (m : ℚ) * 2 ^ e < 2 ^ (m.log2 + 1) * 2 ^ e :=
      mul_lt_mul_of_pos_right (by exact_mod_cast Nat.lt_log2_self) hunit
    refine hlt.trans_le ?_
    rw [hplaces, ← zpow_natCast, ← zpow_add₀ two_ne_zero]
    exact zpow_le_zpow_right₀ one_le_two (by push_cast; omega)
  · refine or_iff_not_imp_left.mpr fun hnormal => ?_
    have hle : 2 ^ m.log2 * (2 : ℚ) ^ e ≤ m * 2 ^ e :=
      mul_le_mul_of_nonneg_right
        (by exact_mod_cast Nat.log2_self_le (Nat.ne_of_gt hm)) hunit.le
    refine le_trans (le_of_eq ?_) hle
    rw [hplaces, ← zpow_natCast, ← zpow_add₀ two_ne_zero]
    exact congrArg _ (by push_cast; omega)

/-- **What arithmetic makes of an exact result is nearest to it.** -/
theorem roundWithAccuracy_shows (hm : 0 < m) (he : e ≤ lastPlace m e) :
    ∃ y, RoundsTo (m * 2 ^ e) y ∧
      Shows (roundWithAccuracy .binary32 .positive m e .exact) y := by
  obtain ⟨k, hk⟩ : ∃ k : Nat, e + k = lastPlace m e := ⟨(lastPlace m e - e).toNat, by omega⟩
  have hcount : (e + (k : Int) - e).toNat = k := by omega
  have hrounds := rounds_of_shift hm hk
  refine ⟨_, ⟨_, _, hrounds, rfl⟩, ?_⟩
  have hleast := hrounds.least
  have hnormal := hrounds.le_mantissa_of_normal
  have hmost := hrounds.mantissa_le_top
  unfold roundWithAccuracy
  rw [shift_eq he, ← hk, hcount]
  dsimp only
  generalize (ExtendedMantissa.ofMantissaAndAccuracy m .exact >>> k).roundedMantissa = r at *
  generalize e + (k : Int) = p at *
  rcases Nat.lt_or_eq_of_le hmost with hfits | rfl
  · rw [shift_of_lt hfits hleast]
    dsimp only
    by_cases hzero : r = 0
    · subst hzero
      rw [dif_pos rfl, Nat.cast_zero, zero_mul]
      exact .zero
    · rw [dif_neg hzero]
      exact .finite ⟨Nat.pos_of_ne_zero hzero, hfits, hleast, by
        by_cases hp : p = -149
        · exact .inr hp
        · exact .inl (hnormal hp)⟩
  · rw [shift_of_top hleast]
    have htop : (((2 : Nat) ^ 24 : Nat) : ℚ) * 2 ^ p = ((2 : Nat) ^ 23 : Nat) * 2 ^ (p + 1) := by
      rw [zpow_add_one₀ two_ne_zero]
      push_cast
      ring
    have hfits : Fits (2 ^ 23) (p + 1) := ⟨by decide, by decide, by omega, .inl (by decide)⟩
    rw [htop]
    exact .finite hfits

end Shifts

/-! ### Whole numbers -/

theorem log2_shiftLeft {n : Nat} (hn : 0 < n) (k : Nat) : (n <<< k).log2 = n.log2 + k := by
  induction k with
  | zero => rfl
  | succ k ih =>
    have hpos : n <<< k ≠ 0 := by
      rw [Nat.shiftLeft_eq]
      positivity
    rw [Nat.shiftLeft_succ, Nat.log2_two_mul hpos, ih, Nat.add_assoc]

theorem shiftLeft_value (n k : Nat) : ((n <<< k : Nat) : ℚ) * 2 ^ (-(k : Int)) = n := by
  rw [Nat.shiftLeft_eq, Nat.cast_mul, Nat.cast_pow, zpow_neg, zpow_natCast, Nat.cast_ofNat]
  field_simp

/-- The places of a whole number that has no more of them than single precision. -/
theorem places_of_lt {n : Nat} (hn : 0 < n) (hlt : n < 2 ^ 24) :
    ∃ k : Nat, (2 ^ 23 ≤ k ∧ k < 2 ^ 24) ∧ (-23 ≤ (n.log2 : Int) - 23 ∧ (n.log2 : Int) - 23 ≤ 0) ∧
      (n : ℚ) = k * 2 ^ ((n.log2 : Int) - 23) := by
  have hbits : n.log2 < 24 := (Nat.log2_lt (Nat.ne_of_gt hn)).mpr hlt
  obtain ⟨i, hi⟩ : ∃ i, n.log2 + i = 23 := ⟨23 - n.log2, by omega⟩
  have hpos : n <<< i ≠ 0 := by
    rw [Nat.shiftLeft_eq]
    positivity
  have hlog : (n <<< i).log2 = 23 := by rw [log2_shiftLeft hn, hi]
  have hexponent : (n.log2 : Int) - 23 = -i := by omega
  refine ⟨n <<< i, (Nat.log2_eq_iff hpos).mp hlog, ⟨by omega, by omega⟩, ?_⟩
  rw [hexponent, shiftLeft_value]

/-- Single precision has all whole numbers with no more places than its own. -/
theorem RoundsTo.eq_whole {n : Nat} {z : ℚ} (h : RoundsTo n z) (hn : 0 < n) (hlt : n < 2 ^ 24) :
    z = n := by
  obtain ⟨k, hk, hj, hplaces⟩ := places_of_lt hn hlt
  exact h.eq_self hk.1 hk.2 (by omega) hplaces

/-- A whole number is rounded with all places, and with no more than it takes. -/
theorem Rounds.of_whole {n m : Nat} {e : Int} (h : Rounds n m e) (hn : 0 < n) :
    -23 ≤ e ∧ 2 ^ 23 ≤ m ∧ (2 ^ 24 ≤ n → 1 ≤ e) := by
  have hone : (1 : ℚ) ≤ n := by exact_mod_cast hn
  have he : -23 ≤ e := by
    by_contra hlt
    have hbelow := (h.of_lower (show e < -23 by omega) (Nat.le_refl (2 ^ 23))).1
    norm_num at hbelow
    linarith
  refine ⟨he, h.le_mantissa_of_normal (by omega), fun hgreat => ?_⟩
  by_contra hle
  have hunit : (2 : ℚ) ^ e ≤ 2 ^ (0 : Int) := zpow_le_zpow_right₀ one_le_two (by omega)
  have hlt := h.lt
  have hgreat : (2 : ℚ) ^ 24 ≤ n := by exact_mod_cast hgreat
  rw [zpow_zero] at hunit
  linarith

/-- A whole number becomes a number that is nearest to it. -/
theorem ofNat_shows {n : Nat} (hn : 0 < n) :
    ∃ y, RoundsTo n y ∧ Shows (UnpackedFloat.ofNat .binary32 n) y := by
  have hround : UnpackedFloat.ofNat .binary32 n = UnpackedFloat.round .binary32 .positive n 0 := by
    unfold UnpackedFloat.ofNat UnpackedFloat.ofInt UnpackedFloat.normalize
    have hcompare : compare (n : Int) 0 = .gt := Int.compare_eq_gt.mpr (by omega)
    rw [hcompare]
    rfl
  rw [hround]
  unfold UnpackedFloat.round decreaseExponent
  rw [targetExponent_eq]
  dsimp only
  obtain ⟨k, hk⟩ : ∃ k, (0 - lastPlace n 0).toNat = k := ⟨_, rfl⟩
  have hlog := log2_shiftLeft hn k
  have hplace : -(k : Int) ≤ lastPlace (n <<< k) (-k) := by
    unfold lastPlace at hk ⊢
    rw [hlog]
    omega
  rw [hk, Int.zero_sub, ← shiftLeft_value n k]
  exact roundWithAccuracy_shows (by rw [Nat.shiftLeft_eq]; positivity) hplace

end FaultTolerance.Single
