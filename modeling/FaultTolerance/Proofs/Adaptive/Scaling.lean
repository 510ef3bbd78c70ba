import FaultTolerance.Adaptive.Basic
import FaultTolerance.Proofs.Single.Packing
import Mathlib.Data.Rat.Floor

/-! A limit times a factor, worked out in single precision and rounded up.

The limit is rounded to single precision, the product with the factor is rounded once more
(`Scales`), and the result is rounded up (`scaled_eq`). A factor below one never leads above the
limit and never to nothing. By rounding up it leaves small limits alone: if a limit falls the next
one falls too, so what stays are the limits up to a greatest one, the factor's `resting` limit
(**`scaled_eq_self_iff`**), and no limit falls below that one (`resting_le_scaled`). A factor of one
or more lowers a limit only if it is one and the limit is rounded down to begin with
(`of_scaled_lt`). -/
namespace FaultTolerance.Adaptive
open Float.Model Float.Model.UnpackedFloat
open Single

/-! ### Rounding up -/

theorem ceiling_finite {m : Nat} {e : Int} (hm : 0 < m) :
    ceiling (.finite .positive m e hm) = min ⌈(m : ℚ) * 2 ^ e⌉₊ lastTick := by
  unfold ceiling
  dsimp only
  refine congrArg (min · lastTick) (eq_of_forall_ge_iff fun n => ?_)
  rw [Nat.shiftLeft_eq, Nat.shiftLeft_eq, Nat.one_mul]
  obtain ⟨unit, hunit⟩ : ∃ unit, 2 ^ (-e).toNat = unit := ⟨_, rfl⟩
  have hpos : 0 < unit := hunit ▸ Nat.two_pow_pos _
  have hvalue : (m : ℚ) * 2 ^ e = (m * 2 ^ e.toNat : Nat) / unit := by
    have hplaces : (2 : ℚ) ^ e = 2 ^ e.toNat / 2 ^ (-e).toNat := by
      rw [← zpow_natCast, ← zpow_natCast, ← zpow_sub₀ two_ne_zero]
      congr 1
      omega
    rw [hplaces, ← hunit]
    push_cast
    ring
  rw [hunit, Nat.ceil_le, hvalue, div_le_iff₀ (by exact_mod_cast hpos), ← Nat.lt_succ_iff,
    Nat.div_lt_iff_lt_mul hpos]
  norm_cast
  rw [Nat.succ_mul]
  omega

theorem ceiling_pack {u : UnpackedFloat} {y : ℚ} (h : Shows u y) :
    ceiling (Float32.Model.pack u).unpack = min ⌈y⌉₊ lastTick := by
  cases h with
  | zero =>
    rw [Nat.ceil_zero]
    rfl
  | @finite m e h =>
    by_cases he : e ≤ 104
    · rw [unpack_pack h he, ceiling_finite]
    · have hgreat : lastTick ≤ ⌈(m : ℚ) * 2 ^ e⌉₊ := by
        have habove := (h.rounds.of_higher (k := 2 ^ 23) (by decide) (show 41 < e by omega)
          (by decide)).1
        have hvalue : (((2 : Nat) ^ 23 : Nat) : ℚ) * 2 ^ (41 : Int) = ((2 : Nat) ^ 64 : Nat) := by
          norm_num
        rw [hvalue] at habove
        exact le_trans (by decide) (Nat.cast_le.mp (habove.trans (Nat.le_ceil _)))
      rw [unpack_pack_of_lt h.pos (by omega), Nat.min_eq_right hgreat]
      rfl

/-! ### Limits in single precision -/

theorem limit_shows {limit : Nat} (hpos : 0 < limit) (hlast : limit ≤ lastTick) :
    ∃ m e, ∃ hfits : Fits m e,
      (UInt64.ofNat limit).toFloat32.toModel.unpack = .finite .positive m e hfits.pos ∧
      2 ^ 23 ≤ m ∧ RoundsTo limit (m * 2 ^ e) := by
  obtain ⟨y, hrounds, hshows⟩ := ofNat_shows hpos
  have hlow : ((2 ^ 23 : Nat) : ℚ) * 2 ^ (-23 : Int) ≤ y :=
    hrounds.le_of_le (Nat.le_refl _) (by decide) (by decide) (by norm_num; exact hpos)
  have hhigh : y ≤ ((2 ^ 23 : Nat) : ℚ) * 2 ^ (41 : Int) := by
    refine hrounds.le_of_lt_middle (Nat.le_refl _) (by decide) (by decide) ?_
    have hword : (limit : ℚ) < (2 ^ 64 : Nat) := by
      exact_mod_cast Nat.lt_of_le_of_lt hlast (by decide)
    norm_num at hword ⊢
    linarith
  have hword : (UInt64.ofNat limit).toNat = limit :=
    UInt64.toNat_ofNat_of_lt (Nat.lt_of_le_of_lt hlast (by decide))
  have hunpack : (UInt64.ofNat limit).toFloat32.toModel.unpack =
      (Float32.Model.pack (UnpackedFloat.ofNat .binary32 limit)).unpack := by
    show (Float32.Model.pack (UnpackedFloat.ofNat .binary32 (UInt64.ofNat limit).toNat)).unpack = _
    rw [hword]
  rw [hunpack]
  generalize UnpackedFloat.ofNat .binary32 limit = u at hshows
  cases hshows with
  | zero => exact absurd hlow (by norm_num)
  | @finite m e h =>
    have hleast : -23 ≤ e := by
      by_contra hlt
      exact absurd (h.rounds.of_lower (show e < -23 by omega) (Nat.le_refl (2 ^ 23))).1
        (not_lt.mpr hlow)
    have hmost : e ≤ 41 := by
      by_contra hgt
      have habove := (h.rounds.of_higher (k := 2 ^ 23 + 1) (j := 41) (by decide) (by omega)
        (by decide)).1
      exact absurd (habove.trans hhigh) (by norm_num)
    exact ⟨m, e, h, unpack_pack h (by omega), h.normal.resolve_right (by omega), hrounds⟩

/-- `y` is a limit times `v`, as it is worked out: the limit is rounded, and so is the product. -/
def Scales (limit : Nat) (v y : ℚ) : Prop := ∃ z, RoundsTo limit z ∧ RoundsTo (z * v) y

/-- **A scaled limit is a product that is rounded up.** -/
theorem scaled_eq {limit : Nat} {factor : Float32} {m : Nat} {e : Int} {hm : 0 < m}
    (hfactor : factor.toModel.unpack = .finite .positive m e hm)
    (hpos : 0 < limit) (hlast : limit ≤ lastTick) :
    ∃ y, Scales limit (m * 2 ^ e) y ∧ scaled limit factor = min ⌈y⌉₊ lastTick := by
  obtain ⟨n, g, hfits, hunpack, hlow, hrounds⟩ := limit_shows hpos hlast
  have hlog : 23 ≤ (n * m).log2 :=
    (Nat.le_log2 (Nat.ne_of_gt (Nat.mul_pos hfits.pos hm))).mpr
      (Nat.le_trans hlow (Nat.le_mul_of_pos_right n hm))
  obtain ⟨y, hy, hshows⟩ := roundWithAccuracy_shows (Nat.mul_pos hfits.pos hm)
    (show g + e ≤ lastPlace (n * m) (g + e) by unfold lastPlace; omega)
  refine ⟨y, ⟨_, hrounds, ?_⟩, ?_⟩
  · have hproduct : (n * 2 ^ g : ℚ) * (m * 2 ^ e) = (n * m : Nat) * 2 ^ (g + e) := by
      rw [zpow_add₀ two_ne_zero]
      push_cast
      ring
    rwa [hproduct]
  · show ceiling (Float32.Model.pack (UnpackedFloat.mul .binary32
      (UInt64.ofNat limit).toFloat32.toModel.unpack factor.toModel.unpack)).unpack = _
    rw [hunpack, hfactor]
    exact ceiling_pack hshows

theorem scaled_infinity {limit : Nat} {factor : Float32}
    (hfactor : factor.toModel.unpack = .infinity .positive)
    (hpos : 0 < limit) (hlast : limit ≤ lastTick) : scaled limit factor = lastTick := by
  obtain ⟨n, g, hfits, hunpack, -⟩ := limit_shows hpos hlast
  show ceiling (Float32.Model.pack (UnpackedFloat.mul .binary32
    (UInt64.ofNat limit).toFloat32.toModel.unpack factor.toModel.unpack)).unpack = _
  have hpacked : (Float32.Model.pack (.infinity .positive)).unpack = .infinity .positive := rfl
  rw [hunpack, hfactor]
  show ceiling (Float32.Model.pack (.infinity .positive)).unpack = _
  rw [hpacked]
  rfl

/-! ### Products -/

namespace Scales
variable {limit n : Nat} {v y w : ℚ}

theorem pos (h : Scales limit v y) (hpos : 0 < limit) (hv : 2 ^ (-149 : Int) ≤ v) : 0 < y := by
  obtain ⟨z, hz, hy⟩ := h
  have hone : 1 ≤ z := by
    have hlow := hz.le_of_le (k := 2 ^ 23) (j := -23) (Nat.le_refl _) (by decide) (by decide)
      (by norm_num; exact hpos)
    norm_num at hlow
    exact hlow
  have hleast : (0 : ℚ) ≤ 2 ^ (-149 : Int) := (two_zpow_pos _).le
  exact hy.pos (hv.trans (le_mul_of_one_le_left (hleast.trans hv) hone))

/-- **A factor below one leads below the limit.** The product is at most a number below it, which is
a whole one for a limit that uses all places. -/
theorem le_before (h : Scales limit v y) (hpos : 0 < limit) (hv : v ≤ 1 - 2 ^ (-24 : Int)) :
    ∃ (k : Nat) (j : Int), y ≤ k * 2 ^ j ∧ (k : ℚ) * 2 ^ j < limit ∧ (2 ^ 24 ≤ limit → 0 ≤ j) := by
  obtain ⟨-, ⟨r, t, hz, rfl⟩, hy⟩ := h
  obtain ⟨ht, hlow, hgreat⟩ := hz.of_whole hpos
  have hunit := two_zpow_pos t
  have hnear := (abs_le.mp hz.near).2
  have hfull := hz.le.resolve_left (by omega)
  obtain ⟨k, j, hle, hj, hbefore⟩ := hy.le_before hlow hz.mantissa_le_top (by omega) hv
  refine ⟨k, j, hle, ?_, fun h => by have := hgreat h; omega⟩
  rcases hbefore with ⟨-, hbefore⟩ | hbefore <;> rw [hbefore] <;> linarith

/-- If a factor below one lowers a limit, it makes no more than that limit of the next one. -/
theorem le_of_fallen (h : Scales (n + 1) v y) (h' : Scales (n + 2) v w) (hpos : 0 < n)
    (hlt : n + 2 < 2 ^ 24) (hv : v < 1) (hy : y ≤ n) : w ≤ n + 1 := by
  obtain ⟨z, hz, hfallen⟩ := h
  obtain ⟨z', hz', hnext⟩ := h'
  obtain rfl := hz.eq_whole (by omega) (by omega)
  obtain rfl := hz'.eq_whole (by omega) hlt
  obtain ⟨k, hk, hj, hplaces⟩ := places_of_lt hpos (by omega)
  obtain ⟨k', hk', hj', hplaces'⟩ := places_of_lt (show 0 < n + 1 by omega) (by omega)
  have hlog : n.log2 ≤ (n + 1).log2 :=
    (Nat.le_log2 (Nat.succ_ne_zero n)).mpr
      (Nat.le_trans (Nat.log2_self_le (Nat.ne_of_gt hpos)) (Nat.le_succ n))
  have hplace : (2 : ℚ) ^ ((n.log2 : Int) - 23) ≤ 2 ^ (((n + 1).log2 : Int) - 23) :=
    zpow_le_zpow_right₀ one_le_two (by omega)
  have hunit := two_zpow_pos ((n.log2 : Int) - 23)
  -- The product has been rounded down to `n`, and the next one is less than one more. The gaps
  -- above `n + 1` are no smaller than those above `n`, so it is rounded down as well.
  have hmiddle : ((n + 1 : Nat) : ℚ) * v ≤ (k + 1 / 2) * 2 ^ ((n.log2 : Int) - 23) := by
    by_contra hgt
    have hnext := hfallen.next_le_of_middle_lt hk.1 hk.2 (by omega) (not_le.mp hgt)
    linarith
  have hlower := hnext.le_of_lt_middle hk'.1 hk'.2 (j := ((n + 1).log2 : Int) - 23) (by omega)
    (by push_cast at hmiddle hplaces' ⊢; linarith)
  rw [← hplaces'] at hlower
  exact_mod_cast hlower

/-- If a factor leaves a limit alone, it makes no less than that limit of the ones above it. -/
theorem lt_of_kept (h : Scales (n + 1) v y) (h' : Scales limit v w) (hlt : n + 1 < 2 ^ 24)
    (habove : n + 1 < limit) (hv : 2 ^ (-149 : Int) ≤ v) (hy : n < y) : n < w := by
  rcases Nat.eq_zero_or_pos n with rfl | hpos
  · rw [Nat.cast_zero]
    exact h'.pos (by omega) hv
  obtain ⟨z, hz, hkept⟩ := h
  obtain ⟨z', hz', hproduct⟩ := h'
  obtain rfl := hz.eq_whole (by omega) hlt
  obtain ⟨k, hk, hj, hplaces⟩ := places_of_lt hpos (by omega)
  obtain ⟨k', hk', hj', hplaces'⟩ := places_of_lt (show 0 < n + 1 by omega) hlt
  have hunit := two_zpow_pos ((n.log2 : Int) - 23)
  have hunit' := two_zpow_pos (((n + 1).log2 : Int) - 23)
  have hwhole : (2 : ℚ) ^ (((n + 1).log2 : Int) - 23) ≤ 2 ^ (0 : Int) :=
    zpow_le_zpow_right₀ one_le_two hj'.2
  have habove : ((n + 1 : Nat) : ℚ) + 1 ≤ limit := by exact_mod_cast habove
  -- Both ways to round a product that lies in the middle are open, so it takes a greater product to
  -- be led above `n` for certain. A limit above `n + 1` has one, as it is not rounded to `n + 1`.
  have hmiddle : (k + 1 / 2) * 2 ^ ((n.log2 : Int) - 23) ≤ ((n + 1 : Nat) : ℚ) * v := by
    by_contra hlt
    have hle := hkept.le_of_lt_middle hk.1 hk.2 (by omega) (not_le.mp hlt)
    linarith
  have hgreater : ((n + 1 : Nat) : ℚ) < z' := by
    rw [zpow_zero] at hwhole
    have hnext := hz'.next_le_of_middle_lt hk'.1 hk'.2 (j := ((n + 1).log2 : Int) - 23) (by omega)
      (by linarith)
    linarith
  have hfactor : 0 < v := (two_zpow_pos _).trans_le hv
  have hnext := hproduct.next_le_of_middle_lt hk.1 hk.2 (by omega)
    (hmiddle.trans_lt (mul_lt_mul_of_pos_right hgreater hfactor))
  linarith

theorem le_one_of_two (h : Scales 2 v y) (hv : v ≤ 1 / 2) : y ≤ 1 := by
  obtain ⟨z, hz, hy⟩ := h
  obtain rfl := hz.eq_whole (by decide) (by decide)
  have hle := hy.le_of_lt_middle (k := 2 ^ 23) (j := -23) (Nat.le_refl _) (by decide) (by decide)
    (by norm_num; linarith)
  norm_num at hle
  exact hle

theorem one_lt_of_two (h : Scales 2 v y) (hv : (2 ^ 23 + 1) * 2 ^ (-24 : Int) ≤ v) : 1 < y := by
  obtain ⟨z, hz, hy⟩ := h
  obtain rfl := hz.eq_whole (by decide) (by decide)
  have hle := hy.le_of_le (k := 2 ^ 23 + 1) (j := -23) (by decide) (by decide) (by decide)
    (by norm_num at hv ⊢; linarith)
  norm_num at hle
  linarith

/-- A factor of one or more does not lower what the limit is rounded to. -/
theorem le_of_one_le {z : ℚ} (hz : RoundsTo limit z) (hy : RoundsTo (z * v) y) (hpos : 0 < limit)
    (hv : 1 ≤ v) : z ≤ y := by
  obtain ⟨r, t, hz, rfl⟩ := hz
  obtain ⟨ht, hlow, -⟩ := hz.of_whole hpos
  exact hy.le_of_le hlow hz.mantissa_le_top (by omega)
    (le_mul_of_one_le_right (by positivity) hv)

/-- A factor of one or more does not lower a limit that uses no more than all places. -/
theorem le_of_few (h : Scales limit v y) (hpos : 0 < limit) (hfew : limit ≤ 2 ^ 24) (hv : 1 ≤ v) :
    limit ≤ y := by
  obtain ⟨z, hz, hy⟩ := h
  have hexact : (limit : ℚ) ≤ z := by
    rcases Nat.lt_or_eq_of_le hfew with hlt | rfl
    · exact (hz.eq_whole hpos hlt).ge
    · have hle := hz.le_of_le (k := 2 ^ 23) (j := 1) (Nat.le_refl _) (by decide) (by decide)
        (by norm_num)
      norm_num at hle ⊢
      exact hle
  exact hexact.trans (le_of_one_le hz hy hpos hv)

/-- A factor above one makes up for what the limit loses in single precision. -/
theorem le_of_grown (h : Scales limit v y) (hpos : 0 < limit) (hv : 1 + 2 ^ (-23 : Int) ≤ v) :
    limit ≤ y := by
  obtain ⟨z, hrounds, hy⟩ := h
  obtain ⟨r, t, hz, rfl⟩ := hrounds
  obtain ⟨ht, hlow, -⟩ := hz.of_whole hpos
  by_cases hexact : (limit : ℚ) ≤ r * 2 ^ t
  · have hone : 1 ≤ v := le_trans (by norm_num) hv
    exact hexact.trans (le_of_one_le ⟨r, t, hz, rfl⟩ hy hpos hone)
  · have hunit := two_zpow_pos t
    have hnear := (abs_le.mp hz.near).1
    have htop : r < 2 ^ 24 := by
      have hlt := lt_of_mul_lt_mul_right ((not_le.mp hexact).trans hz.lt) hunit.le
      exact_mod_cast hlt
    have hfull : 2 ^ 23 * (2 : ℚ) ^ t ≤ r * 2 ^ t :=
      mul_le_mul_of_nonneg_right (by exact_mod_cast hlow) hunit.le
    have hgrown : (r : ℚ) * 2 ^ t * (1 + 2 ^ (-23 : Int)) ≤ r * 2 ^ t * v :=
      mul_le_mul_of_nonneg_left hv (by positivity)
    have hnext := hy.le_of_le (k := r + 1) (j := t) (by omega) htop (by omega)
      (by norm_num at hgrown hfull ⊢; linarith)
    push_cast at hnext
    linarith

end Scales

/-! ### Factors below one -/

/-- The greatest limit that a factor below one leaves alone. -/
def resting (factor : Float32) : Nat :=
  Nat.findGreatest (fun limit => scaled limit factor = limit) (2 ^ 24)

section Shrinking
variable {factor : Float32} {limit n : Nat}

theorem shows_of_lt_one (hfactor : 0.0 < factor) (hone : factor < 1.0) :
    ∃ m e, ∃ h : Fits m e, factor.toModel.unpack = .finite .positive m e h.pos ∧
      2 ^ (-149 : Int) ≤ (m : ℚ) * 2 ^ e ∧ (m : ℚ) * 2 ^ e ≤ 1 - 2 ^ (-24 : Int) := by
  rcases shows_of_pos hfactor with hinfinite | ⟨m, e, h, hunpack⟩
  · have hlt : (UnpackedFloat.infinity .positive).lt
        (.finite .positive (2 ^ 23) (-23) (by decide)) = true :=
      hinfinite ▸ of_decide_eq_true hone
    cases hlt
  · have hshows : Shows factor.toModel.unpack (m * 2 ^ e) := hunpack ▸ .finite h
    have hlt := (hshows.lt_iff one_shows).mp hone
    have hleast : (2 : ℚ) ^ (-149 : Int) ≤ 2 ^ e := zpow_le_zpow_right₀ one_le_two h.least
    have hm : (1 : ℚ) ≤ m := by exact_mod_cast h.pos
    refine ⟨m, e, h, hunpack, hleast.trans (le_mul_of_one_le_left (two_zpow_pos e).le hm), ?_⟩
    by_contra hgt
    have hnext := h.next_le (k := 2 ^ 24 - 1) (j := -24) (by decide) (by decide) (by decide)
      (by norm_num at hgt ⊢; linarith)
    norm_num at hnext
    linarith

/-- What a factor below one makes of a limit. -/
theorem shrunk (hfactor : 0.0 < factor) (hone : factor < 1.0) :
    ∃ v : ℚ, (2 ^ (-149 : Int) ≤ v ∧ v ≤ 1 - 2 ^ (-24 : Int)) ∧
      (factor ≤ 0.5 ∧ v ≤ 1 / 2 ∨ ¬ factor ≤ 0.5 ∧ (2 ^ 23 + 1) * 2 ^ (-24 : Int) ≤ v) ∧
      ∀ {limit}, 0 < limit → limit ≤ lastTick →
        ∃ y, Scales limit v y ∧ scaled limit factor = min ⌈y⌉₊ lastTick := by
  obtain ⟨m, e, h, hunpack, hbounds⟩ := shows_of_lt_one hfactor hone
  have hshows : Shows factor.toModel.unpack (m * 2 ^ e) := hunpack ▸ .finite h
  refine ⟨_, hbounds, ?_, fun hpos hlast => scaled_eq hunpack hpos hlast⟩
  rw [hshows.le_iff half_shows]
  rcases le_or_gt ((m : ℚ) * 2 ^ e) (1 / 2) with hle | hgt
  · exact .inl ⟨hle, hle⟩
  · have hnext := h.next_le (k := 2 ^ 23) (j := -24) (Nat.le_refl _) (by decide) (by decide)
      (by norm_num at hgt ⊢; linarith)
    exact .inr ⟨not_le.mpr hgt, by exact_mod_cast hnext⟩

theorem scaled_le (hfactor : 0.0 < factor) (hone : factor < 1.0) (hpos : 0 < limit)
    (hlast : limit ≤ lastTick) : scaled limit factor ≤ limit := by
  obtain ⟨v, ⟨-, hv⟩, -, hscaled⟩ := shrunk hfactor hone
  obtain ⟨y, hscales, heq⟩ := hscaled hpos hlast
  obtain ⟨k, j, hle, hlt, -⟩ := hscales.le_before hpos hv
  rw [heq]
  exact Nat.le_trans (Nat.min_le_left ..) (Nat.ceil_le.mpr (hle.trans hlt.le))

/-- A limit that uses all places always falls. -/
theorem scaled_lt_of_great (hfactor : 0.0 < factor) (hone : factor < 1.0)
    (hgreat : 2 ^ 24 ≤ limit) (hlast : limit ≤ lastTick) : scaled limit factor < limit := by
  have hpos : 0 < limit := Nat.lt_of_lt_of_le (by decide) hgreat
  obtain ⟨v, ⟨-, hv⟩, -, hscaled⟩ := shrunk hfactor hone
  obtain ⟨y, hscales, heq⟩ := hscaled hpos hlast
  obtain ⟨k, j, hle, hlt, hplace⟩ := hscales.le_before hpos hv
  obtain ⟨i, rfl⟩ := Int.eq_ofNat_of_zero_le (hplace hgreat)
  have hwhole : (k : ℚ) * 2 ^ (i : Int) = (k * 2 ^ i : Nat) := by
    rw [zpow_natCast]
    push_cast
    rfl
  rw [hwhole] at hle hlt
  rw [heq]
  exact Nat.lt_of_le_of_lt (Nat.le_trans (Nat.min_le_left ..) (Nat.ceil_le.mpr hle))
    (Nat.cast_lt.mp hlt)

theorem scaled_pos (hfactor : 0.0 < factor) (hone : factor < 1.0) (hpos : 0 < limit)
    (hlast : limit ≤ lastTick) : 0 < scaled limit factor := by
  obtain ⟨v, ⟨hv, -⟩, -, hscaled⟩ := shrunk hfactor hone
  obtain ⟨y, hscales, heq⟩ := hscaled hpos hlast
  rw [heq]
  exact Nat.lt_min.mpr ⟨Nat.ceil_pos.mpr (hscales.pos hpos hv), by decide⟩

theorem scaled_one (hfactor : 0.0 < factor) (hone : factor < 1.0) : scaled 1 factor = 1 :=
  Nat.le_antisymm (scaled_le hfactor hone (by decide) (by decide))
    (scaled_pos hfactor hone (by decide) (by decide))

theorem scaled_two_iff (hfactor : 0.0 < factor) (hone : factor < 1.0) :
    scaled 2 factor = 2 ↔ ¬ factor ≤ 0.5 := by
  obtain ⟨v, -, hhalf, hscaled⟩ := shrunk hfactor hone
  obtain ⟨y, hscales, heq⟩ := hscaled Nat.two_pos (by decide)
  have hword : 2 ≤ lastTick := by decide
  rcases hhalf with ⟨hle, hv⟩ | ⟨hgt, hv⟩
  · have hceil : ⌈y⌉₊ ≤ 1 := Nat.ceil_le.mpr (by exact_mod_cast hscales.le_one_of_two hv)
    exact iff_of_false (by omega) (not_not.mpr hle)
  · have hceil : 1 < ⌈y⌉₊ := Nat.lt_ceil.mpr (by exact_mod_cast hscales.one_lt_of_two hv)
    have hle := scaled_le hfactor hone Nat.two_pos (by decide)
    exact iff_of_true (by omega) hgt

/-- If a limit falls, the next one does. -/
theorem scaled_fallen (hfactor : 0.0 < factor) (hone : factor < 1.0) (hpos : 0 < n)
    (hfew : n + 2 < 2 ^ 24) (hfallen : scaled (n + 1) factor < n + 1) :
    scaled (n + 2) factor < n + 2 := by
  have hword : 2 ^ 24 ≤ lastTick := by decide
  obtain ⟨v, ⟨-, hv⟩, -, hscaled⟩ := shrunk hfactor hone
  obtain ⟨y, hscales, heq⟩ := hscaled (show 0 < n + 1 by omega) (by omega)
  obtain ⟨w, hnext, heq'⟩ := hscaled (show 0 < n + 2 by omega) (by omega)
  have hy : y ≤ n := Nat.ceil_le.mp (by omega)
  have hlt : v < 1 := hv.trans_lt (sub_lt_self _ (two_zpow_pos _))
  have hw : ⌈w⌉₊ ≤ n + 1 :=
    Nat.ceil_le.mpr (by exact_mod_cast hscales.le_of_fallen hnext hpos hfew hlt hy)
  omega

/-- If a limit stays, nothing above it falls below it. -/
theorem le_scaled_of_kept (hfactor : 0.0 < factor) (hone : factor < 1.0) (hpos : 0 < n)
    (hfew : n < 2 ^ 24) (hkept : scaled n factor = n) (hle : n ≤ limit)
    (hlast : limit ≤ lastTick) : n ≤ scaled limit factor := by
  rcases Nat.eq_or_lt_of_le hle with rfl | habove
  · exact hkept.ge
  obtain ⟨n, rfl⟩ := Nat.exists_eq_add_one.mpr hpos
  have hword : 2 ^ 24 ≤ lastTick := by decide
  obtain ⟨v, ⟨hv, -⟩, -, hscaled⟩ := shrunk hfactor hone
  obtain ⟨y, hscales, heq⟩ := hscaled hpos (by omega)
  obtain ⟨w, hproduct, heq'⟩ := hscaled (show 0 < limit by omega) hlast
  have hy : (n : ℚ) < y := Nat.lt_ceil.mp (by omega)
  have hw : n < ⌈w⌉₊ := Nat.lt_ceil.mpr (hscales.lt_of_kept hproduct hfew habove hv hy)
  omega

theorem resting_spec (hfactor : 0.0 < factor) (hone : factor < 1.0) :
    scaled (resting factor) factor = resting factor :=
  Nat.findGreatest_spec (P := fun limit => scaled limit factor = limit) (by decide)
    (scaled_one hfactor hone)

theorem resting_pos (hfactor : 0.0 < factor) (hone : factor < 1.0) : 0 < resting factor :=
  Nat.le_findGreatest (P := fun limit => scaled limit factor = limit) (by decide)
    (scaled_one hfactor hone)

theorem resting_lt (hfactor : 0.0 < factor) (hone : factor < 1.0) :
    resting factor < 2 ^ 24 := by
  refine Nat.lt_of_le_of_ne (Nat.findGreatest_le _) fun heq => ?_
  have hkept := resting_spec hfactor hone
  rw [heq] at hkept
  exact Nat.lt_irrefl _ (hkept ▸ scaled_lt_of_great hfactor hone (Nat.le_refl _) (by decide))

/-- **A factor below one leaves alone the limits up to the resting one, and no other.** -/
theorem scaled_eq_self_iff (hfactor : 0.0 < factor) (hone : factor < 1.0) (hpos : 0 < limit)
    (hlast : limit ≤ lastTick) : scaled limit factor = limit ↔ limit ≤ resting factor := by
  constructor
  · intro hkept
    refine Nat.le_findGreatest (P := fun limit => scaled limit factor = limit) ?_ hkept
    by_contra hgreat
    have hlt := scaled_lt_of_great hfactor hone (Nat.le_of_not_le hgreat) hlast
    omega
  · intro hle
    by_contra hne
    have hfallen : scaled limit factor < limit :=
      Nat.lt_of_le_of_ne (scaled_le hfactor hone hpos hlast) hne
    have htwo : 2 ≤ limit := by
      by_contra hlt
      obtain rfl : limit = 1 := by omega
      exact hne (scaled_one hfactor hone)
    -- From a limit that falls all the limits above it fall, the resting one too.
    have hall : ∀ n, limit ≤ n → n < 2 ^ 24 → scaled n factor < n := by
      intro n hn
      induction n, hn using Nat.le_induction with
      | base => exact fun _ => hfallen
      | succ n hn ih =>
        intro hfew
        obtain ⟨n, rfl⟩ := Nat.exists_eq_add_one.mpr (show 0 < n by omega)
        exact scaled_fallen hfactor hone (by omega) hfew (ih (by omega))
    have hlt := hall _ hle (resting_lt hfactor hone)
    have hkept := resting_spec hfactor hone
    omega

theorem resting_le_scaled (hfactor : 0.0 < factor) (hone : factor < 1.0)
    (hle : resting factor ≤ limit) (hlast : limit ≤ lastTick) :
    resting factor ≤ scaled limit factor :=
  le_scaled_of_kept hfactor hone (resting_pos hfactor hone) (resting_lt hfactor hone)
    (resting_spec hfactor hone) hle hlast

/-- Only one is left alone exactly if the factor is a half at most. -/
theorem resting_eq_one_iff (hfactor : 0.0 < factor) (hone : factor < 1.0) :
    resting factor = 1 ↔ factor ≤ 0.5 := by
  have hpos := resting_pos hfactor hone
  have htwo := scaled_eq_self_iff hfactor hone Nat.two_pos (by decide)
  have hhalf := (scaled_two_iff hfactor hone).symm.trans htwo
  rw [← not_iff_not, hhalf]
  omega

end Shrinking

/-! ### Factors of one and more -/

/-- A limit that a factor of one or more lowers is one that single precision does not have, and the
factor is one. -/
theorem of_scaled_lt {factor : Float32} {limit : Nat} (hfactor : 1.0 ≤ factor) (hpos : 0 < limit)
    (hlast : limit ≤ lastTick) (hlt : scaled limit factor < limit) :
    factor ≤ 1.0 ∧ 2 ^ 24 < limit := by
  rcases shows_of_pos (pos_of_one_le hfactor) with hinfinite | ⟨m, e, h, hunpack⟩
  · rw [scaled_infinity hinfinite hpos hlast] at hlt
    omega
  · have hshows : Shows factor.toModel.unpack (m * 2 ^ e) := hunpack ▸ .finite h
    have hone := (one_shows.le_iff hshows).mp hfactor
    obtain ⟨y, hscales, heq⟩ := scaled_eq hunpack hpos hlast
    have hlower : ¬ (limit : ℚ) ≤ y := fun hle => by
      have hceil : limit ≤ ⌈y⌉₊ := Nat.cast_le.mp (hle.trans (Nat.le_ceil y))
      omega
    refine ⟨?_, ?_⟩
    · rw [hshows.le_iff one_shows]
      by_contra hgt
      have hnext := h.next_le (k := 2 ^ 23) (j := -23) (Nat.le_refl _) (by decide) (by decide)
        (by norm_num at hgt ⊢; linarith)
      refine hlower (hscales.le_of_grown hpos ?_)
      norm_num at hnext ⊢
      linarith
    · by_contra hfew
      exact hlower (hscales.le_of_few hpos (Nat.le_of_not_lt hfew) hone)

end FaultTolerance.Adaptive
