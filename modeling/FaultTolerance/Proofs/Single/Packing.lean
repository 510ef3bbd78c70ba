import FaultTolerance.Proofs.Single.Rounding

/-! Numbers of single precision in a word.

A word of 32 bits holds the sign, the exponent and the places after the first one of a number. What
is unpacked of a word has the places of single precision (`fits_of_unpack`), and a number with those
places is unpacked as it was packed (`unpack_pack`) unless its exponent is too great for a word, and
then it is infinite (`unpack_pack_of_lt`). Between words numbers are compared by their values
(`Shows.compare_eq`). -/
open Float.Model Float.Model.UnpackedFloat
namespace FaultTolerance.Single

/-! ### The parts of a word -/

theorem unpackSign_packComponents (s : Sign) (e : BitVec 8) (m : BitVec 23) :
    Sign.ofBitVec (unpackSign (packComponents .binary32 s e m)) = s := by
  unfold unpackSign packComponents BitVec.extractLsb
  rw [BitVec.extractLsb'_append_eq_of_le (by decide),
    BitVec.extractLsb'_append_eq_of_le (by decide)]
  cases s <;> rfl

theorem toNat_implicit (m : BitVec 23) : (1#1 ++ m).toNat = 2 ^ 23 + m.toNat := by
  rw [BitVec.toNat_append, ← Nat.shiftLeft_add_eq_or_of_lt m.isLt]
  rfl

/-- A number that has been unpacked has the places of single precision. -/
theorem fits_of_unpack {x : Float32} {s : Sign} {m : Nat} {e : Int} {hm : 0 < m}
    (hx : x.toModel.unpack = .finite s m e hm) : Fits m e := by
  unfold Float32.Model.unpack UnpackedFloat.unpack at hx
  dsimp only at hx
  generalize x.toModel.toBits.toBitVec = b at hx
  have hbias : ((Format.binary32.exponentBias : Nat) : Int) = 127 := rfl
  have hplaces : ((Format.binary32.mantissaBitsWithoutImplicit : Nat) : Int) = 23 := rfl
  have hlt : (@unpackMantissa .binary32 b).toNat < 2 ^ 23 := BitVec.isLt _
  by_cases hgreatest : @unpackExponent .binary32 b = -1#8
  · rw [if_pos hgreatest] at hx
    by_cases hzero : @unpackMantissa .binary32 b = 0#23
    · rw [if_pos hzero] at hx
      cases hx
    · rw [if_neg hzero] at hx
      cases hx
  rw [if_neg hgreatest] at hx
  by_cases hleast : @unpackExponent .binary32 b = 0#8
  · rw [if_pos hleast] at hx
    by_cases hzero : @unpackMantissa .binary32 b = 0#23
    · rw [dif_pos hzero] at hx
      cases hx
    · rw [dif_neg hzero] at hx
      cases hx
      rw [hleast, hbias, hplaces]
      exact ⟨hm, by omega, by decide, .inr rfl⟩
  · rw [if_neg hleast] at hx
    cases hx
    have hpos : 0 < (@unpackExponent .binary32 b).toNat :=
      Nat.pos_of_ne_zero fun hzero => hleast (BitVec.eq_of_toNat_eq hzero)
    rw [toNat_implicit] at hm ⊢
    rw [hbias, hplaces]
    exact ⟨hm, by omega, by omega, .inl (Nat.le_add_right ..)⟩

/-- The word of a positive number. -/
theorem pack_eq {m : Nat} {e : Int} (hm : 0 < m) :
    UnpackedFloat.pack .binary32 (.finite .positive m e hm) =
      if 256 ≤ (e + 150).toNat + 1 then packedInfinity .binary32 .positive
      else if m.log2 = 23 then
        packComponents .binary32 .positive (BitVec.ofNat 8 (e + 150).toNat) (BitVec.ofNat 23 m)
      else packComponents .binary32 .positive 0#8 (BitVec.ofNat 23 m) := by
  have hbiased : e + ((Format.binary32.exponentBias : Nat) : Int) +
      ((Format.binary32.mantissaBitsWithoutImplicit : Nat) : Int) = e + 150 := by
    show e + 127 + 23 = _
    omega
  have hbits : m.log2 + 1 = Format.binary32.mantissaBits ↔ m.log2 = 23 := Nat.succ_inj
  unfold UnpackedFloat.pack
  dsimp only
  rw [hbiased]
  exact if_congr Iff.rfl rfl (if_congr hbits rfl rfl)

/-- A word whose exponent is neither the least nor the greatest one shows a number that uses all
places. -/
theorem unpack_normal {b : BitVec 32} {m : Nat} {e : Int}
    (hsign : Sign.ofBitVec (@unpackSign .binary32 b) = .positive)
    (hfinite : @unpackExponent .binary32 b ≠ -1#8) (hnormal : @unpackExponent .binary32 b ≠ 0#8)
    (hmantissa : (1#1 ++ @unpackMantissa .binary32 b).toNat = m)
    (hexponent : ((@unpackExponent .binary32 b).toNat : Int) - (127 + 23) = e) (hm : 0 < m) :
    unpack .binary32 b = .finite .positive m e hm := by
  subst hmantissa hexponent
  unfold UnpackedFloat.unpack
  dsimp only
  rw [if_neg hfinite, if_neg hnormal, hsign]
  rfl

/-- A word with the least exponent shows a number that has the least place. -/
theorem unpack_subnormal {b : BitVec 32} {m : Nat}
    (hsign : Sign.ofBitVec (@unpackSign .binary32 b) = .positive)
    (hleast : @unpackExponent .binary32 b = 0#8)
    (hmantissa : (@unpackMantissa .binary32 b).toNat = m) (hm : 0 < m) :
    unpack .binary32 b = .finite .positive m (-149) hm := by
  subst hmantissa
  have hnonzero : ¬ @unpackMantissa .binary32 b = 0#23 := fun hzero =>
    Nat.ne_of_gt hm (congrArg BitVec.toNat hzero)
  unfold UnpackedFloat.unpack
  dsimp only
  rw [hleast, if_neg (by decide), if_pos rfl, dif_neg hnonzero, hsign]
  rfl

/-- A number that is not too great is packed without loss. -/
theorem unpack_pack {m : Nat} {e : Int} (h : Fits m e) (he : e ≤ 104) :
    (Float32.Model.pack (.finite .positive m e h.pos)).unpack = .finite .positive m e h.pos := by
  show unpack .binary32 (UnpackedFloat.pack .binary32 _) = _
  obtain ⟨hpos, htop, hleast, hnormal⟩ := h
  have hlog := @Nat.log2_lt m 23 (Nat.ne_of_gt hpos)
  have hlog' := @Nat.log2_lt m 24 (Nat.ne_of_gt hpos)
  rw [pack_eq, if_neg (by omega)]
  by_cases hlow : 2 ^ 23 ≤ m
  · rw [if_pos (by omega)]
    have hexponent : (BitVec.ofNat 8 (e + 150).toNat).toNat = (e + 150).toNat := by
      rw [BitVec.toNat_ofNat]
      omega
    have hother {k : Nat} (hk : k ≠ (e + 150).toNat) (hword : k < 2 ^ 8) :
        BitVec.ofNat 8 (e + 150).toNat ≠ BitVec.ofNat 8 k := fun heq => hk <| by
      rw [← hexponent, heq, BitVec.toNat_ofNat, Nat.mod_eq_of_lt hword]
    apply unpack_normal (unpackSign_packComponents ..)
    · rw [unpackExponent_packComponents]
      exact hother (k := 255) (by omega) (by decide)
    · rw [unpackExponent_packComponents]
      exact hother (k := 0) (by omega) (by decide)
    · rw [unpackMantissa_packComponents, toNat_implicit, BitVec.toNat_ofNat]
      omega
    · rw [unpackExponent_packComponents, hexponent]
      omega
  · rw [if_neg (by omega)]
    obtain rfl : e = -149 := hnormal.resolve_left hlow
    apply unpack_subnormal (unpackSign_packComponents ..)
    · rw [unpackExponent_packComponents]
    · rw [unpackMantissa_packComponents, BitVec.toNat_ofNat]
      exact Nat.mod_eq_of_lt (show m < 2 ^ 23 by omega)

theorem unpack_pack_of_lt {m : Nat} {e : Int} (h : 0 < m) (he : 104 < e) :
    (Float32.Model.pack (.finite .positive m e h)).unpack = .infinity .positive := by
  show unpack .binary32 (UnpackedFloat.pack .binary32 _) = _
  rw [pack_eq, if_pos (by omega)]
  rfl

/-! ### Comparisons -/

/-- Numbers are compared by their values. -/
theorem Shows.compare_eq {a b : UnpackedFloat} {x y : ℚ} (ha : Shows a x) (hb : Shows b y) :
    a.compare b = some (compare x y) := by
  cases ha with
  | zero =>
    cases hb with
    | zero => rfl
    | finite h =>
      rw [compare_lt_iff_lt.mpr h.value_pos]
      rfl
  | @finite m e h =>
    cases hb with
    | zero =>
      rw [compare_gt_iff_gt.mpr h.value_pos]
      rfl
    | @finite n g h' =>
      show some ((compare e g).then (compare m n)) = _
      congr 1
      rcases lt_trichotomy e g with hlt | rfl | hgt
      · have hlow : 2 ^ 23 ≤ n := h'.normal.resolve_right (by have := h.least; omega)
        rw [compare_lt_iff_lt.mpr hlt, compare_lt_iff_lt.mpr (h.rounds.of_lower hlt hlow).1]
        rfl
      · have hunit := two_zpow_pos e
        rw [compare_eq_iff_eq.mpr rfl]
        rcases lt_trichotomy m n with hlt | rfl | hgt
        · rw [compare_lt_iff_lt.mpr hlt,
            compare_lt_iff_lt.mpr (mul_lt_mul_of_pos_right (by exact_mod_cast hlt) hunit)]
          rfl
        · rw [compare_eq_iff_eq.mpr rfl, compare_eq_iff_eq.mpr rfl]
          rfl
        · rw [compare_gt_iff_gt.mpr hgt,
            compare_gt_iff_gt.mpr (mul_lt_mul_of_pos_right (by exact_mod_cast hgt) hunit)]
          rfl
      · have hlow : 2 ^ 23 ≤ m := h.normal.resolve_right (by have := h'.least; omega)
        rw [compare_gt_iff_gt.mpr hgt, compare_gt_iff_gt.mpr (h'.rounds.of_lower hgt hlow).1]
        rfl

section Words
variable {x y : Float32} {v w : ℚ}

theorem Shows.lt_iff (hx : Shows x.toModel.unpack v) (hy : Shows y.toModel.unpack w) :
    x < y ↔ v < w := by
  have hcompare : x < y ↔ x.toModel.unpack.lt y.toModel.unpack = true :=
    ⟨of_decide_eq_true, decide_eq_true⟩
  rw [hcompare, UnpackedFloat.lt, hx.compare_eq hy, beq_iff_eq, Option.some_inj,
    compare_lt_iff_lt]

theorem Shows.le_iff (hx : Shows x.toModel.unpack v) (hy : Shows y.toModel.unpack w) :
    x ≤ y ↔ v ≤ w := by
  have hcompare : x ≤ y ↔ x.toModel.unpack.le y.toModel.unpack = true :=
    ⟨of_decide_eq_true, decide_eq_true⟩
  rw [hcompare, UnpackedFloat.le, hx.compare_eq hy, Option.any_some, ← compare_le_iff_le,
    Ordering.isLE_iff_ne_gt]

theorem one_shows : Shows (1.0 : Float32).toModel.unpack 1 := by
  have hfits : Fits (2 ^ 23) (-23) := ⟨by decide, by decide, by decide, .inl (by decide)⟩
  have hunpack : (1.0 : Float32).toModel.unpack = .finite .positive (2 ^ 23) (-23) hfits.pos := rfl
  have hvalue : (1 : ℚ) = (2 ^ 23 : Nat) * 2 ^ (-23 : Int) := by norm_num
  rw [hunpack, hvalue]
  exact .finite hfits

theorem half_shows : Shows (0.5 : Float32).toModel.unpack (1 / 2) := by
  have hfits : Fits (2 ^ 23) (-24) := ⟨by decide, by decide, by decide, .inl (by decide)⟩
  have hunpack : (0.5 : Float32).toModel.unpack = .finite .positive (2 ^ 23) (-24) hfits.pos := rfl
  have hvalue : (1 / 2 : ℚ) = (2 ^ 23 : Nat) * 2 ^ (-24 : Int) := by norm_num
  rw [hunpack, hvalue]
  exact .finite hfits

/-- A number above zero has a value, unless it is infinite. -/
theorem shows_of_pos (h : 0.0 < x) : x.toModel.unpack = .infinity .positive ∨
    ∃ m e, ∃ hfits : Fits m e, x.toModel.unpack = .finite .positive m e hfits.pos := by
  have hpos : (UnpackedFloat.zero .positive).lt x.toModel.unpack = true := of_decide_eq_true h
  cases hunpack : x.toModel.unpack with
  | notANumber | zero _ =>
    rw [hunpack] at hpos
    cases hpos
  | infinity sign =>
    rw [hunpack] at hpos
    cases sign with
    | positive => exact .inl rfl
    | negative => cases hpos
  | finite sign m e hm =>
    rw [hunpack] at hpos
    cases sign with
    | positive => exact .inr ⟨m, e, fits_of_unpack hunpack, rfl⟩
    | negative => cases hpos

/-- What is one at least lies above zero. -/
theorem pos_of_one_le (h : 1.0 ≤ x) : 0.0 < x := by
  have hle : (UnpackedFloat.finite .positive (2 ^ 23) (-23) (by decide)).le x.toModel.unpack =
      true := of_decide_eq_true h
  have hcompare : 0.0 < x ↔ (UnpackedFloat.zero .positive).lt x.toModel.unpack = true :=
    ⟨of_decide_eq_true, decide_eq_true⟩
  rw [hcompare]
  generalize x.toModel.unpack = u at hle
  cases u with
  | notANumber | zero _ => cases hle
  | infinity sign | finite sign _ _ _ =>
    cases sign with
    | positive => rfl
    | negative => cases hle

end Words

end FaultTolerance.Single
