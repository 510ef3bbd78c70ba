import FaultTolerance.Proofs.Breaker.Moves
import FaultTolerance.Proofs.Window.LastCalls

/-! The rates of some outcomes and their thresholds.

`Config.Trips` says of a list of outcomes, and of nothing that a breaker keeps, whether they are
enough for a verdict and reach a threshold. A view of their counts exceeds the thresholds exactly
if they do (`exceedsThresholds_ofList`): below the least number of calls both rates read as a
negative number, which no threshold of a valid configuration lies at or under. -/
namespace FaultTolerance

/-! ### Counts of a list -/

namespace Totals

/-- A count that each measurement of some kind raises by one is their number. -/
theorem count_ofList {count : Totals → Nat} {p : Measurement → Bool} (hnone : count {} = 0)
    (hrecord : ∀ t m, count (t.record m) = count t + (p m).toNat) (ms : List Measurement) :
    count (ofList ms) = ms.countP p := by
  induction ms with
  | nil => exact hnone
  | cons m rest ih =>
    rw [ofList_cons, hrecord, ih, List.countP_cons]
    cases p m <;> rfl

theorem calls_ofList (ms : List Measurement) : (ofList ms).calls = ms.length :=
  (count_ofList (p := fun _ => true) rfl (fun _ _ => rfl) ms).trans (by rw [List.countP_true])

theorem failed_ofList (ms : List Measurement) :
    (ofList ms).failed = ms.countP (·.outcome.isFailure) :=
  count_ofList rfl (fun _ _ => rfl) ms

theorem slow_ofList (ms : List Measurement) :
    (ofList ms).slow = ms.countP (·.outcome.isSlow) :=
  count_ofList rfl (fun _ _ => rfl) ms

end Totals

/-- The percentage of the outcomes that are of some kind. -/
def rateOf (p : Outcome → Bool) (ms : List Measurement) : Float32 :=
  Snapshot.percentage (ms.countP (p ·.outcome)) ms.length

namespace Snapshot
variable {ms : List Measurement} {minimumCalls : Nat}

theorem isMeaningful_ofList (hpos : 0 < minimumCalls) :
    isMeaningful ⟨.ofList ms, minimumCalls⟩ = decide (minimumCalls ≤ ms.length) := by
  unfold isMeaningful
  rw [Totals.calls_ofList]
  by_cases h : minimumCalls ≤ ms.length
  · simp [h, Nat.lt_of_lt_of_le hpos h]
  · simp [h]

theorem failureRate_ofList (hpos : 0 < minimumCalls) :
    failureRate ⟨.ofList ms, minimumCalls⟩ =
      if minimumCalls ≤ ms.length then rateOf Outcome.isFailure ms else notMeaningful := by
  unfold failureRate
  rw [isMeaningful_ofList hpos, Totals.calls_ofList, Totals.failed_ofList]
  simp only [decide_eq_true_eq]
  rfl

theorem slowCallRate_ofList (hpos : 0 < minimumCalls) :
    slowCallRate ⟨.ofList ms, minimumCalls⟩ =
      if minimumCalls ≤ ms.length then rateOf Outcome.isSlow ms else notMeaningful := by
  unfold slowCallRate
  rw [isMeaningful_ofList hpos, Totals.calls_ofList, Totals.slow_ofList]
  simp only [decide_eq_true_eq]
  rfl

end Snapshot

open Float.Model in
/-- The rate of too few calls lies below everything that is above zero. -/
theorem not_le_notMeaningful {threshold : Float32} (h : 0.0 < threshold) :
    ¬ threshold ≤ notMeaningful := by
  -- Both sides are compared as unpacked numbers; the left one is the only one that is not known.
  have hpos : (UnpackedFloat.zero .positive).lt threshold.toModel.unpack = true :=
    of_decide_eq_true h
  intro hle
  have hle : threshold.toModel.unpack.le (.finite .negative 8388608 (-23) (by decide)) = true :=
    of_decide_eq_true hle
  cases hunpack : threshold.toModel.unpack with
  | notANumber | zero _ =>
    rw [hunpack] at hpos
    cases hpos
  | infinity sign =>
    rw [hunpack] at hpos hle
    cases sign with
    | positive => cases hle
    | negative => cases hpos
  | finite sign mantissa exponent hmantissa =>
    rw [hunpack] at hpos hle
    cases sign with
    | positive => cases hle
    | negative => cases hpos

namespace Breaker
variable {ε ν : Type}

/-! ### Thresholds -/

/-- The thresholds lie above zero, and no verdict is made on nothing. -/
structure Config.Rated (c : Config ε ν) : Prop where
  failureRate_pos : 0.0 < c.failureRateThreshold
  slowCallRate_pos : 0.0 < c.slowCallRateThreshold
  effectiveMinimum_pos : 0 < c.effectiveMinimum

theorem pos_of_checkRate {field : String} {rate : Float32} (h : checkRate field rate = .ok ()) :
    0.0 < rate := by
  unfold checkRate at h
  split at h
  · next hrate =>
    rw [Bool.and_eq_true] at hrate
    exact of_decide_eq_true hrate.1
  · cases h

theorem Config.rated_of_validate {c : Config ε ν} {draw : Float}
    (h : c.validate draw = .ok ()) : c.Rated := by
  have hsize := (Config.sound_of_validate h).windowSize_pos
  obtain ⟨hfailure, h⟩ := ok_of_bind h
  obtain ⟨hslow, h⟩ := ok_of_bind h
  obtain ⟨_, h⟩ := ok_of_bind h
  obtain ⟨_, h⟩ := ok_of_bind h
  obtain ⟨hminimum, _⟩ := ok_of_bind h
  have hminimum := of_require hminimum
  simp only [bne_iff_ne] at hminimum
  refine ⟨pos_of_checkRate hfailure, pos_of_checkRate hslow, ?_⟩
  unfold effectiveMinimum
  split <;> omega

theorem rated_of_new {name : String} {config : Config ε ν} {start : Nat} {b : Breaker ε ν}
    {draws : Draws} (hnew : Breaker.new name config start draws = .ok b) : config.Rated :=
  Config.rated_of_validate (ok_of_bind hnew).1

/-- A rate of some outcomes reaches its threshold. -/
def Config.Breaches (c : Config ε ν) (ms : List Measurement) : Prop :=
  c.failureRateThreshold ≤ rateOf Outcome.isFailure ms ∨
    c.slowCallRateThreshold ≤ rateOf Outcome.isSlow ms

/-- Some outcomes open a closed breaker. -/
def Config.Trips (c : Config ε ν) (ms : List Measurement) : Prop :=
  c.effectiveMinimum ≤ ms.length ∧ c.Breaches ms

/-- A report of each rate of some outcomes that reaches its threshold. -/
def Config.breachEvents (c : Config ε ν) (ms : List Measurement) : List Event :=
  (if c.failureRateThreshold ≤ rateOf Outcome.isFailure ms then
    [.failureRateExceeded (rateOf Outcome.isFailure ms)] else []) ++
  (if c.slowCallRateThreshold ≤ rateOf Outcome.isSlow ms then
    [.slowCallRateExceeded (rateOf Outcome.isSlow ms)] else [])

instance (c : Config ε ν) (ms : List Measurement) : Decidable (c.Breaches ms) :=
  inferInstanceAs (Decidable (_ ∨ _))

instance (c : Config ε ν) (ms : List Measurement) : Decidable (c.Trips ms) :=
  inferInstanceAs (Decidable (_ ∧ _))

section Thresholds
variable {b : Breaker ε ν} {c : Config ε ν} {ms : List Measurement} {minimumCalls : Nat}

/-- **A view of some counts exceeds the thresholds exactly if the counted outcomes do.** -/
theorem exceedsThresholds_ofList (hconfig : b.config = c) (hrated : c.Rated)
    (hpos : 0 < minimumCalls) :
    b.exceedsThresholds ⟨.ofList ms, minimumCalls⟩ ↔
      minimumCalls ≤ ms.length ∧ c.Breaches ms := by
  subst hconfig
  unfold exceedsThresholds
  rw [Snapshot.failureRate_ofList hpos, Snapshot.slowCallRate_ofList hpos, Bool.or_eq_true,
    decide_eq_true_eq, decide_eq_true_eq]
  by_cases henough : minimumCalls ≤ ms.length
  · rw [if_pos henough, if_pos henough]
    exact (and_iff_right henough).symm
  · rw [if_neg henough, if_neg henough]
    refine iff_of_false (fun hexceeded => ?_) fun h => henough h.1
    rcases hexceeded with hfailure | hslow
    · exact not_le_notMeaningful hrated.failureRate_pos hfailure
    · exact not_le_notMeaningful hrated.slowCallRate_pos hslow

theorem ratesExceeded_ofList (hconfig : b.config = c) (hpos : 0 < minimumCalls)
    (henough : minimumCalls ≤ ms.length) :
    b.ratesExceeded ⟨.ofList ms, minimumCalls⟩ = c.breachEvents ms := by
  subst hconfig
  unfold ratesExceeded
  rw [Snapshot.failureRate_ofList hpos, Snapshot.slowCallRate_ofList hpos, if_pos henough,
    if_pos henough]
  rfl

end Thresholds

end Breaker

end FaultTolerance
