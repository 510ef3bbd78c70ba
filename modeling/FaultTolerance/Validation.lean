import FaultTolerance.Error

/-!
The checks that configurations share.
-/

namespace FaultTolerance

/-- Refuses a percentage that is not above zero and at most a hundred. -/
def checkRate (field : String) (rate : Float32) : Except Error Unit :=
  if rate > 0.0 && rate <= 100.0 then .ok ()
  else
    .error (.invalidConfig
      (field ++ " must be in (0, 100], got " ++ (Decimal.Number.ofSingle rate).plain))

/-- Refuses a configuration unless the condition holds. -/
def require (condition : Bool) (reason : String) : Except Error Unit :=
  if condition then .ok () else .error (.invalidConfig reason)

theorem of_require {condition : Bool} {reason : String} (h : require condition reason = .ok ()) :
    condition = true := by
  unfold require at h
  split at h
  · next hc => exact hc
  · cases h

/-- What comes of two steps only comes if each of them succeeds. -/
theorem bind_eq_ok {ε α β : Type} {x : Except ε α} {f : α → Except ε β} {b : β}
    (h : x >>= f = .ok b) : ∃ a, x = .ok a ∧ f a = .ok b := by
  cases x with
  | error e => cases h
  | ok a => exact ⟨a, rfl, h⟩

/-- Checks that are made one after the other pass if each of them does. -/
theorem ok_of_bind {α : Type} {check : Except Error Unit} {rest : Unit → Except Error α} {a : α}
    (h : (check >>= rest) = .ok a) : check = .ok () ∧ rest () = .ok a := by
  obtain ⟨_, hcheck, hrest⟩ := bind_eq_ok h
  exact ⟨hcheck, hrest⟩

end FaultTolerance
