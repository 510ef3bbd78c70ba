import FaultTolerance.Proofs.Limiter.Cycles

/-! A limiter in words of 64 bits.

Readings and counts are words. Products and sums of readings stop at the last tick, refills stop at
the bounds of a count, and the rest of the arithmetic is plain: `next?` carries out a request with
operations that fail where a word cannot hold the result, or where nothing can be divided by. It
fails exactly if the debt would pass the range of a count (**`InWords.next?_eq`**). -/
namespace FaultTolerance.Limiter

/-! ### Operations that may fail -/

/-- The most permissions that a request or a limit can name, a word of 32 bits. -/
def mostPermits : Nat := 0xFFFFFFFF

/-- A count, if a word can hold it. -/
def count? (n : Int) : Option Int := if -countLimit ≤ n ∧ n < countLimit then some n else none

/-- A difference that is not below zero. -/
def difference? (a b : Nat) : Option Nat := if b ≤ a then some (a - b) else none

/-- A quotient by something. -/
def quotient? (a b : Nat) : Option Nat := if b = 0 then none else some (a / b)

section Operations
variable (l : Limiter) (now permits : Nat)

def currentCycle? : Option Nat := quotient? (l.age now) l.config.period

def rollOver? : Option Limiter := do
  let current ← l.currentCycle? now
  if l.cycle < current then
    let passed ← difference? current l.cycle
    let permissions := clampCount (l.permissions + refill passed l.config.limitForPeriod)
    return { l with cycle := current, permissions := min permissions l.config.limitForPeriod }
  else return l

def fullCycles? (missing : Int) (limit : Nat) : Option Nat :=
  if 0 < missing then do
    let raised ← count? (missing + limit)
    let raised ← count? (raised - 1)
    quotient? raised.toNat limit
  else some 0

def waitFor? : Option Nat :=
  if (permits : Int) ≤ l.permissions then some 0
  else do
    let brought ← count? (l.permissions + l.config.limitForPeriod)
    let missing ← count? (permits - brought)
    let cycles ← fullCycles? missing l.config.limitForPeriod
    return addTicks (mulTicks cycles l.config.period) (l.untilNextCycle now)

/-- The state after a request, unless a word cannot hold what is computed for it. -/
def next? (timeout : Nat) : Option Limiter := do
  let l ← l.rollOver? now
  let wait ← l.waitFor? now permits
  let permissions ← if wait ≤ timeout then count? (l.permissions - permits) else l.permissions
  return { l with wait, permissions }

end Operations

theorem count?_of_fits {n : Int} (hle : -countLimit ≤ n) (hlt : n < countLimit) :
    count? n = some n := if_pos ⟨hle, hlt⟩

theorem count?_of_le {n : Int} (h : countLimit ≤ n) : count? n = none :=
  if_neg fun hfits => Int.not_lt.mpr h hfits.2

/-! ### What can fail -/

/-- A limiter whose fields words can hold. -/
structure InWords (l : Limiter) : Prop where
  limit_pos : 0 < l.limit
  limit_le : l.limit ≤ mostPermits
  le_permissions : -countLimit ≤ l.permissions
  permissions_le : l.permissions ≤ mostPermits

section Failures
variable {l : Limiter} {now permits : Nat}

/-- There is always a period to divide by. -/
theorem currentCycle?_eq (l : Limiter) (now : Nat) :
    l.currentCycle? now = some (l.currentCycle now) := if_neg (Nat.ne_of_gt l.config.period_pos)

theorem rollOver?_eq (l : Limiter) (now : Nat) : l.rollOver? now = some (l.rollOver now) := by
  unfold rollOver? rollOver
  rw [currentCycle?_eq]
  show (if _ then _ else _) = some (if _ then _ else _)
  split
  · next hlt =>
    have hpassed : difference? (l.currentCycle now) l.cycle =
        some (l.currentCycle now - l.cycle) := if_pos (Nat.le_of_lt hlt)
    rw [hpassed]
    rfl
  · rfl

theorem InWords.rollOver (h : l.InWords) (now : Nat) : (l.rollOver now).InWords := by
  have hlimit := l.rollOver_limit now
  have hpos := h.limit_pos
  have hle := h.limit_le
  have hlow := h.le_permissions
  have hhigh := h.permissions_le
  have hcount : -countLimit ≤ (l.rollOver now).permissions ∧
      (l.rollOver now).permissions ≤ mostPermits := by
    unfold Limiter.rollOver
    split
    · dsimp only
      simp only [limit, mostPermits, clampCount, countLimit] at *
      omega
    · exact ⟨hlow, hhigh⟩
  exact ⟨by rwa [hlimit], by rwa [hlimit], hcount.1, hcount.2⟩

/-- Cycles are counted with two sums, the first of which may be too great. -/
theorem fullCycles?_eq {missing : Int} {limit : Nat} (hpos : 0 < limit)
    (hlow : -countLimit ≤ missing) (hlimit : limit ≤ mostPermits) :
    fullCycles? missing limit =
      if missing + limit < countLimit then some (fullCycles missing limit) else none := by
  have hwords : (mostPermits : Int) < countLimit := by decide
  unfold fullCycles?
  by_cases hmissing : 0 < missing
  · rw [if_pos hmissing]
    by_cases hfits : missing + limit < countLimit
    · have hsum : (missing + limit - 1).toNat = missing.toNat + (limit - 1) := by omega
      rw [if_pos hfits, count?_of_fits (by omega) hfits]
      show (count? (missing + limit - 1)).bind _ = _
      rw [count?_of_fits (by omega) (by omega)]
      show quotient? (missing + limit - 1).toNat limit = _
      rw [hsum]
      exact if_neg (Nat.ne_of_gt hpos)
    · rw [if_neg hfits, count?_of_le (Int.not_lt.mp hfits)]
      rfl
  · have hnone : fullCycles missing limit = 0 := by
      unfold fullCycles
      rw [Int.toNat_of_nonpos (by omega)]
      exact Nat.div_eq_of_lt (by omega)
    rw [if_neg hmissing, if_pos (by omega), hnone]

/-- A wait can be told unless the debt that it is for is too great. -/
theorem InWords.waitFor?_eq (h : l.InWords) (hpermits : permits ≤ mostPermits) (now : Nat) :
    l.waitFor? now permits =
      if permits - l.permissions < countLimit then some (l.waitFor now permits) else none := by
  have hlimit : l.config.limitForPeriod ≤ mostPermits := h.limit_le
  have hpos : 0 < l.config.limitForPeriod := h.limit_pos
  have hlow := h.le_permissions
  have hhigh := h.permissions_le
  have hwords : (mostPermits : Int) + mostPermits < countLimit := by decide
  unfold waitFor? waitFor
  by_cases hthere : (permits : Int) ≤ l.permissions
  · rw [if_pos hthere, if_pos hthere, if_pos (by omega)]
  · rw [if_neg hthere, if_neg hthere, count?_of_fits (by omega) (by omega)]
    show (count? (permits - (l.permissions + l.config.limitForPeriod))).bind _ = _
    by_cases hfits : permits - l.permissions < countLimit
    · rw [count?_of_fits (by omega) (by omega), if_pos hfits]
      show (fullCycles? (permits - (l.permissions + l.config.limitForPeriod)) _).bind _ = _
      rw [fullCycles?_eq hpos (by omega) hlimit, if_pos (by omega)]
      rfl
    · rw [if_neg hfits]
      by_cases hmissing : permits - (l.permissions + l.config.limitForPeriod) < countLimit
      · rw [count?_of_fits (by omega) hmissing]
        show (fullCycles? (permits - (l.permissions + l.config.limitForPeriod)) _).bind _ = _
        rw [fullCycles?_eq hpos (by omega) hlimit, if_neg (by omega)]
        rfl
      · rw [count?_of_le (Int.not_lt.mp hmissing)]
        rfl

/-- **A request can be carried out in words** unless the debt that it leads to is too great. -/
theorem InWords.next?_eq (h : l.InWords) (hpermits : permits ≤ mostPermits) (now timeout : Nat) :
    l.next? now permits timeout =
      if permits - (l.rollOver now).permissions < countLimit then some (l.next now permits timeout)
      else none := by
  have hrolled := h.rollOver now
  have hhigh := hrolled.permissions_le
  have hwords : (mostPermits : Int) < countLimit := by decide
  unfold next?
  rw [rollOver?_eq]
  show ((l.rollOver now).waitFor? now permits).bind _ = _
  rw [hrolled.waitFor?_eq hpermits]
  split
  · next hfits =>
    have htaken : count? ((l.rollOver now).permissions - permits) =
        some ((l.rollOver now).permissions - permits) := count?_of_fits (by omega) (by omega)
    unfold next
    dsimp only [Option.bind_some]
    by_cases hgranted : (l.rollOver now).waitFor now permits ≤ timeout
    · rw [if_pos hgranted, if_pos hgranted, htaken]
      rfl
    · rw [if_neg hgranted, if_neg hgranted]
      rfl
  · rfl

end Failures

end FaultTolerance.Limiter
