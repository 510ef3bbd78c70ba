import FaultTolerance.Proofs.Bulkhead.Permits

/-! Which limits a bulkhead honours.

A limit is an unsigned word of 64 bits, and a valid configuration may ask for any but zero. The
counter is a signed one: a limit past its range reads as a negative number (`capacity_of_gt`).
Whatever the limits, the counter is what the limit in force reads as less the callers that run
(`Effect.counted`), so a bulkhead with such a limit lets nobody in, and the way back to an ordinary
limit may be too long a step for the counter (`changes_iff`).

The main theorem is **`limit_honoured_iff_in_range`**. -/
namespace FaultTolerance.Bulkhead
open Step (greatestLimit)

/-! ### Words -/

/-- The greatest limit that a configuration can ask for. -/
def greatestWord : Nat := 0xFFFFFFFFFFFFFFFF

/-- A limit that a bulkhead can be asked for and accepts. -/
structure Config.Accepted (c : Config) : Prop where
  valid : c.validate = .ok ()
  isWord : c.maxConcurrentCalls ≤ greatestWord

def Step.isWord : Step → Bool
  | configure config => config.maxConcurrentCalls ≤ greatestWord
  | _ => true

namespace Config
variable {c : Config}

theorem pos_of_validate (h : c.validate = .ok ()) : 0 < c.maxConcurrentCalls := by
  have hlimit := of_require h
  rw [bne_iff_ne] at hlimit
  exact Nat.pos_of_ne_zero hlimit

/-- Past the range of the counter a limit reads as so much less than nothing. -/
theorem capacity_of_gt (hword : c.maxConcurrentCalls ≤ greatestWord)
    (hgt : greatestLimit < c.maxConcurrentCalls) :
    c.capacity = c.maxConcurrentCalls - 0x10000000000000000 := by
  unfold greatestWord at hword
  unfold greatestLimit at hgt
  unfold capacity
  rw [Int.bmod_def]
  split <;> omega

end Config

/-! ### Callers in a row -/

/-- The answers to so many callers that come one after the other and do not wait. -/
def answers : Nat → Bulkhead → List Bool
  | 0, _ => []
  | n + 1, b => b.tryAcquire.2.2 :: answers n b.tryAcquire.1

theorem answers_of_nonpos {b : Bulkhead} (h : b.available ≤ 0) (n : Nat) :
    answers n b = List.replicate n false := by
  induction n with
  | zero => rfl
  | succ n ih =>
    have htry : b.tryAcquire = (b, [.callRejected], false) := by
      unfold tryAcquire
      rw [take?_of_nonpos h]
    rw [answers, htry, ih, List.replicate_succ]

/-- As many are let in as there are permits, and everybody after them is refused. -/
theorem answers_of_available {b : Bulkhead} {free : Nat} (h : b.available = free) (n : Nat) :
    answers (free + n) b = List.replicate free true ++ List.replicate n false := by
  induction free generalizing b with
  | zero =>
    rw [Nat.zero_add]
    exact answers_of_nonpos (Int.le_of_eq h) n
  | succ free ih =>
    have htry : b.tryAcquire =
        ({ b with available := b.available - 1 }, [.callPermitted], true) := by
      unfold tryAcquire
      rw [take?_of_pos (by omega)]
    have hleft : b.available - 1 = free := by omega
    rw [Nat.add_right_comm, answers, htry, ih hleft, List.replicate_succ, List.cons_append]

/-- A bulkhead that is full from the start refuses the first caller. -/
theorem answers_ne_of_nonpos {b : Bulkhead} (h : b.available ≤ 0) {limit : Nat} (hpos : 0 < limit) :
    answers (limit + 1) b ≠ List.replicate limit true ++ [false] := by
  obtain ⟨n, rfl⟩ := Nat.exists_eq_add_one_of_ne_zero (Nat.ne_of_gt hpos)
  rw [answers_of_nonpos h, List.replicate_succ]
  intro hsame
  cases (List.cons.inj hsame).1

/-! ### Limits that are honoured -/

/-- Whoever comes is let in exactly if fewer callers run than the limit allows. -/
structure Honours [Timer] (b : Bulkhead) (limit running : Nat) : Prop where
  now : b.tryAcquire.2.2 = true ↔ running < limit
  waiting : ∀ timer, (b.start timer).2.2 = .inl true ↔ running < limit

theorem honours_iff [Timer] {b : Bulkhead} {limit running : Nat} :
    b.Honours limit running ↔ (0 < b.available ↔ running < limit) := by
  have hnow : b.tryAcquire.2.2 = true ↔ 0 < b.available := by
    rw [← b.tryAcquire_answered.admitted_iff, Sum.inl.injEq]
  have hwaiting (timer : Nat) : (b.start timer).2.2 = .inl true ↔ 0 < b.available :=
    (Waiter.poll_answered _ _ timer).admitted_iff
  constructor
  · intro h
    rw [← hnow]
    exact h.now
  · intro h
    exact ⟨hnow.trans h, fun timer => (hwaiting timer).trans h⟩

section Change
variable {b m : Bulkhead} {running : Nat} {c : Config}

/-- A counted bulkhead honours its limit exactly if the counter can show it. -/
theorem Counted.honours_iff [Timer] (h : Counted b running)
    (hword : b.config.maxConcurrentCalls ≤ greatestWord) :
    b.Honours b.config.maxConcurrentCalls running ↔
      b.config.maxConcurrentCalls ≤ greatestLimit := by
  have hcounter := h.counter
  have hrunning := h.running_le
  rw [Bulkhead.honours_iff]
  rcases Nat.lt_or_ge greatestLimit b.config.maxConcurrentCalls with hgt | hle
  · rw [Config.capacity_of_gt hword hgt] at hcounter
    unfold greatestWord at hword
    omega
  · rw [Config.capacity_of_le hle] at hcounter
    omega

/-- When a new limit is taken over: the counter must be able to make the step, and to show where it
leads. -/
theorem changes_iff (h : Counted b running) (hvalid : c.validate = .ok ()) :
    (∃ m, b.configure c = .ok m) ↔
      fits (c.capacity - b.config.capacity) ∧ fits (c.capacity - running) := by
  have hcounter := h.counter
  have hsame : b.available + (c.capacity - b.config.capacity) = c.capacity - running := by omega
  constructor
  · rintro ⟨m, hok⟩
    rw [configure_of_validate hvalid, hsame] at hok
    split at hok
    case isTrue hfits => exact Bool.and_eq_true_iff.mp hfits
    case isFalse => cases hok
  · rintro ⟨hgrowth, hfits⟩
    rw [← hsame] at hfits
    exact configure_of_fits hvalid hgrowth hfits

/-- A limit that the counter can show is within reach from every other such limit, and from one that
it cannot show if the two lie more than half the words apart. -/
theorem reaches_iff (h : Counted b running) (hword : b.config.maxConcurrentCalls ≤ greatestWord)
    (hvalid : c.validate = .ok ()) (hle : c.maxConcurrentCalls ≤ greatestLimit) :
    (∃ m, b.configure c = .ok m) ↔
      b.config.maxConcurrentCalls ≤ greatestLimit ∨
        c.maxConcurrentCalls + 0x8000000000000000 < b.config.maxConcurrentCalls := by
  have hrunning := h.running_le
  rw [changes_iff h hvalid, fits_iff, fits_iff, Config.capacity_of_le hle]
  rcases Nat.lt_or_ge greatestLimit b.config.maxConcurrentCalls with hgt | hold
  · rw [Config.capacity_of_gt hword hgt]
    unfold greatestWord at hword
    unfold greatestLimit at *
    omega
  · rw [Config.capacity_of_le hold]
    unfold greatestLimit at *
    omega

/-- **When a change of the limit is honoured.** -/
theorem Counted.change_honoured_iff [Timer] (h : Counted b running)
    (hword : b.config.maxConcurrentCalls ≤ greatestWord) (hc : c.Accepted) :
    (∃ m, b.configure c = .ok m ∧ m.Honours c.maxConcurrentCalls running) ↔
      c.maxConcurrentCalls ≤ greatestLimit ∧
        (b.config.maxConcurrentCalls ≤ greatestLimit ∨
          c.maxConcurrentCalls + 0x8000000000000000 < b.config.maxConcurrentCalls) := by
  have hchanged (m : Bulkhead) (hok : b.configure c = .ok m) :
      m.Honours c.maxConcurrentCalls running ↔ c.maxConcurrentCalls ≤ greatestLimit := by
    have hconfig := (configure_ok hok).1
    have hcounted : Counted m running :=
      (Effect.configured (i := .configure c) running rfl hok).counted rfl h
    have hhonours := hcounted.honours_iff (by rw [hconfig]; exact hc.isWord)
    rwa [hconfig] at hhonours
  constructor
  · rintro ⟨m, hok, hhonours⟩
    have hle := (hchanged m hok).mp hhonours
    exact ⟨hle, (reaches_iff h hword hc.valid hle).mp ⟨m, hok⟩⟩
  · rintro ⟨hle, hreached⟩
    obtain ⟨m, hok⟩ := (reaches_iff h hword hc.valid hle).mpr hreached
    exact ⟨m, hok, (hchanged m hok).mpr hle⟩

end Change

/-! ### Runs -/

theorem Ledger.run_counted [Timer] (s : Ledger) (steps : List Step)
    (hpaired : ∀ i ∈ steps, i.isPaired) (h : Counted s.bulkhead (inFlight s.callers)) :
    Counted (steps.foldl next s).bulkhead (inFlight (steps.foldl next s).callers) :=
  List.foldlRecOn (motive := fun s => Counted s.bulkhead (inFlight s.callers)) steps next h
    fun s h i hi => (s.next_effect i).counted (hpaired i hi) h

theorem Effect.limit_isWord {i : Step} {b m : Bulkhead} {running left : Nat}
    (h : Effect i b running m left) (hi : i.isWord)
    (hb : b.config.maxConcurrentCalls ≤ greatestWord) :
    m.config.maxConcurrentCalls ≤ greatestWord := by
  cases h with
  | idle _ | taken _ _ => exact hb
  | returned _ | loose _ _ =>
    unfold release
    split <;> exact hb
  | configured _ hstep hok =>
    subst hstep
    rw [(configure_ok hok).1]
    exact of_decide_eq_true hi

theorem Ledger.run_isWord [Timer] (s : Ledger) (steps : List Step) (hwords : ∀ i ∈ steps, i.isWord)
    (h : s.bulkhead.config.maxConcurrentCalls ≤ greatestWord) :
    (steps.foldl next s).bulkhead.config.maxConcurrentCalls ≤ greatestWord :=
  List.foldlRecOn (motive := fun s => s.bulkhead.config.maxConcurrentCalls ≤ greatestWord) steps
    next h fun s h i hi => (s.next_effect i).limit_isWord (hwords i hi) h

theorem new_of_accepted (name : String) {config : Config} (h : config.Accepted) :
    new name config = .ok { name, config, available := config.capacity } := by
  unfold new
  rw [h.valid]
  rfl

/-- **A limit is honoured exactly if the signed counter can show it.** Every limit that is accepted
makes a bulkhead. It lets in as many callers as the limit says before it refuses the first one if
and only if the limit is in the range of the counter. Let callers come and go in any way, each
giving back its own permit, and let the limit change from one accepted one to another: a new limit
is taken over, and whoever comes is let in exactly if fewer run than it allows, if and only if it is
in the range of the counter, and the one in force is so too or lies more than half the words above
it. -/
theorem limit_honoured_iff_in_range [Timer] (name : String) {config : Config}
    (hc : config.Accepted) :
    ∃ b, new name config = .ok b ∧
      (answers (config.maxConcurrentCalls + 1) b =
          List.replicate config.maxConcurrentCalls true ++ [false] ↔
        config.maxConcurrentCalls ≤ greatestLimit) ∧
      ∀ steps : List Step, (∀ i ∈ steps, i.isPaired ∧ i.isWord) →
        let s := steps.foldl Ledger.next { bulkhead := b }
        let limit := s.bulkhead.config.maxConcurrentCalls
        ∀ changed : Config, changed.Accepted →
          ((∃ m, s.bulkhead.configure changed = .ok m ∧
              m.Honours changed.maxConcurrentCalls (inFlight s.callers)) ↔
            changed.maxConcurrentCalls ≤ greatestLimit ∧
              (limit ≤ greatestLimit ∨
                changed.maxConcurrentCalls + 0x8000000000000000 < limit)) := by
  refine ⟨_, new_of_accepted name hc, ?_, fun steps hsteps => ?_⟩
  -- The counter of the new bulkhead stays opaque: it is not to be computed.
  · generalize hb : Bulkhead.mk name config config.capacity = b
    have hfull : b.available = config.capacity := by rw [← hb]
    rcases Nat.lt_or_ge greatestLimit config.maxConcurrentCalls with hgt | hle
    · have hword := hc.isWord
      rw [Config.capacity_of_gt hword hgt] at hfull
      unfold greatestWord at hword
      exact iff_of_false (answers_ne_of_nonpos (by omega) (Config.pos_of_validate hc.valid))
        (Nat.not_le.mpr hgt)
    · rw [Config.capacity_of_le hle] at hfull
      exact iff_of_true (answers_of_available hfull 1) hle
  · intro s limit changed hchanged
    have hstart : Counted { name, config, available := config.capacity } 0 :=
      ⟨by rw [Int.natCast_zero, Int.sub_zero], Nat.zero_le _⟩
    have hcounted : Counted s.bulkhead (inFlight s.callers) :=
      Ledger.run_counted _ steps (fun i hi => (hsteps i hi).1) hstart
    have hword : s.bulkhead.config.maxConcurrentCalls ≤ greatestWord :=
      Ledger.run_isWord _ steps (fun i hi => (hsteps i hi).2) hc.isWord
    exact hcounted.change_honoured_iff hword hchanged

/-- A bulkhead that asks for the greatest word lets nobody in, until it is asked for three. -/
def shrunk : List Step := [.ask, .configure { maxConcurrentCalls := 3 }, .ask, .ask]

/-- From there the greatest limit that the counter can show is honoured, and the word after it is
not. -/
theorem shrunk_honours :
    (Config.mk greatestWord .zero).Accepted ∧
      ∃ b, new "pool" { maxConcurrentCalls := greatestWord } = .ok b ∧
        let s := shrunk.foldl Ledger.next { bulkhead := b }
        (∃ m, s.bulkhead.configure { maxConcurrentCalls := greatestLimit } = .ok m ∧
          m.Honours greatestLimit (inFlight s.callers)) ∧
        ¬ ∃ m, s.bulkhead.configure { maxConcurrentCalls := greatestLimit + 1 } = .ok m ∧
          m.Honours (greatestLimit + 1) (inFlight s.callers) := by
  have haccepted : (Config.mk greatestWord .zero).Accepted := ⟨rfl, Nat.le_refl _⟩
  obtain ⟨b, hnew, _, h⟩ := limit_honoured_iff_in_range "pool" haccepted
  have hb : b = { name := "pool", config := ⟨greatestWord, .zero⟩, available := -1 } := by
    rw [new_of_accepted "pool" haccepted] at hnew
    cases hnew
    rfl
  subst hb
  have hlimit : (shrunk.foldl Ledger.next
      { bulkhead := { name := "pool", config := ⟨greatestWord, .zero⟩, available := -1 } }
      ).bulkhead.config.maxConcurrentCalls = 3 := by
    decide +kernel
  have hchange := h shrunk (by decide +kernel)
  refine ⟨haccepted, _, hnew, ?_, fun hhonoured => ?_⟩
  · exact (hchange ⟨greatestLimit, .zero⟩ ⟨rfl, by decide⟩).mpr
      ⟨Nat.le_refl _, .inl (hlimit ▸ by decide)⟩
  · have hrange := (hchange ⟨greatestLimit + 1, .zero⟩ ⟨rfl, by decide⟩).mp hhonoured
    exact absurd hrange.1 (by decide)

/-- **A limit past the range of the counter is accepted and not honoured.** A new bulkhead with the
greatest word refuses the first caller, though nobody runs. One whose limit becomes the greatest
word refuses everybody from then on. From the first limit that the counter cannot show there is no
way back to one. -/
theorem unshown_limit_admits_nobody :
    (Config.mk greatestWord .zero).Accepted ∧
      (∃ b, new "pool" { maxConcurrentCalls := greatestWord } = .ok b ∧
        b.tryAcquire.2.2 = false ∧
        answers (greatestWord + 1) b ≠ List.replicate greatestWord true ++ [false]) ∧
      (∃ b m, new "pool" { maxConcurrentCalls := 1 } = .ok b ∧
        b.configure { maxConcurrentCalls := greatestWord } = .ok m ∧ m.tryAcquire.2.2 = false) ∧
      ∃ b, new "pool" { maxConcurrentCalls := greatestLimit + 1 } = .ok b ∧
        b.configure { maxConcurrentCalls := 1 } = .error .overflow := by
  refine ⟨⟨rfl, Nat.le_refl _⟩, ⟨_, rfl, ?_, answers_ne_of_nonpos ?_ (by decide)⟩,
    ⟨_, _, rfl, rfl, ?_⟩, ⟨_, rfl, ?_⟩⟩
  · decide +kernel
  · decide +kernel
  · decide +kernel
  · rw [configure_of_validate rfl]
    exact if_neg (by decide +kernel)

end FaultTolerance.Bulkhead
