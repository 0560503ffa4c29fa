import Mathlib
import Metrology.Factor

/-!
Trial division finds the prime factors. While divisors are tried, what remains of a number
has no prime factor below the divisor; so a divisor that goes into it is its smallest prime
factor, and what is left when the square of the divisor exceeds it is prime. A prime, minus
one and zero are their own single factor, so that taking a number apart twice changes nothing.
-/

namespace Metrology

/-! ## Divisors -/

/-- Naturals that no prime below the divisor goes into. -/
def HasNoFactorBelow (divisor value : ℕ) : Prop :=
  ∀ prime : ℕ, prime.Prime → prime ∣ value → divisor ≤ prime

namespace HasNoFactorBelow

variable {divisor value : ℕ}

theorem two (value : ℕ) : HasNoFactorBelow 2 value := fun _ prime _ => prime.two_le

theorem of_dvd {part : ℕ} (above : HasNoFactorBelow divisor value) (divides : part ∣ value) :
    HasNoFactorBelow divisor part :=
  fun prime isPrime inPart => above prime isPrime (inPart.trans divides)

/-- A divisor that does not go in leaves nothing below the next one: the even numbers that
are passed over are no primes. -/
theorem next (above : HasNoFactorBelow divisor value) (atLeastTwo : 2 ≤ divisor)
    (indivisible : ¬divisor ∣ value) : HasNoFactorBelow (nextDivisor divisor) value := by
  intro prime isPrime divides
  have atLeast := above prime isPrime divides
  have different : divisor ≠ prime := fun same => indivisible (same ▸ divides)
  have parity := isPrime.eq_two_or_odd
  unfold nextDivisor
  omega

theorem minFac_eq (above : HasNoFactorBelow divisor value) (atLeastTwo : 2 ≤ divisor)
    (divides : divisor ∣ value) (large : value ≠ 1) : value.minFac = divisor :=
  le_antisymm (Nat.minFac_le_of_dvd atLeastTwo divides)
    (above _ (Nat.minFac_prime large) value.minFac_dvd)

/-- Once the square of the divisor exceeds it, a natural is prime. -/
theorem prime (above : HasNoFactorBelow divisor value) (exceeded : value < divisor * divisor)
    (large : 1 < value) : value.Prime := by
  by_contra composite
  have square : value.minFac ^ 2 ≤ value := Nat.minFac_sq_le_self (by omega) composite
  have atLeast := above _ (Nat.minFac_prime (by omega)) value.minFac_dvd
  have product : divisor * divisor ≤ value.minFac ^ 2 := by
    rw [pow_two]
    exact Nat.mul_le_mul atLeast atLeast
  omega

end HasNoFactorBelow

theorem primeFactorsList_of_minFac_eq {divisor value : ℕ} (large : 2 ≤ value)
    (smallest : value.minFac = divisor) :
    value.primeFactorsList = divisor :: (value / divisor).primeFactorsList := by
  rcases Nat.exists_eq_add_of_le' large with ⟨rest, rfl⟩
  rw [Nat.primeFactorsList_add_two, smallest]

/-- Trial division gives the prime factors in ascending order. -/
theorem factorsFrom_eq_primeFactorsList {divisor value : ℕ} (atLeastTwo : 2 ≤ divisor)
    (above : HasNoFactorBelow divisor value) :
    factorsFrom divisor value atLeastTwo = value.primeFactorsList := by
  fun_induction factorsFrom divisor value atLeastTwo with
  | case1 divisor value atLeastTwo bounded divisible induction =>
      have smaller := lt_of_square_le atLeastTwo (Nat.le_of_ble_eq_true bounded)
      have divides : divisor ∣ value := Nat.dvd_of_mod_eq_zero divisible
      have smallest := above.minFac_eq atLeastTwo divides (by omega)
      rw [primeFactorsList_of_minFac_eq (by omega) smallest,
        induction (above.of_dvd (Nat.div_dvd_of_dvd divides))]
  | case2 divisor value atLeastTwo bounded remainder indivisible induction =>
      have passed : ¬divisor ∣ value := fun divides => by
        have divisible := Nat.mod_eq_zero_of_dvd divides
        omega
      exact induction (above.next atLeastTwo passed)
  | case3 divisor value atLeastTwo exceeded large =>
      have product : value < divisor * divisor := by
        rw [← Nat.not_le, ← Nat.ble_eq]
        simp [exceeded]
      rw [Nat.primeFactorsList_prime (above.prime product large)]
  | case4 divisor value atLeastTwo exceeded small =>
      have listed : value = 0 ∨ value = 1 := by omega
      rcases listed with rfl | rfl
      · exact Nat.primeFactorsList_zero.symm
      · exact Nat.primeFactorsList_one.symm

/-! ## Integers -/

theorem integerFactors_eq (value : ℤ) :
    integerFactors value =
      (if value < 0 then [-1] else []) ++ value.natAbs.primeFactorsList.map Int.ofNat := by
  rw [integerFactors, factorsFrom_eq_primeFactorsList (by decide) (.two _)]

theorem integerFactors_prime {prime : ℕ} (isPrime : prime.Prime) :
    integerFactors prime = [(prime : ℤ)] := by
  rw [integerFactors_eq, Int.natAbs_natCast, Nat.primeFactorsList_prime isPrime]
  simp

/-! ## Numbers -/

namespace Number

/-- Integers that are not taken apart any further. -/
def IsPrimeFactor : Number → Prop
  | .int value => value = 0 ∨ value = -1 ∨ ∃ prime : ℕ, prime.Prime ∧ value = prime
  | .float _ => False

theorem IsPrimeFactor.exists_int {factor : Number} (prime : factor.IsPrimeFactor) :
    ∃ value : ℤ, .int value = factor := by
  cases factor with
  | int value => exact ⟨value, rfl⟩
  | float value => exact False.elim prime

theorem isPrimeFactor_of_mem_integerFactors {value amount : ℤ}
    (member : amount ∈ integerFactors value) : IsPrimeFactor (.int amount) := by
  rw [integerFactors_eq] at member
  rcases List.mem_append.mp member with sign | prime
  · split at sign
    · exact .inr (.inl (List.mem_singleton.mp sign))
    · cases sign
  · rcases List.mem_map.mp prime with ⟨divisor, divisorMember, rfl⟩
    exact .inr (.inr ⟨divisor, Nat.prime_of_mem_primeFactorsList divisorMember, rfl⟩)

/-- The factors of an integer, zero among them, are not taken apart any further. -/
theorem isPrimeFactor_of_mem_factors {value : ℤ} {factor : Number}
    (member : factor ∈ factors (.int value)) : factor.IsPrimeFactor := by
  by_cases zero : value = 0
  · simp only [factors, normalize, zero, if_true, List.mem_singleton] at member
    rw [member]
    exact .inl rfl
  · simp only [factors, normalize, zero, if_false] at member
    rcases List.mem_map.mp member with ⟨amount, amountMember, rfl⟩
    exact isPrimeFactor_of_mem_integerFactors amountMember

theorem IsPrimeFactor.factors_eq {factor : Number} (prime : factor.IsPrimeFactor) :
    factor.factors = [factor] := by
  cases factor with
  | float value => exact False.elim prime
  | int value =>
      rcases prime with rfl | rfl | ⟨divisor, isPrime, rfl⟩
      · rfl
      · decide +kernel
      · have nonzero : (divisor : ℤ) ≠ 0 := by exact_mod_cast isPrime.ne_zero
        simp only [factors, normalize, nonzero, if_false, integerFactors_prime isPrime]
        rfl

theorem IsPrimeFactor.ne_one {factor : Number} (prime : factor.IsPrimeFactor) : factor ≠ 1 := by
  rintro rfl
  rcases prime with zero | minus | ⟨divisor, isPrime, one⟩
  · exact absurd zero (by decide)
  · exact absurd minus (by decide)
  · exact isPrime.ne_one (by exact_mod_cast one.symm)

end Number
end Metrology
