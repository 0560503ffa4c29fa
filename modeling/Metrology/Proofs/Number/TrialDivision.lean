import Mathlib
import Metrology.Proofs.Number.PrimeFactors

/-!
Trial division step by step. A number is halved while it is even; then odd divisors are tried
as long as they do not exceed the root of what remains, which is taken anew only when a divisor
goes in. A divisor that goes in is tried again. Every step makes what remains smaller or the
divisor larger, so the steps come to an end, and what they have found by then are the prime
factors.
-/

namespace Metrology

/-- Trial division on its way: the factors found so far and what remains of the number. -/
inductive Trial where
  | halving (found : List ℕ) (rest : ℕ)
  | dividing (found : List ℕ) (rest divisor root : ℕ)

namespace Trial

/-- One step; none once the divisor exceeds the root. -/
def step? : Trial → Option Trial
  | halving found rest =>
      if rest % 2 = 0 then some (halving (found ++ [2]) (rest / 2))
      else some (dividing found rest 3 rest.sqrt)
  | dividing found rest divisor root =>
      if divisor ≤ root then
        if rest % divisor = 0 then
          some (dividing (found ++ [divisor]) (rest / divisor) divisor (rest / divisor).sqrt)
        else some (dividing found rest (divisor + 2) root)
      else none

/-- The factors when no step is left: what remains is one of them unless it is one. -/
def factors : Trial → List ℕ
  | halving found rest => found ++ if 1 < rest then [rest] else []
  | dividing found rest _ _ => found ++ if 1 < rest then [rest] else []

def StepsTo (trial next : Trial) : Prop := trial.step? = some next

/-- Steps lead from one state to another in which there is no further step. -/
def Reaches (trial final : Trial) : Prop :=
  Relation.ReflTransGen StepsTo trial final ∧ final.step? = none

/-! ## What steps preserve -/

/-- The prime factors of `value` are those found and those of what remains, which has none
below the divisor; the root is that of what remains. -/
def IsSound (value : ℕ) : Trial → Prop
  | halving found rest => 0 < rest ∧ found ++ rest.primeFactorsList = value.primeFactorsList
  | dividing found rest divisor root =>
      0 < rest ∧ found ++ rest.primeFactorsList = value.primeFactorsList ∧
        HasNoFactorBelow divisor rest ∧ 3 ≤ divisor ∧ divisor % 2 = 1 ∧ root = rest.sqrt

variable {value : ℕ} {trial next : Trial}

theorem isSound_start (positive : 0 < value) : IsSound value (halving [] value) :=
  ⟨positive, List.nil_append _⟩

/-- A divisor that goes in is the least prime factor of what remains. -/
theorem append_primeFactorsList {found : List ℕ} {rest divisor : ℕ}
    (above : HasNoFactorBelow divisor rest) (atLeastTwo : 2 ≤ divisor) (positive : 0 < rest)
    (divides : divisor ∣ rest) :
    found ++ [divisor] ++ (rest / divisor).primeFactorsList = found ++ rest.primeFactorsList := by
  have large : divisor ≤ rest := Nat.le_of_dvd positive divides
  have smallest := above.minFac_eq atLeastTwo divides (by omega)
  rw [primeFactorsList_of_minFac_eq (by omega) smallest, List.append_assoc, List.singleton_append]

theorem IsSound.step (sound : IsSound value trial) (stepped : trial.step? = some next) :
    IsSound value next := by
  cases trial with
  | halving found rest =>
      rcases sound with ⟨positive, same⟩
      rw [step?] at stepped
      split at stepped
      · next even =>
          cases stepped
          have divides : 2 ∣ rest := Nat.dvd_of_mod_eq_zero even
          exact ⟨Nat.div_pos (Nat.le_of_dvd positive divides) two_pos,
            (append_primeFactorsList (.two rest) le_rfl positive divides).trans same⟩
      · next odd =>
          cases stepped
          have indivisible : ¬2 ∣ rest := fun divides => odd (Nat.mod_eq_zero_of_dvd divides)
          have above : HasNoFactorBelow (nextDivisor 2) rest :=
            (HasNoFactorBelow.two rest).next le_rfl indivisible
          exact ⟨positive, same, above, le_rfl, rfl, rfl⟩
  | dividing found rest divisor root =>
      rcases sound with ⟨positive, same, above, atLeastThree, odd, rootEq⟩
      have atLeastTwo : 2 ≤ divisor := by omega
      rw [step?] at stepped
      split at stepped
      · split at stepped
        · next divisible =>
            cases stepped
            have divides : divisor ∣ rest := Nat.dvd_of_mod_eq_zero divisible
            exact ⟨Nat.div_pos (Nat.le_of_dvd positive divides) (by omega),
              (append_primeFactorsList above atLeastTwo positive divides).trans same,
              above.of_dvd (Nat.div_dvd_of_dvd divides), atLeastThree, odd, rfl⟩
        · next remains =>
            cases stepped
            have indivisible : ¬divisor ∣ rest := fun divides =>
              remains (Nat.mod_eq_zero_of_dvd divides)
            have following : nextDivisor divisor = divisor + 2 := by
              rw [nextDivisor, odd]
            have passed := above.next atLeastTwo indivisible
            rw [following] at passed
            exact ⟨positive, same, passed, by omega, by omega, rootEq⟩
      · cases stepped

/-- Where no step is left the factors are the prime factors. -/
theorem IsSound.factors_eq (sound : IsSound value trial) (ended : trial.step? = none) :
    trial.factors = value.primeFactorsList := by
  cases trial with
  | halving found rest =>
      rw [step?] at ended
      split at ended <;> cases ended
  | dividing found rest divisor root =>
      rcases sound with ⟨positive, same, above, atLeastThree, odd, rfl⟩
      rw [step?] at ended
      have exceeded : rest < divisor * divisor := by
        by_contra reached
        rw [if_pos (Nat.le_sqrt.mpr (not_lt.mp reached))] at ended
        split at ended <;> cases ended
      rw [factors, ← same]
      split
      · next large => rw [Nat.primeFactorsList_prime (above.prime exceeded large)]
      · next small =>
          have one : rest = 1 := by omega
          rw [one, Nat.primeFactorsList_one]

/-! ## The end -/

/-- How far it is to the end: what remains, less the divisor that is tried. -/
def distance : Trial → ℕ
  | halving _ rest => rest + 2
  | dividing _ rest divisor _ => rest - divisor + 1

theorem IsSound.distance_lt (sound : IsSound value trial) (stepped : trial.step? = some next) :
    next.distance < trial.distance := by
  cases trial with
  | halving found rest =>
      rcases sound with ⟨positive, _⟩
      rw [step?] at stepped
      split at stepped
      · cases stepped
        have less : rest / 2 < rest := Nat.div_lt_self positive one_lt_two
        exact Nat.add_lt_add_right less 2
      · cases stepped
        rw [distance, distance]
        omega
  | dividing found rest divisor root =>
      rcases sound with ⟨positive, _, _, atLeastThree, _, rfl⟩
      rw [step?] at stepped
      split at stepped
      · next reached =>
          have smaller := lt_of_square_le (by omega) (Nat.le_sqrt.mp reached)
          split at stepped
          · cases stepped
            have less : rest / divisor < rest := Nat.div_lt_self positive (by omega)
            rw [distance, distance]
            omega
          · cases stepped
            rw [distance, distance]
            omega
      · cases stepped

/-- Trial division ends, and then it has found the prime factors. -/
theorem IsSound.exists_reaches (sound : IsSound value trial) :
    ∃ final, Reaches trial final ∧ final.factors = value.primeFactorsList := by
  induction remaining : trial.distance using Nat.strong_induction_on generalizing trial with
  | _ remaining induction =>
      subst remaining
      cases stepped : trial.step? with
      | none => exact ⟨trial, ⟨.refl, stepped⟩, sound.factors_eq stepped⟩
      | some next =>
          rcases induction next.distance (sound.distance_lt stepped) (sound.step stepped) rfl with
            ⟨final, reaches, found⟩
          exact ⟨final, ⟨reaches.1.head stepped, reaches.2⟩, found⟩

/-- The steps of trial division come to an end for every integer but zero. The factors of the
integer are a minus one if it is negative, and then the primes that were found, in ascending
order; their product is its absolute value. -/
theorem finds_prime_factors (value : ℤ) (nonzero : value ≠ 0) :
    ∃ final, Reaches (halving [] value.natAbs) final ∧
      Number.factors (.int value) =
        ((if value < 0 then [-1] else []) ++ final.factors.map Int.ofNat).map .int ∧
      final.factors.SortedLE ∧ (∀ factor ∈ final.factors, factor.Prime) ∧
      final.factors.prod = value.natAbs ∧ (final.factors = [] ↔ value.natAbs = 1) := by
  have positive : 0 < value.natAbs := Int.natAbs_pos.mpr nonzero
  rcases (isSound_start positive).exists_reaches with ⟨final, reaches, found⟩
  refine ⟨final, reaches, ?factors, ?ascending, ?prime, ?product, ?empty⟩
  case factors =>
    rw [Number.factors, Number.normalize, found, ← integerFactors_eq]
    exact if_neg nonzero
  case ascending =>
    rw [found]
    exact value.natAbs.primeFactorsList_sorted
  case prime =>
    rw [found]
    exact fun factor => Nat.prime_of_mem_primeFactorsList
  case product =>
    rw [found, Nat.prod_primeFactorsList positive.ne']
  case empty =>
    rw [found, Nat.primeFactorsList_eq_nil]
    exact or_iff_right positive.ne'

/-- Minus ninety-eight has the factor seven twice, which is tried again after it has gone in. -/
theorem finds_prime_factors_negative :
    (-98 : ℤ) ≠ 0 ∧ Number.factors (.int (-98)) = [.int (-1), 2, 7, 7] ∧
      ∃ final, Reaches (halving [] 98) final ∧ final.factors = [2, 7, 7] := by
  have nonzero : (-98 : ℤ) ≠ 0 := by decide
  rcases finds_prime_factors (-98) nonzero with ⟨final, reaches, factors, _⟩
  have listed : Number.factors (.int (-98)) = [.int (-1), 2, 7, 7] := by decide +kernel
  refine ⟨nonzero, listed, final, reaches, ?_⟩
  have same : (([-1] ++ final.factors.map Int.ofNat).map Number.int) =
      (([-1] ++ [2, 7, 7].map Int.ofNat).map Number.int) := factors.symm.trans listed
  have inner := (List.map_injective_iff.mpr fun _ _ => Number.int.inj) same
  exact (List.map_injective_iff.mpr fun _ _ => Int.ofNat.inj) (List.append_cancel_left inner)

end Trial
end Metrology
