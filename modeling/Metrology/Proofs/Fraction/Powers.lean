import Mathlib
import Metrology.Proofs.Fraction.Cancellation

/-!
Powers of cancelled fractions. A cancelled fraction lists every term on one side only, all of
it in one place. Multiplying two of its powers therefore counts the terms in the order in which
they stand, whichever power comes first, and what is left after cancelling is the fraction with
every term in its place as often as the two powers have it together. Of terms no more is needed
than that each of them equals itself.
-/

namespace Metrology
namespace Fraction

variable {α : Type}

/-- The fraction with every term in its place repeated so many times. -/
def repeated (count : ℕ) (fraction : Fraction α) : Fraction α :=
  ⟨fraction.above.flatMap (List.replicate count), fraction.below.flatMap (List.replicate count)⟩

@[simp] theorem repeated_one (fraction : Fraction α) : fraction.repeated 1 = fraction := by
  have single : (List.replicate 1 : α → List α) = fun term => [term] := rfl
  simp only [repeated, single, List.flatMap_singleton']

/-! ## Runs of terms -/

/-- Every term as often as it is counted. -/
def runs (entries : List (α × ℕ)) : List α :=
  entries.flatMap fun (term, count) => List.replicate count term

/-- A multiple of every count. -/
def scaled (factor : ℕ) (entries : List (α × ℕ)) : List (α × ℕ) :=
  entries.map (Prod.map id (factor * ·))

/-- A multiple of every count, with a sign. -/
def weighted (factor : ℤ) (entries : List (α × ℕ)) : List (α × ℤ) :=
  entries.map (Prod.map id fun count : ℕ => factor * count)

section Entries

variable (term : α) (count : ℕ) (rest : List (α × ℕ))

theorem runs_cons : runs ((term, count) :: rest) = List.replicate count term ++ runs rest := rfl

theorem scaled_cons (factor : ℕ) :
    scaled factor ((term, count) :: rest) = (term, factor * count) :: scaled factor rest := rfl

theorem weighted_cons (factor : ℤ) :
    weighted factor ((term, count) :: rest) = (term, factor * count) :: weighted factor rest := rfl

end Entries

theorem flatMap_replicate_runs (factor : ℕ) (entries : List (α × ℕ)) :
    (runs entries).flatMap (List.replicate factor) = runs (scaled factor entries) := by
  induction entries with
  | nil => rfl
  | cons entry rest induction =>
      rcases entry with ⟨term, count⟩
      rw [runs_cons, scaled_cons, runs_cons, List.flatMap_append, induction,
        List.flatMap_replicate, List.flatten_replicate_replicate, mul_comm]

theorem repeated_runs (count : ℕ) (above below : List (α × ℕ)) :
    repeated count ⟨runs above, runs below⟩ = ⟨runs (scaled count above), runs (scaled count below)⟩ :=
  congrArg₂ Fraction.mk (flatMap_replicate_runs count above) (flatMap_replicate_runs count below)

theorem runs_scaled_zero (entries : List (α × ℕ)) : runs (scaled 0 entries) = [] := by
  simp [runs, scaled, List.flatMap_map]

theorem weighted_neg (factor : ℤ) (entries : List (α × ℕ)) :
    (weighted factor entries).map (fun (term, count) => (term, -count)) =
      weighted (-factor) entries := by
  simp [weighted, Function.comp_def, Prod.map]

/-- Only positive counts are written out. -/
theorem expand_weighted (factor : ℤ) (entries : List (α × ℕ)) :
    expand (weighted factor entries) = runs (scaled factor.toNat entries) := by
  have natural (count : ℕ) : (factor * count).toNat = factor.toNat * count := by
    rcases le_or_gt 0 factor with notNegative | negative
    · rw [Int.toNat_mul notNegative (Int.natCast_nonneg count), Int.toNat_natCast]
    · have product := Int.mul_nonpos_of_nonpos_of_nonneg negative.le (Int.natCast_nonneg count)
      rw [Int.toNat_of_nonpos product, Int.toNat_of_nonpos negative.le, Nat.zero_mul]
  simp only [expand, weighted, runs, scaled, List.flatMap_map, natural, Prod.map, id]

theorem expand_append (left right : List (α × ℤ)) :
    expand (left ++ right) = expand left ++ expand right := List.flatMap_append

variable [BEq α]

/-! ## Counting one run -/

section Counting

variable (amount : ℤ) {term : α} (itself : (term == term) = true)

include itself

/-- A term that is there already is counted where it stands. -/
theorem tally_held {before : List (α × ℤ)}
    (apart : ∀ entry ∈ before, (entry.1 == term) = false) (held : ℤ) (after : List (α × ℤ)) :
    tally amount (before ++ (term, held) :: after) term =
      before ++ (term, held + amount) :: after := by
  induction before with
  | nil => simp [tally, itself]
  | cons entry rest induction =>
      rcases entry with ⟨other, count⟩
      have parts := List.forall_mem_cons.mp apart
      simp [tally, parts.1, induction parts.2]

theorem foldl_tally_held {before : List (α × ℤ)}
    (apart : ∀ entry ∈ before, (entry.1 == term) = false) (held : ℤ) (after : List (α × ℤ))
    (count : ℕ) :
    (List.replicate count term).foldl (tally amount) (before ++ (term, held) :: after) =
      before ++ (term, held + amount * count) :: after := by
  induction count generalizing held with
  | zero => simp
  | succ count induction =>
      have total : held + amount + amount * count = held + amount * (count + 1 : ℕ) := by
        push_cast
        ring
      rw [List.replicate_succ, List.foldl_cons, tally_held amount itself apart, induction, total]

theorem foldl_tally_new {counts : List (α × ℤ)}
    (apart : ∀ entry ∈ counts, (entry.1 == term) = false) {count : ℕ} (positive : 0 < count) :
    (List.replicate count term).foldl (tally amount) counts =
      counts ++ [(term, amount * count)] := by
  rcases Nat.exists_eq_add_of_le' positive with ⟨count, rfl⟩
  have total : amount + amount * count = amount * (count + 1 : ℕ) := by
    push_cast
    ring
  rw [List.replicate_succ, List.foldl_cons, tally_new amount apart,
    foldl_tally_held amount itself apart, total]

end Counting

/-! ## Counting all runs of one side -/

/-- Entries whose terms can be told from one another and from those of `counts`. -/
structure AreApart (counts : List (α × ℤ)) (entries : List (α × ℕ)) : Prop where
  positive : ∀ entry ∈ entries, 0 < entry.2
  itself : ∀ entry ∈ entries, (entry.1 == entry.1) = true
  outside : ∀ entry ∈ entries, ∀ held ∈ counts, (held.1 == entry.1) = false
  pairwise : entries.Pairwise fun left right => (left.1 == right.1) = false

namespace AreApart

variable {counts : List (α × ℤ)} {entries above below : List (α × ℕ)}

theorem tail {entry : α × ℕ} {rest : List (α × ℕ)} (apart : AreApart counts (entry :: rest))
    (held : ℤ) : AreApart (counts ++ [(entry.1, held)]) rest where
  positive := (List.forall_mem_cons.mp apart.positive).2
  itself := (List.forall_mem_cons.mp apart.itself).2
  outside := by
    intro other member
    rw [List.forall_mem_append, List.forall_mem_singleton]
    exact ⟨apart.outside other (List.mem_cons_of_mem _ member),
      List.rel_of_pairwise_cons apart.pairwise member⟩
  pairwise := (List.pairwise_cons.mp apart.pairwise).2

/-- Terms that are counted for the first time. -/
theorem foldl_new (apart : AreApart counts entries) (amount : ℤ) {factor : ℕ}
    (positive : 0 < factor) :
    (runs (scaled factor entries)).foldl (tally amount) counts =
      counts ++ weighted (amount * factor) entries := by
  induction entries generalizing counts with
  | nil => exact (List.append_nil counts).symm
  | cons entry rest induction =>
      rcases entry with ⟨term, count⟩
      have first := foldl_tally_new amount (apart.itself _ (List.mem_cons_self ..))
        (apart.outside _ (List.mem_cons_self ..))
        (Nat.mul_pos positive (apart.positive _ (List.mem_cons_self ..)))
      rw [scaled_cons, runs_cons, List.foldl_append, first, induction (apart.tail _),
        weighted_cons, Nat.cast_mul, ← mul_assoc, ← List.append_cons]

/-- Terms that are counted already. -/
theorem foldl_held (apart : AreApart counts entries) (amount held : ℤ) (factor : ℕ) :
    (runs (scaled factor entries)).foldl (tally amount) (counts ++ weighted held entries) =
      counts ++ weighted (held + amount * factor) entries := by
  induction entries generalizing counts with
  | nil => rfl
  | cons entry rest induction =>
      rcases entry with ⟨term, count⟩
      have first := foldl_tally_held amount (apart.itself _ (List.mem_cons_self ..))
        (apart.outside _ (List.mem_cons_self ..)) (held * count) (weighted held rest)
        (factor * count)
      have total : held * count + amount * (factor * count : ℕ) =
          (held + amount * factor) * count := by
        push_cast
        ring
      rw [scaled_cons, runs_cons, List.foldl_append, weighted_cons, first, total,
        List.append_cons, induction (apart.tail _), weighted_cons, ← List.append_cons]

theorem left (apart : AreApart [] (above ++ below)) : AreApart [] above where
  positive := (List.forall_mem_append.mp apart.positive).1
  itself := (List.forall_mem_append.mp apart.itself).1
  outside := fun _ _ _ none => absurd none List.not_mem_nil
  pairwise := (List.pairwise_append.mp apart.pairwise).1

theorem right (apart : AreApart [] (above ++ below)) (factor : ℤ) :
    AreApart (weighted factor above) below where
  positive := (List.forall_mem_append.mp apart.positive).2
  itself := (List.forall_mem_append.mp apart.itself).2
  outside := by
    intro entry member held heldMember
    rcases List.mem_map.mp heldMember with ⟨other, otherMember, rfl⟩
    exact (List.pairwise_append.mp apart.pairwise).2.2 other otherMember entry member
  pairwise := (List.pairwise_append.mp apart.pairwise).2.1

/-- Two powers are counted as one, first what stands above and then what stands below. -/
theorem netCounts_times (apart : AreApart [] (above ++ below)) {first : ℕ} (positive : 0 < first)
    (second : ℕ) :
    (times ⟨runs (scaled first above), runs (scaled first below)⟩
      ⟨runs (scaled second above), runs (scaled second below)⟩).netCounts =
      weighted (first + second) above ++ weighted (-(first + second)) below := by
  have start := apart.left.foldl_new 1 positive
  have more := apart.left.foldl_held 1 first second
  rw [one_mul, List.nil_append] at start
  rw [one_mul, List.nil_append, List.nil_append] at more
  have beside := apart.right (first + second)
  have sign : -1 * (first : ℤ) + -1 * second = -(first + second) := by ring
  rw [netCounts, times]
  simp only [List.foldl_append]
  rw [start, more, beside.foldl_new (-1) positive, beside.foldl_held (-1) _ second, sign]

end AreApart

/-! ## Settled fractions -/

/-- Fractions in which every term stands on one side only, all of it in one place, and equals
itself. -/
def IsSettled (fraction : Fraction α) : Prop :=
  ∃ above below, fraction = ⟨runs above, runs below⟩ ∧ AreApart [] (above ++ below)

/-- The product of two powers is the power that repeats every term as often as both do. -/
theorem IsSettled.cancel_times {fraction : Fraction α} (settled : fraction.IsSettled)
    {first : ℕ} (positive : 0 < first) (second : ℕ) :
    ((fraction.repeated first).times (fraction.repeated second)).cancel =
      fraction.repeated (first + second) := by
  rcases settled with ⟨above, below, rfl, apart⟩
  have total : ((first : ℤ) + second).toNat = first + second := by omega
  have none : (-((first : ℤ) + second)).toNat = 0 := by omega
  rw [repeated_runs, repeated_runs, repeated_runs, cancel, apart.netCounts_times positive second]
  simp only [List.map_append, weighted_neg, neg_neg, expand_append, expand_weighted, total, none,
    runs_scaled_zero, List.append_nil, List.nil_append]

/-! ## What cancelling leaves -/

/-- The terms of which something is left over, and how much. -/
def leftOver (measure : ℤ → ℕ) (counts : List (α × ℤ)) : List (α × ℕ) :=
  (counts.map (Prod.map id measure)).filter (0 < ·.2)

omit [BEq α] in
theorem mem_leftOver {measure : ℤ → ℕ} {counts : List (α × ℤ)} {entry : α × ℕ}
    (member : entry ∈ leftOver measure counts) :
    0 < entry.2 ∧ ∃ count, (entry.1, count) ∈ counts ∧ measure count = entry.2 := by
  rcases List.mem_filter.mp member with ⟨mapped, positive⟩
  rcases List.mem_map.mp mapped with ⟨⟨term, count⟩, listed, rfl⟩
  exact ⟨of_decide_eq_true positive, count, listed, rfl⟩

omit [BEq α] in
theorem runs_leftOver (measure : ℤ → ℕ) (counts : List (α × ℤ)) :
    runs (leftOver measure counts) =
      counts.flatMap fun (term, count) => List.replicate (measure count) term := by
  induction counts with
  | nil => rfl
  | cons entry rest induction =>
      rcases entry with ⟨term, count⟩
      rw [List.flatMap_cons, ← induction, leftOver, List.map_cons, List.filter_cons]
      split
      · rfl
      · next none =>
          have zero : measure count = 0 := by simpa using none
          dsimp only
          rw [zero]
          rfl

omit [BEq α] in
theorem mem_runs {entries : List (α × ℕ)} {entry : α × ℕ} (member : entry ∈ entries)
    (positive : 0 < entry.2) : entry.1 ∈ runs entries :=
  List.mem_flatMap.mpr ⟨entry, member, List.mem_replicate.mpr ⟨positive.ne', rfl⟩⟩

/-- Cancelling settles a fraction of which no term is left that differs from itself. -/
theorem isSettled_cancel (comm : ∀ left right : α, (left == right) = (right == left))
    {fraction : Fraction α}
    (itself : ∀ term ∈ fraction.cancel.above ++ fraction.cancel.below, (term == term) = true) :
    fraction.cancel.IsSettled := by
  have apart := List.pairwise_map.mp fraction.pairwise_netCounts
  have kept (measure : ℤ → ℕ) : (leftOver measure fraction.netCounts).Pairwise fun left right =>
      (left.1 == right.1) = false := by
    exact (List.pairwise_map.mpr apart).filter _
  have above : fraction.cancel.above = runs (leftOver Int.toNat fraction.netCounts) :=
    (runs_leftOver ..).symm
  have below : fraction.cancel.below =
      runs (leftOver (fun count => (-count).toNat) fraction.netCounts) := by
    rw [runs_leftOver]
    exact List.flatMap_map ..
  refine ⟨_, _, congrArg₂ Fraction.mk above below, ?_⟩
  rw [above, below] at itself
  refine ⟨fun entry member => ?_, fun entry member => ?_, fun _ _ _ none => ?_, ?_⟩
  · rcases List.mem_append.mp member with stands | stands <;> exact (mem_leftOver stands).1
  · apply itself
    rcases List.mem_append.mp member with stands | stands
    · exact List.mem_append_left _ (mem_runs stands (mem_leftOver stands).1)
    · exact List.mem_append_right _ (mem_runs stands (mem_leftOver stands).1)
  · exact absurd none List.not_mem_nil
  · refine List.pairwise_append.mpr ⟨kept _, kept _, fun left leftMember right rightMember => ?_⟩
    rcases mem_leftOver leftMember with ⟨leftPositive, leftCount, leftListed, leftSame⟩
    rcases mem_leftOver rightMember with ⟨rightPositive, rightCount, rightListed, rightSame⟩
    -- One count is positive and the other is negative, so the two entries are not the same.
    have different : (left.1, leftCount) ≠ (right.1, rightCount) := by
      intro same
      have counts : leftCount = rightCount := congrArg Prod.snd same
      omega
    have symmetric : Std.Symm fun left right : α × ℤ => (left.1 == right.1) = false :=
      ⟨fun left right unequal => (comm _ _).trans unequal⟩
    exact apart.forall leftListed rightListed different

end Fraction
end Metrology
