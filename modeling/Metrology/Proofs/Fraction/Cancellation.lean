import Mathlib
import Metrology.Fraction

/-!
Cancelling as arithmetic on exponents. The exponent of a term says how much more
often it stands above than below. Products add exponents and reciprocals negate
them; cancelling keeps every exponent and leaves a term only on the side that the
sign of its exponent names. Two fractions with the same exponents are therefore
the same after cancellation, up to the order of their terms.
-/

namespace Metrology
namespace Fraction

variable {α β : Type} [BEq α] [BEq β]

/-- How much more often a term stands above than below. -/
def exponent (fraction : Fraction α) (term : α) : ℤ :=
  (fraction.above.count term : ℤ) - fraction.below.count term

@[simp] theorem exponent_empty : (empty : Fraction α).exponent = 0 := by
  funext term
  simp [exponent, empty]

@[simp] theorem exponent_times (left right : Fraction α) :
    (left.times right).exponent = left.exponent + right.exponent := by
  funext term
  simp only [exponent, times, List.count_append, Nat.cast_add, Pi.add_apply]
  ring

@[simp] theorem exponent_inverse (fraction : Fraction α) :
    fraction.inverse.exponent = -fraction.exponent := by
  funext term
  simp [exponent, inverse]

/-! ## Tallies -/

/-- The count of a term in a tally; a term that is not there counts zero. -/
def tallied (counts : List (α × ℤ)) (term : α) : ℤ := (counts.lookup term).getD 0

/-- The terms of a tally. -/
def terms (counts : List (α × ℤ)) : List α := counts.map (·.1)

omit [BEq α] [BEq β] in
theorem terms_map_neg (counts : List (α × ℤ)) :
    terms (counts.map fun (term, count) => (term, -count)) = terms counts := by
  simp [terms, Function.comp_def]

/-! ## Every term is tallied once

Nothing is asked of `==` here, not even that a term equals itself. -/

section Once

variable (amount : ℤ) {counts : List (α × ℤ)} {term : α}

/-- A new term goes to the end. -/
theorem tally_new (apart : ∀ entry ∈ counts, (entry.1 == term) = false) :
    tally amount counts term = counts ++ [(term, amount)] := by
  induction counts with
  | nil => rfl
  | cons entry rest induction =>
      rcases entry with ⟨other, count⟩
      have parts := List.forall_mem_cons.mp apart
      simp [tally, parts.1, induction parts.2]

/-- A term that is there already brings in none. -/
theorem terms_tally_of_held (held : ∃ entry ∈ counts, (entry.1 == term) = true) :
    terms (tally amount counts term) = terms counts := by
  induction counts with
  | nil => simp at held
  | cons entry rest induction =>
      rcases entry with ⟨other, count⟩
      cases same : other == term with
      | true => simp [tally, same, terms]
      | false =>
          have later : ∃ entry ∈ rest, (entry.1 == term) = true := by simpa [same] using held
          have kept := induction later
          simpa [tally, same, terms] using kept

theorem pairwise_tally
    (apart : (terms counts).Pairwise fun left right => (left == right) = false) (term : α) :
    (terms (tally amount counts term)).Pairwise fun left right => (left == right) = false := by
  by_cases held : ∃ entry ∈ counts, (entry.1 == term) = true
  · rwa [terms_tally_of_held amount held]
  · have new : ∀ entry ∈ counts, (entry.1 == term) = false := by simpa using held
    rw [tally_new amount new, terms, List.map_append]
    refine List.pairwise_append.mpr ⟨apart, List.pairwise_singleton _ _, ?_⟩
    intro other member last isLast
    rcases List.mem_map.mp member with ⟨entry, entryMember, rfl⟩
    rw [List.mem_singleton.mp isLast]
    exact new entry entryMember

theorem pairwise_foldl_tally (values : List α)
    (apart : (terms counts).Pairwise fun left right => (left == right) = false) :
    (terms (values.foldl (tally amount) counts)).Pairwise fun left right =>
      (left == right) = false := by
  induction values generalizing counts with
  | nil => exact apart
  | cons value rest induction => exact induction (pairwise_tally amount apart value)

/-- Net counts hold every term once. -/
theorem pairwise_netCounts (fraction : Fraction α) :
    (terms fraction.netCounts).Pairwise fun left right => (left == right) = false :=
  pairwise_foldl_tally _ _ (pairwise_foldl_tally _ _ List.Pairwise.nil)

end Once

section Lawful

variable [LawfulBEq α]

theorem tallied_cons_self (term : α) (count : ℤ) (rest : List (α × ℤ)) :
    tallied ((term, count) :: rest) term = count := by
  simp [tallied]

theorem tallied_cons_of_ne {term other : α} (different : term ≠ other) (count : ℤ)
    (rest : List (α × ℤ)) : tallied ((other, count) :: rest) term = tallied rest term := by
  have unequal : (term == other) = false := by simpa using different
  simp [tallied, List.lookup_cons, unequal]

theorem tallied_eq_zero {counts : List (α × ℤ)} {term : α} (absent : term ∉ terms counts) :
    tallied counts term = 0 := by
  induction counts with
  | nil => rfl
  | cons entry rest induction =>
      rcases entry with ⟨other, count⟩
      simp only [terms, List.map_cons, List.mem_cons, not_or] at absent
      rw [tallied_cons_of_ne absent.1]
      exact induction absent.2

/-- In a tally that holds every term once, the entries are the terms with their counts. -/
theorem mem_iff_tallied {counts : List (α × ℤ)} (nodup : (terms counts).Nodup)
    (term : α) (count : ℤ) :
    (term, count) ∈ counts ↔ term ∈ terms counts ∧ tallied counts term = count := by
  induction counts with
  | nil => simp [terms]
  | cons entry rest induction =>
      rcases entry with ⟨other, held⟩
      have parts := List.nodup_cons.mp nodup
      by_cases same : term = other
      · subst other
        have absent : (term, count) ∉ rest := fun member =>
          parts.1 (List.mem_map.mpr ⟨(term, count), member, rfl⟩)
        simp only [tallied_cons_self, terms, List.map_cons, List.mem_cons, Prod.mk.injEq,
          true_and, absent, or_false, true_or]
        exact eq_comm
      · rw [tallied_cons_of_ne same]
        simpa [terms, same] using induction parts.2

/-! ## One step of counting -/

theorem eraseDups_append_singleton (source : List α) (last : α) :
    (source ++ [last]).eraseDups =
      if last ∈ source then source.eraseDups else source.eraseDups ++ [last] := by
  rw [List.eraseDups_append]
  split
  · next again => simp [List.removeAll, again]
  · next new => simp [List.removeAll, new, List.eraseDups_cons]

/-- The terms that were seen are tallied in the order of their first occurrence. -/
theorem terms_tally (amount : ℤ) {counts : List (α × ℤ)} {seen : List α}
    (counted : terms counts = seen.eraseDups) (term : α) :
    terms (tally amount counts term) = (seen ++ [term]).eraseDups := by
  have held : term ∈ terms counts ↔ term ∈ seen := by rw [counted, List.mem_eraseDups]
  rw [eraseDups_append_singleton]
  split
  · next again =>
      rcases List.mem_map.mp (held.mpr again) with ⟨entry, member, rfl⟩
      rw [terms_tally_of_held amount ⟨entry, member, beq_self_eq_true entry.1⟩, counted]
  · next new =>
      have apart : ∀ entry ∈ counts, (entry.1 == term) = false := by
        intro entry member
        refine beq_eq_false_iff_ne.mpr fun same => new (held.mp ?_)
        exact same ▸ List.mem_map_of_mem member
      rw [tally_new amount apart, terms, List.map_append, ← counted]
      rfl

theorem tallied_tally (amount : ℤ) (counts : List (α × ℤ)) (term other : α) :
    tallied (tally amount counts term) other =
      tallied counts other + if other == term then amount else 0 := by
  induction counts with
  | nil =>
      by_cases same : other = term
      · subst other
        simp [tally, tallied]
      · rw [tally, tallied_cons_of_ne same]
        simp [same, tallied]
  | cons entry rest induction =>
      rcases entry with ⟨held, count⟩
      by_cases same : held = term <;> by_cases found : other = held
      · subst held
        subst term
        simp [tally, tallied_cons_self]
      · subst held
        simp [tally, tallied_cons_of_ne found, found]
      · subst held
        simp [tally, same, tallied_cons_self]
      · simp [tally, same, tallied_cons_of_ne found, induction]

/-! ## A whole list of terms -/

theorem terms_foldl_tally (amount : ℤ) (values : List α) {counts : List (α × ℤ)} {seen : List α}
    (counted : terms counts = seen.eraseDups) :
    terms (values.foldl (tally amount) counts) = (seen ++ values).eraseDups := by
  induction values generalizing counts seen with
  | nil => rw [List.foldl_nil, List.append_nil, counted]
  | cons value rest induction =>
      rw [List.foldl_cons, induction (terms_tally amount counted value), ← List.append_cons]

theorem tallied_foldl_tally (amount : ℤ) (values : List α) (counts : List (α × ℤ))
    (other : α) :
    tallied (values.foldl (tally amount) counts) other =
      tallied counts other + amount * values.count other := by
  induction values generalizing counts with
  | nil => simp
  | cons value rest induction =>
      rw [List.foldl_cons, induction, tallied_tally]
      by_cases same : other = value
      · subst value
        simp only [beq_self_eq_true, if_true, List.count_cons_self]
        push_cast
        ring
      · have different : (value == other) = false := by simpa using Ne.symm same
        simp [same, List.count_cons, different]

/-! ## Net counts -/

theorem nodup_terms_netCounts (fraction : Fraction α) : (terms fraction.netCounts).Nodup :=
  fraction.pairwise_netCounts.imp fun unequal => beq_eq_false_iff_ne.mp unequal

/-- Net counts list the terms in the order of their first occurrence, above before below. -/
theorem terms_netCounts (fraction : Fraction α) :
    terms fraction.netCounts = (fraction.above ++ fraction.below).eraseDups := by
  have nothing : terms ([] : List (α × ℤ)) = ([] : List α).eraseDups := rfl
  exact terms_foldl_tally _ _ (terms_foldl_tally _ _ nothing)

theorem mem_terms_netCounts (fraction : Fraction α) (term : α) :
    term ∈ terms fraction.netCounts ↔ term ∈ fraction.above ∨ term ∈ fraction.below := by
  rw [terms_netCounts, List.mem_eraseDups, List.mem_append]

theorem tallied_netCounts (fraction : Fraction α) (term : α) :
    tallied fraction.netCounts term = fraction.exponent term := by
  rw [netCounts, tallied_foldl_tally, tallied_foldl_tally]
  simp [tallied, exponent]
  ring

/-- The net counts are the terms of both sides, each with its exponent. -/
theorem mem_netCounts (fraction : Fraction α) (term : α) (count : ℤ) :
    (term, count) ∈ fraction.netCounts ↔
      (term ∈ fraction.above ∨ term ∈ fraction.below) ∧ fraction.exponent term = count := by
  rw [mem_iff_tallied fraction.nodup_terms_netCounts, mem_terms_netCounts, tallied_netCounts]

/-! ## Cancelling -/

theorem count_expand {counts : List (α × ℤ)} (nodup : (terms counts).Nodup) (term : α) :
    (expand counts).count term = (tallied counts term).toNat := by
  induction counts with
  | nil => rfl
  | cons entry rest induction =>
      rcases entry with ⟨held, count⟩
      have parts := List.nodup_cons.mp nodup
      have expanded : expand ((held, count) :: rest) =
          List.replicate count.toNat held ++ expand rest := rfl
      rw [expanded, List.count_append, induction parts.2]
      by_cases same : term = held
      · subst held
        rw [tallied_cons_self, tallied_eq_zero parts.1, List.count_replicate_self]
        rfl
      · rw [tallied_cons_of_ne same, List.count_replicate]
        simp [Ne.symm same]

theorem tallied_map_neg (counts : List (α × ℤ)) (term : α) :
    tallied (counts.map fun (other, count) => (other, -count)) term = -tallied counts term := by
  induction counts with
  | nil => rfl
  | cons entry rest induction =>
      rcases entry with ⟨held, count⟩
      by_cases same : term = held
      · subst held
        simp [tallied_cons_self]
      · simpa [tallied_cons_of_ne same] using induction

theorem count_above_cancel (fraction : Fraction α) (term : α) :
    fraction.cancel.above.count term = (fraction.exponent term).toNat := by
  rw [← tallied_netCounts]
  exact count_expand fraction.nodup_terms_netCounts term

theorem count_below_cancel (fraction : Fraction α) (term : α) :
    fraction.cancel.below.count term = (-fraction.exponent term).toNat := by
  have nodup : (terms (fraction.netCounts.map fun (other, count) => (other, -count))).Nodup := by
    rw [terms_map_neg]
    exact fraction.nodup_terms_netCounts
  rw [← tallied_netCounts, ← tallied_map_neg]
  exact count_expand nodup term

/-- Cancelling changes no exponent. -/
@[simp] theorem exponent_cancel (fraction : Fraction α) :
    fraction.cancel.exponent = fraction.exponent := by
  funext term
  rw [exponent, count_above_cancel, count_below_cancel]
  omega

/-- After cancellation the exponents determine what stands above, up to order. -/
theorem above_cancel_perm {left right : Fraction α} (same : left.exponent = right.exponent) :
    left.cancel.above.Perm right.cancel.above := by
  rw [List.perm_iff_count]
  intro term
  rw [count_above_cancel, count_above_cancel, same]

/-- After cancellation the exponents determine what stands below, up to order. -/
theorem below_cancel_perm {left right : Fraction α} (same : left.exponent = right.exponent) :
    left.cancel.below.Perm right.cancel.below := by
  rw [List.perm_iff_count]
  intro term
  rw [count_below_cancel, count_below_cancel, same]

/-- Where no term is left over, everything cancels. -/
theorem cancel_eq_empty {fraction : Fraction α} (balanced : fraction.exponent = 0) :
    fraction.cancel = empty := by
  have same : fraction.exponent = (empty : Fraction α).exponent := by
    rw [balanced, exponent_empty]
  have above : fraction.cancel.above = [] := (above_cancel_perm same).eq_nil
  have below : fraction.cancel.below = [] := (below_cancel_perm same).eq_nil
  calc
    fraction.cancel = ⟨fraction.cancel.above, fraction.cancel.below⟩ := rfl
    _ = empty := by rw [above, below]; rfl

end Lawful

/-! ## Renaming terms

A renaming that keeps apart what `==` keeps apart commutes with counting and cancelling. -/

section Renaming

variable {convert : α → β}

theorem tally_map (faithful : ∀ left right, (convert left == convert right) = (left == right))
    (amount : ℤ) (counts : List (α × ℤ)) (term : α) :
    tally amount (counts.map (Prod.map convert id)) (convert term) =
      (tally amount counts term).map (Prod.map convert id) := by
  induction counts with
  | nil => rfl
  | cons entry rest induction =>
      rcases entry with ⟨held, count⟩
      cases same : held == term with
      | true => simp [tally, faithful, same]
      | false => simpa [tally, faithful, same] using induction

theorem foldl_tally_map
    (faithful : ∀ left right, (convert left == convert right) = (left == right))
    (amount : ℤ) (values : List α) (counts : List (α × ℤ)) :
    (values.map convert).foldl (tally amount) (counts.map (Prod.map convert id)) =
      (values.foldl (tally amount) counts).map (Prod.map convert id) := by
  induction values generalizing counts with
  | nil => rfl
  | cons value rest induction =>
      rw [List.map_cons, List.foldl_cons, List.foldl_cons, tally_map faithful, induction]

theorem netCounts_map
    (faithful : ∀ left right, (convert left == convert right) = (left == right))
    (fraction : Fraction α) :
    (fraction.map convert).netCounts = fraction.netCounts.map (Prod.map convert id) := by
  have above : (fraction.above.map convert).foldl (tally 1) [] =
      (fraction.above.foldl (tally 1) []).map (Prod.map convert id) :=
    foldl_tally_map faithful 1 fraction.above []
  change (fraction.below.map convert).foldl (tally (-1))
      ((fraction.above.map convert).foldl (tally 1) []) = _
  rw [above]
  exact foldl_tally_map faithful (-1) fraction.below _

omit [BEq α] [BEq β] in
theorem expand_map (counts : List (α × ℤ)) :
    expand (counts.map (Prod.map convert id)) = (expand counts).map convert := by
  simp [expand, List.flatMap_map, List.map_flatMap]

theorem cancel_map
    (faithful : ∀ left right, (convert left == convert right) = (left == right))
    (fraction : Fraction α) :
    (fraction.map convert).cancel = fraction.cancel.map convert := by
  have negated :
      (fraction.netCounts.map (Prod.map convert id)).map (fun (term, count) => (term, -count)) =
        (fraction.netCounts.map fun (term, count) => (term, -count)).map (Prod.map convert id) := by
    simp [Function.comp_def]
  rw [cancel, netCounts_map faithful]
  simp only [negated, expand_map]
  rfl

end Renaming

end Fraction
end Metrology
