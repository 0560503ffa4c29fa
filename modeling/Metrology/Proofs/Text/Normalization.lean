import Mathlib
import Metrology.Proofs.Text.Ordering

/-!
Composition is idempotent, and it works on both sides of a starter that nothing before it takes up
separately.
-/

namespace Metrology
namespace Composition

/-! ## Starters

A code point that is no mark parts a text in two, unless something before it takes it up. -/

section Starter

variable {starter : ℕ} (free : combiningClass starter = 0)

include free

theorem insertMark_append_starter (code : ℕ) (reversed prior : List ℕ) :
    insertMark code (reversed ++ starter :: prior) =
      insertMark code reversed ++ starter :: prior := by
  induction reversed with
  | nil => exact insertMark_of_follows (by simp [Follows, free])
  | cons last reversed induction =>
      rw [List.cons_append, insertMark, insertMark, induction]
      split <;> rfl

theorem insertMarks_append_starter (codes reversed prior : List ℕ) :
    insertMarks (reversed ++ starter :: prior) codes =
      insertMarks reversed codes ++ starter :: prior := by
  induction codes generalizing reversed with
  | nil => rfl
  | cons code codes induction =>
      rw [insertMarks_cons, insertMark_append_starter free, induction, insertMarks_cons]

theorem orderMarks_append_starter (before after : List ℕ) :
    orderMarks (before ++ starter :: after) =
      orderMarks before ++ starter :: orderMarks after := by
  have split := insertMarks_append_starter free after [] (insertMarks [] before)
  rw [List.nil_append] at split
  rw [orderMarks_eq, insertMarks_append, insertMarks_cons,
    insertMark_of_combiningClass_eq_zero free, split]
  simp [orderMarks_eq]

/-- What starts a text takes up what it can. -/
theorem composeCodes_cons_starter {code : ℕ} {parts : List ℕ}
    (decomposed : decompose code = starter :: parts) (rest : List ℕ) :
    composeCodes (code :: rest) =
      recompose starter [] (orderMarks (parts ++ rest.flatMap decompose)) := by
  have ordered := orderMarks_append_starter free [] (parts ++ rest.flatMap decompose)
  have nothing : orderMarks [] = [] := rfl
  rw [List.nil_append, nothing, List.nil_append] at ordered
  rw [composeCodes, List.flatMap_cons, decomposed, List.cons_append, ordered, recomposeAll,
    if_pos free]

variable {property : ℕ → Prop}
  (kept : ∀ base mark composite, composite? base mark = some composite → property base →
    property composite)
  (apart : ∀ base, property base → composite? base starter = none)

include kept apart

theorem recompose_append_starter {base : ℕ} {rest : List ℕ} (holds : property base)
    (holdsRest : ∀ code ∈ rest, combiningClass code = 0 → property code) (marks later : List ℕ) :
    recompose base marks (rest ++ starter :: later) =
      recompose base marks rest ++ recompose starter [] later := by
  induction rest generalizing base marks with
  | nil =>
      rw [List.nil_append, recompose.eq_def]
      simp only [apart base holds, ite_self]
      rw [if_pos free, recompose]
  | cons code rest induction =>
      rcases List.forall_mem_cons.mp holdsRest with ⟨holdsCode, holdsOthers⟩
      rw [List.cons_append, recompose.eq_def, recompose.eq_def base marks (code :: rest)]
      simp only
      split
      · next composite joined =>
          have composed := (Option.ite_none_right_eq_some.mp joined).2
          exact induction (kept base code composite composed holds) holdsOthers marks
      · split
        · next isStarter =>
            rw [induction (holdsCode isStarter) holdsOthers, List.append_assoc]
        · exact induction holds holdsOthers (code :: marks)

theorem recomposeAll_append_starter {before : List ℕ}
    (holds : ∀ code ∈ before, combiningClass code = 0 → property code) (after : List ℕ) :
    recomposeAll (before ++ starter :: after) =
      recomposeAll before ++ recompose starter [] after := by
  induction before with
  | nil => simp [recomposeAll, free]
  | cons code before induction =>
      rcases List.forall_mem_cons.mp holds with ⟨holdsCode, holdsOthers⟩
      rw [List.cons_append, recomposeAll, recomposeAll, induction holdsOthers]
      split
      · next isStarter =>
          exact recompose_append_starter free kept apart (holdsCode isStarter) holdsOthers [] after
      · rfl

/-- The two sides of a starter are composed separately if nothing before it takes it up. -/
theorem composeCodes_append_starter {code : ℕ} {parts : List ℕ}
    (decomposed : decompose code = starter :: parts) {before : List ℕ}
    (holds : ∀ part ∈ before.flatMap decompose, combiningClass part = 0 → property part)
    (after : List ℕ) :
    composeCodes (before ++ code :: after) =
      composeCodes before ++ composeCodes (code :: after) := by
  have holdsOrdered : ∀ part ∈ orderMarks (before.flatMap decompose), combiningClass part = 0 →
      property part := fun part member => holds part (mem_orderMarks.mp member)
  rw [composeCodes, List.flatMap_append, List.flatMap_cons, decomposed, List.cons_append,
    orderMarks_append_starter free, recomposeAll_append_starter free kept apart holdsOrdered,
    composeCodes_cons_starter free decomposed]
  rfl

end Starter

/-! ## Separators -/

/-- Code points that come apart into themselves and that nothing is joined with. -/
structure IsSeparator (code : ℕ) : Prop where
  free : combiningClass code = 0
  base : ∀ mark, composite? code mark = none
  mark : ∀ base, composite? base code = none

theorem IsUncomposed.isSeparator {code : ℕ} (uncomposed : IsUncomposed code) :
    IsSeparator code where
  free := (isInert_of_lt uncomposed.low).combiningClass
  mark := (isInert_of_lt uncomposed.low).composite?
  base := by
    intro mark
    by_contra taken
    have low := uncomposed.low
    rcases Option.ne_none_iff_exists'.mp taken with ⟨composite, takes⟩
    rcases isSyllable_or_mem_composites takes with hangul | member
    · rcases (Hangul.parts_of_compose? hangul).1 with jamo | syllable
      · have first := jamo.1
        omega
      · have first := (Hangul.isSyllable_iff.mp syllable).1
        omega
    · have apart := List.all_eq_true.mp uncomposed.pairs _ (List.mem_append_left splitOnly member)
      simp at apart

section Separator

variable {separator : ℕ} (separates : IsSeparator separator)

include separates

/-- A separator takes nothing up. -/
theorem recompose_separator (marks rest : List ℕ) :
    recompose separator marks rest = separator :: marks.reverse ++ recomposeAll rest := by
  induction rest generalizing marks with
  | nil => simp [recompose, recomposeAll]
  | cons code rest induction =>
      rw [recompose.eq_def, recomposeAll]
      simp only [separates.base, ite_self]
      split
      · rfl
      · simp [induction]

/-- The two sides of what comes apart into a separator are composed separately. -/
theorem composeCodes_append_separator {code : ℕ} (decomposed : decompose code = [separator])
    (before after : List ℕ) :
    composeCodes (before ++ code :: after) =
      composeCodes before ++ separator :: composeCodes after := by
  have apart := @composeCodes_append_starter separator separates.free (fun _ => True)
    (fun _ _ _ _ _ => trivial) (fun base _ => separates.mark base) code [] decomposed before
    (fun _ _ _ => trivial) after
  rw [apart, composeCodes_cons_starter separates.free decomposed, recompose_separator separates]
  rfl

end Separator

theorem recompose_ne_nil (base : ℕ) (marks rest : List ℕ) : recompose base marks rest ≠ [] := by
  induction rest generalizing base marks with
  | nil => exact List.cons_ne_nil _ _
  | cons code rest induction =>
      rw [recompose.eq_def]
      simp only
      split
      · exact induction _ _
      · split
        · exact List.cons_ne_nil _ _
        · exact induction _ _

theorem composeCodes_ne_nil {codes : List ℕ} (nonempty : codes ≠ []) : composeCodes codes ≠ [] := by
  have kept {parts : List ℕ} {part : ℕ} (member : part ∈ parts) : recomposeAll parts ≠ [] := by
    cases parts with
    | nil => cases member
    | cons first parts =>
        rw [recomposeAll]
        split
        · exact recompose_ne_nil first [] parts
        · exact List.cons_ne_nil _ _
  rcases List.exists_mem_of_ne_nil codes nonempty with ⟨code, member⟩
  rcases List.exists_mem_of_ne_nil _ (decompose_ne_nil code) with ⟨part, partMember⟩
  exact kept (mem_orderMarks.mpr (List.mem_flatMap.mpr ⟨code, member, partMember⟩))

/-! ## Valid code points -/

theorem isKept_isValidChar : IsKept Nat.isValidChar where
  syllables := by
    intro code syllable
    have bounds := Hangul.isSyllable_iff.mp syllable
    exact .inl (by omega)
  jamo := by
    intro code jamo
    have last := jamo.2
    exact .inl (by omega)
  pairs := by decide +kernel
  singles := by decide +kernel

end Composition

/-- The code points of a composed text. -/
theorem map_toNat_composed (text : List Char) :
    (composed text).map Char.toNat = Composition.composeCodes (text.map Char.toNat) := by
  have valid : ∀ code ∈ Composition.composeCodes (text.map Char.toNat), code.isValidChar := by
    refine Composition.isKept_isValidChar.composeCodes fun code member => ?_
    rcases List.mem_map.mp member with ⟨character, _, rfl⟩
    exact character.valid
  rw [composed, List.map_map]
  refine (List.map_congr_left fun code member => ?_).trans (List.map_id _)
  rw [Function.comp_apply, Char.toNat_ofNat, if_pos (valid code member), id]

/-- Composition is idempotent. -/
@[simp] theorem composed_composed (text : List Char) :
    composed (composed text) = composed text := by
  rw [composed, map_toNat_composed, Composition.composeCodes_composeCodes, composed]

end Metrology
