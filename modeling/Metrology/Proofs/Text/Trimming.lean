import Mathlib
import Metrology.Proofs.Text.Beginnings
import Metrology.Text.Character

/-!
Composition and white space. Composition works on both sides of white space separately, so that
a text with none at its ends is composed to one with none.
-/

namespace Metrology

/-! ## Texts without outer white space -/

/-- Texts with no white space at their ends. -/
structure IsTrimmed (text : List Char) : Prop where
  first : ∀ character ∈ text.head?, isBlank character = false
  last : ∀ character ∈ text.getLast?, isBlank character = false

theorem isBlank_of_mem_head?_dropWhile {character : Char} {text : List Char}
    (member : character ∈ (text.dropWhile isBlank).head?) : isBlank character = false := by
  have first := List.head?_dropWhile_not isBlank text
  rwa [Option.mem_def.mp member] at first

theorem isTrimmed_stripBlanks (text : List Char) : IsTrimmed (stripBlanks text) where
  first := by
    intro character member
    -- What is taken off at the end leaves the beginning as it is.
    rcases List.rdropWhile_prefix isBlank (l := text.dropWhile isBlank) with ⟨taken, whole⟩
    have first : ((text.dropWhile isBlank).rdropWhile isBlank).head? = some character := member
    have inFront : character ∈ (text.dropWhile isBlank).head? := by
      rw [← whole, List.head?_append, first]
      rfl
    exact isBlank_of_mem_head?_dropWhile inFront
  last := by
    intro character member
    rw [stripBlanks, List.getLast?_reverse] at member
    exact isBlank_of_mem_head?_dropWhile member

theorem dropWhile_isBlank_eq_self {text : List Char}
    (plain : ∀ character ∈ text.head?, isBlank character = false) :
    text.dropWhile isBlank = text := by
  cases text with
  | nil => rfl
  | cons first text => rw [List.dropWhile_cons, plain first rfl]; rfl

theorem stripBlanks_of_isTrimmed {text : List Char} (trimmed : IsTrimmed text) :
    stripBlanks text = text := by
  have last : ∀ character ∈ text.reverse.head?, isBlank character = false := by
    simpa using trimmed.last
  rw [stripBlanks, dropWhile_isBlank_eq_self trimmed.first, dropWhile_isBlank_eq_self last,
    List.reverse_reverse]

namespace Composition

/-! ## White space -/

/-- All white space. -/
def blanks : List ℕ :=
  blankRanges.flatMap fun range => List.range' range.1 (range.2 + 1 - range.1)

theorem inRanges_blankRanges {code : ℕ} : inRanges blankRanges code = true ↔ code ∈ blanks := by
  simp only [inRanges, blanks, List.any_eq_true, List.mem_flatMap, mem_range'_iff, Bool.and_eq_true,
    decide_eq_true_eq]

/-- What can be read off the tables about white space, entry by entry. It is no mark and nothing
Korean, and part of no pair; it stands for other white space only, and nothing else stands for it. -/
structure BlanksHold : Prop where
  plain : ∀ code ∈ blanks, code ∉ combiningMarks ∧ ¬Hangul.IsJamo code ∧
    Hangul.isSyllable code = false
  pair : ∀ entry ∈ pairs, entry.1 ∉ blanks ∧ entry.2.1 ∉ blanks ∧ entry.2.2 ∉ blanks
  single : ∀ entry ∈ singles, entry.1 ∈ blanks ↔ entry.2 ∈ blanks

theorem blanksHold : BlanksHold where
  plain := by
    have all : ∀ code ∈ blanks, (bitSet combiningMarks).testBit code = false ∧
        ¬Hangul.IsJamo code ∧ Hangul.isSyllable code = false := by decide +kernel
    simpa only [testBit_bitSet_eq_false] using all
  pair := by
    have all : ∀ entry ∈ pairs, (bitSet blanks).testBit entry.1 = false ∧
        (bitSet blanks).testBit entry.2.1 = false ∧
        (bitSet blanks).testBit entry.2.2 = false := by decide +kernel
    simpa only [testBit_bitSet_eq_false] using all
  single := by
    have all : ∀ entry ∈ singles,
        (bitSet blanks).testBit entry.1 = (bitSet blanks).testBit entry.2 := by decide +kernel
    intro entry member
    rw [← testBit_bitSet, ← testBit_bitSet, all entry member]

/-- White space comes from white space alone. -/
theorem isKept_notMem_blanks : IsKept (· ∉ blanks) where
  syllables := by
    intro code syllable blank
    simp [(blanksHold.plain code blank).2.2] at syllable
  jamo := by
    intro code jamo blank
    exact (blanksHold.plain code blank).2.1 jamo
  pairs := blanksHold.pair
  singles := fun entry member => mt (blanksHold.single entry member).mpr

theorem isSeparator_of_mem_blanks {code : ℕ} (blank : code ∈ blanks) : IsSeparator code where
  free := combiningClass_eq_zero_iff.mpr (blanksHold.plain code blank).1
  base := by
    intro mark
    by_contra some
    rcases Option.ne_none_iff_exists'.mp some with ⟨composite, joined⟩
    rcases isSyllable_or_mem_composites joined with hangul | member
    · rcases (Hangul.parts_of_compose? hangul).1 with jamo | syllable
      · exact isKept_notMem_blanks.jamo _ jamo blank
      · exact isKept_notMem_blanks.syllables _ syllable blank
    · exact (blanksHold.pair _ (List.mem_append_left splitOnly member)).2.1 blank
  mark := by
    intro base
    by_contra some
    rcases Option.ne_none_iff_exists'.mp some with ⟨composite, joined⟩
    rcases isSyllable_or_mem_composites joined with hangul | member
    · exact isKept_notMem_blanks.jamo _ (Hangul.parts_of_compose? hangul).2 blank
    · exact (blanksHold.pair _ (List.mem_append_left splitOnly member)).2.2 blank

/-- White space comes apart into white space. -/
theorem exists_separator {code : ℕ} (blank : code ∈ blanks) :
    ∃ separator ∈ blanks, decompose code = [separator] := by
  induction code using decompose_induction with
  | syllable code syllable => exact absurd blank (isKept_notMem_blanks.syllables code syllable)
  | atomic code atomic => exact ⟨code, blank, atomic.decompose⟩
  | single code other member opened separates =>
      rw [opened]
      exact separates ((blanksHold.single _ member).mp blank)
  | pair code first second member opened separates =>
      exact absurd blank (blanksHold.pair _ member).1

/-! ## Both ends of a text -/

/-- A text of other characters, or one with a first white space. -/
theorem exists_first_blank (codes : List ℕ) :
    (∀ code ∈ codes, code ∉ blanks) ∨ ∃ before blank after,
      codes = before ++ blank :: after ∧ blank ∈ blanks ∧ ∀ code ∈ before, code ∉ blanks := by
  cases search : codes.find? (· ∈ blanks) with
  | none => exact .inl (by simpa using search)
  | some blank =>
      rcases List.find?_eq_some_iff_append.mp search with ⟨isBlank, before, after, rfl, plain⟩
      exact .inr ⟨before, blank, after, rfl, by simpa using isBlank, by simpa using plain⟩

/-- A text of other characters, or one with a last white space. -/
theorem exists_last_blank (codes : List ℕ) :
    (∀ code ∈ codes, code ∉ blanks) ∨ ∃ before blank after,
      codes = before ++ blank :: after ∧ blank ∈ blanks ∧ ∀ code ∈ after, code ∉ blanks := by
  rcases exists_first_blank codes.reverse with plain | ⟨after, blank, before, split, isBlank, plain⟩
  · exact .inl (by simpa using plain)
  · refine .inr ⟨before.reverse, blank, after.reverse, ?_, isBlank, by simpa using plain⟩
    rw [← List.reverse_reverse codes, split]
    simp

theorem exists_composeCodes_append {blank : ℕ} (isBlank : blank ∈ blanks)
    (before after : List ℕ) : ∃ separator ∈ blanks, composeCodes (before ++ blank :: after) =
      composeCodes before ++ separator :: composeCodes after := by
  rcases exists_separator isBlank with ⟨separator, member, decomposed⟩
  exact ⟨separator, member, composeCodes_append_separator (isSeparator_of_mem_blanks member)
    decomposed before after⟩

theorem head?_composeCodes {codes : List ℕ} (plain : ∀ code ∈ codes.head?, code ∉ blanks) :
    ∀ code ∈ (composeCodes codes).head?, code ∉ blanks := by
  rcases exists_first_blank codes with all | ⟨before, blank, after, rfl, isBlank, all⟩
  · exact fun code member => isKept_notMem_blanks.composeCodes all code
      (List.mem_of_mem_head? member)
  · -- What stands before the first white space is composed by itself.
    have nonempty : before ≠ [] := by
      rintro rfl
      exact plain blank rfl isBlank
    rcases exists_composeCodes_append isBlank before after with ⟨separator, _, split⟩
    rw [split, List.head?_append_of_ne_nil _ (composeCodes_ne_nil nonempty)]
    exact fun code member => isKept_notMem_blanks.composeCodes all code
      (List.mem_of_mem_head? member)

theorem getLast?_composeCodes {codes : List ℕ} (plain : ∀ code ∈ codes.getLast?, code ∉ blanks) :
    ∀ code ∈ (composeCodes codes).getLast?, code ∉ blanks := by
  rcases exists_last_blank codes with all | ⟨before, blank, after, rfl, isBlank, all⟩
  · exact fun code member => isKept_notMem_blanks.composeCodes all code
      (List.mem_of_mem_getLast? member)
  · have nonempty : after ≠ [] := by
      rintro rfl
      exact plain blank (by simp) isBlank
    rcases exists_composeCodes_append isBlank before after with ⟨separator, _, split⟩
    rw [split, List.append_cons, List.getLast?_append_of_ne_nil _ (composeCodes_ne_nil nonempty)]
    exact fun code member => isKept_notMem_blanks.composeCodes all code
      (List.mem_of_mem_getLast? member)

end Composition

/-! ## Composed texts -/

theorem isBlank_eq_false_iff {character : Char} :
    isBlank character = false ↔ character.toNat ∉ Composition.blanks := by
  rw [isBlank, Bool.eq_false_iff, Ne, Composition.inRanges_blankRanges]

/-- Composition brings no white space to the ends of a text. -/
theorem IsTrimmed.composed {text : List Char} (trimmed : IsTrimmed text) :
    IsTrimmed (composed text) where
  first := by
    intro character member
    have plain : ∀ code ∈ (text.map Char.toNat).head?, code ∉ Composition.blanks := by
      simpa [isBlank_eq_false_iff] using trimmed.first
    rw [isBlank_eq_false_iff]
    refine Composition.head?_composeCodes plain _ ?_
    rw [← map_toNat_composed, List.head?_map]
    exact Option.mem_map_of_mem _ member
  last := by
    intro character member
    have plain : ∀ code ∈ (text.map Char.toNat).getLast?, code ∉ Composition.blanks := by
      simpa [isBlank_eq_false_iff] using trimmed.last
    rw [isBlank_eq_false_iff]
    refine Composition.getLast?_composeCodes plain _ ?_
    rw [← map_toNat_composed, List.getLast?_map]
    exact Option.mem_map_of_mem _ member

end Metrology
