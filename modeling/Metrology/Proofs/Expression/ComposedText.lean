import Mathlib
import Metrology.Proofs.Expression.Openings

/-!
Composed expressions. Separators, operators and digits are composed to themselves, names to
something that starts with a letter, and stray characters to stray characters. Names are composed
apart from what stops them, and what stops a name or a number stops it still.
-/

namespace Metrology

open RunClass

/-! ## Separators, operators and digits -/

theorem lt_of_mem_otherCodes {code : ℕ} (other : code ∈ Composition.otherCodes) : code < 0xc0 := by
  have all : ∀ code ∈ Composition.otherCodes, code < 0xc0 := by decide
  exact all code other

/-- Nothing but themselves is composed to separators, operators and digits. -/
theorem isUncomposed_of_mem {character : Char} (member : character ∈ otherCharacters) :
    Composition.IsUncomposed character.toNat := by
  have listed : character.toNat ∈ Composition.otherCodes :=
    List.mem_map.mpr ⟨character, member, rfl⟩
  have opening : character.toNat ∈ Composition.openingCodes :=
    List.mem_map.mpr ⟨character, List.mem_append_right _ member, rfl⟩
  have low := lt_of_mem_otherCodes listed
  refine ⟨low, ?_, ?_⟩
  · rw [List.all_eq_true]
    intro entry inPairs
    have high := (Composition.tablesHold.high (entry.1, entry.2.1)
      (List.mem_append_left _ (List.mem_map.mpr ⟨entry, inPairs, rfl⟩))).1
    have composite : entry.1 ≠ character.toNat := by omega
    have parts : entry.2.1 ≠ character.toNat ∧ entry.2.2 ≠ character.toNat := by
      rcases List.mem_append.mp inPairs with joined | split
      · have known := Composition.openingsHold.joined entry joined
        exact ⟨fun same => known.2.1 (same ▸ listed), by omega⟩
      · have known := Composition.openingsHold.split entry split
        exact ⟨fun same => known.2 (same ▸ opening), by omega⟩
    simp [composite, parts]
  · rw [List.all_eq_true]
    intro entry inSingles
    have known := (Composition.openingsHold.single entry inSingles).1
    simpa using fun same : entry.2 = character.toNat => known (same ▸ listed)

theorem composed_cons_other {character : Char} (member : character ∈ otherCharacters)
    (rest : List Char) : composed (character :: rest) = character :: composed rest := by
  have uncomposed := isUncomposed_of_mem member
  have apart := Composition.composeCodes_append_separator uncomposed.isSeparator
    (Composition.isInert_of_lt uncomposed.low).decompose [] (rest.map Char.toNat)
  rw [List.nil_append] at apart
  rw [composed, List.map_cons, apart]
  simp [composed, show Composition.composeCodes [] = [] from rfl]

theorem composed_append_others {run : List Char}
    (others : ∀ character ∈ run, character ∈ otherCharacters) (rest : List Char) :
    composed (run ++ rest) = run ++ composed rest := by
  induction run with
  | nil => rfl
  | cons character run induction =>
      rcases List.forall_mem_cons.mp others with ⟨first, later⟩
      rw [List.cons_append, composed_cons_other first, induction later, List.cons_append]

/-! ## What starts something -/

theorem toNat_mem_openingCodes {character : Char} :
    character.toNat ∈ Composition.openingCodes ↔ character ∈ openings :=
  List.mem_map_of_injective (fun _ _ same => Char.toNat_inj.mp same)

/-- The first character of a composition, by its code point. -/
theorem exists_composed_cons {character : Char} {property : ℕ → Prop} (rest : List Char)
    (starts : ∃ first others, Composition.composeCodes (character.toNat :: rest.map Char.toNat) =
      first :: others ∧ property first) :
    ∃ first others, composed (character :: rest) = first :: others ∧ property first.toNat := by
  rcases starts with ⟨code, codes, composes, holds⟩
  have spelled := map_toNat_composed (character :: rest)
  rw [List.map_cons, composes] at spelled
  rcases List.map_eq_cons_iff.mp spelled with ⟨first, others, same, rfl, _⟩
  exact ⟨first, others, same, holds⟩

/-- Whatever names start with comes apart as a name letter does. -/
theorem exists_letter_of_mem_nameStarts {character : Char} (start : character ∈ nameStarts) :
    ∃ letter, isNameLetter letter = true ∧
      Composition.decompose character.toNat = Composition.decompose letter.toNat := by
  rcases List.mem_append.mp start with letter | sign
  · have letters : nameLetters.all isNameLetter = true := by decide
    exact ⟨character, List.all_eq_true.mp letters character letter, rfl⟩
  · rcases Composition.openingsHold.signs with ⟨ohm, kelvin, ring⟩
    simp only [List.mem_cons, List.not_mem_nil, or_false] at sign
    rcases sign with rfl | rfl | rfl
    · exact ⟨'Ω', by decide, ohm.trans Composition.isInert_omega.decompose.symm⟩
    · exact ⟨'K', by decide, kelvin.trans (Composition.isInert_of_lt (by decide)).decompose.symm⟩
    · exact ⟨'Å', by decide, ring.trans Composition.decompose_ring.symm⟩

theorem isNameStart_of_mem_nameStarts {character : Char} (start : character ∈ nameStarts) :
    isNameStart character = true := by
  rcases exists_letter_of_mem_nameStarts start with ⟨letter, isLetter, same⟩
  have composes : composed [character] = composed [letter] := by
    simp [composed, Composition.composeCodes, same]
  rw [isNameStart, composes]
  exact isNameStart_of_isNameLetter isLetter

theorem isNameStart_iff {character : Char} :
    isNameStart character = true ↔ character ∈ nameStarts := by
  constructor
  · intro start
    by_contra unlisted
    have closed : character ∉ openings := fun opening =>
      (List.mem_append.mp opening).elim unlisted (notMem_otherCharacters start)
    rcases exists_composed_cons [] (Composition.exists_closed_composeCodes
      (mt toNat_mem_openingCodes.mp closed) []) with ⟨first, others, composes, firstClosed⟩
    rw [isNameStart, composes] at start
    cases others with
    | nil =>
        have letter := mem_nameLetters start
        exact firstClosed (toNat_mem_openingCodes.mpr
          (List.mem_append_left _ (List.mem_append_left _ letter)))
    | cons second others => cases start
  · exact fun start => isNameStart_of_mem_nameStarts start

/-- A character is stray if nothing starts with it. -/
theorem isStray_iff {character : Char} : IsStray character ↔ character ∉ openings := by
  constructor
  · intro stray opening
    rcases List.mem_append.mp opening with start | other
    · have starts := isNameStart_iff.mpr start
      rw [stray.notStart] at starts
      cases starts
    · have all : otherCharacters.all (fun other => isSeparator other ||
          (Lexeme.operator? other).isSome || isAsciiDigit other) = true := by decide
      have known := List.all_eq_true.mp all character other
      simp [stray.notSeparator, stray.notOperator, stray.notDigit] at known
  · intro closed
    have other : character ∉ otherCharacters := fun member =>
      closed (List.mem_append_right _ member)
    have sign : character ∉ signs := fun member => other (List.mem_append_left _ member)
    rcases foreign_of_notMem_signs sign with ⟨noSeparator, noOperator⟩
    refine ⟨noSeparator, noOperator, ?_, ?_⟩
    · exact Bool.eq_false_iff.mpr fun start =>
        closed (List.mem_append_left _ (isNameStart_iff.mp start))
    · exact Bool.eq_false_iff.mpr fun digit =>
        other (List.mem_append_right _ (mem_of_isAsciiDigit digit))

theorem isStray_of_notMem {character : Char} (noStart : isNameStart character = false)
    (noOther : character ∉ otherCharacters) : IsStray character := by
  rw [isStray_iff, openings, List.mem_append, ← isNameStart_iff]
  simp [noStart, noOther]

theorem isCombining_eq_false_iff {character : Char} :
    isCombining character = false ↔ Composition.combiningClass character.toNat = 0 := by
  simp [isCombining]

/-- Vowel signs that are no marks, but stand for two of them. -/
def IsCompoundVowel (character : Char) : Prop := character.toNat ∈ Composition.compoundVowels

instance : DecidablePred IsCompoundVowel :=
  fun character => inferInstanceAs (Decidable (character.toNat ∈ Composition.compoundVowels))

/-- A stray character is composed to a stray one, whatever follows it; and to one that is no mark,
if it is neither a mark nor a vowel sign that stands for two. -/
theorem exists_stray_composed {character : Char} (stray : IsStray character) (rest : List Char) :
    ∃ first others, composed (character :: rest) = first :: others ∧ IsStray first ∧
      (isCombining character = false → ¬IsCompoundVowel character → isCombining first = false) := by
  have closed := mt toNat_mem_openingCodes.mp (isStray_iff.mp stray)
  have starts := Composition.exists_closed_composeCodes closed (rest.map Char.toNat)
  rcases exists_composed_cons rest starts with ⟨first, others, composes, firstClosed⟩
  refine ⟨first, others, composes, isStray_iff.mpr (mt toNat_mem_openingCodes.mpr firstClosed), ?_⟩
  intro free simple
  rcases Composition.exists_starter (isCombining_eq_false_iff.mp free) simple with
    ⟨starter, parts, decomposed, isStarter⟩
  rcases exists_composed_cons rest (Composition.exists_starter_composeCodes decomposed isStarter
    (rest.map Char.toNat)) with ⟨other, behind, composesToo, otherFree⟩
  cases composes.symm.trans composesToo
  exact isCombining_eq_false_iff.mpr otherFree

/-! ## Names -/

/-- What a name starts with comes apart into a letter that takes up marks only, and marks. -/
theorem decompose_of_mem_nameStarts {character : Char} (start : character ∈ nameStarts) :
    ∃ letter marks, Composition.decompose character.toNat = letter :: marks ∧
      Composition.combiningClass letter = 0 ∧ letter ∉ Composition.otherCodes ∧
      ∀ part ∈ letter :: marks, part < 0x900 := by
  rcases exists_letter_of_mem_nameStarts start with ⟨letter, isLetter, same⟩
  have letters : nameLetters.all (fun letter =>
      decide (letter.toNat ∉ Composition.otherCodes ∧ letter.toNat < 0x900)) = true := by
    decide
  rcases of_decide_eq_true (of_isNameLetter letters isLetter) with ⟨noOther, low⟩
  rw [same]
  rcases Composition.isLetter_of_isNameLetter isLetter with inert | ring
  · exact ⟨letter.toNat, [], inert.decompose, inert.combiningClass, noOther, by simpa using low⟩
  · exact ⟨0x41, [0x30a], by rw [ring, Composition.decompose_ring], rfl, by decide, by decide⟩

/-- A name is composed to something that starts with no mark, and with no separator, operator or
digit. -/
theorem exists_composed_of_isNameStart {character : Char} (start : isNameStart character = true)
    (rest : List Char) : ∃ first others, composed (character :: rest) = first :: others ∧
      isCombining first = false ∧ first ∉ otherCharacters := by
  rcases decompose_of_mem_nameStarts (isNameStart_iff.mp start) with
    ⟨letter, marks, decomposed, free, noOther, _⟩
  have kept : ∀ base mark composite, Composition.composite? base mark = some composite →
      Composition.combiningClass base = 0 ∧ base ∉ Composition.otherCodes →
      Composition.combiningClass composite = 0 ∧ composite ∉ Composition.otherCodes := by
    intro base mark composite joined _
    refine ⟨Composition.combiningClass_of_composite? joined, fun other => ?_⟩
    have high := Composition.high_of_composite? joined
    have bound := lt_of_mem_otherCodes other
    omega
  have starts := Composition.exists_recompose kept ⟨free, noOther⟩ []
    (Composition.orderMarks (marks ++ (rest.map Char.toNat).flatMap Composition.decompose))
  rw [← Composition.composeCodes_cons_starter free decomposed] at starts
  rcases exists_composed_cons rest starts with ⟨first, others, composes, firstFree, firstOther⟩
  refine ⟨first, others, composes, isCombining_eq_false_iff.mpr firstFree, fun other => ?_⟩
  exact firstOther (List.mem_map.mpr ⟨first, other, rfl⟩)

theorem mem_nameStarts_or_isCombining {character : Char}
    (continues : isNameContinuation character = true) :
    character ∈ nameStarts ∨ isCombining character = true := by
  rw [isNameContinuation, Bool.or_eq_true] at continues
  exact continues.imp_left isNameStart_iff.mp

/-- Nothing in a name takes up a starter. -/
theorem takesMarksOnly_of_name {run : List Char}
    (continued : ∀ character ∈ run, isNameContinuation character = true) :
    ∀ part ∈ (run.map Char.toNat).flatMap Composition.decompose,
      Composition.combiningClass part = 0 → Composition.TakesMarksOnly part := by
  intro part member free
  rcases List.mem_flatMap.mp member with ⟨code, codeMember, partMember⟩
  rcases List.mem_map.mp codeMember with ⟨character, inRun, rfl⟩
  rcases mem_nameStarts_or_isCombining (continued character inRun) with start | mark
  · rcases decompose_of_mem_nameStarts start with ⟨letter, marks, decomposed, _, _, low⟩
    rw [decomposed] at partMember
    exact Composition.takesMarksOnly_of_lt (low part partMember)
  · rw [isCombining, bne_iff_ne] at mark
    exact absurd free (Composition.marks_of_decompose mark part partMember)

/-- A name is composed apart from what it does not go on with. -/
theorem composed_append_name {run rest : List Char}
    (continued : ∀ character ∈ run, isNameContinuation character = true)
    (stops : names.StopsBefore rest) (simple : ∀ next ∈ rest.head?, ¬IsCompoundVowel next) :
    composed (run ++ rest) = composed run ++ composed rest := by
  cases rest with
  | nil => simp [composed, show Composition.composeCodes [] = [] from rfl]
  | cons next rest =>
      have stopped : isNameContinuation next = false := stops next rfl
      rw [isNameContinuation, Bool.or_eq_false_iff] at stopped
      have apart := Composition.composeCodes_append_of_takesMarksOnly
        (takesMarksOnly_of_name continued) (isCombining_eq_false_iff.mp stopped.2)
        (simple next rfl) (rest.map Char.toNat)
      rw [composed, List.map_append, List.map_cons, apart, List.map_append]
      rfl

/-- No separator, operator or digit comes out of a composition. -/
theorem mem_of_other_mem_composed {character : Char} (other : character ∈ otherCharacters)
    {text : List Char} (member : character ∈ composed text) : character ∈ text := by
  have all : otherCharacters.all (fun other => other.toNat != 0) = true := by decide
  have nonzero : character.toNat ≠ 0 := by
    simpa using List.all_eq_true.mp all character other
  exact mem_of_mem_composed (isUncomposed_of_mem other) nonzero member

/-- No separator, operator or digit comes into a name. -/
theorem notMem_otherCharacters_of_mem_composed {run : List Char}
    (continued : ∀ character ∈ run, isNameContinuation character = true) {character : Char}
    (member : character ∈ composed run) : character ∉ otherCharacters := by
  intro other
  have continues := continued character (mem_of_other_mem_composed other member)
  rw [isNameContinuation_of_mem other] at continues
  cases continues

/-! ## Borders -/

/-- What stops a name stops its composition. -/
theorem stopsBefore_names_composed {rest : List Char} (stops : names.StopsBefore rest)
    (simple : ∀ next ∈ rest.head?, ¬IsCompoundVowel next) :
    names.StopsBefore (composed rest) := by
  cases rest with
  | nil => exact stops
  | cons next rest =>
      have stopped : isNameContinuation next = false := stops next rfl
      by_cases other : next ∈ otherCharacters
      · rw [composed_cons_other other]
        intro first isFirst
        cases isFirst
        exact stopped
      · rw [isNameContinuation, Bool.or_eq_false_iff] at stopped
        have stray := isStray_of_notMem stopped.1 other
        rcases exists_stray_composed stray rest with ⟨first, others, composes, isStray, free⟩
        rw [composes]
        intro next isNext
        cases isNext
        change isNameContinuation first = false
        rw [isNameContinuation, isStray.notStart, free stopped.2 (simple _ rfl)]
        rfl

/-- What stops a number stops it once it is composed. -/
theorem stopsBefore_numbers_composed {rest : List Char} (stops : numbers.StopsBefore rest) :
    numbers.StopsBefore (composed rest) := by
  cases rest with
  | nil => exact stops
  | cons next rest =>
      have noDigit {first : Char} (other : first ∉ otherCharacters) :
          isAsciiDigit first = false := Bool.eq_false_iff.mpr fun digit =>
        other (List.mem_append_right _ (mem_of_isAsciiDigit digit))
      by_cases other : next ∈ otherCharacters
      · rw [composed_cons_other other]
        intro first isFirst
        cases isFirst
        exact stops next rfl
      · by_cases start : isNameStart next = true
        · rcases exists_composed_of_isNameStart start rest with
            ⟨first, others, composes, _, firstOther⟩
          rw [composes]
          intro head isHead
          cases isHead
          exact noDigit firstOther
        · have stray := isStray_of_notMem (Bool.eq_false_iff.mpr start) other
          rcases exists_stray_composed stray rest with ⟨first, others, composes, isStray, _⟩
          rw [composes]
          intro head isHead
          cases isHead
          exact isStray.notDigit

end Metrology
