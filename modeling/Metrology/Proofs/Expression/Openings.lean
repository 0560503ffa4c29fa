import Mathlib
import Metrology.Proofs.Expression.Runs
import Metrology.Proofs.Text.Beginnings

/-!
The characters that something can start with in an expression: a name, a number, an operator or
a separator. No other character is composed to a text that starts with one of them, whatever
follows it, so that a stray character is composed to another one.
-/

namespace Metrology

/-- The characters that names start with: name letters, and signs that stand for one. -/
def nameStarts : List Char := nameLetters ++ ['\u2126', '\u212a', '\u212b']

/-- The characters that something starts with. -/
def openings : List Char := nameStarts ++ otherCharacters

namespace Composition

/-! ## Openings in the tables -/

/-- The code points that something starts with. -/
def openingCodes : List ℕ := openings.map Char.toNat

/-- The code points of separators, operators and digits. -/
def otherCodes : List ℕ := otherCharacters.map Char.toNat

/-- What can be read off the tables about openings, entry by entry. No mark is an opening, and no
Korean letter or syllable. The only opening among the composites is the letter A with a ring. What
an opening is put together with goes to a letter, and is of no higher class than the ring behind the
letter A, and of its class behind Å. What only comes apart leads on to no opening, unless it is one.
The signs that names start with come apart as letters do. -/
structure OpeningsHold : Prop where
  plain : ∀ code ∈ openingCodes, code ∉ combiningMarks ∧ ¬Hangul.IsJamo code ∧
    Hangul.isSyllable code = false
  joined : ∀ entry ∈ composites, 0x300 ≤ entry.2.2 ∧ entry.2.1 ∉ otherCodes ∧
    (entry.1 ∈ openingCodes ↔ entry.2.1 = 0x41 ∧ entry.2.2 = 0x30a) ∧
    (entry.2.1 ∈ openingCodes → (entry.2.1 < 0xc0 ∨ entry.2.1 = 0x3a9 ∨ entry.2.1 = 0xc5) ∧
      (entry.2.1 = 0x41 → combiningClass entry.2.2 ≤ 230) ∧
      (entry.2.1 = 0xc5 → combiningClass entry.2.2 = 230))
  split : ∀ entry ∈ splitOnly, 0x300 ≤ entry.2.2 ∧ entry.2.1 ∉ openingCodes
  single : ∀ entry ∈ singles, entry.2 ∉ otherCodes ∧
    (entry.2 ∈ openingCodes → entry.1 ∈ openingCodes)
  signs : decompose 0x2126 = [0x3a9] ∧ decompose 0x212a = [0x4b] ∧ decompose 0x212b = [0x41, 0x30a]

theorem openingsHold : OpeningsHold where
  plain := by
    have all : ∀ code ∈ openingCodes, (bitSet combiningMarks).testBit code = false ∧
        ¬Hangul.IsJamo code ∧ Hangul.isSyllable code = false := by decide +kernel
    simpa only [testBit_bitSet_eq_false] using all
  joined := by
    have all : ∀ entry ∈ composites, 0x300 ≤ entry.2.2 ∧
        (bitSet otherCodes).testBit entry.2.1 = false ∧
        ((bitSet openingCodes).testBit entry.1 = true ↔ entry.2.1 = 0x41 ∧ entry.2.2 = 0x30a) ∧
        ((bitSet openingCodes).testBit entry.2.1 = true →
          (entry.2.1 < 0xc0 ∨ entry.2.1 = 0x3a9 ∨ entry.2.1 = 0xc5) ∧
          (entry.2.1 = 0x41 → combiningClass entry.2.2 ≤ 230) ∧
          (entry.2.1 = 0xc5 → combiningClass entry.2.2 = 230)) := by decide +kernel
    simpa only [testBit_bitSet, testBit_bitSet_eq_false] using all
  split := by
    have all : ∀ entry ∈ splitOnly, 0x300 ≤ entry.2.2 ∧
        (bitSet openingCodes).testBit entry.2.1 = false := by decide +kernel
    simpa only [testBit_bitSet_eq_false] using all
  single := by
    have all : ∀ entry ∈ singles, (bitSet otherCodes).testBit entry.2 = false ∧
        ((bitSet openingCodes).testBit entry.2 = true →
          (bitSet openingCodes).testBit entry.1 = true) := by decide +kernel
    simpa only [testBit_bitSet, testBit_bitSet_eq_false] using all
  signs := by decide +kernel

theorem notMem_openingCodes_of_hangul {code : ℕ}
    (hangul : Hangul.IsJamo code ∨ Hangul.isSyllable code = true) : code ∉ openingCodes := by
  intro opening
  rcases openingsHold.plain code opening with ⟨_, noJamo, noSyllable⟩
  rcases hangul with jamo | syllable
  · exact noJamo jamo
  · simp [noSyllable] at syllable

/-- What an opening is put together with goes to a letter. -/
theorem isLetter_of_mem_composites {entry : ℕ × ℕ × ℕ} (member : entry ∈ composites)
    (opening : entry.2.1 ∈ openingCodes) : IsLetter entry.2.1 := by
  rcases ((openingsHold.joined entry member).2.2.2 opening).1 with low | omega | ring
  · exact .inl (isInert_of_lt low)
  · exact .inl (omega ▸ isInert_omega)
  · exact .inr ring

/-- The only opening that is put together is Å. -/
theorem parts_of_opening {base mark composite : ℕ}
    (joined : composite? base mark = some composite) (opening : composite ∈ openingCodes) :
    base = 0x41 ∧ mark = 0x30a := by
  rcases isSyllable_or_mem_composites joined with hangul | member
  · have syllable := Hangul.isSyllable_of_compose? hangul
    exact absurd opening (notMem_openingCodes_of_hangul (.inr syllable))
  · exact (openingsHold.joined _ member).2.2.1.mp opening

theorem notMem_openingCodes_of_composite? {base mark composite : ℕ}
    (joined : composite? base mark = some composite) (closed : base ∉ openingCodes) :
    composite ∉ openingCodes := by
  intro opening
  rw [(parts_of_opening joined opening).1] at closed
  exact closed (by decide)

theorem exists_composite? {entry : ℕ × ℕ × ℕ} (member : entry ∈ composites) :
    ∃ composite, composite? entry.2.1 entry.2.2 = some composite := by
  rw [composite?, if_neg (Nat.not_lt.mpr (openingsHold.joined entry member).1)]
  split
  · next syllable _ => exact ⟨syllable, rfl⟩
  · refine Option.isSome_iff_exists.mp ?_
    rw [Option.isSome_map, List.find?_isSome]
    exact ⟨entry, member, by simp⟩

/-- A pair that starts with an opening is the letter Å, or a composite of a letter and a mark. -/
theorem pair_of_opening {entry : ℕ × ℕ × ℕ} (member : entry ∈ pairs)
    (opening : entry.2.1 ∈ openingCodes) (closed : entry.1 ∉ openingCodes) :
    IsLetter entry.2.1 ∧ (entry.2.1 = 0x41 → combiningClass entry.2.2 ≤ 230) ∧
      (entry.2.1 = 0xc5 → combiningClass entry.2.2 = 230) ∧
      ∃ composite, composite? entry.2.1 entry.2.2 = some composite ∧ composite ∉ openingCodes := by
  have inComposites : entry ∈ composites :=
    (List.mem_append.mp member).resolve_right fun inSplit =>
      (openingsHold.split entry inSplit).2 opening
  rcases openingsHold.joined entry inComposites with ⟨_, _, unique, base⟩
  rcases base opening with ⟨_, below, ring⟩
  rcases exists_composite? inComposites with ⟨composite, joined⟩
  refine ⟨isLetter_of_mem_composites inComposites opening, below, ring, composite, joined,
    fun composed => ?_⟩
  exact closed (unique.mpr (parts_of_opening joined composed))

/-! ## Letters with marks -/

theorem combiningClass_ring : combiningClass 0x30a = 230 := rfl

/-- Whether the marks next to an opening make something else of it. They are of one class, which is
that of the ring or less where they stand behind the letter A. -/
inductive IsTransformed (opening : ℕ) (parts : List ℕ) : Prop
  | intro (taken others : List ℕ) (composite degree : ℕ) (split : parts = taken ++ others)
      (nonempty : taken ≠ []) (same : ∀ mark ∈ taken, combiningClass mark = degree)
      (below : opening = 0x41 → degree ≤ 230)
      (joined : taken.foldlM composite? opening = some composite)
      (closed : composite ∉ openingCodes)

/-- What is no opening but comes apart into one is transformed by the marks behind it. -/
theorem isTransformed_of_decompose {code : ℕ} (closed : code ∉ openingCodes) {opening : ℕ}
    {parts : List ℕ} (decomposed : decompose code = opening :: parts)
    (isOpening : opening ∈ openingCodes) : IsTransformed opening parts := by
  induction code using decompose_induction generalizing parts with
  | syllable code syllable =>
      rw [decompose_of_isSyllable syllable] at decomposed
      have jamo := Hangul.isJamo_of_mem_decompose syllable (decomposed ▸ List.mem_cons_self ..)
      exact absurd isOpening (notMem_openingCodes_of_hangul (.inl jamo))
  | atomic code atomic =>
      rw [atomic.decompose] at decomposed
      cases decomposed
      exact absurd isOpening closed
  | single code other member opened transformed =>
      have otherClosed := mt (openingsHold.single _ member).2 closed
      exact transformed otherClosed (opened ▸ decomposed)
  | pair code first second member opened transformed =>
      rw [opened] at decomposed
      by_cases firstOpening : first ∈ openingCodes
      · rcases pair_of_opening member firstOpening closed with
          ⟨letter, below, ring, composite, joined, composedClosed⟩
        simp only at letter below ring joined
        rcases letter with inert | rfl
        · rw [inert.decompose] at decomposed
          cases decomposed
          exact ⟨[second], [], composite, combiningClass second, rfl, List.cons_ne_nil _ _,
            by simp, below, by simpa using joined, composedClosed⟩
        · -- The letter takes up the ring, and then the other mark.
          rw [decompose_ring] at decomposed
          cases decomposed
          refine ⟨[0x30a, second], [], composite, 230, rfl, List.cons_ne_nil _ _, ?_,
            fun _ => le_refl _, ?_, composedClosed⟩
          · simpa [combiningClass_ring] using ring rfl
          · simpa [composite?_ring] using joined
      · rcases List.exists_cons_of_ne_nil (decompose_ne_nil first) with ⟨starter, behind, shape⟩
        rw [shape] at decomposed
        cases decomposed
        rcases transformed firstOpening shape with
          ⟨taken, others, composite, degree, rfl, nonempty, same, below, joined, composedClosed⟩
        exact ⟨taken, others ++ [second], composite, degree, by simp, nonempty, same, below,
          joined, composedClosed⟩

/-- A transformed opening is none, whatever marks come between. -/
theorem exists_recompose_transformed {opening composite degree : ℕ} {taken : List ℕ}
    (same : ∀ mark ∈ taken, combiningClass mark = degree) (below : opening = 0x41 → degree ≤ 230)
    (joined : taken.foldlM composite? opening = some composite) (closed : composite ∉ openingCodes)
    {front : List ℕ} (less : AreLess degree front) {stayed : List ℕ}
    (stayedLess : AreLess degree stayed) (back : List ℕ) :
    ∃ first others, recompose opening stayed (front ++ (taken ++ back)) = first :: others ∧
      first ∉ openingCodes := by
  have kept : ∀ base mark composite, composite? base mark = some composite →
      base ∉ openingCodes → composite ∉ openingCodes :=
    fun _ _ _ takes held => notMem_openingCodes_of_composite? takes held
  induction front generalizing stayed with
  | nil =>
      rw [List.nil_append, recompose_taken same joined stayedLess]
      exact exists_recompose kept closed _ _
  | cons code front induction =>
      rcases List.forall_mem_cons.mp less with ⟨⟨mark, codeLess⟩, others⟩
      rw [List.cons_append, recompose.eq_def]
      simp only
      split
      · next between takes =>
          -- A mark of a lesser class does not make the letter Å.
          have takesCode := (Option.ite_none_right_eq_some.mp takes).2
          refine exists_recompose kept (fun betweenOpening => ?_) _ _
          rcases parts_of_opening takesCode betweenOpening with ⟨letter, rfl⟩
          have bound := below letter
          rw [combiningClass_ring] at codeLess
          omega
      · rw [if_neg mark]
        exact induction others (List.forall_mem_cons.mpr ⟨⟨mark, codeLess⟩, stayedLess⟩)

/-- What is no opening is not composed to a text that starts with one. -/
theorem exists_closed_composeCodes {code : ℕ} (closed : code ∉ openingCodes) (rest : List ℕ) :
    ∃ first others, composeCodes (code :: rest) = first :: others ∧ first ∉ openingCodes := by
  rcases List.exists_cons_of_ne_nil (decompose_ne_nil code) with ⟨starter, parts, decomposed⟩
  by_cases free : combiningClass starter = 0
  · rw [composeCodes_cons_starter free decomposed]
    by_cases opening : starter ∈ openingCodes
    · rcases isTransformed_of_decompose closed decomposed opening with
        ⟨taken, others, composite, degree, rfl, nonempty, same, below, joined, composedClosed⟩
      rcases exists_orderMarks_taken nonempty same (others ++ rest.flatMap decompose) with
        ⟨front, back, ordered, less⟩
      have nothing : AreLess degree [] := by simp [AreLess]
      rw [List.append_assoc, ordered]
      exact exists_recompose_transformed same below joined composedClosed less nothing back
    · exact exists_recompose
        (fun _ _ _ joined held => notMem_openingCodes_of_composite? joined held) opening _ _
  · rcases exists_mark_composeCodes decomposed free rest with ⟨mark, others, composed, isMark⟩
    rw [combiningClass_ne_zero_iff] at isMark
    exact ⟨mark, others, composed, fun opening => (openingsHold.plain mark opening).1 isMark⟩

end Composition

end Metrology
