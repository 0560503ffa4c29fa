import Mathlib
import Metrology.Proofs.Text.Normalization

/-!
What a composition starts with. A text that starts with a mark is composed to one that does. A
starter takes up marks and becomes another starter; marks that come later may be taken up before
those that stood next to it, but only if their class is less. Starters that take up nothing but
marks are composed apart from the next starter.
-/

namespace Metrology.Composition

/-! ## Starters and marks -/

/-- All combining marks. -/
def combiningMarks : List ℕ :=
  combiningClasses.flatMap fun (first, last, _) => List.range' first (last + 1 - first)

theorem mem_combiningMarks_iff {code : ℕ} :
    code ∈ combiningMarks ↔ ∃ range ∈ combiningClasses, range.1 ≤ code ∧ code ≤ range.2.1 := by
  simp only [combiningMarks, List.mem_flatMap, mem_range'_iff]

/-- Vowel signs that are no marks, but stand for two of them. -/
def compoundVowels : List ℕ := [0xf73, 0xf75, 0xf81]

/-- Composites of something with a mark. -/
def marked : List ℕ :=
  (composites.filter fun entry => (bitSet combiningMarks).testBit entry.2.2).map Prod.fst

/-- What can be read off the tables about marks, entry by entry. Marks are high, and none is a
Korean letter or syllable. No composite is a mark, and what is put together with a starter is no western
letter and no composite with a mark. Marks come apart into marks, and nothing else leads on to marks
but the vowel signs that stand for two of them. -/
structure MarksHold : Prop where
  ranges : ∀ range ∈ combiningClasses, range.2.2 ≠ 0 ∧ 0x300 ≤ range.1 ∧
    (range.2.1 < 0x1100 ∨ 0x1200 ≤ range.1) ∧ (range.2.1 < 0xac00 ∨ 0xd7a4 ≤ range.1)
  joined : ∀ entry ∈ composites, entry.1 ∉ combiningMarks ∧
    (entry.2.2 ∉ combiningMarks → 0x900 ≤ entry.2.1 ∧ entry.2.1 ∉ marked)
  leading : ∀ entry ∈ leadings, (entry.1 ∈ combiningMarks → entry.2 ∈ combiningMarks) ∧
    (entry.2 ∈ compoundVowels ++ combiningMarks → entry.1 ∈ compoundVowels ++ combiningMarks)
  last : ∀ entry ∈ pairs, entry.1 ∈ combiningMarks → entry.2.2 ∈ combiningMarks

theorem marksHold : MarksHold where
  ranges := by decide +kernel
  joined := by
    have all : ∀ entry ∈ composites, (bitSet combiningMarks).testBit entry.1 = false ∧
        ((bitSet combiningMarks).testBit entry.2.2 = false →
          0x900 ≤ entry.2.1 ∧ (bitSet marked).testBit entry.2.1 = false) := by decide +kernel
    simpa only [testBit_bitSet_eq_false] using all
  leading := by
    have all : ∀ entry ∈ leadings,
        ((bitSet combiningMarks).testBit entry.1 = true →
          (bitSet combiningMarks).testBit entry.2 = true) ∧
        ((bitSet (compoundVowels ++ combiningMarks)).testBit entry.2 = true →
          (bitSet (compoundVowels ++ combiningMarks)).testBit entry.1 = true) := by decide +kernel
    simpa only [testBit_bitSet] using all
  last := by
    have all : ∀ entry ∈ pairs, (bitSet combiningMarks).testBit entry.1 = true →
        (bitSet combiningMarks).testBit entry.2.2 = true := by decide +kernel
    simpa only [testBit_bitSet] using all

theorem combiningClass_ne_zero_iff {code : ℕ} :
    combiningClass code ≠ 0 ↔ code ∈ combiningMarks := by
  rw [mem_combiningMarks_iff, combiningClass]
  split
  · next low =>
      refine iff_of_false (fun absurdity => absurdity rfl) ?_
      rintro ⟨range, member, above, _⟩
      have high := (marksHold.ranges range member).2.1
      omega
  · cases search : combiningClasses.find? fun (first, last, _) =>
        decide (first ≤ code) && decide (code ≤ last) with
    | none =>
        refine iff_of_false (fun absurdity => absurdity rfl) ?_
        rintro ⟨range, member, above, below⟩
        have outside := List.find?_eq_none.mp search range member
        simp [above, below] at outside
    | some range =>
        have member := List.mem_of_find?_eq_some search
        have bounds := List.find?_some search
        simp only [Bool.and_eq_true, decide_eq_true_eq] at bounds
        exact iff_of_true (marksHold.ranges range member).1 ⟨range, member, bounds⟩

theorem combiningClass_eq_zero_iff {code : ℕ} :
    combiningClass code = 0 ↔ code ∉ combiningMarks := by
  rw [← combiningClass_ne_zero_iff, not_not]

theorem Hangul.combiningClass_eq_zero {code : ℕ} (hangul : IsJamo code ∨ isSyllable code = true) :
    combiningClass code = 0 := by
  rw [combiningClass_eq_zero_iff, mem_combiningMarks_iff]
  rintro ⟨range, member, above, below⟩
  have bounds := marksHold.ranges range member
  rw [isSyllable_iff, IsJamo] at hangul
  omega

/-- Whatever is put together is a starter. -/
theorem combiningClass_of_composite? {base mark composite : ℕ}
    (joined : composite? base mark = some composite) : combiningClass composite = 0 := by
  rcases isSyllable_or_mem_composites joined with hangul | member
  · exact Hangul.combiningClass_eq_zero (.inr (Hangul.isSyllable_of_compose? hangul))
  · exact combiningClass_eq_zero_iff.mpr (marksHold.joined _ member).1

/-- Marks come apart into marks. -/
theorem marks_of_decompose {code : ℕ} (mark : combiningClass code ≠ 0) :
    ∀ part ∈ decompose code, combiningClass part ≠ 0 := by
  induction code using decompose_induction with
  | syllable code syllable => exact absurd (Hangul.combiningClass_eq_zero (.inr syllable)) mark
  | atomic code atomic => simpa [atomic.decompose] using mark
  | single code other member opened marks =>
      rw [combiningClass_ne_zero_iff] at mark
      have otherMark := (marksHold.leading _ (mem_leadings_of_mem_singles member)).1 mark
      rw [opened]
      exact marks (combiningClass_ne_zero_iff.mpr otherMark)
  | pair code first second member opened marks =>
      rw [combiningClass_ne_zero_iff] at mark
      have firstMark := (marksHold.leading _ (mem_leadings_of_mem_pairs member)).1 mark
      have secondMark := marksHold.last _ member mark
      rw [opened]
      refine List.forall_mem_append.mpr ⟨marks (combiningClass_ne_zero_iff.mpr firstMark), ?_⟩
      simpa using combiningClass_ne_zero_iff.mpr secondMark

theorem starter_of_mem_leadings {entry : ℕ × ℕ} (member : entry ∈ leadings)
    (free : combiningClass entry.1 = 0) (simple : entry.1 ∉ compoundVowels) :
    combiningClass entry.2 = 0 ∧ entry.2 ∉ compoundVowels := by
  have plain : entry.1 ∉ compoundVowels ++ combiningMarks :=
    List.not_mem_append simple (combiningClass_eq_zero_iff.mp free)
  have leadsPlain := mt (marksHold.leading _ member).2 plain
  rw [List.mem_append, not_or] at leadsPlain
  exact ⟨combiningClass_eq_zero_iff.mpr leadsPlain.2, leadsPlain.1⟩

/-- Any other code point that is no mark comes apart into a starter with something behind it. -/
theorem exists_starter {code : ℕ} (free : combiningClass code = 0)
    (simple : code ∉ compoundVowels) :
    ∃ starter parts, decompose code = starter :: parts ∧ combiningClass starter = 0 := by
  induction code using decompose_induction with
  | syllable code syllable =>
      rcases List.exists_cons_of_ne_nil (decompose_ne_nil code) with ⟨starter, parts, opened⟩
      refine ⟨starter, parts, opened, ?_⟩
      rw [decompose_of_isSyllable syllable] at opened
      exact Hangul.combiningClass_eq_zero
        (.inl (Hangul.isJamo_of_mem_decompose syllable (opened ▸ List.mem_cons_self ..)))
  | atomic code atomic => exact ⟨code, [], atomic.decompose, free⟩
  | single code other member opened starts =>
      rcases starter_of_mem_leadings (mem_leadings_of_mem_singles member) free simple with
        ⟨otherFree, otherSimple⟩
      rw [opened]
      exact starts otherFree otherSimple
  | pair code first second member opened starts =>
      rcases starter_of_mem_leadings (mem_leadings_of_mem_pairs member) free simple with
        ⟨firstFree, firstSimple⟩
      rcases starts firstFree firstSimple with ⟨starter, parts, decomposed, isStarter⟩
      exact ⟨starter, parts ++ [second], by rw [opened, decomposed]; rfl, isStarter⟩

/-! ## Texts that start with a mark -/

/-- A mark goes behind a first mark, or before it. -/
theorem exists_first_insertMark {first : ℕ} (isMark : combiningClass first ≠ 0) (code : ℕ)
    (reversed : List ℕ) : ∃ others mark,
      insertMark code (reversed ++ [first]) = others ++ [mark] ∧ combiningClass mark ≠ 0 := by
  induction reversed with
  | nil =>
      rw [List.nil_append, insertMark]
      split
      · next lesser => exact ⟨[first], code, rfl, lesser.1⟩
      · exact ⟨[code], first, rfl, isMark⟩
  | cons last reversed induction =>
      rw [List.cons_append, insertMark]
      split
      · rcases induction with ⟨others, mark, inserted, firstMark⟩
        exact ⟨last :: others, mark, by rw [inserted]; rfl, firstMark⟩
      · exact ⟨code :: last :: reversed, first, rfl, isMark⟩

theorem exists_first_insertMarks {first : ℕ} (isMark : combiningClass first ≠ 0) (codes : List ℕ)
    (reversed : List ℕ) : ∃ others mark,
      insertMarks (reversed ++ [first]) codes = others ++ [mark] ∧ combiningClass mark ≠ 0 := by
  induction codes generalizing first reversed with
  | nil => exact ⟨reversed, first, rfl, isMark⟩
  | cons code codes induction =>
      rcases exists_first_insertMark isMark code reversed with ⟨others, mark, inserted, firstMark⟩
      rw [insertMarks_cons, inserted]
      exact induction firstMark others

/-- What comes apart into a mark first is composed to something that starts with one. -/
theorem exists_mark_composeCodes {code first : ℕ} {parts : List ℕ}
    (decomposed : decompose code = first :: parts) (isMark : combiningClass first ≠ 0)
    (rest : List ℕ) :
    ∃ mark others, composeCodes (code :: rest) = mark :: others ∧ combiningClass mark ≠ 0 := by
  rcases exists_first_insertMarks isMark (parts ++ rest.flatMap decompose) [] with
    ⟨others, mark, inserted, firstMark⟩
  have ordered : orderMarks ((code :: rest).flatMap decompose) = mark :: others.reverse := by
    rw [List.flatMap_cons, decomposed, List.cons_append, orderMarks_eq, insertMarks_cons,
      insertMark, ← List.nil_append [first], inserted]
    simp
  refine ⟨mark, recomposeAll others.reverse, ?_, firstMark⟩
  rw [composeCodes, ordered, recomposeAll, if_neg firstMark]

/-! ## Texts that start with a starter -/

/-- What holds of a starter, and passes to all composites, holds of what it becomes. -/
theorem exists_recompose {property : ℕ → Prop}
    (kept : ∀ base mark composite, composite? base mark = some composite → property base →
      property composite) {base : ℕ} (holds : property base) (marks rest : List ℕ) :
    ∃ first others, recompose base marks rest = first :: others ∧ property first := by
  induction rest generalizing base marks with
  | nil => exact ⟨base, marks.reverse, rfl, holds⟩
  | cons code rest induction =>
      rw [recompose.eq_def]
      simp only
      split
      · next composite joined =>
          exact induction (kept _ _ _ (Option.ite_none_right_eq_some.mp joined).2 holds) marks
      · split
        · exact ⟨base, _, rfl, holds⟩
        · exact induction holds (code :: marks)

/-- A starter stays a starter. -/
theorem exists_starter_composeCodes {code starter : ℕ} {parts : List ℕ}
    (decomposed : decompose code = starter :: parts) (free : combiningClass starter = 0)
    (rest : List ℕ) :
    ∃ first others, composeCodes (code :: rest) = first :: others ∧ combiningClass first = 0 := by
  rw [composeCodes_cons_starter free decomposed]
  exact exists_recompose (fun _ _ _ joined _ => combiningClass_of_composite? joined) free _ _

/-! ## Marks next to a starter

Only marks of a lesser class can come between a starter and the marks of one class that stand
next to it. -/

section Marks

variable {degree : ℕ} {taken : List ℕ}

/-- Marks of lesser classes than a given one. -/
def AreLess (degree : ℕ) (marks : List ℕ) : Prop :=
  ∀ mark ∈ marks, combiningClass mark ≠ 0 ∧ combiningClass mark < degree

theorem insertMark_append_of_lt {code : ℕ} (isMark : combiningClass code ≠ 0)
    (less : ∀ mark ∈ taken, combiningClass code < combiningClass mark) (reversed : List ℕ) :
    insertMark code (taken ++ reversed) = taken ++ insertMark code reversed := by
  induction taken with
  | nil => rfl
  | cons mark taken induction =>
      rcases List.forall_mem_cons.mp less with ⟨first, others⟩
      rw [List.cons_append, insertMark, if_pos ⟨isMark, first⟩, induction others, List.cons_append]

theorem exists_insertMark_taken (nonempty : taken ≠ [])
    (same : ∀ mark ∈ taken, combiningClass mark = degree) (code : ℕ) {front : List ℕ}
    (less : AreLess degree front) (later : List ℕ) :
    ∃ others marks, insertMark code (later ++ (taken ++ front)) = others ++ (taken ++ marks) ∧
      AreLess degree marks := by
  induction later with
  | nil =>
      by_cases passes : combiningClass code ≠ 0 ∧ combiningClass code < degree
      · have lessThanTaken : ∀ mark ∈ taken, combiningClass code < combiningClass mark :=
          fun mark member => (same mark member).symm ▸ passes.2
        refine ⟨[], insertMark code front, ?_, fun mark member => ?_⟩
        · exact insertMark_append_of_lt passes.1 lessThanTaken front
        · rcases mem_insertMark.mp member with rfl | held
          · exact passes
          · exact less mark held
      · rcases List.exists_cons_of_ne_nil nonempty with ⟨mark, others, rfl⟩
        rw [← same mark (List.mem_cons_self ..)] at passes
        refine ⟨[code], front, ?_, less⟩
        rw [List.nil_append, List.cons_append, insertMark, if_neg passes]
        rfl
  | cons last later induction =>
      rw [List.cons_append, insertMark]
      split
      · rcases induction with ⟨others, marks, inserted, lessMarks⟩
        exact ⟨last :: others, marks, by rw [inserted]; rfl, lessMarks⟩
      · exact ⟨code :: last :: later, front, rfl, less⟩

theorem exists_insertMarks_taken (nonempty : taken ≠ [])
    (same : ∀ mark ∈ taken, combiningClass mark = degree) (codes : List ℕ) {front : List ℕ}
    (less : AreLess degree front) (later : List ℕ) :
    ∃ others marks, insertMarks (later ++ (taken ++ front)) codes = others ++ (taken ++ marks) ∧
      AreLess degree marks := by
  induction codes generalizing front later with
  | nil => exact ⟨later, front, rfl, less⟩
  | cons code codes induction =>
      rcases exists_insertMark_taken nonempty same code less later with
        ⟨others, marks, inserted, lessMarks⟩
      rw [insertMarks_cons, inserted]
      exact induction lessMarks others

theorem exists_orderMarks_taken (nonempty : taken ≠ [])
    (same : ∀ mark ∈ taken, combiningClass mark = degree) (codes : List ℕ) :
    ∃ front back, orderMarks (taken ++ codes) = front ++ (taken ++ back) ∧
      AreLess degree front := by
  have ordered : IsOrdered taken := by
    apply List.Pairwise.isChain
    apply List.pairwise_of_forall_mem_list
    intro first firstMember second secondMember
    exact .inr (by rw [same first firstMember, same second secondMember])
  have first : insertMarks [] taken = taken.reverse := by
    rw [insertMarks_of_isOrdered ordered (by simp), List.append_nil]
  have sameReversed : ∀ mark ∈ taken.reverse, combiningClass mark = degree := by simpa using same
  have nothing : AreLess degree [] := by simp [AreLess]
  rcases exists_insertMarks_taken (List.reverse_ne_nil_iff.mpr nonempty) sameReversed codes nothing
    [] with ⟨others, marks, inserted, less⟩
  refine ⟨marks.reverse, others.reverse, ?_, fun mark member => ?_⟩
  · rw [List.append_nil, List.nil_append] at inserted
    rw [orderMarks_eq, insertMarks_append, first, inserted]
    simp
  · exact less mark (List.mem_reverse.mp member)

/-- A starter takes up what no mark behind it keeps away. -/
theorem recompose_cons_of_composite? {base code composite : ℕ} {stayed : List ℕ}
    (less : ∀ last ∈ stayed.head?, combiningClass last < combiningClass code)
    (joined : composite? base code = some composite) (rest : List ℕ) :
    recompose base stayed (code :: rest) = recompose composite stayed rest := by
  cases stayed with
  | nil =>
      rw [recompose.eq_def]
      simp only [if_true, joined]
  | cons last stayed =>
      have reachable : decide (combiningClass last < combiningClass code) = true :=
        decide_eq_true (less last rfl)
      rw [recompose.eq_def]
      simp only [reachable, if_true, joined]

/-- A starter takes up marks of one class one by one if no mark of that class stayed behind it. -/
theorem recompose_taken {base composite : ℕ} (same : ∀ mark ∈ taken, combiningClass mark = degree)
    (joined : taken.foldlM composite? base = some composite) {stayed : List ℕ}
    (less : AreLess degree stayed) (rest : List ℕ) :
    recompose base stayed (taken ++ rest) = recompose composite stayed rest := by
  induction taken generalizing base with
  | nil =>
      cases joined
      rfl
  | cons mark taken induction =>
      rcases List.forall_mem_cons.mp same with ⟨first, others⟩
      rw [List.foldlM_cons] at joined
      rcases Option.bind_eq_some_iff.mp joined with ⟨between, takes, goesOn⟩
      have reached : ∀ last ∈ stayed.head?, combiningClass last < combiningClass mark :=
        fun last member => first ▸ (less last (List.mem_of_mem_head? member)).2
      rw [List.cons_append, recompose_cons_of_composite? reached takes, induction others goesOn]

end Marks

/-! ## Starters that take up marks only -/

/-- Starters with which no other starter is put together. -/
def TakesMarksOnly (base : ℕ) : Prop :=
  ∀ starter, combiningClass starter = 0 → composite? base starter = none

theorem TakesMarksOnly.composite? {base mark composite : ℕ} (only : TakesMarksOnly base)
    (joined : composite? base mark = some composite) : TakesMarksOnly composite := by
  have isMark : combiningClass mark ≠ 0 := by
    intro free
    rw [only mark free] at joined
    cases joined
  have member : (composite, base, mark) ∈ composites := by
    refine (isSyllable_or_mem_composites joined).resolve_left fun hangul => isMark ?_
    exact Hangul.combiningClass_eq_zero (.inl (Hangul.parts_of_compose? hangul).2)
  intro starter free
  by_contra taken
  rcases Option.ne_none_iff_exists'.mp taken with ⟨other, takes⟩
  rcases isSyllable_or_mem_composites takes with hangul | otherMember
  · have high := high_of_mem_leadings (mem_leadings_of_mem_composites member)
    rcases (Hangul.parts_of_compose? hangul).1 with jamo | syllable
    · exact high.2.2.1 jamo
    · simp [high.2.1] at syllable
  · have listed : composite ∈ marked := by
      refine List.mem_map.mpr ⟨_, List.mem_filter.mpr ⟨member, ?_⟩, rfl⟩
      exact testBit_bitSet.mpr (combiningClass_ne_zero_iff.mp isMark)
    have bounds := (marksHold.joined _ otherMember).2 (combiningClass_eq_zero_iff.mp free)
    exact bounds.2 listed

/-- The letters of the western scripts take up no starters. -/
theorem takesMarksOnly_of_lt {base : ℕ} (low : base < 0x900) : TakesMarksOnly base := by
  intro starter free
  by_contra taken
  rcases Option.ne_none_iff_exists'.mp taken with ⟨composite, takes⟩
  rcases isSyllable_or_mem_composites takes with hangul | member
  · rcases (Hangul.parts_of_compose? hangul).1 with jamo | syllable
    · have first := jamo.1
      omega
    · have first := (Hangul.isSyllable_iff.mp syllable).1
      omega
  · have bounds := (marksHold.joined _ member).2 (combiningClass_eq_zero_iff.mp free)
    exact absurd low (Nat.not_lt.mpr bounds.1)

/-- Behind starters that take up marks only a text is composed apart from its next starter. -/
theorem composeCodes_append_of_takesMarksOnly {before : List ℕ}
    (only : ∀ part ∈ before.flatMap decompose, combiningClass part = 0 → TakesMarksOnly part)
    {code : ℕ} (free : combiningClass code = 0) (simple : code ∉ compoundVowels) (after : List ℕ) :
    composeCodes (before ++ code :: after) =
      composeCodes before ++ composeCodes (code :: after) := by
  rcases exists_starter free simple with ⟨starter, parts, decomposed, isStarter⟩
  exact composeCodes_append_starter isStarter (fun _ _ _ joined held => held.composite? joined)
    (fun _ held => held starter isStarter) decomposed only after

end Metrology.Composition
