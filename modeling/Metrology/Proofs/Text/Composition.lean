import Mathlib
import Metrology.Expression.Token

/-!
Canonical composition of names. A word of name letters is composed already, although
the letter Å comes apart on the way. No composition brings in an operator or a digit:
what stands in a composed text stood in the text itself.
-/

namespace Metrology

/-! ## Name letters -/

/-- All letters and signs that names are made of. -/
def nameLetters : List Char :=
  (List.range' 65 26 ++ List.range' 97 26).map Char.ofNat ++ ['_', 'Ω', '°', 'Å', '"', '\'']

theorem mem_map_ofNat_range' {character : Char} {first count : ℕ}
    (low : first ≤ character.toNat) (high : character.toNat < first + count) :
    character ∈ (List.range' first count).map Char.ofNat :=
  List.mem_map.mpr
    ⟨character.toNat, List.mem_range'_1.mpr ⟨low, high⟩, Char.ofNat_toNat character⟩

theorem mem_nameLetters {character : Char} (letter : isNameLetter character = true) :
    character ∈ nameLetters := by
  rw [nameLetters, List.map_append, List.mem_append, List.mem_append]
  rcases Bool.or_eq_true_iff.mp letter with alphabetic | sign
  · left
    rcases Bool.or_eq_true_iff.mp alphabetic with upper | lower
    · simp only [Char.isUpper, decide_eq_true_eq] at upper
      exact .inl (mem_map_ofNat_range' upper.1 (Nat.lt_succ_of_le upper.2))
    · simp only [Char.isLower, Bool.and_eq_true, decide_eq_true_eq] at lower
      exact .inr (mem_map_ofNat_range' lower.1 (Nat.lt_succ_of_le lower.2))
  · right
    simpa using sign

/-- What holds of every name letter can be evaluated. -/
theorem of_isNameLetter {test : Char → Bool} (all : nameLetters.all test = true)
    {character : Char} (letter : isNameLetter character = true) : test character = true :=
  List.all_eq_true.mp all character (mem_nameLetters letter)

namespace Composition

/-! ## Words of name letters -/

/-- Code points that composition neither takes apart nor joins to what stands before. -/
structure IsInert (code : ℕ) : Prop where
  combiningClass : combiningClass code = 0
  decompose : decompose code = [code]
  composite? : ∀ base, composite? base code = none

theorem isInert_of_lt {code : ℕ} (low : code < 0xc0) : IsInert code where
  combiningClass := by rw [Composition.combiningClass, if_pos (by omega)]
  decompose := by rw [Composition.decompose, decomposeWithin, if_pos low]
  composite? := fun base => by rw [Composition.composite?, if_pos (by omega)]

/-- The letter omega is no mark of any composite. -/
theorem isInert_omega : IsInert 0x3a9 where
  combiningClass := by decide +kernel
  decompose := by decide +kernel
  composite? := by
    intro base
    have noMark : composites.all (fun entry => entry.2.2 != 0x3a9) = true := by decide +kernel
    have noSyllable : Hangul.compose? base 0x3a9 = none := by
      simp [Hangul.compose?, Hangul.vowels, Hangul.trails]
    rw [Composition.composite?, if_neg (by decide), noSyllable]
    simp only [Option.map_eq_none_iff, List.find?_eq_none]
    rintro ⟨composite, first, mark⟩ member
    have differs := List.all_eq_true.mp noMark _ member
    simp only [bne_iff_ne] at differs
    simp [differs]

/-- The code points of name letters: Å alone comes apart. -/
def IsLetter (code : ℕ) : Prop := IsInert code ∨ code = 0xc5

theorem decompose_ring : decompose 0xc5 = [0x41, 0x30a] := by decide +kernel

theorem insertMark_of_combiningClass_eq_zero {code : ℕ} (free : combiningClass code = 0)
    (reversed : List ℕ) : insertMark code reversed = code :: reversed := by
  cases reversed with
  | nil => rfl
  | cons last reversed => rw [insertMark, if_neg fun both => both.1 free]

theorem foldl_insertMark_decompose {code : ℕ} (letter : IsLetter code) (reversed : List ℕ) :
    (decompose code).foldl (fun reversed code => insertMark code reversed) reversed =
      (decompose code).reverse ++ reversed := by
  rcases letter with inert | rfl
  · rw [inert.decompose]
    exact insertMark_of_combiningClass_eq_zero inert.combiningClass reversed
  · have free : combiningClass 0x41 = 0 := by decide
    have behind : insertMark 0x30a (0x41 :: reversed) = 0x30a :: 0x41 :: reversed := by
      rw [insertMark, if_neg fun both => by rw [free] at both; omega]
    rw [decompose_ring, List.foldl_cons, insertMark_of_combiningClass_eq_zero free, List.foldl_cons,
      behind]
    rfl

theorem orderMarks_letters {codes : List ℕ} (letters : ∀ code ∈ codes, IsLetter code) :
    orderMarks (codes.flatMap decompose) = codes.flatMap decompose := by
  have folded (reversed : List ℕ) :
      (codes.flatMap decompose).foldl (fun reversed code => insertMark code reversed) reversed =
        (codes.flatMap decompose).reverse ++ reversed := by
    induction codes generalizing reversed with
    | nil => rfl
    | cons code codes induction =>
        rw [List.flatMap_cons, List.foldl_append,
          foldl_insertMark_decompose (letters code (List.mem_cons_self ..)),
          induction fun other member => letters other (List.mem_cons_of_mem _ member)]
        simp
  rw [orderMarks, folded, List.append_nil, List.reverse_reverse]

theorem recompose_cons_inert {code : ℕ} (inert : IsInert code) (base : ℕ) (rest : List ℕ) :
    recompose base [] (code :: rest) = base :: recompose code [] rest := by
  rw [recompose]
  simp [inert.composite? base, inert.combiningClass]

theorem composite?_ring : composite? 0x41 0x30a = some 0xc5 := by decide +kernel

theorem recompose_ring (rest : List ℕ) :
    recompose 0x41 [] (0x30a :: rest) = recompose 0xc5 [] rest := by
  rw [recompose]
  simp [composite?_ring]

theorem recompose_letters {codes : List ℕ} (letters : ∀ code ∈ codes, IsLetter code) (base : ℕ) :
    recompose base [] (codes.flatMap decompose) = base :: codes := by
  induction codes generalizing base with
  | nil => rfl
  | cons code codes induction =>
      have others := induction fun other member => letters other (List.mem_cons_of_mem _ member)
      rw [List.flatMap_cons]
      rcases letters code (List.mem_cons_self ..) with inert | rfl
      · rw [inert.decompose, List.singleton_append, recompose_cons_inert inert, others]
      · rw [decompose_ring, List.cons_append, List.singleton_append,
          recompose_cons_inert (isInert_of_lt (by decide)), recompose_ring, others]

theorem composeCodes_letters {codes : List ℕ} (letters : ∀ code ∈ codes, IsLetter code) :
    composeCodes codes = codes := by
  rw [composeCodes, orderMarks_letters letters]
  cases codes with
  | nil => rfl
  | cons code codes =>
      have others : ∀ other ∈ codes, IsLetter other :=
        fun other member => letters other (List.mem_cons_of_mem _ member)
      rw [List.flatMap_cons]
      rcases letters code (List.mem_cons_self ..) with inert | rfl
      · rw [inert.decompose, List.singleton_append, recomposeAll, if_pos inert.combiningClass,
          recompose_letters others]
      · rw [decompose_ring, List.cons_append, List.singleton_append, recomposeAll,
          if_pos (by decide), recompose_ring, recompose_letters others]

theorem isLetter_of_isNameLetter {character : Char} (letter : isNameLetter character = true) :
    IsLetter character.toNat := by
  have listed : character.toNat < 0xc0 ∨ character.toNat = 0x3a9 ∨ character.toNat = 0xc5 := by
    have all : nameLetters.all (fun letter => decide (letter.toNat < 0xc0 ∨
        letter.toNat = 0x3a9 ∨ letter.toNat = 0xc5)) = true := by decide
    simpa using of_isNameLetter all letter
  rcases listed with low | omega | ring
  · exact .inl (isInert_of_lt low)
  · exact .inl (omega ▸ isInert_omega)
  · exact .inr ring

/-! ## What composition keeps -/

/-- The consonants and vowels of Hangul. -/
def Hangul.IsJamo (code : ℕ) : Prop := 0x1100 ≤ code ∧ code < 0x1200

instance : DecidablePred Hangul.IsJamo :=
  fun code => inferInstanceAs (Decidable (0x1100 ≤ code ∧ code < 0x1200))

theorem Hangul.isSyllable_iff {code : ℕ} :
    isSyllable code = true ↔ 0xac00 ≤ code ∧ code < 0xd7a4 := by
  rw [isSyllable, Bool.and_eq_true, decide_eq_true_eq, decide_eq_true_eq]
  rfl

theorem Hangul.isJamo_of_mem_decompose {code part : ℕ} (syllable : isSyllable code = true)
    (member : part ∈ Hangul.decompose code) : IsJamo part := by
  have bounds := isSyllable_iff.mp syllable
  rw [Hangul.decompose] at member
  have letters : part = leads + (code - syllables) / (vowelCount * trailCount) ∨
      part = vowels + (code - syllables) % (vowelCount * trailCount) / trailCount ∨
      part = trails + (code - syllables) % trailCount := by
    split at member <;> simp only [List.mem_cons, List.not_mem_nil, or_false] at member
    · exact member.imp_right .inl
    · exact member
  simp only [leads, vowels, trails, syllables, vowelCount, trailCount] at letters
  unfold IsJamo
  omega

theorem Hangul.isSyllable_of_compose? {first second syllable : ℕ}
    (joined : Hangul.compose? first second = some syllable) : isSyllable syllable = true := by
  rw [Hangul.compose?] at joined
  split at joined
  · next letters =>
      rw [← Option.some.inj joined, isSyllable_iff]
      simp only [leads, vowels, leadCount, vowelCount] at letters
      simp only [leads, vowels, syllables, vowelCount, trailCount]
      omega
  · split at joined
    · next letters =>
        rw [← Option.some.inj joined, isSyllable_iff]
        simp only [isSyllable_iff, syllables, trails, trailCount] at letters ⊢
        omega
    · cases joined

theorem Hangul.parts_of_compose? {first second syllable : ℕ}
    (joined : Hangul.compose? first second = some syllable) :
    (IsJamo first ∨ isSyllable first = true) ∧ IsJamo second := by
  rw [Hangul.compose?] at joined
  unfold IsJamo
  split at joined
  · next letters =>
      simp only [leads, vowels, leadCount, vowelCount] at letters
      omega
  · split at joined
    · next letters =>
        rcases letters with ⟨single, _, low, high⟩
        simp only [trails, trailCount] at low high
        exact ⟨.inr single, by omega⟩
    · cases joined

/-- The characters that a pair stands for. -/
def pairs : List (ℕ × ℕ × ℕ) := composites ++ splitOnly

/-- The characters that another character stands for. -/
def singles : List (ℕ × ℕ) := variants ++ ideographs ++ supplementaryIdeographs

theorem mem_pairs_of_pair? {code first second : ℕ} (found : pair? code = some (first, second)) :
    (code, first, second) ∈ pairs := by
  rcases Option.map_eq_some_iff.mp found with ⟨entry, inTable, parts⟩
  have key : entry.1 = code := by simpa using List.find?_some inTable
  rw [← key, ← parts]
  exact List.mem_of_find?_eq_some inTable

theorem mem_singles_of_singleton? {code other : ℕ} (found : singleton? code = some other) :
    (code, other) ∈ singles := by
  rcases Option.map_eq_some_iff.mp found with ⟨entry, inTable, target⟩
  have key : entry.1 = code := by simpa using List.find?_some inTable
  rw [← key, ← target]
  exact List.mem_of_find?_eq_some inTable

/-- A composite of two code points is a syllable or stands in the table. -/
theorem isSyllable_or_mem_composites {base mark composite : ℕ}
    (joined : composite? base mark = some composite) :
    Hangul.compose? base mark = some composite ∨ (composite, base, mark) ∈ composites := by
  rw [composite?] at joined
  split at joined
  · cases joined
  · split at joined
    · next syllable found =>
        cases joined
        exact .inl found
    · rcases Option.map_eq_some_iff.mp joined with ⟨⟨code, first, second⟩, inTable, rfl⟩
      have parts : first = base ∧ second = mark := by simpa using List.find?_some inTable
      rw [← parts.1, ← parts.2]
      exact .inr (List.mem_of_find?_eq_some inTable)

/-- Properties of code points that no part and no composite loses. -/
structure IsKept (property : ℕ → Prop) : Prop where
  syllables : ∀ code, Hangul.isSyllable code = true → property code
  jamo : ∀ code, Hangul.IsJamo code → property code
  pairs : ∀ entry ∈ pairs, property entry.1 ∧ property entry.2.1 ∧ property entry.2.2
  singles : ∀ entry ∈ singles, property entry.1 → property entry.2

theorem mem_insertMark {target code : ℕ} {reversed : List ℕ} :
    target ∈ insertMark code reversed ↔ target = code ∨ target ∈ reversed := by
  induction reversed with
  | nil => simp [insertMark]
  | cons last reversed induction =>
      rw [insertMark]
      split <;> simp [induction, or_left_comm]

theorem mem_orderMarks {target : ℕ} {codes : List ℕ} :
    target ∈ orderMarks codes ↔ target ∈ codes := by
  have folded (reversed : List ℕ) :
      target ∈ codes.foldl (fun reversed code => insertMark code reversed) reversed ↔
        target ∈ codes ∨ target ∈ reversed := by
    induction codes generalizing reversed with
    | nil => simp
    | cons code codes induction => simp [induction, mem_insertMark, or_assoc, or_left_comm]
  simp [orderMarks, folded]

namespace IsKept

variable {property : ℕ → Prop} (kept : IsKept property)

include kept

theorem composite? {base mark composite : ℕ} (joined : composite? base mark = some composite) :
    property composite := by
  rcases isSyllable_or_mem_composites joined with syllable | member
  · exact kept.syllables _ (Hangul.isSyllable_of_compose? syllable)
  · exact (kept.pairs _ (List.mem_append_left splitOnly member)).1

theorem decomposeWithin {depth code : ℕ} (holds : property code) :
    ∀ part ∈ decomposeWithin depth code, property part := by
  induction depth generalizing code with
  | zero => simpa [Composition.decomposeWithin] using holds
  | succ depth induction =>
      rw [Composition.decomposeWithin]
      split
      · simpa using holds
      · split
        · next syllable =>
            exact fun part member => kept.jamo _ (Hangul.isJamo_of_mem_decompose syllable member)
        · split
          · next found =>
              exact induction (kept.singles _ (mem_singles_of_singleton? found) holds)
          · split
            · next found =>
                have parts := kept.pairs _ (mem_pairs_of_pair? found)
                refine List.forall_mem_append.mpr ⟨induction parts.2.1, ?_⟩
                simpa using parts.2.2
            · simpa using holds

theorem recompose {base : ℕ} {marks codes : List ℕ} (holdsBase : property base)
    (holdsMarks : ∀ mark ∈ marks, property mark) (holds : ∀ code ∈ codes, property code) :
    ∀ code ∈ recompose base marks codes, property code := by
  induction codes generalizing base marks with
  | nil => simpa [Composition.recompose] using ⟨holdsBase, holdsMarks⟩
  | cons code codes induction =>
      rcases List.forall_mem_cons.mp holds with ⟨holdsCode, holdsRest⟩
      rw [recompose.eq_def]
      simp only
      split
      · next composite joined =>
          have held := kept.composite? (Option.ite_none_right_eq_some.mp joined).2
          exact induction held holdsMarks holdsRest
      · split
        · refine List.forall_mem_append.mpr ⟨?_, induction holdsCode (by simp) holdsRest⟩
          simpa using ⟨holdsBase, holdsMarks⟩
        · exact induction holdsBase (List.forall_mem_cons.mpr ⟨holdsCode, holdsMarks⟩) holdsRest

theorem recomposeAll {codes : List ℕ} (holds : ∀ code ∈ codes, property code) :
    ∀ code ∈ recomposeAll codes, property code := by
  induction codes with
  | nil => exact holds
  | cons code codes induction =>
      rcases List.forall_mem_cons.mp holds with ⟨holdsCode, holdsRest⟩
      rw [Composition.recomposeAll]
      split
      · exact kept.recompose holdsCode (by simp) holdsRest
      · exact List.forall_mem_cons.mpr ⟨holdsCode, induction holdsRest⟩

/-- What holds of every character of a text holds of every character of its composition. -/
theorem composeCodes {codes : List ℕ} (holds : ∀ code ∈ codes, property code) :
    ∀ code ∈ composeCodes codes, property code := by
  refine kept.recomposeAll fun part member => ?_
  rcases List.mem_flatMap.mp (mem_orderMarks.mp member) with ⟨code, codeMember, partMember⟩
  exact kept.decomposeWithin (holds code codeMember) part partMember

end IsKept

/-- Code points that nothing comes apart into and nothing is joined to. -/
structure IsUncomposed (target : ℕ) : Prop where
  low : target < 0xc0
  pairs : (composites ++ splitOnly).all
    (fun (composite, first, second) =>
      composite != target && first != target && second != target) = true
  singletons : (variants ++ ideographs ++ supplementaryIdeographs).all
    (fun (_, other) => other != target) = true

theorem IsUncomposed.isKept {target : ℕ} (uncomposed : IsUncomposed target) :
    IsKept (· ≠ target) where
  syllables := by
    intro code syllable
    have low := uncomposed.low
    have high := (Hangul.isSyllable_iff.mp syllable).1
    omega
  jamo := by
    intro code jamo
    have low := uncomposed.low
    have high := jamo.1
    omega
  pairs := by
    intro entry member
    simpa [and_assoc] using List.all_eq_true.mp uncomposed.pairs entry member
  singles := by
    intro entry member _
    simpa using List.all_eq_true.mp uncomposed.singletons entry member

theorem mem_of_mem_composeCodes {target : ℕ} (uncomposed : IsUncomposed target) {codes : List ℕ}
    (member : target ∈ composeCodes codes) : target ∈ codes := by
  by_contra absent
  have others : ∀ code ∈ codes, code ≠ target := fun code codeMember equal =>
    absent (equal ▸ codeMember)
  exact uncomposed.isKept.composeCodes others target member rfl

end Composition

/-- Texts whose letters composition leaves alone are composed. -/
theorem composed_letters {text : List Char}
    (letters : ∀ character ∈ text, Composition.IsLetter character.toNat) : composed text = text := by
  have codes : ∀ code ∈ text.map Char.toNat, Composition.IsLetter code := by
    simpa [List.forall_mem_map] using letters
  rw [composed, Composition.composeCodes_letters codes, List.map_map]
  simp [Function.comp_def]

/-- Words of name letters are composed. -/
theorem composed_word {word : List Char} (letters : ∀ letter ∈ word, isNameLetter letter = true) :
    composed word = word :=
  composed_letters fun letter member => Composition.isLetter_of_isNameLetter (letters letter member)

/-- What nothing is composed to comes out of no composition. -/
theorem mem_of_mem_composed {sign : Char} {text : List Char}
    (uncomposed : Composition.IsUncomposed sign.toNat) (nonzero : sign.toNat ≠ 0)
    (member : sign ∈ composed text) : sign ∈ text := by
  rcases List.mem_map.mp member with ⟨code, codeMember, rfl⟩
  have code_eq : (Char.ofNat code).toNat = code := by
    rw [Char.toNat_ofNat] at nonzero ⊢
    split at nonzero
    · next valid => rw [if_pos valid]
    · exact absurd rfl nonzero
  rw [code_eq] at uncomposed
  rcases List.mem_map.mp (Composition.mem_of_mem_composeCodes uncomposed codeMember) with
    ⟨character, characterMember, rfl⟩
  rwa [Char.ofNat_toNat]

end Metrology
