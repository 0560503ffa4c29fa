import Mathlib
import Metrology.Proofs.Text.Composition

/-!
What code points come apart into. The tables lead from a code point on to others at most
three times in a row; what is left then stands in no table and is no syllable, so that it
comes apart into itself. A composite comes apart into what its base comes apart into, and
its mark.
-/

namespace Metrology.Composition

/-! ## Sets of code points

Looking a code point up in the tables takes too long to do it for all code points in
them; in a set of bits it is one step. -/

/-- A set of code points, one bit for each. -/
def bitSet : List ℕ → ℕ
  | [] => 0
  | code :: codes => 2 ^ code ||| bitSet codes

@[simp] theorem testBit_bitSet {codes : List ℕ} {code : ℕ} :
    (bitSet codes).testBit code = true ↔ code ∈ codes := by
  induction codes with
  | nil => simp [bitSet]
  | cons first rest induction =>
      rw [bitSet, Nat.testBit_or, Nat.testBit_two_pow, Bool.or_eq_true, decide_eq_true_eq,
        induction, List.mem_cons, eq_comm]

@[simp] theorem testBit_bitSet_eq_false {codes : List ℕ} {code : ℕ} :
    (bitSet codes).testBit code = false ↔ code ∉ codes := by
  rw [← Bool.not_eq_true, testBit_bitSet]

theorem mem_range'_iff {code first last : ℕ} :
    code ∈ List.range' first (last + 1 - first) ↔ first ≤ code ∧ code ≤ last := by
  rw [List.mem_range'_1]
  omega

/-! ## The tables -/

/-- Code points with the first, or only, code point that they stand for. -/
def leadings : List (ℕ × ℕ) := pairs.map (fun entry => (entry.1, entry.2.1)) ++ singles

/-- Code points from which the tables lead on more than so many times. -/
def nested : ℕ → List ℕ
  | 0 => leadings.map Prod.fst
  | depth + 1 =>
      (leadings.filter fun entry => (bitSet (nested depth)).testBit entry.2).map Prod.fst

theorem mem_nested_of_mem_leadings {depth code other : ℕ} (member : (code, other) ∈ leadings)
    (further : other ∈ nested depth) : code ∈ nested (depth + 1) :=
  List.mem_map.mpr ⟨(code, other), List.mem_filter.mpr ⟨member, testBit_bitSet.mpr further⟩, rfl⟩

/-- What can be read off the tables, entry by entry: they lead on at most three times in a row, from
nothing low or Korean and to no syllable; the second code point of a pair leads on to nothing; and
the composites are in order and stand for nothing but their pairs. -/
structure TablesHold : Prop where
  shallow : nested 3 = []
  high : ∀ entry ∈ leadings, 0xc0 ≤ entry.1 ∧ Hangul.isSyllable entry.1 = false ∧
    ¬ Hangul.IsJamo entry.1 ∧ Hangul.isSyllable entry.2 = false
  last : ∀ entry ∈ pairs, entry.2.2 ∉ nested 0 ∧ Hangul.isSyllable entry.2.2 = false
  ascending : (composites.map Prod.fst).IsChain (· < ·)
  distinct : ∀ entry ∈ composites, entry.1 ∉ singles.map Prod.fst

theorem tablesHold : TablesHold where
  shallow := by decide +kernel
  high := by decide +kernel
  last := by
    have all : ∀ entry ∈ pairs, (bitSet (nested 0)).testBit entry.2.2 = false ∧
        Hangul.isSyllable entry.2.2 = false := by decide +kernel
    simpa only [testBit_bitSet_eq_false] using all
  ascending := by decide +kernel
  distinct := by
    have all : ∀ entry ∈ composites, (bitSet (singles.map Prod.fst)).testBit entry.1 = false := by
      decide +kernel
    simpa only [testBit_bitSet_eq_false] using all

theorem high_of_mem_leadings {entry : ℕ × ℕ} (member : entry ∈ leadings) :
    0xc0 ≤ entry.1 ∧ Hangul.isSyllable entry.1 = false ∧ ¬ Hangul.IsJamo entry.1 ∧
      Hangul.isSyllable entry.2 = false := tablesHold.high entry member

/-! ## Atoms -/

/-- Code points that stand in no table and are no syllables. -/
structure IsAtomic (code : ℕ) : Prop where
  unlisted : code ∉ nested 0
  single : Hangul.isSyllable code = false

theorem isAtomic_of_isJamo {code : ℕ} (jamo : Hangul.IsJamo code) : IsAtomic code where
  unlisted := by
    intro listed
    rcases List.mem_map.mp listed with ⟨entry, member, rfl⟩
    exact (high_of_mem_leadings member).2.2.1 jamo
  single := by
    by_contra syllable
    have first := Hangul.isSyllable_iff.mp (Bool.not_eq_false _ ▸ syllable)
    have last := jamo.2
    omega

/-- The second code point of a pair never comes apart. -/
theorem isAtomic_of_mem_pairs {entry : ℕ × ℕ × ℕ} (member : entry ∈ pairs) :
    IsAtomic entry.2.2 :=
  ⟨(tablesHold.last entry member).1, (tablesHold.last entry member).2⟩

/-! ## Coming apart -/

theorem find?_eq_none_iff {α : Type} {table : List (ℕ × α)} {code : ℕ} :
    table.find? (fun entry => entry.1 == code) = none ↔ code ∉ table.map Prod.fst := by
  simp only [List.find?_eq_none, beq_iff_eq, List.mem_map, not_exists, not_and]

theorem singleton?_eq_none_iff {code : ℕ} :
    singleton? code = none ↔ code ∉ singles.map Prod.fst :=
  Option.map_eq_none_iff.trans find?_eq_none_iff

theorem pair?_eq_none_iff {code : ℕ} : pair? code = none ↔ code ∉ pairs.map Prod.fst :=
  Option.map_eq_none_iff.trans find?_eq_none_iff

theorem mem_nested_zero_iff {code : ℕ} :
    code ∈ nested 0 ↔ code ∈ pairs.map Prod.fst ∨ code ∈ singles.map Prod.fst := by
  rw [nested, leadings, List.map_append, List.mem_append, List.map_map]
  rfl

theorem IsAtomic.decomposeWithin {code : ℕ} (atomic : IsAtomic code) (depth : ℕ) :
    decomposeWithin depth code = [code] := by
  have absent := mt mem_nested_zero_iff.mpr atomic.unlisted
  rw [not_or, ← pair?_eq_none_iff, ← singleton?_eq_none_iff] at absent
  cases depth with
  | zero => rfl
  | succ depth => simp [Composition.decomposeWithin, atomic.single, absent.1, absent.2]

theorem mem_leadings_of_mem_singles {code other : ℕ} (member : (code, other) ∈ singles) :
    (code, other) ∈ leadings := List.mem_append_right _ member

theorem mem_leadings_of_mem_pairs {code first second : ℕ} (member : (code, first, second) ∈ pairs) :
    (code, first) ∈ leadings :=
  List.mem_append_left _ (List.mem_map.mpr ⟨(code, first, second), member, rfl⟩)

theorem mem_leadings_of_mem_composites {code first second : ℕ}
    (member : (code, first, second) ∈ composites) : (code, first) ∈ leadings :=
  mem_leadings_of_mem_pairs (List.mem_append_left splitOnly member)

/-- A code point that is no syllable is an atom, or leads on to one other code point, or to a
pair. -/
theorem isAtomic_or_leads {code : ℕ} (single : Hangul.isSyllable code = false) :
    IsAtomic code ∨
      (∃ other, (code, other) ∈ singles ∧
        ∀ depth, decomposeWithin (depth + 1) code = decomposeWithin depth other) ∨
      ∃ first second, (code, first, second) ∈ pairs ∧
        ∀ depth, decomposeWithin (depth + 1) code = decomposeWithin depth first ++ [second] := by
  by_cases listed : code ∈ nested 0
  · right
    rcases List.mem_map.mp listed with ⟨entry, member, rfl⟩
    have low : ¬ entry.1 < 0xc0 := Nat.not_lt.mpr (high_of_mem_leadings member).1
    cases foundSingle : singleton? entry.1 with
    | some other =>
        refine .inl ⟨other, mem_singles_of_singleton? foundSingle, fun depth => ?_⟩
        simp [decomposeWithin, low, single, foundSingle]
    | none =>
        cases foundPair : pair? entry.1 with
        | some parts =>
            refine .inr ⟨parts.1, parts.2, mem_pairs_of_pair? foundPair, fun depth => ?_⟩
            simp [decomposeWithin, low, single, foundSingle, foundPair]
        | none =>
            rw [singleton?_eq_none_iff] at foundSingle
            rw [pair?_eq_none_iff] at foundPair
            exact absurd listed (by simp [mem_nested_zero_iff, foundSingle, foundPair])
  · exact .inl ⟨listed, single⟩

/-- Once the tables lead on no further, more depth changes nothing and only atoms are
left. -/
theorem decomposeWithin_succ {depth code : ℕ} (shallow : code ∉ nested depth)
    (single : Hangul.isSyllable code = false) :
    decomposeWithin (depth + 1) code = decomposeWithin depth code ∧
      ∀ part ∈ decomposeWithin depth code, IsAtomic part := by
  induction depth generalizing code with
  | zero =>
      have atomic : IsAtomic code := ⟨shallow, single⟩
      rw [atomic.decomposeWithin, atomic.decomposeWithin]
      exact ⟨rfl, by simpa using atomic⟩
  | succ depth induction =>
      -- What is led on to is one step closer to the end.
      have closer {other : ℕ} (leads : (code, other) ∈ leadings) := induction
        (fun further => shallow (mem_nested_of_mem_leadings leads further))
        (high_of_mem_leadings leads).2.2.2
      rcases isAtomic_or_leads single with
        atomic | ⟨other, member, opened⟩ | ⟨first, second, member, opened⟩
      · rw [atomic.decomposeWithin, atomic.decomposeWithin]
        exact ⟨rfl, by simpa using atomic⟩
      · rcases closer (mem_leadings_of_mem_singles member) with ⟨same, parts⟩
        rw [opened, opened, same]
        exact ⟨rfl, parts⟩
      · rcases closer (mem_leadings_of_mem_pairs member) with ⟨same, parts⟩
        rw [opened, opened, same]
        refine ⟨rfl, List.forall_mem_append.mpr ⟨parts, ?_⟩⟩
        simpa using isAtomic_of_mem_pairs member

theorem decomposeWithin_of_isSyllable {code : ℕ} (syllable : Hangul.isSyllable code = true)
    (depth : ℕ) : decomposeWithin (depth + 1) code = Hangul.decompose code := by
  have low : ¬ code < 0xc0 := by
    have first := (Hangul.isSyllable_iff.mp syllable).1
    omega
  rw [decomposeWithin, if_neg low, if_pos syllable]

theorem decomposeWithin_four (code : ℕ) : decomposeWithin 4 code = decompose code := by
  cases single : Hangul.isSyllable code with
  | true =>
      rw [decompose, decomposeWithin_of_isSyllable single, decomposeWithin_of_isSyllable single]
  | false => exact (decomposeWithin_succ (by simp [tablesHold.shallow]) single).1

/-- Code points come apart into atoms. -/
theorem isAtomic_of_mem_decompose {code part : ℕ} (member : part ∈ decompose code) :
    IsAtomic part := by
  cases single : Hangul.isSyllable code with
  | true =>
      rw [decompose, decomposeWithin_of_isSyllable single] at member
      exact isAtomic_of_isJamo (Hangul.isJamo_of_mem_decompose single member)
  | false => exact (decomposeWithin_succ (by simp [tablesHold.shallow]) single).2 part member

theorem IsAtomic.decompose {code : ℕ} (atomic : IsAtomic code) : decompose code = [code] :=
  atomic.decomposeWithin 3

theorem flatMap_decompose_of_isAtomic {codes : List ℕ} (atoms : ∀ code ∈ codes, IsAtomic code) :
    codes.flatMap decompose = codes := by
  induction codes with
  | nil => rfl
  | cons code codes induction =>
      rcases List.forall_mem_cons.mp atoms with ⟨atomic, others⟩
      rw [List.flatMap_cons, atomic.decompose, induction others, List.singleton_append]

/-- What holds of syllables and atoms, and is handed back by the tables to whatever leads on to
something that has it, holds of all code points. -/
@[elab_as_elim]
theorem decompose_induction {motive : ℕ → Prop} (code : ℕ)
    (syllable : ∀ code, Hangul.isSyllable code = true → motive code)
    (atomic : ∀ code, IsAtomic code → motive code)
    (single : ∀ code other, (code, other) ∈ singles → decompose code = decompose other →
      motive other → motive code)
    (pair : ∀ code first second, (code, first, second) ∈ pairs →
      decompose code = decompose first ++ [second] → motive first → motive code) :
    motive code := by
  have within (depth : ℕ) : ∀ code, code ∉ nested depth → motive code := by
    induction depth with
    | zero =>
        intro code unlisted
        cases isSyllable : Hangul.isSyllable code with
        | true => exact syllable code isSyllable
        | false => exact atomic code ⟨unlisted, isSyllable⟩
    | succ depth induction =>
        intro code shallow
        have closer {other : ℕ} (leads : (code, other) ∈ leadings) : motive other :=
          induction other fun further => shallow (mem_nested_of_mem_leadings leads further)
        cases isSyllable : Hangul.isSyllable code with
        | true => exact syllable code isSyllable
        | false =>
            rcases isAtomic_or_leads isSyllable with
              isAtomic | ⟨other, member, opened⟩ | ⟨first, second, member, opened⟩
            · exact atomic code isAtomic
            · refine single code other member ?_ (closer (mem_leadings_of_mem_singles member))
              exact (decomposeWithin_four code).symm.trans (opened 3)
            · refine pair code first second member ?_ (closer (mem_leadings_of_mem_pairs member))
              exact (decomposeWithin_four code).symm.trans (opened 3)
  exact within 3 code (by simp [tablesHold.shallow])

theorem decompose_of_isSyllable {code : ℕ} (syllable : Hangul.isSyllable code = true) :
    decompose code = Hangul.decompose code := decomposeWithin_of_isSyllable syllable 2

theorem decompose_ne_nil (code : ℕ) : decompose code ≠ [] := by
  induction code using decompose_induction with
  | syllable code syllable =>
      rw [decompose_of_isSyllable syllable, Hangul.decompose]
      split <;> exact List.cons_ne_nil _ _
  | atomic code atomic => simp [atomic.decompose]
  | single code other _ opened nonempty => rwa [opened]
  | pair code first second _ opened nonempty => simp [opened]

/-! ## Composites -/

/-- A composite of the table stands for one pair, and for no single character. -/
theorem pair?_of_mem_composites {entry : ℕ × ℕ × ℕ} (member : entry ∈ composites) :
    singleton? entry.1 = none ∧ pair? entry.1 = some entry.2 := by
  constructor
  · exact singleton?_eq_none_iff.mpr (tablesHold.distinct entry member)
  · have distinct : (composites.map Prod.fst).Nodup :=
      (List.isChain_iff_pairwise.mp tablesHold.ascending).imp Nat.ne_of_lt
    have found : composites.find? (fun other => other.1 == entry.1) = some entry := by
      cases search : composites.find? (fun other => other.1 == entry.1) with
      | none => exact absurd (List.mem_map.mpr ⟨entry, member, rfl⟩) (find?_eq_none_iff.mp search)
      | some other =>
          have key : other.1 = entry.1 := by simpa using List.find?_some search
          rw [List.inj_on_of_nodup_map distinct (List.mem_of_find?_eq_some search) member key]
    change ((composites ++ splitOnly).find? (fun other => other.1 == entry.1)).map (·.2) = _
    rw [List.find?_append, found]
    rfl

namespace Hangul

/-- The parts of a syllable by their places. -/
theorem decompose_syllable (lead : ℕ) {vowel trail : ℕ} (vowelBound : vowel < vowelCount)
    (trailBound : trail < trailCount) :
    decompose (syllables + (lead * vowelCount + vowel) * trailCount + trail) =
      [leads + lead, vowels + vowel] ++ if trail = 0 then [] else [trails + trail] := by
  have index : syllables + (lead * vowelCount + vowel) * trailCount + trail - syllables =
      (lead * vowelCount + vowel) * trailCount + trail := by omega
  have leadIndex : ((lead * vowelCount + vowel) * trailCount + trail) / (vowelCount * trailCount) =
      lead := by
    simp only [vowelCount, trailCount] at *
    omega
  have vowelIndex : ((lead * vowelCount + vowel) * trailCount + trail) %
      (vowelCount * trailCount) / trailCount = vowel := by
    simp only [vowelCount, trailCount] at *
    omega
  have trailIndex : ((lead * vowelCount + vowel) * trailCount + trail) % trailCount = trail := by
    simp only [vowelCount, trailCount] at *
    omega
  rw [decompose, index, leadIndex, vowelIndex, trailIndex]
  split <;> rfl

theorem decompose_of_compose? {base mark syllable : ℕ}
    (joined : compose? base mark = some syllable) :
    decompose syllable = Composition.decompose base ++ [mark] := by
  rw [compose?] at joined
  split at joined
  · next letters =>
      rcases letters with ⟨leadLow, leadHigh, vowelLow, vowelHigh⟩
      have jamo : IsJamo base := by
        simp only [leads, leadCount] at leadLow leadHigh
        unfold IsJamo
        omega
      have vowelBound : mark - vowels < vowelCount := by omega
      have places := decompose_syllable (base - leads) vowelBound
        (show 0 < trailCount by decide)
      rw [← Option.some.inj joined, (isAtomic_of_isJamo jamo).decompose]
      rw [add_zero, if_pos rfl] at places
      rw [places, Nat.add_sub_cancel' leadLow, Nat.add_sub_cancel' vowelLow]
      rfl
  · split at joined
    · next letters =>
        rcases letters with ⟨single, vacant, low, high⟩
        have bounds := isSyllable_iff.mp single
        -- The places of the base, whose trailing consonant is missing.
        let pair := (base - syllables) / trailCount
        have vowelBound : pair % vowelCount < vowelCount := Nat.mod_lt _ (by decide)
        have base_eq : base = syllables +
            (pair / vowelCount * vowelCount + pair % vowelCount) * trailCount := by
          rw [Nat.div_add_mod', Nat.div_mul_cancel (Nat.dvd_of_mod_eq_zero vacant)]
          exact (Nat.add_sub_cancel' bounds.1).symm
        have trailBound : mark - trails < trailCount := by omega
        have opened := decompose_syllable (pair / vowelCount) vowelBound
          (show 0 < trailCount by decide)
        have closed := decompose_syllable (pair / vowelCount) vowelBound trailBound
        rw [add_zero, ← base_eq, if_pos rfl, List.append_nil] at opened
        rw [← base_eq, if_neg (by omega), Nat.add_sub_cancel' low.le] at closed
        rw [← Option.some.inj joined, closed, Composition.decompose,
          decomposeWithin_of_isSyllable single, opened]
    · cases joined

end Hangul

theorem high_of_composite? {base mark composite : ℕ}
    (joined : composite? base mark = some composite) : 0xc0 ≤ composite := by
  rcases isSyllable_or_mem_composites joined with hangul | member
  · have first := (Hangul.isSyllable_iff.mp (Hangul.isSyllable_of_compose? hangul)).1
    omega
  · exact (high_of_mem_leadings (mem_leadings_of_mem_composites member)).1

/-- A composite comes apart into what its base comes apart into, and its mark. -/
theorem decompose_of_composite? {base mark composite : ℕ}
    (joined : composite? base mark = some composite) :
    decompose composite = decompose base ++ [mark] := by
  rcases isSyllable_or_mem_composites joined with hangul | member
  · rw [decompose, decomposeWithin_of_isSyllable (Hangul.isSyllable_of_compose? hangul)]
    exact Hangul.decompose_of_compose? hangul
  · have leads : (composite, base) ∈ leadings :=
      List.mem_append_left _ (List.mem_map.mpr ⟨_, List.mem_append_left _ member, rfl⟩)
    rcases high_of_mem_leadings leads with ⟨high, single, _, _⟩
    rcases pair?_of_mem_composites member with ⟨noSingle, pair⟩
    simp only at high single noSingle pair
    rw [← decomposeWithin_four composite, decomposeWithin, if_neg (Nat.not_lt.mpr high),
      if_neg (by simp [single]), noSingle, pair]
    rfl

end Metrology.Composition
