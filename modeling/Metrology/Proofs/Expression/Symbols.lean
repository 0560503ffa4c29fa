import Mathlib
import Metrology.Proofs.Expression.NetPowers
import Metrology.Proofs.Expression.Printing

/-!
Symbols of units are expressions. The text of a fraction of words is what is written
for a derivation, and the plan of that derivation multiplies every name by its net
exponent.
-/

namespace Metrology

open Grammar

/-! ## Derivations of products -/

namespace Grammar.Tree

/-- The derivation of a power; the exponent one is not written. -/
def ofPower (power : String × ℤ) : Tree .term :=
  if power.2 = 1 then .name power.1 else .power power.1 (.unsigned power.2.toNat)

/-- Powers that are read back: of words, with positive exponents that are not too long. -/
structure IsWritable (power : String × ℤ) : Prop where
  word : IsWord power.1
  positive : 1 ≤ power.2
  short : (decimalDigits power.2.toNat).length ≤ digitLimit

variable {power : String × ℤ}

theorem text_ofPower (writable : IsWritable power) :
    (ofPower power).text = (powerText power.1 power.2).toList := by
  rcases power with ⟨name, exponent⟩
  rcases Int.eq_ofNat_of_zero_le (Int.le_of_lt writable.positive) with ⟨count, rfl⟩
  rw [toList_powerText, powerPieces, ofPower]
  by_cases single : count = 1
  · simp [single, text, lexemes, Lexeme.text, List.intercalate]
  · have several : (count : ℤ) ≠ 1 := by exact_mod_cast single
    simp [single, several, text, lexemes, Lexeme.text, List.intercalate]

theorem isPrintable_ofPower (writable : IsWritable power) :
    ∀ lexeme ∈ (ofPower power).lexemes, lexeme.IsPrintable := by
  rw [ofPower]
  split <;> simp [lexemes, Lexeme.IsPrintable, writable.word, writable.short]

theorem powers_ofPower (writable : IsWritable power) :
    Plan.powers (ofPower power).meaning = [power] := by
  rw [ofPower]
  split
  · next single => rw [meaning, Plan.powers, ← single]
  · have kept := Int.toNat_of_nonneg (Int.le_of_lt writable.positive)
    simp [meaning, Plan.powers, kept]

theorem one_le_exponents_ofPower (writable : IsWritable power) :
    ∀ exponent ∈ Plan.exponents (ofPower power).meaning, 1 ≤ exponent := by
  rw [ofPower]
  split
  · simp [meaning, Plan.exponents]
  · have kept := Int.toNat_of_nonneg (Int.le_of_lt writable.positive)
    simpa [meaning, Plan.exponents, kept] using writable.positive

/-- A derivation that is written as a product of powers and read back as these powers. -/
structure Spells (tree : Tree .terms) (powers : List (String × ℤ)) : Prop where
  text : tree.text =
    ['*'].intercalate (powers.map fun power => (powerText power.1 power.2).toList)
  printable : ∀ lexeme ∈ tree.lexemes, lexeme.IsPrintable
  powers : Plan.powers tree.meaning = powers
  positive : ∀ exponent ∈ Plan.exponents tree.meaning, 1 ≤ exponent

theorem spells_single (writable : IsWritable power) :
    Spells (.single (ofPower power)) [power] where
  text := by
    rw [List.map_singleton, List.intercalate_singleton]
    exact text_ofPower writable
  printable := isPrintable_ofPower writable
  powers := powers_ofPower writable
  positive := one_le_exponents_ofPower writable

theorem Spells.product (writable : IsWritable power) {others : Tree .terms} {second : String × ℤ}
    {rest : List (String × ℤ)} (spells : others.Spells (second :: rest)) :
    Spells (.product (ofPower power) others) (power :: second :: rest) where
  text := by
    have joined : (Tree.product (ofPower power) others).text =
        (ofPower power).text ++ '*' :: others.text := by
      simp [Tree.text, lexemes, Lexeme.text]
    rw [joined, text_ofPower writable, spells.text]
    simp only [List.map_cons, List.intercalate_cons_cons, List.append_assoc]
    rfl
  printable := by
    intro lexeme member
    rcases List.mem_append.mp member with inFactor | later
    · exact isPrintable_ofPower writable lexeme inFactor
    · rcases List.mem_cons.mp later with rfl | inRest
      · trivial
      · exact spells.printable lexeme inRest
  powers := by
    rw [meaning, Plan.powers, powers_ofPower writable, spells.powers]
    rfl
  positive := by
    intro exponent member
    rcases List.mem_append.mp member with inFactor | inRest
    · exact one_le_exponents_ofPower writable exponent inFactor
    · exact spells.positive exponent inRest

theorem exists_spells {powers : List (String × ℤ)} (nonempty : powers ≠ [])
    (writable : ∀ power ∈ powers, IsWritable power) : ∃ tree : Tree .terms, tree.Spells powers := by
  induction powers with
  | nil => exact absurd rfl nonempty
  | cons power rest induction =>
      have first := writable power (List.mem_cons_self ..)
      cases rest with
      | nil => exact ⟨_, spells_single first⟩
      | cons second rest =>
          rcases induction (List.cons_ne_nil _ _)
            fun other member => writable other (List.mem_cons_of_mem _ member) with ⟨others, spells⟩
          exact ⟨_, spells.product first⟩

end Grammar.Tree

/-! ## Products of names -/

/-- The powers of a multiset of names in the order in which they are written. -/
def writtenPowers (names : List String) : List (String × ℤ) :=
  (Fraction.netCounts ⟨names, []⟩).insertionSort fun first second =>
    powerText first.1 first.2 ≤ powerText second.1 second.2

section Names

variable {names : List String}

theorem map_powerText_writtenPowers (names : List String) :
    (writtenPowers names).map (fun power => powerText power.1 power.2) = powerTexts names := by
  rw [powerTexts, orderNames_eq_insertionSort]
  exact List.map_insertionSort _ _ _ _ fun _ _ _ _ => Iff.rfl

theorem mem_writtenPowers {power : String × ℤ} :
    power ∈ writtenPowers names ↔ power.1 ∈ names ∧ power.2 = names.count power.1 := by
  rcases power with ⟨name, count⟩
  rw [writtenPowers, List.mem_insertionSort, Fraction.mem_netCounts]
  simp [Fraction.exponent, eq_comm]

theorem writtenPowers_ne_nil (nonempty : names ≠ []) : writtenPowers names ≠ [] := by
  rcases List.exists_mem_of_ne_nil names nonempty with ⟨name, member⟩
  have power : (name, (names.count name : ℤ)) ∈ writtenPowers names :=
    mem_writtenPowers.mpr ⟨member, rfl⟩
  exact List.ne_nil_of_mem power

/-- Net powers count the names that the powers stand for. -/
theorem netPowers_apply_eq_count {powers : List (String × ℤ)}
    (counted : ∀ power ∈ powers, power.1 ≠ "" ∧ 0 ≤ power.2) (name : String) :
    netPowers powers name = (Fraction.expand powers).count name := by
  induction powers with
  | nil => rfl
  | cons power others induction =>
      rcases power with ⟨held, count⟩
      rcases counted _ (List.mem_cons_self ..) with ⟨nonempty, nonnegative⟩
      have rest := induction fun other member => counted other (List.mem_cons_of_mem _ member)
      have expanded : Fraction.expand ((held, count) :: others) =
          List.replicate count.toNat held ++ Fraction.expand others := rfl
      have kept := Int.toNat_of_nonneg nonnegative
      rw [expanded, netPowers_cons, List.count_append, List.count_replicate, Finsupp.add_apply, rest,
        nameVector_of_ne nonempty, Finsupp.smul_apply, Finsupp.single_apply]
      by_cases same : held = name
      · simp [same, kept]
      · simp [same]

/-- The powers that are written of a multiset of names come to the multiset. -/
theorem netPowers_writtenPowers (nonempty : ∀ name ∈ names, name ≠ "") (name : String) :
    netPowers (writtenPowers names) name = names.count name := by
  have counted : ∀ power ∈ writtenPowers names, power.1 ≠ "" ∧ 0 ≤ power.2 := by
    intro power member
    rcases mem_writtenPowers.mp member with ⟨held, count⟩
    exact ⟨nonempty _ held, by omega⟩
  have perm : (Fraction.expand (writtenPowers names)).Perm (Fraction.cancel ⟨names, []⟩).above :=
    (List.perm_insertionSort _ _).flatMap_right _
  rw [netPowers_apply_eq_count counted, perm.count_eq, Fraction.count_above_cancel]
  simp [Fraction.exponent]

end Names

/-! ## Fractions of names -/

theorem IsWord.isPlainName {name : String} (word : IsWord name) : IsPlainName name := by
  have noSigns : nameLetters.all (fun letter => decide (letter ∉ ['*', '/', '^', '1'])) = true := by
    decide +kernel
  have absent (sign : Char) (isSign : sign ∈ ['*', '/', '^', '1']) : sign ∉ name.toList :=
    fun member => of_decide_eq_true (of_isNameLetter noSigns (word.letters sign member)) isSign
  refine ⟨?_, ?_, absent '*' (by decide), absent '/' (by decide), absent '^' (by decide)⟩
  · rintro rfl
    exact word.nonempty rfl
  · rintro rfl
    exact absent '1' (by decide) (List.mem_singleton_self _)

/-- Fractions of words whose counts are not too long. -/
structure Fraction.IsWritable (names : Fraction String) : Prop where
  above : ∀ name ∈ names.above, IsWord name ∧
    (decimalDigits (names.above.count name)).length ≤ digitLimit
  below : ∀ name ∈ names.below, IsWord name ∧
    (decimalDigits (names.below.count name)).length ≤ digitLimit

theorem exists_spells_productText {names : List String} (nonempty : names ≠ [])
    (writable : ∀ name ∈ names, IsWord name ∧
      (decimalDigits (names.count name)).length ≤ digitLimit) :
    ∃ tree : Tree .terms, tree.Spells (writtenPowers names) ∧
      tree.text = (productText names).toList := by
  have powers : ∀ power ∈ writtenPowers names, Tree.IsWritable power := by
    intro power member
    rcases mem_writtenPowers.mp member with ⟨held, count⟩
    have positive := List.count_pos_iff.mpr held
    exact ⟨(writable _ held).1, by omega, by rw [count]; exact (writable _ held).2⟩
  rcases Tree.exists_spells (writtenPowers_ne_nil nonempty) powers with ⟨tree, spells⟩
  refine ⟨tree, spells, ?_⟩
  rw [spells.text, toList_productText, ← map_powerText_writtenPowers, List.map_map]
  rfl

/-- A derivation that is written as a fraction of names and read back as that fraction. -/
structure Grammar.Tree.Renders (tree : Tree .expression) (names : Fraction String) : Prop where
  text : (symbolicText names).toList = tree.text
  printable : ∀ lexeme ∈ tree.lexemes, lexeme.IsPrintable
  positive : ∀ exponent ∈ Plan.exponents tree.meaning, 1 ≤ exponent
  within : ∀ power ∈ Plan.powers tree.meaning, power.1 ∈ names.above ∨ power.1 ∈ names.below
  netPowers : ⇑(netPowers (Plan.powers tree.meaning)) = names.exponent

section Fractions

variable {names : Fraction String} {dividend divisor : Tree .terms}

theorem renders_terms (writable : names.IsWritable) (lone : names.below = [])
    (spells : dividend.Spells (writtenPowers names.above))
    (text : dividend.text = (productText names.above).toList) :
    (Tree.terms dividend).Renders names where
  text := by
    rw [symbolicText_of_below_eq_nil lone, ← text]
    rfl
  printable := spells.printable
  positive := spells.positive
  within := by
    rw [Tree.meaning, spells.powers]
    exact fun power member => .inl (mem_writtenPowers.mp member).1
  netPowers := by
    funext name
    rw [Tree.meaning, spells.powers,
      netPowers_writtenPowers fun name member => (writable.above name member).1.isPlainName.nonempty]
    simp [Fraction.exponent, lone]

theorem renders_quotient (writable : names.IsWritable) (above : names.above ≠ [])
    (below : names.below ≠ []) (spells : dividend.Spells (writtenPowers names.above))
    (text : dividend.text = (productText names.above).toList)
    (spellsBelow : divisor.Spells (writtenPowers names.below))
    (textBelow : divisor.text = (productText names.below).toList) :
    (Tree.quotient dividend divisor).Renders names where
  text := by
    have plain : names.IsPlain :=
      ⟨fun name member => (writable.above name member).1.isPlainName,
        fun name member => (writable.below name member).1.isPlainName⟩
    rw [symbolicText_of_below_ne_nil plain below, dividendText, if_neg above]
    simp [Tree.text, Tree.lexemes, ← text, ← textBelow, Lexeme.text]
  printable := by
    intro lexeme member
    rcases List.mem_append.mp member with inDividend | later
    · exact spells.printable lexeme inDividend
    · rcases List.mem_cons.mp later with rfl | inDivisor
      · trivial
      · exact spellsBelow.printable lexeme inDivisor
  positive := by
    intro exponent member
    rcases List.mem_append.mp member with inDividend | inDivisor
    · exact spells.positive exponent inDividend
    · exact spellsBelow.positive exponent inDivisor
  within := by
    intro power member
    rw [Tree.meaning, Plan.powers, spells.powers, spellsBelow.powers] at member
    rcases List.mem_append.mp member with inDividend | inDivisor
    · exact .inl (mem_writtenPowers.mp inDividend).1
    · rcases List.mem_map.mp inDivisor with ⟨held, heldMember, rfl⟩
      exact .inr (mem_writtenPowers.mp heldMember).1
  netPowers := by
    funext name
    rw [Tree.meaning, Plan.powers, spells.powers, spellsBelow.powers, netPowers_append,
      netPowers_map_neg, Finsupp.add_apply, Finsupp.neg_apply,
      netPowers_writtenPowers fun name member => (writable.above name member).1.isPlainName.nonempty,
      netPowers_writtenPowers fun name member => (writable.below name member).1.isPlainName.nonempty]
    rfl

/-- The text of a fraction of words with something above the stroke is an expression. -/
theorem exists_renders (writable : names.IsWritable) (above : names.above ≠ []) :
    ∃ tree : Tree .expression, tree.Renders names := by
  rcases exists_spells_productText above writable.above with ⟨dividend, spells, text⟩
  by_cases lone : names.below = []
  · exact ⟨_, renders_terms writable lone spells text⟩
  · rcases exists_spells_productText lone writable.below with ⟨divisor, spellsBelow, textBelow⟩
    exact ⟨_, renders_quotient writable above lone spells text spellsBelow textBelow⟩

end Fractions

end Metrology
