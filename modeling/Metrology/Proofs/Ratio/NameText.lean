import Mathlib
import Metrology.Proofs.Number.IntegerText
import Metrology.Proofs.Ratio.Exponents

/-!
The text of a fraction of names tells the exponent of every name. Names that hold no
operator can be cut out of it again: a stroke parts what stands above from what stands
below, stars part the powers of a product, and a caret parts a name from its count.
-/

namespace Metrology

/-! ## Plain names -/

/-- Names that cannot be taken for a sign, or for the one that stands above a lone
denominator. -/
structure IsPlainName (name : String) : Prop where
  nonempty : name ≠ ""
  notOne : name ≠ "1"
  noTimes : '*' ∉ name.toList
  noPer : '/' ∉ name.toList
  noPower : '^' ∉ name.toList

theorem isPlainName_iff {name : String} :
    IsPlainName name ↔ name ≠ "" ∧ name ≠ "1" ∧ '*' ∉ name.toList ∧ '/' ∉ name.toList ∧
      '^' ∉ name.toList := by
  constructor
  · rintro ⟨nonempty, notOne, noTimes, noPer, noPower⟩
    exact ⟨nonempty, notOne, noTimes, noPer, noPower⟩
  · rintro ⟨nonempty, notOne, noTimes, noPer, noPower⟩
    exact ⟨nonempty, notOne, noTimes, noPer, noPower⟩

instance : DecidablePred IsPlainName := fun _ => decidable_of_iff _ isPlainName_iff.symm

/-! ## One power -/

/-- What stands on the two sides of the caret in the text of a power, or the name alone. -/
def powerPieces (name : String) (count : ℕ) : List (List Char) :=
  if count = 1 then [name.toList] else [name.toList, decimalDigits count]

theorem toList_powerText (name : String) (count : ℕ) :
    (powerText name count).toList = ['^'].intercalate (powerPieces name count) := by
  by_cases single : count = 1
  · subst single
    simp [powerText, powerPieces, List.intercalate]
  · have several : (count : ℤ) ≠ 1 := by exact_mod_cast single
    have written : (count : ℤ).repr.toList = decimalDigits count := Nat.toList_repr
    simp [powerText, powerPieces, several, single, written, List.intercalate, toString]

theorem splitOn_powerText {name : String} (clean : '^' ∉ name.toList) (count : ℕ) :
    (powerText name count).toList.splitOn '^' = powerPieces name count := by
  rw [toList_powerText]
  apply List.splitOn_intercalate
  · rw [powerPieces]
    split <;> simp [clean, notMem_decimalDigits]
  · rw [powerPieces]
    split <;> simp

theorem notMem_powerText {name : String} {sign : Char} (clean : sign ∉ name.toList)
    (notDigit : sign.isDigit = false) (notPower : sign ≠ '^') (count : ℕ) :
    sign ∉ (powerText name count).toList := by
  rw [toList_powerText, powerPieces]
  split <;> simp [List.intercalate, clean, notPower, notMem_decimalDigits notDigit]

/-- A power text tells its name and its count. -/
theorem powerText_injective {left right : String} {leftCount rightCount : ℕ}
    (cleanLeft : '^' ∉ left.toList) (cleanRight : '^' ∉ right.toList)
    (same : powerText left leftCount = powerText right rightCount) :
    left = right ∧ leftCount = rightCount := by
  have pieces : powerPieces left leftCount = powerPieces right rightCount := by
    rw [← splitOn_powerText cleanLeft, same, splitOn_powerText cleanRight]
  rw [powerPieces, powerPieces] at pieces
  split at pieces <;> split at pieces <;>
    simp only [List.cons.injEq, and_true, reduceCtorEq, and_false] at pieces
  · next leftSingle rightSingle =>
      exact ⟨String.toList_inj.mp pieces, leftSingle.trans rightSingle.symm⟩
  · exact ⟨String.toList_inj.mp pieces.1, decimalDigits_injective pieces.2⟩

/-! ## A product of powers -/

/-- The texts of the powers of a multiset of names, in the order in which they are written. -/
def powerTexts (names : List String) : List String :=
  orderNames ((Fraction.netCounts ⟨names, []⟩).map fun (name, count) => powerText name count)

theorem toList_productText (names : List String) :
    (productText names).toList = ['*'].intercalate ((powerTexts names).map String.toList) :=
  String.toList_intercalate

@[simp] theorem productText_nil : productText [] = "" := rfl

theorem mem_powerTexts {names : List String} {text : String} :
    text ∈ powerTexts names ↔ ∃ name ∈ names, powerText name (names.count name) = text := by
  rw [powerTexts, orderNames_eq_insertionSort, List.mem_insertionSort, List.mem_map]
  constructor
  · rintro ⟨⟨name, count⟩, member, rfl⟩
    rcases (Fraction.mem_netCounts _ name count).mp member with ⟨occurs, rfl⟩
    have above : name ∈ names := by simpa using occurs
    exact ⟨name, above, by simp [Fraction.exponent]⟩
  · rintro ⟨name, member, rfl⟩
    refine ⟨(name, names.count name), (Fraction.mem_netCounts _ _ _).mpr ⟨.inl member, ?_⟩, rfl⟩
    simp [Fraction.exponent]

theorem powerTexts_ne_nil {names : List String} (nonempty : names ≠ []) :
    powerTexts names ≠ [] := by
  rcases List.exists_mem_of_ne_nil names nonempty with ⟨name, member⟩
  exact List.ne_nil_of_mem (mem_powerTexts.mpr ⟨name, member, rfl⟩)

theorem notMem_intercalate {sign separator : Char} (different : sign ≠ separator)
    {pieces : List (List Char)} (clean : ∀ piece ∈ pieces, sign ∉ piece) :
    sign ∉ [separator].intercalate pieces := by
  induction pieces with
  | nil => simp [List.intercalate]
  | cons piece rest induction =>
      have first := clean piece (List.mem_cons_self ..)
      have others := induction fun other member => clean other (List.mem_cons_of_mem piece member)
      cases rest with
      | nil => simpa [List.intercalate] using first
      | cons next rest => simpa [List.intercalate, first, different] using others

section Products

variable {names left right : List String}

theorem notMem_powerTexts {sign : Char} (clean : ∀ name ∈ names, sign ∉ name.toList)
    (notDigit : sign.isDigit = false) (notPower : sign ≠ '^') :
    ∀ piece ∈ (powerTexts names).map String.toList, sign ∉ piece := by
  intro piece member
  rcases List.mem_map.mp member with ⟨text, textMember, rfl⟩
  rcases mem_powerTexts.mp textMember with ⟨name, nameMember, rfl⟩
  exact notMem_powerText (clean name nameMember) notDigit notPower _

theorem notMem_productText (plain : ∀ name ∈ names, IsPlainName name) :
    '/' ∉ (productText names).toList := by
  rw [toList_productText]
  apply notMem_intercalate (by decide)
  exact notMem_powerTexts (fun name member => (plain name member).noPer) rfl (by decide)

/-- A product cut at its stars gives the texts of its powers. -/
theorem splitOn_productText (plain : ∀ name ∈ names, IsPlainName name) (nonempty : names ≠ []) :
    (productText names).toList.splitOn '*' = (powerTexts names).map String.toList := by
  rw [toList_productText]
  apply List.splitOn_intercalate
  · exact notMem_powerTexts (fun name member => (plain name member).noTimes) rfl (by decide)
  · simpa using powerTexts_ne_nil nonempty

/-- A product whose text holds no star is a single power. -/
theorem mem_powerTexts_of_productText (plain : ∀ name ∈ names, IsPlainName name)
    (nonempty : names ≠ []) {text : String} (clean : '*' ∉ text.toList)
    (written : productText names = text) : text ∈ powerTexts names := by
  have pieces := splitOn_productText plain nonempty
  rw [written, List.splitOn_eq_singleton clean] at pieces
  have member : text.toList ∈ (powerTexts names).map String.toList := by simp [← pieces]
  exact (List.mem_map_of_injective fun _ _ => String.toList_injective).mp member

theorem productText_ne_empty (plain : ∀ name ∈ names, IsPlainName name)
    (nonempty : names ≠ []) : productText names ≠ "" := by
  intro blank
  have member := mem_powerTexts_of_productText plain nonempty (by decide) blank
  rcases mem_powerTexts.mp member with ⟨name, nameMember, written⟩
  have pieces := splitOn_powerText (plain name nameMember).noPower (names.count name)
  rw [written, powerPieces] at pieces
  split at pieces <;> simp [(plain name nameMember).nonempty] at pieces

/-- The one above a lone denominator is no product of plain names. -/
theorem productText_ne_one (plain : ∀ name ∈ names, IsPlainName name) :
    productText names ≠ "1" := by
  intro one
  by_cases nonempty : names = []
  · subst nonempty
    simp at one
  · have member := mem_powerTexts_of_productText plain nonempty (by decide) one
    rcases mem_powerTexts.mp member with ⟨name, nameMember, written⟩
    have same : powerText name (names.count name) = powerText "1" (1 : ℕ) := written
    have equal := (powerText_injective (plain name nameMember).noPower (by decide) same).1
    exact (plain name nameMember).notOne equal

theorem count_eq_of_mem (plainLeft : ∀ name ∈ left, IsPlainName name)
    (plainRight : ∀ name ∈ right, IsPlainName name)
    (same : powerTexts left = powerTexts right) {name : String} (member : name ∈ left) :
    left.count name = right.count name := by
  have written : powerText name (left.count name) ∈ powerTexts right :=
    same ▸ mem_powerTexts.mpr ⟨name, member, rfl⟩
  rcases mem_powerTexts.mp written with ⟨other, otherMember, equal⟩
  rcases powerText_injective (plainRight other otherMember).noPower
    (plainLeft name member).noPower equal with ⟨rfl, counts⟩
  exact counts.symm

/-- A product tells how often it holds each name. -/
theorem count_eq_of_productText_eq (plainLeft : ∀ name ∈ left, IsPlainName name)
    (plainRight : ∀ name ∈ right, IsPlainName name)
    (same : productText left = productText right) (name : String) :
    left.count name = right.count name := by
  have texts : powerTexts left = powerTexts right := by
    by_cases leftEmpty : left = [] <;> by_cases rightEmpty : right = []
    · rw [leftEmpty, rightEmpty]
    · subst leftEmpty
      exact absurd same.symm (productText_ne_empty plainRight rightEmpty)
    · subst rightEmpty
      exact absurd same (productText_ne_empty plainLeft leftEmpty)
    · have pieces := splitOn_productText plainLeft leftEmpty
      rw [same, splitOn_productText plainRight rightEmpty] at pieces
      exact (List.map_injective_iff.mpr (fun _ _ => String.toList_injective) pieces).symm
  by_cases leftMember : name ∈ left
  · exact count_eq_of_mem plainLeft plainRight texts leftMember
  · by_cases rightMember : name ∈ right
    · exact (count_eq_of_mem plainRight plainLeft texts.symm rightMember).symm
    · rw [List.count_eq_zero_of_not_mem leftMember, List.count_eq_zero_of_not_mem rightMember]

end Products

/-! ## A fraction -/

section Fractions

variable {names left right : Fraction String}

/-- Fractions of plain names. -/
structure Fraction.IsPlain (names : Fraction String) : Prop where
  above : ∀ name ∈ names.above, IsPlainName name
  below : ∀ name ∈ names.below, IsPlainName name

/-- What stands before the stroke: a one where no name does. -/
def dividendText (names : List String) : String :=
  if names = [] then "1" else productText names

theorem symbolicText_of_below_eq_nil (lone : names.below = []) :
    symbolicText names = productText names.above := by
  simp [symbolicText, lone]

theorem symbolicText_of_below_ne_nil (plain : names.IsPlain) (below : names.below ≠ []) :
    symbolicText names = dividendText names.above ++ "/" ++ productText names.below := by
  have written := productText_ne_empty plain.below below
  by_cases blank : names.above = []
  · simp [symbolicText, dividendText, written, blank]
  · simp [symbolicText, dividendText, written, blank, productText_ne_empty plain.above blank]

theorem productText_eq_of_dividendText_eq {left right : List String}
    (plainLeft : ∀ name ∈ left, IsPlainName name) (plainRight : ∀ name ∈ right, IsPlainName name)
    (same : dividendText left = dividendText right) : productText left = productText right := by
  by_cases leftEmpty : left = [] <;> by_cases rightEmpty : right = [] <;>
    simp only [dividendText, leftEmpty, rightEmpty, if_true, if_false] at same ⊢
  · exact absurd same.symm (productText_ne_one plainRight)
  · exact absurd same (productText_ne_one plainLeft)
  · exact same

/-- A fraction cut at its stroke gives its two products. -/
theorem splitOn_symbolicText (plain : names.IsPlain) :
    (symbolicText names).toList.splitOn '/' =
      if names.below = [] then [(productText names.above).toList]
      else [(dividendText names.above).toList, (productText names.below).toList] := by
  have above := notMem_productText plain.above
  have below := notMem_productText plain.below
  by_cases lone : names.below = []
  · rw [if_pos lone, symbolicText_of_below_eq_nil lone, List.splitOn_eq_singleton above]
  · have text : (symbolicText names).toList = ['/'].intercalate
        [(dividendText names.above).toList, (productText names.below).toList] := by
      simp [symbolicText_of_below_ne_nil plain lone, List.intercalate]
    have dividend : '/' ∉ (dividendText names.above).toList := by
      rw [dividendText]
      split <;> simp [above]
    rw [if_neg lone, text]
    exact List.splitOn_intercalate '/' (by simp [dividend, below]) (by simp)

/-- The text of a fraction of plain names tells the exponent of every name. -/
theorem exponent_eq_of_symbolicText_eq (plainLeft : left.IsPlain) (plainRight : right.IsPlain)
    (same : symbolicText left = symbolicText right) : left.exponent = right.exponent := by
  have pieces := splitOn_symbolicText plainLeft
  rw [same, splitOn_symbolicText plainRight] at pieces
  have products : productText left.above = productText right.above ∧
      productText left.below = productText right.below := by
    by_cases leftLone : left.below = [] <;> by_cases rightLone : right.below = [] <;>
      simp only [leftLone, rightLone, if_true, if_false, List.cons.injEq, and_true, reduceCtorEq,
        and_false, String.toList_inj] at pieces ⊢
    · exact pieces.symm
    · exact ⟨productText_eq_of_dividendText_eq plainLeft.above plainRight.above pieces.1.symm,
        pieces.2.symm⟩
  funext name
  rw [Fraction.exponent, Fraction.exponent,
    count_eq_of_productText_eq plainLeft.above plainRight.above products.1,
    count_eq_of_productText_eq plainLeft.below plainRight.below products.2]

end Fractions

/-! ## Ratios of names -/

namespace Ratio

variable {left right : Ratio Number} {first second : String → ℤ}

/-- The text of a single name is the name. -/
theorem text_ofName {name : String} (nonempty : name ≠ "") :
    (Ratio.ofName name : Ratio Number).text = name := by
  have names : (Ratio.ofName name : Ratio Number).text =
      symbolicText (Fraction.cancel ⟨[name], []⟩) := by
    simp [ofName, ofNames, Term.names, nonempty]
  have kept : Fraction.cancel ⟨[name], []⟩ = ⟨[name], []⟩ := by
    simp [Fraction.cancel, Fraction.netCounts, Fraction.tally, Fraction.expand]
  rw [names, kept, symbolicText_of_below_eq_nil rfl]
  simp [productText, Fraction.netCounts, Fraction.tally, powerText, orderNames, insertName]

section Symbolic

variable {ratio : Ratio Number} (symbolic : ratio.IsSymbolic)

include symbolic

theorem IsSymbolic.text_eq : ratio.text = symbolicText ratio.symbolic := by
  rcases symbolic with ⟨names, rfl⟩
  rfl

/-- Nothing stands both above and below: a name stands as often as its exponent says. -/
theorem IsSymbolic.count_above {name : String} (member : name ∈ ratio.symbolic.above) :
    ratio.symbolic.exponent name ≠ 0 ∧
      ratio.symbolic.above.count name = (ratio.symbolic.exponent name).natAbs := by
  rcases symbolic with ⟨names, rfl⟩
  have positive := List.count_pos_iff.mpr member
  simp only [ofNames, Fraction.exponent_cancel, Fraction.count_above_cancel] at positive ⊢
  exact ⟨by omega, by omega⟩

theorem IsSymbolic.count_below {name : String} (member : name ∈ ratio.symbolic.below) :
    ratio.symbolic.exponent name ≠ 0 ∧
      ratio.symbolic.below.count name = (ratio.symbolic.exponent name).natAbs := by
  rcases symbolic with ⟨names, rfl⟩
  have positive := List.count_pos_iff.mpr member
  simp only [ofNames, Fraction.exponent_cancel, Fraction.count_below_cancel] at positive ⊢
  exact ⟨by omega, by omega⟩

end Symbolic

theorem isPlain_cancel {names : Fraction String}
    (plain : ∀ name, names.exponent name ≠ 0 → IsPlainName name) : names.cancel.IsPlain := by
  constructor
  · intro name member
    have positive := List.count_pos_iff.mpr member
    rw [Fraction.count_above_cancel] at positive
    exact plain name (by omega)
  · intro name member
    have positive := List.count_pos_iff.mpr member
    rw [Fraction.count_below_cancel] at positive
    exact plain name (by omega)

/-- Ratios of plain names are equal exactly when every name has the same exponent in both. -/
theorem HasExponents.equals_iff (hasLeft : left.HasExponents (0, first))
    (hasRight : right.HasExponents (0, second))
    (plainLeft : ∀ name, first name ≠ 0 → IsPlainName name)
    (plainRight : ∀ name, second name ≠ 0 → IsPlainName name) :
    left.equals right = true ↔ first = second := by
  constructor
  · intro same
    rcases hasExponents_names_iff.mp hasLeft with ⟨leftNames, rfl, rfl⟩
    rcases hasExponents_names_iff.mp hasRight with ⟨rightNames, rfl, rfl⟩
    have texts : symbolicText leftNames.cancel = symbolicText rightNames.cancel := eq_of_beq same
    have exponents := exponent_eq_of_symbolicText_eq (isPlain_cancel plainLeft)
      (isPlain_cancel plainRight) texts
    rwa [Fraction.exponent_cancel, Fraction.exponent_cancel] at exponents
  · rintro rfl
    exact hasLeft.equals hasRight

end Ratio
end Metrology
