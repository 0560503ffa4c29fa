import Mathlib
import Metrology.Display.Transform
import Metrology.Proofs.Display.Settling
import Metrology.Proofs.Number.IntegerText
import Metrology.Proofs.Number.Rounding

/-!
Where separators go. Counted from the end of a run of digits, groups meet at the places with a
multiple of the group size ahead and with at least one digit behind. A step inserts a separator
at one such place and leaves all others places as they were, so that grouping, which ends once
nothing is too long, has put a separator at each of them and has changed nothing else.
-/

namespace Metrology

namespace Grouping

variable {size : ℕ} {character : Char} {separator text next front back other first second rest run :
  List Char}

/-! ## Places -/

/-- A place between two parts of a text at which two groups of one run of digits meet. -/
def IsPlace (size : ℕ) (front back : List Char) : Prop :=
  ¬IsBorder front ∧ 0 < ahead back ∧ size ∣ ahead back

instance (front : List Char) : Decidable (IsBorder front) :=
  decidable_of_iff (front.getLast?.all (!isDecimalDigit ·) = true) (by
    rw [IsBorder]
    cases front.getLast? <;> simp)

instance (size : ℕ) (front back : List Char) : Decidable (IsPlace size front back) :=
  inferInstanceAs (Decidable (_ ∧ _))

/-- What a text goes on with behind a front part, with a separator at each place. -/
def separated (size : ℕ) (separator : List Char) : List Char → List Char → List Char
  | _, [] => []
  | front, character :: rest =>
      (if IsPlace size front (character :: rest) then separator else []) ++
        character :: separated size separator (front ++ [character]) rest

example : separated 3 [','] [] ['1', '2', '3', '4', 'm', '5', '6', '7'] =
    ['1', ',', '2', '3', '4', 'm', '5', '6', '7'] := by decide +kernel

theorem isBorder_nil : IsBorder [] := by simp [IsBorder]

theorem isBorder_append_singleton :
    IsBorder (front ++ [character]) ↔ isDecimalDigit character = false := by
  simp [IsBorder]

theorem isPlace_congr (same : IsBorder front ↔ IsBorder other) :
    IsPlace size front back ↔ IsPlace size other back := by
  rw [IsPlace, IsPlace, same]

theorem not_isPlace_of_stop (stops : ahead back = 0) : ¬IsPlace size front back := by
  rintro ⟨_, positive, _⟩
  omega

/-! ## Parts of a text -/

theorem separated_append_singleton (front : List Char) :
    separated size separator (front ++ [character]) rest =
      separated size separator [character] rest := by
  induction rest generalizing front character with
  | nil => rfl
  | cons next others induction =>
      have same : IsBorder (front ++ [character]) ↔ IsBorder [character] := by
        rw [isBorder_append_singleton, ← List.nil_append [character], isBorder_append_singleton]
      rw [separated, separated, induction, induction [character]]
      simp only [isPlace_congr same]

/-- Of the front part only its last character matters. -/
theorem separated_congr (same : IsBorder front ↔ IsBorder other) (back : List Char) :
    separated size separator front back = separated size separator other back := by
  cases back with
  | nil => rfl
  | cons character rest =>
      rw [separated, separated, separated_append_singleton front, separated_append_singleton other]
      simp only [isPlace_congr same]

theorem separated_of_border (border : IsBorder front) (back : List Char) :
    separated size separator front back = separated size separator [] back :=
  separated_congr (iff_of_true border isBorder_nil) back

theorem separated_of_stop (stops : ahead back = 0) :
    separated size separator front back = separated size separator [] back := by
  cases back with
  | nil => rfl
  | cons character rest =>
      rw [separated, separated, if_neg (not_isPlace_of_stop stops),
        if_neg (not_isPlace_of_stop stops), separated_append_singleton, List.nil_append [character]]

/-- A text can be cut where no run goes on. -/
theorem separated_append_of_stop (stops : ahead second = 0) (front first : List Char) :
    separated size separator front (first ++ second) =
      separated size separator front first ++ separated size separator [] second := by
  induction first generalizing front with
  | nil => rw [List.nil_append, separated_of_stop stops, separated, List.nil_append]
  | cons character rest induction =>
      have same : IsPlace size front (character :: (rest ++ second)) ↔
          IsPlace size front (character :: rest) := by
        rw [IsPlace, IsPlace, ← List.cons_append, ahead_append_of_stop stops]
      rw [List.cons_append, separated, separated, induction, List.append_assoc, List.cons_append]
      simp only [same]

theorem separated_append_of_border (border : IsBorder first) (second : List Char) :
    separated size separator [] (first ++ second) =
      separated size separator [] first ++ separated size separator [] second := by
  rcases List.eq_nil_or_concat first with rfl | ⟨others, last, rfl⟩
  · rfl
  · have foreign : isDecimalDigit last = false := border last (by simp)
    have cut (rest : List Char) : separated size separator [] (others ++ (last :: rest)) =
        separated size separator [] others ++ (last :: separated size separator [] rest) := by
      rw [separated_append_of_stop (ahead_cons_of_other foreign rest), separated,
        if_neg (not_isPlace_of_stop (ahead_cons_of_other foreign rest)), List.nil_append,
        separated_of_border (isBorder_append_singleton.mpr foreign)]
    have alone := cut []
    rw [List.concat_eq_append, List.append_assoc, List.singleton_append, cut, alone]
    simp [separated]

/-- A text that fits has no places. -/
theorem separated_of_fits_append (fits : Fits size (front ++ back)) :
    separated size separator front back = back := by
  induction back generalizing front with
  | nil => rfl
  | cons character rest induction =>
      have onward : separated size separator (front ++ [character]) rest = rest :=
        induction (by rwa [List.append_assoc])
      have nowhere : ¬IsPlace size front (character :: rest) := by
        rintro ⟨inside, positive, divides⟩
        rcases List.eq_nil_or_concat front with rfl | ⟨others, last, rfl⟩
        · exact inside isBorder_nil
        · rw [List.concat_eq_append, isBorder_append_singleton, Bool.not_eq_false] at inside
          have counted := fits (last :: character :: rest) ⟨others, by simp⟩
          rw [ahead_cons_of_digit inside] at counted
          exact absurd (Nat.le_of_dvd positive divides) (by omega)
      rw [separated, if_neg nowhere, onward, List.nil_append]

theorem separated_of_fits (fits : Fits size text) : separated size separator [] text = text :=
  separated_of_fits_append fits

/-- A whole group behind a digit has a separator in front and none inside. -/
theorem separated_group (positive : 0 < size) (digit : isDecimalDigit character = true)
    (groupDigits : IsDigits second) (whole : second.length = size) :
    separated size separator (front ++ [character]) second = separator ++ second := by
  cases second with
  | nil => rw [List.length_nil] at whole; omega
  | cons first others =>
      have counted : ahead (first :: others) = size := by rw [ahead_of_digits groupDigits, whole]
      have place : IsPlace size (front ++ [character]) (first :: others) := by
        rw [IsPlace, isBorder_append_singleton, counted]
        exact ⟨by simp [digit], positive, dvd_refl size⟩
      have inside : Fits size ([first] ++ others) :=
        ((fits_append_of_digits groupDigits ahead_nil).mpr ⟨whole.le, fits_nil⟩).of_part
          ⟨[], [], by simp⟩
      rw [separated, if_pos place, separated_append_singleton,
        separated_of_fits_append inside]

/-- The last group of a run stands behind a separator. -/
theorem separated_append_of_digits (positive : 0 < size) (digits : IsDigits first)
    (nonempty : first ≠ []) (groupDigits : IsDigits second) (whole : second.length = size)
    (front : List Char) :
    separated size separator front (first ++ second) =
      separated size separator front first ++ (separator ++ second) := by
  induction first generalizing front with
  | nil => exact absurd rfl nonempty
  | cons digit others induction =>
      have isDigit : isDecimalDigit digit = true := digits digit (List.mem_cons_self ..)
      have same : IsPlace size front (digit :: (others ++ second)) ↔
          IsPlace size front (digit :: others) := by
        rw [IsPlace, IsPlace, ← List.cons_append, ahead_append_of_digits digits,
          ahead_of_digits digits, ahead_of_digits groupDigits, whole, Nat.dvd_add_self_right]
        simp
      have onward : separated size separator (front ++ [digit]) (others ++ second) =
          separated size separator (front ++ [digit]) others ++ (separator ++ second) := by
        cases others with
        | nil =>
            rw [List.nil_append, separated, List.nil_append]
            exact separated_group positive isDigit groupDigits whole
        | cons next rest =>
            exact induction (fun other member => digits other (List.mem_cons_of_mem digit member))
              (List.cons_ne_nil next rest) (front ++ [digit])
      rw [List.cons_append, separated, separated, onward, List.append_assoc, List.cons_append]
      simp only [same]

/-! ## Steps and runs -/

section Steps

variable {before head group after final : List Char}

/-- A step puts one separator where it belongs. -/
theorem separated_eq_of_isSplit (positive : 0 < size) (settles : Settles size separator)
    (digitless : ∀ character ∈ separator, isDecimalDigit character = false)
    (split : IsSplit size separator before head group after text next) :
    separated size separator [] next = separated size separator [] text := by
  have stops : ahead (separator ++ (group ++ after)) = 0 := by
    cases separator with
    | nil => exact absurd rfl settles.ne_nil
    | cons first others => exact ahead_cons_of_other (digitless first (List.mem_cons_self ..)) _
  have groupFits : Fits size group := by
    rw [← List.append_nil group, fits_append_of_digits split.groupDigits ahead_nil]
    exact ⟨split.groupLength.le, fits_nil⟩
  calc separated size separator [] next
      = separated size separator [] before ++ (separated size separator [] head ++
          (separator ++ (group ++ separated size separator [] after))) := by
        rw [split.next_eq, separated_append_of_border split.border,
          separated_append_of_stop stops, separated_append_of_border settles.isBorder,
          separated_of_fits settles.fits, separated_append_of_stop split.stops,
          separated_of_fits groupFits]
    _ = separated size separator [] text := by
        rw [split.text_eq, separated_append_of_border split.border,
          separated_append_of_stop split.stops, separated_append_of_digits positive
            split.headDigits split.nonempty split.groupDigits split.groupLength]
        simp only [List.append_assoc]

theorem separated_eq_of_reaches (positive : 0 < size) (settles : Settles size separator)
    (digitless : ∀ character ∈ separator, isDecimalDigit character = false)
    (reaches : Reaches size separator text final) :
    separated size separator [] text = final := by
  rcases reaches with ⟨run, ended⟩
  induction run using Relation.ReflTransGen.head_induction_on with
  | refl => exact separated_of_fits (step?_eq_none_iff.mp ended)
  | head stepped _ induction =>
      rcases exists_isSplit stepped with ⟨before, head, group, after, split⟩
      rw [← separated_eq_of_isSplit positive settles digitless split, induction]

end Steps

/-- Grouping with a separator that has no digits separates the groups, and the result fits. -/
theorem group_eq_separated (positive : 0 < size) (nonempty : separator ≠ [])
    (digitless : ∀ character ∈ separator, isDecimalDigit character = false) (text : List Char) :
    group size separator text = .ok (separated size separator [] text) ∧
      Fits size (separated size separator [] text) := by
  have settles := settles_of_digitless positive nonempty digitless
  have ends : Fits size text ∨ Settles size separator := .inr settles
  rcases exists_group ends with ⟨final, grouped⟩
  have reaches := group_eq_ok_iff.mp grouped
  have same := separated_eq_of_reaches positive settles digitless reaches
  rw [same]
  exact ⟨grouped, step?_eq_none_iff.mp reaches.2⟩

end Grouping

/-! ## The transform -/

theorem Comparison.le_of_atLeast {left right : ℤ}
    (holds : Comparison.atLeast.holds (compare left right) = true) : right ≤ left := by
  by_contra below
  rw [compare_lt_iff_lt.mpr (not_le.mp below)] at holds
  exact absurd holds (by decide)

namespace Transform

variable {α : Type} {size : Number} {whole : ℤ}

/-- A size of at least one makes groups that are not empty, with its fraction cut off too. -/
theorem groupSize_pos (positive : size.compares .atLeast 1 = true)
    (sized : groupSize size = .ok whole) : 0 < whole := by
  cases size with
  | int size =>
      rcases Result.bind_eq_ok.mp sized with ⟨_, _, same⟩
      cases same
      have atLeast : 1 ≤ whole := Comparison.le_of_atLeast positive
      omega
  | float value =>
      cases value with
      | nan => cases sized
      | infinite => cases sized
      | finite negative quanta =>
          cases sized
          have atLeast : 1 * (Binary64.one : ℤ) ≤ Binary64.signed negative quanta := by
            apply Comparison.le_of_atLeast
            rw [← Int.compare_swap]
            exact positive
          have unit := Binary64.one_pos
          rw [Binary64.signed] at atLeast ⊢
          split at atLeast
          · omega
          · next notNegative =>
              have reached : Binary64.one ≤ quanta := by omega
              rw [if_neg notNegative]
              exact_mod_cast Nat.div_pos reached unit

theorem groupingDigits_eq_ok {separator : Option String} {transform : Transform α}
    (accepted : groupingDigits size separator = .ok transform) :
    ∃ whole : ℤ, groupSize size = .ok whole ∧ transform = .groupDigits whole separator := by
  rcases Result.bind_eq_ok.mp accepted with ⟨whole, sized, made⟩
  refine ⟨whole, sized, ?_⟩
  split at made
  · cases made
  · exact (Except.ok.inj made).symm

/-- What comes in front of the first item that fails a test is not longer than what was put
in front of it. -/
theorem takeWhile_append_dropWhile_prefix {β : Type} (test : β → Bool) (front items : List β) :
    (front ++ items.dropWhile test).takeWhile test <+: front := by
  induction front with
  | nil => rw [List.nil_append, takeWhile_dropWhile]
  | cons first others induction =>
      rw [List.cons_append, List.takeWhile_cons]
      split
      · exact List.cons_prefix_cons.mpr ⟨rfl, induction⟩
      · exact List.nil_prefix

/-- A text with separators at the places in front of its first point. -/
def separatedText (length : ℕ) (separator text : String) : String :=
  String.ofList
    (Grouping.separated length separator.toList [] (text.toList.takeWhile (· != '.')) ++
      text.toList.dropWhile (· != '.'))

section Texts

variable {length : ℕ} {separator : String} (positive : 0 < length) (nonempty : separator ≠ "")
  (digitless : ∀ character ∈ separator.toList, isDecimalDigit character = false)

theorem groupText_of_group {text : String} {grouped : List Char}
    (made : Grouping.group length separator.toList (text.toList.takeWhile (· != '.')) =
      .ok grouped) :
    groupText length (some separator) text =
      .ok (String.ofList (grouped ++ text.toList.dropWhile (· != '.'))) := by
  have notNegative : ¬(length : ℤ) < 0 := by omega
  rw [groupText, if_neg notNegative]
  simp only [Int.toNat_natCast, made, Result.ok_bind]
  rfl

include positive nonempty digitless

theorem groupText_eq (text : String) :
    groupText length (some separator) text = .ok (separatedText length separator text) :=
  groupText_of_group (Grouping.group_eq_separated positive
    (fun empty => nonempty (String.toList_inj.mp empty)) digitless _).1

/-- What stands in front of the first point fits, wherever a separator may have put one. -/
theorem groupText_separatedText (text : String) :
    groupText length (some separator) (separatedText length separator text) =
      .ok (separatedText length separator text) := by
  have fits := (Grouping.group_eq_separated positive
    (fun empty => nonempty (String.toList_inj.mp empty)) digitless
    (text.toList.takeWhile (· != '.'))).2
  have part : (separatedText length separator text).toList.takeWhile (· != '.') <+:
      Grouping.separated length separator.toList [] (text.toList.takeWhile (· != '.')) := by
    rw [separatedText, String.toList_ofList]
    exact takeWhile_append_dropWhile_prefix ..
  rw [groupText_of_group (Grouping.groupWithin_of_fits (fits.of_part part.isInfix) _),
    List.takeWhile_append_dropWhile, String.ofList_toList]

end Texts

/-- A number has a text unless it is an integer with too many digits and no text was fixed. -/
theorem text_eq_error_iff {intermediate : Intermediate Number} {fault : Fault} :
    intermediate.text = .error fault ↔ fault = .tooManyDigits ∧ intermediate.text? = none ∧
      ∃ value, intermediate.value = .int value ∧ 10 ^ digitLimit ≤ value.natAbs := by
  rcases intermediate with ⟨value, text?⟩
  cases text? with
  | some text => exact iff_of_false nofun (by rintro ⟨_, fixed, _⟩; cases fixed)
  | none =>
      have written : (⟨value, none⟩ : Intermediate Number).text = value.normalize.text := rfl
      rw [written]
      cases value with
      | int value =>
          rw [Number.normalize, Number.text, integerText_eq_error_iff]
          simp
      | float value =>
          have short (whole : ℤ) (small : whole.natAbs < Number.integralBound) :
              ¬10 ^ digitLimit ≤ whole.natAbs := by
            have bound : Number.integralBound ≤ 10 ^ digitLimit := by decide +kernel
            omega
          refine iff_of_false (fun failed => ?_) (by rintro ⟨_, _, _, same, _⟩; cases same)
          rw [Number.normalize] at failed
          split at failed
          · split at failed
            · next whole _ small =>
                exact short whole small (integerText_eq_error_iff.mp failed).2
            · cases failed
          · cases failed

/-- Where a value has a text, grouping keeps the value, and puts a separator without digits at
every place in front of the first point of the text and nowhere else; doing so again changes
nothing. A value without a text cannot be grouped, and the only such numbers are integers with
more digits than are written. -/
theorem grouping_separates_places :
    (∀ (α : Type) [Arithmetic α] [Decimal α] (size : Number) (separator : String)
      (transform : Transform α) (intermediate : Intermediate α),
      size.compares .atLeast 1 = true → groupingDigits size (some separator) = .ok transform →
      separator ≠ "" → (∀ character ∈ separator.toList, isDecimalDigit character = false) →
        ∃ length : ℕ, 0 < length ∧ groupSize size = .ok length ∧
          (∀ text, intermediate.text = .ok text →
            ∃ grouped : Intermediate α, grouped.value = intermediate.value ∧
              grouped.text? = some (separatedText length separator text) ∧
              transform.apply intermediate = .ok grouped ∧
              transform.apply grouped = .ok grouped) ∧
          ∀ fault, intermediate.text = .error fault →
            transform.apply intermediate = .error fault) ∧
    ∀ (intermediate : Intermediate Number) (fault : Fault),
      intermediate.text = .error fault ↔ fault = .tooManyDigits ∧ intermediate.text? = none ∧
        ∃ value, intermediate.value = .int value ∧ 10 ^ digitLimit ≤ value.natAbs := by
  refine ⟨?places, fun _ _ => text_eq_error_iff⟩
  intro α _ _ size separator transform intermediate atLeast accepted nonempty digitless
  rcases groupingDigits_eq_ok accepted with ⟨whole, sized, rfl⟩
  rcases Int.eq_ofNat_of_zero_le (groupSize_pos atLeast sized).le with ⟨length, rfl⟩
  have positive : 0 < length := by exact_mod_cast groupSize_pos atLeast sized
  refine ⟨length, positive, sized, fun text written => ?_, fun fault unwritten => ?_⟩
  · refine ⟨⟨intermediate.value, some (separatedText length separator text)⟩, rfl, rfl, ?_, ?_⟩
    · rw [apply, applyTo, written, Result.ok_bind, groupText_eq positive nonempty digitless]
      rfl
    · rw [apply, applyTo, Intermediate.text, Result.ok_bind,
        groupText_separatedText positive nonempty digitless]
      rfl
  · rw [apply, applyTo, unwritten]
    rfl

/-- A point may separate too: the second time only what is in front of the first one counts. -/
theorem grouping_separates_places_points :
    (3 : Number).compares .atLeast 1 = true ∧ "." ≠ "" ∧
      (∀ character ∈ ".".toList, isDecimalDigit character = false) ∧
      groupingDigits (3 : Number) (some ".") = .ok (groupDigits 3 (some ".") : Transform Number) ∧
      ∃ grouped : Intermediate Number, grouped.text? = some "1.234.567 x 89.012.34567" ∧
        (groupDigits 3 (some ".")).apply ⟨1, some "1234567 x 89012.34567"⟩ = .ok grouped ∧
        (groupDigits 3 (some ".")).apply grouped = .ok grouped := by
  have atLeast : (3 : Number).compares .atLeast 1 = true := by decide +kernel
  have digitless : ∀ character ∈ ".".toList, isDecimalDigit character = false := by
    intro character member
    rw [List.eq_of_mem_singleton member]
    decide +kernel
  have accepted : groupingDigits (3 : Number) (some ".") =
      .ok (groupDigits 3 (some ".") : Transform Number) := rfl
  rcases grouping_separates_places.1 Number 3 "." _ ⟨1, some "1234567 x 89012.34567"⟩ atLeast
    accepted (by decide) digitless with ⟨length, _, sized, places, _⟩
  have three : length = 3 := by
    have same : groupSize (3 : Number) = .ok 3 := rfl
    exact_mod_cast Except.ok.inj (sized.symm.trans same)
  rcases places _ rfl with ⟨grouped, _, shown, applied, again⟩
  refine ⟨atLeast, by decide, digitless, accepted, grouped, ?_, applied, again⟩
  rw [shown, three]
  decide +kernel

/-- The text of ten to the power of 4300 is longer than what is written. -/
theorem huge_integer_not_grouped :
    ∃ transform : Transform Number, groupingDigits (3 : Number) (some ",") = .ok transform ∧
      ∀ grouped, transform.apply ⟨.int (10 ^ digitLimit : ℕ), none⟩ ≠ .ok grouped := by
  refine ⟨groupDigits 3 (some ","), rfl, fun grouped applied => ?_⟩
  have unwritten : (⟨.int (10 ^ digitLimit : ℕ), none⟩ : Intermediate Number).text =
      .error .tooManyDigits :=
    text_eq_error_iff.mpr ⟨rfl, rfl, _, rfl, (Int.natAbs_natCast _).ge⟩
  rw [apply, applyTo, unwritten] at applied
  cases applied

end Transform
end Metrology
