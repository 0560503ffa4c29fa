import Mathlib
import Metrology.Display.Grouping

/-!
When grouping ends. A step splits a run of digits that is too long, and what it inserts is
searched again. Digits at the end of a separator join the group behind it, and digits at its
beginning join the digits in front, so that the run may be too long as before. Grouping ends on
a text that has too long a run exactly when the separator keeps its own digits short.
-/

namespace Metrology

theorem takeWhile_dropWhile {α : Type} (test : α → Bool) (items : List α) :
    (items.dropWhile test).takeWhile test = [] := by
  induction items with
  | nil => rfl
  | cons item rest induction =>
      cases passes : test item with
      | true => rwa [List.dropWhile_cons_of_pos passes]
      | false => simp [passes]

namespace Grouping

variable {size : ℕ} {character : Char} {separator text next front back rest run : List Char}

/-! ## Digits ahead -/

/-- How many digits a text begins with. -/
def ahead (text : List Char) : ℕ := (text.takeWhile isDecimalDigit).length

def IsDigits (run : List Char) : Prop := ∀ character ∈ run, isDecimalDigit character = true

@[simp] theorem ahead_nil : ahead [] = 0 := rfl

theorem ahead_cons_of_digit (digit : isDecimalDigit character = true) (rest : List Char) :
    ahead (character :: rest) = ahead rest + 1 := by
  simp [ahead, digit]

theorem ahead_cons_of_other (other : isDecimalDigit character = false) (rest : List Char) :
    ahead (character :: rest) = 0 := by
  simp [ahead, other]

theorem ahead_append_of_digits (digits : IsDigits run) (rest : List Char) :
    ahead (run ++ rest) = run.length + ahead rest := by
  rw [ahead, List.takeWhile_append_of_pos digits, List.length_append, ahead]

theorem ahead_of_digits (digits : IsDigits run) : ahead run = run.length := by
  have counted := ahead_append_of_digits digits []
  rwa [List.append_nil, ahead_nil, Nat.add_zero] at counted

theorem ahead_le_ahead_append (front back : List Char) : ahead front ≤ ahead (front ++ back) := by
  induction front with
  | nil => exact Nat.zero_le _
  | cons character rest induction =>
      cases kind : isDecimalDigit character with
      | true =>
          rw [List.cons_append, ahead_cons_of_digit kind, ahead_cons_of_digit kind]
          exact Nat.succ_le_succ induction
      | false => rw [ahead_cons_of_other kind]; exact Nat.zero_le _

/-- Digits are not counted past the place where a text begins with none. -/
theorem ahead_append_of_stop (stops : ahead back = 0) (front : List Char) :
    ahead (front ++ back) = ahead front := by
  induction front with
  | nil => simpa using stops
  | cons character rest induction =>
      cases kind : isDecimalDigit character with
      | true => rw [List.cons_append, ahead_cons_of_digit kind, ahead_cons_of_digit kind, induction]
      | false => rw [List.cons_append, ahead_cons_of_other kind, ahead_cons_of_other kind]

theorem isDigits_takeWhile (text : List Char) : IsDigits (text.takeWhile isDecimalDigit) :=
  fun _ member => List.mem_takeWhile_imp member

theorem ahead_dropWhile (text : List Char) : ahead (text.dropWhile isDecimalDigit) = 0 := by
  rw [ahead, takeWhile_dropWhile, List.length_nil]

/-! ## Texts that fit -/

/-- Nowhere do more than `size` digits follow one another. -/
def Fits (size : ℕ) (text : List Char) : Prop := ∀ rest, rest <:+ text → ahead rest ≤ size

instance (size : ℕ) (text : List Char) : Decidable (Fits size text) :=
  decidable_of_iff (∀ rest ∈ text.tails, ahead rest ≤ size) (by simp [Fits])

theorem fits_nil : Fits size [] := by
  intro rest suffix
  rw [List.suffix_nil.mp suffix]
  exact Nat.zero_le size

theorem fits_cons_iff :
    Fits size (character :: rest) ↔ ahead (character :: rest) ≤ size ∧ Fits size rest := by
  simp [Fits, List.suffix_cons_iff]

theorem fits_cons_of_other (other : isDecimalDigit character = false) :
    Fits size (character :: rest) ↔ Fits size rest := by
  rw [fits_cons_iff, ahead_cons_of_other other]
  simp

/-- A run that ends where a text goes on without a digit counts by itself. -/
theorem fits_append_of_digits (digits : IsDigits run) (stops : ahead rest = 0) :
    Fits size (run ++ rest) ↔ run.length ≤ size ∧ Fits size rest := by
  induction run with
  | nil => simp
  | cons digit others induction =>
      rw [List.cons_append, fits_cons_iff, ← List.cons_append, ahead_append_of_digits digits, stops,
        induction fun other member => digits other (List.mem_cons_of_mem digit member),
        List.length_cons]
      constructor
      · rintro ⟨short, _, fits⟩
        exact ⟨short, fits⟩
      · rintro ⟨short, fits⟩
        exact ⟨short, by omega, fits⟩

theorem Fits.of_part (fits : Fits size text) (part : run <:+: text) : Fits size run := by
  rcases part with ⟨front, back, rfl⟩
  rintro rest ⟨start, rfl⟩
  have suffix : rest ++ back <:+ front ++ (start ++ rest) ++ back := ⟨front ++ start, by simp⟩
  exact (ahead_le_ahead_append rest back).trans (fits _ suffix)

theorem Fits.length_le (fits : Fits size text) (part : run <:+: text) (digits : IsDigits run) :
    run.length ≤ size := by
  rw [← ahead_of_digits digits]
  exact fits.of_part part run (List.suffix_refl run)

/-! ## One step -/

/-- Whether a text ends without a digit, so that a run begins behind it. -/
def IsBorder (front : List Char) : Prop :=
  ∀ last ∈ front.getLast?, isDecimalDigit last = false

/-- How one step goes: from the end of a whole run of digits a group is split off, and some
digits stay in front of it. -/
structure IsSplit (size : ℕ) (separator before head group after text next : List Char) : Prop where
  text_eq : text = before ++ (head ++ group ++ after)
  next_eq : next = before ++ (head ++ (separator ++ (group ++ after)))
  border : IsBorder before
  headDigits : IsDigits head
  nonempty : head ≠ []
  groupDigits : IsDigits group
  groupLength : group.length = size
  stops : ahead after = 0

namespace IsSplit

variable {before head group after : List Char}

theorem cons_of_other (split : IsSplit size separator before head group after text next)
    (other : isDecimalDigit character = false) :
    IsSplit size separator (character :: before) head group after (character :: text)
      (character :: next) where
  __ := split
  text_eq := by rw [split.text_eq, List.cons_append]
  next_eq := by rw [split.next_eq, List.cons_append]
  border := by
    intro last member
    cases before with
    | nil => simp_all
    | cons first others => exact split.border last (by simpa using member)

theorem append_of_stop (split : IsSplit size separator before head group after text next)
    (stops : ahead text = 0) (front : List Char) :
    IsSplit size separator (front ++ before) head group after (front ++ text)
      (front ++ next) where
  __ := split
  text_eq := by rw [split.text_eq, ← List.append_assoc]
  next_eq := by rw [split.next_eq, ← List.append_assoc]
  border := by
    -- The split run does not stand at the very beginning, for the text begins without a digit.
    have inside : before ≠ [] := by
      rintro rfl
      have counted := split.text_eq ▸ stops
      rw [List.nil_append, List.append_assoc, ahead_append_of_digits split.headDigits] at counted
      exact split.nonempty (List.length_eq_zero_iff.mp (by omega))
    intro last member
    rw [List.getLast?_append_of_ne_nil front inside] at member
    exact split.border last member

end IsSplit

theorem isSplit_splitRun (digits : IsDigits run) (long : size < run.length)
    (stops : ahead rest = 0) :
    IsSplit size separator [] (run.take (run.length - size)) (run.drop (run.length - size)) rest
      (run ++ rest) (splitRun size separator run ++ rest) where
  text_eq := by rw [List.nil_append, List.take_append_drop]
  next_eq := by simp [splitRun]
  border := by simp [IsBorder]
  headDigits := fun character member => digits character (List.mem_of_mem_take member)
  nonempty := by
    rw [Ne, List.take_eq_nil_iff, not_or]
    exact ⟨by omega, List.length_pos_iff.mp (by omega)⟩
  groupDigits := fun character member => digits character (List.mem_of_mem_drop member)
  groupLength := by rw [List.length_drop]; omega
  stops := stops

theorem isDigits_cons_takeWhile (digit : isDecimalDigit character = true) (rest : List Char) :
    IsDigits (character :: rest.takeWhile isDecimalDigit) := by
  have taken := isDigits_takeWhile (character :: rest)
  rwa [List.takeWhile_cons_of_pos digit] at taken

theorem cons_takeWhile_append_dropWhile (character : Char) (rest : List Char) :
    (character :: rest.takeWhile isDecimalDigit) ++ rest.dropWhile isDecimalDigit =
      character :: rest := by
  rw [List.cons_append, List.takeWhile_append_dropWhile]

theorem exists_isSplit (stepped : step? size separator text = some next) :
    ∃ before head group after, IsSplit size separator before head group after text next := by
  fun_induction step? size separator text generalizing next with
  | case1 => cases stepped
  | case2 character rest digit run after =>
      rename_i long
      cases stepped
      rw [← cons_takeWhile_append_dropWhile character rest]
      exact ⟨_, _, _, _, isSplit_splitRun (isDigits_cons_takeWhile digit rest) long
        (ahead_dropWhile rest)⟩
  | case3 character rest digit run after short =>
      rename_i induction
      rcases Option.map_eq_some_iff.mp stepped with ⟨later, steppedLater, rfl⟩
      rcases induction steppedLater with ⟨before, head, group, behind, split⟩
      rw [← cons_takeWhile_append_dropWhile character rest]
      exact ⟨_, _, _, _, split.append_of_stop (ahead_dropWhile rest) run⟩
  | case4 character rest other induction =>
      rcases Option.map_eq_some_iff.mp stepped with ⟨later, steppedLater, rfl⟩
      rcases induction steppedLater with ⟨before, head, group, behind, split⟩
      exact ⟨_, _, _, _, split.cons_of_other (Bool.eq_false_iff.mpr other)⟩

/-- There is nothing left to do when the text fits. -/
theorem step?_eq_none_iff : step? size separator text = none ↔ Fits size text := by
  fun_induction step? size separator text with
  | case1 => exact iff_of_true rfl fits_nil
  | case2 character rest digit run after =>
      rename_i long
      rw [← cons_takeWhile_append_dropWhile character rest,
        fits_append_of_digits (isDigits_cons_takeWhile digit rest) (ahead_dropWhile rest)]
      exact iff_of_false nofun fun fits => absurd fits.1 (not_le.mpr long)
  | case3 character rest digit run after short =>
      rename_i induction
      rw [Option.map_eq_none_iff, induction, ← cons_takeWhile_append_dropWhile character rest,
        fits_append_of_digits (isDigits_cons_takeWhile digit rest) (ahead_dropWhile rest)]
      exact (and_iff_right (not_lt.mp short)).symm
  | case4 character rest other induction =>
      rw [Option.map_eq_none_iff, induction, fits_cons_of_other (Bool.eq_false_iff.mpr other)]

/-! ## Separators -/

/-- Separators that end without a digit, that begin with fewer digits than a group has, and in
which no run of digits is longer than a group. -/
structure Settles (size : ℕ) (separator : List Char) : Prop where
  closes : ∃ last ∈ separator.getLast?, isDecimalDigit last = false
  opens : ahead separator < size
  fits : Fits size separator

/-- Without digits of its own a separator settles every text. -/
theorem settles_of_digitless (positive : 0 < size) (nonempty : separator ≠ [])
    (digitless : ∀ character ∈ separator, isDecimalDigit character = false) :
    Settles size separator where
  closes := ⟨_, List.getLast?_eq_some_getLast nonempty, digitless _ (List.getLast_mem nonempty)⟩
  opens := by
    cases separator with
    | nil => exact absurd rfl nonempty
    | cons first others => rwa [ahead_cons_of_other (digitless first (List.mem_cons_self ..))]
  fits := by
    rintro rest ⟨front, rfl⟩
    cases rest with
    | nil => exact Nat.zero_le size
    | cons first others =>
        rw [ahead_cons_of_other (digitless first (by simp))]
        exact Nat.zero_le size

/-- A step that leaves nothing to do shows that the separator settles. -/
theorem Settles.of_isSplit {before head group after : List Char}
    (split : IsSplit size separator before head group after text next) (fits : Fits size next) :
    Settles size separator := by
  have headLength : 0 < head.length := List.length_pos_iff.mpr split.nonempty
  -- Each way of being too long would be a run of digits in the new text.
  have short (front back : List Char) {run : List Char} (digits : IsDigits run)
      (placed : next = front ++ (run ++ back)) : run.length ≤ size :=
    fits.length_le ⟨front, back, by rw [placed, List.append_assoc]⟩ digits
  refine ⟨?closes, ?opens, ?within⟩
  case closes =>
    rcases List.eq_nil_or_concat separator with rfl | ⟨front, last, rfl⟩
    · have digits : IsDigits (head ++ group) :=
        List.forall_mem_append.mpr ⟨split.headDigits, split.groupDigits⟩
      have length := short before after digits (by rw [split.next_eq]; simp)
      rw [List.length_append, split.groupLength] at length
      omega
    · refine ⟨last, by simp, Bool.eq_false_iff.mpr fun digit => ?_⟩
      have digits : IsDigits (last :: group) :=
        List.forall_mem_cons.mpr ⟨digit, split.groupDigits⟩
      have length := short (before ++ (head ++ front)) after digits
        (by rw [split.next_eq]; simp)
      rw [List.length_cons, split.groupLength] at length
      omega
  case opens =>
    have digits : IsDigits (head ++ separator.takeWhile isDecimalDigit) :=
      List.forall_mem_append.mpr ⟨split.headDigits, isDigits_takeWhile separator⟩
    have length := short before (separator.dropWhile isDecimalDigit ++ (group ++ after)) digits (by
      have cut : separator.takeWhile isDecimalDigit ++ separator.dropWhile isDecimalDigit =
        separator := List.takeWhile_append_dropWhile
      rw [split.next_eq]
      conv_lhs => rw [← cut]
      simp only [List.append_assoc])
    rw [List.length_append] at length
    change (separator.takeWhile isDecimalDigit).length < size
    omega
  case within =>
    exact fits.of_part ⟨before ++ head, group ++ after, by rw [split.next_eq]; simp⟩

/-! ## What is left to do -/

/-- The digits of a text that have a whole group or more behind them in their run. -/
def overhang (size : ℕ) : List Char → ℕ
  | [] => 0
  | character :: rest =>
      (if size < ahead (character :: rest) then 1 else 0) + overhang size rest

theorem overhang_le_length (text : List Char) : overhang size text ≤ text.length := by
  induction text with
  | nil => exact Nat.zero_le 0
  | cons character rest induction =>
      rw [overhang, List.length_cons]
      split <;> omega

theorem overhang_append_of_stop (stops : ahead back = 0) (front : List Char) :
    overhang size (front ++ back) = overhang size front + overhang size back := by
  induction front with
  | nil => simp [overhang]
  | cons character rest induction =>
      rw [List.cons_append, overhang, overhang, induction, ← List.cons_append,
        ahead_append_of_stop stops, Nat.add_assoc]

theorem overhang_append_of_border (border : IsBorder front) (back : List Char) :
    overhang size (front ++ back) = overhang size front + overhang size back := by
  rcases List.eq_nil_or_concat front with rfl | ⟨others, last, rfl⟩
  · simp [overhang]
  · have other : isDecimalDigit last = false := border last (by simp)
    have counted (rest : List Char) : overhang size (others ++ (last :: rest)) =
        overhang size others + overhang size rest := by
      rw [overhang_append_of_stop (ahead_cons_of_other other rest), overhang,
        ahead_cons_of_other other]
      simp
    have alone := counted []
    rw [List.concat_eq_append, List.append_assoc, List.singleton_append, counted, alone]
    simp [overhang]

theorem overhang_of_digits (digits : IsDigits run) : overhang size run = run.length - size := by
  induction run with
  | nil => simp [overhang]
  | cons digit others induction =>
      rw [overhang, ahead_of_digits digits,
        induction fun other member => digits other (List.mem_cons_of_mem digit member),
        List.length_cons]
      split <;> omega

theorem overhang_of_fits (fits : Fits size text) : overhang size text = 0 := by
  induction text with
  | nil => rfl
  | cons character rest induction =>
      rcases fits_cons_iff.mp fits with ⟨short, others⟩
      rw [overhang, if_neg (not_lt.mpr short), induction others]

theorem Settles.ne_nil (settles : Settles size separator) : separator ≠ [] := by
  rcases settles.closes with ⟨last, isLast, _⟩
  exact List.ne_nil_of_mem (List.mem_of_getLast? isLast)

theorem Settles.isBorder (settles : Settles size separator) : IsBorder separator := by
  rcases settles.closes with ⟨last, isLast, other⟩
  intro another member
  rwa [Option.mem_unique member isLast]

theorem Settles.isBorder_append (settles : Settles size separator) (front : List Char) :
    IsBorder (front ++ separator) := by
  intro another member
  rw [List.getLast?_append_of_ne_nil front settles.ne_nil] at member
  exact settles.isBorder another member

/-- Of a separator that settles only the first digits hang over, and those as part of the run
that they join. -/
theorem Settles.overhang_append (settles : Settles size separator) (digits : IsDigits run) :
    overhang size (run ++ separator) = run.length + ahead separator - size := by
  have cut : run ++ separator =
      (run ++ separator.takeWhile isDecimalDigit) ++ separator.dropWhile isDecimalDigit := by
    rw [List.append_assoc, List.takeWhile_append_dropWhile]
  have joined : IsDigits (run ++ separator.takeWhile isDecimalDigit) :=
    List.forall_mem_append.mpr ⟨digits, isDigits_takeWhile separator⟩
  have remaining : Fits size (separator.dropWhile isDecimalDigit) :=
    settles.fits.of_part (List.dropWhile_suffix _).isInfix
  rw [cut, overhang_append_of_stop (ahead_dropWhile separator), overhang_of_fits remaining,
    overhang_of_digits joined, List.length_append, ahead, Nat.add_zero]

namespace IsSplit

variable {before head group after : List Char}
  (split : IsSplit size separator before head group after text next)

include split

theorem overhang_text :
    overhang size text = overhang size before + (head.length + overhang size after) := by
  have digits : IsDigits (head ++ group) :=
    List.forall_mem_append.mpr ⟨split.headDigits, split.groupDigits⟩
  rw [split.text_eq, overhang_append_of_border split.border, overhang_append_of_stop split.stops,
    overhang_of_digits digits, List.length_append, split.groupLength, Nat.add_sub_cancel]

theorem overhang_next (settles : Settles size separator) :
    overhang size next =
      overhang size before + (head.length + ahead separator - size + overhang size after) := by
  have groupFits : overhang size group = 0 := by
    rw [overhang_of_digits split.groupDigits, split.groupLength, Nat.sub_self]
  rw [split.next_eq, overhang_append_of_border split.border, ← List.append_assoc head,
    overhang_append_of_border (settles.isBorder_append head),
    settles.overhang_append split.headDigits, overhang_append_of_stop split.stops, groupFits,
    Nat.zero_add]

/-- Fewer digits join the split run in front than leave it. -/
theorem overhang_lt (settles : Settles size separator) :
    overhang size next < overhang size text := by
  have headLength : 0 < head.length := List.length_pos_iff.mpr split.nonempty
  have opens := settles.opens
  rw [split.overhang_text, split.overhang_next settles]
  omega

end IsSplit

/-! ## Runs -/

def StepsTo (size : ℕ) (separator text next : List Char) : Prop :=
  step? size separator text = some next

/-- Steps lead from one text to another on which there is no further step. -/
def Reaches (size : ℕ) (separator text final : List Char) : Prop :=
  Relation.ReflTransGen (StepsTo size separator) text final ∧ step? size separator final = none

variable {final : List Char}

theorem Reaches.unique {other : List Char} (reaches : Reaches size separator text final)
    (reachesOther : Reaches size separator text other) : final = other := by
  have functional : Relator.RightUnique (StepsTo size separator) := fun _ _ _ first second =>
    Option.some.inj (first.symm.trans second)
  have stays {last next : List Char} (ended : step? size separator last = none)
      (run : Relation.ReflTransGen (StepsTo size separator) last next) : last = next := by
    rcases run.cases_head with same | ⟨_, stepped, _⟩
    · exact same
    · exact absurd (ended.symm.trans stepped) nofun
  rcases Relation.ReflTransGen.total_of_right_unique functional reaches.1 reachesOther.1 with
    onward | onward
  · exact stays reaches.2 onward
  · exact (stays reachesOther.2 onward).symm

theorem Reaches.head (stepped : step? size separator text = some next)
    (reaches : Reaches size separator next final) : Reaches size separator text final :=
  ⟨reaches.1.head stepped, reaches.2⟩

theorem fits_or_settles_of_reaches (reaches : Reaches size separator text final) :
    Fits size text ∨ Settles size separator := by
  have fits := step?_eq_none_iff.mp reaches.2
  rcases reaches.1.cases_tail with rfl | ⟨previous, _, stepped⟩
  · exact .inl fits
  · rcases exists_isSplit stepped with ⟨before, head, group, after, split⟩
    exact .inr (.of_isSplit split fits)

theorem groupWithin_of_fits (fits : Fits size text) (limit : ℕ) :
    groupWithin size separator limit text = .ok text := by
  cases limit <;> rw [groupWithin, step?_eq_none_iff.mpr fits]

/-- As many steps are enough as there are digits that hang over. -/
theorem exists_groupWithin (settles : Settles size separator) {limit : ℕ}
    (enough : overhang size text ≤ limit) :
    ∃ final, groupWithin size separator limit text = .ok final := by
  induction limit generalizing text with
  | zero =>
      cases stepped : step? size separator text with
      | none => exact ⟨text, groupWithin_of_fits (step?_eq_none_iff.mp stepped) 0⟩
      | some next =>
          rcases exists_isSplit stepped with ⟨before, head, group, after, split⟩
          have fewer := split.overhang_lt settles
          omega
  | succ limit induction =>
      cases stepped : step? size separator text with
      | none => exact ⟨text, groupWithin_of_fits (step?_eq_none_iff.mp stepped) (limit + 1)⟩
      | some next =>
          rcases exists_isSplit stepped with ⟨before, head, group, after, split⟩
          have fewer := split.overhang_lt settles
          rcases @induction next (by omega) with ⟨final, grouped⟩
          exact ⟨final, by rw [groupWithin, stepped]; exact grouped⟩

theorem reaches_of_groupWithin {limit : ℕ}
    (grouped : groupWithin size separator limit text = .ok final) :
    Reaches size separator text final := by
  fun_induction groupWithin size separator limit text with
  | case1 limit text ended =>
      cases grouped
      exact ⟨.refl, ended⟩
  | case2 text next stepped => cases grouped
  | case3 text next stepped limit induction => exact (induction grouped).head stepped

theorem groupWithin_eq_error {limit : ℕ} {fault : Fault}
    (failed : groupWithin size separator limit text = .error fault) : fault = .endless := by
  fun_induction groupWithin size separator limit text with
  | case1 limit text ended => cases failed
  | case2 text next stepped => exact (Except.error.inj failed).symm
  | case3 text next stepped limit induction => exact induction failed

theorem exists_group (ends : Fits size text ∨ Settles size separator) :
    ∃ final, group size separator text = .ok final := by
  rcases ends with fits | settles
  · exact ⟨text, groupWithin_of_fits fits text.length⟩
  · exact exists_groupWithin settles (overhang_le_length text)

theorem group_eq_ok_iff :
    group size separator text = .ok final ↔ Reaches size separator text final := by
  refine ⟨reaches_of_groupWithin, fun reaches => ?_⟩
  rcases exists_group (fits_or_settles_of_reaches reaches) with ⟨other, grouped⟩
  rw [grouped, reaches.unique (reaches_of_groupWithin grouped)]

/-- Steps come to an end when no run of digits is too long to begin with, or when the separator
ends without a digit, begins with fewer digits than a group has, and has no run that is longer
than a group. Then grouping gives the text that they lead to; otherwise they go on for ever. -/
theorem ends_iff_fits_or_settles (size : ℕ) (separator text : List Char) :
    ((∃ final, Reaches size separator text final) ↔ Fits size text ∨ Settles size separator) ∧
      (∀ final, group size separator text = .ok final ↔ Reaches size separator text final) ∧
      (group size separator text = .error .endless ↔
        ¬(Fits size text ∨ Settles size separator)) := by
  refine ⟨⟨?onlyIf, ?ifEnds⟩, fun final => group_eq_ok_iff, ?endless⟩
  case onlyIf =>
    rintro ⟨final, reaches⟩
    exact fits_or_settles_of_reaches reaches
  case ifEnds =>
    intro ends
    rcases exists_group ends with ⟨final, grouped⟩
    exact ⟨final, group_eq_ok_iff.mp grouped⟩
  case endless =>
    constructor
    · intro endless ends
      rcases exists_group ends with ⟨final, grouped⟩
      exact absurd (grouped.symm.trans endless) nofun
    · intro never
      cases result : group size separator text with
      | ok final => exact absurd (fits_or_settles_of_reaches (group_eq_ok_iff.mp result)) never
      | error fault => rw [groupWithin_eq_error result]

/-- A zero joins the group behind it, which is then too long again. -/
theorem zero_never_settles :
    ¬∃ final, Reaches 3 ['0'] ['1', '2', '3', '4'] final := by
  rintro ⟨final, reaches⟩
  rcases fits_or_settles_of_reaches reaches with fits | ⟨⟨last, isLast, other⟩, _, _⟩
  · exact absurd fits (by decide)
  · cases isLast
    exact absurd other (by decide)

end Grouping
end Metrology
