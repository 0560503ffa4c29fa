import Mathlib
import Metrology.Expression.Lexer
import Metrology.Proofs.Text.Composition

/-!
Runs of characters. The lexer cuts a text into separators, operators, names and numbers, and
takes each of the last two for as long as it goes on. So a text can be gone through run by run,
until it ends or a stray character stands where nothing can start.
-/

namespace Metrology

/-! ## Classes of runs -/

/-- Runs by what they start with and what they go on with. -/
structure RunClass where
  starts : Char → Bool
  continues : Char → Bool

namespace RunClass

def names : RunClass := ⟨isNameStart, isNameContinuation⟩

def numbers : RunClass := ⟨isAsciiDigit, isAsciiDigit⟩

section Runs

variable (runs : RunClass)

def IsRun : List Char → Prop
  | [] => False
  | first :: others => runs.starts first = true ∧ ∀ other ∈ others, runs.continues other = true

/-- Whether a run would stop before a text. -/
def StopsBefore (text : List Char) : Prop := ∀ next ∈ text.head?, runs.continues next = false

/-- Whether no run goes on from one text to the next. -/
def EndsBetween (before after : List Char) : Prop :=
  ∀ run, run <:+ before → runs.IsRun run → runs.StopsBefore after

/-- A run that is part of no longer one. -/
structure IsMaximal (before run after : List Char) : Prop where
  isRun : runs.IsRun run
  alone : ∀ left right, left <:+ before → right <+: after → runs.IsRun (left ++ run ++ right) →
    left = [] ∧ right = []

end Runs

variable {runs : RunClass} {before run after : List Char}

theorem IsRun.ne_nil (isRun : runs.IsRun run) : run ≠ [] := by
  rintro rfl
  exact isRun

theorem IsRun.of_append {front back : List Char} (isRun : runs.IsRun (front ++ back))
    (nonempty : front ≠ []) :
    runs.IsRun front ∧ ∀ character ∈ back, runs.continues character = true := by
  rcases List.exists_cons_of_ne_nil nonempty with ⟨first, others, rfl⟩
  rcases isRun with ⟨starts, continued⟩
  exact ⟨⟨starts, fun other member => continued other (List.mem_append_left back member)⟩,
    fun other member => continued other (List.mem_append_right others member)⟩

theorem StopsBefore.endsBetween (stops : runs.StopsBefore after) (before : List Char) :
    runs.EndsBetween before after := fun _ _ _ => stops

theorem StopsBefore.of_prefix {front : List Char} (stops : runs.StopsBefore after)
    (starts : front <+: after) : runs.StopsBefore front := by
  intro next member
  rcases starts with ⟨back, rfl⟩
  exact stops next (by rw [List.head?_append, Option.mem_def.mp member]; rfl)

theorem endsBetween_nil (after : List Char) : runs.EndsBetween [] after := by
  intro run suffix isRun
  exact absurd (List.suffix_nil.mp suffix) isRun.ne_nil

/-- No run ends with a character that neither starts nor continues one. -/
theorem endsBetween_of_foreign {last : Char} (starts : runs.starts last = false)
    (continues : runs.continues last = false) (before after : List Char) :
    runs.EndsBetween (before ++ [last]) after := by
  intro run suffix isRun
  rcases List.suffix_concat_iff.mp suffix with rfl | ⟨front, rfl, _⟩
  · exact absurd isRun id
  · cases front with
    | nil => simp [isRun.1] at starts
    | cons first others =>
        have continued := isRun.2 last (List.mem_append_right others (List.mem_singleton_self last))
        simp [continued] at continues

/-- A run is maximal if it does not go on behind it, and no run goes on into it. -/
theorem IsRun.isMaximal (isRun : runs.IsRun run) (ends : runs.EndsBetween before (run ++ after))
    (stops : runs.StopsBefore after) : runs.IsMaximal before run after where
  isRun := isRun
  alone := by
    intro left right suffix isPrefix longer
    have nonempty := isRun.ne_nil
    constructor
    · by_contra extended
      rw [List.append_assoc] at longer
      rcases longer.of_append extended with ⟨earlier, continued⟩
      rcases List.exists_cons_of_ne_nil nonempty with ⟨first, others, rfl⟩
      have stopped := ends left suffix earlier first rfl
      simp [continued first (by simp)] at stopped
    · by_contra extended
      rcases List.exists_cons_of_ne_nil extended with ⟨next, others, rfl⟩
      rcases isPrefix with ⟨rest, rfl⟩
      have stopped := stops next rfl
      have continued := (longer.of_append (List.append_ne_nil_of_right_ne_nil left nonempty)).2
      simp [continued next (List.mem_cons_self ..)] at stopped

end RunClass

/-! ## Characters that belong to no name -/

theorem isNameContinuation_of_isNameStart {character : Char}
    (start : isNameStart character = true) : isNameContinuation character = true := by
  rw [isNameContinuation, start, Bool.true_or]

theorem mem_of_isAsciiDigit {digit : Char} (isDigit : isAsciiDigit digit = true) :
    digit ∈ (List.range' 48 10).map Char.ofNat := by
  rw [isAsciiDigit, Bool.and_eq_true, decide_eq_true_eq, decide_eq_true_eq] at isDigit
  exact mem_map_ofNat_range' isDigit.1 (Nat.lt_succ_of_le isDigit.2)

/-- The characters of a text other than those of names. -/
def otherCharacters : List Char :=
  [' ', '\t', '\r', '\n', '*', '/', '+', '-', '^'] ++ (List.range' 48 10).map Char.ofNat

/-- A character that composition leaves alone starts a name if it is a name letter. -/
theorem isNameStart_eq {character : Char} (letter : Composition.IsLetter character.toNat) :
    isNameStart character = isNameLetter character := by
  rw [isNameStart, composed_letters (by simpa using letter)]

theorem isNameStart_of_isNameLetter {letter : Char} (isLetter : isNameLetter letter = true) :
    isNameStart letter = true := by
  rw [isNameStart_eq (Composition.isLetter_of_isNameLetter isLetter), isLetter]

theorem isNameContinuation_of_mem {character : Char} (member : character ∈ otherCharacters) :
    isNameContinuation character = false := by
  have all : otherCharacters.all (fun other => decide (other.toNat < 0xc0) && !isNameLetter other) =
      true := by decide
  have known := List.all_eq_true.mp all character member
  rw [Bool.and_eq_true, decide_eq_true_eq, Bool.not_eq_true'] at known
  rcases known with ⟨low, noLetter⟩
  have inert := Composition.isInert_of_lt low
  rw [isNameContinuation, isNameStart_eq (.inl inert), isCombining, inert.combiningClass, noLetter]
  rfl

theorem notMem_otherCharacters {character : Char} (start : isNameStart character = true) :
    character ∉ otherCharacters := by
  intro other
  have stopped := isNameContinuation_of_mem other
  rw [isNameContinuation_of_isNameStart start] at stopped
  cases stopped

theorem isNameStart_of_isNameContinuation {character : Char}
    (continues : isNameContinuation character = false) : isNameStart character = false := by
  rw [isNameContinuation, Bool.or_eq_false_iff] at continues
  exact continues.1

theorem names_isRun_continues {run : List Char} (isRun : RunClass.names.IsRun run) :
    ∀ character ∈ run, isNameContinuation character = true := by
  cases run with
  | nil => exact absurd isRun id
  | cons first others =>
      exact List.forall_mem_cons.mpr ⟨isNameContinuation_of_isNameStart isRun.1, isRun.2⟩

theorem numbers_isRun_digits {run : List Char} (isRun : RunClass.numbers.IsRun run) :
    ∀ character ∈ run, isAsciiDigit character = true := by
  cases run with
  | nil => exact absurd isRun id
  | cons first others => exact List.forall_mem_cons.mpr isRun

/-- Separators and operators. -/
def signs : List Char := [' ', '\t', '\r', '\n', '*', '/', '+', '-', '^']

theorem isSeparator_iff {character : Char} :
    isSeparator character = true ↔ character ∈ [' ', '\t', '\r', '\n'] := by
  simp [isSeparator, or_assoc]

theorem mem_signs_of_isSeparator {character : Char} (separator : isSeparator character = true) :
    character ∈ signs :=
  List.mem_append_left ['*', '/', '+', '-', '^'] (isSeparator_iff.mp separator)

theorem mem_signs_of_operator? {character : Char} {operator : Lexeme}
    (found : Lexeme.operator? character = some operator) : character ∈ signs := by
  unfold Lexeme.operator? at found
  split at found <;> simp [signs] at found ⊢

theorem foreign_of_notMem_signs {character : Char} (noSign : character ∉ signs) :
    isSeparator character = false ∧ Lexeme.operator? character = none := by
  constructor
  · exact Bool.eq_false_iff.mpr fun separator => noSign (mem_signs_of_isSeparator separator)
  · exact Option.eq_none_iff_forall_ne_some.mpr fun _ found =>
      noSign (mem_signs_of_operator? found)

/-- Separators and operators are part of no run. -/
theorem foreign_of_mem_signs {character : Char} (member : character ∈ signs) :
    isNameContinuation character = false ∧ isAsciiDigit character = false := by
  have noDigits : signs.all (fun sign => !isAsciiDigit sign) = true := by decide
  exact ⟨isNameContinuation_of_mem (List.mem_append_left _ member),
    by simpa using List.all_eq_true.mp noDigits character member⟩

/-- Digits are part of no name, and neither separate nor operate. -/
theorem foreign_of_isAsciiDigit {character : Char} (digit : isAsciiDigit character = true) :
    isNameContinuation character = false ∧ isSeparator character = false ∧
      Lexeme.operator? character = none := by
  have noSign : character ∉ signs := fun member => by
    simp [(foreign_of_mem_signs member).2] at digit
  have other : character ∈ otherCharacters := List.mem_append_right _ (mem_of_isAsciiDigit digit)
  exact ⟨isNameContinuation_of_mem other, foreign_of_notMem_signs noSign⟩

/-- What starts a name separates nothing, operates on nothing and is no digit. -/
theorem other_of_isNameStart {character : Char} (start : isNameStart character = true) :
    isSeparator character = false ∧ Lexeme.operator? character = none ∧
      isAsciiDigit character = false := by
  have noSign : character ∉ signs := fun sign =>
    notMem_otherCharacters start (List.mem_append_left _ sign)
  rcases foreign_of_notMem_signs noSign with ⟨noSeparator, noOperator⟩
  refine ⟨noSeparator, noOperator, Bool.eq_false_iff.mpr fun digit => ?_⟩
  exact notMem_otherCharacters start (List.mem_append_right _ (mem_of_isAsciiDigit digit))

/-- A character that no token starts with. -/
structure IsStray (character : Char) : Prop where
  notSeparator : isSeparator character = false
  notOperator : Lexeme.operator? character = none
  notStart : isNameStart character = false
  notDigit : isAsciiDigit character = false

namespace Lexer

open RunClass

/-! ## Going through a text -/

/-- What holds of a text whenever it holds of what is left behind its first separator, operator,
name or number holds of all texts, as long as it holds where there is none of these. -/
@[elab_as_elim]
theorem run_induction {motive : List Char → Prop} (text : List Char)
    (nil : motive [])
    (separator : ∀ character rest, isSeparator character = true → motive rest →
      motive (character :: rest))
    (operator : ∀ character operator rest, Lexeme.operator? character = some operator →
      motive rest → motive (character :: rest))
    (name : ∀ run rest, names.IsRun run → names.StopsBefore rest → motive rest →
      motive (run ++ rest))
    (number : ∀ run rest, numbers.IsRun run → numbers.StopsBefore rest → motive rest →
      motive (run ++ rest))
    (stray : ∀ character rest, IsStray character → motive (character :: rest)) :
    motive text := by
  induction size : text.length using Nat.strong_induction_on generalizing text with
  | _ size induction =>
      subst size
      cases text with
      | nil => exact nil
      | cons character rest =>
          have divided {runs : RunClass} (starts : runs.starts character = true) :
              runs.IsRun (character :: rest.takeWhile runs.continues) ∧
                runs.StopsBefore (rest.dropWhile runs.continues) ∧
                motive (rest.dropWhile runs.continues) := by
            refine ⟨⟨starts, fun other member => List.mem_takeWhile_imp member⟩, ?_, ?_⟩
            · intro next member
              have stopped := List.head?_dropWhile_not runs.continues rest
              rwa [Option.mem_def.mp member] at stopped
            · exact induction _ (length_dropWhile_lt_length_cons ..) _ rfl
          cases isSeparator : isSeparator character with
          | true => exact separator character rest isSeparator (induction _ (by simp) _ rfl)
          | false =>
              cases found : Lexeme.operator? character with
              | some sign => exact operator character sign rest found (induction _ (by simp) _ rfl)
              | none =>
                  cases start : isNameStart character with
                  | true =>
                      rcases @divided names start with ⟨isRun, stops, others⟩
                      have taken := name _ _ isRun stops others
                      rwa [List.cons_append, List.takeWhile_append_dropWhile] at taken
                  | false =>
                      cases digit : isAsciiDigit character with
                      | true =>
                          rcases @divided numbers digit with ⟨isRun, stops, others⟩
                          have taken := number _ _ isRun stops others
                          rwa [List.cons_append, List.takeWhile_append_dropWhile] at taken
                      | false => exact stray character rest ⟨isSeparator, found, start, digit⟩

/-! ## What the lexer makes of it -/

theorem scan_separator {character : Char} (separator : isSeparator character = true)
    (position : ℕ) (rest : List Char) :
    scan position (character :: rest) = scan (position + 1) rest := by
  rw [scan, if_pos separator]

theorem scan_operator {sign : Char} {operator : Lexeme}
    (found : Lexeme.operator? sign = some operator) (position : ℕ) (rest : List Char) :
    scan position (sign :: rest) =
      (do return ⟨operator, position⟩ :: (← scan (position + 1) rest)) := by
  have noSeparator : isSeparator sign = false := by
    unfold Lexeme.operator? at found
    split at found
    · rfl
    · rfl
    · rfl
    · rfl
    · rfl
    · cases found
  rw [scan]
  simp [noSeparator, found]

theorem takeWhile_of_stopsBefore {runs : RunClass} {others rest : List Char}
    (continued : ∀ other ∈ others, runs.continues other = true) (stops : runs.StopsBefore rest) :
    (others ++ rest).takeWhile runs.continues = others ∧
      (others ++ rest).dropWhile runs.continues = rest := by
  rw [List.takeWhile_append_of_pos continued, List.dropWhile_append_of_pos continued]
  cases rest with
  | nil => simp
  | cons character rest => simp [stops character rfl]

theorem scan_name_run {run rest : List Char} (isRun : names.IsRun run)
    (stops : names.StopsBefore rest) (position : ℕ) :
    scan position (run ++ rest) =
      (do return ⟨.name (String.ofList (composed run)), position⟩ ::
        (← scan (position + run.length) rest)) := by
  rcases List.exists_cons_of_ne_nil isRun.ne_nil with ⟨first, others, rfl⟩
  rcases other_of_isNameStart isRun.1 with ⟨noSeparator, noOperator, _⟩
  have start : isNameStart first = true := isRun.1
  rcases takeWhile_of_stopsBefore isRun.2 stops with ⟨taken, left⟩
  simp only [names] at taken left
  rw [List.cons_append, scan]
  simp [noSeparator, noOperator, start, taken, left]

theorem scan_number_run {run rest : List Char} (isRun : numbers.IsRun run)
    (stops : numbers.StopsBefore rest) (position : ℕ) :
    scan position (run ++ rest) =
      (do
        let value ← readNumber run
        return ⟨.number value, position⟩ :: (← scan (position + run.length) rest)) := by
  rcases List.exists_cons_of_ne_nil isRun.ne_nil with ⟨first, others, rfl⟩
  have digit : isAsciiDigit first = true := isRun.1
  rcases foreign_of_isAsciiDigit digit with ⟨noName, noSeparator, noOperator⟩
  have noStart := isNameStart_of_isNameContinuation noName
  rcases takeWhile_of_stopsBefore isRun.2 stops with ⟨taken, left⟩
  simp only [numbers] at taken left
  rw [List.cons_append, scan]
  simp [noSeparator, noOperator, noStart, digit, taken, left]

theorem scan_stray {character : Char} (stray : IsStray character) (position : ℕ)
    (rest : List Char) : scan position (character :: rest) =
      .error (.badToken (String.singleton character) position) := by
  rw [scan]
  simp [stray.notSeparator, stray.notOperator, stray.notStart, stray.notDigit]

end Lexer

end Metrology
