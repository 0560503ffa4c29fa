import Mathlib
import Metrology.Proofs.Expression.Parsing
import Metrology.Proofs.Expression.Runs
import Metrology.Proofs.Ratio.NameText

/-!
Written expressions are read back. The lexemes of a derivation are written one after
another, with any separators between them or none. No two neighbours are of one kind, so that
no name and no number runs on into the next, and the text parses to the plan of the
derivation, its names composed.
-/

namespace Metrology

open Grammar

/-! ## Written lexemes -/

/-- Names that are words of name letters. -/
structure IsWord (name : String) : Prop where
  nonempty : name.toList ≠ []
  letters : ∀ letter ∈ name.toList, isNameLetter letter = true

theorem isWord_iff {name : String} :
    IsWord name ↔ name.toList ≠ [] ∧ name.toList.all isNameLetter = true := by
  rw [List.all_eq_true]
  exact ⟨fun word => ⟨word.nonempty, word.letters⟩, fun both => ⟨both.1, both.2⟩⟩

instance : DecidablePred IsWord := fun _ => decidable_of_iff _ isWord_iff.symm

/-- Names that are read as one: a character that may start a name, and what goes on with it. -/
structure IsIdentifier (name : String) : Prop where
  nonempty : name.toList ≠ []
  starts : ∀ first ∈ name.toList.head?, isNameStart first = true
  continued : ∀ character ∈ name.toList, isNameContinuation character = true

theorem isIdentifier_of_isNameStart {name : String} (nonempty : name.toList ≠ [])
    (starts : ∀ character ∈ name.toList, isNameStart character = true) : IsIdentifier name where
  nonempty := nonempty
  starts := fun first member => starts first (List.mem_of_mem_head? member)
  continued := fun character member =>
    isNameContinuation_of_isNameStart (starts character member)

theorem IsWord.isIdentifier {name : String} (word : IsWord name) : IsIdentifier name :=
  isIdentifier_of_isNameStart word.nonempty
    fun letter member => isNameStart_of_isNameLetter (word.letters letter member)

theorem IsIdentifier.isRun {name : String} (identifier : IsIdentifier name) :
    RunClass.names.IsRun name.toList := by
  rcases List.exists_cons_of_ne_nil identifier.nonempty with ⟨first, others, spelled⟩
  rw [spelled]
  refine ⟨identifier.starts first (by rw [spelled]; rfl), fun other member => ?_⟩
  exact identifier.continued other (by rw [spelled]; exact List.mem_cons_of_mem first member)

/-- The composed spelling of a name. -/
def composedName (name : String) : String := String.ofList (composed name.toList)

theorem IsWord.composedName_eq {name : String} (word : IsWord name) : composedName name = name := by
  rw [composedName, composed_word word.letters, String.ofList_toList]

namespace Lexeme

def text : Lexeme → List Char
  | name value => value.toList
  | number value => decimalDigits value
  | times => ['*']
  | per => ['/']
  | plus => ['+']
  | minus => ['-']
  | power => ['^']

/-- Lexemes whose text is read back: words, and numbers that are not too long. -/
def IsPrintable : Lexeme → Prop
  | name value => IsWord value
  | number value => (decimalDigits value).length ≤ digitLimit
  | _ => True

instance : DecidablePred IsPrintable
  | name value => inferInstanceAs (Decidable (IsWord value))
  | number value => inferInstanceAs (Decidable ((decimalDigits value).length ≤ digitLimit))
  | times | per | plus | minus | power => .isTrue trivial

/-- Lexemes whose text is read as one lexeme. -/
def IsReadable : Lexeme → Prop
  | name value => IsIdentifier value
  | number value => (decimalDigits value).length ≤ digitLimit
  | _ => True

/-- The lexeme with another spelling of its name. -/
def rename (convert : String → String) : Lexeme → Lexeme
  | name value => name (convert value)
  | other => other

theorem IsPrintable.isReadable {lexeme : Lexeme} (printable : lexeme.IsPrintable) :
    lexeme.IsReadable := by
  cases lexeme with
  | name value => exact IsWord.isIdentifier printable
  | _ => exact printable

theorem IsPrintable.rename_composedName {lexeme : Lexeme} (printable : lexeme.IsPrintable) :
    lexeme.rename composedName = lexeme := by
  cases lexeme with
  | name value => exact congrArg name (IsWord.composedName_eq printable)
  | _ => rfl

/-! ## Where a lexeme ends -/

theorem isAsciiDigit_of_mem_decimalDigits {value : ℕ} {digit : Char}
    (member : digit ∈ decimalDigits value) : isAsciiDigit digit = true := by
  have isDigit := Nat.isDigit_of_mem_toDigits (by decide) (by decide) member
  simpa [Char.isDigit, isAsciiDigit, Char.le_def, UInt32.le_iff_toNat_le] using isDigit

theorem decimalDigits_ne_nil (value : ℕ) : decimalDigits value ≠ [] := Nat.toDigits_ne_nil

theorem isRun_decimalDigits (value : ℕ) : RunClass.numbers.IsRun (decimalDigits value) := by
  have digits : ∀ digit ∈ decimalDigits value, isAsciiDigit digit = true :=
    fun _ => isAsciiDigit_of_mem_decimalDigits
  rcases List.exists_cons_of_ne_nil (decimalDigits_ne_nil value) with ⟨digit, others, spelled⟩
  rw [spelled] at digits ⊢
  exact List.forall_mem_cons.mp digits

/-- Whether no name, or no number, takes in the first character of a text. -/
def Stops (kind : Kind) (rest : List Char) : Prop :=
  ∀ character ∈ rest.head?,
    (kind = .name → isNameContinuation character = false) ∧
      (kind = .number → isAsciiDigit character = false)

theorem stops_nil (kind : Kind) : Stops kind [] := by simp [Stops]

theorem stops_cons {kind : Kind} {character : Char}
    (noLetter : kind = .name → isNameContinuation character = false)
    (noDigit : kind = .number → isAsciiDigit character = false) (rest : List Char) :
    Stops kind (character :: rest) := by
  simpa [Stops] using ⟨noLetter, noDigit⟩

/-- A lexeme of one kind ends where a lexeme of another kind begins. -/
theorem stops_text {lexeme : Lexeme} (readable : lexeme.IsReadable) {kind : Kind}
    (different : kind ≠ lexeme.kind) (rest : List Char) : Stops kind (lexeme.text ++ rest) := by
  have operator {sign : Char} (member : sign ∈ signs) : Stops kind (sign :: rest) :=
    stops_cons (fun _ => (foreign_of_mem_signs member).1) (fun _ => (foreign_of_mem_signs member).2)
      rest
  cases lexeme with
  | name value =>
      rcases List.exists_cons_of_ne_nil readable.nonempty with ⟨first, others, spelled⟩
      have start := readable.starts first (by rw [spelled]; rfl)
      rw [text, spelled]
      exact stops_cons (fun same => absurd same different)
        (fun _ => (other_of_isNameStart start).2.2) _
  | number value =>
      rcases List.exists_cons_of_ne_nil (decimalDigits_ne_nil value) with
        ⟨digit, others, spelled⟩
      have member : digit ∈ decimalDigits value := by rw [spelled]; exact List.mem_cons_self ..
      have isDigit := isAsciiDigit_of_mem_decimalDigits member
      rw [text, spelled]
      exact stops_cons (fun _ => (foreign_of_isAsciiDigit isDigit).1)
        (fun same => absurd same different) _
  | times => exact operator (by decide)
  | per => exact operator (by decide)
  | plus => exact operator (by decide)
  | minus => exact operator (by decide)
  | power => exact operator (by decide)

end Lexeme

/-! ## Reading what was written -/

namespace Lexer

open Lexeme

theorem scan_name {name : String} (identifier : IsIdentifier name) {rest : List Char}
    (stops : Stops .name rest) (position : ℕ) :
    scan position (name.toList ++ rest) =
      (do return ⟨.name (composedName name), position⟩ ::
        (← scan (position + name.toList.length) rest)) :=
  scan_name_run identifier.isRun (fun next member => (stops next member).1 rfl) position

theorem scan_number {value : ℕ} (short : (decimalDigits value).length ≤ digitLimit)
    {rest : List Char} (stops : Stops .number rest) (position : ℕ) :
    scan position (decimalDigits value ++ rest) =
      (do return ⟨.number value, position⟩ ::
        (← scan (position + (decimalDigits value).length) rest)) := by
  have read : readNumber (decimalDigits value) = .ok value := by
    rw [readNumber, if_neg (by omega), ofDecimalDigits_decimalDigits]
  rw [scan_number_run (isRun_decimalDigits value) (fun next member => (stops next member).2 rfl),
    read]
  rfl

theorem scan_separators {gap : List Char}
    (separates : ∀ character ∈ gap, isSeparator character = true) (position : ℕ)
    (rest : List Char) : scan position (gap ++ rest) = scan (position + gap.length) rest := by
  induction gap generalizing position with
  | nil => rfl
  | cons character gap induction =>
      have following := induction fun other member =>
        separates other (List.mem_cons_of_mem character member)
      rw [List.cons_append, scan, if_pos (separates character (List.mem_cons_self ..)),
        following, List.length_cons, add_assoc, add_comm 1]

/-- Lexemes one after another, with separators in front of each and behind the last. -/
inductive Spaced : List Lexeme → List Char → Prop
  | nil {gap : List Char} (separates : ∀ character ∈ gap, isSeparator character = true) :
      Spaced [] gap
  | cons {gap : List Char} (separates : ∀ character ∈ gap, isSeparator character = true)
      (lexeme : Lexeme) {written : List Lexeme} {rest : List Char} (spaced : Spaced written rest) :
      Spaced (lexeme :: written) (gap ++ (lexeme.text ++ rest))

theorem spaced_flatMap_text (written : List Lexeme) :
    Spaced written (written.flatMap Lexeme.text) := by
  have blank : ∀ character ∈ ([] : List Char), isSeparator character = true := by simp
  induction written with
  | nil => exact .nil blank
  | cons lexeme others induction => exact .cons blank lexeme induction

theorem stops_separator {gap : List Char}
    (separates : ∀ character ∈ gap, isSeparator character = true) (nonempty : gap ≠ [])
    (kind : Kind) (rest : List Char) : Stops kind (gap ++ rest) := by
  rcases List.exists_cons_of_ne_nil nonempty with ⟨character, others, rfl⟩
  have neither := foreign_of_mem_signs
    (mem_signs_of_isSeparator (separates character (List.mem_cons_self ..)))
  exact stops_cons (fun _ => neither.1) (fun _ => neither.2) _

/-- A lexeme ends before separators as well as before a lexeme of another kind. -/
theorem Spaced.stops {written : List Lexeme} {text : List Char} (spaced : Spaced written text)
    (readable : ∀ lexeme ∈ written, lexeme.IsReadable) {kind : Kind}
    (differs : ∀ next ∈ written.head?, kind ≠ next.kind) : Stops kind text := by
  cases spaced with
  | nil separates =>
      by_cases blank : text = []
      · rw [blank]
        exact stops_nil kind
      · rw [← List.append_nil text]
        exact stops_separator separates blank kind []
  | @cons gap separates lexeme others rest spaced =>
      by_cases blank : gap = []
      · rw [blank]
        exact stops_text (readable lexeme (List.mem_cons_self ..)) (differs lexeme rfl) rest
      · exact stops_separator separates blank kind _

/-- Lexemes whose neighbours are of different kinds are read as they are written, with their
names composed. -/
theorem scan_spaced {written : List Lexeme} {text : List Char} (spaced : Spaced written text)
    (readable : ∀ lexeme ∈ written, lexeme.IsReadable)
    (alternating : written.IsChain fun first second => first.kind ≠ second.kind) (position : ℕ) :
    ∃ tokens, scan position text = .ok tokens ∧
      Parser.lexemes tokens = written.map (Lexeme.rename composedName) := by
  induction spaced generalizing position with
  | @nil gap separates =>
      have passed := scan_separators separates position []
      rw [List.append_nil, scan] at passed
      exact ⟨[], passed, rfl⟩
  | @cons gap separates lexeme others rest spaced induction =>
      rcases List.isChain_cons.mp alternating with ⟨differs, alternatingOthers⟩
      have readableOthers : ∀ other ∈ others, other.IsReadable :=
        fun other member => readable other (List.mem_cons_of_mem _ member)
      have stops : Stops lexeme.kind rest := spaced.stops readableOthers differs
      have scanned (position : ℕ) : ∃ width, scan position (lexeme.text ++ rest) =
          (do return ⟨lexeme.rename composedName, position⟩ ::
            (← scan (position + width) rest)) := by
        have first := readable lexeme (List.mem_cons_self ..)
        cases lexeme with
        | name value => exact ⟨_, scan_name first stops position⟩
        | number value => exact ⟨_, scan_number first stops position⟩
        | times => exact ⟨_, scan_operator rfl position _⟩
        | per => exact ⟨_, scan_operator rfl position _⟩
        | plus => exact ⟨_, scan_operator rfl position _⟩
        | minus => exact ⟨_, scan_operator rfl position _⟩
        | power => exact ⟨_, scan_operator rfl position _⟩
      rcases scanned (position + gap.length) with ⟨width, scanned⟩
      rcases induction readableOthers alternatingOthers (position + gap.length + width) with
        ⟨tokens, scannedOthers, read⟩
      refine ⟨⟨lexeme.rename composedName, position + gap.length⟩ :: tokens, ?_,
        congrArg (lexeme.rename composedName :: ·) read⟩
      rw [scan_separators separates, scanned, scannedOthers]
      rfl

end Lexer

/-! ## Derivations -/

namespace Grammar.Tree

variable {nonterminal : Nonterminal}

/-- No derivation begins with what may follow one. -/
theorem exists_head_lexemes (tree : Tree nonterminal) :
    ∃ first, tree.lexemes.head? = some first ∧ first.kind ∉ [Kind.times, .per, .power] := by
  induction tree with
  | quotient dividend divisor induction _ =>
      rcases induction with ⟨first, head, kind⟩
      exact ⟨first, by simp [lexemes, head], kind⟩
  | terms whole induction => exact induction
  | product factor others induction _ =>
      rcases induction with ⟨first, head, kind⟩
      exact ⟨first, by simp [lexemes, head], kind⟩
  | single factor induction => exact induction
  | _ => exact ⟨_, rfl, by simp [Lexeme.kind]⟩

/-- Every derivation ends in a name or a number. -/
theorem exists_getLast_lexemes (tree : Tree nonterminal) :
    ∃ last, tree.lexemes.getLast? = some last ∧ last.kind ∈ [Kind.name, .number] := by
  induction tree with
  | quotient dividend divisor _ induction =>
      rcases induction with ⟨last, ending, kind⟩
      exact ⟨last, by simp [lexemes, List.getLast?_cons, ending], kind⟩
  | terms whole induction => exact induction
  | product factor others _ induction =>
      rcases induction with ⟨last, ending, kind⟩
      exact ⟨last, by simp [lexemes, List.getLast?_cons, ending], kind⟩
  | single factor induction => exact induction
  | power base exponent induction =>
      rcases induction with ⟨last, ending, kind⟩
      exact ⟨last, by simp [lexemes, List.getLast?_cons, ending], kind⟩
  | _ => exact ⟨_, rfl, by simp [Lexeme.kind]⟩

/-- Lexemes whose neighbours are of different kinds. -/
def Alternating (written : List Lexeme) : Prop :=
  written.IsChain fun first second => first.kind ≠ second.kind

theorem alternating_separated {outer inner : Nonterminal} (left : Tree outer) (right : Tree inner)
    (alternatingLeft : Alternating left.lexemes) (alternatingRight : Alternating right.lexemes)
    {separator : Lexeme} (separates : separator.kind ∈ [Kind.times, .per]) :
    Alternating (left.lexemes ++ separator :: right.lexemes) := by
  rcases left.exists_getLast_lexemes with ⟨last, ending, lastKind⟩
  rcases right.exists_head_lexemes with ⟨first, head, firstKind⟩
  rw [Alternating, List.isChain_append, List.isChain_cons]
  refine ⟨alternatingLeft, ⟨?_, alternatingRight⟩, ?_⟩
  · intro next member
    cases head.symm.trans member
    have subset : [Kind.times, .per] ⊆ [.times, .per, .power] := by decide
    exact fun same => firstKind (same ▸ subset separates)
  · intro before beforeMember next member
    cases ending.symm.trans beforeMember
    cases member
    have disjoint : ∀ kind ∈ [Kind.times, .per], kind ∉ [Kind.name, .number] := by decide
    exact fun same => disjoint _ separates (same ▸ lastKind)

theorem alternating_lexemes (tree : Tree nonterminal) : Alternating tree.lexemes := by
  induction tree with
  | quotient dividend divisor inductionDividend inductionDivisor =>
      exact alternating_separated dividend divisor inductionDividend inductionDivisor (by decide)
  | terms whole induction => exact induction
  | product factor others inductionFactor inductionOthers =>
      exact alternating_separated factor others inductionFactor inductionOthers (by decide)
  | single factor induction => exact induction
  | power base exponent induction =>
      rcases exponent.exists_head_lexemes with ⟨first, head, firstKind⟩
      rw [Alternating, lexemes, List.isChain_cons, List.isChain_cons]
      refine ⟨by simp [Lexeme.kind], ?_, induction⟩
      intro next member
      cases head.symm.trans member
      exact fun same => firstKind (same ▸ by decide)
  | _ => simp [Alternating, lexemes, Lexeme.kind]

/-- The derivation with another spelling of its names. -/
def rename (convert : String → String) {nonterminal : Nonterminal} :
    Tree nonterminal → Tree nonterminal
  | quotient dividend divisor => quotient (dividend.rename convert) (divisor.rename convert)
  | terms whole => terms (whole.rename convert)
  | product first others => product (first.rename convert) (others.rename convert)
  | single factor => single (factor.rename convert)
  | power base exponent => power (convert base) exponent
  | name symbol => name (convert symbol)
  | positive value => positive value
  | negative value => negative value
  | unsigned value => unsigned value

theorem lexemes_rename (convert : String → String) (tree : Tree nonterminal) :
    (tree.rename convert).lexemes = tree.lexemes.map (Lexeme.rename convert) := by
  induction tree with
  | quotient dividend divisor inductionDividend inductionDivisor =>
      simp [rename, lexemes, inductionDividend, inductionDivisor, Lexeme.rename]
  | terms whole induction => simpa [rename, lexemes] using induction
  | product first others inductionFirst inductionOthers =>
      simp [rename, lexemes, inductionFirst, inductionOthers, Lexeme.rename]
  | single factor induction => simpa [rename, lexemes] using induction
  | power base exponent _ =>
      cases exponent with
      | _ => simp [rename, lexemes, Lexeme.rename]
  | _ => simp [rename, lexemes, Lexeme.rename]

theorem rename_composedName {tree : Tree nonterminal}
    (printable : ∀ lexeme ∈ tree.lexemes, lexeme.IsPrintable) :
    tree.rename composedName = tree := by
  have kept : tree.lexemes.map (Lexeme.rename composedName) = tree.lexemes.map id :=
    List.map_congr_left fun lexeme member => (printable lexeme member).rename_composedName
  apply eq_of_lexemes_eq
  rw [lexemes_rename, kept, List.map_id]

/-- What is written for a derivation, with any separators, parses to its plan, with all names
composed. -/
theorem ofText_of_spaced (tree : Tree .expression)
    (readable : ∀ lexeme ∈ tree.lexemes, lexeme.IsReadable) {written : String}
    (spaced : Lexer.Spaced tree.lexemes written.toList) :
    Plan.ofText written = .ok (tree.rename composedName).meaning := by
  rcases Lexer.scan_spaced spaced readable tree.alternating_lexemes 0 with ⟨tokens, scanned, read⟩
  rw [Plan.ofText, tokenize, scanned, Result.ok_bind]
  apply (Parser.parse_eq_ok_iff _ tokens _).mpr
  exact ⟨tree.rename composedName, by rw [lexemes_rename, read], rfl⟩

/-- The text of a derivation. -/
def text (tree : Tree nonterminal) : List Char := tree.lexemes.flatMap Lexeme.text

/-- What is written for a derivation parses to its plan. -/
theorem ofText_eq (tree : Tree .expression)
    (printable : ∀ lexeme ∈ tree.lexemes, lexeme.IsPrintable) {written : String}
    (text : written.toList = tree.text) : Plan.ofText written = .ok tree.meaning := by
  have spaced : Lexer.Spaced tree.lexemes written.toList := by
    rw [text]
    exact Lexer.spaced_flatMap_text tree.lexemes
  rw [tree.ofText_of_spaced (fun lexeme member => (printable lexeme member).isReadable) spaced,
    rename_composedName printable]

end Grammar.Tree

end Metrology
