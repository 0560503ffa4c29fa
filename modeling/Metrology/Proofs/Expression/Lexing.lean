import Mathlib
import Metrology.Proofs.Expression.Runs

/-!
Lexing loses nothing. The tokens of a text stand for spans of it that follow one another, and
between them there are separators only; each name and each number takes in all that it can. A
text that cannot be cut up in this way is refused at its first stray character.
-/

namespace Metrology

open RunClass

/-! ## Spans -/

/-- A token with the characters that it stands for. -/
structure Span where
  token : Token
  characters : List Char

/-- The number that decimal digits are written for. -/
def decimalValue (digits : List Char) : ℕ :=
  Nat.ofDigits 10 (digits.reverse.map fun digit => digit.toNat - '0'.toNat)

theorem ofDecimalDigits_eq_decimalValue (digits : List Char) :
    ofDecimalDigits digits = decimalValue digits := by
  induction digits using List.reverseRecOn with
  | nil => rfl
  | append_singleton digits last induction =>
      rw [decimalValue, List.reverse_append, List.reverse_singleton, List.singleton_append,
        List.map_cons, Nat.ofDigits_cons, ← decimalValue, ← induction]
      simp [ofDecimalDigits, Nat.ofDigitChars, add_comm]

/-- What a lexeme is read from between two parts of a text. -/
def Lexeme.IsReadFrom (before run after : List Char) : Lexeme → Prop
  | .name value => names.IsMaximal before run after ∧ value.toList = composed run
  | .number value => numbers.IsMaximal before run after ∧ value = decimalValue run
  | operator => ∃ sign, run = [sign] ∧ Lexeme.operator? sign = some operator

namespace Span

def start (span : Span) : ℕ := span.token.position

def stop (span : Span) : ℕ := span.token.position + span.characters.length

/-- A span that stands where its token says, and is what its lexeme is read from. -/
def IsIn (text : List Char) (span : Span) : Prop :=
  ∃ before after, text = before ++ span.characters ++ after ∧ span.start = before.length ∧
    span.token.lexeme.IsReadFrom before span.characters after

end Span

/-- Spans that make up a text from some place on, separators apart. -/
structure IsSegmentation (text : List Char) (place : ℕ) (spans : List Span) : Prop where
  isIn : ∀ span ∈ spans, span.IsIn text ∧ place ≤ span.start
  apart : spans.Pairwise fun first second =>
    first.start < second.start ∧ first.stop ≤ second.start
  covers : ∀ index character, text[index]? = some character → place ≤ index →
    (character ∉ [' ', '\t', '\r', '\n'] ↔
      ∃ span ∈ spans, span.start ≤ index ∧ index < span.stop)

namespace IsSegmentation

theorem nil (text : List Char) : IsSegmentation text text.length [] where
  isIn := by simp
  apart := .nil
  covers := by
    intro index character found behind
    rcases List.getElem?_eq_some_iff.mp found with ⟨within, _⟩
    omega

variable {before rest : List Char} {spans : List Span}

theorem skip {separator : Char} (separates : isSeparator separator = true)
    (others : IsSegmentation (before ++ separator :: rest) (before.length + 1) spans) :
    IsSegmentation (before ++ separator :: rest) before.length spans where
  isIn := by
    intro span member
    rcases others.isIn span member with ⟨isIn, behind⟩
    exact ⟨isIn, by omega⟩
  apart := others.apart
  covers := by
    intro index character found behind
    rcases Nat.eq_or_lt_of_le behind with rfl | later
    · -- The separator itself is in no span.
      have same : character = separator := by simpa using found.symm
      refine ⟨fun unlisted => absurd (isSeparator_iff.mp (same ▸ separates)) unlisted, ?_⟩
      rintro ⟨span, member, low, _⟩
      have ahead := (others.isIn span member).2
      omega
    · exact others.covers index character found later

theorem cons {run : List Char} {token : Token} (placed : token.position = before.length)
    (nonempty : run ≠ []) (solid : ∀ character ∈ run, isSeparator character = false)
    (read : token.lexeme.IsReadFrom before run rest)
    (others : IsSegmentation (before ++ (run ++ rest)) (before.length + run.length) spans) :
    IsSegmentation (before ++ (run ++ rest)) before.length (⟨token, run⟩ :: spans) where
  isIn := by
    intro span member
    rcases List.mem_cons.mp member with rfl | later
    · exact ⟨⟨before, rest, by simp, placed, read⟩, placed.ge⟩
    · rcases others.isIn span later with ⟨isIn, behind⟩
      exact ⟨isIn, by omega⟩
  apart := by
    refine List.pairwise_cons.mpr ⟨fun span member => ?_, others.apart⟩
    have behind := (others.isIn span member).2
    have positive := List.length_pos_iff.mpr nonempty
    simp only [Span.start, Span.stop] at behind ⊢
    omega
  covers := by
    intro index character found behind
    by_cases within : index < before.length + run.length
    · have member : character ∈ run := by
        rw [List.getElem?_append_right behind, List.getElem?_append_left (by omega)] at found
        exact List.mem_of_getElem? found
      have unlisted : character ∉ [' ', '\t', '\r', '\n'] :=
        mt isSeparator_iff.mpr (Bool.eq_false_iff.mp (solid character member))
      have covered : (Span.mk token run).start ≤ index ∧ index < (Span.mk token run).stop := by
        simp only [Span.start, Span.stop]
        omega
      exact iff_of_true unlisted ⟨_, List.mem_cons_self .., covered⟩
    · rw [others.covers index character found (by omega)]
      constructor
      · rintro ⟨span, member, covered⟩
        exact ⟨span, List.mem_cons_of_mem _ member, covered⟩
      · rintro ⟨span, member, low, high⟩
        rcases List.mem_cons.mp member with rfl | later
        · simp only [Span.stop] at high
          omega
        · exact ⟨span, later, low, high⟩

end IsSegmentation

/-! ## Borders -/

/-- Two parts of a text between which no name and no number goes on. -/
structure IsBorder (before after : List Char) : Prop where
  name : names.EndsBetween before after
  number : numbers.EndsBetween before after

theorem isBorder_nil (after : List Char) : IsBorder [] after :=
  ⟨endsBetween_nil after, endsBetween_nil after⟩

theorem isBorder_of_mem_signs {sign : Char} (member : sign ∈ signs) (before after : List Char) :
    IsBorder (before ++ [sign]) after := by
  rcases foreign_of_mem_signs member with ⟨noName, noDigit⟩
  exact ⟨endsBetween_of_foreign (isNameStart_of_isNameContinuation noName) noName before after,
    endsBetween_of_foreign noDigit noDigit before after⟩

section Runs

variable {run rest : List Char}

theorem isBorder_of_names_isRun (isRun : names.IsRun run) (stops : names.StopsBefore rest)
    (before : List Char) : IsBorder (before ++ run) rest := by
  refine ⟨stops.endsBetween _, ?_⟩
  rcases List.eq_nil_or_concat' run with rfl | ⟨front, last, rfl⟩
  · exact absurd isRun id
  · have noDigit : isAsciiDigit last = false := by
      have continued := names_isRun_continues isRun last (by simp)
      by_contra digit
      simp [(foreign_of_isAsciiDigit (Bool.not_eq_false _ ▸ digit)).1] at continued
    rw [← List.append_assoc]
    exact endsBetween_of_foreign noDigit noDigit _ rest

theorem isBorder_of_numbers_isRun (isRun : numbers.IsRun run) (stops : numbers.StopsBefore rest)
    (before : List Char) : IsBorder (before ++ run) rest := by
  refine ⟨?_, stops.endsBetween _⟩
  rcases List.eq_nil_or_concat' run with rfl | ⟨front, last, rfl⟩
  · exact absurd isRun id
  · have noName := (foreign_of_isAsciiDigit (numbers_isRun_digits isRun last (by simp))).1
    rw [← List.append_assoc]
    exact endsBetween_of_foreign (isNameStart_of_isNameContinuation noName) noName _ rest

end Runs

namespace Lexer

/-! ## What is read -/

theorem isSeparator_of_isNameContinuation {character : Char}
    (continues : isNameContinuation character = true) : isSeparator character = false := by
  by_contra separator
  have sign := mem_signs_of_isSeparator (Bool.not_eq_false _ ▸ separator)
  simp [(foreign_of_mem_signs sign).1] at continues

theorem isReadFrom_of_operator? {sign : Char} {operator : Lexeme}
    (found : Lexeme.operator? sign = some operator) (before after : List Char) :
    operator.IsReadFrom before [sign] after ∧ isSeparator sign = false := by
  unfold Lexeme.operator? at found
  split at found
  all_goals first
    | cases found; exact ⟨⟨_, rfl, rfl⟩, rfl⟩
    | cases found

/-- The tokens of a text behind a border are those of spans that make it up. -/
theorem exists_segmentation_of_scan {text : List Char} : ∀ {before : List Char}
    {tokens : List Token}, IsBorder before text → scan before.length text = .ok tokens →
      ∃ spans, spans.map Span.token = tokens ∧
        IsSegmentation (before ++ text) before.length spans := by
  induction text using run_induction with
  | nil =>
      intro before tokens _ scanned
      rw [scan] at scanned
      cases scanned
      exact ⟨[], rfl, by simpa using IsSegmentation.nil before⟩
  | separator character rest separates induction =>
      intro before tokens _ scanned
      rw [scan_separator separates] at scanned
      have border := isBorder_of_mem_signs (mem_signs_of_isSeparator separates) before rest
      rcases @induction (before ++ [character]) tokens border (by simpa using scanned) with
        ⟨spans, same, segmented⟩
      refine ⟨spans, same, .skip separates ?_⟩
      simpa using segmented
  | operator character operator rest found induction =>
      intro before tokens _ scanned
      rw [scan_operator found] at scanned
      rcases Result.bind_eq_ok.mp scanned with ⟨others, scannedRest, joined⟩
      cases joined
      have border := isBorder_of_mem_signs (mem_signs_of_operator? found) before rest
      rcases @induction (before ++ [character]) others border (by simpa using scannedRest) with
        ⟨spans, rfl, segmented⟩
      rcases isReadFrom_of_operator? found before rest with ⟨read, solid⟩
      refine ⟨⟨⟨operator, before.length⟩, [character]⟩ :: spans, rfl, ?_⟩
      refine .cons rfl (List.cons_ne_nil _ _) (List.forall_mem_singleton.mpr solid) read ?_
      simpa using segmented
  | name run rest isRun stops induction =>
      intro before tokens border scanned
      rw [scan_name_run isRun stops] at scanned
      rcases Result.bind_eq_ok.mp scanned with ⟨others, scannedRest, joined⟩
      cases joined
      rcases @induction (before ++ run) others (isBorder_of_names_isRun isRun stops before)
        (by simpa using scannedRest) with ⟨spans, rfl, segmented⟩
      refine ⟨⟨⟨.name (String.ofList (composed run)), before.length⟩, run⟩ :: spans, rfl, ?_⟩
      refine .cons rfl isRun.ne_nil ?_ ⟨isRun.isMaximal border.name stops, String.toList_ofList⟩ ?_
      · exact fun character member =>
          isSeparator_of_isNameContinuation (names_isRun_continues isRun character member)
      · simpa using segmented
  | number run rest isRun stops induction =>
      intro before tokens border scanned
      rw [scan_number_run isRun stops] at scanned
      rcases Result.bind_eq_ok.mp scanned with ⟨value, valueRead, scannedOn⟩
      rcases Result.bind_eq_ok.mp scannedOn with ⟨others, scannedRest, joined⟩
      cases joined
      rcases @induction (before ++ run) others (isBorder_of_numbers_isRun isRun stops before)
        (by simpa using scannedRest) with ⟨spans, rfl, segmented⟩
      have same : value = decimalValue run := by
        rw [readNumber] at valueRead
        split at valueRead <;> cases valueRead
        exact ofDecimalDigits_eq_decimalValue run
      refine ⟨⟨⟨.number value, before.length⟩, run⟩ :: spans, rfl, ?_⟩
      refine .cons rfl isRun.ne_nil ?_ ⟨isRun.isMaximal border.number stops, same⟩ ?_
      · exact fun character member =>
          (foreign_of_isAsciiDigit (numbers_isRun_digits isRun character member)).2.1
      · simpa using segmented
  | stray character rest stray =>
      intro before tokens _ scanned
      rw [scan_stray stray] at scanned
      cases scanned

/-! ## What is refused -/

/-- A text that is read up to a stray character, which is no mark of a name before it. -/
structure IsRefused (before text front : List Char) (character : Char) : Prop where
  divided : front ++ [character] <+: text
  read : ∃ tokens, scan before.length front = .ok tokens
  stray : IsStray character
  ends : names.EndsBetween (before ++ front) [character]
  failed : scan before.length text =
    .error (.badToken (String.singleton character) (before.length + front.length))

/-- A text that is read, or refused at a stray character. -/
def IsDecided (before text : List Char) : Prop :=
  (∃ tokens, scan before.length text = .ok tokens) ∨
    ∃ front character, IsRefused before text front character

/-- What is read first, whatever part of the rest follows it, decides nothing. -/
theorem IsDecided.append {before rest : List Char} (run : List Char)
    (reads : ∀ tail, tail <+: rest → ∃ tokens : List Token,
      scan before.length (run ++ tail) =
        (do return tokens ++ (← scan (before ++ run).length tail)))
    (others : IsDecided (before ++ run) rest) : IsDecided before (run ++ rest) := by
  rcases reads rest (List.prefix_refl rest) with ⟨tokens, scanned⟩
  rcases others with ⟨final, scannedRest⟩ | ⟨front, character, refused⟩
  · exact .inl ⟨tokens ++ final, by rw [scanned, scannedRest]; rfl⟩
  · rcases refused.read with ⟨final, scannedFront⟩
    have starts : front <+: rest := (List.prefix_append front [character]).trans refused.divided
    rcases reads front starts with ⟨firstTokens, scannedFirst⟩
    refine .inr ⟨run ++ front, character, ?_, ?_, refused.stray, ?_, ?_⟩
    · rw [List.append_assoc]
      exact (List.prefix_append_right_inj run).mpr refused.divided
    · exact ⟨firstTokens ++ final, by rw [scannedFirst, scannedFront]; rfl⟩
    · rw [← List.append_assoc]
      exact refused.ends
    · rw [scanned, refused.failed, List.length_append, List.length_append, add_assoc]
      rfl

/-- Behind a border every text is read, or refused at a stray character, as long as no number is
too long. -/
theorem isDecided_of_isBorder {text : List Char} : ∀ {before : List Char}, IsBorder before text →
    (∀ left run right, before ++ text = left ++ run ++ right → numbers.IsMaximal left run right →
      run.length ≤ digitLimit) → IsDecided before text := by
  induction text using run_induction with
  | nil => exact fun _ _ => .inl ⟨[], by rw [scan]⟩
  | separator character rest separates induction =>
      intro before _ short
      refine .append [character] (fun tail _ => ⟨[], ?_⟩) (induction ?_ ?_)
      · simp [scan_separator separates]
      · exact isBorder_of_mem_signs (mem_signs_of_isSeparator separates) before rest
      · simpa using short
  | operator character operator rest found induction =>
      intro before _ short
      refine .append [character] (fun tail _ => ⟨[⟨operator, before.length⟩], ?_⟩)
        (induction ?_ ?_)
      · simp [scan_operator found]
      · exact isBorder_of_mem_signs (mem_signs_of_operator? found) before rest
      · simpa using short
  | name run rest isRun stops induction =>
      intro before _ short
      refine .append run
        (fun tail starts => ⟨[⟨.name (String.ofList (composed run)), before.length⟩], ?_⟩)
        (induction ?_ ?_)
      · simp [scan_name_run isRun (stops.of_prefix starts)]
      · exact isBorder_of_names_isRun isRun stops before
      · simpa using short
  | number run rest isRun stops induction =>
      intro before border short
      have fits := short before run rest (by simp) (isRun.isMaximal border.number stops)
      have value : readNumber run = .ok (ofDecimalDigits run) := if_neg (not_lt.mpr fits)
      refine .append run (fun tail starts => ⟨[⟨.number (ofDecimalDigits run), before.length⟩], ?_⟩)
        (induction ?_ ?_)
      · simp [scan_number_run isRun (stops.of_prefix starts), value]
      · exact isBorder_of_numbers_isRun isRun stops before
      · simpa using short
  | stray character rest stray =>
      intro before border _
      refine .inr ⟨[], character, ⟨rest, rfl⟩, ⟨[], by rw [scan]⟩, stray, ?_, ?_⟩
      · rw [List.append_nil]
        exact border.name
      · exact scan_stray stray _ rest

end Lexer

/-! ## Whole texts -/

/-- A text is cut up without loss, or refused at its first stray character. Where no number is too
long, the tokens are those of spans that make the text up, separators apart; or else the text
before some character is read, and the character is no separator, operator, digit or start of a
name, nor a mark that would continue a name before it. -/
theorem tokenize_lossless (text : String)
    (short : ∀ before run after, text.toList = before ++ run ++ after →
      numbers.IsMaximal before run after → run.length ≤ digitLimit) :
    (∃ tokens spans, tokenize text = .ok tokens ∧ spans.map Span.token = tokens ∧
        IsSegmentation text.toList 0 spans) ∨
      ∃ before character after, text.toList = before ++ character :: after ∧
        tokenize text = .error (.badToken (String.singleton character) before.length) ∧
        (∃ tokens, tokenize (String.ofList before) = .ok tokens) ∧
        character ∉ [' ', '\t', '\r', '\n'] ∧ Lexeme.operator? character = none ∧
        isAsciiDigit character = false ∧ isNameStart character = false ∧
        ∀ run, run <:+ before → names.IsRun run → isCombining character = false := by
  rcases Lexer.isDecided_of_isBorder (isBorder_nil text.toList) short with
    ⟨tokens, scanned⟩ | ⟨before, character, refused⟩
  · rcases Lexer.exists_segmentation_of_scan (isBorder_nil text.toList) scanned with
      ⟨spans, same, segmented⟩
    exact .inl ⟨tokens, spans, scanned, same, segmented⟩
  · rcases refused.divided with ⟨after, divided⟩
    rcases refused.read with ⟨tokens, read⟩
    refine .inr ⟨before, character, after, ?_, ?_, ⟨tokens, ?_⟩, ?_, refused.stray.notOperator,
      refused.stray.notDigit, refused.stray.notStart, ?_⟩
    · rw [← divided, List.append_assoc, List.singleton_append]
    · rw [tokenize]
      simpa using refused.failed
    · rwa [tokenize, String.toList_ofList]
    · exact mt isSeparator_iff.mpr (Bool.eq_false_iff.mp refused.stray.notSeparator)
    · intro run suffix isRun
      have stopped : isNameContinuation character = false :=
        refused.ends run suffix isRun character rfl
      rw [isNameContinuation, Bool.or_eq_false_iff] at stopped
      exact stopped.2

/-- A speed squared is cut up into five spans, and with a middle dot a text is read up to the
dot. -/
theorem tokenize_lossless_short_texts :
    (∃ spans, spans.map Span.token =
        [⟨.name "m", 0⟩, ⟨.per, 2⟩, ⟨.name "s", 4⟩, ⟨.power, 5⟩, ⟨.number 2, 6⟩] ∧
      IsSegmentation "m / s^2".toList 0 spans) ∧
    ∃ before after, "m·s".toList = before ++ '·' :: after ∧
      tokenize "m·s" = .error (.badToken "·" before.length) ∧
      ∃ tokens, tokenize (String.ofList before) = .ok tokens := by
  have short (text : String) (few : text.toList.length ≤ digitLimit) (before run after : List Char)
      (divided : text.toList = before ++ run ++ after) : run.length ≤ digitLimit := by
    rw [divided, List.length_append, List.length_append] at few
    omega
  have read : tokenize "m / s^2" =
      .ok [⟨.name "m", 0⟩, ⟨.per, 2⟩, ⟨.name "s", 4⟩, ⟨.power, 5⟩, ⟨.number 2, 6⟩] := by
    decide +kernel
  have refused : tokenize "m·s" = .error (.badToken "·" 1) := by decide +kernel
  constructor
  · rcases tokenize_lossless "m / s^2" (fun before run after divided _ =>
      short "m / s^2" (by decide) before run after divided) with
      ⟨tokens, spans, tokenized, same, segmented⟩ | ⟨before, character, after, _, failed, _⟩
    · cases tokenized.symm.trans read
      exact ⟨spans, same, segmented⟩
    · cases failed.symm.trans read
  · rcases tokenize_lossless "m·s" (fun before run after divided _ =>
      short "m·s" (by decide) before run after divided) with
      ⟨tokens, spans, tokenized, _⟩ | ⟨before, character, after, divided, failed, front, _⟩
    · cases tokenized.symm.trans refused
    · have dot : String.singleton character = String.singleton '·' := by
        have faults := failed.symm.trans refused
        injection faults with fault
        injection fault
      cases String.singleton_inj.mp dot
      exact ⟨before, after, divided, failed, front⟩

end Metrology
