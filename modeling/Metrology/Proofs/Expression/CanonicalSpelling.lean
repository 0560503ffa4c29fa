import Mathlib
import Metrology.Proofs.Expression.ComposedText
import Metrology.Proofs.Expression.Parsing

/-!
Lexing and composition. Letters with marks are taken for names as long as they are spelled with
marks; once they are composed, only those are that come to name letters again. Apart from that,
and from vowel signs that stand for two marks, a text and its composition are read alike.
-/

namespace Metrology

open RunClass

/-! ## Two readings of a text -/

/-- A text is refused at some character. -/
def IsBadToken (result : Result (List Token)) : Prop :=
  ∃ token position, result = .error (.badToken token position)

theorem IsBadToken.cons {result : Result (List Token)} (bad : IsBadToken result) (token : Token) :
    IsBadToken (do return token :: (← result)) := by
  rcases bad with ⟨text, position, rfl⟩
  exact ⟨text, position, rfl⟩

/-- Names that are read again as they are. -/
def Lexeme.IsCanonical : Lexeme → Prop
  | .name value => ∀ character ∈ value.toList, isNameContinuation character = true
  | _ => True

theorem Lexeme.isCanonical_of_operator? {sign : Char} {operator : Lexeme}
    (found : operator? sign = some operator) : operator.IsCanonical := by
  unfold operator? at found
  split at found
  all_goals first
    | cases found; trivial
    | cases found

/-- How the composition of a text is read where the text is read in some way: alike if the names in
it are read again as they are, and otherwise not at all. What is refused is refused once more, with
a possible exception. -/
structure RespectsComposition (exception : Prop) (plain composed : Result (List Token)) :
    Prop where
  alike : ∀ tokens, plain = .ok tokens →
    (∀ lexeme ∈ Parser.lexemes tokens, lexeme.IsCanonical) →
    ∃ others, composed = .ok others ∧ Parser.lexemes others = Parser.lexemes tokens
  accented : ∀ tokens, plain = .ok tokens →
    (¬∀ lexeme ∈ Parser.lexemes tokens, lexeme.IsCanonical) → IsBadToken composed
  refused : IsBadToken plain → IsBadToken composed ∨ exception
  tooLong : plain = .error .tooManyDigits →
    composed = .error .tooManyDigits ∨ IsBadToken composed

namespace RespectsComposition

variable {exception : Prop} {plain composed : Result (List Token)}

theorem imp {other : Prop} (respects : RespectsComposition exception plain composed)
    (implies : exception → other) : RespectsComposition other plain composed :=
  { respects with refused := fun bad => (respects.refused bad).imp_right implies }

theorem nil : RespectsComposition exception (.ok []) (.ok []) where
  alike := fun tokens read _ => ⟨[], rfl, by cases read; rfl⟩
  accented := by
    intro tokens read accented
    cases read
    exact absurd (fun _ member => nomatch member) accented
  refused := .inl
  tooLong := .inl

theorem tooManyDigits :
    RespectsComposition exception (.error .tooManyDigits) (.error .tooManyDigits) where
  alike := nofun
  accented := nofun
  refused := .inl
  tooLong := .inl

/-- What is refused may be refused again, or be an exception. -/
theorem of_isBadToken (bad : IsBadToken plain) (again : IsBadToken composed ∨ exception) :
    RespectsComposition exception plain composed := by
  rcases bad with ⟨token, position, rfl⟩
  exact {
    alike := nofun
    accented := nofun
    refused := fun _ => again
    tooLong := nofun }

/-- The same lexeme may stand before both. -/
theorem cons (respects : RespectsComposition exception plain composed) {lexeme : Lexeme}
    (canonical : lexeme.IsCanonical) (place otherPlace : ℕ) :
    RespectsComposition exception (do return ⟨lexeme, place⟩ :: (← plain))
      (do return ⟨lexeme, otherPlace⟩ :: (← composed)) where
  alike := by
    intro tokens read allCanonical
    rcases Result.bind_eq_ok.mp read with ⟨rest, readRest, joined⟩
    cases joined
    rcases respects.alike rest readRest (List.forall_mem_cons.mp allCanonical).2 with
      ⟨others, readOthers, same⟩
    exact ⟨⟨lexeme, otherPlace⟩ :: others, by rw [readOthers]; rfl, congrArg (lexeme :: ·) same⟩
  accented := by
    intro tokens read accented
    rcases Result.bind_eq_ok.mp read with ⟨rest, readRest, joined⟩
    cases joined
    refine (respects.accented rest readRest fun restCanonical => accented ?_).cons _
    exact List.forall_mem_cons.mpr ⟨canonical, restCanonical⟩
  refused := by
    rintro ⟨token, position, failed⟩
    cases plain with
    | ok rest => cases failed
    | error fault =>
        cases failed
        exact (respects.refused ⟨token, position, rfl⟩).imp_left (·.cons _)
  tooLong := by
    intro failed
    cases plain with
    | ok rest => cases failed
    | error fault =>
        cases failed
        refine (respects.tooLong rfl).imp (fun tooLong => ?_) (·.cons _)
        rw [tooLong]
        rfl

/-- Where a name is not read again as it is, it is enough that the composition is refused. -/
theorem cons_accented {lexeme : Lexeme} (accented : ¬lexeme.IsCanonical)
    (bad : IsBadToken composed) (place : ℕ) :
    RespectsComposition exception (do return ⟨lexeme, place⟩ :: (← plain)) composed where
  alike := by
    intro tokens read allCanonical
    rcases Result.bind_eq_ok.mp read with ⟨rest, _, joined⟩
    cases joined
    exact absurd (allCanonical lexeme (List.mem_cons_self ..)) accented
  accented := fun _ _ _ => bad
  refused := fun _ => .inl bad
  tooLong := fun _ => .inr bad

end RespectsComposition

namespace Lexer

/-! ## Names once they are composed -/

/-- A text is refused at a stray character, with a name before it or without one. -/
theorem isBadToken_scan_of_stray {front : List Char} (isRun : front ≠ [] → names.IsRun front)
    {stray : Char} (isStray : IsStray stray) (stopped : isNameContinuation stray = false)
    (place : ℕ) (rest : List Char) : IsBadToken (scan place (front ++ stray :: rest)) := by
  have bad (place : ℕ) : IsBadToken (scan place (stray :: rest)) :=
    ⟨_, _, scan_stray isStray place rest⟩
  by_cases nothing : front = []
  · rw [nothing, List.nil_append]
    exact bad place
  · have stops : names.StopsBefore (stray :: rest) := by
      intro next isNext
      cases isNext
      exact stopped
    rw [scan_name_run (isRun nothing) stops]
    exact (bad _).cons _

/-- As long as there are name letters and marks in a name that is composed, they are a name. -/
theorem isRun_of_prefix_composed {run front : List Char} (isRun : names.IsRun run)
    (starts : front <+: composed run) (nonempty : front ≠ [])
    (continued : ∀ character ∈ front, isNameContinuation character = true) :
    names.IsRun front := by
  rcases List.exists_cons_of_ne_nil isRun.ne_nil with ⟨first, others, rfl⟩
  rcases exists_composed_of_isNameStart isRun.1 others with ⟨letter, behind, composes, free, _⟩
  rcases List.exists_cons_of_ne_nil nonempty with ⟨head, tail, rfl⟩
  rw [composes] at starts
  rcases List.cons_prefix_cons.mp starts with ⟨rfl, _⟩
  rcases List.forall_mem_cons.mp continued with ⟨headContinues, tailContinues⟩
  rw [isNameContinuation, free, Bool.or_false] at headContinues
  exact ⟨headContinues, tailContinues⟩

/-- A name that is composed to name letters and marks is a name again. -/
theorem isRun_composed {run : List Char} (isRun : names.IsRun run)
    (continued : ∀ character ∈ composed run, isNameContinuation character = true) :
    names.IsRun (composed run) := by
  refine isRun_of_prefix_composed isRun (List.prefix_refl _) ?_ continued
  rcases List.exists_cons_of_ne_nil isRun.ne_nil with ⟨first, others, rfl⟩
  rcases exists_composed_of_isNameStart isRun.1 others with ⟨letter, behind, composes, _⟩
  rw [composes]
  exact List.cons_ne_nil letter behind

/-- A name that is composed to anything else is refused once it is composed. -/
theorem isBadToken_scan_composed {run : List Char} (isRun : names.IsRun run)
    (accented : ¬∀ character ∈ composed run, isNameContinuation character = true) (place : ℕ)
    (rest : List Char) : IsBadToken (scan place (composed run ++ rest)) := by
  have divided := List.takeWhile_append_dropWhile (p := isNameContinuation) (l := composed run)
  have starts := List.takeWhile_prefix isNameContinuation (l := composed run)
  have stops := List.head?_dropWhile_not isNameContinuation (composed run)
  cases left : (composed run).dropWhile isNameContinuation with
  | nil => exact absurd (List.dropWhile_eq_nil_iff.mp left) accented
  | cons stray behind =>
      rw [left] at divided stops
      have stopped : isNameContinuation stray = false := stops
      have member : stray ∈ composed run := by
        rw [← divided]
        simp
      have isStray := isStray_of_notMem (isNameStart_of_isNameContinuation stopped)
        (notMem_otherCharacters_of_mem_composed (names_isRun_continues isRun) member)
      rw [← divided, List.append_assoc, List.cons_append]
      refine isBadToken_scan_of_stray (fun nonempty => ?_) isStray stopped place _
      exact isRun_of_prefix_composed isRun starts nonempty
        fun character inFront => List.mem_takeWhile_imp inFront

/-! ## Vowel signs behind a name -/

/-- A text is refused at a vowel sign that stands for two marks, right behind a name. -/
def IsRefusedAtVowel (place : ℕ) (text : List Char) : Prop :=
  ∃ before run vowel after, text = before ++ run ++ vowel :: after ∧ names.IsRun run ∧
    IsCompoundVowel vowel ∧
    scan place text = .error (.badToken (String.singleton vowel) (place + (before ++ run).length))

/-- What is read before changes nothing of it. -/
theorem IsRefusedAtVowel.append (front : List Char) {back : List Char} {place : ℕ}
    (refused : IsRefusedAtVowel (place + front.length) back)
    (fails : ∀ fault, scan (place + front.length) back = .error fault →
      scan place (front ++ back) = .error fault) :
    IsRefusedAtVowel place (front ++ back) := by
  rcases refused with ⟨before, run, vowel, after, rfl, isRun, isVowel, failed⟩
  refine ⟨front ++ before, run, vowel, after, by simp, isRun, isVowel, ?_⟩
  rw [fails _ failed]
  simp [add_assoc]

theorem isStray_of_isCompoundVowel {vowel : Char} (isVowel : IsCompoundVowel vowel) :
    IsStray vowel := by
  have all : ∀ code ∈ Composition.compoundVowels, code ∉ Composition.openingCodes := by decide
  exact isStray_iff.mpr (mt toNat_mem_openingCodes.mpr (all _ isVowel))

theorem isRefusedAtVowel_of_name {run rest : List Char} (isRun : names.IsRun run)
    (stops : names.StopsBefore rest) {vowel : Char} (first : vowel ∈ rest.head?)
    (isVowel : IsCompoundVowel vowel) (place : ℕ) : IsRefusedAtVowel place (run ++ rest) := by
  rcases List.head?_eq_some_iff.mp first with ⟨after, rfl⟩
  refine ⟨[], run, vowel, after, rfl, isRun, isVowel, ?_⟩
  rw [scan_name_run isRun stops, scan_stray (isStray_of_isCompoundVowel isVowel)]
  rfl

/-! ## Whole texts -/

/-- Wherever it stands, a text is read as its composition is, accented names and vowel signs behind
a name apart. -/
theorem respectsComposition_scan (text : List Char) : ∀ place otherPlace,
    RespectsComposition (IsRefusedAtVowel place text) (scan place text)
      (scan otherPlace (composed text)) := by
  induction text using run_induction with
  | nil =>
      intro place otherPlace
      rw [show composed [] = [] from rfl, scan, scan]
      exact .nil
  | separator character rest separates induction =>
      intro place otherPlace
      have member : character ∈ otherCharacters :=
        List.mem_append_left _ (mem_signs_of_isSeparator separates)
      have skipped := scan_separator separates place rest
      rw [composed_cons_other member, skipped, scan_separator separates]
      refine (induction _ _).imp fun refused => ?_
      exact refused.append [character] fun fault failed => skipped.trans failed
  | operator character operator rest found induction =>
      intro place otherPlace
      have member : character ∈ otherCharacters :=
        List.mem_append_left _ (mem_signs_of_operator? found)
      have read := scan_operator found place rest
      rw [composed_cons_other member, read, scan_operator found]
      refine ((induction _ _).cons (Lexeme.isCanonical_of_operator? found) _ _).imp
        fun refused => ?_
      refine refused.append [character] fun fault failed => ?_
      rw [List.length_singleton] at failed
      rw [List.singleton_append, read, failed]
      rfl
  | name run rest isRun stops induction =>
      intro place otherPlace
      have read := scan_name_run isRun stops place
      by_cases simple : ∀ next ∈ rest.head?, ¬IsCompoundVowel next
      · rw [composed_append_name (names_isRun_continues isRun) stops simple, read]
        by_cases continued : ∀ character ∈ composed run, isNameContinuation character = true
        · rw [scan_name_run (isRun_composed isRun continued)
            (stopsBefore_names_composed stops simple), composed_composed]
          have canonical : (Lexeme.name (String.ofList (composed run))).IsCanonical := by
            rwa [Lexeme.IsCanonical, String.toList_ofList]
          refine ((induction _ _).cons canonical _ _).imp fun refused => ?_
          refine refused.append run fun fault failed => ?_
          rw [read, failed]
          rfl
        · refine .cons_accented ?_ (isBadToken_scan_composed isRun continued _ _) _
          rwa [Lexeme.IsCanonical, String.toList_ofList]
      · simp only [not_forall, not_not] at simple
        rcases simple with ⟨vowel, first, isVowel⟩
        have refused := isRefusedAtVowel_of_name isRun stops first isVowel place
        refine .of_isBadToken ?_ (.inr refused)
        rcases refused with ⟨before, prior, other, after, _, _, _, failed⟩
        exact ⟨_, _, failed⟩
  | number run rest isRun stops induction =>
      intro place otherPlace
      have digits : ∀ digit ∈ run, digit ∈ otherCharacters := fun digit member =>
        List.mem_append_right _ (mem_of_isAsciiDigit (numbers_isRun_digits isRun digit member))
      have read := scan_number_run isRun stops place
      rw [composed_append_others digits, read,
        scan_number_run isRun (stopsBefore_numbers_composed stops)]
      cases value : readNumber run with
      | ok number =>
          have canonical : (Lexeme.number number).IsCanonical := trivial
          refine ((induction _ _).cons canonical _ _).imp fun refused => ?_
          refine refused.append run fun fault failed => ?_
          rw [read, value, failed]
          rfl
      | error fault =>
          rw [readNumber] at value
          split at value <;> cases value
          exact .tooManyDigits
  | stray character rest stray =>
      intro place otherPlace
      rcases exists_stray_composed stray rest with ⟨first, others, composes, isStray, _⟩
      rw [composes]
      exact .of_isBadToken ⟨_, _, scan_stray stray place rest⟩
        (.inl ⟨_, _, scan_stray isStray otherPlace others⟩)

end Lexer

/-- A text and its composition are read alike: both give the same lexemes, or both are refused, as
long as no number is too long. But if a name in a text is composed to other characters than name
letters and marks, its composition is refused although the text is read. And it may be read although
the text is refused, at a vowel sign that stands for two marks behind a name. -/
theorem lexing_respects_composition (text : String) :
    (∀ tokens, tokenize text = .ok tokens →
      (∀ lexeme ∈ Parser.lexemes tokens, lexeme.IsCanonical) →
      ∃ others, tokenize (String.ofList (composed text.toList)) = .ok others ∧
        Parser.lexemes others = Parser.lexemes tokens) ∧
    (∀ tokens, tokenize text = .ok tokens →
      (¬∀ lexeme ∈ Parser.lexemes tokens, lexeme.IsCanonical) →
      IsBadToken (tokenize (String.ofList (composed text.toList)))) ∧
    (IsBadToken (tokenize text) →
      IsBadToken (tokenize (String.ofList (composed text.toList))) ∨
        Lexer.IsRefusedAtVowel 0 text.toList) ∧
    (tokenize text = .error .tooManyDigits →
      tokenize (String.ofList (composed text.toList)) = .error .tooManyDigits ∨
        IsBadToken (tokenize (String.ofList (composed text.toList)))) := by
  have respects := Lexer.respectsComposition_scan text.toList 0 0
  rw [tokenize, tokenize, String.toList_ofList]
  exact ⟨respects.alike, respects.accented, respects.refused, respects.tooLong⟩

/-- An e with an accent is read while it is spelled with a mark, and refused once it is composed. An
e with a vowel sign that stands for two marks is refused, and read once it is composed. -/
theorem accented_name_refused_when_composed :
    tokenize "e\u0301" = .ok [⟨.name "\u00e9", 0⟩] ∧
      String.ofList (composed "e\u0301".toList) = "\u00e9" ∧
      tokenize "\u00e9" = .error (.badToken "\u00e9" 0) ∧
      tokenize "e\u0f73" = .error (.badToken "\u0f73" 1) ∧
      String.ofList (composed "e\u0f73".toList) = "e\u0f71\u0f72" ∧
      tokenize "e\u0f71\u0f72" = .ok [⟨.name "e\u0f71\u0f72", 0⟩] := by
  decide +kernel

end Metrology
