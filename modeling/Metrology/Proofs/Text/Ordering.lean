import Mathlib
import Metrology.Proofs.Text.Decomposition

/-!
The order of marks, and how composition undoes itself. Inserting two marks of different
classes gives the same order either way, so a base may give back a mark that it took up
from behind others: taken apart and ordered again, a composition is the text that it was
made of. Composing it once more changes nothing.
-/

namespace Metrology.Composition

/-! ## Ordered texts -/

/-- Whether a code point may stand behind another: it is no mark, or of no lesser class. -/
def Follows (before code : ℕ) : Prop :=
  combiningClass code = 0 ∨ combiningClass before ≤ combiningClass code

/-- Texts whose marks stand in the order of their classes. -/
def IsOrdered (codes : List ℕ) : Prop := codes.IsChain Follows

/-- Put code points one by one behind a text that is given last first. -/
def insertMarks (reversed codes : List ℕ) : List ℕ :=
  codes.foldl (fun reversed code => insertMark code reversed) reversed

theorem orderMarks_eq (codes : List ℕ) : orderMarks codes = (insertMarks [] codes).reverse := rfl

@[simp] theorem insertMarks_nil (reversed : List ℕ) : insertMarks reversed [] = reversed := rfl

@[simp] theorem insertMarks_cons (reversed : List ℕ) (code : ℕ) (codes : List ℕ) :
    insertMarks reversed (code :: codes) = insertMarks (insertMark code reversed) codes := rfl

@[simp] theorem insertMarks_append (reversed first second : List ℕ) :
    insertMarks reversed (first ++ second) = insertMarks (insertMarks reversed first) second :=
  List.foldl_append

theorem insertMark_of_follows {code : ℕ} {reversed : List ℕ}
    (follows : ∀ last ∈ reversed.head?, Follows last code) :
    insertMark code reversed = code :: reversed := by
  cases reversed with
  | nil => rfl
  | cons last reversed =>
      have border := follows last rfl
      rw [insertMark, if_neg]
      rintro ⟨mark, lesser⟩
      rcases border with free | greater
      · exact mark free
      · omega

theorem insertMarks_of_isOrdered {reversed codes : List ℕ} (ordered : IsOrdered codes)
    (border : ∀ last ∈ reversed.head?, ∀ code ∈ codes.head?, Follows last code) :
    insertMarks reversed codes = codes.reverse ++ reversed := by
  induction codes generalizing reversed with
  | nil => rfl
  | cons code codes induction =>
      rcases List.isChain_cons.mp ordered with ⟨next, rest⟩
      rw [insertMarks_cons, insertMark_of_follows fun last member => border last member code rfl,
        induction rest (by simpa using next), List.reverse_cons, List.append_assoc,
        List.singleton_append]

/-- Ordered texts stay as they are. -/
theorem orderMarks_of_isOrdered {codes : List ℕ} (ordered : IsOrdered codes) :
    orderMarks codes = codes := by
  rw [orderMarks_eq, insertMarks_of_isOrdered ordered (by simp), List.append_nil,
    List.reverse_reverse]

theorem mem_head?_insertMark {code first : ℕ} {reversed : List ℕ}
    (member : first ∈ (insertMark code reversed).head?) :
    first = code ∨ first ∈ reversed.head? := by
  cases reversed with
  | nil => exact .inl (Option.mem_some.mp member).symm
  | cons last reversed =>
      rw [insertMark] at member
      split at member
      · exact .inr member
      · exact .inl (Option.mem_some.mp member).symm

theorem isChain_insertMark {code : ℕ} {reversed : List ℕ}
    (ordered : reversed.IsChain (flip Follows)) :
    (insertMark code reversed).IsChain (flip Follows) := by
  induction reversed with
  | nil => exact List.isChain_singleton code
  | cons last reversed induction =>
      rcases List.isChain_cons.mp ordered with ⟨next, rest⟩
      rw [insertMark]
      split
      · next lesser =>
          refine List.isChain_cons.mpr ⟨fun first member => ?_, induction rest⟩
          rcases mem_head?_insertMark member with rfl | inRest
          · exact .inr lesser.2.le
          · exact next first inRest
      · next greater =>
          refine List.isChain_cons.mpr ⟨fun first member => ?_, ordered⟩
          rw [← Option.mem_some.mp member]
          rw [not_and_or, not_not, Nat.not_lt] at greater
          exact greater

/-- Ordering a text makes it ordered. -/
theorem isOrdered_orderMarks (codes : List ℕ) : IsOrdered (orderMarks codes) := by
  have kept (reversed : List ℕ) (ordered : reversed.IsChain (flip Follows)) :
      (insertMarks reversed codes).IsChain (flip Follows) := by
    induction codes generalizing reversed with
    | nil => exact ordered
    | cons code codes induction => exact induction _ (isChain_insertMark ordered)
  exact List.isChain_reverse.mpr (kept [] List.isChain_nil)

/-! ## Texts that are ordered alike -/

/-- Two texts that come out the same behind any other text. -/
def OrderAlike (first second : List ℕ) : Prop :=
  ∀ reversed, insertMarks reversed first = insertMarks reversed second

namespace OrderAlike

variable {first second third : List ℕ}

theorem refl (codes : List ℕ) : OrderAlike codes codes := fun _ => rfl

theorem trans (before : OrderAlike first second) (after : OrderAlike second third) :
    OrderAlike first third := fun reversed => (before reversed).trans (after reversed)

theorem append_left (prior : List ℕ) (alike : OrderAlike first second) :
    OrderAlike (prior ++ first) (prior ++ second) := by
  intro reversed
  rw [insertMarks_append, insertMarks_append, alike]

theorem append_right (later : List ℕ) (alike : OrderAlike first second) :
    OrderAlike (first ++ later) (second ++ later) := by
  intro reversed
  rw [insertMarks_append, insertMarks_append, alike]

theorem orderMarks_eq (alike : OrderAlike first second) : orderMarks first = orderMarks second :=
  congrArg List.reverse (alike [])

end OrderAlike

/-- Marks of different classes may be inserted in either order. -/
theorem insertMark_comm {first second : ℕ} (firstMark : combiningClass first ≠ 0)
    (secondMark : combiningClass second ≠ 0)
    (different : combiningClass first ≠ combiningClass second) (reversed : List ℕ) :
    insertMark first (insertMark second reversed) =
      insertMark second (insertMark first reversed) := by
  induction reversed with
  | nil =>
      rcases Nat.lt_or_gt_of_ne different with less | greater
      · simp [insertMark, firstMark, less, less.not_gt]
      · simp [insertMark, secondMark, greater, greater.not_gt]
  | cons last reversed induction =>
      -- Both may go past the last mark, or one of them, or neither.
      by_cases beforeFirst : combiningClass first < combiningClass last <;>
        by_cases beforeSecond : combiningClass second < combiningClass last
      · simp [insertMark, firstMark, secondMark, beforeFirst, beforeSecond, induction]
      · have less : combiningClass first < combiningClass second := by omega
        simp [insertMark, firstMark, beforeFirst, beforeSecond, less]
      · have less : combiningClass second < combiningClass first := by omega
        simp [insertMark, secondMark, beforeFirst, beforeSecond, less]
      · rcases Nat.lt_or_gt_of_ne different with less | greater
        · simp [insertMark, firstMark, beforeFirst, beforeSecond, less, less.not_gt]
        · simp [insertMark, secondMark, beforeFirst, beforeSecond, greater, greater.not_gt]

/-- A code point may move behind marks of lesser classes. -/
theorem orderAlike_cons {code : ℕ} {marks : List ℕ}
    (others : ∀ other ∈ marks, combiningClass other ≠ 0 ∧
      combiningClass other < combiningClass code) :
    OrderAlike (code :: marks) (marks ++ [code]) := by
  induction marks with
  | nil => exact .refl _
  | cons first marks induction =>
      rcases List.forall_mem_cons.mp others with ⟨⟨firstMark, less⟩, rest⟩
      intro reversed
      rw [insertMarks_cons, insertMarks_cons,
        insertMark_comm firstMark (Nat.ne_of_gt (Nat.zero_lt_of_lt less)) less.ne,
        List.cons_append, insertMarks_cons]
      exact induction rest (insertMark first reversed)

/-! ## Composing and taking apart -/

/-- What is left to compose behind a base: marks that stayed behind it, last first, and
the rest of the text. -/
structure IsPending (marks rest : List ℕ) : Prop where
  marked : ∀ mark ∈ marks, combiningClass mark ≠ 0
  sorted : marks.Pairwise fun later earlier => combiningClass earlier ≤ combiningClass later
  ordered : IsOrdered rest
  border : ∀ last ∈ marks.head?, ∀ code ∈ rest.head?, Follows last code
  atomicMarks : ∀ mark ∈ marks, IsAtomic mark
  atomicRest : ∀ code ∈ rest, IsAtomic code

namespace IsPending

variable {marks rest : List ℕ} {code : ℕ}

theorem nil (ordered : IsOrdered rest) (atoms : ∀ code ∈ rest, IsAtomic code) :
    IsPending [] rest where
  marked := by simp
  sorted := .nil
  ordered := ordered
  border := by simp
  atomicMarks := by simp
  atomicRest := atoms

section Step

variable (pending : IsPending marks (code :: rest))

include pending

theorem atomic : IsAtomic code := pending.atomicRest code (List.mem_cons_self ..)

/-- No mark that stayed is of a greater class than a mark that comes next. -/
theorem le_of_mem (mark : combiningClass code ≠ 0) :
    ∀ other ∈ marks, combiningClass other ≤ combiningClass code := by
  cases marks with
  | nil => simp
  | cons last marks =>
      have lastLe : combiningClass last ≤ combiningClass code :=
        (pending.border last rfl code rfl).resolve_left mark
      intro other member
      rcases List.mem_cons.mp member with rfl | earlier
      · exact lastLe
      · exact ((List.pairwise_cons.mp pending.sorted).1 other earlier).trans lastLe

/-- What the base can reach is of a greater class than all marks that stayed. -/
theorem lt_of_mem
    (reachable : ∀ last ∈ marks.head?, combiningClass last < combiningClass code) :
    ∀ other ∈ marks, combiningClass other < combiningClass code := by
  cases marks with
  | nil => simp
  | cons last marks =>
      have lastLess := reachable last rfl
      intro other member
      rcases List.mem_cons.mp member with rfl | earlier
      · exact lastLess
      · exact ((List.pairwise_cons.mp pending.sorted).1 other earlier).trans_lt lastLess

theorem restart : IsPending [] rest :=
  .nil (List.isChain_cons.mp pending.ordered).2
    (List.forall_mem_cons.mp pending.atomicRest).2

theorem keep (mark : combiningClass code ≠ 0) : IsPending (code :: marks) rest where
  marked := List.forall_mem_cons.mpr ⟨mark, pending.marked⟩
  sorted := List.pairwise_cons.mpr ⟨pending.le_of_mem mark, pending.sorted⟩
  ordered := pending.restart.ordered
  border := by
    intro last isLast
    rw [← Option.mem_some.mp isLast]
    exact (List.isChain_cons.mp pending.ordered).1
  atomicMarks := List.forall_mem_cons.mpr ⟨pending.atomic, pending.atomicMarks⟩
  atomicRest := pending.restart.atomicRest

theorem take (less : ∀ other ∈ marks, combiningClass other < combiningClass code) :
    IsPending marks rest where
  marked := pending.marked
  sorted := pending.sorted
  ordered := pending.restart.ordered
  border := by
    intro last isLast next isNext
    have behind := less last (List.mem_of_mem_head? isLast)
    exact ((List.isChain_cons.mp pending.ordered).1 next isNext).imp_right behind.le.trans
  atomicMarks := pending.atomicMarks
  atomicRest := pending.restart.atomicRest

end Step

end IsPending

/-- Taken apart, what a base and the rest of a text are composed to is ordered as the base
taken apart, the marks that stayed, and the rest. -/
theorem orderAlike_recompose (base : ℕ) {marks rest : List ℕ} (pending : IsPending marks rest) :
    OrderAlike ((recompose base marks rest).flatMap decompose)
      (decompose base ++ (marks.reverse ++ rest)) := by
  induction rest generalizing base marks with
  | nil =>
      have atoms : ∀ mark ∈ marks.reverse, IsAtomic mark := by simpa using pending.atomicMarks
      rw [recompose, List.flatMap_cons, flatMap_decompose_of_isAtomic atoms, List.append_nil]
      exact .refl _
  | cons code rest induction =>
      rw [recompose.eq_def]
      simp only
      split
      · next composite joined =>
          -- The code point goes back to the end of the base, before the marks it passed.
          rcases Option.ite_none_right_eq_some.mp joined with ⟨reachable, composed⟩
          have less := pending.lt_of_mem (by
            cases marks with
            | nil => simp
            | cons last marks => simpa using reachable)
          have moved : OrderAlike (code :: marks.reverse) (marks.reverse ++ [code]) :=
            orderAlike_cons fun other member =>
              have inMarks := List.mem_reverse.mp member
              ⟨pending.marked other inMarks, less other inMarks⟩
          refine (induction composite (pending.take less)).trans ?_
          rw [decompose_of_composite? composed, List.append_assoc]
          refine OrderAlike.append_left _ ?_
          simpa using moved.append_right rest
      · split
        · -- The code point is the next base, and the marks that stayed are done with.
          have others := induction code pending.restart
          rw [pending.atomic.decompose, List.reverse_nil, List.nil_append,
            List.singleton_append] at others
          have atoms : ∀ mark ∈ marks.reverse, IsAtomic mark := by simpa using pending.atomicMarks
          rw [List.flatMap_append, List.flatMap_cons, flatMap_decompose_of_isAtomic atoms,
            List.append_assoc]
          exact (others.append_left marks.reverse).append_left (decompose base)
        · next mark => simpa using induction base (pending.keep mark)

theorem orderAlike_recomposeAll {codes : List ℕ} (ordered : IsOrdered codes)
    (atoms : ∀ code ∈ codes, IsAtomic code) :
    OrderAlike ((recomposeAll codes).flatMap decompose) codes := by
  induction codes with
  | nil => exact .refl _
  | cons code codes induction =>
      rcases List.isChain_cons.mp ordered with ⟨_, rest⟩
      rcases List.forall_mem_cons.mp atoms with ⟨atomic, others⟩
      rw [recomposeAll]
      split
      · simpa [atomic.decompose] using
          orderAlike_recompose code (.nil rest others)
      · rw [List.flatMap_cons, atomic.decompose]
        exact (induction rest others).append_left [code]

/-- The composition of a text is composed. -/
theorem composeCodes_composeCodes (codes : List ℕ) :
    composeCodes (composeCodes codes) = composeCodes codes := by
  have ordered := isOrdered_orderMarks (codes.flatMap decompose)
  have atoms : ∀ part ∈ orderMarks (codes.flatMap decompose), IsAtomic part := by
    intro part member
    rcases List.mem_flatMap.mp (mem_orderMarks.mp member) with ⟨code, _, partMember⟩
    exact isAtomic_of_mem_decompose partMember
  have alike := orderAlike_recomposeAll ordered atoms
  rw [composeCodes, composeCodes, alike.orderMarks_eq, orderMarks_of_isOrdered ordered]

end Metrology.Composition
