import Mathlib
import Metrology.Worksheet.LoneCall
import Metrology.Proofs.Fraction.Powers
import Metrology.Proofs.Ratio.Reduced

/-!
The normal form of a fraction. Terms are counted where they first occur, what stands above
before what stands below, and each side is written out in that order. So cancelling keeps the
exponent of every term, leaves it on one side only and all of it in one place, and finds nothing
to change in what it has written. Integers and texts can be mixed in one fraction.
-/

namespace Metrology

/-! ## The order of first occurrence -/

section Order

variable {α β : Type} [BEq α] [BEq β]

/-- The terms of a row stand in the order in which they first occur in `source`. Equal terms have
one place there, so that they stand side by side. -/
def FollowsOrder (source terms : List α) : Prop :=
  terms.Pairwise fun earlier later => source.idxOf earlier ≤ source.idxOf later

instance (source terms : List α) : Decidable (FollowsOrder source terms) :=
  inferInstanceAs (Decidable (List.Pairwise _ _))

example : FollowsOrder ["x", "y", "x", "w"] ["x", "x", "w"] := by decide

theorem FollowsOrder.map {convert : α → β}
    (faithful : ∀ left right, (convert left == convert right) = (left == right))
    {source terms : List α} (follows : FollowsOrder source terms) :
    FollowsOrder (source.map convert) (terms.map convert) := by
  have places (term : α) : (source.map convert).idxOf (convert term) = source.idxOf term := by
    simp only [List.idxOf, List.findIdx_map, Function.comp_def, faithful]
  refine List.pairwise_map.mpr (follows.imp fun inOrder => ?_)
  rwa [places, places]

variable [LawfulBEq α]

/-- What is left when later occurrences are dropped is in order. -/
theorem pairwise_idxOf_eraseDups (source : List α) :
    source.eraseDups.Pairwise fun earlier later => source.idxOf earlier < source.idxOf later := by
  induction source using List.reverseRecOn with
  | nil => exact List.Pairwise.nil
  | append_singleton source last induction =>
      have kept : source.eraseDups.Pairwise fun earlier later =>
          (source ++ [last]).idxOf earlier < (source ++ [last]).idxOf later := by
        refine induction.imp_of_mem fun {earlier later} earlierMember laterMember inOrder => ?_
        rwa [List.idxOf_append_of_mem (List.mem_eraseDups.mp earlierMember),
          List.idxOf_append_of_mem (List.mem_eraseDups.mp laterMember)]
      rw [Fraction.eraseDups_append_singleton]
      split
      · exact kept
      · next new =>
          refine List.pairwise_append.mpr ⟨kept, List.pairwise_singleton _ _, ?_⟩
          intro earlier earlierMember later isLast
          have within := List.mem_eraseDups.mp earlierMember
          rw [List.mem_singleton.mp isLast, List.idxOf_append_of_mem within,
            List.idxOf_append_of_notMem new]
          exact Nat.lt_add_right _ (List.idxOf_lt_length_of_mem within)

end Order

namespace Fraction

section Form

variable {α β : Type} [BEq α] [BEq β]

/-- Terms that are written out as often as they are counted keep their order. -/
theorem followsOrder_expand {source : List α} {counts : List (α × ℤ)}
    (inOrder : (terms counts).Pairwise fun earlier later =>
      source.idxOf earlier < source.idxOf later) : FollowsOrder source (expand counts) := by
  refine List.pairwise_flatMap.mpr ⟨fun entry _ => ?_, ?_⟩
  · exact List.pairwise_replicate.mpr (.inr le_rfl)
  · refine (List.pairwise_map.mp inOrder).imp ?_
    intro earlier later less first firstMember second secondMember
    rw [List.eq_of_mem_replicate firstMember, List.eq_of_mem_replicate secondMember]
    exact less.le

/-! ## The normal form -/

/-- A fraction that says the same in normal form: no term counts for more or less, nothing stands
on both sides, equal terms stand side by side in the order in which they first occurred above or
else below, and there is nothing left to cancel. -/
structure IsNormalFormOf (normal fraction : Fraction α) : Prop extends normal.IsReduced where
  exponent : ∀ term, normal.exponent term = fraction.exponent term
  orderAbove : FollowsOrder (fraction.above ++ fraction.below) normal.above
  orderBelow : FollowsOrder (fraction.above ++ fraction.below) normal.below
  settled : normal.cancel = normal

/-- A settled fraction is left as it is. -/
theorem IsSettled.cancel_eq {fraction : Fraction α} (settled : fraction.IsSettled) :
    fraction.cancel = fraction := by
  have alone : (fraction.repeated 1).times (fraction.repeated 0) = fraction := by
    have nothing (terms : List α) : terms.flatMap (List.replicate 0) = [] :=
      List.flatMap_eq_nil_iff.mpr fun _ _ => rfl
    rw [repeated_one, repeated, nothing, nothing, times, List.append_nil, List.append_nil]
  have same := settled.cancel_times one_pos 0
  rwa [alone, repeated_one] at same

variable [LawfulBEq α]

/-- Cancelling reaches the normal form. -/
theorem isNormalFormOf_cancel (fraction : Fraction α) :
    fraction.cancel.IsNormalFormOf fraction where
  toIsReduced := fraction.isReduced_cancel
  exponent := congrFun fraction.exponent_cancel
  orderAbove := by
    refine followsOrder_expand ?_
    rw [terms_netCounts]
    exact pairwise_idxOf_eraseDups _
  orderBelow := by
    refine followsOrder_expand ?_
    rw [terms_map_neg, terms_netCounts]
    exact pairwise_idxOf_eraseDups _
  settled :=
    (isSettled_cancel (fun _ _ => BEq.comm) fun term _ => beq_self_eq_true term).cancel_eq

/-- Terms under other names have a normal form as well, as long as `==` keeps apart what was
apart before. -/
theorem IsNormalFormOf.map {normal fraction : Fraction α} (form : normal.IsNormalFormOf fraction)
    {convert : α → β}
    (faithful : ∀ left right, (convert left == convert right) = (left == right)) :
    (normal.map convert).IsNormalFormOf (fraction.map convert) where
  toIsReduced := by
    refine form.toIsReduced.map fun left right same => ?_
    rw [← beq_iff_eq, ← faithful, same, faithful, beq_self_eq_true]
  exponent := by
    have balanced : (normal.above ++ fraction.below).Perm (fraction.above ++ normal.below) := by
      refine List.perm_iff_count.mpr fun term => ?_
      have same := form.exponent term
      simp only [Fraction.exponent, List.count_append] at same ⊢
      omega
    intro term
    have counts := (balanced.map convert).count_eq term
    simp only [List.map_append, List.count_append] at counts
    simp only [Fraction.exponent, Fraction.map]
    omega
  orderAbove := by
    simpa [Fraction.map] using form.orderAbove.map faithful
  orderBelow := by
    simpa [Fraction.map] using form.orderBelow.map faithful
  settled := by
    rw [cancel_map faithful, form.settled]

end Form

end Fraction

/-! ## Integers and texts -/

namespace Item

/-- The item that stands for an integer or a name. -/
def ofPlain : Term ℤ → Item
  | .literal value => .int value
  | .name value => .text value

/-- The items that are integers or texts. -/
inductive IsPlain : Item → Prop
  | integer (value : ℤ) : IsPlain (.int value)
  | text (value : String) : IsPlain (.text value)

/-- Integers or texts are the same term when they are equal, and an integer is never a text. -/
theorem ofPlain_beq_ofPlain (left right : Term ℤ) :
    (ofPlain left == ofPlain right) = (left == right) := by
  cases left with
  | literal left =>
      cases right with
      | literal right =>
          have integers : (ofPlain (.literal left) == ofPlain (.literal right)) =
              (Number.int left == Number.int right) := rfl
          rw [integers, Number.int_beq_int, Bool.eq_iff_iff, beq_iff_eq, beq_iff_eq,
            Term.literal.injEq]
      | name right => rfl
  | name left =>
      cases right with
      | literal right => rfl
      | name right =>
          have texts : (ofPlain (.name left) == ofPlain (.name right)) = (left == right) := rfl
          rw [texts, Bool.eq_iff_iff, beq_iff_eq, beq_iff_eq, Term.name.injEq]

theorem exists_plain {items : List Item} (plain : ∀ item ∈ items, item.IsPlain) :
    ∃ terms : List (Term ℤ), terms.map ofPlain = items := by
  have range : items ∈ Set.range (List.map ofPlain) := by
    rw [Set.range_list_map]
    intro item member
    cases plain item member with
    | integer value => exact ⟨.literal value, rfl⟩
    | text value => exact ⟨.name value, rfl⟩
  exact range

theorem IsPlain.isKey {item : Item} (plain : item.IsPlain) : item.isKey = true := by
  cases plain with
  | integer value => rfl
  | text value => rfl

end Item

namespace LoneCall

/-- Rows of integers and texts can always be cancelled, and what comes of them is the normal
form of the fraction they make. -/
theorem cancel_reaches_normal_form (above below : List Item)
    (plain : ∀ item ∈ above ++ below, item.IsPlain) :
    ∃ normal : Fraction Item,
      LoneCall.cancel.result [.list above, .list below] =
          .ok (.tuple [.tuple normal.above, .tuple normal.below]) ∧
        normal = Fraction.cancel ⟨above, below⟩ ∧ normal.IsNormalFormOf ⟨above, below⟩ := by
  have parts := List.forall_mem_append.mp plain
  have keys : (above.all Item.isKey && below.all Item.isKey) = true := by
    rw [Bool.and_eq_true, List.all_eq_true, List.all_eq_true]
    exact ⟨fun item member => (parts.1 item member).isKey,
      fun item member => (parts.2 item member).isKey⟩
  refine ⟨_, ?_, rfl, ?_⟩
  · rw [result, fractionOf, if_pos keys]
    rfl
  · rcases Item.exists_plain parts.1 with ⟨termsAbove, rfl⟩
    rcases Item.exists_plain parts.2 with ⟨termsBelow, rfl⟩
    have form := (Fraction.isNormalFormOf_cancel ⟨termsAbove, termsBelow⟩).map
      Item.ofPlain_beq_ofPlain
    rw [← Fraction.cancel_map Item.ofPlain_beq_ofPlain] at form
    exact form

/-- An integer and its text are two terms. -/
theorem cancel_reaches_normal_form_mixed :
    let above : List Item := [.text "x", .int 2, .text "x", .int 2, .text "2"]
    let below : List Item := [.int 3, .int 2, .text "y"]
    let normal : Fraction Item := ⟨[.text "x", .text "x", .int 2, .text "2"], [.int 3, .text "y"]⟩
    (∀ item ∈ above ++ below, item.IsPlain) ∧
      LoneCall.cancel.result [.list above, .list below] =
        .ok (.tuple [.tuple normal.above, .tuple normal.below]) ∧
      Fraction.cancel ⟨above, below⟩ = normal ∧ normal.IsNormalFormOf ⟨above, below⟩ := by
  intro above below normal
  have plain : ∀ item ∈ above ++ below, item.IsPlain := by
    simp only [above, below, List.cons_append, List.nil_append, List.forall_mem_cons]
    refine ⟨.text _, .integer _, .text _, .integer _, .text _, .integer _, .integer _, .text _, ?_⟩
    exact fun _ none => absurd none List.not_mem_nil
  have cancelled : Fraction.cancel ⟨above, below⟩ = normal := rfl
  rcases cancel_reaches_normal_form above below plain with ⟨_, shown, rfl, form⟩
  rw [cancelled] at shown form
  exact ⟨plain, shown, cancelled, form⟩

end LoneCall

end Metrology
