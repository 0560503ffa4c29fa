import Mathlib
import Metrology.Proofs.MeasurementUnit.Composition
import Metrology.Proofs.Quantity.Conversion
import Metrology.Proofs.Ratio.NameText

/-!
Dimension checking is exact. Ratios that are built from plain names, by whatever algebra,
are equal exactly when their exponents are; so two dimensions over the base dimensions are
equal exactly when their vectors of exponents are, and the check before a conversion lets
through what it should and refuses nothing else.
-/

namespace Metrology

/-! ## Ratios built from names -/

/-- Terms that are an allowed name, or the number one. -/
def Term.IsWithin (allowed : String → Prop) : Term Number → Prop
  | .literal value => value.normalize = .int 1
  | .name value => allowed value

theorem Term.literals_of_isWithin {allowed : String → Prop} {term : Term Number}
    (within : term.IsWithin allowed) : term.literals = [] := by
  cases term with
  | name value => rfl
  | literal value =>
      have one : value.normalize = .int 1 := within
      have factors : Number.factors value = [] := by
        rw [Number.factors, one]
        decide +kernel
      change (Number.factors value).filter _ = []
      rw [factors, List.filter_nil]

theorem Term.allowed_of_mem_names {allowed : String → Prop} {term : Term Number}
    (within : term.IsWithin allowed) {name : String} (member : name ∈ term.names) : allowed name := by
  cases term with
  | literal value => cases member
  | name value =>
      by_cases blank : value.isEmpty
      · simp [Term.names, blank] at member
      · simp only [Term.names, blank, Bool.false_eq_true, if_false, List.mem_singleton] at member
        rw [member]
        exact within

theorem Fraction.mem_of_exponent_ne_zero {names : Fraction String} {name : String}
    (nonzero : names.exponent name ≠ 0) : name ∈ names.above ∨ name ∈ names.below := by
  by_contra absent
  rw [not_or] at absent
  apply nonzero
  rw [Fraction.exponent, List.count_eq_zero_of_not_mem absent.1,
    List.count_eq_zero_of_not_mem absent.2]
  rfl

namespace Ratio

/-- Ratios that are written from allowed names and ones, or come of such ratios by
multiplying, dividing or raising to an integer. -/
inductive IsBuiltFrom (allowed : String → Prop) : Ratio Number → Prop
  | ofTerms {above below : List (Term Number)} {ratio : Ratio Number}
      (withinAbove : ∀ term ∈ above, term.IsWithin allowed)
      (withinBelow : ∀ term ∈ below, term.IsWithin allowed)
      (made : Ratio.ofTerms above below = .ok ratio) : IsBuiltFrom allowed ratio
  | times {left right product : Ratio Number} (builtLeft : IsBuiltFrom allowed left)
      (builtRight : IsBuiltFrom allowed right) (made : left.times right = .ok product) :
      IsBuiltFrom allowed product
  | divide {left right quotient : Ratio Number} (builtLeft : IsBuiltFrom allowed left)
      (builtRight : IsBuiltFrom allowed right) (made : left.divide right = .ok quotient) :
      IsBuiltFrom allowed quotient
  | power {base raised : Ratio Number} {exponent : ℤ} (builtBase : IsBuiltFrom allowed base)
      (made : base.power exponent = .ok raised) : IsBuiltFrom allowed raised

/-- Exponents that are zero at every name that is not allowed. -/
def IsWithin (allowed : String → Prop) (exponents : String → ℤ) : Prop :=
  ∀ name, exponents name ≠ 0 → allowed name

section Built

variable {allowed : String → Prop} {ratio : Ratio Number} {first second exponents : String → ℤ}

theorem IsWithin.add (withinFirst : IsWithin allowed first) (withinSecond : IsWithin allowed second) :
    IsWithin allowed (first + second) := by
  intro name nonzero
  by_cases zero : first name = 0
  · exact withinSecond name (by simpa [zero] using nonzero)
  · exact withinFirst name zero

theorem IsWithin.zsmul (within : IsWithin allowed exponents) (exponent : ℤ) :
    IsWithin allowed (exponent • exponents) := by
  intro name nonzero
  exact within name fun zero => nonzero (by simp [zero])

theorem IsWithin.sub (withinFirst : IsWithin allowed first) (withinSecond : IsWithin allowed second) :
    IsWithin allowed (first - second) := by
  have negated := withinFirst.add (withinSecond.zsmul (-1))
  rwa [neg_one_zsmul, ← sub_eq_add_neg] at negated

theorem ofTerms_of_isWithin {above below : List (Term Number)}
    (withinAbove : ∀ term ∈ above, term.IsWithin allowed)
    (withinBelow : ∀ term ∈ below, term.IsWithin allowed) :
    Ratio.ofTerms above below =
      .ok (Ratio.ofNames ⟨above.flatMap Term.names, below.flatMap Term.names⟩) := by
  have literals {terms : List (Term Number)} (within : ∀ term ∈ terms, term.IsWithin allowed) :
      terms.flatMap Term.literals = [] :=
    List.flatMap_eq_nil_iff.mpr fun term member => Term.literals_of_isWithin (within term member)
  have parts : Parts.ofTerms above below =
      .ofIntegers .empty ⟨above.flatMap Term.names, below.flatMap Term.names⟩ := by
    rw [Parts.ofTerms, literals withinAbove, literals withinBelow]
    rfl
  rw [Ratio.ofTerms, parts]
  exact ofParts_of_balanced Fraction.exponent_empty _

theorem isWithin_exponent {above below : List (Term Number)}
    (withinAbove : ∀ term ∈ above, term.IsWithin allowed)
    (withinBelow : ∀ term ∈ below, term.IsWithin allowed) :
    IsWithin allowed
      (Fraction.exponent ⟨above.flatMap Term.names, below.flatMap Term.names⟩) := by
  intro name nonzero
  rcases Fraction.mem_of_exponent_ne_zero nonzero with member | member
  · rcases List.mem_flatMap.mp member with ⟨term, termMember, nameMember⟩
    exact Term.allowed_of_mem_names (withinAbove term termMember) nameMember
  · rcases List.mem_flatMap.mp member with ⟨term, termMember, nameMember⟩
    exact Term.allowed_of_mem_names (withinBelow term termMember) nameMember

/-- However a ratio is built, it has no integer left and no name that is not allowed. -/
theorem IsBuiltFrom.exists_exponents (built : ratio.IsBuiltFrom allowed) :
    ∃ exponents, ratio.HasExponents (0, exponents) ∧ IsWithin allowed exponents := by
  induction built with
  | ofTerms withinAbove withinBelow made =>
      rw [ofTerms_of_isWithin withinAbove withinBelow] at made
      cases made
      exact ⟨_, hasExponents_names_iff.mpr ⟨_, rfl, rfl⟩,
        isWithin_exponent withinAbove withinBelow⟩
  | times builtLeft builtRight made inductionLeft inductionRight =>
      rcases inductionLeft with ⟨first, hasLeft, withinLeft⟩
      rcases inductionRight with ⟨second, hasRight, withinRight⟩
      exact ⟨_, by simpa using hasLeft.times hasRight made, withinLeft.add withinRight⟩
  | divide builtLeft builtRight made inductionLeft inductionRight =>
      rcases inductionLeft with ⟨first, hasLeft, withinLeft⟩
      rcases inductionRight with ⟨second, hasRight, withinRight⟩
      exact ⟨_, by simpa using hasLeft.divide hasRight made, withinLeft.sub withinRight⟩
  | @power base raised exponent builtBase made induction =>
      rcases induction with ⟨exponents, hasBase, withinBase⟩
      exact ⟨_, by simpa using hasBase.power made, withinBase.zsmul exponent⟩

theorem IsBuiltFrom.hasExponents (built : ratio.IsBuiltFrom allowed) :
    ratio.HasExponents (0, ratio.symbolic.exponent) ∧ IsWithin allowed ratio.symbolic.exponent := by
  rcases built.exists_exponents with ⟨exponents, has, within⟩
  have same : ratio.symbolic.exponent = exponents := has.symbolic
  rw [same]
  exact ⟨has, within⟩

theorem IsBuiltFrom.equals_iff {left right : Ratio Number} (builtLeft : left.IsBuiltFrom allowed)
    (builtRight : right.IsBuiltFrom allowed) (plain : ∀ name, allowed name → IsPlainName name) :
    left.equals right = true ↔ left.symbolic.exponent = right.symbolic.exponent := by
  rcases builtLeft.hasExponents with ⟨hasLeft, withinLeft⟩
  rcases builtRight.hasExponents with ⟨hasRight, withinRight⟩
  exact hasLeft.equals_iff hasRight (fun name nonzero => plain name (withinLeft name nonzero))
    fun name nonzero => plain name (withinRight name nonzero)

theorem isBuiltFrom_ofName {name : String} (permitted : allowed name) :
    (Ratio.ofName name).IsBuiltFrom allowed := by
  have above : ∀ term ∈ [(.name name : Term Number)], term.IsWithin allowed := by
    simpa [Term.IsWithin] using permitted
  have below : ∀ term ∈ ([] : List (Term Number)), term.IsWithin allowed := by simp
  refine .ofTerms above below ?_
  rw [ofTerms_of_isWithin above below]
  simp [Ratio.ofName]

theorem isBuiltFrom_one : (Ratio.one : Ratio Number).IsBuiltFrom allowed := by
  have blank : ∀ term ∈ ([] : List (Term Number)), term.IsWithin allowed := by simp
  exact .ofTerms blank blank (ofTerms_of_isWithin blank blank)

end Built

end Ratio

/-! ## Dimensions over the base dimensions -/

namespace Dimension

/-- The symbols of the seven base dimensions. -/
def baseSymbols : List String := ["L", "M", "T", "I", "θ", "N", "J"]

/-- The exponents of the base dimensions, in their order. -/
def exponentVector (dimension : Dimension Number) : List ℤ :=
  baseSymbols.map dimension.representation.symbolic.exponent

/-- Dimensions that have a name of their own, or come of such by multiplying, dividing or
raising to an integer. -/
inductive IsGenerated : Dimension Number → Prop
  | named {entry : String × Dimension Number} (member : entry ∈ Dimension.named) :
      IsGenerated entry.2
  | times {left right product : Dimension Number} (generatedLeft : IsGenerated left)
      (generatedRight : IsGenerated right) (made : left.times right = .ok product) :
      IsGenerated product
  | divide {left right quotient : Dimension Number} (generatedLeft : IsGenerated left)
      (generatedRight : IsGenerated right) (made : left.divide right = .ok quotient) :
      IsGenerated quotient
  | power {base raised : Dimension Number} {exponent : ℤ} (generatedBase : IsGenerated base)
      (made : base.power exponent = .ok raised) : IsGenerated raised

variable {dimension left right : Dimension Number}

theorem power_eq_ok {exponent : ℤ} :
    left.power exponent = .ok dimension ↔
      left.representation.power exponent = .ok dimension.representation :=
  ofRepresentation_eq_ok

theorem exists_symbol_of_mem_named : ∀ entry ∈ named,
    entry.2 = dimensionless ∨ ∃ symbol ∈ baseSymbols, entry.2 = ofSymbol symbol := by
  decide +kernel

theorem IsGenerated.isBuiltFrom (generated : dimension.IsGenerated) :
    dimension.representation.IsBuiltFrom (· ∈ baseSymbols) := by
  induction generated with
  | @named entry member =>
      rcases exists_symbol_of_mem_named entry member with equal | ⟨symbol, base, equal⟩
      · rw [equal]
        exact Ratio.isBuiltFrom_one
      · rw [equal]
        exact Ratio.isBuiltFrom_ofName base
  | times generatedLeft generatedRight made inductionLeft inductionRight =>
      exact .times inductionLeft inductionRight (times_eq_ok.mp made)
  | divide generatedLeft generatedRight made inductionLeft inductionRight =>
      exact .divide inductionLeft inductionRight (divide_eq_ok.mp made)
  | power generatedBase made induction => exact .power induction (power_eq_ok.mp made)

theorem isPlainName_of_mem_baseSymbols : ∀ symbol ∈ baseSymbols, IsPlainName symbol := by
  decide +kernel

/-- Over the base dimensions, all exponents agree when the seven of the vector do. -/
theorem exponentVector_eq_iff (generatedLeft : left.IsGenerated)
    (generatedRight : right.IsGenerated) :
    left.exponentVector = right.exponentVector ↔
      left.representation.symbolic.exponent = right.representation.symbolic.exponent := by
  rw [exponentVector, exponentVector, List.map_inj_left]
  constructor
  · intro same
    funext name
    by_cases base : name ∈ baseSymbols
    · exact same name base
    · have zero {dimension : Dimension Number} (generated : dimension.IsGenerated) :
          dimension.representation.symbolic.exponent name = 0 := by
        by_contra nonzero
        exact base (generated.isBuiltFrom.hasExponents.2 name nonzero)
      rw [zero generatedLeft, zero generatedRight]
  · intro same symbol _
    rw [same]

theorem equals_iff (generatedLeft : left.IsGenerated) (generatedRight : right.IsGenerated) :
    left.equals right = true ↔ left.exponentVector = right.exponentVector := by
  rw [exponentVector_eq_iff generatedLeft generatedRight]
  exact generatedLeft.isBuiltFrom.equals_iff generatedRight.isBuiltFrom
    isPlainName_of_mem_baseSymbols

end Dimension

/-! ## What a calculation can fail with

The faults of running arithmetic are its own, so a refused conversion is refused by the
check of dimensions and by nothing after it. -/

namespace Result

variable {α β : Type}

/-- Results that do not report two units that do not go together. -/
def IsAccepted (result : Result α) : Prop :=
  ∀ left right, result ≠ .error (.incompatible left right)

theorem isAccepted_ok (value : α) : IsAccepted (.ok value) := nofun

theorem IsAccepted.bind {first : Result α} {next : α → Result β} (accepted : first.IsAccepted)
    (acceptedNext : ∀ value, (next value).IsAccepted) : (first >>= next).IsAccepted := by
  cases first with
  | ok value => exact acceptedNext value
  | error fault =>
      intro left right failed
      cases failed
      exact accepted left right rfl

theorem isAccepted_foldlM {step : α → β → Result α}
    (accepted : ∀ value item, (step value item).IsAccepted) (items : List β) (value : α) :
    (items.foldlM step value).IsAccepted := by
  induction items generalizing value with
  | nil => exact isAccepted_ok value
  | cons item rest induction => exact (accepted value item).bind induction

end Result

namespace Number

theorem isAccepted_toDouble (number : Number) : number.toDouble.IsAccepted := by
  cases number with
  | float value => exact Result.isAccepted_ok value
  | int value =>
      simp only [toDouble]
      split <;> nofun

theorem isAccepted_combine (integers : ℤ → ℤ → ℤ) (doubles : Binary64 → Binary64 → Binary64)
    (left right : Number) : (combine integers doubles left right).IsAccepted := by
  unfold combine
  split
  · exact Result.isAccepted_ok _
  · exact (isAccepted_toDouble left).bind fun _ =>
      (isAccepted_toDouble right).bind fun _ => Result.isAccepted_ok _

theorem isAccepted_div (left right : Number) : (left.div right).IsAccepted := by
  unfold div
  split
  · unfold divideIntegers
    split
    · nofun
    · simp only
      split <;> nofun
  · refine (isAccepted_toDouble left).bind fun _ => (isAccepted_toDouble right).bind fun _ => ?_
    split <;> nofun

end Number

theorem Action.isAccepted_act (action : Action Number) (value : Number) :
    (action.act Arithmetic.constant value).IsAccepted := by
  cases action with
  | plus constant => exact Number.isAccepted_combine _ _ value constant
  | minus constant => exact Number.isAccepted_combine _ _ value constant
  | times constant => exact Number.isAccepted_combine _ _ value constant
  | dividedBy constant => exact Number.isAccepted_div value constant
  | negation => exact Result.isAccepted_ok _

/-! ## The check before a conversion -/

namespace Quantity

theorem isAccepted_convert {source target : StandardUnit}
    (compatible : source.dimension.equals target.dimension = true) (value : Number) :
    ((⟨value, source⟩ : StandardQuantity Number).convert target).IsAccepted := by
  rw [convert, requireCompatible_of_equals compatible, Result.ok_bind]
  split
  · exact Result.isAccepted_ok _
  · have toBase : (source.toBase value).IsAccepted :=
      Result.isAccepted_foldlM (fun current step => step.forward.isAccepted_act current) _ value
    refine toBase.bind fun base => ?_
    have fromBase : (target.fromBase base).IsAccepted :=
      Result.isAccepted_foldlM (fun current step => step.backward.isAccepted_act current) _ base
    exact fromBase.bind fun _ => Result.isAccepted_ok _

/-- Dimension checking is exact. Ratios built from plain names are equal exactly when
every name has the same exponent in both. Dimensions over the base dimensions are equal
exactly when their vectors are; with equal vectors a conversion is never refused as
incompatible, and with different ones it always is. -/
theorem dimension_check_exact :
    (∀ left right : Ratio Number, left.IsBuiltFrom IsPlainName → right.IsBuiltFrom IsPlainName →
      (left.equals right = true ↔
        ∀ name, left.symbolic.exponent name = right.symbolic.exponent name)) ∧
    (∀ left right : Dimension Number, left.IsGenerated → right.IsGenerated →
      (left.equals right = true ↔ left.exponentVector = right.exponentVector)) ∧
    (∀ source target : StandardUnit, source.dimension.IsGenerated → target.dimension.IsGenerated →
      ∀ value : Number,
        (source.dimension.exponentVector = target.dimension.exponentVector →
          ((⟨value, source⟩ : StandardQuantity Number).convert target).IsAccepted) ∧
        (source.dimension.exponentVector ≠ target.dimension.exponentVector →
          (⟨value, source⟩ : StandardQuantity Number).convert target =
            .error (.incompatible source.symbol target.symbol))) := by
  refine ⟨?_, fun _ _ => Dimension.equals_iff, ?_⟩
  · intro left right builtLeft builtRight
    rw [builtLeft.equals_iff builtRight fun _ => id]
    exact funext_iff
  · intro source target generatedSource generatedTarget value
    have exact := Dimension.equals_iff generatedSource generatedTarget
    constructor
    · intro same
      exact isAccepted_convert (exact.mpr same) value
    · intro different
      apply convert_of_not_equals value
      rw [← Bool.not_eq_true]
      exact fun compatible => different (exact.mp compatible)

/-- A product of names in both orders; forces, which convert, and an energy, which does not. -/
theorem dimension_check_exact_forces :
    let left : Ratio Number := .ofNames ⟨["kg", "m"], ["s", "s"]⟩
    let right : Ratio Number := .ofNames ⟨["m", "kg"], ["s", "s"]⟩
    let forces := [Catalogue.newton, Catalogue.kilogramForce, Catalogue.poundForce]
    (left.IsBuiltFrom IsPlainName ∧ right.IsBuiltFrom IsPlainName ∧ left.equals right = true) ∧
      (∀ force ∈ forces, force.dimension.IsGenerated) ∧ Catalogue.joule.dimension.IsGenerated ∧
      (∀ source ∈ forces, ∀ target ∈ forces,
        ((⟨1, source⟩ : StandardQuantity Number).convert target).IsAccepted) ∧
      ∀ force ∈ forces, (⟨1, force⟩ : StandardQuantity Number).convert Catalogue.joule =
        .error (.incompatible force.symbol "J") := by
  intro left right forces
  have aboveLeft : ∀ term ∈ [Term.name "kg", .literal (1 : Number), .name "m"],
      term.IsWithin IsPlainName := by
    simp [Term.IsWithin, isPlainName_iff, show Number.normalize 1 = .int 1 from rfl]
  have aboveRight : ∀ term ∈ ([.name "m", .name "kg"] : List (Term Number)),
      term.IsWithin IsPlainName := by
    simp [Term.IsWithin, isPlainName_iff]
  have below : ∀ term ∈ ([.name "s", .name "s"] : List (Term Number)),
      term.IsWithin IsPlainName := by
    simp [Term.IsWithin, isPlainName_iff]
  have builtLeft : left.IsBuiltFrom IsPlainName := .ofTerms aboveLeft below (by decide +kernel)
  have builtRight : right.IsBuiltFrom IsPlainName := .ofTerms aboveRight below (by decide +kernel)
  have memLength : ("LENGTH", Dimension.length) ∈ Dimension.named := by simp [Dimension.named]
  have memMass : ("MASS", Dimension.mass) ∈ Dimension.named := by simp [Dimension.named]
  have memTime : ("TIME", Dimension.time) ∈ Dimension.named := by simp [Dimension.named]
  have length : Dimension.length.IsGenerated := .named memLength
  have massLength : Dimension.IsGenerated ⟨Ratio.ofNames ⟨["L", "M"], []⟩⟩ :=
    .times length (.named memMass) (by decide +kernel)
  have squared : Dimension.time.power 2 = .ok ⟨Ratio.ofNames ⟨["T", "T"], []⟩⟩ := by
    decide +kernel
  have timeSquared := Dimension.IsGenerated.power (.named memTime) squared
  have newton : Catalogue.newton.dimension.IsGenerated :=
    .divide massLength timeSquared (by decide +kernel)
  have generated : ∀ force ∈ forces, force.dimension.IsGenerated := by
    intro force member
    have same : ∀ force ∈ forces, force.dimension = Catalogue.newton.dimension := by
      decide +kernel
    rw [same force member]
    exact newton
  have joule : Catalogue.joule.dimension.IsGenerated := .times newton length (by decide +kernel)
  refine ⟨⟨builtLeft, builtRight, ?_⟩, generated, joule, ?_, ?_⟩
  · refine (dimension_check_exact.1 left right builtLeft builtRight).mpr fun name => ?_
    simp only [left, right, Ratio.ofNames, Fraction.exponent_cancel]
    simp [Fraction.exponent, List.count_cons, add_comm]
  · intro source sourceMember target targetMember
    have same : ∀ source ∈ forces, ∀ target ∈ forces,
        source.dimension.exponentVector = target.dimension.exponentVector := by decide +kernel
    exact (dimension_check_exact.2.2 source target (generated source sourceMember)
      (generated target targetMember) 1).1 (same source sourceMember target targetMember)
  · intro force member
    have different : ∀ force ∈ forces,
        force.dimension.exponentVector ≠ Catalogue.joule.dimension.exponentVector := by
      decide +kernel
    exact (dimension_check_exact.2.2 force Catalogue.joule (generated force member) joule 1).2
      (different force member)

end Quantity
end Metrology
