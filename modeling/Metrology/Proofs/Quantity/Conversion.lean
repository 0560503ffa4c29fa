import Mathlib
import Metrology.Catalogue
import Metrology.Proofs.Conversion.Exact

/-!
Converting quantities, read exactly. Between units of one dimension a conversion
always succeeds, names the same base value, and does not depend on the way taken; the
shortcut for units of one symbol agrees as long as such units convert alike. Between
dimensions there is no conversion.
-/

namespace Metrology

/-- A quantity in a standard unit. -/
abbrev StandardQuantity (α : Type) : Type := Quantity (Dimension Number) Number α

namespace Dimension

variable {first second third : Dimension Number}

theorem equals_refl (dimension : Dimension Number) : dimension.equals dimension = true :=
  beq_self_eq_true _

theorem equals_comm (first second : Dimension Number) :
    first.equals second = second.equals first := Ratio.equals_comm _ _

theorem equals_symm (equal : first.equals second = true) : second.equals first = true := by
  rwa [equals_comm]

theorem equals_trans (before : first.equals second = true) (after : second.equals third = true) :
    first.equals third = true :=
  beq_iff_eq.mpr ((eq_of_beq before).trans (eq_of_beq after))

end Dimension

theorem MeasurementUnit.equals_comm (left right : StandardUnit) :
    left.equals right = right.equals left := Ratio.equals_comm _ _

/-- Units that convert into one another: by scales and offsets, within one dimension,
and alike where they are written alike. -/
structure Commensurable (units : List StandardUnit) : Prop where
  affine : ∀ unit ∈ units, unit.conversion.IsAffine
  sameDimension : ∀ left ∈ units, ∀ right ∈ units, left.dimension.equals right.dimension = true
  sameSymbol : ∀ left ∈ units, ∀ right ∈ units, left.equals right = true →
    ∀ value : ℚ, left.toBase value = right.toBase value

theorem eq_of_equals_of_nodup {units : List StandardUnit}
    (different : (units.map MeasurementUnit.symbol).Nodup) {left right : StandardUnit}
    (leftMember : left ∈ units) (rightMember : right ∈ units) (same : left.equals right = true) :
    left = right :=
  List.inj_on_of_nodup_map different leftMember rightMember (eq_of_beq same)

/-- Units under symbols that are all different need no further consistency. -/
theorem commensurable_of_nodup {units : List StandardUnit}
    (affine : ∀ unit ∈ units, unit.conversion.IsAffine)
    (sameDimension : ∀ left ∈ units, ∀ right ∈ units,
      left.dimension.equals right.dimension = true)
    (different : (units.map MeasurementUnit.symbol).Nodup) : Commensurable units := by
  refine ⟨affine, sameDimension, ?_⟩
  intro left leftMember right rightMember same value
  rw [eq_of_equals_of_nodup different leftMember rightMember same]

namespace Quantity

/-! ## Compatibility -/

section Compatibility

variable {α : Type} {left right : StandardUnit}

theorem requireCompatible_of_equals (compatible : left.dimension.equals right.dimension = true) :
    requireCompatible left right = .ok ⟨⟩ := by
  change (if left.dimension.equals right.dimension = true then pure PUnit.unit
    else throw (.incompatible left.symbol right.symbol) : Result PUnit) = _
  rw [if_pos compatible]
  rfl

theorem requireCompatible_of_not_equals
    (different : left.dimension.equals right.dimension = false) :
    requireCompatible left right = .error (.incompatible left.symbol right.symbol) := by
  change (if left.dimension.equals right.dimension = true then pure PUnit.unit
    else throw (.incompatible left.symbol right.symbol) : Result PUnit) = _
  rw [different]
  rfl

/-- No magnitude is converted into a unit of another dimension. -/
theorem convert_of_not_equals [Arithmetic α] (value : α)
    (different : left.dimension.equals right.dimension = false) :
    (⟨value, left⟩ : StandardQuantity α).convert right =
      .error (.incompatible left.symbol right.symbol) := by
  rw [convert, requireCompatible_of_not_equals different, Result.error_bind]

end Compatibility

/-! ## One conversion -/

/-- A conversion within one dimension goes through the base value, whether or not the
shortcut for equal units is taken; the unit it ends in is one of the two. -/
theorem exists_convert {source target : StandardUnit} {first second : Equiv.Perm ℚ}
    (sourceRuns : source.conversion.Realizes first)
    (targetRuns : target.conversion.Realizes second)
    (compatible : source.dimension.equals target.dimension = true)
    (consistent : source.equals target = true → first = second) (value : ℚ) :
    ∃ unit ∈ [source, target], unit.equals target = true ∧ unit.conversion.Realizes second ∧
      (⟨value, source⟩ : StandardQuantity ℚ).convert target =
        .ok ⟨second.symm (first value), unit⟩ := by
  rw [convert, requireCompatible_of_equals compatible, Result.ok_bind]
  by_cases same : source.equals target = true
  · have equal := consistent same
    subst equal
    refine ⟨source, List.mem_cons_self .., same, sourceRuns, ?_⟩
    rw [if_pos same, Equiv.symm_apply_apply]
    rfl
  · refine ⟨target, by simp, beq_self_eq_true _, targetRuns, ?_⟩
    have toBase : source.toBase value = .ok (first value) := (sourceRuns value).1
    have fromBase : target.fromBase (first value) = .ok (second.symm (first value)) :=
      (targetRuns (first value)).2
    rw [if_neg same, toBase, Result.ok_bind, fromBase]
    rfl

/-! ## Coherence -/

/-- Among commensurable units a conversion takes what the source runs as and takes back
what the target runs as, and ends in one of the units. -/
theorem exists_convert_of_commensurable {units : List StandardUnit}
    (commensurable : Commensurable units) {source target : StandardUnit} (sourceMember : source ∈ units)
    (targetMember : target ∈ units) {first second : Equiv.Perm ℚ}
    (sourceRuns : source.conversion.Realizes first)
    (targetRuns : target.conversion.Realizes second) (value : ℚ) :
    ∃ unit ∈ units, unit.equals target = true ∧ unit.conversion.Realizes second ∧
      (⟨value, source⟩ : StandardQuantity ℚ).convert target =
        .ok ⟨second.symm (first value), unit⟩ := by
  have consistent (same : source.equals target = true) : first = second :=
    sourceRuns.eq_of_apply_eq targetRuns
      (commensurable.sameSymbol source sourceMember target targetMember same)
  rcases exists_convert sourceRuns targetRuns
    (commensurable.sameDimension source sourceMember target targetMember) consistent value with
    ⟨unit, member, symbol, runs, converted⟩
  refine ⟨unit, ?_, symbol, runs, converted⟩
  rcases List.mem_pair.mp member with rfl | rfl
  · exact sourceMember
  · exact targetMember

/-- Conversion is coherent. Within a dimension it succeeds, keeps the base value,
reaches a third unit with the same magnitude by any way, and comes back to where it
started. Across dimensions it is refused, whatever the magnitude. -/
theorem conversion_coherent :
    (∀ u v w : StandardUnit, Commensurable [u, v, w] → ∀ value : ℚ,
      ∃ converted : StandardQuantity ℚ,
        (⟨value, u⟩ : StandardQuantity ℚ).convert v = .ok converted ∧
        converted.unit.equals v = true ∧
        (∃ base, (⟨value, u⟩ : StandardQuantity ℚ).toBase = .ok base ∧
          converted.toBase = .ok base) ∧
        (∃ onward direct : StandardQuantity ℚ, converted.convert w = .ok onward ∧
          (⟨value, u⟩ : StandardQuantity ℚ).convert w = .ok direct ∧
          onward.value = direct.value) ∧
        ∃ back : StandardQuantity ℚ, converted.convert u = .ok back ∧ back.value = value) ∧
    (∀ (α : Type) [Arithmetic α] (u v : StandardUnit) (value : α),
      u.dimension.equals v.dimension = false →
        (⟨value, u⟩ : StandardQuantity α).convert v =
          .error (.incompatible u.symbol v.symbol)) := by
  constructor
  · intro u v w units value
    have memberU : u ∈ [u, v, w] := by simp
    have memberV : v ∈ [u, v, w] := by simp
    have memberW : w ∈ [u, v, w] := by simp
    rcases (units.affine u memberU).exists_realizes with ⟨f, runsU⟩
    rcases (units.affine v memberV).exists_realizes with ⟨g, runsV⟩
    rcases (units.affine w memberW).exists_realizes with ⟨h, runsW⟩
    -- The unit reached is `u` or `v`, and in both cases runs as `v` does.
    rcases exists_convert_of_commensurable units memberU memberV runsU runsV value with
      ⟨middle, memberMiddle, symbol, runsMiddle, converted⟩
    rcases exists_convert_of_commensurable units memberMiddle memberW runsMiddle runsW (g.symm (f value)) with
      ⟨_, _, _, _, onward⟩
    rcases exists_convert_of_commensurable units memberU memberW runsU runsW value with ⟨_, _, _, _, direct⟩
    rcases exists_convert_of_commensurable units memberMiddle memberU runsMiddle runsU (g.symm (f value)) with
      ⟨_, _, _, _, back⟩
    refine ⟨_, converted, symbol, ⟨f value, (runsU value).1, ?_⟩,
      ⟨_, _, onward, direct, ?_⟩, ⟨_, back, ?_⟩⟩
    · exact (runsMiddle _).1.trans (by rw [Equiv.apply_symm_apply])
    · simp
    · simp
  · intro α arithmetic u v value different
    exact convert_of_not_equals value different

/-- Degrees, whose offsets stand before their scales, and kelvins; but no lengths. -/
theorem conversion_coherent_temperatures :
    (Commensurable [Catalogue.celsius, Catalogue.fahrenheit, Catalogue.kelvin] ∧
      ∃ converted : StandardQuantity ℚ,
        (⟨100, Catalogue.celsius⟩ : StandardQuantity ℚ).convert Catalogue.fahrenheit =
          .ok converted ∧
        ∃ back : StandardQuantity ℚ,
          converted.convert Catalogue.celsius = .ok back ∧ back.value = 100) ∧
      Catalogue.celsius.dimension.equals Catalogue.metre.dimension = false ∧
      (⟨100, Catalogue.celsius⟩ : StandardQuantity ℚ).convert Catalogue.metre =
        .error (.incompatible Catalogue.celsius.symbol Catalogue.metre.symbol) := by
  have units : Commensurable [Catalogue.celsius, Catalogue.fahrenheit, Catalogue.kelvin] :=
    commensurable_of_nodup (by decide +kernel) (by decide +kernel) (by decide +kernel)
  have different : Catalogue.celsius.dimension.equals Catalogue.metre.dimension = false := by
    decide +kernel
  rcases conversion_coherent.1 _ _ _ units 100 with ⟨converted, made, _, _, _, back⟩
  exact ⟨⟨units, converted, made, back⟩, different,
    conversion_coherent.2 ℚ Catalogue.celsius Catalogue.metre 100 different⟩

end Quantity
end Metrology
