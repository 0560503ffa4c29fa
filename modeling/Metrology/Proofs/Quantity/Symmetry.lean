import Mathlib
import Metrology.Proofs.Quantity.Comparison

/-!
Equality of integer quantities, as it is run. It reads the right quantity in the unit of the
left one, so that the two directions go through different conversions. They can only disagree
on quantities whose base values are no farther apart than the noise of the conversions.
-/

namespace Metrology

attribute [local irreducible] Binary64.one

open Binary64 (roundoff roundoff_pos)
open Number (Lost)

/-! ## Units under one symbol -/

namespace Catalogue

/-- Entries of the catalogue that have one unit if their units are written alike. -/
def Agree (entry other : String × StandardUnit) : Prop :=
  entry.2.symbol = other.2.symbol → entry.2 = other.2

instance : DecidableRel Agree :=
  fun entry other => inferInstanceAs (Decidable (entry.2.symbol = other.2.symbol → _))

instance : Std.Symm Agree := ⟨fun _ _ agree written => (agree written.symm).symm⟩

/-- Units of the catalogue that are written alike are the same. -/
theorem unit_eq_of_equals {entry other : String × StandardUnit}
    (member : entry ∈ standard.entries) (otherMember : other ∈ standard.entries)
    (same : entry.2.equals other.2 = true) : entry.2 = other.2 := by
  have agree : standard.entries.Pairwise Agree := by decide +kernel
  exact agree.forall_of_forall (fun _ _ _ => rfl) member otherMember (eq_of_beq same)

end Catalogue

namespace Quantity

variable {u v : StandardUnit}

/-- So many of a unit. -/
def ofInt (value : ℤ) (unit : StandardUnit) : StandardQuantity Number := ⟨.int value, unit⟩

/-- The same quantity, read exactly. -/
def exactly (value : ℤ) (unit : StandardUnit) : StandardQuantity ℚ := ⟨value, unit⟩

/-- How far apart the noise of conversions may bring the base values of two quantities: 64
roundings of magnitudes as large as the conversions reach. -/
def noise (left right : StandardQuantity ℚ) : ℚ :=
  64 * roundoff *
    (left.unit.conversion.reach |left.value| + right.unit.conversion.reach |right.value|)

theorem noise_comm (left right : StandardQuantity ℚ) : noise left right = noise right left := by
  rw [noise, noise, add_comm]

/-- The conversion of an integer quantity gives what the exact conversion gives. -/
def ConvertsExactly (value : ℤ) (source target : StandardUnit) : Prop :=
  ∃ converted amount, (ofInt value source).convert target = .ok converted ∧
    (exactly value source).convert target = .ok amount ∧
      converted.value.exact? = some amount.value

theorem ConvertsExactly.given {value : ℤ} (converts : ConvertsExactly value u v)
    {converted : StandardQuantity Number} {amount : StandardQuantity ℚ}
    (conversion : (ofInt value u).convert v = .ok converted)
    (exactConversion : (exactly value u).convert v = .ok amount) :
    converted.value.exact? = some amount.value := by
  rcases converts with ⟨_, _, same, exactSame, given⟩
  rw [← Except.ok.inj (same.symm.trans conversion),
    ← Except.ok.inj (exactSame.symm.trans exactConversion)]
  exact given

/-! ## Conversion between two symbols -/

theorem convert_eq_bind {α : Type} [Arithmetic α] (value : α)
    (compatible : u.dimension.equals v.dimension = true) (different : u.equals v = false) :
    (⟨value, u⟩ : StandardQuantity α).convert v =
      (u.toBase value >>= v.fromBase) >>= fun reading => .ok ⟨reading, v⟩ := by
  rw [convert, requireCompatible_of_equals compatible, Result.ok_bind, different, bind_assoc]
  rfl

theorem same_of_symbols (x y : ℤ) (compatible : u.dimension.equals v.dimension = true)
    (same : u.equals v = true) : (ofInt x u).same (ofInt y v) = .ok (decide (x = y)) := by
  rw [MeasurementUnit.equals_comm] at same
  have converted : (ofInt y v).convert u = .ok (ofInt y v) := by
    rw [ofInt, convert, requireCompatible_of_equals (Dimension.equals_symm compatible),
      Result.ok_bind]
    exact if_pos same
  have equal : (Number.int x).equals (.int y) = decide (x = y) := by
    rw [Number.equals_eq_decide (Number.exact?_int x) (Number.exact?_int y)]
    simp
  rw [same_eq_bind compatible]
  change (ofInt y v).convert u >>= _ = _
  rw [converted, ← equal]
  rfl

theorem same_of_readings (x y : ℤ) (compatible : u.dimension.equals v.dimension = true)
    (different : u.equals v = false) :
    (ofInt x u).same (ofInt y v) = (v.conversion.apply (Number.int y) >>= u.conversion.unapply) >>=
      fun reading => .ok ((Number.int x).equals reading) := by
  rw [MeasurementUnit.equals_comm] at different
  rw [same_eq_bind compatible]
  change (⟨.int y, v⟩ : StandardQuantity Number).convert u >>= _ = _
  rw [convert_eq_bind _ (Dimension.equals_symm compatible) different, bind_assoc]
  rfl

theorem exactly_convert (moderateU : u.conversion.IsModerate) (moderateV : v.conversion.IsModerate)
    (compatible : u.dimension.equals v.dimension = true) (different : u.equals v = false)
    (value : ℤ) :
    (exactly value u).convert v =
      .ok ⟨v.conversion.inverse.image (u.conversion.image value), v⟩ := by
  have toBase : u.toBase (value : ℚ) = .ok (u.conversion.image value) :=
    Pipeline.apply_rational moderateU.steady value
  have fromBase (base : ℚ) : v.fromBase base = .ok (v.conversion.inverse.image base) := by
    rw [MeasurementUnit.fromBase, ← Pipeline.apply_inverse]
    exact Pipeline.apply_rational (moderateV.steady.inverse moderateV.increasing) base
  rw [exactly, convert_eq_bind _ compatible different, toBase, Result.ok_bind, fromBase]
  rfl

/-! ## One direction -/

theorem reach_zero_le (moderate : u.conversion.IsModerate) (value : ℚ) :
    u.conversion.reach 0 ≤ u.conversion.reach |value| := by
  rw [moderate.increasing.reach_eq |value|]
  exact le_add_of_nonneg_left (mul_nonneg (abs_nonneg value) moderate.increasing.scale_pos.le)

/-- A reading that is equal to a magnitude is no farther from it, in the base unit, than noise. -/
theorem abs_sub_le_noise (moderateU : u.conversion.IsModerate)
    (moderateV : v.conversion.IsModerate) {x y : ℤ}
    (near : IsNear (2 * v.conversion.steps.length + 2 * u.conversion.steps.length)
      (u.conversion.inverse.reach (v.conversion.reach |(y : ℚ)|))
      (u.conversion.inverse.image (v.conversion.image y)) x) :
    |u.conversion.image x - v.conversion.image y| ≤ noise (exactly x u) (exactly y v) := by
  have increasing := moderateU.increasing
  have positive := increasing.scale_pos
  have shortU := moderateU.short
  have shortV := moderateV.short
  have slack : growth (2 * v.conversion.steps.length + 2 * u.conversion.steps.length) - 1 ≤
      64 * roundoff := sub_le_iff_le_add'.mpr (growth_le (by omega))
  have moved := increasing.image_sub_image moderateU.steady x
    (u.conversion.inverse.image (v.conversion.image y))
  rw [increasing.image_image_inverse moderateU.steady] at moved
  calc |u.conversion.image x - v.conversion.image y|
      = u.conversion.scale * |(x : ℚ) - u.conversion.inverse.image (v.conversion.image y)| := by
        rw [moved, abs_mul, abs_of_pos positive, mul_comm]
    _ ≤ u.conversion.scale *
          (64 * roundoff * u.conversion.inverse.reach (v.conversion.reach |(y : ℚ)|)) := by
        gcongr
        exact near.error.trans (mul_le_mul_of_nonneg_right slack near.distance_nonneg)
    _ = 64 * roundoff * (u.conversion.reach 0 + v.conversion.reach |(y : ℚ)|) := by
        rw [mul_left_comm, increasing.scale_mul_reach_inverse, add_comm]
    _ ≤ noise (exactly x u) (exactly y v) := by
        have notNegative := roundoff_pos.le
        exact mul_le_mul_of_nonneg_left (add_le_add_left (reach_zero_le moderateU _) _)
          (by positivity)

/-- What one comparison of integer quantities says about their base values. -/
structure ComparesNear (left right : StandardQuantity ℚ) (x y : ℚ) (converts : Prop)
    (outcome : Result Bool) : Prop where
  returns : (∃ equal, outcome = .ok equal) ∨ outcome = .error .overflow ∧ 10 ^ 250 < |right.value|
  near : outcome = .ok true → |x - y| ≤ noise left right
  exact : converts → outcome = .ok (decide (x = y))

theorem comparesNear_of_symbols (moderate : u.conversion.IsModerate) (x y : ℤ) :
    ComparesNear (exactly x u) (exactly y u) (u.conversion.image x) (u.conversion.image y)
      (ConvertsExactly y u u) ((ofInt x u).same (ofInt y u)) := by
  have compared := same_of_symbols x y (Dimension.equals_refl u.dimension) (beq_self_eq_true _)
  have moved := moderate.increasing.image_sub_image moderate.steady x y
  have same : u.conversion.image x = u.conversion.image y ↔ x = y := by
    rw [← sub_eq_zero, moved, mul_eq_zero, or_iff_left moderate.increasing.scale_pos.ne',
      sub_eq_zero, Int.cast_inj]
  refine ⟨.inl ⟨_, compared⟩, fun equal => ?_, fun _ => ?_⟩
  · rw [compared, Except.ok.injEq, decide_eq_true_eq] at equal
    rw [same.mpr equal, sub_self, abs_zero]
    have notNegative := roundoff_pos.le
    exact mul_nonneg (by positivity) (add_nonneg (Pipeline.reach_nonneg (abs_nonneg _))
      (Pipeline.reach_nonneg (abs_nonneg _)))
  · rw [compared, decide_eq_decide.mpr same]

theorem comparesNear_of_different (moderateU : u.conversion.IsModerate)
    (moderateV : v.conversion.IsModerate) (compatible : u.dimension.equals v.dimension = true)
    (different : u.equals v = false) (x y : ℤ) :
    ComparesNear (exactly x u) (exactly y v) (u.conversion.image x) (v.conversion.image y)
      (ConvertsExactly y v u) ((ofInt x u).same (ofInt y v)) := by
  have compatibleBack := Dimension.equals_symm compatible
  have differentBack : v.equals u = false := by rwa [MeasurementUnit.equals_comm]
  have converted : (ofInt y v).convert u =
      (v.conversion.apply (Number.int y) >>= u.conversion.unapply) >>=
        fun reading => .ok ⟨reading, u⟩ := convert_eq_bind _ compatibleBack differentBack
  have convertedExactly := exactly_convert moderateV moderateU compatibleBack differentBack y
  have large (beyond : 10 ^ 250 < |y|) : (10 ^ 250 : ℚ) < |(y : ℚ)| := by exact_mod_cast beyond
  rw [same_of_readings x y compatible different]
  rcases moderateV.apply_unapply_near moderateU y with
    ⟨reading, amount, made, given, near⟩ | ⟨failed | ⟨reading, made, outside⟩, beyond⟩
  · rw [made] at converted ⊢
    have equal := Number.equals_eq_decide (Number.exact?_int x) given
    refine ⟨.inl ⟨_, rfl⟩, fun isTrue => ?_, fun converts => ?_⟩
    · rw [Result.ok_bind, equal, Except.ok.injEq, decide_eq_true_eq] at isTrue
      exact abs_sub_le_noise moderateU moderateV (isTrue ▸ near)
    · have exactReading : amount = u.conversion.inverse.image (v.conversion.image y) :=
        Option.some.inj (given.symm.trans (converts.given converted convertedExactly))
      have moved := moderateU.increasing.image_sub_image moderateU.steady x amount
      rw [exactReading, moderateU.increasing.image_image_inverse moderateU.steady] at moved
      have same : (x : ℚ) = amount ↔ u.conversion.image x = v.conversion.image y := by
        rw [← sub_eq_zero, ← sub_eq_zero (b := v.conversion.image y), moved, exactReading,
          mul_eq_zero, or_iff_left moderateU.increasing.scale_pos.ne']
      rw [Result.ok_bind, equal, decide_eq_decide.mpr same]
  · rw [failed] at converted ⊢
    refine ⟨.inr ⟨rfl, large beyond⟩, nofun, ?_⟩
    rintro ⟨_, _, conversion, _⟩
    exact absurd (converted.symm.trans conversion) nofun
  · rw [made] at converted ⊢
    rw [Result.ok_bind, Number.equals_eq_false (Number.exact?_int x) outside]
    refine ⟨.inl ⟨_, rfl⟩, nofun, fun converts => ?_⟩
    have given := converts.given converted convertedExactly
    exact absurd (outside.symm.trans given) nofun

theorem comparesNear {first second : String × StandardUnit}
    (member : first ∈ Catalogue.standard.entries)
    (otherMember : second ∈ Catalogue.standard.entries)
    (compatible : first.2.dimension.equals second.2.dimension = true) (x y : ℤ) :
    ComparesNear (exactly x first.2) (exactly y second.2) (first.2.conversion.image x)
      (second.2.conversion.image y) (ConvertsExactly y second.2 first.2)
      ((ofInt x first.2).same (ofInt y second.2)) := by
  by_cases same : first.2.equals second.2 = true
  · rw [← Catalogue.unit_eq_of_equals member otherMember same]
    exact comparesNear_of_symbols (Catalogue.isModerate member) x y
  · exact comparesNear_of_different (Catalogue.isModerate member)
      (Catalogue.isModerate otherMember) compatible (Bool.eq_false_iff.mpr same) x y

/-! ## Both directions -/

theorem ComparesNear.eq_false {left right : StandardQuantity ℚ} {x y : ℚ} {converts : Prop}
    {outcome : Result Bool} (compared : ComparesNear left right x y converts outcome)
    (small : |right.value| ≤ 10 ^ 250) (far : noise left right < |x - y|) :
    outcome = .ok false := by
  rcases compared.returns with ⟨_ | _, returned⟩ | ⟨_, large⟩
  · exact returned
  · exact absurd (compared.near returned) (not_le.mpr far)
  · exact absurd large (not_lt.mpr small)

/-- Both comparisons of two integer quantities of one dimension return, unless the magnitude
that is converted is too large. They are never true of base values that lie farther apart than
noise, and each is what the base values say where its conversion is exact. -/
theorem symmetric_beyond_noise :
    ∀ first ∈ Catalogue.standard.entries, ∀ second ∈ Catalogue.standard.entries,
      first.2.dimension.equals second.2.dimension = true → ∀ x y : ℤ,
        ∃ X Y : ℚ, (exactly x first.2).toBase = .ok X ∧ (exactly y second.2).toBase = .ok Y ∧
          ComparesNear (exactly x first.2) (exactly y second.2) X Y
            (ConvertsExactly y second.2 first.2) ((ofInt x first.2).same (ofInt y second.2)) ∧
          ComparesNear (exactly y second.2) (exactly x first.2) Y X
            (ConvertsExactly x first.2 second.2) ((ofInt y second.2).same (ofInt x first.2)) ∧
          (first.2.equals second.2 = true →
            (ofInt x first.2).same (ofInt y second.2) = .ok (decide (x = y)) ∧
              (ofInt y second.2).same (ofInt x first.2) = .ok (decide (x = y))) ∧
          (|x| ≤ 10 ^ 250 → |y| ≤ 10 ^ 250 →
            noise (exactly x first.2) (exactly y second.2) < |X - Y| →
              (ofInt x first.2).same (ofInt y second.2) = .ok false ∧
                (ofInt y second.2).same (ofInt x first.2) = .ok false) := by
  intro first member second otherMember compatible x y
  have compatibleBack := Dimension.equals_symm compatible
  have forth := comparesNear member otherMember compatible x y
  have back := comparesNear otherMember member compatibleBack y x
  refine ⟨_, _, Pipeline.apply_rational (Catalogue.isModerate member).steady x,
    Pipeline.apply_rational (Catalogue.isModerate otherMember).steady y, forth, back, ?_, ?_⟩
  · intro same
    have sameBack : second.2.equals first.2 = true := by rwa [MeasurementUnit.equals_comm]
    refine ⟨same_of_symbols x y compatible same, ?_⟩
    rw [same_of_symbols y x compatibleBack sameBack, decide_eq_decide.mpr eq_comm]
  · intro smallX smallY far
    have boundX : |(x : ℚ)| ≤ 10 ^ 250 := by exact_mod_cast smallX
    have boundY : |(y : ℚ)| ≤ 10 ^ 250 := by exact_mod_cast smallY
    refine ⟨forth.eq_false boundY far, back.eq_false boundX ?_⟩
    rwa [noise_comm, abs_sub_comm]

/-- Three feet are shorter than a metre by far more than noise. -/
theorem symmetric_beyond_noise_feet :
    ("FOOT", Catalogue.foot) ∈ Catalogue.standard.entries ∧
      ("METRE", Catalogue.metre) ∈ Catalogue.standard.entries ∧
      Catalogue.foot.dimension.equals Catalogue.metre.dimension = true ∧
      noise (exactly 3 Catalogue.foot) (exactly 1 Catalogue.metre) < |9144 / 10000 - 1| ∧
      (ofInt 3 Catalogue.foot).same (ofInt 1 Catalogue.metre) = .ok false ∧
      (ofInt 1 Catalogue.metre).same (ofInt 3 Catalogue.foot) = .ok false := by
  have foot : ("FOOT", Catalogue.foot) ∈ Catalogue.standard.entries := by decide +kernel
  have metre : ("METRE", Catalogue.metre) ∈ Catalogue.standard.entries := by decide +kernel
  have compatible : Catalogue.foot.dimension.equals Catalogue.metre.dimension = true := by
    decide +kernel
  have far : noise (exactly 3 Catalogue.foot) (exactly 1 Catalogue.metre) <
      |9144 / 10000 - 1| := by decide +kernel
  have footBase : (exactly 3 Catalogue.foot).toBase = .ok (9144 / 10000) := by decide +kernel
  have metreBase : (exactly 1 Catalogue.metre).toBase = .ok 1 := by decide +kernel
  rcases symmetric_beyond_noise _ foot _ metre compatible 3 1 with
    ⟨X, Y, baseX, baseY, _, _, _, apart⟩
  have sameX : X = 9144 / 10000 := Except.ok.inj (baseX.symm.trans footBase)
  have sameY : Y = 1 := Except.ok.inj (baseY.symm.trans metreBase)
  exact ⟨foot, metre, compatible, far,
    apart (by norm_num) (by norm_num) (by rw [sameX, sameY]; exact far)⟩

/-- Three feet read in yards are one, but a yard read in feet is a little more than three; and
too many metres cannot be read in kilometres, though a kilometre can be read in metres. -/
theorem equality_one_sided :
    (Catalogue.foot.dimension.equals Catalogue.yard.dimension = true ∧
      (ofInt 1 Catalogue.yard).same (ofInt 3 Catalogue.foot) = .ok true ∧
      (ofInt 3 Catalogue.foot).same (ofInt 1 Catalogue.yard) = .ok false) ∧
    Catalogue.metre.dimension.equals Catalogue.kilometre.dimension = true ∧
      (ofInt (10 ^ 400 : ℕ) Catalogue.metre).same (ofInt 1 Catalogue.kilometre) = .ok false ∧
      (ofInt 1 Catalogue.kilometre).same (ofInt (10 ^ 400 : ℕ) Catalogue.metre) =
        .error .overflow := by
  decide +kernel

end Quantity
end Metrology
