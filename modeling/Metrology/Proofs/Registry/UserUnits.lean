import Mathlib
import Metrology.Proofs.Registry.History

/-!
Where the units that users registered are found. A user unit was registered under its own
symbol when that was free, and has not been dropped by restoring since. From then on the symbol
stays bound, and only an alias can bind it to something else: what is looked up is the unit for
which the last alias took the symbol over, or else the user unit.
-/

namespace Metrology
namespace Registry

/-! ## Aliases that take a symbol over -/

/-- The unit for which a call takes over a symbol: an alias binds it to what another symbol is
bound to. -/
def takeover? (registry : UnitRegistry) (key : String) : Change → Option StandardUnit
  | .addAlias existing new =>
      if normalizeSymbol new = key then registry.find? existing else none
  | _ => none

/-- The units for which a sequence of calls takes over a symbol, one after the other. -/
def takeovers (registry : UnitRegistry) (key : String) : List Change → List StandardUnit
  | [] => []
  | change :: rest =>
      (registry.takeover? key change).toList ++ takeovers (registry.next change) key rest

variable {registry : UnitRegistry} {key : String} {unit held : StandardUnit}
  {changes : List Change}

/-- A symbol that is bound stays bound, to the same unit unless it is taken over. -/
theorem get?_next (bound : registry.bound.get? key = some held) {change : Change}
    (keeps : change ≠ .restore) :
    (registry.next change).bound.get? key =
      some ((registry.takeover? key change).getD held) := by
  cases change with
  | register unit =>
      cases found : registry.bound.get? (normalizeSymbol unit.symbol) with
      | some other =>
          rw [next, perform, register_of_some found]
          exact bound
      | none =>
          have different : key ≠ normalizeSymbol unit.symbol := by
            rintro rfl
            rw [found] at bound
            cases bound
          rw [next, perform, register_of_none found]
          exact (Table.get?_put_of_ne different unit registry.bound).trans bound
  | addAlias existing new =>
      cases found : registry.bound.get? (normalizeSymbol existing) with
      | none =>
          rw [next, perform, addAlias_of_none found, takeover?, find?_eq_get?, found, ite_self]
          exact bound
      | some unit =>
          rw [next, perform, addAlias_of_some found, takeover?, find?_eq_get?, found]
          dsimp only
          rw [Table.get?_put]
          by_cases same : normalizeSymbol new = key
          · rw [if_pos same.symm, if_pos same, Option.getD_some]
          · rw [if_neg (Ne.symm same), if_neg same, Option.getD_none]
            exact bound
  | restore => exact absurd rfl keeps

theorem getLastD_append_toList (taken : Option StandardUnit) (rest : List StandardUnit)
    (held : StandardUnit) :
    (taken.toList ++ rest).getLastD held = rest.getLastD (taken.getD held) := by
  cases taken with
  | none => rfl
  | some unit => exact List.getLastD_cons ..

theorem after_append (registry : UnitRegistry) (front back : List Change) :
    registry.after (front ++ back) = (registry.after front).after back :=
  List.foldl_append ..

theorem after_cons (registry : UnitRegistry) (change : Change) (rest : List Change) :
    registry.after (change :: rest) = (registry.next change).after rest := rfl

/-- What a bound symbol is bound to after calls that do not restore. -/
theorem get?_after (bound : registry.bound.get? key = some held)
    (keeps : Change.restore ∉ changes) :
    (registry.after changes).bound.get? key =
      some ((registry.takeovers key changes).getLastD held) := by
  induction changes generalizing registry held with
  | nil => exact bound
  | cons change rest induction =>
      have kept := not_or.mp (List.mem_cons.not.mp keeps)
      have stepped := get?_next bound (Ne.symm kept.1)
      rw [after_cons, takeovers, getLastD_append_toList]
      exact induction stepped kept.2

/-- Without an alias to a symbol it is not taken over. -/
theorem takeovers_eq_nil
    (free : ∀ existing new, Change.addAlias existing new ∈ changes → normalizeSymbol new ≠ key) :
    registry.takeovers key changes = [] := by
  induction changes generalizing registry with
  | nil => rfl
  | cons change rest induction =>
      have none : registry.takeover? key change = none := by
        cases change with
        | addAlias existing new =>
            rw [takeover?, if_neg (free existing new (List.mem_cons_self ..))]
        | register unit => rfl
        | restore => rfl
      rw [takeovers, none]
      exact induction fun existing new member =>
        free existing new (List.mem_cons_of_mem _ member)

/-! ## Where user units come from -/

/-- The call that registered a user unit, between the calls before it, which leave its symbol
free, and those after it, which do not restore. -/
structure Registers (registry : UnitRegistry) (changes : List Change) (key : String)
    (unit : StandardUnit) (earlier later : List Change) : Prop where
  split : changes = earlier ++ .register unit :: later
  own : key = normalizeSymbol unit.symbol
  free : (registry.after earlier).bound.get? key = none
  keeps : Change.restore ∉ later

theorem Registers.append {earlier later : List Change}
    (registers : Registers registry changes key unit earlier later) {change : Change}
    (keeps : change ≠ .restore) :
    Registers registry (changes ++ [change]) key unit earlier (later ++ [change]) where
  split := by rw [registers.split, List.append_assoc, List.cons_append]
  own := registers.own
  free := registers.free
  keeps := by
    rw [List.mem_append, List.mem_singleton, not_or]
    exact ⟨registers.keeps, Ne.symm keeps⟩

/-- A call that makes a user unit registers it; all other user units were there before. -/
theorem user_next {change : Change} (isUser : (registry.next change).user.get? key = some unit) :
    (change = .register unit ∧ key = normalizeSymbol unit.symbol ∧
      registry.bound.get? key = none) ∨
      change ≠ .restore ∧ registry.user.get? key = some unit := by
  cases change with
  | register other =>
      cases found : registry.bound.get? (normalizeSymbol other.symbol) with
      | some held =>
          rw [next, perform, register_of_some found] at isUser
          exact .inr ⟨by simp, isUser⟩
      | none =>
          rw [next, perform, register_of_none found] at isUser
          dsimp only at isUser
          rw [Table.get?_put] at isUser
          split at isUser
          · next same =>
              cases isUser
              exact .inl ⟨rfl, same, same ▸ found⟩
          · exact .inr ⟨by simp, isUser⟩
  | addAlias existing new =>
      cases found : registry.bound.get? (normalizeSymbol existing) with
      | some held =>
          rw [next, perform, addAlias_of_some found] at isUser
          exact .inr ⟨by simp, isUser⟩
      | none =>
          rw [next, perform, addAlias_of_none found] at isUser
          exact .inr ⟨by simp, isUser⟩
  | restore => cases isUser

/-- Every user unit was registered by one of the calls. -/
theorem exists_registers (noUser : registry.user = [])
    (isUser : (registry.after changes).user.get? key = some unit) :
    ∃ earlier later, Registers registry changes key unit earlier later := by
  induction changes using List.reverseRecOn with
  | nil =>
      rw [after, List.foldl_nil, noUser] at isUser
      cases isUser
  | append_singleton front change induction =>
      rw [after_append] at isUser
      rcases user_next isUser with ⟨rfl, own, free⟩ | ⟨keeps, before⟩
      · exact ⟨front, [], rfl, own, free, List.not_mem_nil⟩
      · rcases induction before with ⟨earlier, later, registers⟩
        exact ⟨earlier, _, registers.append keeps⟩

theorem Registers.get?_after {earlier later : List Change}
    (registers : Registers registry changes key unit earlier later) :
    (registry.after changes).bound.get? key =
      some ((((registry.after earlier).next (.register unit)).takeovers key later).getLastD
        unit) := by
  have free := registers.free
  rw [registers.own] at free
  have bound : ((registry.after earlier).next (.register unit)).bound.get? key = some unit := by
    rw [next, perform, register_of_none free, registers.own]
    exact Table.get?_put_self ..
  rw [registers.split, after_append, after_cons]
  exact Registry.get?_after bound registers.keeps

theorem user_starting (populate : Bool) : (starting populate).user = [] := by
  cases populate <;> rfl

theorem lookup_of_get? (normal : normalizeSymbol key = key)
    (bound : registry.bound.get? key = some unit) : registry.lookup key = .ok (some unit) := by
  have found : registry.find? key = some unit := by rw [find?_eq_get?, normal, bound]
  exact congrArg Except.ok found

/-- Whatever is done to a registry, each of its user units was registered under its own symbol,
and looking that up gives the unit for which the last alias since then took the symbol over.
If none did, it gives the user unit. -/
theorem lookup_user_unit (populate : Bool) (changes : List Change) (key : String)
    (unit : StandardUnit)
    (isUser : ((starting populate).after changes).user.get? key = some unit) :
    ∃ earlier later, Registers (starting populate) changes key unit earlier later ∧
      ((starting populate).after changes).lookup key =
        .ok (some (((((starting populate).after earlier).next (.register unit)).takeovers key
          later).getLastD unit)) ∧
      ((∀ existing new, Change.addAlias existing new ∈ later → normalizeSymbol new ≠ key) →
        ((starting populate).after changes).lookup key = .ok (some unit)) := by
  rcases exists_registers (user_starting populate) isUser with ⟨earlier, later, registers⟩
  have normal : normalizeSymbol key = key := by
    rw [registers.own, normalizeSymbol_normalizeSymbol]
  have found := lookup_of_get? normal registers.get?_after
  refine ⟨earlier, later, registers, found, fun untouched => ?_⟩
  rw [found, takeovers_eq_nil untouched]
  rfl

/-- A unit of length of one's own. -/
def cubit : StandardUnit := .ofSymbol Dimension.length "cubit"

/-- An alias to another symbol leaves a user unit where it is. -/
theorem lookup_user_unit_cubit :
    let changes : List Change := [.register Catalogue.metre, .register cubit,
      .addAlias "m" "metre", .register cubit, .addAlias "cubit" "ell"]
    ((starting false).after changes).user.get? "cubit" = some cubit ∧
      ((starting false).after changes).lookup "cubit" = .ok (some cubit) := by
  intro changes
  have isUser : ((starting false).after changes).user.get? "cubit" = some cubit := by
    decide +kernel
  rcases lookup_user_unit false changes "cubit" cubit isUser with
    ⟨earlier, later, registers, _, untouched⟩
  refine ⟨isUser, untouched fun existing new member => ?_⟩
  have among : Change.addAlias existing new ∈ changes := by
    rw [registers.split]
    exact List.mem_append_right _ (List.mem_cons_of_mem _ member)
  simp only [changes, List.mem_cons, reduceCtorEq, Change.addAlias.injEq, List.not_mem_nil,
    false_or, or_false] at among
  rcases among with ⟨_, rfl⟩ | ⟨_, rfl⟩ <;> decide +kernel

/-- An alias takes the symbol of a user unit, which is then found nowhere. -/
theorem cubit_taken_over :
    let registry := (starting false).after [.register Catalogue.metre, .register cubit,
      .addAlias "m" "cubit"]
    registry.user.get? "cubit" = some cubit ∧
      registry.lookup "cubit" = .ok (some Catalogue.metre) ∧ Catalogue.metre ≠ cubit := by
  decide +kernel

end Registry
end Metrology
