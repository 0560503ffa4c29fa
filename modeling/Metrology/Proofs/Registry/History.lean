import Mathlib
import Metrology.Proofs.Registry.Populated
import Metrology.Proofs.Text.Trimming

/-!
What a registry holds after any calls that change it. Registering takes a free symbol,
an alias may take any, and restoring goes back to the catalogue; a call that fails leaves
the registry as it is. A symbol that a bound unit has by itself never becomes free again
other than by restoring, which is why no second unit of that symbol can come in.
-/

namespace Metrology

/-- The form under which a symbol is bound is the form under which it is bound. -/
@[simp] theorem normalizeSymbol_normalizeSymbol (symbol : String) :
    normalizeSymbol (normalizeSymbol symbol) = normalizeSymbol symbol := by
  have trimmed := (isTrimmed_stripBlanks symbol.toList).composed
  rw [normalizeSymbol, normalizeSymbol, String.toList_ofList, stripBlanks_of_isTrimmed trimmed,
    composed_composed]

namespace Registry

/-! ## Calls -/

/-- A call that changes a registry. -/
inductive Change where
  | register (unit : StandardUnit)
  | addAlias (existing new : String)
  | restore

/-- What a call makes of a registry, or why it fails. -/
def perform (registry : UnitRegistry) : Change → Result UnitRegistry
  | .register unit => registry.register unit
  | .addAlias existing new => registry.addAlias existing new
  | .restore => .ok (registry.restore id)

/-- The registry after a call; a call that fails changes nothing. -/
def next (registry : UnitRegistry) (change : Change) : UnitRegistry :=
  match registry.perform change with
  | .ok changed => changed
  | .error _ => registry

/-- The registry after a sequence of calls. -/
def after (registry : UnitRegistry) (changes : List Change) : UnitRegistry :=
  changes.foldl next registry

/-- A registry when it is made: with the catalogue or without anything. -/
def starting (populate : Bool) : UnitRegistry := if populate then populated else empty

variable {registry changed : UnitRegistry} {unit : StandardUnit} {existing new : String}

theorem register_of_some {held : StandardUnit}
    (taken : registry.bound.get? (normalizeSymbol unit.symbol) = some held) :
    registry.register unit = .error (.symbolTaken (normalizeSymbol unit.symbol)) := by
  change (if (registry.bound.get? (normalizeSymbol unit.symbol)).isSome = true then _ else _ :
    Result UnitRegistry) = _
  rw [taken]
  rfl

theorem register_of_none (free : registry.bound.get? (normalizeSymbol unit.symbol) = none) :
    registry.register unit = .ok ⟨registry.bound.put (normalizeSymbol unit.symbol) unit,
      registry.user.put (normalizeSymbol unit.symbol) unit⟩ := by
  change (if (registry.bound.get? (normalizeSymbol unit.symbol)).isSome = true then _ else _ :
    Result UnitRegistry) = _
  rw [free]
  rfl

theorem normalize_eq (symbol : String) :
    Symbol.normalize symbol = .ok (normalizeSymbol symbol) := rfl

theorem addAlias_of_some (found : registry.bound.get? (normalizeSymbol existing) = some unit) :
    registry.addAlias existing new =
      .ok { registry with bound := registry.bound.put (normalizeSymbol new) unit } := by
  rw [Registry.addAlias, normalize_eq, Result.ok_bind, found]
  rfl

theorem addAlias_of_none (missing : registry.bound.get? (normalizeSymbol existing) = none) :
    registry.addAlias existing new = .error (.unknownAliasSource existing) := by
  rw [Registry.addAlias, normalize_eq, Result.ok_bind, missing]
  rfl

/-! ## Consistency -/

/-- What holds of the bindings of a registry at all times. -/
structure IsCoherent (bound : Table String StandardUnit) : Prop where
  normal : ∀ key unit, bound.get? key = some unit → normalizeSymbol key = key
  ownBound : ∀ key unit, bound.get? key = some unit →
    ∃ own, bound.get? (normalizeSymbol unit.symbol) = some own
  unique : ∀ first second left right, bound.get? first = some left →
    bound.get? second = some right →
      normalizeSymbol left.symbol = normalizeSymbol right.symbol → left = right

/-- What holds of a registry at all times. -/
structure IsConsistent (registry : UnitRegistry) : Prop extends IsCoherent registry.bound where
  userOwn : ∀ key unit, registry.user.get? key = some unit → key = normalizeSymbol unit.symbol
  userBound : ∀ key unit, registry.user.get? key = some unit →
    ∃ held, registry.bound.get? key = some held

theorem exists_get?_put {bound : Table String StandardUnit} {key other : String}
    {held : StandardUnit} (found : bound.get? other = some held) (unit : StandardUnit) :
    ∃ now, (bound.put key unit).get? other = some now := by
  rw [Table.get?_put]
  split
  · exact ⟨unit, rfl⟩
  · exact ⟨held, found⟩

/-- A unit may be bound to a symbol if its own symbol is bound then, and if no other unit
of that symbol is bound already. -/
theorem IsCoherent.put {bound : Table String StandardUnit} {key : String} {unit : StandardUnit}
    (coherent : IsCoherent bound) (normal : normalizeSymbol key = key)
    (ownBound : ∃ own, (bound.put key unit).get? (normalizeSymbol unit.symbol) = some own)
    (unique : ∀ other held, bound.get? other = some held →
      normalizeSymbol held.symbol = normalizeSymbol unit.symbol → held = unit) :
    IsCoherent (bound.put key unit) where
  normal := by
    intro other held found
    rw [Table.get?_put] at found
    split at found
    · next same => rw [same, normal]
    · exact coherent.normal other held found
  ownBound := by
    intro other held found
    rw [Table.get?_put] at found
    split at found
    · rw [← Option.some.inj found]
      exact ownBound
    · rcases coherent.ownBound other held found with ⟨own, before⟩
      exact exists_get?_put before unit
  unique := by
    intro first second left right foundLeft foundRight same
    rw [Table.get?_put] at foundLeft foundRight
    -- Either of the two symbols may be the one that was just put.
    split at foundLeft <;> split at foundRight
    · exact Option.some.inj (foundLeft.symm.trans foundRight)
    · rw [← Option.some.inj foundLeft] at same ⊢
      exact (unique second right foundRight same.symm).symm
    · rw [← Option.some.inj foundRight] at same ⊢
      exact unique first left foundLeft same
    · exact coherent.unique first second left right foundLeft foundRight same

namespace IsConsistent

/-- Where every unit is bound under its own symbol alone, nothing can be amiss. -/
theorem of_own
    (own : ∀ key unit, registry.bound.get? key = some unit → key = normalizeSymbol unit.symbol)
    (noUser : registry.user = []) : IsConsistent registry where
  normal := by
    intro key unit found
    rw [own key unit found, normalizeSymbol_normalizeSymbol]
  ownBound := by
    intro key unit found
    exact ⟨unit, own key unit found ▸ found⟩
  unique := by
    intro first second left right foundLeft foundRight same
    have keys : first = second := by
      rw [own first left foundLeft, own second right foundRight, same]
    exact Option.some.inj ((keys ▸ foundLeft).symm.trans foundRight)
  userOwn := by simp [noUser, Table.get?]
  userBound := by simp [noUser, Table.get?]

theorem empty : IsConsistent empty := of_own (by simp [Registry.empty, Table.get?]) rfl

theorem populated : IsConsistent populated := by
  refine of_own (fun key unit found => ?_) rfl
  simp only [Registry.populated, ofCatalogue] at found
  exact (symbol_of_get?_foldl_bindOwn found).1

variable (consistent : IsConsistent registry)

include consistent

theorem register (free : registry.bound.get? (normalizeSymbol unit.symbol) = none) :
    IsConsistent ⟨registry.bound.put (normalizeSymbol unit.symbol) unit,
      registry.user.put (normalizeSymbol unit.symbol) unit⟩ where
  toIsCoherent := by
    refine consistent.put (normalizeSymbol_normalizeSymbol _) ⟨unit, Table.get?_put_self ..⟩ ?_
    -- The symbol of a unit that is bound is not free.
    intro other held found same
    rcases consistent.ownBound other held found with ⟨own, bound⟩
    rw [same, free] at bound
    cases bound
  userOwn := by
    intro key held found
    rw [Table.get?_put] at found
    split at found
    · next same => rw [same, Option.some.inj found]
    · exact consistent.userOwn key held found
  userBound := by
    intro key held found
    rw [Table.get?_put] at found ⊢
    split at found
    · next same => exact ⟨unit, if_pos same⟩
    · next different =>
        rw [if_neg different]
        exact consistent.userBound key held found

theorem addAlias (found : registry.bound.get? (normalizeSymbol existing) = some unit)
    (new : String) :
    IsConsistent { registry with bound := registry.bound.put (normalizeSymbol new) unit } where
  toIsCoherent := by
    rcases consistent.ownBound _ unit found with ⟨own, bound⟩
    exact consistent.put (normalizeSymbol_normalizeSymbol new) (exists_get?_put bound unit)
      fun other held heldFound => consistent.unique other _ held unit heldFound found
  userOwn := consistent.userOwn
  userBound := by
    intro key held isUser
    rcases consistent.userBound key held isUser with ⟨before, bound⟩
    exact exists_get?_put bound unit

end IsConsistent

/-! ## Every call -/

theorem isConsistent_next (consistent : IsConsistent registry) (change : Change) :
    IsConsistent (registry.next change) := by
  cases change with
  | register unit =>
      cases bound : registry.bound.get? (normalizeSymbol unit.symbol) with
      | none =>
          rw [next, perform, register_of_none bound]
          exact consistent.register bound
      | some held =>
          rw [next, perform, register_of_some bound]
          exact consistent
  | addAlias existing new =>
      cases bound : registry.bound.get? (normalizeSymbol existing) with
      | none =>
          rw [next, perform, addAlias_of_none bound]
          exact consistent
      | some unit =>
          rw [next, perform, addAlias_of_some bound]
          exact consistent.addAlias bound new
  | restore => exact IsConsistent.populated

theorem isConsistent_starting (populate : Bool) : IsConsistent (starting populate) := by
  cases populate with
  | false => exact IsConsistent.empty
  | true => exact IsConsistent.populated

theorem isConsistent_after (consistent : IsConsistent registry) (changes : List Change) :
    IsConsistent (registry.after changes) := by
  induction changes generalizing registry with
  | nil => exact consistent
  | cons change changes induction => exact induction (isConsistent_next consistent change)

/-- What a call does to a registry: why it fails, and what can be looked up otherwise. -/
structure Effects (registry : UnitRegistry) : Prop where
  unchanged : ∀ change fault, registry.perform change = .error fault →
    registry.next change = registry
  taken : ∀ unit, registry.contains unit.symbol = true →
    registry.perform (.register unit) = .error (.symbolTaken (normalizeSymbol unit.symbol))
  registered : ∀ unit, registry.contains unit.symbol = false →
    ∃ changed, registry.perform (.register unit) = .ok changed ∧
      ∀ spelling, changed.find? spelling =
        if normalizeSymbol spelling = normalizeSymbol unit.symbol then some unit
        else registry.find? spelling
  unknown : ∀ existing new, registry.contains existing = false →
    registry.perform (.addAlias existing new) = .error (.unknownAliasSource existing)
  aliased : ∀ existing new, registry.contains existing = true →
    ∃ changed, registry.perform (.addAlias existing new) = .ok changed ∧
      changed.user = registry.user ∧
      ∀ spelling, changed.find? spelling =
        if normalizeSymbol spelling = normalizeSymbol new then registry.find? existing
        else registry.find? spelling

theorem get?_of_contains {symbol : String} (bound : registry.contains symbol = true) :
    ∃ unit, registry.bound.get? (normalizeSymbol symbol) = some unit := by
  rw [contains, find?_eq_get?] at bound
  exact Option.isSome_iff_exists.mp bound

theorem get?_of_not_contains {symbol : String} (free : registry.contains symbol = false) :
    registry.bound.get? (normalizeSymbol symbol) = none := by
  rw [contains, find?_eq_get?] at free
  simpa using free

theorem effects (registry : UnitRegistry) : Effects registry where
  unchanged := by
    intro change fault failed
    rw [next, failed]
  taken := by
    intro unit bound
    rcases get?_of_contains bound with ⟨held, found⟩
    exact register_of_some found
  registered := by
    intro unit free
    refine ⟨_, register_of_none (get?_of_not_contains free), fun spelling => ?_⟩
    rw [find?_eq_get?, find?_eq_get?, Table.get?_put]
  unknown := by
    intro existing new free
    exact addAlias_of_none (get?_of_not_contains free)
  aliased := by
    intro existing new bound
    rcases get?_of_contains bound with ⟨unit, found⟩
    refine ⟨_, addAlias_of_some found, rfl, fun spelling => ?_⟩
    rw [find?_eq_get?, find?_eq_get?, find?_eq_get?, Table.get?_put, found]

/-- Whatever is done to a registry, it stays consistent, and every further call does to it
what it should. -/
theorem changes_keep_consistency (populate : Bool) (changes : List Change) :
    IsConsistent ((starting populate).after changes) ∧
      Effects ((starting populate).after changes) :=
  ⟨isConsistent_after (isConsistent_starting populate) changes, effects _⟩

/-- An alias may take the symbol of another unit, which stays bound to its other symbols. -/
example :
    let registry := (starting false).after [.register Catalogue.metre,
      .register Catalogue.second, .addAlias "s" "sec", .addAlias "m" "s"]
    registry.find? "s" = some Catalogue.metre ∧ registry.find? "sec" = some Catalogue.second := by
  decide +kernel

end Registry
end Metrology
