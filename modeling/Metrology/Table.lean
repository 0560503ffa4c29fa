/-!
Tables that remember the order of insertion. Putting a key that is already there
replaces its value in place and keeps the key that was put first.
-/

namespace Metrology

abbrev Table (κ α : Type) : Type := List (κ × α)

namespace Table

variable {κ α : Type}

def keys (table : Table κ α) : List κ := table.map (·.1)

variable [BEq κ]

def get? (table : Table κ α) (key : κ) : Option α := table.lookup key

def contains (table : Table κ α) (key : κ) : Bool := (table.get? key).isSome

def put (key : κ) (value : α) : Table κ α → Table κ α
  | [] => [(key, value)]
  | (other, held) :: rest =>
      if other == key then (other, value) :: rest else (other, held) :: put key value rest

variable [LawfulBEq κ]

/-- What was just put is found. -/
@[simp] theorem get?_put_self (key : κ) (value : α) (table : Table κ α) :
    get? (put key value table) key = some value := by
  induction table with
  | nil => simp [put, get?]
  | cons entry rest induction =>
      obtain ⟨other, held⟩ := entry
      by_cases same : other = key
      · simp [put, get?, same]
      · have different : (key == other) = false := by simpa using fun equal => same equal.symm
        simpa [put, get?, same, List.lookup_cons, different] using induction

/-- No other key is touched. -/
theorem get?_put_of_ne {key other : κ} (different : other ≠ key) (value : α)
    (table : Table κ α) : get? (put key value table) other = get? table other := by
  induction table with
  | nil =>
      have unequal : (other == key) = false := by simpa using different
      simp [put, get?, List.lookup_cons, unequal]
  | cons entry rest induction =>
      obtain ⟨held, content⟩ := entry
      by_cases same : held = key
      · have unequal : (other == key) = false := by simpa using different
        simp [put, get?, same, List.lookup_cons, unequal]
      · by_cases found : other = held
        · simp [put, get?, same, found]
        · have unequal : (other == held) = false := by simpa using found
          simpa [put, get?, same, List.lookup_cons, unequal] using induction

theorem get?_put [DecidableEq κ] (key other : κ) (value : α) (table : Table κ α) :
    get? (put key value table) other = if other = key then some value else get? table other := by
  split
  · next same => rw [same, get?_put_self]
  · next different => exact get?_put_of_ne different value table

theorem mem_of_get? {key : κ} {value : α} {table : Table κ α}
    (found : table.get? key = some value) : (key, value) ∈ table := by
  rcases List.lookup_eq_some_iff.mp found with ⟨before, after, split, _⟩
  rw [split]
  exact List.mem_append_right _ (List.mem_cons_self ..)

example : put "b" 3 [("a", 1), ("b", 2), ("c", 4)] = [("a", 1), ("b", 3), ("c", 4)] := by decide

end Table
end Metrology
