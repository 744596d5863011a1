import PlainPage.Text.Basic

/-!
# Tables keyed by name

A table holds at most one value per name and keeps its rows in the order in which
the names were first entered.

Main results:

- Theorems `Table.get?_insert_self` and `Table.get?_insert_of_ne` say what an entry
  does to the lookup; `Table.get?_modify_self` and `Table.get?_modify_of_ne` say the
  same of a change in place.
- Theorem `Table.contains_insert` says which names a table has after an entry.
-/

namespace PlainPage

/-- Values keyed by name. -/
structure Table (α : Type) where
  rows : List (Text × α) := []

namespace Table

variable {α : Type}

/-- A table without rows. -/
def empty : Table α := {}

/-- The value under a name in a list of rows. -/
def find? (name : Text) : List (Text × α) → Option α
  | [] => none
  | (key, value) :: rest => if key = name then some value else find? name rest

/-- The rows with `value` under `name`: in place of the old row, or as a new last one. -/
def put (name : Text) (value : α) : List (Text × α) → List (Text × α)
  | [] => [(name, value)]
  | (key, old) :: rest =>
    if key = name then (key, value) :: rest else (key, old) :: put name value rest

/-- The value under a name. -/
def get? (table : Table α) (name : Text) : Option α :=
  find? name table.rows

/-- Whether the table has a row for the name. -/
def contains (table : Table α) (name : Text) : Bool :=
  (table.get? name).isSome

/-- The table with `value` under `name`. -/
def insert (table : Table α) (name : Text) (value : α) : Table α :=
  ⟨put name value table.rows⟩

/-- The table with the value under `name` changed by `f`, if there is one. -/
def modify (table : Table α) (name : Text) (f : α → α) : Table α :=
  match table.get? name with
  | none => table
  | some value => table.insert name (f value)

/-- The table with every value changed by `f`. -/
def map {β : Type} (table : Table α) (f : α → β) : Table β :=
  ⟨table.rows.map fun row => (row.1, f row.2)⟩

/-- The names of the rows, in order of entry. -/
def names (table : Table α) : List Text :=
  table.rows.map (·.1)

/-- The table with each pair entered in turn. -/
def insertAll (table : Table α) (pairs : List (Text × α)) : Table α :=
  pairs.foldl (fun table pair => table.insert pair.1 pair.2) table

/-! ## Lookups -/

theorem find?_put_self (name : Text) (value : α) (rows : List (Text × α)) :
    find? name (put name value rows) = some value := by
  induction rows with
  | nil => simp [put, find?]
  | cons row rest ih =>
    obtain ⟨key, old⟩ := row
    by_cases h : key = name <;> simp [put, find?, h, ih]

theorem find?_put_of_ne {name other : Text} (h : other ≠ name) (value : α)
    (rows : List (Text × α)) : find? other (put name value rows) = find? other rows := by
  induction rows with
  | nil => simp [put, find?, h.symm]
  | cons row rest ih =>
    obtain ⟨key, old⟩ := row
    by_cases hkey : key = name
    · simp [put, find?, hkey, h.symm]
    · by_cases hother : key = other <;> simp [put, find?, hkey, hother, h, ih]

@[simp] theorem get?_empty (name : Text) : (empty : Table α).get? name = none := rfl

/-- The entered value is found under its name. -/
@[simp] theorem get?_insert_self (table : Table α) (name : Text) (value : α) :
    (table.insert name value).get? name = some value :=
  find?_put_self name value table.rows

/-- An entry changes no other name. -/
theorem get?_insert_of_ne {name other : Text} (table : Table α) (value : α) (h : other ≠ name) :
    (table.insert name value).get? other = table.get? other :=
  find?_put_of_ne h value table.rows

/-- A lookup after an entry. -/
theorem get?_insert (table : Table α) (name other : Text) (value : α) :
    (table.insert name value).get? other =
      if other = name then some value else table.get? other := by
  by_cases h : other = name
  · simp [h]
  · simp [h, get?_insert_of_ne table value h]

/-- A change in place reaches the value under its name. -/
theorem get?_modify_self (table : Table α) (name : Text) (f : α → α) :
    (table.modify name f).get? name = (table.get? name).map f := by
  unfold modify
  cases h : table.get? name with
  | none => simp [h]
  | some value => simp

/-- A change in place leaves the other names alone. -/
theorem get?_modify_of_ne {name other : Text} (table : Table α) (f : α → α) (h : other ≠ name) :
    (table.modify name f).get? other = table.get? other := by
  unfold modify
  cases table.get? name with
  | none => rfl
  | some value => exact get?_insert_of_ne table _ h

/-- A name is present when the lookup finds something. -/
theorem contains_iff {table : Table α} {name : Text} :
    table.contains name = true ↔ ∃ value, table.get? name = some value := by
  simp [contains, Option.isSome_iff_exists]

/-- After an entry the table has that name and those it had before. -/
theorem contains_insert (table : Table α) (name other : Text) (value : α) :
    (table.insert name value).contains other = (decide (other = name) || table.contains other) := by
  by_cases h : other = name
  · simp [contains, h]
  · simp [contains, get?_insert_of_ne table value h, h]

end Table

end PlainPage
