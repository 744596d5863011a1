import PlainPage.Table

/-!
# Tables as lookups

A table whose names are all different is determined by its names and its lookups.  A
change in place keeps the names; an entry adds at most one.

Main results:

- Theorem `Table.eq_of_get?` says that tables with the same distinct names and the same
  lookups are equal.
- Theorems `Table.names_modify` and `Table.nodup_names_insert` say what changes and
  entries do to the names.
- Theorem `Table.get?_insertAll_eq_some_iff` says what entries under new names do to the
  lookups.
- Definition `Table.Extends` says that a table has all the rows of another one; theorems
  `Table.extends_insertAll` and `Table.Extends.modify` say which changes keep to that.
-/

namespace PlainPage

namespace Table

variable {α : Type}

/-- A lookup in rows finds nothing exactly when the name is missing. -/
theorem find?_eq_none_iff {name : Text} {rows : List (Text × α)} :
    find? name rows = none ↔ name ∉ rows.map (·.1) := by
  induction rows with
  | nil => simp [find?]
  | cons row rest ih =>
    rcases row with ⟨key, value⟩
    by_cases h : key = name
    · simp [find?, h]
    · have hne : name ≠ key := fun heq => h heq.symm
      simp [find?, h, hne, ih]

/-- What a lookup in rows finds stands in one of the rows. -/
theorem mem_of_find? {name : Text} {rows : List (Text × α)} {value : α}
    (h : find? name rows = some value) : (name, value) ∈ rows := by
  induction rows with
  | nil => simp [find?] at h
  | cons row rest ih =>
    rcases row with ⟨key, old⟩
    by_cases hkey : key = name
    · rw [find?, if_pos hkey] at h
      cases h
      simp [hkey]
    · rw [find?, if_neg hkey] at h
      exact List.mem_cons_of_mem _ (ih h)

/-- In rows with distinct names a lookup finds the row of its name. -/
theorem find?_of_mem {name : Text} {rows : List (Text × α)} {value : α}
    (hdistinct : (rows.map (·.1)).Nodup) (hrow : (name, value) ∈ rows) :
    find? name rows = some value := by
  induction rows with
  | nil => cases hrow
  | cons row rest ih =>
    rcases row with ⟨key, old⟩
    rw [List.map_cons, List.nodup_cons] at hdistinct
    rcases List.mem_cons.1 hrow with heq | hrest
    · cases heq
      rw [find?, if_pos rfl]
    · have hkey : key ≠ name := by
        rintro rfl
        exact hdistinct.1 (List.mem_map_of_mem (f := (·.1)) hrest)
      rw [find?, if_neg hkey]
      exact ih hdistinct.2 hrest

/-- A table has a name exactly when one of its rows does. -/
theorem contains_iff_mem_names {table : Table α} {name : Text} :
    table.contains name = true ↔ name ∈ table.names := by
  unfold contains get? names
  cases h : find? name table.rows with
  | none => simp [find?_eq_none_iff.1 h]
  | some value =>
    have hmem := List.mem_map_of_mem (f := (·.1)) (mem_of_find? h)
    simpa using hmem

/-- A name is not contained exactly when nothing is found under it. -/
theorem contains_eq_false_iff {table : Table α} {name : Text} :
    table.contains name = false ↔ table.get? name = none := by
  simp [contains]

/-- Putting a value under a name that is there keeps the names of the rows. -/
theorem names_put_of_mem {name : Text} {rows : List (Text × α)} (h : name ∈ rows.map (·.1))
    (value : α) : (put name value rows).map (·.1) = rows.map (·.1) := by
  induction rows with
  | nil => simp at h
  | cons row rest ih =>
    rcases row with ⟨key, old⟩
    by_cases hkey : key = name
    · simp [put, hkey]
    · have hrest : name ∈ rest.map (·.1) := by
        rcases List.mem_cons.1 h with heq | hmem
        · exact absurd heq.symm hkey
        · exact hmem
      simp [put, hkey, ih hrest]

/-- Putting a value under a new name adds that name at the end. -/
theorem names_put_of_not_mem {name : Text} {rows : List (Text × α)}
    (h : name ∉ rows.map (·.1)) (value : α) :
    (put name value rows).map (·.1) = rows.map (·.1) ++ [name] := by
  induction rows with
  | nil => simp [put]
  | cons row rest ih =>
    rcases row with ⟨key, old⟩
    rw [List.map_cons, List.mem_cons, not_or] at h
    have hkey : key ≠ name := fun heq => h.1 heq.symm
    simp [put, hkey, ih h.2]

/-- A change in place keeps the names. -/
@[simp] theorem names_modify (table : Table α) (name : Text) (f : α → α) :
    (table.modify name f).names = table.names := by
  unfold modify
  cases h : table.get? name with
  | none => rfl
  | some value =>
    have hmem : name ∈ table.names :=
      contains_iff_mem_names.1 (contains_iff.2 ⟨value, h⟩)
    exact names_put_of_mem hmem (f value)

/-- A new name at the end keeps names distinct. -/
theorem nodup_append_singleton {names : List Text} {name : Text} (h : names.Nodup)
    (hnew : name ∉ names) : (names ++ [name]).Nodup := by
  rw [List.nodup_append]
  refine ⟨h, by simp, ?_⟩
  intro a ha b hb
  rw [List.mem_singleton.1 hb]
  exact fun heq => hnew (heq ▸ ha)

/-- An entry keeps distinct names distinct. -/
theorem nodup_names_insert {table : Table α} (h : table.names.Nodup) (name : Text) (value : α) :
    (table.insert name value).names.Nodup := by
  by_cases hmem : name ∈ table.names
  · have hnames : (table.insert name value).names = table.names := names_put_of_mem hmem value
    rw [hnames]
    exact h
  · have hnames : (table.insert name value).names = table.names ++ [name] :=
      names_put_of_not_mem hmem value
    rw [hnames]
    exact nodup_append_singleton h hmem

/-- A lookup after a change in place. -/
theorem get?_modify (table : Table α) (name other : Text) (f : α → α) :
    (table.modify name f).get? other =
      if other = name then (table.get? name).map f else table.get? other := by
  by_cases h : other = name
  · rw [if_pos h, h]
    exact get?_modify_self table name f
  · rw [if_neg h]
    exact get?_modify_of_ne table f h

/-- A change in place is the entry of the changed value. -/
theorem modify_of_get? {table : Table α} {name : Text} {value : α}
    (h : table.get? name = some value) (f : α → α) :
    table.modify name f = table.insert name (f value) := by
  rw [modify, h]

/-! ## Tables with other values -/

section Map

variable {β : Type}

/-- What is found in a mapped table is mapped. -/
theorem find?_map (f : α → β) (name : Text) (rows : List (Text × α)) :
    find? name (rows.map fun row => (row.1, f row.2)) = (find? name rows).map f := by
  induction rows with
  | nil => rfl
  | cons row rest ih =>
    rcases row with ⟨key, value⟩
    by_cases h : key = name <;> simp [find?, h, ih]

/-- A lookup finds the changed value. -/
@[simp] theorem get?_map (table : Table α) (f : α → β) (name : Text) :
    (table.map f).get? name = (table.get? name).map f :=
  find?_map f name table.rows

/-- Changing all values keeps the names. -/
@[simp] theorem contains_map (table : Table α) (f : α → β) (name : Text) :
    (table.map f).contains name = table.contains name := by
  simp [contains]

/-- Mapping may come before or after an entry is put in. -/
theorem put_map (f : α → β) (name : Text) (value : α) (rows : List (Text × α)) :
    put name (f value) (rows.map fun row => (row.1, f row.2)) =
      (put name value rows).map fun row => (row.1, f row.2) := by
  induction rows with
  | nil => rfl
  | cons row rest ih =>
    rcases row with ⟨key, old⟩
    by_cases h : key = name <;> simp [put, h, ih]

/-- A changed value may be entered before or after the others are changed. -/
theorem insert_map (table : Table α) (f : α → β) (name : Text) (value : α) :
    (table.map f).insert name (f value) = (table.insert name value).map f :=
  congrArg Table.mk (put_map f name value table.rows)

end Map

/-- Putting in what is there already changes nothing. -/
theorem put_of_find? {name : Text} {value : α} {rows : List (Text × α)}
    (h : find? name rows = some value) : put name value rows = rows := by
  induction rows with
  | nil => cases h
  | cons row rest ih =>
    rcases row with ⟨key, old⟩
    by_cases hkey : key = name
    · rw [find?, if_pos hkey] at h
      cases h
      rw [put, if_pos hkey]
    · rw [find?, if_neg hkey] at h
      rw [put, if_neg hkey, ih h]

/-- The entry of a value that is there changes nothing. -/
theorem insert_of_get? {table : Table α} {name : Text} {value : α}
    (h : table.get? name = some value) : table.insert name value = table :=
  congrArg Table.mk (put_of_find? h)

/-! ## Many entries -/

/-- After entries under distinct new names, a lookup finds what it found before and what was
entered. -/
theorem get?_insertAll_eq_some_iff {table : Table α} {pairs : List (Text × α)}
    (hdistinct : (pairs.map (·.1)).Nodup)
    (hnew : ∀ name ∈ pairs.map (·.1), table.contains name = false) {name : Text} {value : α} :
    (table.insertAll pairs).get? name = some value ↔
      table.get? name = some value ∨ (name, value) ∈ pairs := by
  induction pairs generalizing table with
  | nil => simp [insertAll]
  | cons pair rest ih =>
    rcases pair with ⟨key, first⟩
    rw [List.map_cons, List.nodup_cons] at hdistinct
    rw [List.map_cons, List.forall_mem_cons] at hnew
    have hrest : ∀ other ∈ rest.map (·.1), (table.insert key first).contains other = false := by
      intro other hother
      have hne : other ≠ key := by
        rintro rfl
        exact hdistinct.1 hother
      rw [contains_insert, hnew.2 other hother]
      simp [hne]
    have hinsert : (table.insertAll ((key, first) :: rest)).get? name = some value ↔
        (table.insert key first).get? name = some value ∨ (name, value) ∈ rest :=
      ih hdistinct.2 hrest
    rw [hinsert, get?_insert, List.mem_cons, Prod.mk.injEq]
    by_cases hname : name = key
    · subst hname
      have hnone : table.get? name = none := contains_eq_false_iff.1 hnew.1
      simp [hnone, eq_comm]
    · simp [hname]

/-! ## Tables with more rows -/

/-- A table that has all the rows of another one. -/
def Extends (table base : Table α) : Prop :=
  ∀ name value, base.get? name = some value → table.get? name = some value

theorem Extends.refl (table : Table α) : table.Extends table :=
  fun _ _ h => h

theorem Extends.trans {table middle base : Table α} (h : table.Extends middle)
    (hbase : middle.Extends base) : table.Extends base :=
  fun name value hget => h name value (hbase name value hget)

/-- Entries under other names leave a lookup alone. -/
theorem get?_insertAll_of_not_mem {name : Text} {pairs : List (Text × α)}
    (h : name ∉ pairs.map (·.1)) (table : Table α) :
    (table.insertAll pairs).get? name = table.get? name := by
  unfold insertAll
  induction pairs generalizing table with
  | nil => rfl
  | cons pair rest ih =>
    rw [List.map_cons, List.mem_cons, not_or] at h
    rw [List.foldl_cons, ih h.2, get?_insert_of_ne table pair.2 h.1]

/-- Entries under new names only add rows. -/
theorem extends_insertAll {table : Table α} {pairs : List (Text × α)}
    (h : ∀ name ∈ pairs.map (·.1), table.contains name = false) :
    (table.insertAll pairs).Extends table := by
  intro name value hget
  have hname : name ∉ pairs.map (·.1) := by
    intro hmem
    have hnew := h name hmem
    rw [contains_iff.2 ⟨value, hget⟩] at hnew
    cases hnew
  rw [get?_insertAll_of_not_mem hname]
  exact hget

/-- A change in place keeps the rows of the smaller table in the larger one. -/
theorem Extends.modify {table base : Table α} (h : table.Extends base) (name : Text)
    (f : α → α) : (table.modify name f).Extends (base.modify name f) := by
  intro other value hget
  rw [get?_modify] at hget ⊢
  by_cases hother : other = name
  · rw [if_pos hother] at hget ⊢
    rcases Option.map_eq_some_iff.1 hget with ⟨old, hold, hf⟩
    rw [h name old hold, Option.map_some, hf]
  · rw [if_neg hother] at hget ⊢
    exact h other value hget

/-! ## Equal tables -/

/-- Rows with the same distinct names and the same lookups are equal. -/
theorem rows_eq_of_find? {rows others : List (Text × α)}
    (hnames : rows.map (·.1) = others.map (·.1)) (hdistinct : (rows.map (·.1)).Nodup)
    (h : ∀ name, find? name rows = find? name others) : rows = others := by
  induction rows generalizing others with
  | nil =>
    cases others with
    | nil => rfl
    | cons other rest => simp at hnames
  | cons row rest ih =>
    cases others with
    | nil => simp at hnames
    | cons other more =>
      rcases row with ⟨key, value⟩
      rcases other with ⟨name, old⟩
      simp only [List.map_cons, List.cons.injEq] at hnames
      rcases hnames with ⟨rfl, hrest⟩
      rw [List.map_cons, List.nodup_cons] at hdistinct
      have hvalue : value = old := by simpa [find?] using h key
      have hmore : ∀ other, find? other rest = find? other more := by
        intro other
        by_cases hkey : key = other
        · have hfresh : other ∉ rest.map (·.1) := hkey ▸ hdistinct.1
          rw [find?_eq_none_iff.2 hfresh, find?_eq_none_iff.2 (hrest ▸ hfresh)]
        · simpa [find?, hkey] using h other
      rw [hvalue, ih hrest hdistinct.2 hmore]

/-- Tables with the same distinct names and the same lookups are equal. -/
theorem eq_of_get? {table other : Table α} (hnames : table.names = other.names)
    (hdistinct : table.names.Nodup) (h : ∀ name, table.get? name = other.get? name) :
    table = other := by
  have hrows : table.rows = other.rows := rows_eq_of_find? hnames hdistinct h
  cases table
  cases other
  exact congrArg Table.mk hrows

end Table

end PlainPage
