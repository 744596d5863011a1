import PlainPage.Proofs.Filter.Standard

/-!
# Two columns are read back

A block in two columns puts the first half of its lines on the left, and each of the others
beside the line that many lines before it.  When all lines fill the column, nothing is cut and
nothing is put in between but the gutter: the cells on the left, and then the cells on the
right, are the lines.  An odd number of lines leaves one cell blank at the end.

Main results:

- Theorems `leftCells_beside` and `rightCells_beside` say which cells stand in the rows.
- Theorem `Filter.twoColumns_reads_back` says that the rows of a closed block have the width
  of the page and hold its lines in order.
-/

namespace PlainPage

/-! ## The cells of a row -/

/-- The first column of rows, from top to bottom. -/
def leftCells (column : Nat) (rows : List Text) : List Text :=
  rows.map (·.take column)

/-- The last column of rows, from top to bottom. -/
def rightCells (column : Nat) (rows : List Text) : List Text :=
  rows.map fun row => row.drop (row.length - column)

/-- The left cell of a row is read from its front. -/
theorem take_row {column : Nat} {cell : Text} (h : cell.length = column) (rest : Text) :
    (cell ++ rest).take column = cell := by
  rw [← h]
  exact List.take_left

/-- The right cell of a row is read from its end. -/
theorem drop_row {column : Nat} {cell : Text} (h : cell.length = column) (before : Text) :
    (before ++ cell).drop ((before ++ cell).length - column) = cell := by
  have hbefore : (before ++ cell).length - column = before.length := by
    rw [List.length_append, h]
    omega
  rw [hbefore]
  exact List.drop_left

/-! ## Lines side by side -/

section Beside

variable {column : Nat} {gutter : Text} {left right : List Text}

/-- A line that fills the column stands in its row as it is. -/
theorem beside_cons {line : Text} (h : line.length = column) :
    beside column gutter (line :: left) right =
      (line ++ gutter ++ right.head?.getD (Text.spaces column)) ::
        beside column gutter left right.tail := by
  rw [beside, Alignment.pad_of_le (Nat.le_of_eq h.symm), h]

/-- The lines on the left are the first column. -/
theorem leftCells_beside (h : ∀ line ∈ left, line.length = column) :
    leftCells column (beside column gutter left right) = left := by
  induction left generalizing right with
  | nil => rfl
  | cons line left ih =>
    rcases List.forall_mem_cons.1 h with ⟨hline, hrest⟩
    rw [beside_cons hline, List.append_assoc, leftCells, List.map_cons, take_row hline]
    exact congrArg (line :: ·) (ih hrest)

/-- The lines on the right are the last column, with blanks beneath them. -/
theorem rightCells_beside (hleft : ∀ line ∈ left, line.length = column)
    (hright : ∀ line ∈ right, line.length = column) (hle : right.length ≤ left.length) :
    rightCells column (beside column gutter left right) =
      right ++ List.replicate (left.length - right.length) (Text.spaces column) := by
  induction left generalizing right with
  | nil =>
    rw [List.length_nil, Nat.le_zero, List.length_eq_zero_iff] at hle
    subst hle
    rfl
  | cons line left ih =>
    rcases List.forall_mem_cons.1 hleft with ⟨hline, hrest⟩
    rw [beside_cons hline, rightCells, List.map_cons]
    cases right with
    | nil =>
      have hblank := @ih [] hrest (by simp) (Nat.zero_le _)
      rw [List.head?_nil, Option.getD_none, drop_row (Text.length_spaces column), List.tail_nil]
      exact congrArg (Text.spaces column :: ·) hblank
    | cons neighbour right =>
      rcases List.forall_mem_cons.1 hright with ⟨hneighbour, hothers⟩
      have hrows := ih hrest hothers (Nat.le_of_succ_le_succ hle)
      rw [List.head?_cons, Option.getD_some, drop_row hneighbour, List.tail_cons,
        List.length_cons, List.length_cons, Nat.add_sub_add_right]
      exact congrArg (neighbour :: ·) hrows

end Beside

/-! ## A block that closes -/

namespace Filter

/-- A block in two columns whose lines fill the column makes half as many rows, each as wide
as the page.  The first column and then the last column of the rows are the lines of the block
in order, and a blank cell if their number is odd. -/
theorem twoColumns_reads_back (lines args : List Text) (s : Settings)
    (h : ∀ line ∈ lines, line.length = halfColumn s.width) :
    ∃ rows, twoColumns.close lines args s = .ok rows ∧
      rows.length = (lines.length + 1) / 2 ∧ (∀ row ∈ rows, row.length = s.width) ∧
      leftCells (halfColumn s.width) rows ++ rightCells (halfColumn s.width) rows =
        lines ++ if lines.length % 2 = 1 then [Text.spaces (halfColumn s.width)] else [] := by
  have hleft : ∀ line ∈ lines.take ((lines.length + 1) / 2), line.length = halfColumn s.width :=
    fun line hline => h line (List.mem_of_mem_take hline)
  have hright : ∀ line ∈ lines.drop ((lines.length + 1) / 2), line.length = halfColumn s.width :=
    fun line hline => h line (List.mem_of_mem_drop hline)
  have hlength : (lines.take ((lines.length + 1) / 2)).length = (lines.length + 1) / 2 := by
    rw [List.length_take]
    omega
  have hle : (lines.drop ((lines.length + 1) / 2)).length ≤
      (lines.take ((lines.length + 1) / 2)).length := by
    rw [hlength, List.length_drop]
    omega
  refine ⟨_, rfl, ?_, ?_, ?_⟩
  · rw [length_beside, hlength]
  · intro row hrow
    rw [length_of_mem_beside hleft hright row hrow, Text.length_spaces]
    unfold halfColumn
    omega
  · rw [leftCells_beside hleft, rightCells_beside hleft hright hle, ← List.append_assoc,
      List.take_append_drop, hlength, List.length_drop]
    congr 1
    -- The halves differ by the one line that an odd number leaves over.
    rcases Nat.mod_two_eq_zero_or_one lines.length with heven | hodd
    · have hnone : (lines.length + 1) / 2 - (lines.length - (lines.length + 1) / 2) = 0 := by omega
      rw [hnone, if_neg (by omega)]
      rfl
    · have hone : (lines.length + 1) / 2 - (lines.length - (lines.length + 1) / 2) = 1 := by omega
      rw [hone, if_pos hodd]
      rfl

/-- Three lines in two columns of four, with a gutter of three between them. -/
theorem twoColumns_reads_back_three :
    let lines := ["once".toList, "upon".toList, "time".toList]
    let s := Settings.start 11 .left false
    ∃ rows, twoColumns.close lines [] s = .ok rows ∧ rows.length = 2 ∧
      (∀ row ∈ rows, row.length = 11) ∧
      leftCells 4 rows ++ rightCells 4 rows = lines ++ ["    ".toList] :=
  twoColumns_reads_back ["once".toList, "upon".toList, "time".toList] []
    (Settings.start 11 .left false) (by decide)

end Filter

end PlainPage
