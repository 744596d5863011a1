import PlainPage.Argument
import PlainPage.Filter.Basic
import PlainPage.Layout.Alignment
import PlainPage.Table

/-!
# The filters of every document

Underlined blocks, margins, two columns and list items.

Main results:

- Theorem `length_ruleBeneath` says that a rule is as wide as the line above it.
- Theorem `length_beside` gives the number of rows of two columns.
- Definition `Filter.standard` is the table of these filters.
-/

namespace PlainPage

/-! ## Underlined blocks -/

/-- A dash beneath every visible character of a line. -/
def ruleBeneath (line : Text) : Text :=
  line.map fun c => if isWhite c then c else '-'

/-- A rule is as wide as the line above it. -/
@[simp] theorem length_ruleBeneath (line : Text) : (ruleBeneath line).length = line.length := by
  simp [ruleBeneath]

/-- Follow every line with a rule beneath its visible characters. -/
def Filter.underline : Filter where
  close lines _ _ := .ok (lines.flatMap fun line => [line, ruleBeneath line])

/-! ## Margins -/

/-- The name of the filter that indents a block. -/
def marginName : Text := "margin".toList

/-- The number of columns that a margin takes. -/
def marginColumns : List Text → Except DocumentError Nat
  | [] => .error (.unusableWord marginName [] "expected a column count".toList)
  | raw :: _ => readCount marginName raw "expected a column count"

/-- Indent a block, and narrow the page by as much inside it. -/
def Filter.margin : Filter where
  opening args :=
    match marginColumns args with
    | .error error => .fail error
    | .ok size => .inspect fun width _ => .write (.width (width - size)) .done
  close lines args _ := do
    let size ← marginColumns args
    return lines.map (Text.spaces size ++ ·)

/-! ## Two columns -/

/-- The width of each of two columns on a page: half of it, less one for the gutter. -/
def halfColumn (width : Nat) : Nat :=
  width / 2 - 1

/-- Lines side by side: each left line is padded to the column and followed by the
gutter and its right neighbour.  A left line without a neighbour gets blanks. -/
def beside (column : Nat) (gutter : Text) : (left right : List Text) → List Text
  | [], _ => []
  | line :: left, right =>
    let cell := Alignment.left.pad column line
    (cell ++ gutter ++ right.head?.getD (Text.spaces cell.length))
      :: beside column gutter left right.tail

/-- Every left line makes one row. -/
@[simp] theorem length_beside (column : Nat) (gutter : Text) (left right : List Text) :
    (beside column gutter left right).length = left.length := by
  induction left generalizing right with
  | nil => rfl
  | cons line left ih => simp [beside, ih]

/-- Lay a block out in two columns, the first half of its lines on the left. -/
def Filter.twoColumns : Filter where
  opening _ := .inspect fun width _ => .write (.width (halfColumn width)) .done
  close lines _ settings :=
    let column := halfColumn settings.width
    let gutter := Text.spaces (settings.width - 2 * column)
    let rows := (lines.length + 1) / 2
    .ok (beside column gutter (lines.take rows) (lines.drop rows))

/-! ## List items -/

/-- The columns that a bullet takes. -/
def bulletColumns : Nat := 2

/-- Put a bullet in front of the first line of a block and blanks in front of the
others; inside, the page is narrower and paragraphs open without indent. -/
def Filter.listItem : Filter where
  opening _ := .inspect fun width _ =>
    .write (.width (width - bulletColumns)) <|
      .write (.typed Settings.indentName (.switch false)) .done
  close lines _ _ :=
    match lines with
    | [] => .ok []
    | first :: rest =>
      .ok (("- ".toList ++ first) :: rest.map ("  ".toList ++ ·))

/-! ## The table -/

/-- The filters of every document. -/
def Filter.standard : Table Filter :=
  Table.empty.insertAll
    [("underline".toList, Filter.underline), (marginName, Filter.margin),
     ("twocols".toList, Filter.twoColumns), ("li".toList, Filter.listItem)]

end PlainPage
