/-!
# Character classes

Classes of characters given by rows of evenly spaced code points, and rows that
move characters by a fixed distance.  Long alternating stretches of the Unicode
tables (an upper case letter, its lower case letter, the next upper case letter)
take one row each.

Main results:

- Theorem `CharClass.has_iff` says what membership in a class means.
- Theorem `Shift.send?_of_has` says where a row sends the characters it covers.
-/

namespace PlainPage

/-- The code points `first`, `first + step`, …, up to `last`. -/
structure CharRow where
  first : Nat
  last : Nat
  step : Nat
  deriving DecidableEq, Repr

/-- Whether a character stands on the row. -/
def CharRow.has (row : CharRow) (c : Char) : Bool :=
  row.first ≤ c.toNat && c.toNat ≤ row.last && (c.toNat - row.first) % row.step == 0

/-- A class of characters, as the rows that make it up. -/
abbrev CharClass := List CharRow

/-- Whether a character belongs to the class. -/
def CharClass.has (rows : CharClass) (c : Char) : Bool :=
  rows.any (·.has c)

/-- A character belongs to a class when one of the rows holds it. -/
theorem CharClass.has_iff {rows : CharClass} {c : Char} :
    rows.has c = true ↔ ∃ row ∈ rows, row.has c = true := by
  simp [CharClass.has]

/-- A row of characters that all move by the same distance. -/
structure Shift where
  row : CharRow
  delta : Int
  deriving DecidableEq, Repr

/-- The character a row sends `c` to, if the row holds `c`. -/
def Shift.send? (shift : Shift) (c : Char) : Option Char :=
  if shift.row.has c then some (Char.ofNat (c.toNat + shift.delta).toNat) else none

/-- A row sends each of its characters by its distance. -/
theorem Shift.send?_of_has {shift : Shift} {c : Char} (h : shift.row.has c = true) :
    shift.send? c = some (Char.ofNat (c.toNat + shift.delta).toNat) := by
  simp [Shift.send?, h]

/-- A row leaves alone the characters that it does not hold. -/
theorem Shift.send?_eq_none_iff {shift : Shift} {c : Char} :
    shift.send? c = none ↔ shift.row.has c = false := by
  simp [Shift.send?]

/-- A row sends only characters that it holds. -/
theorem Shift.has_of_send? {shift : Shift} {c d : Char} (h : shift.send? c = some d) :
    shift.row.has c = true := by
  cases hhas : shift.row.has c with
  | true => rfl
  | false =>
    rw [Shift.send?_eq_none_iff.2 hhas] at h
    cases h

end PlainPage
