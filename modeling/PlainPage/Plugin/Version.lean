import PlainPage.Text.Decimal

/-!
# Versions

A version has three numbers; the later ones may be left out and then count as zero.
Versions are ordered by their numbers, the first difference deciding.

Main results:

- Definitions `Version.text` and `Version.ofText?` write and read versions.
- Theorem `Version.ofPieces?_text` says that the pieces of a written version read
  back as that version.
-/

namespace PlainPage

/-- A version of a plugin. -/
structure Version where
  major : Nat
  minor : Nat := 0
  patch : Nat := 0
  deriving DecidableEq, Repr

namespace Version

/-- The text of a version: all three numbers, with points between them. -/
def text (v : Version) : Text :=
  List.intercalate ['.'] [decimal v.major, decimal v.minor, decimal v.patch]

/-- The version that one to three numbers stand for. -/
def ofNumbers? : List Nat → Option Version
  | [major] => some { major }
  | [major, minor] => some { major, minor }
  | [major, minor, patch] => some { major, minor, patch }
  | _ => none

/-- The version that the pieces between the points stand for. -/
def ofPieces? (pieces : List Text) : Option Version := do
  ofNumbers? (← pieces.mapM count?)

/-- Read a version; white space around it does not count. -/
def ofText? (t : Text) : Option Version :=
  ofPieces? (List.splitOn '.' (Text.trim t))

/-- Versions are compared number by number. -/
instance : Ord Version where
  compare v w :=
    (compare v.major w.major).then ((compare v.minor w.minor).then (compare v.patch w.patch))

/-- Whether one version comes before another. -/
def isBefore (v w : Version) : Bool :=
  compare v w == .lt

/-- Whether every number of a version fits 64 bits. -/
def Bounded (v : Version) : Prop :=
  v.major ≤ maxCount ∧ v.minor ≤ maxCount ∧ v.patch ≤ maxCount

/-- The pieces of a written version read back as that version. -/
theorem ofPieces?_text {v : Version} (h : v.Bounded) :
    ofPieces? [decimal v.major, decimal v.minor, decimal v.patch] = some v := by
  obtain ⟨h₁, h₂, h₃⟩ := h
  simp [ofPieces?, count?_decimal h₁, count?_decimal h₂, count?_decimal h₃, ofNumbers?]

end Version

end PlainPage
